import NewApi.Relay.Loop

/-!
# A pre-charged request is settled or refunded, unless its first attempt panics

The refund hangs on the error variable, and the error variable is set by attempts that return. From the second attempt on it
holds the error of the attempt before, so even a panic refunds. A panic of the first attempt finds it unset, and so does a
loop that makes no attempt: the pre-charge is then kept.
-/

namespace NewApi

variable {ρ : Type}

/-- The attempt gets as far as the conversion, and the conversion panics on the request. -/
def Attempt.panicsOn (a : Attempt ρ) (req : ρ) : Bool :=
  a.channel.isNone && a.body.isNone && a.prepare.isNone && !a.passThrough && (a.convert req).panics

namespace RelayAux

/-- An attempt that gets to its handler panics exactly on such a request. -/
theorem handle_panic_iff {a : Attempt ρ} (req : ρ) (hc : a.channel = none) (hb : a.body = none) :
    a.handle req = .panic ↔ a.panicsOn req = true := by
  unfold Attempt.handle Attempt.panicsOn
  cases hp : a.prepare with
  | some e => simp
  | none =>
    cases ht : a.passThrough with
    | true => cases hu : a.upstream <;> simp
    | false =>
      cases hv : a.convert req with
      | panic m => simp [hc, hb, Outcome.panics]
      | error m => simp [Outcome.panics]
      | ok u => cases hu : a.upstream <;> simp [Outcome.panics]

/-- With the error variable set, the loop ends in exactly one call. -/
theorem relayLoop_one_call (policy : RetryPolicy) (retryTimes : Int) (req : ρ) (attempts : List (Attempt ρ)) (retry : Int)
    (err : RelayError) {r : RelayEnd} (h : relayLoop policy retryTimes req attempts retry (some err) = some r) : ∃ c, r.calls = [c] := by
  induction attempts generalizing retry err with
  | nil =>
    unfold relayLoop at h
    split at h
    · cases h
      exact ⟨.refund, rfl⟩
    · cases h
  | cons a rest ih =>
    unfold relayLoop at h
    split at h
    · cases h
      exact ⟨.refund, rfl⟩
    split at h
    · cases h
      exact ⟨.refund, rfl⟩
    split at h
    · cases h
      exact ⟨.refund, rfl⟩
    split at h
    · cases h
      exact ⟨.refund, rfl⟩
    · cases h
      exact ⟨.settle a.actualQuota, rfl⟩
    · simp only at h
      generalize (if a.resetRetry = true then 0 else retry) = counter at h
      split at h
      · exact ih _ _ h
      · cases h
        exact ⟨.refund, rfl⟩

end RelayAux

open RelayAux

/-- A pre-charged request that has ended made exactly one of the calls `Settle` and `Refund` if and only if the retry setting
lets it make an attempt and the conversion of its first attempt does not panic on the request. -/
theorem relay_one_call_iff (policy : RetryPolicy) (retryTimes : Int) (req : ρ) (attempts : List (Attempt ρ)) {r : RelayEnd}
    (h : relay policy retryTimes req attempts = some r) :
    (∃ c, r.calls = [c]) ↔ 0 ≤ retryTimes ∧ ∀ a ∈ attempts.head?, a.panicsOn req = false := by
  unfold relay at h
  by_cases hr : retryTimes < 0
  · have hcalls : r.calls = [] := by
      cases attempts <;> simp only [relayLoop, if_pos hr, Option.some.injEq] at h <;> rw [← h] <;> rfl
    constructor
    · rintro ⟨c, hc⟩
      rw [hcalls] at hc
      cases hc
    · rintro ⟨h0, -⟩
      omega
  · simp only [show 0 ≤ retryTimes by omega, true_and]
    cases attempts with
    | nil => simp [relayLoop, hr] at h
    | cons a rest =>
      simp only [List.head?_cons, Option.mem_def, Option.some.injEq, forall_eq']
      simp only [relayLoop, if_neg hr] at h
      split at h
      · rename_i e hc
        cases h
        simp [deferred, Attempt.panicsOn, hc]
      · rename_i hc
        split at h
        · rename_i e hb
          cases h
          simp [deferred, Attempt.panicsOn, hb]
        · rename_i hb
          have hpanic := handle_panic_iff req hc hb
          split at h
          · rename_i hend
            cases h
            simp [deferred, hpanic.1 hend]
          · rename_i hend
            cases h
            have : a.panicsOn req = false := by
              rw [← Bool.not_eq_true, ← hpanic, hend]
              simp
            simp [deferred, this]
          · rename_i e hend
            have hno : a.panicsOn req = false := by
              rw [← Bool.not_eq_true, ← hpanic, hend]
              simp
            simp only [hno, iff_true]
            generalize (if a.resetRetry = true then 0 else 0 : Int) = counter at h
            split at h
            · exact relayLoop_one_call _ _ _ _ _ _ h
            · cases h
              exact ⟨.refund, rfl⟩

/-! ## One body that keeps the pre-charge -/

section Sample

/-- The retry settings of a server that retries nothing. -/
def samplePolicy : RetryPolicy := ⟨fun e => e, fun _ => false, fun _ => false⟩

/-- An attempt on a Claude channel that would succeed. -/
def claudeAttempt : Attempt GeneralOpenAIRequest where
  channel := none
  body := none
  prepare := none
  passThrough := false
  convert := claudeConvert ⟨fun _ => none, none⟩
  convertError m := ⟨"convert_request_failed", 500, true, m⟩
  upstream := none
  actualQuota := 7
  affinitySkipRetry := false
  specificChannel := false
  resetRetry := false
  resetNextTry := false

/-- A chat request without tools and with the given stop sequences. -/
def chatRequest (stop : Json) : GeneralOpenAIRequest := ⟨"claude-sonnet-4", [], none, stop⟩

/-- `"stop": [1]` on a Claude channel: the conversion panics, nothing is called on the billing session, and the 10 it had
pre-charged stay taken. -/
theorem stop_number_keeps_precharge :
    relay samplePolicy 0 (chatRequest (.arr [.num "1"])) [claudeAttempt] = some ⟨[], true⟩ ∧
      ¬ (∃ c : BillingCall, ([] : List BillingCall) = [c]) ∧
      ∀ (cfg : Config) (st : Store) (s : BillingSession), s.refunded = false →
        (Run.exec (World.step cfg) (World.start st s) (([] : List BillingCall).map BillingCall.toCall)).taken =
          s.preConsumedQuota := by
  refine ⟨by decide, ?_, ?_⟩
  · rintro ⟨c, hc⟩
    cases hc
  · intro cfg st s h
    simp [World.taken, World.firstSettled, World.start, h]

theorem relay_one_call_iff_sample :
    relay samplePolicy 0 (chatRequest (.arr [.str "END"])) [claudeAttempt] = some ⟨[.settle 7], false⟩ ∧
      ((∃ c, [BillingCall.settle 7] = [c]) ↔
        (0 : Int) ≤ 0 ∧ ∀ a ∈ [claudeAttempt].head?, a.panicsOn (chatRequest (.arr [.str "END"])) = false) := by
  have h : relay samplePolicy 0 (chatRequest (.arr [.str "END"])) [claudeAttempt] = some ⟨[.settle 7], false⟩ := by decide
  exact ⟨h, relay_one_call_iff samplePolicy 0 _ _ h⟩

end Sample

end NewApi
