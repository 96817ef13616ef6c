import Mathlib
import NewApi.Common.RateLimit
import NewApi.Lib.Run

/-!
# What the limits on requests allow

The in-memory limiter is a sliding window exactly where no pass can drop a queue that a window still needs (`limiter_slides`). The token
bucket lets through no more than it holds and what flows in meanwhile (`token_bucket_bounds`).
-/

namespace NewApi

open Run

/-! ## The window in memory -/

namespace LimiterSetup

variable {l : LimiterSetup} {time : Int} {stored stored' : Option (List Int)} {done : List Int}

/-- A request finds room, or is judged by the oldest entry. -/
theorem request_cases (stored : Option (List Int)) {maxRequestNum : Nat} (hmax : 0 < maxRequestNum) (duration now : Int) :
    (stored.getD []).length < maxRequestNum ∧ request stored maxRequestNum duration now = (some (stored.getD [] ++ [now]), true) ∨
    ∃ oldest rest, stored = some (oldest :: rest) ∧ maxRequestNum ≤ (oldest :: rest).length ∧
      request stored maxRequestNum duration now = if now - oldest ≥ duration then (some (rest ++ [now]), true) else (stored, false) := by
  cases stored with
  | none => exact .inl ⟨hmax, rfl⟩
  | some queue =>
    simp only [request, Option.getD_some]
    by_cases hroom : queue.length < maxRequestNum
    · exact .inl ⟨hroom, if_pos hroom⟩
    cases queue with
    | nil => exact absurd hmax hroom
    | cons oldest rest => exact .inr ⟨oldest, rest, rfl, not_lt.1 hroom, if_neg hroom⟩

/-- The passes leave a window its entries: none are made, or a queue that is dropped is older than the window. -/
def KeepsWindow (l : LimiterSetup) : Prop := l.expirationDuration ≤ 0 ∨ l.duration ≤ l.expiration + 1

/-- What holds of the queue of a key and of its accepted requests, up to a time: those no longer in the queue are in no window from then
on. -/
structure WindowInv (l : LimiterSetup) (time : Int) (stored : Option (List Int)) (done : List Int) : Prop where
  sorted : (stored.getD []).Pairwise (· ≤ ·)
  past : ∀ t ∈ stored.getD [], t ≤ time
  kept : ∃ old, done = old ++ stored.getD [] ∧ ∀ t ∈ old, t + l.duration ≤ time
  short : (stored.getD []).length ≤ l.maxRequestNum
  bound : ∀ start, done.countP (fun t => start ≤ t ∧ t < start + l.duration) ≤ l.maxRequestNum

theorem WindowInv.later (h : l.WindowInv time stored done) {time' : Int} (hle : time ≤ time') : l.WindowInv time' stored done := by
  obtain ⟨old, hdone, hold⟩ := h.kept
  exact { h with
    past := fun t ht => (h.past t ht).trans hle
    kept := ⟨old, hdone, fun t ht => (hold t ht).trans hle⟩ }

/-- Entries that no window from now on holds are dropped. -/
theorem WindowInv.drop (h : l.WindowInv time stored done) (dropped : List Int) (hqueue : stored.getD [] = dropped ++ stored'.getD [])
    (hdropped : ∀ t ∈ dropped, t + l.duration ≤ time) : l.WindowInv time stored' done := by
  obtain ⟨hsorted, hpast, ⟨old, hdone, hold⟩, hshort, hbound⟩ := h
  rw [hqueue] at hsorted hpast hdone hshort
  refine ⟨(List.pairwise_append.1 hsorted).2.1, fun t ht => hpast t (List.mem_append_right _ ht), ⟨old ++ dropped, by simp [hdone], ?_⟩,
    by simp at hshort; omega, hbound⟩
  exact List.forall_mem_append.2 ⟨hold, hdropped⟩

/-- A request is accepted where there is room. -/
theorem WindowInv.accept (h : l.WindowInv time stored done) (hroom : (stored.getD []).length < l.maxRequestNum) :
    l.WindowInv time (some (stored.getD [] ++ [time])) (done ++ [time]) := by
  obtain ⟨hsorted, hpast, ⟨old, hdone, hold⟩, hshort, hbound⟩ := h
  refine ⟨List.pairwise_append.2 ⟨hsorted, List.pairwise_singleton _ _, by simpa using hpast⟩,
    List.forall_mem_append.2 ⟨hpast, by simp⟩, ⟨old, by simp [hdone], hold⟩, by simpa using hroom, fun start => ?_⟩
  by_cases hends : start + l.duration ≤ time
  · -- the window ends before the request
    rw [List.countP_append, List.countP_singleton, if_neg (by simp; omega)]
    exact hbound start
  · -- what is no longer in the queue lies before the window
    have hbefore : old.countP (fun t => start ≤ t ∧ t < start + l.duration) = 0 := by
      rw [List.countP_eq_zero]
      intro t ht
      have := hold t ht
      simp only [decide_eq_true_eq]
      omega
    rw [hdone, List.append_assoc, List.countP_append, hbefore, zero_add]
    exact List.countP_le_length.trans (by simpa using hroom)

/-- A pass keeps the invariant where a queue stays for a whole window. -/
theorem WindowInv.clears (h : l.WindowInv time stored done) (hwindow : l.duration ≤ l.expiration + 1) :
    l.WindowInv time (clearExpired l.expiration stored time) done := by
  cases stored with
  | none => exact h
  | some queue =>
    rcases List.eq_nil_or_concat queue with rfl | ⟨before, newest, rfl⟩
    · exact h.drop [] rfl (by simp)
    simp only [clearExpired, Option.filter, List.concat_eq_append, List.getLast?_concat]
    split
    · simpa using h
    rename_i hold
    -- the whole queue is dropped: its newest entry is too old for a window, and so are the others
    refine h.drop (before.concat newest) (by simp) fun t ht => ?_
    have hle : t ≤ newest := by
      rw [List.concat_eq_append] at ht
      rcases List.mem_append.1 ht with ht | ht
      · have hsorted := h.sorted
        simp [List.pairwise_append] at hsorted
        exact hsorted.2 t ht
      · exact (List.mem_singleton.1 ht).le
    simp at hold
    omega

/-- Every call keeps the invariant. -/
theorem WindowInv.step (hmax : 0 < l.maxRequestNum) (hkeeps : l.KeepsWindow) {e : LimiterCall} (h : l.WindowInv e.time stored done) :
    l.WindowInv e.time (l.step (stored, done) e).1 (l.step (stored, done) e).2 := by
  cases e with
  | clear now =>
    simp only [LimiterSetup.step]
    split
    · rename_i hpos
      exact h.clears (hkeeps.resolve_left (not_le.2 hpos))
    · exact h
  | request now =>
    simp only [LimiterSetup.step]
    rcases request_cases stored hmax l.duration now with ⟨hroom, hrequest⟩ | ⟨oldest, rest, rfl, -, hrequest⟩
    · rw [hrequest]
      exact h.accept hroom
    rw [hrequest]
    by_cases hold : now - oldest ≥ l.duration
    · rw [if_pos hold]
      -- the oldest entry makes room for the new one
      have hdrop : l.WindowInv now (some rest) done := by
        refine h.drop [oldest] rfl fun t ht => ?_
        rw [List.mem_singleton] at ht
        simp only [LimiterCall.time]
        omega
      exact hdrop.accept (Nat.lt_of_succ_le h.short)
    · rw [if_neg hold]
      exact h

/-- The queue of a key and its accepted requests after some calls. -/
def after (l : LimiterSetup) (calls : List LimiterCall) : Option (List Int) × List Int := exec l.step (none, []) calls

theorem windowInv_after (hmax : 0 < l.maxRequestNum) (hkeeps : l.KeepsWindow) {calls : List LimiterCall}
    (hordered : calls.Pairwise (·.time ≤ ·.time)) (htime : ∀ e ∈ calls, e.time ≤ time) :
    l.WindowInv time (l.after calls).1 (l.after calls).2 := by
  induction calls using List.reverseRecOn generalizing time with
  | nil => exact ⟨.nil, by simp [after], ⟨[], rfl, by simp⟩, Nat.zero_le _, by simp [after]⟩
  | append_singleton calls last ih =>
    obtain ⟨hbefore, -, hlast⟩ := List.pairwise_append.1 hordered
    rw [after, exec_append]
    exact ((ih hbefore fun e he => hlast e he last (by simp)).step hmax hkeeps).later (htime last (by simp))

/-- In a run no `duration` seconds hold more accepted requests than the limit, and a request is refused only when as many were accepted
less than `duration` seconds before. -/
def Slides (l : LimiterSetup) (calls : List LimiterCall) : Prop :=
  (∀ start, (l.after calls).2.countP (fun t => start ≤ t ∧ t < start + l.duration) ≤ l.maxRequestNum) ∧
  ∀ pre now post, calls = pre ++ .request now :: post → (request (l.after pre).1 l.maxRequestNum l.duration now).2 = false →
    l.maxRequestNum ≤ (l.after pre).2.countP fun t => now - t < l.duration

/-- Where the passes leave a window its entries, it slides. -/
theorem KeepsWindow.slides (hkeeps : l.KeepsWindow) (hmax : 0 < l.maxRequestNum) {calls : List LimiterCall}
    (hordered : calls.Pairwise (·.time ≤ ·.time)) : l.Slides calls := by
  refine ⟨?_, ?_⟩
  · obtain ⟨time, htime⟩ := (List.finite_toSet (calls.map LimiterCall.time)).bddAbove
    exact (windowInv_after hmax hkeeps hordered fun e he => htime (List.mem_map_of_mem he)).bound
  · rintro pre now post rfl hrefused
    obtain ⟨hbefore, -, hlate⟩ := List.pairwise_append.1 hordered
    have hinv := windowInv_after hmax hkeeps hbefore fun e he => hlate e he (.request now) (by simp)
    obtain ⟨old, hdone, -⟩ := hinv.kept
    rcases request_cases _ hmax l.duration now with ⟨hroom, hrequest⟩ | ⟨oldest, rest, hstored, hfull, hrequest⟩
    · rw [hrequest] at hrefused
      cases hrefused
    rw [hrequest] at hrefused
    split at hrefused
    · cases hrefused
    rename_i hnew
    -- every entry of the queue is at least as new as the oldest
    have hall : (oldest :: rest).countP (fun t => now - t < l.duration) = (oldest :: rest).length := by
      rw [List.countP_eq_length]
      intro t ht
      have hge : oldest ≤ t := by
        have hsorted := hinv.sorted
        rw [hstored, Option.getD_some, List.pairwise_cons] at hsorted
        rcases List.mem_cons.1 ht with rfl | ht
        · exact le_refl _
        · exact hsorted.1 t ht
      simp only [decide_eq_true_eq]
      omega
    rw [hdone, hstored, Option.getD_some, List.countP_append, hall]
    omega

/-- As many requests at once as the limit allows, and another after a pass as soon as one drops their queue. -/
def earlyPass (l : LimiterSetup) : List LimiterCall :=
  List.replicate l.maxRequestNum (.request 0) ++ [.clear (l.expiration + 1), .request (l.expiration + 1)]

/-- Requests at once are accepted up to the limit. -/
theorem after_burst {k : Nat} (hk : k < l.maxRequestNum) :
    l.after (List.replicate (k + 1) (.request 0)) = (some (List.replicate (k + 1) 0), List.replicate (k + 1) 0) := by
  induction k with
  | zero => rfl
  | succ k ih =>
    have hroom : (List.replicate (k + 1) (0 : Int)).length < l.maxRequestNum := by simpa using hk
    rw [List.replicate_succ', after, exec_append]
    have hbefore := ih (Nat.lt_of_succ_lt hk)
    rw [after] at hbefore
    rw [hbefore]
    simp only [exec_cons, exec_nil, LimiterSetup.step, request, if_pos hroom, ← List.replicate_succ']

/-- The pass drops the queue of the burst, and all requests are accepted. -/
theorem after_earlyPass (hmax : 0 < l.maxRequestNum) (hpasses : 0 < l.expirationDuration) :
    (l.after l.earlyPass).2 = List.replicate l.maxRequestNum 0 ++ [l.expiration + 1] := by
  obtain ⟨k, hk⟩ := Nat.exists_eq_succ_of_ne_zero hmax.ne'
  have hburst := after_burst (l := l) (k := k) (by omega)
  rw [after] at hburst
  have hdropped : clearExpired l.expiration (some (List.replicate (k + 1) 0)) (l.expiration + 1) = none := by
    simp [clearExpired, Option.filter, List.getLast?_replicate]
  rw [after, earlyPass, exec_append, hk, Nat.succ_eq_add_one, hburst]
  simp only [exec_cons, exec_nil, LimiterSetup.step, gt_iff_lt, if_pos hpasses, hdropped, request]

/-- The window that began with the burst holds one more. -/
theorem earlyPass_not_slides (hmax : 0 < l.maxRequestNum) (hlost : ¬ l.KeepsWindow) : ¬ l.Slides l.earlyPass := by
  intro h
  obtain ⟨hpasses, hshort⟩ := not_or.1 hlost
  have hcount := h.1 0
  have hnonneg := l.expiration_nonneg (not_le.1 hpasses)
  -- the window from 0 on holds every accepted request
  have hall : (List.replicate l.maxRequestNum (0 : Int) ++ [l.expiration + 1]).countP (fun t => 0 ≤ t ∧ t < 0 + l.duration) =
      l.maxRequestNum + 1 := by
    rw [List.countP_append, List.countP_replicate, List.countP_singleton, if_pos (by simp; omega), if_pos (by simp; omega)]
  rw [after_earlyPass hmax (not_le.1 hpasses), hall] at hcount
  omega

theorem earlyPass_ordered (hnonneg : 0 ≤ l.expiration) : l.earlyPass.Pairwise (·.time ≤ ·.time) := by
  simp only [earlyPass, List.pairwise_append, List.pairwise_replicate]
  simp [LimiterCall.time]
  omega

/-- The limiter is a sliding window in every run exactly if its passes leave a window its entries. -/
theorem limiter_slides (l : LimiterSetup) (hmax : 1 ≤ l.maxRequestNum) :
    l.KeepsWindow ↔ ∀ calls : List LimiterCall, calls.Pairwise (·.time ≤ ·.time) → l.Slides calls := by
  refine ⟨fun hkeeps calls hordered => hkeeps.slides hmax hordered, fun h => ?_⟩
  by_contra hlost
  have hpasses : 0 < l.expirationDuration := not_le.1 (not_or.1 hlost).1
  exact earlyPass_not_slides hmax hlost (h l.earlyPass (earlyPass_ordered (l.expiration_nonneg hpasses)))

theorem limiter_slides_minute :
    LimiterSetup.Slides ⟨60 * 10 ^ 9, 60, 1, 60, by decide⟩ [.request 0, .request 59, .clear 61, .request 61] :=
  (limiter_slides _ (le_refl 1)).1 (.inr (by decide)) _ (by simp [LimiterCall.time])

/-- With a limit of one request in an hour, a pass after twenty minutes drops the queue and a second request is let through. -/
theorem early_pass_lets_second_through :
    ¬ LimiterSetup.Slides ⟨1200 * 10 ^ 9, 1200, 1, 3600, by decide⟩ [.request 0, .clear 1201, .request 1201] := by
  intro h
  have hbound := h.1 0
  revert hbound
  decide

end LimiterSetup

/-! ## The token bucket -/

/-- An execution, with the times of the requests let through so far. -/
def limitStep (n d : Int) (s : Option Bucket × List Int) (now : Int) : Option Bucket × List Int :=
  (some (totalLimit n d s.1 now).1, s.2 ++ if (totalLimit n d s.1 now).2 then [now] else [])

/-- The hash after some executions, from one that does not exist, and the times of the requests they let through. -/
def bucketAfter (n d : Int) : List Int → Option Bucket × List Int := exec (limitStep n d) (none, [])

namespace RateLimitAux

variable {n d start t now : Int} {bucket : Option Bucket} {done : List Int}

/-- The requests let through in the `t` seconds from `start` on. -/
def within (start t : Int) (done : List Int) : Nat := done.countP fun s => start ≤ s ∧ s ≤ start + t

/-- What holds up to a time: the requests of the interval are paid from a full bucket and what has flowed in since its start. -/
structure BucketInv (n d start t time : Int) (s : Option Bucket × List Int) : Prop where
  tokens : ∀ b ∈ s.1, (0 ≤ b.tokens ∧ b.tokens ≤ n * d) ∧ b.lastTime ≤ time
  paid : within start t s.2 = 0 ∨
    ∃ b ∈ s.1, b.lastTime ≤ start + t → within start t s.2 * d + b.tokens ≤ n * d + n * (b.lastTime - start)
  bound : within start t s.2 * d ≤ n * d + n * t

/-- Every execution keeps the invariant. -/
theorem BucketInv.step (hn : 0 ≤ n) (hd : 0 ≤ d) (h : BucketInv n d start t now (bucket, done)) :
    BucketInv n d start t now (limitStep n d (bucket, done) now) := by
  have hfull : tokensAt n (n * d) now bucket ≤ n * d := by
    cases bucket with
    | none => exact le_refl _
    | some b => exact min_le_left _ _
  have hflow : ∀ b ∈ bucket, tokensAt n (n * d) now bucket ≤ b.tokens + (now - b.lastTime) * n := by
    rintro b ⟨⟩
    exact min_le_right _ _
  have hnonneg : 0 ≤ tokensAt n (n * d) now bucket := by
    cases bucket with
    | none => exact mul_nonneg hn hd
    | some b =>
      obtain ⟨⟨hnonneg, -⟩, hlast⟩ := h.tokens b rfl
      exact le_min (mul_nonneg hn hd) (add_nonneg hnonneg (mul_nonneg (sub_nonneg.2 hlast) hn))
  have hfound : within start t done = 0 ∨
      (now ≤ start + t → within start t done * d + tokensAt n (n * d) now bucket ≤ n * d + n * (now - start)) := by
    refine h.paid.imp_right ?_
    rintro ⟨b, hb, hpaid⟩ hstop
    linarith [hpaid ((h.tokens b hb).2.trans hstop), hflow b hb]
  unfold limitStep totalLimit rateLimit
  generalize tokensAt n (n * d) now bucket = found at *
  by_cases henough : found ≥ d
  · have hcount : within start t (done ++ [now]) = within start t done + if start ≤ now ∧ now ≤ start + t then 1 else 0 := by
      simp [within, List.countP_singleton]
    have htokens : ∀ b ∈ some (Bucket.mk (found - d) now), (0 ≤ b.tokens ∧ b.tokens ≤ n * d) ∧ b.lastTime ≤ now := by
      rintro b ⟨⟩
      simp only
      omega
    simp only [if_pos henough, if_true]
    by_cases hin : start ≤ now ∧ now ≤ start + t
    · have hpaid : within start t (done ++ [now]) * d + (found - d) ≤ n * d + n * (now - start) := by
        have hsince : 0 ≤ n * (now - start) := mul_nonneg hn (sub_nonneg.2 hin.1)
        rw [hcount, if_pos hin]
        obtain hnone | hfound := hfound
        · rw [hnone]
          push_cast
          linarith
        · push_cast
          linarith [hfound hin.2]
      have hflowed : n * (now - start) ≤ n * t := mul_le_mul_of_nonneg_left (by omega) hn
      exact ⟨htokens, .inr ⟨_, rfl, fun _ => hpaid⟩, by simp only; linarith⟩
    · rw [if_neg hin, add_zero] at hcount
      refine ⟨htokens, ?_, hcount ▸ h.bound⟩
      rw [hcount]
      exact hfound.imp_right fun hpaid => ⟨_, rfl, fun hstop => by simp only; linarith [hpaid hstop]⟩
  · simp only [if_neg henough, Bool.false_eq_true, if_false, List.append_nil]
    exact ⟨by rintro b ⟨⟩; exact ⟨⟨hnonneg, hfull⟩, le_refl now⟩, hfound.imp_right fun hpaid => ⟨_, rfl, hpaid⟩, h.bound⟩

theorem bucketInv_after (hn : 0 ≤ n) (hd : 0 ≤ d) (ht : 0 ≤ t) {nows : List Int} (hordered : nows.Pairwise (· ≤ ·))
    (htime : ∀ s ∈ nows, s ≤ now) : BucketInv n d start t now (bucketAfter n d nows) := by
  induction nows using List.reverseRecOn generalizing now with
  | nil => exact ⟨nofun, .inl rfl, by simp [bucketAfter, within]; positivity⟩
  | append_singleton nows last ih =>
    obtain ⟨hbefore, -, hlast⟩ := List.pairwise_append.1 hordered
    have h := (ih hbefore fun s hs => hlast s hs last (by simp)).step hn hd
    rw [bucketAfter, exec_append]
    exact { h with tokens := fun b hb => (h.tokens b hb).imp_right (·.trans (htime last (by simp))) }

end RateLimitAux

open RateLimitAux

/-- The token bucket over any executions in order: its tokens stay within the capacity, a closed interval of `t` seconds lets through at
most what the bucket holds and what flows in, and a request is refused only when fewer tokens are left than it takes. -/
theorem token_bucket_bounds {n d : Nat} (hd : 1 ≤ d) (nows : List Int) (hordered : nows.Pairwise (· ≤ ·)) :
    (∀ b ∈ (bucketAfter n d nows).1, 0 ≤ b.tokens ∧ b.tokens ≤ n * d) ∧
    (∀ (start : Int) (t : Nat), (bucketAfter n d nows).2.countP (fun s => start ≤ s ∧ s ≤ start + t) ≤ n + n * t / d) ∧
    ∀ now, (totalLimit n d (bucketAfter n d nows).1 now).2 = false →
      ((bucketAfter n d nows).1.elim (n * d : Int) fun b => min (n * d) (b.tokens + (now - b.lastTime) * n)) < d := by
  obtain ⟨time, htime⟩ := (List.finite_toSet nows).bddAbove
  have hinv (start : Int) (t : Nat) : BucketInv n d start t time (bucketAfter n d nows) :=
    bucketInv_after (by omega) (by omega) (by omega) hordered fun s hs => htime hs
  refine ⟨fun b hb => ((hinv 0 0).tokens b hb).1, fun start t => ?_, fun now hrefused => ?_⟩
  · rw [add_comm n, ← Nat.add_mul_div_right _ _ hd, Nat.le_div_iff_mul_le hd, add_comm (n * t)]
    exact_mod_cast (hinv start t).bound
  · have hfound : tokensAt n (n * d) now (bucketAfter n d nows).1 < d := by
      by_contra henough
      rw [totalLimit, rateLimit, if_pos (not_lt.1 henough)] at hrefused
      cases hrefused
    cases hbucket : (bucketAfter n d nows).1 <;> simpa only [hbucket, tokensAt, Option.elim] using hfound

/-- Two requests in a minute: the third is refused, and the next is let through when its tokens have flowed in. -/
theorem token_bucket_two_a_minute :
    (bucketAfter 2 60 [0, 0, 10, 30]).2 = [0, 0, 30] ∧
      (bucketAfter 2 60 [0, 0, 10, 30]).2.countP (fun s => 0 ≤ s ∧ s ≤ 0 + 30) ≤ 2 + 2 * 30 / 60 :=
  ⟨by decide, (token_bucket_bounds (by decide) [0, 0, 10, 30] (by decide)).2.1 0 30⟩

end NewApi
