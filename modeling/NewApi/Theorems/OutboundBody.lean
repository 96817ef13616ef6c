import Mathlib
import NewApi.Relay.OutboundBody

/-!
# The length an attempt declares

A converted body is sent with its own length. A body that is passed through is sent with the length noted last, and most handlers note none
for it: it goes out with the length of the last body that was converted before (`declares_real_length_iff`).
-/

namespace NewApi

namespace BodyRequest

variable (r : BodyRequest)

/-- The length an attempt on the channel notes, if any. -/
def noted (ch : BodyChannel) : Option Nat :=
  if r.passesThrough ch then if r.handler = .claude then some r.body.length else none
  else match ch.converted with
    | .json jsonData => some jsonData.length
    | _ => none

/-- The length noted last by attempts on the channels; 0 where none was. -/
def lastNoted (earlier : List BodyChannel) : Nat := ((earlier.filterMap r.noted).getLast?).getD 0

/-- The length that is declared. -/
theorem selectBody_fst (size : Nat) (ch : BodyChannel) : (r.selectBody size ch).1 = (r.noted ch).getD size := by
  unfold selectBody noted newOutboundJSONBody
  cases r.passesThrough ch with
  | true => by_cases hclaude : r.handler = .claude <;> simp [hclaude]
  | false => cases ch.converted <;> rfl

/-- What is noted when the attempts are over is what was noted last. -/
theorem sizeAfter_eq_lastNoted (earlier : List BodyChannel) : r.sizeAfter earlier = r.lastNoted earlier := by
  induction earlier using List.reverseRecOn with
  | nil => rfl
  | append_singleton earlier ch ih =>
    have hstep : r.sizeAfter (earlier ++ [ch]) = (r.noted ch).getD (r.sizeAfter earlier) := by
      unfold sizeAfter
      rw [Run.exec_append]
      exact selectBody_fst r _ ch
    rw [hstep, ih]
    unfold lastNoted
    cases hnoted : r.noted ch with
    | none | some _ => simp [List.filterMap_append, hnoted]

/-- A reader of an unknown type is sent with the noted length, whatever it is. -/
theorem applyUpstreamContentLength_zero (size : Nat) : applyUpstreamContentLength size 0 = size := by
  unfold applyUpstreamContentLength
  split
  · rfl
  · omega

end BodyRequest

/-- After attempts on the channels `earlier`, the request an attempt on `ch` sends declares the length of its body, or none,
exactly when the attempt converts the body, or is one of `ClaudeHelper`, or the length noted last is 0 or that of the
client's body. -/
theorem declares_real_length_iff (r : BodyRequest) (earlier : List BodyChannel) (ch : BodyChannel) :
    (∀ sent, r.send (r.sizeAfter earlier) ch = some sent → DeclaresRealLength sent) ↔ (r.passesThrough ch = true → r.handler ≠ .claude →
        r.lastNoted earlier = 0 ∨ r.lastNoted earlier = r.body.length) := by
  rw [BodyRequest.sizeAfter_eq_lastNoted]
  unfold BodyRequest.send BodyRequest.selectBody
  cases hpass : r.passesThrough ch with
  | true =>
    by_cases hclaude : r.handler = .claude
    · simp [hclaude, BodyRequest.newRequestLength, BodyRequest.applyUpstreamContentLength_zero, DeclaresRealLength]
    · simp [hclaude, BodyRequest.newRequestLength, BodyRequest.applyUpstreamContentLength_zero, DeclaresRealLength]
  | false =>
    cases ch.converted with
    | error => simp
    | json jsonData =>
      simp [BodyRequest.newOutboundJSONBody, BodyRequest.newRequestLength, BodyRequest.applyUpstreamContentLength_zero, DeclaresRealLength]
    | form form => simp [DeclaresRealLength]

/-- A request of `ResponsesHelper` with a body of five bytes. The first channel converts it to three, and fails; the second gets the
five bytes with a declared length of three. -/
theorem passed_through_body_keeps_old_length :
    let r : BodyRequest := ⟨.responses, [1, 2, 3, 4, 5], false⟩
    let sent := r.send (r.sizeAfter [⟨false, .json [1, 2, 3]⟩]) ⟨true, .error⟩
    sent = some (.readerOnly [1, 2, 3, 4, 5], 3) ∧ ¬ ∀ s, sent = some s → DeclaresRealLength s := by
  refine ⟨by decide, fun hreal => ?_⟩
  have hlength := hreal (.readerOnly [1, 2, 3, 4, 5], 3) (by decide)
  simp [DeclaresRealLength] at hlength

end NewApi
