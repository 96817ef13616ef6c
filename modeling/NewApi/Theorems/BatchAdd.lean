import Mathlib
import NewApi.Model.BatchAdd

/-!
# The names of channels added together

The rounds of `AddChannel` write to one record, so that a name has the keys before in it: the channels are named after their own keys
only where at most one key is not empty (`batch_names_own_key_iff`).
-/

namespace NewApi

/-- Each channel has its own key and is named after it, and no name shows another channel's key. -/
structure NamedAfterOwnKeys (base : List UInt8) (keys : List (List UInt8)) (channels : List AddedChannel) : Prop where
  own : channels = (keys.filter (· ≠ [])).map fun key => ⟨base ++ 32 :: key.take 8, key⟩
  others : ∀ i j : Nat, i ≠ j → ∀ c ∈ channels[i]?, ∀ c' ∈ channels[j]?, c'.key.take 8 <:+: c.name →
    c'.key.take 8 <:+: c.key ∨ c'.key.take 8 <:+: base

/-- Empty keys are passed over. -/
theorem addEach_filter (setPrefix : Bool) (name : List UInt8) (keys : List (List UInt8)) :
    addEach setPrefix name keys = addEach setPrefix name (keys.filter (· ≠ [])) := by
  induction keys generalizing name with
  | nil => rfl
  | cons key keys ih =>
    by_cases hkey : key = []
    · simp [addEach, hkey, ih]
    · rw [List.filter_cons_of_pos (by simpa using hkey), addEach, addEach, if_neg hkey, if_neg hkey]
      simp only [ih]

/-- With two keys or more, the channels are named after their own keys exactly where at most one key is not empty. -/
theorem batch_names_own_key_iff (base key key' : List UInt8) (rest : List (List UInt8)) :
    NamedAfterOwnKeys base (key :: key' :: rest) (addChannel true base (key :: key' :: rest)) ↔
      ((key :: key' :: rest).filter (· ≠ [])).length ≤ 1 := by
  have hadd : addChannel true base (key :: key' :: rest) = addEach true base ((key :: key' :: rest).filter (· ≠ [])) := by
    rw [← addEach_filter]
    simp [addChannel]
  have hne : ∀ k ∈ (key :: key' :: rest).filter (· ≠ []), k ≠ [] := by simp
  constructor
  · rintro ⟨hown, -⟩
    rw [hadd] at hown
    match (key :: key' :: rest).filter (· ≠ []), hown, hne with
    | [], _, _ => simp
    | [_], _, _ => simp
    | first :: second :: later, hown, hne =>
      -- the second name has the first key in it as well
      simp only [addEach, hne first, hne second, List.mem_cons, true_or, or_true, if_false, if_true, List.map_cons] at hown
      have hlength := congrArg (fun channels => (channels[1]?.map fun c => c.name.length)) hown
      simp only [List.getElem?_cons_succ, List.getElem?_cons_zero, Option.map_some, Option.some.injEq, List.length_append,
        List.length_cons] at hlength
      omega
  · intro hlength
    have hown : addChannel true base (key :: key' :: rest) =
        ((key :: key' :: rest).filter (· ≠ [])).map fun key => ⟨base ++ 32 :: key.take 8, key⟩ := by
      rw [hadd]
      match (key :: key' :: rest).filter (· ≠ []), hlength, hne with
      | [], _, _ => rfl
      | [k], _, hne => simp [addEach, hne]
    refine ⟨hown, fun i j hij c hc c' hc' => absurd ?_ hij⟩
    have hi := (List.getElem?_eq_some_iff.1 hc).1
    have hj := (List.getElem?_eq_some_iff.1 hc').1
    rw [hown, List.length_map] at hi hj
    omega

/-- The keys `a` and `b` with the name `n`: the second channel is named `n a b`. -/
theorem second_name_has_first_key :
    addChannel true [110] [[97], [98]] = [⟨[110, 32, 97], [97]⟩, ⟨[110, 32, 97, 32, 98], [98]⟩] ∧
      ¬ NamedAfterOwnKeys [110] [[97], [98]] (addChannel true [110] [[97], [98]]) :=
  ⟨by decide, fun h => absurd h.own (by decide)⟩

end NewApi
