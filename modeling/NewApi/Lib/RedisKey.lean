import Mathlib

/-!
# One key of a Redis server

A key that holds a hash and may have a time to live. An expired key is gone for every command. `HSET` and `HINCRBY` create the key where
it is gone, without a time to live, and keep the time to live where it is there; `EXPIRE` and `TTL` count in seconds. Times are in
milliseconds.
-/

namespace Redis

abbrev Hash := String → Option String

variable {h : Hash} {name : String} {fields : List (String × String)}

/-- A stored key, with the time it expires at. -/
structure Key where
  hash : Hash
  expireAt : Option Int

/-- The server: its clock and the key. -/
structure Server where
  now : Int
  key : Option Key

/-- The key as the commands see it. -/
def Server.live (s : Server) : Option Key :=
  s.key.filter fun k => match k.expireAt with
    | none => true
    | some t => decide (s.now ≤ t)

def Server.wait (s : Server) (ms : Nat) : Server := { s with now := s.now + ms }

/-- `TTL`: the rounded seconds that are left, -1 without a time to live, -2 without the key. -/
def Server.ttl (s : Server) : Int :=
  match s.live with
  | none => -2
  | some k => match k.expireAt with
    | none => -1
    | some t => (t - s.now + 500) / 1000

def Server.del (s : Server) : Server := { s with key := none }

def Server.expire (s : Server) (seconds : Int) : Server :=
  match s.live with
  | none => s
  | some k => if seconds ≤ 0 then s.del else { s with key := some { k with expireAt := some (s.now + seconds * 1000) } }

def Hash.set (h : Hash) (fields : List (String × String)) : Hash :=
  fields.foldl (fun h field => Function.update h field.1 (some field.2)) h

def Server.hset (s : Server) (fields : List (String × String)) : Server :=
  match s.live with
  | none => { s with key := some ⟨Hash.set (fun _ => none) fields, none⟩ }
  | some k => { s with key := some { k with hash := k.hash.set fields } }

/-! ### Integers -/

/-- The number some decimal digits write. -/
def parseNat (cs : List Char) : Option Nat :=
  if cs ≠ [] ∧ cs.all Char.isDigit then some (cs.foldl (fun n c => 10 * n + (c.toNat - '0'.toNat)) 0) else none

/-- The integer of 64 bits that a text writes, in the form the server writes it: no sign but a minus, no leading zero. -/
def parseInt64 (s : String) : Option Int :=
  let n : Option Int := match s.toList with
    | '-' :: cs => (parseNat cs).map fun n => -(n : Int)
    | cs => (parseNat cs).map fun n => (n : Int)
  n.filter fun n => decide (toString n = s) && decide (-(2 ^ 63) ≤ n) && decide (n < 2 ^ 63)

/-- `HINCRBY`: a field that is not there counts as 0. -/
def Server.hincrby (s : Server) (field : String) (delta : Int) : Except String Server :=
  let current := match s.live with
    | none => some 0
    | some k => match k.hash field with
      | none => some 0
      | some text => parseInt64 text
  match current with
  | none => .error "ERR hash value is not an integer"
  | some n =>
    if -(2 ^ 63) ≤ n + delta ∧ n + delta < 2 ^ 63 then .ok (s.hset [(field, toString (n + delta))])
    else .error "ERR increment or decrement would overflow"

/-! ### A key with all of its fields -/

/-- Where the key is there, it has the fields named. -/
def Server.Whole (s : Server) (names : List String) : Prop := ∀ k, s.live = some k → ∀ name ∈ names, (k.hash name).isSome

/-- A field that is there stays. -/
theorem Hash.isSome_set_of_isSome (hname : (h name).isSome) (fields : List (String × String)) : ((h.set fields) name).isSome := by
  induction fields generalizing h with
  | nil => exact hname
  | cons field fields ih =>
    refine ih ?_
    by_cases hn : name = field.1
    · simp [hn]
    · simpa [hn] using hname

/-- A field that is set is there. -/
theorem Hash.isSome_set_of_mem (h : Hash) (hname : name ∈ fields.map Prod.fst) : ((h.set fields) name).isSome := by
  induction fields generalizing h with
  | nil => cases hname
  | cons field fields ih =>
    rcases List.mem_cons.1 hname with rfl | hrest
    · exact Hash.isSome_set_of_isSome (by simp) fields
    · exact ih _ hrest

variable {s : Server} {names : List String} {k : Key}

/-- A key that is gone has no fields missing. -/
theorem Server.whole_of_absent (h : s.live = none) : s.Whole names := by
  intro k hk
  rw [h] at hk
  cases hk

theorem Server.whole_del (s : Server) (names : List String) : s.del.Whole names := Server.whole_of_absent rfl

/-- Whether the key is whole depends on the hash that is stored alone. -/
theorem Server.whole_of_key (hkey : s.key = some k) (h : ∀ name ∈ names, (k.hash name).isSome) : s.Whole names := by
  intro k' hk'
  have hsame : s.key = some k' := (Option.filter_eq_some_iff.1 hk').1
  rw [hkey] at hsame
  rw [← Option.some.inj hsame]
  exact h

/-- Time passing takes a hash whole or leaves it. -/
theorem Server.whole_wait (h : s.Whole names) (ms : Nat) : (s.wait ms).Whole names := by
  intro k hk
  refine h k ?_
  obtain ⟨hkey, hlive⟩ := Option.filter_eq_some_iff.1 hk
  refine Option.filter_eq_some_iff.2 ⟨hkey, ?_⟩
  -- what is not expired now was not expired before
  cases hexpire : k.expireAt with
  | none => rfl
  | some t =>
    rw [hexpire] at hlive
    have hlater : s.now + ms ≤ t := of_decide_eq_true hlive
    exact decide_eq_true (by omega)

/-- A lifetime changes no field. -/
theorem Server.whole_expire (h : s.Whole names) (seconds : Int) : (s.expire seconds).Whole names := by
  unfold Server.expire
  split
  · exact h
  rename_i k hk
  split
  · exact Server.whole_del s names
  · exact Server.whole_of_key rfl (h k hk)

/-- Writing every field makes a hash whole. -/
theorem Server.whole_hset_all (h : ∀ name ∈ names, name ∈ fields.map Prod.fst) (s : Server) : (s.hset fields).Whole names := by
  unfold Server.hset
  split <;> exact Server.whole_of_key rfl fun name hname => Hash.isSome_set_of_mem _ (h name hname)

/-- A write to a key that is there keeps it whole. -/
theorem Server.whole_hset_live (h : s.Whole names) (hlive : s.live.isSome) (fields : List (String × String)) :
    (s.hset fields).Whole names := by
  unfold Server.hset
  split
  · rename_i hnone
    rw [hnone] at hlive
    cases hlive
  · rename_i k hk
    exact Server.whole_of_key rfl fun name hname => Hash.isSome_set_of_isSome (h k hk name hname) fields

/-- A write of one field to a key that is gone, and a new time to live: the key is back with that field alone. -/
theorem Server.live_expire_hset (hgone : s.live = none) (field value : String) {seconds : Int} (hseconds : 0 < seconds) :
    ((s.hset [(field, value)]).expire seconds).live =
      some ⟨Function.update (fun _ => none) field (some value), some (s.now + seconds * 1000)⟩ := by
  have hset : s.hset [(field, value)] = ⟨s.now, some ⟨Function.update (fun _ => none) field (some value), none⟩⟩ := by
    unfold Server.hset
    rw [hgone]
    rfl
  rw [hset]
  unfold Server.expire
  change Server.live (if seconds ≤ 0 then _ else _) = _
  rw [if_neg (Int.not_le.2 hseconds)]
  have hlater : s.now ≤ s.now + seconds * 1000 := by omega
  exact Option.filter_eq_some_iff.2 ⟨rfl, decide_eq_true hlater⟩

end Redis
