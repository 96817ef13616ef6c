import NewApi.Model.RedisHash

/-!
# Cached hashes, whole or gone

The time to live is read in one round trip and the field changed in another. A key that expires or is deleted in between is made anew
by the change, with one field: a cached object is whole or gone in every state of a run exactly when no change comes to a key that is
gone.
-/

namespace NewApi

open Run Threads

namespace RedisAux

variable {obj : CachedObject} {s : Redis.Server} {ttl : Int}

/-- No object has one field only. -/
theorem exists_other_field (field : String) : ∃ name ∈ obj.written.map (·.name), name ≠ field := by
  by_cases hfield : field = "Id"
  · refine ⟨"Status", by cases obj <;> decide, ?_⟩
    rw [hfield]
    decide
  · exact ⟨"Id", by cases obj <;> decide, Ne.symm hfield⟩

/-- Writing the object makes it whole. -/
theorem whole_setObj (value : StructValue) (expiration : Int) : obj.Whole (setObj obj value expiration s) := by
  have hall : ∀ name ∈ obj.written.map (·.name), name ∈ (obj.data value).map Prod.fst := by
    intro name hname
    simpa [CachedObject.data] using hname
  unfold setObj
  split
  · exact Redis.Server.whole_expire (Redis.Server.whole_hset_all hall s) _
  · exact Redis.Server.whole_hset_all hall s

/-- A field that is written to a key that is gone is its only one. -/
theorem not_whole_of_gone (hgone : s.live = none) (field value : String) (httl : 0 < ttl) :
    ¬ obj.Whole ((s.hset [(field, value)]).expire ttl) := by
  intro hwhole
  obtain ⟨name, hname, hother⟩ := exists_other_field field
  have hfield := hwhole _ (Redis.Server.live_expire_hset hgone field value httl) name hname
  simp [hother] at hfield

/-- A change keeps it whole exactly where the key is there. -/
theorem whole_transaction (change : FieldChange) (httl : 0 < ttl) (h : obj.Whole s) :
    obj.Whole (change.transaction ttl s).1 ↔ s.live.isSome := by
  constructor
  · intro hwhole
    by_contra hnone
    have hgone : s.live = none := by simpa using hnone
    cases change with
    | incrBy field delta =>
      have hok : s.hincrby field delta.toInt = .ok (s.hset [(field, toString (0 + delta.toInt))]) := by
        unfold Redis.Server.hincrby
        rw [hgone]
        have hlow := Int64.le_toInt delta
        have hhigh := Int64.toInt_lt delta
        simp only
        rw [if_pos ⟨by omega, by omega⟩]
      simp only [FieldChange.transaction, hok] at hwhole
      exact not_whole_of_gone hgone _ _ httl hwhole
    | set field value => exact not_whole_of_gone hgone field value httl hwhole
  · intro hlive
    cases change with
    | incrBy field delta =>
      simp only [FieldChange.transaction]
      split
      · rename_i s' hok
        -- the new value is written to the key that is there
        unfold Redis.Server.hincrby at hok
        simp only at hok
        split at hok
        · cases hok
        split at hok
        · cases hok
          exact Redis.Server.whole_expire (Redis.Server.whole_hset_live h hlive _) ttl
        · cases hok
      · exact Redis.Server.whole_expire h ttl
    | set field value => exact Redis.Server.whole_expire (Redis.Server.whole_hset_live h hlive _) ttl

/-- A transaction is prepared with a time to live that was there. -/
def TtlRead : RedisCallState → Prop
  | .transaction _ ttl => 0 < ttl
  | .ready | .done _ => True

theorem ttlRead_statement (call : RedisCall) (answer : RedisAnswer) (state : RedisCallState) :
    TtlRead (redisStatement obj call answer s state).2 := by
  cases state with
  | ready =>
    cases call with
    | hSetObj _ _ | delKey => trivial
    | change change =>
      cases answer with
      | ok =>
        simp only [redisStatement]
        split
        · assumption
        · trivial
      | refused _ | lost _ => trivial
  | transaction change ttl =>
    simp only [redisStatement]
    split <;> trivial
  | done err => trivial

/-- A step of a call leaves the object whole exactly when a transaction that changes a field finds the key. -/
theorem whole_statement (call : RedisCall) (answer : RedisAnswer) {state : RedisCallState} (httl : TtlRead state) (h : obj.Whole s) :
    obj.Whole (redisStatement obj call answer s state).1 ↔ state.FindsKey answer s := by
  cases state with
  | ready =>
    refine iff_of_true ?_ trivial
    cases call with
    | hSetObj value expiration =>
      simp only [redisStatement]
      split
      · exact whole_setObj value expiration
      · exact h
    | delKey =>
      simp only [redisStatement]
      split
      · exact Redis.Server.whole_del s _
      · exact h
    | change change => cases answer <;> exact h
  | transaction change ttl =>
    simp only [redisStatement, RedisCallState.FindsKey]
    by_cases hruns : answer.runs = true
    · simp only [hruns, if_true, forall_const]
      exact whole_transaction change httl h
    · simpa [hruns] using h
  | done err => exact iff_of_true h trivial

variable {ι : Type} [DecidableEq ι] {calls : ι → RedisCall}

/-- A transaction has read a lifetime. -/
theorem ttlRead_step (c : Conf Redis.Server ι RedisCallState) (e : RedisEvent ι) (h : ∀ i, TtlRead (c.threads i)) :
    ∀ i, TtlRead ((redisStep obj calls c e).threads i) := by
  cases e with
  | turn i answer =>
    exact (Function.forall_update_iff c.threads (p := fun _ s => TtlRead s)).2 ⟨ttlRead_statement _ _ _, fun j _ => h j⟩
  | wait ms => exact h

/-- A step keeps it whole exactly where the key is still there. -/
theorem whole_step (c : Conf Redis.Server ι RedisCallState) (e : RedisEvent ι) (httl : ∀ i, TtlRead (c.threads i))
    (h : obj.Whole c.shared) : obj.Whole (redisStep obj calls c e).shared ↔ KeyStillThere c e := by
  cases e with
  | turn i answer => exact whole_statement (calls i) answer (httl i) h
  | wait ms => exact iff_of_true (Redis.Server.whole_wait h ms) trivial

end RedisAux

open RedisAux

/-- For any calls of `RedisHSetObj`, `RedisHIncrBy`, `RedisHSetField` and `RedisDelKey` on the key of a cached user or token, in any
interleaving of their commands and with any time passing in between: in every state reached the key is gone or holds every field that
`RedisHSetObj` writes, and `RedisHGetObj` succeeds on whole objects only, exactly when every transaction that changes a field finds the
key. -/
theorem cachedHash_whole_iff {ι : Type} [DecidableEq ι] (obj : CachedObject) (calls : ι → RedisCall) (s : Redis.Server)
    (h0 : obj.Whole s) (es : List (RedisEvent ι)) :
    (∀ pre, pre <+: es →
      let s' := (exec (redisStep obj calls) (redisStart s) pre).shared
      obj.Whole s' ∧ ∀ parseTime key value, redisHGetObj parseTime key obj s' = .ok value →
        ∃ k, s'.live = some k ∧ ∀ f ∈ obj.written, (k.hash f.name).isSome) ↔
      Along (redisStep obj calls) KeyStillThere (redisStart s) es := by
  have hiff : Along (redisStep obj calls) KeyStillThere (redisStart s) es ↔
      ∀ pre, pre <+: es → obj.Whole (exec (redisStep obj calls) (redisStart s) pre).shared := by
    refine along_iff_reached (I := fun c : Conf Redis.Server ι RedisCallState => ∀ i, TtlRead (c.threads i))
      (P := fun c => obj.Whole c.shared) ?_ ?_ ?_ h0 es
    · exact fun c e h => ttlRead_step c e h
    · exact fun c e httl h => whole_step c e httl h
    · exact fun _ => trivial
  rw [hiff]
  refine forall₂_congr fun pre _ => ⟨fun h => h.1, fun hwhole => ⟨hwhole, fun parseTime key value hread => ?_⟩⟩
  unfold redisHGetObj at hread
  split at hread
  · cases hread
  · rename_i k hk
    exact ⟨k, hk, fun f hf => hwhole k hk f.name (List.mem_map_of_mem hf)⟩

namespace RedisAux

/-- A user with a quota of 1000 who is enabled. -/
def cachedUser : StructValue
  | ⟨"Quota", .int⟩ => (1000 : Int)
  | ⟨"Status", .int⟩ => (1 : Int)
  | ⟨_, kind⟩ => kind.zero

/-- The user is cached for a minute; a request of theirs is charged 100. -/
def cacheCalls : Fin 2 → RedisCall
  | 0 => .hSetObj cachedUser 60000
  | 1 => .hIncrBy "Quota" (-100)

/-- The cache of the user after the events, on a server where nothing is cached at first. -/
def cachedAfter (es : List (RedisEvent (Fin 2))) : Redis.Server :=
  (exec (redisStep .userBase cacheCalls) (redisStart ⟨0, none⟩) es).shared

/-- The quota and the status read from the cache; a user's cache holds no time. -/
def readUser (s : Redis.Server) : Option (Int × Int) :=
  (redisHGetObj (fun text => .error text) "user:1" .userBase s).toOption.map fun value =>
    (value ⟨"Quota", .int⟩, value ⟨"Status", .int⟩)

end RedisAux

theorem cachedHash_whole_iff_sample :
    let events : List (RedisEvent (Fin 2)) := [.turn 0 .ok, .turn 1 .ok, .wait 59000, .turn 1 .ok]
    readUser (cachedAfter events) = some (900, 1) ∧ CachedObject.userBase.Whole (cachedAfter events) := by
  refine ⟨by decide +kernel, ?_⟩
  exact ((cachedHash_whole_iff .userBase cacheCalls ⟨0, none⟩ (Redis.Server.whole_of_absent rfl) _).2 (by decide +kernel) _
    List.prefix_rfl).1

/-- The charge reads the time to live, the key expires, and the charge makes it anew: a user with a quota of -100 and no status is read
from the cache. -/
theorem expired_hash_recreated :
    let s := cachedAfter [.turn 0 .ok, .turn 1 .ok, .wait 61000, .turn 1 .ok]
    (s.live.map fun k => (k.hash "Quota", k.hash "Status")) = some (some "-100", none) ∧
      ¬ CachedObject.userBase.Whole s ∧ readUser s = some (-100, 0) := by
  have hlive : ((cachedAfter [.turn 0 .ok, .turn 1 .ok, .wait 61000, .turn 1 .ok]).live.map fun k =>
      (k.hash "Quota", k.hash "Status")) = some (some "-100", none) := by decide +kernel
  refine ⟨hlive, fun hwhole => ?_, by decide +kernel⟩
  obtain ⟨k, hk, hfields⟩ := Option.map_eq_some_iff.1 hlive
  have hstatus := hwhole k hk "Status" (by decide)
  rw [(Prod.mk.inj hfields).2] at hstatus
  cases hstatus

end NewApi
