import NewApi.Lib.RedisKey
import NewApi.Lib.Run

/-!
# Objects cached in Redis hashes

`common/redis.go`, and the caches of users and tokens built on it: `RedisHSetObj` writes every field of an object in one transaction,
`RedisHIncrBy` and `RedisHSetField` change one field of a cached object, and `RedisHGetObj` reads one. The two ask for the time to live
first, and then change the field and renew it in one transaction. A command or a transaction is one step, and time passes between the
steps.
-/

namespace NewApi

open Threads

/-! ## The objects -/

inductive FieldKind where
  | string | int | bool | stringPtr | deletedAt
  deriving DecidableEq, Repr

/-- The values of a field of a kind; a time is in seconds. -/
def FieldKind.Value : FieldKind → Type
  | .string => String
  | .int => Int
  | .bool => Bool
  | .stringPtr => Option String
  | .deletedAt => Option Int

def FieldKind.zero : (kind : FieldKind) → kind.Value
  | .string => ""
  | .int => (0 : Int)
  | .bool => false
  | .stringPtr => (none : Option String)
  | .deletedAt => (none : Option Int)

structure StructField where
  name : String
  kind : FieldKind
  deriving DecidableEq, Repr

abbrev StructValue := (f : StructField) → f.kind.Value

/-- The two structs that are cached, `UserBase` and `Token`. -/
inductive CachedObject where
  | userBase | token
  deriving DecidableEq, Repr

def CachedObject.fields : CachedObject → List StructField
  | .userBase =>
    [⟨"Id", .int⟩, ⟨"Group", .string⟩, ⟨"Email", .string⟩, ⟨"Quota", .int⟩, ⟨"Status", .int⟩, ⟨"Username", .string⟩,
      ⟨"Setting", .string⟩]
  | .token =>
    [⟨"Id", .int⟩, ⟨"UserId", .int⟩, ⟨"Key", .string⟩, ⟨"Status", .int⟩, ⟨"Name", .string⟩, ⟨"CreatedTime", .int⟩,
      ⟨"AccessedTime", .int⟩, ⟨"ExpiredTime", .int⟩, ⟨"RemainQuota", .int⟩, ⟨"UnlimitedQuota", .bool⟩,
      ⟨"ModelLimitsEnabled", .bool⟩, ⟨"ModelLimits", .string⟩, ⟨"AllowIps", .stringPtr⟩, ⟨"UsedQuota", .int⟩, ⟨"Group", .string⟩,
      ⟨"CrossGroupRetry", .bool⟩, ⟨"DeletedAt", .deletedAt⟩]

variable (obj : CachedObject)

/-- The fields `RedisHSetObj` writes: it skips the time of deletion. -/
def CachedObject.written : List StructField := obj.fields.filter fun f => decide (f.kind ≠ .deletedAt)

/-- What `RedisHSetObj` writes for a value: an empty text for a nil pointer. The time of deletion is not written. -/
def FieldKind.text : (kind : FieldKind) → kind.Value → String
  | .string, value => value
  | .int, value => toString (show Int from value)
  | .bool, value => if (show Bool from value) then "true" else "false"
  | .stringPtr, value => (show Option String from value).getD ""
  | .deletedAt, _ => ""

/-- The fields and texts `RedisHSetObj` writes. -/
def CachedObject.data (value : StructValue) : List (String × String) :=
  obj.written.map fun f => (f.name, f.kind.text (value f))

/-! ## Reading an object -/

def numError (fn text reason : String) : String := "strconv." ++ fn ++ ": parsing " ++ text.quote ++ ": " ++ reason

def parseInt (text : String) : Except String Int :=
  let n : Option Int := match text.toList with
    | '-' :: cs => (Redis.parseNat cs).map fun n => -(n : Int)
    | '+' :: cs => (Redis.parseNat cs).map fun n => (n : Int)
    | cs => (Redis.parseNat cs).map fun n => (n : Int)
  match n with
  | none => .error (numError "ParseInt" text "invalid syntax")
  | some n => if -(2 ^ 63) ≤ n ∧ n < 2 ^ 63 then .ok n else .error (numError "ParseInt" text "value out of range")

def parseBool (text : String) : Except String Bool :=
  if text ∈ ["1", "t", "T", "TRUE", "true", "True"] then .ok true
  else if text ∈ ["0", "f", "F", "FALSE", "false", "False"] then .ok false
  else .error (numError "ParseBool" text "invalid syntax")

/-- What `RedisHGetObj` makes of the text of a field: `none` where it leaves the field alone. `parseTime` is `time.Parse` in the format of
RFC 3339. -/
def StructField.read (parseTime : String → Except String Int) (name text : String) : (kind : FieldKind) →
    Except String (Option kind.Value)
  | .string => .ok (some text)
  | .int => match parseInt text with
    | .ok n => .ok (some n)
    | .error e => .error ("failed to parse int field " ++ name ++ ": " ++ e)
  | .bool => match parseBool text with
    | .ok b => .ok (some b)
    | .error e => .error ("failed to parse bool field " ++ name ++ ": " ++ e)
  | .stringPtr => if text = "" then .ok none else .ok (some (some text : Option String))
  | .deletedAt =>
    if text = "" then .ok none
    else match parseTime text with
      | .ok t => .ok (some (some t : Option Int))
      | .error e => .error ("failed to parse DeletedAt field " ++ name ++ ": " ++ e)

/-- One field of the loop: a field the hash does not hold keeps its value. -/
def readField (parseTime : String → Except String Int) (hash : Redis.Hash) (value : StructValue) (f : StructField) :
    Except String StructValue :=
  match hash f.name with
  | none => .ok value
  | some text =>
    match StructField.read parseTime f.name text f.kind with
    | .error e => .error e
    | .ok none => .ok value
    | .ok (some v) => .ok (Function.update value f v)

/-- `RedisHGetObj` into a zero object, where the server answers. A hash of Redis is never empty, so the reply is empty where the key is
gone. -/
def redisHGetObj (parseTime : String → Except String Int) (key : String) (obj : CachedObject) (s : Redis.Server) :
    Except String StructValue :=
  match s.live with
  | none => .error ("key " ++ key ++ " not found in Redis")
  | some k => obj.fields.foldlM (readField parseTime k.hash) fun f => f.kind.zero

/-! ## The calls -/

/-- What `RedisHIncrBy` and `RedisHSetField` change. -/
inductive FieldChange where
  | incrBy (field : String) (delta : Int64)
  | set (field value : String)
  deriving DecidableEq, Repr

/-- The calls on a key; an expiration is in milliseconds. -/
inductive RedisCall where
  | hSetObj (value : StructValue) (expiration : Int)
  | change (change : FieldChange)
  | delKey

def RedisCall.hIncrBy (field : String) (delta : Int64) : RedisCall := .change (.incrBy field delta)

/-- How a command or a transaction goes: answered, refused without effect, or run with its answer lost. -/
inductive RedisAnswer where
  | ok
  | refused (message : String)
  | lost (message : String)
  deriving DecidableEq, Repr

def RedisAnswer.runs : RedisAnswer → Bool
  | .ok | .lost _ => true
  | .refused _ => false

/-- The error the caller gets, where the server itself gives `e`. -/
def RedisAnswer.error (e : Option String) : RedisAnswer → Option String
  | .ok => e
  | .refused message | .lost message => some message

/-- Where a call stands: before its first command, before the transaction that changes the field, with the time to live it read, or
over. -/
inductive RedisCallState where
  | ready
  | transaction (change : FieldChange) (ttl : Int)
  | done (err : Option String)
  deriving DecidableEq, Repr

/-- The seconds `EXPIRE` is sent: a time below a second is sent as one. -/
def formatSec (ms : Int) : Int := if 0 < ms ∧ ms < 1000 then 1 else ms / 1000

def setObj (value : StructValue) (expiration : Int) (s : Redis.Server) : Redis.Server :=
  if 0 < expiration then (s.hset (obj.data value)).expire (formatSec expiration) else s.hset (obj.data value)

/-- The transaction of `RedisHIncrBy` and `RedisHSetField`: a command that fails does not keep the other from running. -/
def FieldChange.transaction (change : FieldChange) (ttl : Int) (s : Redis.Server) : Redis.Server × Option String :=
  match change with
  | .incrBy field delta => match s.hincrby field delta.toInt with
    | .ok s => (s.expire ttl, none)
    | .error e => (s.expire ttl, some e)
  | .set field value => ((s.hset [(field, value)]).expire ttl, none)

/-- The next step of a call on a key of an object. -/
def redisStatement (call : RedisCall) (answer : RedisAnswer) (s : Redis.Server) :
    RedisCallState → Redis.Server × RedisCallState
  | .ready => match call with
    | .hSetObj value expiration =>
      (if answer.runs then setObj obj value expiration s else s,
        .done ((answer.error none).map ("failed to execute transaction: " ++ ·)))
    | .delKey => (if answer.runs then s.del else s, .done (answer.error none))
    | .change change => match answer with
      | .ok => (s, if 0 < s.ttl then .transaction change s.ttl else .done none)
      | .refused message | .lost message => (s, .done (some ("failed to get TTL: " ++ message)))
  | .transaction change ttl =>
    if answer.runs then ((change.transaction ttl s).1, .done (answer.error (change.transaction ttl s).2))
    else (s, .done (answer.error none))
  | .done err => (s, .done err)

/-! ## Runs -/

/-- A call takes its next step, or time passes. -/
inductive RedisEvent (ι : Type) where
  | turn (i : ι) (answer : RedisAnswer)
  | wait (ms : Nat)
  deriving DecidableEq, Repr

variable {ι : Type} [DecidableEq ι]

def redisStep (calls : ι → RedisCall) (c : Conf Redis.Server ι RedisCallState) :
    RedisEvent ι → Conf Redis.Server ι RedisCallState
  | .turn i answer => c.act i (redisStatement obj (calls i) answer)
  | .wait ms => { c with shared := c.shared.wait ms }

omit [DecidableEq ι] in
def redisStart (s : Redis.Server) : Conf Redis.Server ι RedisCallState := ⟨s, fun _ => .ready⟩

/-- The key is gone, or it holds every field `RedisHSetObj` writes. -/
def CachedObject.Whole (s : Redis.Server) : Prop := s.Whole (obj.written.map (·.name))

/-- A transaction that changes a field finds the key. -/
def RedisCallState.FindsKey (answer : RedisAnswer) (s : Redis.Server) : RedisCallState → Prop
  | .transaction _ _ => answer.runs = true → s.live.isSome
  | .ready | .done _ => True

instance (answer : RedisAnswer) (s : Redis.Server) : DecidablePred (RedisCallState.FindsKey answer s)
  | .transaction _ _ => inferInstanceAs (Decidable (answer.runs = true → s.live.isSome))
  | .ready | .done _ => inferInstanceAs (Decidable True)

omit [DecidableEq ι] in
/-- An event at which every transaction that changes a field finds the key. -/
def KeyStillThere (c : Conf Redis.Server ι RedisCallState) : RedisEvent ι → Prop
  | .turn i answer => (c.threads i).FindsKey answer c.shared
  | .wait _ => True

omit [DecidableEq ι] in
instance (c : Conf Redis.Server ι RedisCallState) : DecidablePred (KeyStillThere c)
  | .turn i answer => inferInstanceAs (Decidable ((c.threads i).FindsKey answer c.shared))
  | .wait _ => inferInstanceAs (Decidable True)

end NewApi
