import Mathlib.Order.Defs.LinearOrder

/-!
# The limits on requests

`common/rate-limit.go`, and `common/limiter/lua/rate_limit.lua` with the arguments `redisRateLimitHandler` gives it. The in-memory limiter
keeps the times of the last accepted requests of a key, and a pass of its own drops whole queues; the script keeps a bucket of tokens in a
Redis hash. Both treat every key by itself, and what is modelled is what they do to one. Every call is given its time in seconds; the
numbers of the script are exact integers.
-/

namespace NewApi

/-! ## In memory -/

/-- What a pass of `clearExpiredItems` leaves of a queue, `expiration` being `int64(l.expirationDuration.Seconds())`. -/
def clearExpired (expiration : Int) (stored : Option (List Int)) (now : Int) : Option (List Int) :=
  stored.filter fun queue =>
    match queue.getLast? with
    | some newest => !decide (now - newest > expiration)
    | none => false

def request (stored : Option (List Int)) (maxRequestNum : Nat) (duration now : Int) : Option (List Int) × Bool :=
  match stored with
  | some queue =>
    if queue.length < maxRequestNum then (some (queue ++ [now]), true)
    else
      match queue with
      | oldest :: rest => if now - oldest ≥ duration then (some (rest ++ [now]), true) else (stored, false)
      -- out of range; no queue is stored empty
      | [] => (stored, false)
  | none => (some [now], true)

/-- What happens to a limiter, each at its time. -/
inductive LimiterCall where
  | request (now : Int)
  | clear (now : Int)

def LimiterCall.time : LimiterCall → Int
  | .request now => now
  | .clear now => now

/-- What is fixed over a run: the duration `Init` was given, in nanoseconds, with its whole seconds, and the limit. -/
structure LimiterSetup where
  expirationDuration : Int
  expiration : Int
  maxRequestNum : Nat
  duration : Int
  expiration_nonneg : 0 < expirationDuration → 0 ≤ expiration

/-- The queue of a key and the times at which its requests were accepted so far. `Init` starts the passes for a positive duration only. -/
def LimiterSetup.step (l : LimiterSetup) (s : Option (List Int) × List Int) : LimiterCall → Option (List Int) × List Int
  | .request now =>
    match request s.1 l.maxRequestNum l.duration now with
    | (stored, true) => (stored, s.2 ++ [now])
    | (stored, false) => (stored, s.2)
  | .clear now => if l.expirationDuration > 0 then (clearExpired l.expiration s.1 now, s.2) else s

/-! ## In Redis -/

/-- The hash of a bucket; its two fields are always written together. -/
structure Bucket where
  tokens : Int
  lastTime : Int
  deriving DecidableEq, Repr

/-- The tokens the script finds: a bucket that does not exist is full, and tokens flow in up to the capacity. -/
def tokensAt (rate capacity nowInSeconds : Int) : Option Bucket → Int
  | none => capacity
  | some b => min capacity (b.tokens + (nowInSeconds - b.lastTime) * rate)

def rateLimit (requested rate capacity : Int) (bucket : Option Bucket) (nowInSeconds : Int) : Bucket × Bool :=
  let tokens := tokensAt rate capacity nowInSeconds bucket
  if tokens ≥ requested then (⟨tokens - requested, nowInSeconds⟩, true) else (⟨tokens, nowInSeconds⟩, false)

/-- The script as `redisRateLimitHandler` runs it for the total limit. -/
def totalLimit (totalMaxCount duration : Int) (bucket : Option Bucket) (now : Int) : Bucket × Bool :=
  rateLimit duration totalMaxCount (totalMaxCount * duration) bucket now

end NewApi
