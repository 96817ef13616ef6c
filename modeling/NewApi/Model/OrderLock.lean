import Mathlib
import NewApi.Lib.Run
import NewApi.Lib.Mutex

/-!
# The locks of the orders

`controller/topup.go`. A callback of a payment provider completes an order under the lock of its trade number. `orderLocks` maps a trade
number to a mutex with a reference count. `LockOrder` finds or makes the entry and counts itself in under `createLock`, and then locks the
mutex. `UnlockOrder` reads the entry without `createLock`, unlocks its mutex, and counts itself out under `createLock`; the last one
removes the entry.

A mutex object is a reference into a heap. Each call of a mutex or of the map, and the counting under `createLock`, is one step.
-/

namespace NewApi

open Threads

/-- `refCountedMutex`, with the mutex as whether it is locked. -/
structure RefCountedMutex where
  mu : Bool
  refCount : Int
  deriving DecidableEq, Repr

/-- What the callers share: `createLock` as whether it is locked, `orderLocks` from trade numbers to mutex objects, and the heap
of these objects, of which those below `next` have been made. -/
structure OrderLocks where
  createLock : Bool
  orderLocks : String → Option Nat
  heap : Nat → RefCountedMutex
  next : Nat

/-- Where a caller of `LockOrder` and then `UnlockOrder` stands, with the object its variable `rcm` points to. -/
inductive OrderCaller where
  /-- Before `LockOrder`. -/
  | ready
  /-- In `LockOrder`, with `createLock`, before the counting. -/
  | counting
  /-- In `LockOrder`, with `createLock`, after the counting. -/
  | counted (rcm : Nat)
  /-- In `LockOrder`, at the mutex of the order. -/
  | waiting (rcm : Nat)
  /-- `LockOrder` has returned, with this mutex locked. -/
  | holding (rcm : Nat)
  /-- In `UnlockOrder`, with the entry it read. -/
  | unlocking (rcm : Nat)
  /-- In `UnlockOrder`, at `createLock`. -/
  | unlocked (rcm : Nat)
  /-- In `UnlockOrder`, with `createLock`, before the counting. -/
  | uncounting (rcm : Nat)
  /-- In `UnlockOrder`, with `createLock`, after the counting. -/
  | uncounted
  /-- `UnlockOrder` has returned. -/
  | done
  /-- The runtime has stopped the program for an unlock of a mutex that is not locked. -/
  | fatal
  deriving DecidableEq, Repr

namespace OrderLocks

variable (locks : OrderLocks)

/-- The entry of a trade number, made anew where there is none. -/
def loadOrStore (tradeNo : String) : OrderLocks × Nat :=
  match locks.orderLocks tradeNo with
  | some rcm => (locks, rcm)
  | none =>
    ({ locks with
        orderLocks := Function.update locks.orderLocks tradeNo (some locks.next)
        heap := Function.update locks.heap locks.next { mu := false, refCount := 0 }
        next := locks.next + 1 }, locks.next)

/-- The reference count of an object, changed by `n`. -/
def addRef (rcm : Nat) (n : Int) : OrderLocks :=
  { locks with heap := Function.update locks.heap rcm { locks.heap rcm with refCount := (locks.heap rcm).refCount + n } }

def setMu (rcm : Nat) (locked : Bool) : OrderLocks :=
  { locks with heap := Function.update locks.heap rcm { locks.heap rcm with mu := locked } }

def delete (tradeNo : String) : OrderLocks :=
  { locks with orderLocks := Function.update locks.orderLocks tradeNo none }

/-- The counting of `UnlockOrder`: the last caller removes the entry. -/
def dropRef (tradeNo : String) (rcm : Nat) : OrderLocks :=
  let locks := locks.addRef rcm (-1)
  if (locks.heap rcm).refCount = 0 then locks.delete tradeNo else locks

end OrderLocks

open OrderLocks

/-- The next step of a caller of `LockOrder(tradeNo)` and then `UnlockOrder(tradeNo)`. -/
def orderStatement (tradeNo : String) (locks : OrderLocks) : OrderCaller → OrderLocks × OrderCaller
  -- LockOrder
  | .ready => if locks.createLock then (locks, .ready) else ({ locks with createLock := true }, .counting)
  | .counting =>
    let (locks, rcm) := locks.loadOrStore tradeNo
    (locks.addRef rcm 1, .counted rcm)
  | .counted rcm => if locks.createLock then ({ locks with createLock := false }, .waiting rcm) else (locks, .fatal)
  | .waiting rcm => if (locks.heap rcm).mu then (locks, .waiting rcm) else (locks.setMu rcm true, .holding rcm)
  -- UnlockOrder
  | .holding _ =>
    match locks.orderLocks tradeNo with
    | none => (locks, .done)
    | some rcm => (locks, .unlocking rcm)
  | .unlocking rcm => if (locks.heap rcm).mu then (locks.setMu rcm false, .unlocked rcm) else (locks, .fatal)
  | .unlocked rcm => if locks.createLock then (locks, .unlocked rcm) else ({ locks with createLock := true }, .uncounting rcm)
  | .uncounting rcm => (locks.dropRef tradeNo rcm, .uncounted)
  | .uncounted => if locks.createLock then ({ locks with createLock := false }, .done) else (locks, .fatal)
  | .done => (locks, .done)
  | .fatal => (locks, .fatal)

variable {ι : Type} [DecidableEq ι]

/-- One step of one of the callers, for the trade number of each. -/
def orderStep (tradeNo : ι → String) (c : Conf OrderLocks ι OrderCaller) (i : ι) : Conf OrderLocks ι OrderCaller :=
  c.act i (orderStatement (tradeNo i))

/-- Before any call: no entry, and nothing locked. -/
def orderStart : Conf OrderLocks ι OrderCaller :=
  ⟨{ createLock := false, orderLocks := fun _ => none, heap := fun _ => { mu := false, refCount := 0 }, next := 0 },
    fun _ => .ready⟩

namespace OrderCaller

/-- The object of a caller past the counting step of `LockOrder` and not yet past that of `UnlockOrder`. -/
def uses : OrderCaller → Option Nat
  | .counted rcm | .waiting rcm | .holding rcm | .unlocking rcm | .unlocked rcm | .uncounting rcm => some rcm
  | .ready | .counting | .uncounted | .done | .fatal => none

/-- The object whose mutex the caller has locked: from the end of `LockOrder` to the unlock in `UnlockOrder`. -/
def owns : OrderCaller → Option Nat
  | .holding rcm | .unlocking rcm => some rcm
  | .ready | .counting | .counted _ | .waiting _ | .unlocked _ | .uncounting _ | .uncounted | .done | .fatal => none

def creates : OrderCaller → Prop
  | .counting | .counted _ | .uncounting _ | .uncounted => True
  | .ready | .waiting _ | .holding _ | .unlocking _ | .unlocked _ | .done | .fatal => False

end OrderCaller

end NewApi
