import NewApi.Relay.GroupPricing
import NewApi.Relay.Loop

/-!
# The attempts of a request

`Distribute` of `middleware/distributor.go`, which selects the first channel of a request, and the retry loop of `Relay` in
`controller/relay.go`, which selects the others. The place among the groups `auto` stands for is kept in the retry counter, its flag and
the index in the context; middleware and loop have a counter each and share the index.

What the cache, the keys of a channel and the handlers answer is an input of every pass. Requests refused before the selection are left
out.
-/

namespace NewApi

/-- A channel for an attempt, and the place of its group among the auto groups where it was selected from one. -/
structure Selected where
  channel : Int
  place : Option Nat
  deriving DecidableEq, Repr

structure DistributeInput where
  /-- `specific_channel_id`: the channel the token pins, enabled. -/
  specificChannel : Option Int
  /-- The channel of `GetPreferredChannelByAffinity`, where it is enabled and serves the path. -/
  preferred : Option Int
  isChannelEnabledForGroupModel : String → Int → Bool
  satisfied : RelayPricing.Satisfied

namespace RelayPricing

/-- The place of the auto group just selected: the index points to it, or past it where its retries are used up. -/
def place (r : RelayPricing) : Option Nat := r.autoGroupIndex.map fun i => if r.resetNextTry then i - 1 else i

/-- The preferred channel, with the first group that has it. The index of the auto groups stays unset. -/
def affinity (st : PricingSettings) (d : DistributeInput) (r : RelayPricing) : Option (RelayPricing × Selected) :=
  match d.preferred with
  | none => none
  | some preferred =>
    if r.usingGroup = "auto" then
      let autoGroups := st.getUserAutoGroup r.userGroup
      (autoGroups.findIdx? fun g => d.isChannelEnabledForGroupModel g preferred).map fun i =>
        ({ r with autoGroup := autoGroups[i]? }, ⟨preferred, some i⟩)
    else if d.isChannelEnabledForGroupModel r.usingGroup preferred then some (r, ⟨preferred, none⟩)
    else none

/-- `Distribute`: the pinned channel, the preferred one, or one selected with a counter of its own. `none` is a request that has no
channel. -/
def distribute (st : PricingSettings) (d : DistributeInput) (r : RelayPricing) : Option (RelayPricing × Selected) :=
  match d.specificChannel with
  | some id => some (r, ⟨id, none⟩)
  | none =>
    match r.affinity st d with
    | some found => some found
    | none =>
      match { r with tokenGroup := r.usingGroup, retry := 0, resetNextTry := false }.cacheGetRandomSatisfiedChannel st d.satisfied with
      | (r', .ok (some id)) => some ({ r' with tokenGroup := r.tokenGroup }, ⟨id, r'.place⟩)
      | _ => none

end RelayPricing

/-- One pass of the loop: what the selection is given, the error of `GetBodyStorage` and how the handler ends. -/
structure RelayPass where
  input : RelayPricing.RetryInput
  body : Option RelayError
  handled : AttemptEnd

/-- An attempt that reached the handler, and the error it ended with, as the loop keeps it. -/
structure Contact where
  selected : Selected
  error : Option RelayError
  deriving DecidableEq, Repr

/-- The channel of a pass: that of the context until an attempt has been made (`ChannelMeta` is nil), then one of `getChannel`. -/
def RelayPass.select (st : PricingSettings) (p : RelayPass) (first : Option Selected) (r : RelayPricing) : RelayPricing × Option Selected :=
  match first with
  | some s => (r, some s)
  | none =>
    match { r with relay := { r.relay with originModelName := p.input.originModelName } }.getChannel st p.input with
    | (r, .ok channel) => (r, some ⟨channel, r.place⟩)
    | (r, .error _) => (r, none)

/-- The loop from its test on: the attempts it makes with the passes given, and whether it has ended. -/
def relayPasses (policy : RetryPolicy) (context : RetryContext) (st : PricingSettings) :
    List RelayPass → Option Selected → RelayPricing → List Contact × Bool
  | [], _, r => ([], decide (st.retryTimes < r.retry))
  | p :: rest, first, r =>
    if st.retryTimes < r.retry then ([], true)
    else match p.select st first r with
      | (_, none) => ([], true)
      | (r, some s) =>
        if p.body.isSome then ([], true)
        else match p.handled with
          | .error e =>
            let e := policy.normalizeViolationFeeError e
            if shouldRetry policy context e (st.retryTimes - r.retry) then
              let later := relayPasses policy context st rest none r.increaseRetry
              (⟨s, some e⟩ :: later.1, later.2)
            else ([⟨s, some e⟩], true)
          | .success => ([⟨s, none⟩], true)
          | .panic => ([⟨s, none⟩], true)

/-- A request: the first channel, then the loop with a counter of its own. -/
def relayRequest (policy : RetryPolicy) (affinitySkipRetry : Bool) (st : PricingSettings) (d : DistributeInput) (passes : List RelayPass)
    (r : RelayPricing) : Option (List Contact × Bool) :=
  (r.distribute st d).map fun (r, first) =>
    relayPasses policy ⟨affinitySkipRetry, d.specificChannel.isSome⟩ st passes (some first) { r with retry := 0, resetNextTry := false }

end NewApi
