import NewApi.Billing.Session
import NewApi.Relay.ClaudeRequest

/-!
# The relay loop

`Relay` of `controller/relay.go`, once the request is pre-charged: it tries one channel after another until an attempt succeeds, an error
is not worth another attempt, or the attempts are used up. A deferred function refunds the pre-charge when the named error variable is
set; a success settles the billing session. A panic leaves the loop at once, and the deferred function finds the error variable as it was.

What the parts around the loop answer are inputs of an attempt. The request type is arbitrary, so the loop covers every relay format.
-/

namespace NewApi

/-- `types.NewAPIError`, as the retry decision reads it. -/
structure RelayError where
  errorCode : String
  statusCode : Int
  skipRetry : Bool
  message : String
  deriving DecidableEq, Repr

/-- The settings of the retry decision: `NormalizeViolationFeeError`, `IsAlwaysSkipRetryCode`, `ShouldRetryByStatusCode`. -/
structure RetryPolicy where
  normalizeViolationFeeError : RelayError → RelayError
  isAlwaysSkipRetryCode : String → Bool
  shouldRetryByStatusCode : Int → Bool

/-- What the retry decision reads of the request. -/
structure RetryContext where
  /-- `ShouldSkipRetryAfterChannelAffinityFailure`. -/
  affinitySkipRetry : Bool
  /-- The request names its channel. -/
  specificChannel : Bool
  deriving DecidableEq, Repr

/-- One pass of the loop over requests of type `ρ`. -/
structure Attempt (ρ : Type) extends RetryContext where
  /-- The error of `getChannel`, if any. -/
  channel : Option RelayError
  /-- The error of `GetBodyStorage`, if any. -/
  body : Option RelayError
  /-- What the handler refuses before it converts the request. -/
  prepare : Option RelayError
  /-- The body goes upstream as it came. -/
  passThrough : Bool
  /-- The conversion of the channel's adaptor. -/
  convert : ρ → Outcome Unit
  /-- The error a failed conversion is reported as. -/
  convertError : String → RelayError
  /-- The error of the upstream request or of its response, if any. -/
  upstream : Option RelayError
  /-- The quota a successful attempt settles on. -/
  actualQuota : Int
  /-- The channel selection set the retry counter back to 0 (`SetRetry`). -/
  resetRetry : Bool
  /-- The channel selection asked not to count this attempt (`ResetRetryNextTry`). -/
  resetNextTry : Bool

inductive AttemptEnd where
  | success
  | error (e : RelayError)
  | panic
  deriving DecidableEq, Repr

variable {ρ : Type}

/-- The handler of one attempt, with a channel and a body at hand. -/
def Attempt.handle (a : Attempt ρ) (req : ρ) : AttemptEnd :=
  let afterConversion := match a.upstream with
    | some e => .error e
    | none => .success
  match a.prepare with
  | some e => .error e
  | none =>
    if a.passThrough then afterConversion
    else match a.convert req with
      | .panic _ => .panic
      | .error m => .error (a.convertError m)
      | .ok () => afterConversion

def RelayError.isChannelError (e : RelayError) : Bool := "channel:".toList.isPrefixOf e.errorCode.toList

def shouldRetry (policy : RetryPolicy) (context : RetryContext) (e : RelayError) (retryTimes : Int) : Bool :=
  if context.affinitySkipRetry then false
  else if e.isChannelError then true
  else if e.skipRetry then false
  else if retryTimes ≤ 0 then false
  else if context.specificChannel then false
  else if 200 ≤ e.statusCode ∧ e.statusCode < 300 then false
  else if e.statusCode < 100 ∨ 599 < e.statusCode then true
  else if policy.isAlwaysSkipRetryCode e.errorCode then false
  else policy.shouldRetryByStatusCode e.statusCode

/-- The calls `Relay` makes on the billing session. -/
inductive BillingCall where
  | settle (actualQuota : Int)
  | refund
  deriving DecidableEq, Repr

/-- A request that has ended: the calls made on its billing session, and whether it ended in a panic. -/
structure RelayEnd where
  calls : List BillingCall
  panicked : Bool
  deriving DecidableEq, Repr

/-- The deferred function: refund where the error variable is set. -/
def deferred (newAPIError : Option RelayError) : List BillingCall :=
  match newAPIError with
  | some _ => [.refund]
  | none => []

/-- The loop, from its test on: the attempts still to come, the retry counter and the error variable. `none` is a loop that
has not ended with the attempts given. -/
def relayLoop (policy : RetryPolicy) (retryTimes : Int) (req : ρ) : List (Attempt ρ) → Int → Option RelayError → Option RelayEnd
  | [], retry, newAPIError => if retryTimes < retry then some ⟨deferred newAPIError, false⟩ else none
  | a :: rest, retry, newAPIError =>
    if retryTimes < retry then some ⟨deferred newAPIError, false⟩
    else match a.channel with
      | some e => some ⟨deferred (some e), false⟩
      | none =>
        match a.body with
        | some e => some ⟨deferred (some e), false⟩
        | none =>
          match a.handle req with
          | .panic => some ⟨deferred newAPIError, true⟩
          | .success => some ⟨.settle a.actualQuota :: deferred none, false⟩
          | .error e =>
            let e := policy.normalizeViolationFeeError e
            let retry := if a.resetRetry then 0 else retry
            if shouldRetry policy a.toRetryContext e (retryTimes - retry) then
              relayLoop policy retryTimes req rest (if a.resetNextTry then retry else retry + 1) (some e)
            else some ⟨deferred (some e), false⟩

/-- A pre-charged request: the loop with no attempt counted and no error yet. -/
def relay (policy : RetryPolicy) (retryTimes : Int) (req : ρ) (attempts : List (Attempt ρ)) : Option RelayEnd :=
  relayLoop policy retryTimes req attempts 0 none

/-- The call on the session, with statements that meet no fault. -/
def BillingCall.toCall : BillingCall → Call
  | .settle a => .settle a ⟨none, none⟩
  | .refund => .refund

/-- The conversion of a chat request for a Claude channel. -/
def claudeConvert (env : ConvertEnv) (r : GeneralOpenAIRequest) : Outcome Unit :=
  requestOpenAI2ClaudeMessage env r >>= fun _ => pure ()

end NewApi
