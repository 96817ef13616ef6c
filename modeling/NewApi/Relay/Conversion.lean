import NewApi.Billing.TextQuota

/-!
# The format a request is sent in

`relay/common/relay_info.go` and `request_conversion.go`: the formats a request is converted to, in order, and the format it reached the
upstream in, by which its usage is read at settlement. An adaptor may say the format itself: the Claude adaptor does, when it handles a
response. The record belongs to the request and goes on from one attempt to the next.
-/

namespace NewApi

inductive ConvertedRequest where
  | generalOpenAI | openAIResponses | claude | gemini | embedding | rerank | image | audio
  | other
  deriving DecidableEq, Repr

def guessRelayFormatFromRequest : ConvertedRequest → Option RelayFormat
  | .generalOpenAI => some .openAI
  | .openAIResponses => some .openAIResponses
  | .claude => some .claude
  | .gemini => some .gemini
  | .embedding => some .embedding
  | .rerank => some .rerank
  | .image => some .openAIImage
  | .audio => some .openAIAudio
  | .other => none

structure ConversionInfo where
  relayFormat : RelayFormat
  requestConversionChain : List RelayFormat := []
  finalRequestRelayFormat : Option RelayFormat := none
  deriving DecidableEq, Repr

namespace ConversionInfo

variable (info : ConversionInfo)

def initRequestConversionChain : ConversionInfo :=
  if info.requestConversionChain = [] then { info with requestConversionChain := [info.relayFormat] } else info

def appendRequestConversion (format : RelayFormat) : ConversionInfo :=
  match info.requestConversionChain.getLast? with
  | none => { info with requestConversionChain := [format] }
  | some last =>
    if last = format then info else { info with requestConversionChain := info.requestConversionChain ++ [format] }

def appendRequestConversionFromRequest (request : ConvertedRequest) : ConversionInfo :=
  match guessRelayFormatFromRequest request with
  | none => info
  | some format => info.appendRequestConversion format

def getFinalRequestRelayFormat : RelayFormat :=
  match info.finalRequestRelayFormat with
  | some format => format
  | none => info.requestConversionChain.getLast?.getD info.relayFormat

end ConversionInfo

/-- An attempt, as far as the formats go. Nothing is converted where the body goes upstream as it came, and where the attempt fails before.
-/
structure ConversionAttempt where
  converted : List ConvertedRequest := []
  claudeResponse : Bool := false
  deriving DecidableEq, Repr

/-- One pass of the retry loop. `DoResponse` of the Claude adaptor says the format before it reads the response. -/
def attemptConversion (info : ConversionInfo) (attempt : ConversionAttempt) : ConversionInfo :=
  let info := attempt.converted.foldl ConversionInfo.appendRequestConversionFromRequest info
  if attempt.claudeResponse then { info with finalRequestRelayFormat := some .claude } else info

def genConversionInfo (relayFormat : RelayFormat) : ConversionInfo :=
  ConversionInfo.initRequestConversionChain { relayFormat := relayFormat }

/-- What a request is billed from, with the format its record says. -/
def TextInfo.withFormat (info : TextInfo) (conversion : ConversionInfo) : TextInfo :=
  { info with finalRelayFormat := conversion.getFinalRequestRelayFormat }

end NewApi
