import NewApi.Lib.Run

/-!
# The body of an upstream request and its length

How a handler of `relay/` selects the body it sends, and how `DoApiRequest` of `relay/channel/api_request.go` declares its length. A
channel gets the client's body as it came or as its adaptor has converted it, from a storage whose type `net/http` does not know; the
handler notes the length in `UpstreamRequestBodySize`, in the `RelayInfo` that all attempts share. What the conversion comes to is an
input.
-/

namespace NewApi

/-- What `http.NewRequest` is given: a reader whose type it does not know, or a `*bytes.Buffer`. -/
inductive BodyReader where
  | readerOnly (bytes : List UInt8)
  | buffer (bytes : List UInt8)
  deriving DecidableEq, Repr

inductive BodyHandler where
  | text | claude | responses | image | gemini | rerank | embedding | geminiEmbedding
  deriving DecidableEq, Repr

/-- The handlers for embeddings always convert. -/
def BodyHandler.mayPassThrough : BodyHandler → Bool
  | .embedding | .geminiEmbedding => false
  | _ => true

/-- What converting the request comes to: an error, the JSON to be sent, or the form `ImageHelper` may get. -/
inductive ConvertedBody where
  | error
  | json (jsonData : List UInt8)
  | form (form : List UInt8)
  deriving DecidableEq, Repr

/-- A channel: whether its setting passes the body through, and what its adaptor makes of the request. -/
structure BodyChannel where
  passThroughBodyEnabled : Bool
  converted : ConvertedBody
  deriving DecidableEq, Repr

/-- A request: its handler, the client's body, and the global setting. -/
structure BodyRequest where
  handler : BodyHandler
  body : List UInt8
  passThroughRequestEnabled : Bool
  deriving DecidableEq, Repr

namespace BodyRequest

variable (r : BodyRequest)

/-- The client's body goes to the channel as it came. -/
def passesThrough (ch : BodyChannel) : Bool :=
  r.handler.mayPassThrough && (r.passThroughRequestEnabled || ch.passThroughBodyEnabled)

/-- `NewOutboundJSONBody`: the reader, and the size of its storage. -/
def newOutboundJSONBody (data : List UInt8) : BodyReader × Nat := (.readerOnly data, data.length)

/-- The body a handler selects, with `UpstreamRequestBodySize` before and after. Only `ClaudeHelper` notes the size of a body it
passes through. -/
def selectBody (upstreamRequestBodySize : Nat) (ch : BodyChannel) : Nat × Option BodyReader :=
  if r.passesThrough ch then
    (if r.handler = .claude then r.body.length else upstreamRequestBodySize, some (.readerOnly r.body))
  else match ch.converted with
    | .error => (upstreamRequestBodySize, none)
    | .form form => (upstreamRequestBodySize, some (.buffer form))
    | .json jsonData =>
      let (body, size) := newOutboundJSONBody jsonData
      (size, some body)

/-- The `ContentLength` of `http.NewRequest`; 0 is a length that is not known. -/
def newRequestLength : BodyReader → Nat
  | .readerOnly _ => 0
  | .buffer bytes => bytes.length

def applyUpstreamContentLength (upstreamRequestBodySize contentLength : Nat) : Nat :=
  if 0 < upstreamRequestBodySize ∧ contentLength ≤ 0 then upstreamRequestBodySize else contentLength

/-- The request an attempt sends: its body, and the length it declares. Nothing is sent where the conversion fails. -/
def send (upstreamRequestBodySize : Nat) (ch : BodyChannel) : Option (BodyReader × Nat) :=
  match r.selectBody upstreamRequestBodySize ch with
  | (_, none) => none
  | (size, some body) => some (body, applyUpstreamContentLength size (newRequestLength body))

/-- `UpstreamRequestBodySize` after attempts on the channels; a request starts with 0. -/
def sizeAfter (earlier : List BodyChannel) : Nat :=
  Run.exec (fun size ch => (r.selectBody size ch).1) 0 earlier

end BodyRequest

/-- The declared length is the real one, or none is declared, where `net/http` has not set it itself. -/
def DeclaresRealLength : BodyReader × Nat → Prop
  | (.readerOnly bytes, contentLength) => contentLength = 0 ∨ contentLength = bytes.length
  | (.buffer _, _) => True

end NewApi
