import NewApi.Relay.Loop

/-!
# Header overrides of a channel

`relay/common/override.go`: which headers a channel's settings add to an upstream request. A channel has a map of headers, and operations
that change the request's body and that map before it is sent, some on conditions over the body and what is known of the request. What
they leave is kept as the run-time overrides.

The libraries that read and write JSON by path are parameters, and so are the operations on the body.
-/

namespace NewApi

open Tables

/-! ## Operations -/

/-- The modes that change the body only. -/
inductive BodyMode where
  | delete | set | move | copy | prepend | append | trimPrefix | trimSuffix | ensurePrefix | ensureSuffix | trimSpace | toLower | toUpper
  | replace | regexReplace
  deriving DecidableEq, Repr

inductive OperationMode where
  | body (mode : BodyMode)
  | pruneObjects
  | returnError
  | setHeader | deleteHeader | copyHeader | moveHeader | passHeaders | syncFields
  | unknown (mode : String)
  deriving DecidableEq, Repr

inductive ConditionMode where
  | full | prefixes | suffixes | contains | gt | gte | lt | lte
  | unsupported (mode : String)
  deriving DecidableEq, Repr

structure ConditionOperation where
  path : String
  mode : ConditionMode
  value : Json
  invert : Bool := false
  passMissingKey : Bool := false

/-- `ParamOperation`; the conditions are joined by AND or by OR. -/
structure ParamOperation where
  path : String := ""
  mode : OperationMode
  value : Json := .null
  keepOrigin : Bool := false
  source : String := ""
  target : String := ""
  conditions : List ConditionOperation := []
  allOf : Bool := false

/-- The `param_override` of a channel, as `tryParseOperations` reads it: the operations, where it has them, and the fields that are set in
the body. -/
structure ParamOverride where
  legacy : List (String × Json) := []
  operations : Option (List ParamOperation) := none

def ParamOverride.isEmpty (p : ParamOverride) : Bool := p.legacy.isEmpty && p.operations.isNone

/-! ## Headers -/

abbrev HeaderMap := Table (Prod.fst : String × String → String)

/-- The two maps of headers an operation sees: those of the request, and the overrides. -/
structure HeaderContext where
  requestHeaders : HeaderMap
  headerOverride : HeaderMap

/-- What is taken from outside: the case mapping and formatting of Go, the JSON libraries, and the operations on the body. -/
structure OverrideEnv where
  toLower : String → String
  equalFold : String → String → Bool
  /-- `fmt.Sprintf("%v", _)` of a value that is no string. -/
  sprint : Json → String
  gjsonGet : Json → String → Option Json
  gjsonString : Json → String
  gjsonNum : String → ℚ
  sjsonSet : Json → String → Json → Except String Json
  escapeSjsonLiteralKey : String → String
  processNegativeIndex : Json → String → String
  bodyOperation : BodyMode → ParamOperation → Json → Except String Json
  pruneObjects : ParamOperation → Json → Json → Except String Json
  parseHeaderPassThroughNames : Json → Except String (List String)
  returnErrorMessage : Json → String

section
variable (env : OverrideEnv)

/-- `fmt.Sprintf("%v", _)`. -/
def OverrideEnv.format : Json → String
  | .str s => s
  | v => env.sprint v

def normalizeHeaderContextKey (key : String) : String := Text.trimSpace (env.toLower key)

def isHeaderPassthroughRuleKeyForOverride (key : String) : Bool :=
  let key := Text.trimSpace (env.toLower key)
  key = "*" || Text.startsWith key "re:" || Text.startsWith key "regex:"

/-- `sanitizeHeaderOverrideMap`, over the entries of a map in the order in which they are gone through. -/
def sanitizeHeaderOverrideMap (entries : List (String × Json)) : HeaderMap :=
  entries.foldl (fun target entry =>
    let key := normalizeHeaderContextKey env entry.1
    let value := Text.trimSpace (env.format entry.2)
    if key = "" then target
    else if value = "" then
      if isHeaderPassthroughRuleKeyForOverride env key then target.put (key, "") else target
    else target.put (key, value)) Table.empty

def HeaderMap.entries (h : HeaderMap) : List (String × Json) := h.rows.map fun row => (row.1, .str row.2)

def buildRequestHeadersContext (headers : List (String × String)) : HeaderMap :=
  headers.foldl (fun target header =>
    let key := normalizeHeaderContextKey env header.1
    let value := Text.trimSpace header.2
    if key = "" ∨ value = "" then target else target.put (key, value)) Table.empty

/-- A value of a map that is not empty. -/
def headerValue (h : HeaderMap) (name : String) : Option String :=
  match h.lookup name with
  | some row => if Text.trimSpace row.2 = "" then none else some (Text.trimSpace row.2)
  | none => none

variable (ctx : HeaderContext)

/-- `getHeaderValueFromContext`: the override, or else the request's header. -/
def getHeaderValueFromContext (name : String) : Option String :=
  let name := normalizeHeaderContextKey env name
  if name = "" then none
  else (headerValue ctx.headerOverride name).or (headerValue ctx.requestHeaders name)

def splitHeaderListValue (raw : String) : List String :=
  ((raw.splitOn ",").map Text.trimSpace).filter (· ≠ "")

mutual

def parseHeaderReplacementTokens : Json → Except String (List String)
  | .null => .ok []
  | .str raw => .ok (splitHeaderListValue raw)
  | .arr items => (parseHeaderReplacementItems items).map List.eraseDups
  | .obj _ => .error "header replacement value must be string, array or null"
  | .bool b => .ok (((Text.trimSpace (env.sprint (.bool b))) :: []).filter (· ≠ ""))
  | .num literal => .ok (((Text.trimSpace (env.sprint (.num literal))) :: []).filter (· ≠ ""))

/-- The items of an array, one after the other. -/
def parseHeaderReplacementItems : List Json → Except String (List String)
  | [] => .ok []
  | item :: rest => do
    let tokens ← parseHeaderReplacementTokens item
    let more ← parseHeaderReplacementItems rest
    return tokens ++ more

end

def mappingValue (mapping : List (String × Json)) (key : String) : Option Json :=
  (mapping.filter fun field => field.1 = key).getLast?.map Prod.snd

/-- The tokens a token of the header is replaced by. -/
def replaceToken (mapping : List (String × Json)) (keepOnlyDeclared : Bool) (token : String) : Except String (List String) :=
  match mappingValue mapping token with
  | some replacement => parseHeaderReplacementTokens env replacement
  | none =>
    match mappingValue mapping "*" with
    | some wildcard => if keepOnlyDeclared then .ok [] else parseHeaderReplacementTokens env wildcard
    | none => .ok (if keepOnlyDeclared then [] else [token])

/-- `resolveHeaderOverrideValueByMapping`: the header's tokens, replaced one by one; `none` where nothing is left. -/
def resolveHeaderOverrideValueByMapping (name : String) (mapping : List (String × Json)) :
    Except String (Option String) :=
  if mapping = [] then .error "header value mapping cannot be empty"
  else do
    let appendTokens ← match mappingValue mapping "$append" with
      | some raw => parseHeaderReplacementTokens env raw
      | none => .ok []
    let keepOnlyDeclared := match mappingValue mapping "$keep_only_declared" with
      | some (.bool b) => b
      | _ => false
    let sourceTokens := ((getHeaderValueFromContext env ctx name).map splitHeaderListValue).getD []
    let replaced ← sourceTokens.mapM (replaceToken env mapping keepOnlyDeclared)
    let tokens := (replaced.flatten ++ appendTokens).eraseDups
    return if tokens = [] then none else some (",".intercalate tokens)

def resolveHeaderOverrideValue (name : String) (value : Json) : Except String (Option String) :=
  match value with
  | .null => .error "header value is required"
  | .obj mapping => resolveHeaderOverrideValueByMapping env ctx name mapping
  | value =>
    let text := Text.trimSpace (env.format value)
    .ok (if text = "" then none else some text)

def setHeaderOverrideInContext (name : String) (value : Json) (keepOrigin : Bool) : Except String HeaderContext :=
  let name := normalizeHeaderContextKey env name
  if name = "" then .error "header name is required"
  else if keepOrigin && (headerValue ctx.headerOverride name).isSome then .ok ctx
  else do
    match ← resolveHeaderOverrideValue env ctx name value with
    | some text => return { ctx with headerOverride := ctx.headerOverride.put (name, text) }
    | none => return { ctx with headerOverride := ctx.headerOverride.remove name }

def deleteHeaderOverrideInContext (name : String) : Except String HeaderContext :=
  let name := normalizeHeaderContextKey env name
  if name = "" then .error "header name is required"
  else .ok { ctx with headerOverride := ctx.headerOverride.remove name }

/-- `copyHeaderInContext`; a source that is not there is no error for its callers, and changes nothing. -/
def copyHeaderInContext (source target : String) (keepOrigin : Bool) : Except String HeaderContext :=
  let source := normalizeHeaderContextKey env source
  let target := normalizeHeaderContextKey env target
  if source = "" ∨ target = "" then .error "copy_header from/to is required"
  else match getHeaderValueFromContext env ctx source with
    | none => .ok ctx
    | some value => setHeaderOverrideInContext env ctx target (.str value) keepOrigin

def moveHeaderInContext (source target : String) (keepOrigin : Bool) : Except String HeaderContext :=
  let source := normalizeHeaderContextKey env source
  let target := normalizeHeaderContextKey env target
  if source = "" ∨ target = "" then .error "move_header from/to is required"
  else match getHeaderValueFromContext env ctx source with
    | none => .ok ctx
    | some value => do
      let ctx ← setHeaderOverrideInContext env ctx target (.str value) keepOrigin
      if env.equalFold source target then return ctx else deleteHeaderOverrideInContext env ctx source

/-- `pass_headers`: each of the names is copied onto itself. -/
def passHeaders (keepOrigin : Bool) : List String → HeaderContext → Except String HeaderContext
  | [], ctx => .ok ctx
  | name :: rest, ctx => do
    let ctx ← copyHeaderInContext env ctx name name keepOrigin
    passHeaders keepOrigin rest ctx

/-- A target of `sync_fields`: a path in the body, or a header. -/
inductive SyncTarget where
  | json (key : String)
  | header (key : String)
  deriving DecidableEq, Repr

def parseSyncTarget (spec : String) : Except String SyncTarget :=
  let raw := Text.trimSpace spec
  let front := raw.toList.takeWhile (· ≠ ':')
  if raw = "" then .error "sync_fields target is required"
  else if front = raw.toList then .ok (.json raw)
  else
    let kind := env.toLower (Text.trimSpace (String.ofList front))
    let key := Text.trimSpace (String.ofList (raw.toList.drop (front.length + 1)))
    if key = "" then .error ("sync_fields target key is required: " ++ raw)
    else if kind = "json" ∨ kind = "body" then .ok (.json key)
    else if kind = "header" then .ok (.header key)
    else .error ("sync_fields target prefix is invalid: " ++ raw)

def readSyncTargetValue (data : Json) (ctx : HeaderContext) : SyncTarget → Option Json
  | .json key =>
    match env.gjsonGet data (env.processNegativeIndex data key) with
    | none | some .null => none
    | some (.str text) => if Text.trimSpace text = "" then none else some (.str text)
    | some value => some value
  | .header key => (getHeaderValueFromContext env ctx key).map .str

def writeSyncTargetValue (data : Json) (ctx : HeaderContext) (value : Json) : SyncTarget → Except String (Json × HeaderContext)
  | .json key => do
    let data ← env.sjsonSet data (env.processNegativeIndex data key) value
    return (data, ctx)
  | .header key => do
    let ctx ← setHeaderOverrideInContext env ctx key value false
    return (data, ctx)

/-- `syncFieldsBetweenTargets`: the side that is missing is set to the other. -/
def syncFieldsBetweenTargets (data : Json) (ctx : HeaderContext) (source target : String) : Except String (Json × HeaderContext) := do
  let source ← parseSyncTarget env source
  let target ← parseSyncTarget env target
  match readSyncTargetValue env data ctx source, readSyncTargetValue env data ctx target with
  | some value, none => writeSyncTargetValue env data ctx value target
  | none, some value => writeSyncTargetValue env data ctx value source
  | _, _ => return (data, ctx)

end

/-! ## Conditions -/

/-- The error an attempt ended with, as the next one is told of it. -/
structure LastError extends RelayError where
  errorType : String

/-- What the operations are told of the request beside its headers. -/
structure RequestContext where
  upstreamModel : String
  originalModel : String
  requestPath : String
  retryIndex : Int
  lastError : Option LastError
  isChannelTest : Bool

/-- The context as JSON: `BuildParamOverrideContext` and `marshalContextJSON`. -/
def contextJson (request : RequestContext) (ctx : HeaderContext) : Json :=
  let isRetry := Json.bool (decide (0 < request.retryIndex))
  let retryIndex := Json.num (toString request.retryIndex)
  let model := if request.upstreamModel ≠ "" then request.upstreamModel else request.originalModel
  let optional (key value : String) : List (String × Json) := if value = "" then [] else [(key, .str value)]
  let lastError := match request.lastError with
    | none => []
    | some e =>
      let status := Json.num (toString e.statusCode)
      [("last_error", .obj [("status_code", status), ("message", .str e.message), ("code", .str e.errorCode),
          ("error_code", .str e.errorCode), ("type", .str e.errorType), ("error_type", .str e.errorType),
          ("skip_retry", .bool e.skipRetry)]),
        ("last_error_status_code", status), ("last_error_message", .str e.message), ("last_error_code", .str e.errorCode),
        ("last_error_type", .str e.errorType)]
  .obj (optional "model" model ++ optional "upstream_model" request.upstreamModel ++ optional "original_model" request.originalModel ++
    optional "request_path" request.requestPath ++
    [("request_headers", .obj ctx.requestHeaders.entries), ("header_override", .obj ctx.headerOverride.entries),
      ("retry_index", retryIndex), ("is_retry", isRetry), ("retry", .obj [("index", retryIndex), ("is_retry", isRetry)])] ++
    lastError ++ [("is_channel_test", .bool request.isChannelTest)])

section
variable (env : OverrideEnv)

/-- The type of a value, as the JSON library names it. -/
def gjsonType : Json → String
  | .null => "Null"
  | .bool b => if b then "True" else "False"
  | .num _ => "Number"
  | .str _ => "String"
  | .arr _ | .obj _ => "JSON"

def compareEqual : Json → Json → Except String Bool
  | .null, .null => .ok true
  | .null, _ | _, .null => .ok false
  | .bool a, .bool b => .ok (a == b)
  | .num a, .num b => .ok (decide (env.gjsonNum a = env.gjsonNum b))
  | .str a, .str b => .ok (a == b)
  | a@(.arr _), b@(.arr _) | a@(.arr _), b@(.obj _) | a@(.obj _), b@(.arr _) | a@(.obj _), b@(.obj _) =>
    .ok (env.gjsonString a == env.gjsonString b)
  | a, b => .error ("compare for different types, got " ++ gjsonType a ++ " and " ++ gjsonType b)

def compareNumeric (compare : ℚ → ℚ → Bool) : Json → Json → Except String Bool
  | .num a, .num b => .ok (compare (env.gjsonNum a) (env.gjsonNum b))
  | a, b => .error ("numeric comparison requires both values to be numbers, got " ++ gjsonType a ++ " and " ++ gjsonType b)

def compareGjsonValues (value target : Json) : ConditionMode → Except String Bool
  | .full => compareEqual env value target
  | .prefixes => .ok (Text.startsWith (env.gjsonString value) (env.gjsonString target))
  | .suffixes => .ok (Text.endsWith (env.gjsonString value) (env.gjsonString target))
  | .contains => .ok (Text.contains (env.gjsonString value) (env.gjsonString target))
  | .gt => compareNumeric env (fun a b => decide (b < a)) value target
  | .gte => compareNumeric env (fun a b => decide (b ≤ a)) value target
  | .lt => compareNumeric env (fun a b => decide (a < b)) value target
  | .lte => compareNumeric env (fun a b => decide (a ≤ b)) value target
  | .unsupported mode => .error ("unsupported comparison mode: " ++ mode)

/-- `checkSingleCondition`: the body is asked first, and the context where it has no answer. -/
def checkSingleCondition (data context : Json) (condition : ConditionOperation) : Except String Bool :=
  match (env.gjsonGet data (env.processNegativeIndex data condition.path)).or (env.gjsonGet context condition.path) with
  | none => .ok condition.passMissingKey
  | some value => do
    let result ← (compareGjsonValues env value condition.value condition.mode).mapError fun e =>
      "comparison failed for path " ++ condition.path ++ ": " ++ e
    return result != condition.invert

def checkConditions (data context : Json) (op : ParamOperation) : Except String Bool :=
  if op.conditions.isEmpty then .ok true
  else do
    let results ← op.conditions.mapM (checkSingleCondition env data context)
    return if op.allOf then results.all id else results.any id

/-! ## Applying the operations -/

/-- The names a header is copied or moved between: the path stands in where one is missing. -/
def headerNames (op : ParamOperation) : String × String :=
  let source := Text.trimSpace op.source
  let target := Text.trimSpace op.target
  let path := Text.trimSpace op.path
  (if source = "" then path else source, if target = "" then path else target)

/-- What an operation does once its conditions are met. -/
def applyOperation (request : RequestContext) (op : ParamOperation) (data : Json) (ctx : HeaderContext) :
    Except String (Json × HeaderContext) :=
  let failed {α : Type} (mode : String) (result : Except String α) : Except String α :=
    result.mapError fun e => "operation " ++ mode ++ " failed: " ++ e
  let onHeaders (mode : String) (result : Except String HeaderContext) : Except String (Json × HeaderContext) :=
    (failed mode result).map fun ctx => (data, ctx)
  let onBody (result : Except String Json) : Except String (Json × HeaderContext) := result.map fun data => (data, ctx)
  match op.mode with
  | .body mode => onBody (env.bodyOperation mode op data)
  | .pruneObjects => onBody (env.pruneObjects op (contextJson request ctx) data)
  | .returnError => .error (env.returnErrorMessage op.value)
  | .setHeader => onHeaders "set_header" (setHeaderOverrideInContext env ctx op.path op.value op.keepOrigin)
  | .deleteHeader => onHeaders "delete_header" (deleteHeaderOverrideInContext env ctx op.path)
  | .copyHeader => onHeaders "copy_header" (copyHeaderInContext env ctx (headerNames op).1 (headerNames op).2 op.keepOrigin)
  | .moveHeader => onHeaders "move_header" (moveHeaderInContext env ctx (headerNames op).1 (headerNames op).2 op.keepOrigin)
  | .passHeaders => do
    let names ← env.parseHeaderPassThroughNames op.value
    onHeaders "pass_headers" (passHeaders env op.keepOrigin names ctx)
  | .syncFields => failed "sync_fields" (syncFieldsBetweenTargets env data ctx op.source op.target)
  | .unknown mode => .error ("unknown operation: " ++ mode)

def applyOperations (request : RequestContext) : List ParamOperation → Json → HeaderContext → Except String (Json × HeaderContext)
  | [], data, ctx => .ok (data, ctx)
  | op :: rest, data, ctx => do
    if ← checkConditions env data (contextJson request ctx) op then
      let (data, ctx) ← applyOperation env request op data ctx
      applyOperations request rest data ctx
    else applyOperations request rest data ctx

def applyOperationsLegacy : List (String × Json) → Json → Except String Json
  | [], data => .ok data
  | field :: rest, data => do
    let data ← env.sjsonSet data (env.escapeSjsonLiteralKey field.1) field.2
    applyOperationsLegacy rest data

def applyParamOverride (override : ParamOverride) (request : RequestContext) (data : Json) (ctx : HeaderContext) :
    Except String (Json × HeaderContext) := do
  let data ← applyOperationsLegacy env override.legacy data
  applyOperations env request (override.operations.getD []) data ctx

end

/-! ## The request -/

/-- What `InitChannelMeta` takes from a channel, as far as overrides go, with the model name the request's is mapped to. -/
structure ChannelOverrides where
  paramOverride : ParamOverride := {}
  headersOverride : List (String × Json) := []
  upstreamModelName : String := ""

/-- The names in the state of a request that its handlers write. -/
structure RequestNames where
  originModelName : String := ""
  requestURLPath : String := ""

/-- What does not change over the attempts of a request. -/
structure OverrideRequest where
  requestHeaders : List (String × String) := []
  isChannelTest : Bool := false

/-- `RelayInfo`, as far as overrides go: it is one for all attempts of a request. -/
structure OverrideInfo where
  request : OverrideRequest
  names : RequestNames := {}
  channelMeta : Option ChannelOverrides := none
  runtimeHeadersOverride : HeaderMap := Table.empty
  useRuntimeHeadersOverride : Bool := false
  retryIndex : Int := 0
  lastError : Option LastError := none

section
variable (env : OverrideEnv)

def getEffectiveHeaderOverride (info : OverrideInfo) : HeaderMap :=
  if info.useRuntimeHeadersOverride then sanitizeHeaderOverrideMap env info.runtimeHeadersOverride.entries
  else sanitizeHeaderOverrideMap env ((info.channelMeta.map ChannelOverrides.headersOverride).getD [])

/-- `BuildParamOverrideContext`: what the operations are told beside the headers, -/
def requestContext (info : OverrideInfo) : RequestContext :=
  ⟨(info.channelMeta.map ChannelOverrides.upstreamModelName).getD "", info.names.originModelName, info.names.requestURLPath,
    info.retryIndex, info.lastError, info.request.isChannelTest⟩

/-- and the headers. -/
def headerContext (info : OverrideInfo) : HeaderContext :=
  ⟨buildRequestHeadersContext env info.request.requestHeaders,
    sanitizeHeaderOverrideMap env (getEffectiveHeaderOverride env info).entries⟩

/-- `ApplyParamOverrideWithRelayInfo`: an override that is applied leaves its headers as the run-time overrides of the request. -/
def applyParamOverrideWithRelayInfo (data : Json) (info : OverrideInfo) : Except String (Json × OverrideInfo) :=
  let override := (info.channelMeta.map ChannelOverrides.paramOverride).getD {}
  if override.isEmpty then .ok (data, info)
  else do
    let (data, ctx) ← applyParamOverride env override (requestContext info) data (headerContext env info)
    return (data, { info with
      runtimeHeadersOverride := sanitizeHeaderOverrideMap env ctx.headerOverride.entries, useRuntimeHeadersOverride := true })

/-- One pass of the retry loop, by what its handler makes of the names it finds: the model name it sends upstream, the names it leaves in
the request's state (`ModelMappedHelper` renames a compacted request, the Gemini handler one without thinking, Replicate's adaptor the
path), and the body. There is no body to override where it goes upstream as it came, and where the handler fails before. -/
structure OverrideAttempt where
  channel : ChannelOverrides
  body : RequestNames → Option Json
  upstreamModelName : RequestNames → String := RequestNames.originModelName
  renames : RequestNames → RequestNames := id
  resetRetry : Bool := false
  resetNextTry : Bool := false

def initChannelMeta (channel : ChannelOverrides) (info : OverrideInfo) : OverrideInfo := { info with channelMeta := some channel }

/-- The request's state once the handler has mapped the model name. -/
def mapAttempt (attempt : OverrideAttempt) (info : OverrideInfo) : OverrideInfo :=
  initChannelMeta { attempt.channel with upstreamModelName := attempt.upstreamModelName info.names }
    { info with names := attempt.renames info.names }

/-- The handler of an attempt up to the request upstream: the request's state with the overrides applied, where that goes well. -/
def prepareAttempt (attempt : OverrideAttempt) (info : OverrideInfo) : Except String OverrideInfo :=
  match attempt.body info.names with
  | none => .ok (mapAttempt attempt info)
  | some data => (applyParamOverrideWithRelayInfo env data (mapAttempt attempt info)).map Prod.snd

/-- The header overrides an attempt sends upstream, where it gets that far. -/
def attemptHeaders (attempt : OverrideAttempt) (info : OverrideInfo) : Except String HeaderMap :=
  (prepareAttempt env attempt info).map (getEffectiveHeaderOverride env)

/-- An attempt that failed: the request's state is kept, with the error and the next retry index. -/
def failAttempt (info : OverrideInfo) (failed : OverrideAttempt × LastError) : OverrideInfo :=
  let after := match prepareAttempt env failed.1 info with
    | .ok after => after
    | .error _ => mapAttempt failed.1 info
  let retry := if failed.1.resetRetry then 0 else info.retryIndex
  { after with lastError := some failed.2, retryIndex := if failed.1.resetNextTry then retry else retry + 1 }

end

end NewApi
