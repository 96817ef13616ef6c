import NewApi.Lib.Run
import NewApi.Lib.Text

/-!
# The model names of an attempt

`ModelMappedHelper` of `relay/helper/model_mapped.go`, and what the handlers do to the names around it. An attempt follows its channel's
mapping from `OriginModelName` to the end of the chain, the name sent upstream. The request is priced and logged by `OriginModelName`,
which all its attempts share.

What the text of a mapping decodes to is an input. `GeminiHelper` and `RelayTaskSubmit` set the names themselves beside calling the
helper.
-/

namespace NewApi

/-! ## Names -/

def compactModelSuffix : String := "-openai-compact"

def withCompactModelSuffix (modelName : String) : String :=
  if Text.endsWith modelName compactModelSuffix then modelName else modelName ++ compactModelSuffix

/-- The names on a `RelayInfo`, and the one in the body of the request. -/
structure RelayNames where
  originModelName : String
  upstreamModelName : String
  isModelMapped : Bool
  requestModel : String
  deriving DecidableEq, Repr

/-- What a channel's `model_mapping` is: nothing, a text that does not decode, or a table. -/
inductive ModelMapping where
  | empty
  | invalid
  | table (modelMap : List (String × String))
  deriving DecidableEq, Repr

/-! ## Following a mapping -/

/-- How the loop over a mapping ends: at the end of a chain, with whether the model was mapped; at the request's own model, mapped
to itself; or back at a model it has visited. -/
inductive MappingEnd where
  | leave (currentModel : String) (isModelMapped : Bool)
  | itself
  | cycle
  deriving DecidableEq, Repr

/-- The loop. Every round but the last visits one more of the table's models, so a round more than the table has entries is
enough (`followMapping_ends`). -/
def followMapping (modelMap : List (String × String)) (originModelName : String) : Nat → String → List String → Bool → Option MappingEnd
  | 0, _, _, _ => none
  | rounds + 1, currentModel, visitedModels, isModelMapped =>
    match modelMap.lookup currentModel with
    | none => some (.leave currentModel isModelMapped)
    | some mappedModel =>
      if mappedModel = "" then some (.leave currentModel isModelMapped)
      else if mappedModel ∈ visitedModels then
        if mappedModel = currentModel then
          if currentModel = originModelName then some .itself else some (.leave currentModel true)
        else some .cycle
      else followMapping modelMap originModelName rounds mappedModel (mappedModel :: visitedModels) true

/-- The entries whose model has not been visited. -/
def unvisited (modelMap : List (String × String)) (visitedModels : List String) : List (String × String) :=
  modelMap.filter fun entry => entry.2 ∉ visitedModels

/-- A visit takes an entry off those that were not visited. -/
theorem unvisited_visit_lt {modelMap : List (String × String)} {visitedModels : List String} {model mappedModel : String}
    (hlookup : modelMap.lookup model = some mappedModel) (hnew : mappedModel ∉ visitedModels) :
    (unvisited modelMap (mappedModel :: visitedModels)).length < (unvisited modelMap visitedModels).length := by
  have hentry : (model, mappedModel) ∈ modelMap := by
    obtain ⟨front, rest, rfl, -⟩ := List.lookup_eq_some_iff.1 hlookup
    simp
  have hsub : unvisited modelMap (mappedModel :: visitedModels) =
      (unvisited modelMap visitedModels).filter fun entry => entry.2 ≠ mappedModel := by
    unfold unvisited
    rw [List.filter_filter]
    refine List.filter_congr fun entry _ => ?_
    simp [not_or]
  rw [hsub]
  exact List.length_filter_lt_length_iff_exists.2 ⟨(model, mappedModel), by simp [unvisited, hentry, hnew], by simp⟩

theorem followMapping_ends (modelMap : List (String × String)) (originModelName currentModel : String)
    (visitedModels : List String) (isModelMapped : Bool) {rounds : Nat} (h : (unvisited modelMap visitedModels).length < rounds) :
    ∃ e, followMapping modelMap originModelName rounds currentModel visitedModels isModelMapped = some e := by
  induction rounds generalizing currentModel visitedModels isModelMapped with
  | zero => omega
  | succ rounds ih =>
    unfold followMapping
    cases hlookup : modelMap.lookup currentModel with
    | none => exact ⟨_, rfl⟩
    | some mappedModel =>
      by_cases hempty : mappedModel = ""
      · simp [hempty]
      by_cases hvisited : mappedModel ∈ visitedModels
      · by_cases hself : mappedModel = currentModel
        · simp only [if_neg hempty, if_pos hvisited, if_pos hself]
          split <;> exact ⟨_, rfl⟩
        · simp [hempty, hvisited, hself]
      · simp only [hempty, hvisited, if_false]
        have hvisit := unvisited_visit_lt hlookup hvisited
        exact ih _ _ _ (by omega)

/-! ## The helper -/

namespace RelayNames

/-- `InitChannelMeta` on the names: the channel was set up with `OriginModelName`. -/
def initChannelMeta (s : RelayNames) : RelayNames :=
  { s with upstreamModelName := s.originModelName, isModelMapped := false, requestModel := s.originModelName }

/-- The end of `ModelMappedHelper`: a compacted request takes the name sent upstream for its own, with the suffix. -/
def finishMapping (isResponsesCompact : Bool) (mappingModelName : String) (s : RelayNames) : RelayNames :=
  if isResponsesCompact then
    let final := if s.isModelMapped = true ∧ s.upstreamModelName ≠ "" then s.upstreamModelName else mappingModelName
    { s with upstreamModelName := final, originModelName := withCompactModelSuffix final, requestModel := final }
  else { s with requestModel := s.upstreamModelName }

def modelMappedHelper (isResponsesCompact : Bool) (modelMapping : ModelMapping) (s : RelayNames) : RelayNames × Except String Unit :=
  let mappingModelName :=
    if isResponsesCompact = true ∧ Text.endsWith s.originModelName compactModelSuffix = true then
      Text.trimSuffix s.originModelName compactModelSuffix
    else s.originModelName
  match modelMapping with
  | .empty => (s.finishMapping isResponsesCompact mappingModelName, .ok ())
  | .invalid => (s, .error "unmarshal_model_mapping_failed")
  | .table modelMap =>
    match followMapping modelMap s.originModelName (modelMap.length + 1) mappingModelName [mappingModelName] s.isModelMapped with
    | some (.leave currentModel isModelMapped) =>
      let mapped := if isModelMapped then { s with upstreamModelName := currentModel, isModelMapped := true } else s
      (mapped.finishMapping isResponsesCompact mappingModelName, .ok ())
    | some .itself => ({ s with isModelMapped := false }, .ok ())
    | _ => ({ s with isModelMapped := true }, .error "model_mapping_contains_cycle")

end RelayNames

/-! ## The handlers -/

/-- The settings a Gemini request's name depends on. -/
structure NameSettings where
  thinkingAdapterEnabled : Bool
  hasModelBillingConfig : String → Bool

/-- The handler of a request: `ResponsesHelper` in its compact mode; `GeminiHelper`, with whether the request asks for no thinking;
`RelayTaskSubmit`; or one of those that only call the helper. -/
inductive RelayHandler where
  | plain
  | responsesCompact
  | gemini (isNoThinkingRequest : Bool)
  | task
  deriving DecidableEq, Repr

/-- A channel: its mapping, and what `CoverTaskActionToModelName` makes of its platform and the request's action. -/
structure MappedChannel where
  modelMapping : ModelMapping
  taskModelName : String
  deriving DecidableEq, Repr

/-- What an attempt does to the names: the one `ModelMappedHelper` computes for the upstream, or its error, and the names the
attempt goes on with. -/
structure MappedAttempt where
  mapped : Except String String
  names : RelayNames

def RelayNames.mapFor (isResponsesCompact : Bool) (k : MappedChannel) (s : RelayNames) : MappedAttempt :=
  match s.modelMappedHelper isResponsesCompact k.modelMapping with
  | (s, .ok ()) => ⟨.ok s.upstreamModelName, s⟩
  | (s, .error e) => ⟨.error e, s⟩

variable (st : NameSettings)

/-- The Gemini request has a name without thinking, and that name is priced. -/
def NameSettings.takesNoThinkingName (isNoThinkingRequest : Bool) (modelName : String) : Bool :=
  st.thinkingAdapterEnabled && isNoThinkingRequest && !Text.contains modelName "-nothinking" &&
    st.hasModelBillingConfig (modelName ++ "-nothinking")

/-- `GeminiHelper` after the helper has succeeded. -/
def RelayNames.noThinking (isNoThinkingRequest : Bool) (s : RelayNames) : RelayNames :=
  if st.takesNoThinkingName isNoThinkingRequest s.originModelName then
    { s with originModelName := s.originModelName ++ "-nothinking", upstreamModelName := s.originModelName ++ "-nothinking" }
  else s

def MappedChannel.taskName (k : MappedChannel) (modelName : String) : String := if modelName = "" then k.taskModelName else modelName

variable (h : RelayHandler)

/-- The names of an attempt on a channel. `RelayTaskSubmit` puts the request's name back after the mapping. -/
def RelayNames.attempt (k : MappedChannel) (s : RelayNames) : MappedAttempt :=
  let s := s.initChannelMeta
  match h with
  | .plain => s.mapFor false k
  | .responsesCompact => s.mapFor true k
  | .gemini isNoThinkingRequest =>
    let a := s.mapFor false k
    match a.mapped with
    | .ok _ => { a with names := a.names.noThinking st isNoThinkingRequest }
    | .error _ => a
  | .task =>
    let modelName := k.taskName s.originModelName
    let a := { s with originModelName := modelName, upstreamModelName := modelName }.mapFor false k
    match a.mapped with
    | .ok _ => { a with names := { a.names with originModelName := modelName } }
    | .error _ => a

/-- The request as it comes from the distributor, which marks a compacted one by the suffix. -/
def RelayHandler.startModel (model : String) : String :=
  if h = .responsesCompact then withCompactModelSuffix model else model

def RelayHandler.start (model : String) : RelayNames :=
  ⟨h.startModel model, "", false, h.startModel model⟩

/-- The names after failed attempts on the channels. -/
def RelayNames.failed (s : RelayNames) (ks : List MappedChannel) : RelayNames :=
  Run.exec (fun s k => (s.attempt st h k).names) s ks

end NewApi
