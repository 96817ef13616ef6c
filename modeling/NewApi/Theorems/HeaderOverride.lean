import NewApi.Relay.HeaderOverride

/-!
# Whose headers an attempt sends

The state of a request is one for all of its attempts. An attempt that applies the overrides of its channel leaves their headers there, and
the handler of one may leave another model name; as long as none has, an attempt sends what its own channel says, and what its channel's
operations make of the retry they are told of.
-/

namespace NewApi

open Run Tables

/-- The attempt applies overrides of its channel, and goes on. -/
def appliesOverride (env : OverrideEnv) (info : OverrideInfo) (attempt : OverrideAttempt) : Bool :=
  match attempt.body info.names with
  | none => false
  | some data => !attempt.channel.paramOverride.isEmpty && (applyParamOverrideWithRelayInfo env data (mapAttempt attempt info)).isOk

/-- A failed attempt leaves the request's state to the next: it applied no overrides, and its handler left the names as they were. -/
def LeavesState (env : OverrideEnv) (info : OverrideInfo) (failed : OverrideAttempt × LastError) : Prop :=
  appliesOverride env info failed.1 = false ∧ failed.1.renames info.names = info.names

/-- The channel's operations ask for no condition, and prune no objects by one. -/
def ChannelOverrides.Unconditional (channel : ChannelOverrides) : Prop :=
  ∀ op ∈ channel.paramOverride.operations.getD [], op.conditions.isEmpty = true ∧ op.mode ≠ .pruneObjects

instance (channel : ChannelOverrides) : Decidable channel.Unconditional :=
  inferInstanceAs (Decidable (∀ op ∈ channel.paramOverride.operations.getD [], op.conditions.isEmpty = true ∧ op.mode ≠ .pruneObjects))

namespace HeaderAux

variable {request : OverrideRequest} {names : RequestNames} {info : OverrideInfo}

/-! ## What the failed attempts leave -/

/-- The request's state has its first names and no run-time overrides. -/
def Clean (request : OverrideRequest) (names : RequestNames) (info : OverrideInfo) : Prop :=
  info.request = request ∧ info.names = names ∧ info.useRuntimeHeadersOverride = false ∧ info.runtimeHeadersOverride = Table.empty

/-- An attempt that leaves the state leaves it clean. -/
theorem clean_failAttempt {env : OverrideEnv} (failed : OverrideAttempt × LastError) (hleaves : LeavesState env info failed)
    (h : Clean request names info) : Clean request names (failAttempt env info failed) := by
  obtain ⟨attempt, error⟩ := failed
  obtain ⟨hquiet, hnames⟩ := hleaves
  obtain ⟨hrequest, hkept, hruntime⟩ := h
  have hmapped : Clean request names (mapAttempt attempt info) := ⟨hrequest, hnames.trans hkept, hruntime⟩
  unfold failAttempt prepareAttempt
  unfold appliesOverride at hquiet
  simp only at hquiet ⊢
  cases hbody : attempt.body info.names with
  | none => exact hmapped
  | some data =>
    simp only [hbody, Bool.and_eq_false_iff, Bool.not_eq_false'] at hquiet
    rcases hquiet with hempty | hfails
    · -- a channel without overrides changes nothing
      have hsame : applyParamOverrideWithRelayInfo env data (mapAttempt attempt info) = .ok (data, mapAttempt attempt info) := by
        exact if_pos hempty
      simp only [hsame]
      exact hmapped
    · cases happly : applyParamOverrideWithRelayInfo env data (mapAttempt attempt info) with
      | error e =>
        simp only [happly]
        exact hmapped
      | ok result =>
        rw [happly] at hfails
        cases hfails

/-- From a clean state an attempt sends what it sends as the first, told of the retry. -/
theorem attemptHeaders_clean (h : Clean request names info) (env : OverrideEnv) (attempt : OverrideAttempt) :
    attemptHeaders env attempt info =
      attemptHeaders env attempt { request := request, names := names, retryIndex := info.retryIndex, lastError := info.lastError } := by
  obtain ⟨hrequest, hnames, huse, hruntime⟩ := h
  unfold attemptHeaders prepareAttempt mapAttempt initChannelMeta
  rw [hrequest, hnames, huse, hruntime]

/-! ## Operations that ask for no condition -/

/-- Operations without conditions do not read the request context. -/
theorem applyOperations_unconditional {ops : List ParamOperation}
    (h : ∀ op ∈ ops, op.conditions.isEmpty = true ∧ op.mode ≠ .pruneObjects) (env : OverrideEnv) (told told' : RequestContext)
    (data : Json) (ctx : HeaderContext) : applyOperations env told ops data ctx = applyOperations env told' ops data ctx := by
  induction ops generalizing data ctx with
  | nil => rfl
  | cons op ops ih =>
    obtain ⟨⟨hconditions, hmode⟩, hrest⟩ := List.forall_mem_cons.1 h
    have hcheck : ∀ context, checkConditions env data context op = .ok true := fun context => if_pos hconditions
    have hop : applyOperation env told op data ctx = applyOperation env told' op data ctx := by
      unfold applyOperation
      cases hop : op.mode with
      | pruneObjects => exact absurd hop hmode
      | _ => rfl
    unfold applyOperations
    rw [hcheck, hcheck, hop]
    cases applyOperation env told' op data ctx with
    | error e => rfl
    | ok result => exact ih hrest result.1 result.2

/-- Nor does an override of such operations. -/
theorem applyParamOverride_unconditional {channel : ChannelOverrides} (h : channel.Unconditional) (env : OverrideEnv)
    (told told' : RequestContext) (data : Json) (ctx : HeaderContext) :
    applyParamOverride env channel.paramOverride told data ctx = applyParamOverride env channel.paramOverride told' data ctx := by
  unfold applyParamOverride
  cases applyOperationsLegacy env channel.paramOverride.legacy data with
  | error e => rfl
  | ok data => exact applyOperations_unconditional h env told told' data ctx

/-- What an attempt sends that overrides a body: the channel's headers, or what its overrides leave of them. -/
theorem attemptHeaders_some {attempt : OverrideAttempt} {data : Json} (hbody : attempt.body info.names = some data) (env : OverrideEnv) :
    attemptHeaders env attempt info =
      if attempt.channel.paramOverride.isEmpty then .ok (getEffectiveHeaderOverride env (mapAttempt attempt info))
      else (applyParamOverride env attempt.channel.paramOverride (requestContext (mapAttempt attempt info)) data
        (headerContext env (mapAttempt attempt info))).map fun result =>
          sanitizeHeaderOverrideMap env (sanitizeHeaderOverrideMap env result.2.headerOverride.entries).entries := by
  have hoverride : ((mapAttempt attempt info).channelMeta.map ChannelOverrides.paramOverride).getD {} = attempt.channel.paramOverride := rfl
  unfold attemptHeaders prepareAttempt applyParamOverrideWithRelayInfo
  simp only [hbody, hoverride]
  by_cases hempty : attempt.channel.paramOverride.isEmpty = true
  · simp only [hempty, if_true]
    rfl
  simp only [hempty, Bool.false_eq_true, if_false]
  cases applyParamOverride env attempt.channel.paramOverride (requestContext (mapAttempt attempt info)) data
      (headerContext env (mapAttempt attempt info)) with
  | error e => rfl
  | ok result => rfl

/-- An attempt on such a channel sends the same whichever attempt it is. -/
theorem attemptHeaders_unconditional {attempt : OverrideAttempt} (h : attempt.channel.Unconditional) (env : OverrideEnv)
    (retryIndex : Int) (lastError : Option LastError) :
    attemptHeaders env attempt { request := request, names := names, retryIndex := retryIndex, lastError := lastError } =
      attemptHeaders env attempt { request := request, names := names } := by
  cases hbody : attempt.body names with
  | none =>
    simp only [attemptHeaders, prepareAttempt, hbody]
    rfl
  | some data =>
    rw [attemptHeaders_some hbody, attemptHeaders_some hbody, applyParamOverride_unconditional h]
    rfl

end HeaderAux

open HeaderAux

namespace HeaderAux

/-- The top-level keys of an object, and texts as they are. -/
def plainEnv : OverrideEnv where
  toLower := id
  equalFold := fun a b => a == b
  sprint := fun _ => ""
  gjsonGet := fun data path => match data with
    | .obj fields => mappingValue fields path
    | _ => none
  gjsonString := fun _ => ""
  gjsonNum := fun _ => 0
  sjsonSet := fun data _ _ => .ok data
  escapeSjsonLiteralKey := id
  processNegativeIndex := fun _ path => path
  bodyOperation := fun _ _ data => .ok data
  pruneObjects := fun _ _ data => .ok data
  parseHeaderPassThroughNames := fun _ => .error "pass_headers value is required"
  returnErrorMessage := fun _ => ""

/-- An attempt on a channel with these operations. -/
def operatedAttempt (operations : Option (List ParamOperation)) : OverrideAttempt where
  channel := { paramOverride := { operations := operations } }
  body _ := some (.obj [])

/-- A channel whose override sets a header with a key of its provider. -/
def keyedAttempt : OverrideAttempt := operatedAttempt (some [{ path := "x-provider-key", mode := .setHeader, value := .str "secret" }])

def plainAttempt : OverrideAttempt := operatedAttempt none

/-- A channel whose override sets a header where the context has the value. -/
def conditionedAttempt (path : String) (value : Json) : OverrideAttempt :=
  operatedAttempt (some [{ path := "x-set", mode := .setHeader, value := .str "1", conditions := [⟨path, .full, value, false, false⟩] }])

/-- A channel without overrides that maps the model of a compacted request. -/
def renamingAttempt : OverrideAttempt := { plainAttempt with renames := fun names => { names with originModelName := "gpt-5-codex" } }

def upstreamError : LastError := { errorCode := "bad_response", statusCode := 500, skipRetry := false, message := "", errorType := "" }

end HeaderAux

end NewApi
