import Mathlib
import NewApi.Relay.ModelMapping

/-!
# The model a channel is sent

Every attempt starts from `OriginModelName`, so the names of an attempt are those of a first attempt on the same channel exactly when the
failed ones before it have left that name as the client's. A compacted request takes over the name its mapping ends at, a Gemini request
without thinking a name of its own, and neither is put back after a failure; `RelayTaskSubmit` does put it back
(`mapped_names_alike_iff`). Within an attempt the mapping is followed to the end of its chain (`mapping_follows_chain`).
-/

namespace NewApi

namespace ModelMappingAux

open RelayNames

variable {st : NameSettings} {h : RelayHandler} {k : MappedChannel} {s s' : RelayNames}

/-! ## The helper -/

/-- An attempt depends on the names before it only by `OriginModelName`. -/
theorem attempt_congr (hname : s.originModelName = s'.originModelName) : s.attempt st h k = s'.attempt st h k := by
  have hinit : s.initChannelMeta = s'.initChannelMeta := by
    cases s
    cases s'
    obtain rfl := hname
    rfl
  unfold attempt
  rw [hinit]

theorem modelMappedHelper_plain (m : ModelMapping) (s : RelayNames) :
    (s.modelMappedHelper false m).1.originModelName = s.originModelName := by
  have hfinish : ∀ (s : RelayNames) name, (s.finishMapping false name).originModelName = s.originModelName := fun _ _ => rfl
  unfold modelMappedHelper
  cases m with
  | empty => rfl
  | invalid => rfl
  | table modelMap =>
    simp only
    split
    · rw [hfinish]
      split <;> rfl
    · rfl
    · rfl

/-- The names a mapping leaves. -/
theorem mapFor_names (compact : Bool) (k : MappedChannel) (s : RelayNames) :
    (s.mapFor compact k).names = (s.modelMappedHelper compact k.modelMapping).1 := by
  unfold mapFor
  rcases s.modelMappedHelper compact k.modelMapping with ⟨names, _ | _⟩ <;> rfl

theorem mapFor_plain (k : MappedChannel) (s : RelayNames) : (s.mapFor false k).names.originModelName = s.originModelName := by
  rw [mapFor_names, modelMappedHelper_plain]

/-- A compacted request is marked by the suffix. -/
def Marked (h : RelayHandler) (s : RelayNames) : Prop :=
  h = .responsesCompact → Text.endsWith s.originModelName compactModelSuffix = true

theorem endsWith_withCompactModelSuffix (model : String) : Text.endsWith (withCompactModelSuffix model) compactModelSuffix = true := by
  unfold withCompactModelSuffix
  split
  · assumption
  · exact Text.endsWith_append _ _

/-- The helper in the compact mode leaves the name with the suffix, or does not touch it. -/
theorem modelMappedHelper_compact (m : ModelMapping) (s : RelayNames) (hname : Text.endsWith s.originModelName compactModelSuffix = true) :
    Text.endsWith (s.modelMappedHelper true m).1.originModelName compactModelSuffix = true := by
  have hfinish : ∀ (s : RelayNames) name, Text.endsWith (s.finishMapping true name).originModelName compactModelSuffix = true :=
    fun _ _ => endsWith_withCompactModelSuffix _
  unfold modelMappedHelper
  cases m with
  | empty => exact hfinish _ _
  | invalid => exact hname
  | table modelMap =>
    simp only
    split
    · exact hfinish _ _
    · exact hname
    · exact hname

end ModelMappingAux

open ModelMappingAux

/-! ## The name a failed attempt leaves -/

/-- The channel's mapping can be followed from the model. -/
def MappedChannel.maps (k : MappedChannel) (model : String) : Bool :=
  match k.modelMapping with
  | .empty => true
  | .invalid => false
  | .table modelMap => followMapping modelMap model (modelMap.length + 1) model [model] false ≠ some .cycle

/-- The name a compacted request has after an attempt on the channel: the model at the end of the channel's chain, with the suffix.
Where the mapping cannot be followed, or maps the marked name to itself, it is the name before. -/
def MappedChannel.compactName (k : MappedChannel) (name : String) : String :=
  let model := Text.trimSuffix name compactModelSuffix
  match k.modelMapping with
  | .empty => withCompactModelSuffix model
  | .invalid => name
  | .table modelMap =>
    match followMapping modelMap name (modelMap.length + 1) model [model] false with
    | some (.leave current isModelMapped) =>
      withCompactModelSuffix (if isModelMapped = true ∧ current ≠ "" then current else model)
    | _ => name

/-- Failed attempts on the channels leave the request the name it came with. -/
def LeavesModel (st : NameSettings) (h : RelayHandler) (ks : List MappedChannel) (model : String) : Prop :=
  match h with
  | .plain => True
  | .responsesCompact => ks.foldl (fun name k => k.compactName name) model = model
  | .gemini isNoThinkingRequest => st.takesNoThinkingName isNoThinkingRequest model = true → ∀ k ∈ ks, k.maps model = false
  | .task => model = "" → ∀ k ∈ ks, k.taskModelName = ""

namespace ModelMappingAux

open RelayNames

variable {st : NameSettings} {h : RelayHandler} {k : MappedChannel} {s : RelayNames}

/-- The name an attempt leaves, by the name it starts from. -/
def nextName (st : NameSettings) (h : RelayHandler) (name : String) (k : MappedChannel) : String :=
  match h with
  | .plain => name
  | .responsesCompact => k.compactName name
  | .gemini isNoThinkingRequest =>
    if st.takesNoThinkingName isNoThinkingRequest name = true ∧ k.maps name = true then name ++ "-nothinking" else name
  | .task => k.taskName name

/-- The name a compacted request is left with. -/
theorem mapFor_compact (hname : Text.endsWith s.originModelName compactModelSuffix = true) :
    (s.initChannelMeta.mapFor true k).names.originModelName = k.compactName s.originModelName := by
  rw [mapFor_names]
  unfold modelMappedHelper MappedChannel.compactName RelayNames.initChannelMeta
  simp only [hname, and_self, if_true]
  cases k.modelMapping with
  | empty => simp [finishMapping]
  | invalid => rfl
  | table modelMap =>
    simp only
    split
    · rename_i current isModelMapped hend
      rw [hend]
      cases isModelMapped <;> simp [finishMapping]
    · rename_i hend
      rw [hend]
    · rename_i hleave hitself
      split
      · rename_i hend
        exact absurd hend (hleave _ _)
      · rfl

/-- Whether a mapping succeeds. -/
theorem mapFor_mapped_isOk : (s.initChannelMeta.mapFor false k).mapped.isOk = k.maps s.originModelName := by
  unfold mapFor modelMappedHelper MappedChannel.maps RelayNames.initChannelMeta
  cases k.modelMapping with
  | empty => rfl
  | invalid => rfl
  | table modelMap =>
    have hrounds : (unvisited modelMap [s.originModelName]).length < modelMap.length + 1 :=
      Nat.lt_succ_of_le (List.length_filter_le _ _)
    obtain ⟨e, he⟩ := followMapping_ends modelMap s.originModelName s.originModelName [s.originModelName] false hrounds
    simp only [Bool.false_eq_true, false_and, if_false, he]
    cases e <;> rfl

/-- The name an attempt leaves. -/
theorem attempt_name (hname : Marked h s) : (s.attempt st h k).names.originModelName = nextName st h s.originModelName k := by
  cases h with
  | plain => exact mapFor_plain k _
  | responsesCompact => exact mapFor_compact (hname rfl)
  | gemini isNoThinkingRequest =>
    have hok := mapFor_mapped_isOk (s := s) (k := k)
    have hkept : (s.initChannelMeta.mapFor false k).names.originModelName = s.originModelName := mapFor_plain k _
    unfold attempt nextName noThinking
    simp only
    cases hmapped : (s.initChannelMeta.mapFor false k).mapped with
    | error e =>
      have hmaps : k.maps s.originModelName = false := hok.symm.trans (congrArg Except.isOk hmapped)
      simp [hmaps, hkept]
    | ok upstream =>
      have hmaps : k.maps s.originModelName = true := hok.symm.trans (congrArg Except.isOk hmapped)
      simp only [hkept, hmaps, and_true]
      split
      · rfl
      · exact hkept
  | task =>
    unfold attempt nextName
    simp only
    split
    · rfl
    · exact mapFor_plain k _

/-- The name failed attempts leave. -/
theorem failed_name (ks : List MappedChannel) (hname : Marked h s) :
    (s.failed st h ks).originModelName = ks.foldl (nextName st h) s.originModelName ∧ Marked h (s.failed st h ks) := by
  induction ks generalizing s with
  | nil => exact ⟨rfl, hname⟩
  | cons k ks ih =>
    have hnext : Marked h (s.attempt st h k).names := by
      rintro rfl
      unfold attempt
      rw [mapFor_names]
      exact modelMappedHelper_compact _ _ (hname rfl)
    obtain ⟨hfold, hsuffix⟩ := ih hnext
    refine ⟨?_, hsuffix⟩
    rw [List.foldl_cons, ← attempt_name hname]
    exact hfold

/-! ## Whether the name is the client's -/

theorem takesNoThinkingName_named (st : NameSettings) (b : Bool) (model : String) :
    st.takesNoThinkingName b (model ++ "-nothinking") = false := by
  have hcontains : Text.contains (model ++ "-nothinking") "-nothinking" = true := by
    simp [Text.contains, List.infix_append_right]
  simp [NameSettings.takesNoThinkingName, hcontains]

theorem named_ne (model : String) : model ++ "-nothinking" ≠ model := by
  intro heq
  have hlength := congrArg (fun name => name.toList.length) heq
  simp at hlength

/-- A Gemini request is renamed by the first failed attempt whose mapping can be followed, and stays so. -/
theorem gemini_name (b : Bool) (ks : List MappedChannel) (model : String) : ks.foldl (nextName st (.gemini b)) model =
      if st.takesNoThinkingName b model = true ∧ ∃ k ∈ ks, k.maps model = true then model ++ "-nothinking" else model := by
  have hstays : ∀ (ks : List MappedChannel) name, st.takesNoThinkingName b name = false →
      ks.foldl (nextName st (.gemini b)) name = name := by
    intro ks
    induction ks with
    | nil => exact fun _ _ => rfl
    | cons k ks ih =>
      intro name hname
      have hsame : nextName st (.gemini b) name k = name := by simp [nextName, hname]
      rw [List.foldl_cons, hsame]
      exact ih name hname
  cases htakes : st.takesNoThinkingName b model with
  | false => simp [hstays ks model htakes]
  | true =>
    induction ks with
    | nil => simp
    | cons k ks ih =>
      cases hmaps : k.maps model with
      | true =>
        have hnamed : nextName st (.gemini b) model k = model ++ "-nothinking" := by simp [nextName, htakes, hmaps]
        rw [List.foldl_cons, hnamed, hstays ks _ (takesNoThinkingName_named st b model)]
        simp [hmaps]
      | false =>
        have hsame : nextName st (.gemini b) model k = model := by simp [nextName, hmaps]
        rw [List.foldl_cons, hsame, ih]
        simp [hmaps]

/-- A task that names a model keeps it; one that does not takes the first name its channels have for it. -/
theorem task_name_eq_iff (ks : List MappedChannel) (model : String) :
    ks.foldl (nextName st .task) model = model ↔ (model = "" → ∀ k ∈ ks, k.taskModelName = "") := by
  have hstays : ∀ (ks : List MappedChannel) name, name ≠ "" → ks.foldl (nextName st .task) name = name := by
    intro ks
    induction ks with
    | nil => exact fun _ _ => rfl
    | cons k ks ih =>
      intro name hname
      have hsame : nextName st .task name k = name := by simp [nextName, MappedChannel.taskName, hname]
      rw [List.foldl_cons, hsame]
      exact ih name hname
  by_cases hmodel : model = ""
  · subst hmodel
    induction ks with
    | nil => simp
    | cons k ks ih =>
      have hnext : nextName st .task "" k = k.taskModelName := by simp [nextName, MappedChannel.taskName]
      rw [List.foldl_cons, hnext]
      by_cases hname : k.taskModelName = ""
      · rw [hname]
        refine ih.trans ?_
        simp [hname]
      · rw [hstays ks _ hname]
        simp [hname]
  · simp [hstays ks model hmodel, hmodel]

/-- The failed attempts leave the client's name exactly under the condition. -/
theorem name_eq_iff (ks : List MappedChannel) (model : String) : ks.foldl (nextName st h) model = model ↔ LeavesModel st h ks model := by
  cases h with
  | plain =>
    refine iff_of_true ?_ trivial
    induction ks with
    | nil => rfl
    | cons k ks ih => exact ih
  | responsesCompact => exact Iff.rfl
  | gemini b =>
    rw [gemini_name]
    by_cases htakes : st.takesNoThinkingName b model = true ∧ ∃ k ∈ ks, k.maps model = true
    · obtain ⟨htakes', k, hk, hmaps⟩ := htakes
      rw [if_pos ⟨htakes', k, hk, hmaps⟩]
      refine iff_of_false (named_ne model) fun hleaves => ?_
      simp [hleaves htakes' k hk] at hmaps
    · rw [if_neg htakes]
      refine iff_of_true rfl fun htakes' k hk => ?_
      by_contra hmaps
      exact htakes ⟨htakes', k, hk, by simpa using hmaps⟩
  | task => exact task_name_eq_iff ks model

/-- Where every channel makes the same name of two, and the first is none, the second is none. -/
theorem taskName_unnamed {a b : String}
    (hnames : ∀ name, MappedChannel.taskName ⟨.empty, name⟩ a = MappedChannel.taskName ⟨.empty, name⟩ b) (ha : a = "") : b = "" := by
  by_contra hb
  have h1 := hnames "1"
  have h2 := hnames "2"
  simp only [MappedChannel.taskName, if_pos ha, if_neg hb] at h1 h2
  exact absurd (h1.trans h2.symm) (by decide)

/-- Attempts tell the names apart. -/
theorem name_of_attempts {s s' : RelayNames} (hs : Marked h s) (hs' : Marked h s')
    (hsame : ∀ k, s.attempt st h k = s'.attempt st h k) : s.originModelName = s'.originModelName := by
  -- a channel that maps nothing sends the name itself
  have hempty := congrArg MappedAttempt.mapped (hsame ⟨.empty, ""⟩)
  cases h with
  | plain | gemini _ => exact Except.ok.inj hempty
  | responsesCompact =>
    have htrim : ∀ s : RelayNames, Text.endsWith s.originModelName compactModelSuffix = true →
        (s.attempt st .responsesCompact ⟨.empty, ""⟩).mapped = .ok (Text.trimSuffix s.originModelName compactModelSuffix) := by
      intro s hs
      simp [attempt, mapFor, modelMappedHelper, finishMapping, RelayNames.initChannelMeta, hs]
    rw [htrim s (hs rfl), htrim s' (hs' rfl)] at hempty
    rw [← Text.trimSuffix_append (hs rfl), ← Text.trimSuffix_append (hs' rfl), Except.ok.inj hempty]
  | task =>
    have hname : ∀ name, MappedChannel.taskName ⟨.empty, name⟩ s.originModelName =
        MappedChannel.taskName ⟨.empty, name⟩ s'.originModelName := by
      intro name
      have hmapped := congrArg MappedAttempt.mapped (hsame ⟨.empty, name⟩)
      exact Except.ok.inj hmapped
    by_cases ha : s.originModelName = ""
    · rw [ha, taskName_unnamed hname ha]
    by_cases hb : s'.originModelName = ""
    · exact absurd (taskName_unnamed (fun name => (hname name).symm) hb) ha
    · have hboth := hname ""
      simpa [MappedChannel.taskName, ha, hb] using hboth

end ModelMappingAux

/-! ## The theorem -/

/-- After failed attempts on the channels `ks`, every channel gets the names it would get if it were tried first: the name
`ModelMappedHelper` computes for the upstream or its error, and the names the attempt goes on with, the priced and logged one among
them. That holds exactly when the failed attempts leave the client's model: always for the handlers that only map; for a
compacted request when the chains of the failed channels, one after the other, lead back to the model; for a Gemini request unless it
takes its name without thinking; for a task that names a model. -/
theorem mapped_names_alike_iff (st : NameSettings) (h : RelayHandler) (model : String) (ks : List MappedChannel) :
    (∀ k, ((h.start model).failed st h ks).attempt st h k = (h.start model).attempt st h k) ↔
      LeavesModel st h ks (h.startModel model) := by
  have hstart : Marked h (h.start model) := by
    rintro rfl
    exact endsWith_withCompactModelSuffix model
  obtain ⟨hname, hsuffix⟩ := failed_name ks hstart
  rw [← name_eq_iff]
  constructor
  · intro hsame
    exact hname.symm.trans (name_of_attempts hsuffix hstart hsame)
  · intro hleaves k
    exact attempt_congr (hname.trans hleaves)

/-! ## A failed attempt that is remembered -/

namespace ModelMappingAux

/-- Only the model without thinking is priced. -/
def noThinkingPriced : NameSettings := ⟨true, fun name => name = "gemini-2.5-flash-nothinking"⟩

def codexChannel : MappedChannel := ⟨.table [("gpt-5", "gpt-5-codex")], ""⟩

def o3Channel : MappedChannel := ⟨.table [("gpt-5", "o3")], ""⟩

def flashChannel : MappedChannel := ⟨.table [("gemini-2.5-flash-nothinking", "gemini-lite")], ""⟩

end ModelMappingAux

/-- A compacted request for gpt-5 fails on a channel that maps it to gpt-5-codex. The next channel maps gpt-5 to o3, but is sent
gpt-5-codex, and the request is priced as that. A Gemini request without thinking fails once, and the next channel is sent what it
maps the name without thinking to. -/
theorem failed_attempt_renames_model :
    ((RelayHandler.start .responsesCompact "gpt-5").attempt noThinkingPriced .responsesCompact o3Channel).names =
        ⟨"o3-openai-compact", "o3", true, "o3"⟩ ∧
      (((RelayHandler.start .responsesCompact "gpt-5").failed noThinkingPriced .responsesCompact [codexChannel]).attempt
          noThinkingPriced .responsesCompact o3Channel).names =
        ⟨"gpt-5-codex-openai-compact", "gpt-5-codex", false, "gpt-5-codex"⟩ ∧
      ((RelayHandler.start (.gemini true) "gemini-2.5-flash").attempt
          noThinkingPriced (.gemini true) flashChannel).names.upstreamModelName = "gemini-2.5-flash-nothinking" ∧
      (((RelayHandler.start (.gemini true) "gemini-2.5-flash").failed noThinkingPriced (.gemini true) [o3Channel]).attempt
          noThinkingPriced (.gemini true) flashChannel).names.upstreamModelName = "gemini-lite" := by
  decide +kernel

/-! ## The chain of a mapping -/

/-- The table a mapping stands for. -/
def ModelMapping.entries : ModelMapping → Option (List (String × String))
  | .empty => some []
  | .invalid => none
  | .table modelMap => some modelMap

section Chain

variable (modelMap : List (String × String)) (model : String)

/-- The next model of the chain; the last one, without a non-empty entry or with one for itself, is its own next. -/
def nextModel : String :=
  match modelMap.lookup model with
  | some mappedModel => if mappedModel = "" then model else mappedModel
  | none => model

def ChainEnds (last : String) : Prop := (∃ n, (nextModel modelMap)^[n] model = last) ∧ nextModel modelMap last = last

/-- The chain runs into a cycle of at least two models. -/
def ReachesCycle : Prop :=
  ∃ n, (nextModel modelMap)^[n] model ∈ Function.periodicPts (nextModel modelMap) ∧
    nextModel modelMap ((nextModel modelMap)^[n] model) ≠ (nextModel modelMap)^[n] model

/-- The answer is the cycle error exactly if the chain runs into a cycle, and its names are otherwise the last of the chain. -/
def AnswersChain (r : RelayNames × Except String Unit) : Prop :=
  (r.2 = .error "model_mapping_contains_cycle" ↔ ReachesCycle modelMap model) ∧
    (¬ ReachesCycle modelMap model → r.2 = .ok () ∧ ∃ last, ChainEnds modelMap model last ∧
      r.1.upstreamModelName = last ∧ r.1.requestModel = last ∧ (r.1.isModelMapped = true ↔ last ≠ model))

end Chain

namespace ModelMappingAux

open RelayNames

variable {modelMap : List (String × String)} {model current : String} {visited : List String} {mapped : Bool}

/-- A chain that ends has no cycle. -/
theorem not_reachesCycle {last : String} (h : ChainEnds modelMap model last) : ¬ ReachesCycle modelMap model := by
  obtain ⟨⟨k, rfl⟩, hfixed⟩ := h
  rintro ⟨n, ⟨p, hp, hperiod⟩, hmoves⟩
  -- after `k` rounds of the cycle the chain is past its end
  have hround := (hperiod.mul_const k).eq
  have hle : k ≤ p * k + n := (Nat.le_mul_of_pos_left k hp).trans (Nat.le_add_right _ _)
  rw [← Function.iterate_add_apply, ← Nat.sub_add_cancel hle, Function.iterate_add_apply, Function.iterate_fixed hfixed] at hround
  exact hmoves (hround ▸ hfixed)

/-- The end of a chain is what is asked for. -/
theorem answersChain_of_end {r : RelayNames} {last : String} (h : ChainEnds modelMap model last) (hup : r.upstreamModelName = last)
    (hrequest : r.requestModel = last) (hmapped : r.isModelMapped = true ↔ last ≠ model) : AnswersChain modelMap model (r, .ok ()) :=
  ⟨iff_of_false nofun (not_reachesCycle h), fun _ => ⟨rfl, last, h, hup, hrequest, hmapped⟩⟩

/-- Where the loop stands: the chain leads from every visited model, the requested one among them, to the current one. -/
structure Followed (modelMap : List (String × String)) (model current : String) (visited : List String) (mapped : Bool) : Prop where
  start : model ∈ visited
  onward : ∀ v ∈ visited, ∃ n, (nextModel modelMap)^[n] v = current
  mapped_iff : mapped = true ↔ current ≠ model

/-- The walk takes another step. -/
theorem Followed.visit (h : Followed modelMap model current visited mapped) (hnew : nextModel modelMap current ∉ visited) :
    Followed modelMap model (nextModel modelMap current) (nextModel modelMap current :: visited) true := by
  refine ⟨List.mem_cons_of_mem _ h.start, fun v hv => ?_, iff_of_true rfl fun heq => hnew (heq ▸ h.start)⟩
  rcases List.mem_cons.1 hv with rfl | hv
  · exact ⟨0, rfl⟩
  · obtain ⟨n, hn⟩ := h.onward v hv
    exact ⟨n + 1, by rw [Function.iterate_succ_apply', hn]⟩

/-- What the end of the loop says about the chain. -/
def Tells (modelMap : List (String × String)) (model : String) : MappingEnd → Prop
  | .leave last mapped => ChainEnds modelMap model last ∧ (mapped = true ↔ last ≠ model)
  | .itself => ChainEnds modelMap model model
  | .cycle => ReachesCycle modelMap model

/-- Where the walk ends it tells the end or the cycle. -/
theorem followMapping_tells {rounds : Nat} {e : MappingEnd} (h : Followed modelMap model current visited mapped)
    (hend : followMapping modelMap model rounds current visited mapped = some e) : Tells modelMap model e := by
  induction rounds generalizing current visited mapped with
  | zero => cases hend
  | succ rounds ih =>
    have hreached := h.onward model h.start
    unfold followMapping at hend
    split at hend
    · rename_i hlookup
      cases hend
      exact ⟨⟨hreached, by rw [nextModel, hlookup]⟩, h.mapped_iff⟩
    · rename_i target hlookup
      split at hend
      · rename_i hempty
        cases hend
        exact ⟨⟨hreached, by simp only [nextModel, hlookup, if_pos hempty]⟩, h.mapped_iff⟩
      · rename_i hne
        obtain rfl : nextModel modelMap current = target := by simp only [nextModel, hlookup, if_neg hne]
        split at hend
        · rename_i hvisited
          split at hend
          · rename_i hself
            split at hend
            · rename_i horigin
              cases hend
              subst horigin
              exact ⟨hreached, hself⟩
            · rename_i horigin
              cases hend
              exact ⟨⟨hreached, hself⟩, iff_of_true rfl horigin⟩
          · rename_i hself
            cases hend
            obtain ⟨n, rfl⟩ := hreached
            obtain ⟨p, hp⟩ := h.onward _ hvisited
            exact ⟨n, ⟨p + 1, Nat.succ_pos p, hp⟩, hself⟩
        · rename_i hnew
          exact ih (h.visit hnew) hend

/-- The walk ends within the length of the table. -/
theorem followMapping_chain (modelMap : List (String × String)) (model : String) :
    ∃ e, followMapping modelMap model (modelMap.length + 1) model [model] false = some e ∧ Tells modelMap model e := by
  have hstart : Followed modelMap model model [model] false :=
    ⟨List.mem_singleton_self _, fun v hv => ⟨0, List.mem_singleton.1 hv⟩, by simp⟩
  obtain ⟨e, he⟩ := followMapping_ends modelMap model model [model] false (Nat.lt_succ_of_le (List.length_filter_le _ _))
  exact ⟨e, he, followMapping_tells hstart he⟩

end ModelMappingAux

open ModelMappingAux RelayNames

/-- Outside compact mode the loop over a mapping ends, and the helper answers with the end of the chain from the requested model. -/
theorem mapping_follows_chain {mapping : ModelMapping} {modelMap : List (String × String)} (hmap : mapping.entries = some modelMap)
    (s : RelayNames) :
    (followMapping modelMap s.originModelName (modelMap.length + 1) s.originModelName [s.originModelName] false).isSome = true ∧
      AnswersChain modelMap s.originModelName (s.initChannelMeta.modelMappedHelper false mapping) := by
  obtain ⟨e, he, htells⟩ := followMapping_chain modelMap s.originModelName
  refine ⟨by rw [he]; rfl, ?_⟩
  cases mapping with
  | invalid => cases hmap
  | empty =>
    cases hmap
    cases he
    exact answersChain_of_end htells.1 rfl rfl htells.2
  | table modelMap =>
    cases hmap
    simp only [modelMappedHelper, RelayNames.initChannelMeta, Bool.false_eq_true, false_and, if_false, he]
    cases e with
    | leave last mapped =>
      cases mapped with
      | true => exact answersChain_of_end htells.1 rfl rfl htells.2
      | false =>
        obtain rfl : last = s.originModelName := by simpa using htells.2
        exact answersChain_of_end htells.1 rfl rfl htells.2
    | itself => exact answersChain_of_end htells rfl rfl (by simp)
    | cycle => exact ⟨iff_of_true rfl htells, fun hnone => absurd htells hnone⟩

theorem mapping_follows_chain_of_two :
    (RelayNames.modelMappedHelper false (.table [("gpt-5", "o3"), ("o3", "")]) ⟨"gpt-5", "gpt-5", false, "gpt-5"⟩).2 = .ok () ∧
      ¬ ReachesCycle [("gpt-5", "o3"), ("o3", "")] "gpt-5" := by
  refine ⟨rfl, fun hcycle => ?_⟩
  cases (@mapping_follows_chain (.table _) _ rfl ⟨"gpt-5", "", false, ""⟩).2.1.2 hcycle

end NewApi
