import NewApi.Relay.ChannelContext

/-!
# What a retry inherits from the channel before it

Three keys of the context are written for some channels only: the organization where the channel has one, the place of the key where
the channel has several, and the API version for five types. `InitChannelMeta` reads them for every channel. A channel that does not
write one of them is used with what the channel before it has written. The name of the model is the one the attempt before has left.
-/

namespace NewApi

open ChannelContext RelayChannel

section

variable {Setting OtherSettings Overrides : Type} (env : ContextEnv Setting OtherSettings Overrides) (req : ContextRequest Overrides)

/-- The meta of an attempt on a channel that is the first of the request. -/
def firstMeta (b : RelayChannel) (modelName : String) (next : Except String (String × Nat)) : ChannelMeta Setting OtherSettings Overrides :=
  ChannelContext.initChannelMeta env req (setup env req b modelName next fresh).1

/-- The meta of an attempt on `b` after an attempt on `a`, which has left the name of the model as `left`. -/
def retryMeta (a : RelayChannel) (modelName : String) (nextA : Except String (String × Nat)) (b : RelayChannel) (left : String)
    (next : Except String (String × Nat)) : ChannelMeta Setting OtherSettings Overrides :=
  ChannelContext.initChannelMeta env req (setup env req b left next (setup env req a modelName nextA fresh).1).1

end

namespace ChannelContextAux

variable {Setting OtherSettings Overrides : Type} {env : ContextEnv Setting OtherSettings Overrides} {req : ContextRequest Overrides}
  {ctx : ChannelContext Setting OtherSettings Overrides}

/-! ## What a setup leaves of the keys -/

/-- The field of the type is written, the others stay. -/
theorem setOther_eq (type : Int) (other : String) :
    setOther type other ctx = { ctx with
      apiVersion := if otherKey type = some .apiVersion then some other else ctx.apiVersion
      region := if otherKey type = some .region then some other else ctx.region
      plugin := if otherKey type = some .plugin then some other else ctx.plugin
      botId := if otherKey type = some .botId then some other else ctx.botId } := by
  unfold setOther
  split <;> simp_all

/-- The API version an attempt on the channel is made with, given what the context had before. -/
def apiVersionOn (req : ContextRequest Overrides) (c : RelayChannel) (before : Option String) : String :=
  if c.type = channelTypeVertexAi then c.other
  else if c.type = channelTypeAzure then if req.apiVersionQuery = "" then c.other else req.apiVersionQuery
  else if otherKey c.type = some .apiVersion then c.other
  else before.getD ""

/-- The meta after a setup that found a key: all the channel's but what the context had of three keys. -/
theorem initChannelMeta_setup (c : RelayChannel) (modelName key : String) (i : Nat) :
    ChannelContext.initChannelMeta env req (setup env req c modelName (.ok (key, i)) ctx).1 =
      { channelType := c.type
        channelId := c.id
        channelIsMultiKey := c.channelInfo.isMultiKey
        channelMultiKeyIndex := if c.channelInfo.isMultiKey then i else ctx.channelMultiKeyIndex.getD 0
        channelBaseUrl := c.getBaseURL env
        apiType := env.channelType2APIType c.type
        apiVersion := apiVersionOn req c ctx.apiVersion
        apiKey := key
        organization := ((text c.openAIOrganization).or ctx.channelOrganization).getD ""
        channelCreateTime := c.createdTime
        paramOverride := (req.paramTemplate.map (env.mergeChannelOverride (c.getParamOverride env))).getD (c.getParamOverride env)
        headersOverride := c.getHeaderOverride env
        channelSetting := c.getSetting env
        channelOtherSettings := c.getOtherSettings env
        upstreamModelName := modelName
        supportStreamOptions := env.streamSupportedChannels c.type } := by
  have hversion : ∀ before : Option String,
      (if c.type = channelTypeVertexAi then (if otherKey c.type = some .region then some c.other else ctx.region).getD ""
        else if c.type = channelTypeAzure then
          if req.apiVersionQuery = "" then (if otherKey c.type = some .apiVersion then some c.other else before).getD ""
          else req.apiVersionQuery
        else (if otherKey c.type = some .apiVersion then some c.other else before).getD "") = apiVersionOn req c before := by
    intro before
    unfold apiVersionOn
    by_cases hvertex : c.type = channelTypeVertexAi
    · rw [if_pos hvertex, if_pos hvertex, hvertex]
      rfl
    rw [if_neg hvertex, if_neg hvertex]
    by_cases hazure : c.type = channelTypeAzure
    · rw [if_pos hazure, if_pos hazure, hazure]
      rfl
    · rw [if_neg hazure, if_neg hazure]
      split <;> rfl
  unfold ChannelContext.initChannelMeta setup
  rw [← hversion]
  cases horganization : text c.openAIOrganization with
  | none | some _ => cases hmulti : c.channelInfo.isMultiKey <;> simp [setOther_eq, getAPIVersion]

/-- What an attempt on `a` leaves of the keys that are not always written. -/
theorem left_of_error (a : RelayChannel) (modelName e : String) :
    let ctx := (setup env req a modelName (.error e) fresh).1
    ctx.channelOrganization = text a.openAIOrganization ∧ ctx.channelMultiKeyIndex = none ∧ ctx.apiVersion = none := by
  unfold setup
  cases text a.openAIOrganization <;> exact ⟨rfl, rfl, rfl⟩

/-- What the first channel leaves in the context. -/
theorem left_of_key (a : RelayChannel) (modelName key : String) (i : Nat) :
    let ctx := (setup env req a modelName (.ok (key, i)) fresh).1
    ctx.channelOrganization = text a.openAIOrganization ∧
      ctx.channelMultiKeyIndex = (if a.channelInfo.isMultiKey then some i else none) ∧
      ctx.apiVersion = if otherKey a.type = some .apiVersion then some a.other else none := by
  unfold setup
  cases horganization : text a.openAIOrganization with
  | none | some _ => cases hmulti : a.channelInfo.isMultiKey <;> simp [setOther_eq, fresh]

/-! ## The keys one by one -/

/-- An organization is left over unless the second channel has one. -/
theorem organization_iff {a b : Option String} :
    ((text b).or (text a)).getD "" = ((text b).or none).getD "" ↔ (text b = none → text a = none) := by
  cases hb : text b with
  | some organization => simp
  | none =>
    cases ha : text a with
    | none => simp
    | some organization => simpa using (Option.filter_eq_some_iff.1 ha).2

theorem index_iff {multi : Bool} {i left : Nat} : (if multi then i else left) = (if multi then i else 0) ↔ (multi = false → left = 0) := by
  cases multi <;> simp

/-- A version is left over where the type of the second channel has none of its own. -/
theorem apiVersion_iff (b : RelayChannel) (left : Option String) :
    apiVersionOn req b left = apiVersionOn req b none ↔
      (otherKey b.type ≠ some .apiVersion → b.type ≠ channelTypeVertexAi → left.getD "" = "") := by
  unfold apiVersionOn
  by_cases hvertex : b.type = channelTypeVertexAi
  · simp [hvertex]
  by_cases hazure : b.type = channelTypeAzure
  · have hkey : otherKey b.type = some .apiVersion := by
      rw [hazure]
      rfl
    rw [if_neg hvertex, if_neg hvertex, if_pos hazure, if_pos hazure]
    exact ⟨fun _ hother => absurd hkey hother, fun _ => rfl⟩
  · by_cases hkey : otherKey b.type = some .apiVersion <;> simp [hvertex, hazure, hkey]

/-- The meta of a channel is the same after two contexts exactly where it overwrites what they differ in. -/
theorem meta_eq_iff (b : RelayChannel) (left modelName key : String) (i : Nat) {ctx : ChannelContext Setting OtherSettings Overrides}
    {a : Option String} (horganization : ctx.channelOrganization = text a) :
    ChannelContext.initChannelMeta env req (setup env req b left (.ok (key, i)) ctx).1 =
        ChannelContext.initChannelMeta env req (setup env req b modelName (.ok (key, i)) fresh).1 ↔
      left = modelName ∧ (text b.openAIOrganization = none → text a = none) ∧
        (b.channelInfo.isMultiKey = false → ctx.channelMultiKeyIndex.getD 0 = 0) ∧
        (otherKey b.type ≠ some .apiVersion → b.type ≠ channelTypeVertexAi → ctx.apiVersion.getD "" = "") := by
  rw [initChannelMeta_setup, initChannelMeta_setup, ← organization_iff, ← index_iff, ← apiVersion_iff, horganization]
  simp only [ChannelMeta.mk.injEq, true_and, and_true]
  constructor
  · rintro ⟨hindex, hversion, horg, hname⟩
    exact ⟨hname, horg, hindex, hversion⟩
  · rintro ⟨hname, horg, hindex, hversion⟩
    exact ⟨hindex, hversion, horg, hname⟩

end ChannelContextAux

open ChannelContextAux

/-- The meta for an attempt on `b` after one on `a` is the one `b` has as the first channel exactly where the attempt on `a` has left
the name of the model, `b` has an organization or `a` has none, and `b` writes the place of the key and the API version or `a`, where it
had a key, has left none. -/
theorem retry_replaces_context_iff {Setting OtherSettings Overrides : Type} (env : ContextEnv Setting OtherSettings Overrides)
    (req : ContextRequest Overrides) (a b : RelayChannel) (modelName left : String) (storedA storedB : Except String ChannelInfo)
    (intnA intnB : RandIntn) {key : String} {i : Nat} (hb : b.getNextEnabledKey storedB intnB = .ok (key, i)) :
    retryMeta env req a modelName (a.getNextEnabledKey storedA intnA) b left (b.getNextEnabledKey storedB intnB) =
        firstMeta env req b modelName (b.getNextEnabledKey storedB intnB) ↔
      left = modelName ∧ (text b.openAIOrganization = none → text a.openAIOrganization = none) ∧
        ∀ keyA j, a.getNextEnabledKey storedA intnA = .ok (keyA, j) →
          (a.channelInfo.isMultiKey = true → b.channelInfo.isMultiKey = false → j = 0) ∧
          (otherKey a.type = some .apiVersion → otherKey b.type ≠ some .apiVersion → b.type ≠ channelTypeVertexAi → a.other = "") := by
  unfold retryMeta firstMeta
  rw [hb]
  cases ha : a.getNextEnabledKey storedA intnA with
  | error e =>
    obtain ⟨horganization, hindex, hversion⟩ := left_of_error a modelName e
    rw [meta_eq_iff b left modelName key i horganization, hindex, hversion]
    simp
  | ok next =>
    obtain ⟨keyA, j⟩ := next
    obtain ⟨horganization, hindex, hversion⟩ := left_of_key a modelName keyA j
    rw [meta_eq_iff b left modelName key i horganization, hindex, hversion]
    refine and_congr_right fun _ => and_congr_right fun _ => ?_
    constructor
    · rintro ⟨hplace, hother⟩ keyA' j' heq
      obtain ⟨rfl, rfl⟩ : keyA = keyA' ∧ j = j' := by simpa using heq
      constructor
      · intro hmultiA hmultiB
        simpa [hmultiA] using hplace hmultiB
      · intro hkeyA hkeyB hvertex
        simpa [hkeyA] using hother hkeyB hvertex
    · intro h
      obtain ⟨hplace, hother⟩ := h keyA j rfl
      constructor
      · intro hmultiB
        cases hmultiA : a.channelInfo.isMultiKey with
        | false => rfl
        | true => exact hplace hmultiA hmultiB
      · intro hkeyB hvertex
        by_cases hkeyA : otherKey a.type = some .apiVersion
        · rw [if_pos hkeyA]
          exact hother hkeyA hkeyB hvertex
        · rw [if_neg hkeyA]
          rfl

namespace ChannelContextAux

/-- A setting is its text, an override the texts it was merged from. -/
def plainEnv : ContextEnv String String (List String) where
  unmarshalSetting s := s
  unmarshalOtherSettings s := s
  unmarshalOverride s := [s]
  zeroSetting := ""
  zeroOtherSettings := ""
  emptyOverride := []
  mergeChannelOverride base template := base ++ template
  channelBaseURLs _ := ""
  channelType2APIType _ := 0
  streamSupportedChannels _ := false

def plainRequest : ContextRequest (List String) := ⟨"", none⟩

/-- An OpenAI channel with one key and this organization. -/
def openAIChannel (id : Int) (organization : Option String) : RelayChannel where
  id := id
  type := 1
  keys := ["sk"]
  status := .enabled
  weight := none
  models := "m"
  group := "default"
  priority := none
  tag := none
  channelInfo := ⟨false, fun _ => none, false, 0, false⟩
  otherSettings := ""
  name := "openai"
  createdTime := 0
  key := "sk"
  openAIOrganization := organization
  autoBan := some 1
  modelMapping := none
  statusCodeMapping := none
  baseURL := none
  other := ""
  setting := none
  paramOverride := none
  headerOverride := none

end ChannelContextAux

/-- Two channels with one key each; the second has an organization of its own. -/
theorem retry_replaces_organization :
    retryMeta plainEnv plainRequest (openAIChannel 1 (some "org-a")) "m" (.ok ("sk", 0))
        (openAIChannel 2 (some "org-b")) "m" (.ok ("sk", 0)) =
      firstMeta plainEnv plainRequest (openAIChannel 2 (some "org-b")) "m" (.ok ("sk", 0)) := by
  refine (retry_replaces_context_iff plainEnv plainRequest (openAIChannel 1 (some "org-a")) (openAIChannel 2 (some "org-b")) "m" "m"
    (.error "") (.error "") RandIntn.zero RandIntn.zero rfl).2 ⟨rfl, ?_, ?_⟩
  · intro hnone
    cases hnone
  · intro key j _
    exact ⟨fun hmulti => absurd hmulti (by decide), fun hkey => absurd hkey (by decide)⟩

/-- A channel without an organization is used with that of the channel before it. -/
theorem organization_outlives_channel :
    let a := openAIChannel 1 (some "org-a")
    let b := openAIChannel 2 none
    let retry := retryMeta plainEnv plainRequest a "m" (a.getNextEnabledKey (.error "") RandIntn.zero) b "m"
      (b.getNextEnabledKey (.error "") RandIntn.zero)
    let first := firstMeta plainEnv plainRequest b "m" (b.getNextEnabledKey (.error "") RandIntn.zero)
    retry.organization = "org-a" ∧ first.organization = "" ∧ retry ≠ first := by
  intro a b retry first
  have hretry : retry.organization = "org-a" := rfl
  have hfirst : first.organization = "" := rfl
  refine ⟨hretry, hfirst, fun heq => ?_⟩
  rw [heq, hfirst] at hretry
  exact absurd hretry (by decide)

end NewApi
