import NewApi.Model.ChannelKeys

/-!
# The channel in the request context

`SetupContextForSelectedChannel` of `middleware/distributor.go` writes the selected channel into the context of the request, key by key,
and `InitChannelMeta` of `relay/common/relay_info.go` reads it from there. What one channel does not write is what the one before it has
left.

Decoding settings and overrides, and the tables of base URLs, API types and channels with stream options, are given from outside.
-/

namespace NewApi

/-- A channel with the columns the context takes from it. `keys` are those of `GetKeys`. -/
structure RelayChannel extends Channel where
  name : String
  createdTime : Int
  /-- The key text. -/
  key : String
  openAIOrganization : Option String
  autoBan : Option Int
  modelMapping : Option String
  statusCodeMapping : Option String
  baseURL : Option String
  other : String
  setting : Option String
  paramOverride : Option String
  headerOverride : Option String

structure ContextEnv (Setting OtherSettings Overrides : Type) where
  unmarshalSetting : String → Setting
  unmarshalOtherSettings : String → OtherSettings
  unmarshalOverride : String → Overrides
  zeroSetting : Setting
  zeroOtherSettings : OtherSettings
  emptyOverride : Overrides
  /-- The override of a channel, then the template of the affinity rule. -/
  mergeChannelOverride : Overrides → Overrides → Overrides
  channelBaseURLs : Int → String
  channelType2APIType : Int → Int
  streamSupportedChannels : Int → Bool

/-- What the request brings: its `api-version` parameter, and the template of the affinity rule it matched. -/
structure ContextRequest (Overrides : Type) where
  apiVersionQuery : String
  paramTemplate : Option Overrides

/-- The keys of the context that are about the channel. -/
structure ChannelContext (Setting OtherSettings Overrides : Type) where
  originalModel : Option String
  channelId : Option Int
  channelName : Option String
  channelType : Option Int
  channelCreateTime : Option Int
  channelSetting : Option Setting
  channelOtherSetting : Option OtherSettings
  paramOverride : Option Overrides
  headerOverride : Option Overrides
  channelOrganization : Option String
  autoBan : Option Bool
  modelMapping : Option String
  statusCodeMapping : Option String
  channelIsMultiKey : Option Bool
  channelMultiKeyIndex : Option Nat
  channelKey : Option String
  baseUrl : Option String
  systemPromptOverride : Option Bool
  apiVersion : Option String
  region : Option String
  plugin : Option String
  botId : Option String

/-- `ChannelMeta`, without `IsModelMapped`, which every attempt begins with as false. -/
structure ChannelMeta (Setting OtherSettings Overrides : Type) where
  channelType : Int
  channelId : Int
  channelIsMultiKey : Bool
  channelMultiKeyIndex : Nat
  channelBaseUrl : String
  apiType : Int
  apiVersion : String
  apiKey : String
  organization : String
  channelCreateTime : Int
  paramOverride : Overrides
  headersOverride : Overrides
  channelSetting : Setting
  channelOtherSettings : OtherSettings
  upstreamModelName : String
  supportStreamOptions : Bool

def channelTypeAzure : Int := 3
def channelTypeAli : Int := 17
def channelTypeXunfei : Int := 18
def channelTypeGemini : Int := 24
def channelCloudflare : Int := 39
def channelTypeVertexAi : Int := 41
def channelTypeMokaAI : Int := 44
def channelTypeCoze : Int := 49

inductive OtherKey where
  | apiVersion
  | region
  | plugin
  | botId
  deriving DecidableEq, Repr

/-- The key of a type: the switch at the end of the setup. -/
def otherKey (type : Int) : Option OtherKey :=
  if type = channelTypeAzure then some .apiVersion
  else if type = channelTypeVertexAi then some .region
  else if type = channelTypeXunfei then some .apiVersion
  else if type = channelTypeGemini then some .apiVersion
  else if type = channelTypeAli then some .plugin
  else if type = channelCloudflare then some .apiVersion
  else if type = channelTypeMokaAI then some .apiVersion
  else if type = channelTypeCoze then some .botId
  else none

section

variable {Setting OtherSettings Overrides : Type} (env : ContextEnv Setting OtherSettings Overrides)

namespace RelayChannel

variable (c : RelayChannel)

/-- The text of a column that has one. -/
def text (column : Option String) : Option String := column.filter fun s => s ≠ ""

def getSetting : Setting := ((text c.setting).map env.unmarshalSetting).getD env.zeroSetting

def getOtherSettings : OtherSettings := ((text (some c.otherSettings)).map env.unmarshalOtherSettings).getD env.zeroOtherSettings

def getParamOverride : Overrides := ((text c.paramOverride).map env.unmarshalOverride).getD env.emptyOverride

def getHeaderOverride : Overrides := ((text c.headerOverride).map env.unmarshalOverride).getD env.emptyOverride

def getAutoBan : Bool := c.autoBan = some 1

def getModelMapping : String := c.modelMapping.getD ""

def getStatusCodeMapping : String := c.statusCodeMapping.getD ""

/-- A base URL that is written and empty stands for that of the type. -/
def getBaseURL : String :=
  match c.baseURL with
  | none => ""
  | some url => if url = "" then env.channelBaseURLs c.type else url

def getNextEnabledKey (stored : Except String ChannelInfo) (intn : RandIntn) : Except String (String × Nat) :=
  if c.channelInfo.isMultiKey then (c.nextEnabledKey stored intn).map Prod.fst
  else .ok (c.key, 0)

end RelayChannel

namespace ChannelContext

def fresh : ChannelContext Setting OtherSettings Overrides :=
  ⟨none, none, none, none, none, none, none, none, none, none, none, none, none, none, none, none, none, none, none, none, none, none⟩

def setOther (type : Int) (other : String) (ctx : ChannelContext Setting OtherSettings Overrides) :
    ChannelContext Setting OtherSettings Overrides :=
  match otherKey type with
  | some .apiVersion => { ctx with apiVersion := some other }
  | some .region => { ctx with region := some other }
  | some .plugin => { ctx with plugin := some other }
  | some .botId => { ctx with botId := some other }
  | none => ctx

/-- `SetupContextForSelectedChannel`. `next` is what `GetNextEnabledKey` answers; an error ends the setup where it is. -/
def setup (req : ContextRequest Overrides) (c : RelayChannel) (modelName : String) (next : Except String (String × Nat))
    (ctx : ChannelContext Setting OtherSettings Overrides) : ChannelContext Setting OtherSettings Overrides × Option String :=
  let paramOverride := c.getParamOverride env
  let ctx := { ctx with
    originalModel := some modelName
    channelId := some c.id
    channelName := some c.name
    channelType := some c.type
    channelCreateTime := some c.createdTime
    channelSetting := some (c.getSetting env)
    channelOtherSetting := some (c.getOtherSettings env)
    paramOverride := some ((req.paramTemplate.map (env.mergeChannelOverride paramOverride)).getD paramOverride)
    headerOverride := some (c.getHeaderOverride env) }
  let ctx := match RelayChannel.text c.openAIOrganization with
    | some organization => { ctx with channelOrganization := some organization }
    | none => ctx
  let ctx := { ctx with
    autoBan := some c.getAutoBan
    modelMapping := some c.getModelMapping
    statusCodeMapping := some c.getStatusCodeMapping }
  match next with
  | .error e => (ctx, some e)
  | .ok (key, index) =>
    let ctx := if c.channelInfo.isMultiKey then { ctx with channelIsMultiKey := some true, channelMultiKeyIndex := some index }
      else { ctx with channelIsMultiKey := some false }
    let ctx := { ctx with channelKey := some key, baseUrl := some (c.getBaseURL env), systemPromptOverride := some false }
    (setOther c.type c.other ctx, none)

def getAPIVersion (req : ContextRequest Overrides) (ctx : ChannelContext Setting OtherSettings Overrides) : String :=
  if req.apiVersionQuery = "" then ctx.apiVersion.getD "" else req.apiVersionQuery

def initChannelMeta (req : ContextRequest Overrides) (ctx : ChannelContext Setting OtherSettings Overrides) :
    ChannelMeta Setting OtherSettings Overrides :=
  let channelType := ctx.channelType.getD 0
  { channelType := channelType
    channelId := ctx.channelId.getD 0
    channelIsMultiKey := ctx.channelIsMultiKey.getD false
    channelMultiKeyIndex := ctx.channelMultiKeyIndex.getD 0
    channelBaseUrl := ctx.baseUrl.getD ""
    apiType := env.channelType2APIType channelType
    apiVersion :=
      if channelType = channelTypeVertexAi then ctx.region.getD ""
      else if channelType = channelTypeAzure then ctx.getAPIVersion req
      else ctx.apiVersion.getD ""
    apiKey := ctx.channelKey.getD ""
    organization := ctx.channelOrganization.getD ""
    channelCreateTime := ctx.channelCreateTime.getD 0
    paramOverride := ctx.paramOverride.getD env.emptyOverride
    headersOverride := ctx.headerOverride.getD env.emptyOverride
    channelSetting := ctx.channelSetting.getD env.zeroSetting
    channelOtherSettings := ctx.channelOtherSetting.getD env.zeroOtherSettings
    upstreamModelName := ctx.originalModel.getD ""
    supportStreamOptions := env.streamSupportedChannels channelType }

end ChannelContext

end

end NewApi
