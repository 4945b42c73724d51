import WarpByokProxy.ConverseStream
import WarpByokProxy.History.SdkMessages

/-
  The call that a request is dispatched with, stated from its
  conversation and the configuration, apart from the JSON
  values on the way.

  Every item is a message of its own, and a cache point ends
  the last two messages of the user when caching is enabled.
  The translation of a request and of its messages refines
  this statement.

  Key definitions include:
    * `dispatchedMessage`
    * `dispatchedFields`
    * `RealBedrock.dispatchedCall`

  Key theorems include:
    * `messagesToSdkFrom_of_items`
    * `jsonToDocument_requestFields`
    * `exists_translatedInput`
    * `exists_converseStreamInput`
    * `map_eraseCachePoints_dispatchedCall`
-/

------------------------------------------------------------
-- What Is Dispatched
------------------------------------------------------------

namespace WarpByokProxy

variable {F : Type}

/- The message of an item, with a cache point if asked for. -/
def dispatchedMessage
    (dynMsgToJson : DynMsgToJson F)
    (cached : Bool)
    (item : ConversationItem) : Sdk.Message F where
  role := item.role
  content :=
    item.content dynMsgToJson ::
      if cached then
        [.cachePoint { type := .default }]
      else
        []

/- The item is said by the user. -/
def ConversationItem.isUser
    (item : ConversationItem) : Bool :=
  item.role = .user

/- The fields that the model takes besides the messages. -/
def dispatchedFields
    (cfg : Config) : List (String × Sdk.Document F) :=
  let betas :=
    if (splitOff1m cfg.bedrock.model).isSome then
      [("anthropic_beta", .array [.string context1mBeta])]
    else
      []
  let thinking :=
    match cfg.bedrock.thinking.mode with
    | .off => []
    | .adaptive =>
        [("thinking", .object [("type", .string "adaptive")]),
          ("output_config",
            .object
              [("effort",
                .string
                  (effortStr cfg.bedrock.thinking.effort))])]
    | .enabled =>
        [("thinking",
          .object
            [("type", .string "enabled"),
              ("budget_tokens",
                .number
                  (.posInt
                    (cfg.bedrock.thinking.budgetTokens.getD
                      16000).toUInt64))])]
  betas ++ thinking

/- The options that model IDs are prepared with. -/
def Config.prepareOpts
    (cfg : Config) : PrepareOpts where
  useCrossRegionInference :=
    cfg.bedrock.useCrossRegionInference
  useGlobalInference := cfg.bedrock.useGlobalInference
  regionHint := cfg.bedrock.region

/- The call that stands for a request. -/
def RealBedrock.dispatchedCall
    (dynMsgToJson : DynMsgToJson F)
    (cfg : Config)
    (self : RealBedrock F)
    (req : Wmaa.Request) : Sdk.ConverseStreamInput F where
  modelId :=
    wireModelId
      ((splitOff1m cfg.bedrock.model).getD cfg.bedrock.model)
      cfg.prepareOpts
  messages :=
    (carriedItems req).mapIdx (fun i item =>
      dispatchedMessage dynMsgToJson
        (cfg.bedrock.usePromptCache &&
          (LastMatches.last ConversationItem.isUser 2
            (carriedItems req)).contains i)
        item)
  system := none
  additionalModelRequestFields :=
    .object (dispatchedFields cfg)
  toolConfig := self.toolConfig

end WarpByokProxy

------------------------------------------------------------
-- Messages
------------------------------------------------------------

namespace WarpByokProxy

variable {F : Type}

/- The message of an item, tagged if asked for. -/
def cachedItemJson
    (dynMsgToJson : DynMsgToJson F)
    (cached : Bool)
    (item : ConversationItem) : Json F :=
  if cached then
    tagMessage (itemJson dynMsgToJson item)
  else
    itemJson dynMsgToJson item

/- Tagged or not, the message of an item is translated. -/
theorem messageToSdk_of_item
    {builders : Sdk.Builders F}
    (hBuilders : builders.RequireFields)
    (dynMsgToJson : DynMsgToJson F)
    (cached : Bool)
    (item : ConversationItem)
    (idx : Nat) :
    messageToSdk builders idx
        (cachedItemJson dynMsgToJson cached item) =
      .ok (dispatchedMessage dynMsgToJson cached item) := by
  have hBlock := blockReads_block dynMsgToJson item
  cases cached with
  | false =>
      exact
        messageToSdk_of_forall₂ hBuilders
          (roleReads_roleText item
            (.array [item.block dynMsgToJson]))
          rfl (.cons hBlock .nil) (List.cons_ne_nil _ _) idx
  | true =>
      rw [cachedItemJson, if_pos rfl, tagMessage_itemJson]
      exact
        messageToSdk_of_forall₂ hBuilders
          (roleReads_roleText item
            (.array
              [item.block dynMsgToJson, cachePointBlock]))
          rfl
          (.cons hBlock (.cons blockReads_cachePointBlock .nil))
          (List.cons_ne_nil _ _) idx

/- Items are translated one by one, in their order. -/
theorem messagesToSdkFrom_of_items
    {builders : Sdk.Builders F}
    (hBuilders : builders.RequireFields)
    (dynMsgToJson : DynMsgToJson F)
    (cached : Nat → Bool)
    (items : List ConversationItem)
    (idx : Nat) :
    messagesToSdkFrom builders idx
        (items.mapIdx (fun i item =>
          cachedItemJson dynMsgToJson (cached i) item)) =
      .ok
        (items.mapIdx (fun i item =>
          dispatchedMessage dynMsgToJson (cached i) item)) := by
  induction items generalizing cached idx with
  | nil => rfl
  | cons item items ih =>
      rw [List.mapIdx_cons, messagesToSdkFrom,
        messageToSdk_of_item hBuilders,
        ih (fun i => cached (i + 1)) (idx + 1),
        List.mapIdx_cons]

/- Messages of the user are those of the user's items. -/
theorem hasRole_itemJson
    (dynMsgToJson : DynMsgToJson F)
    (item : ConversationItem) :
    hasRole "user" (itemJson dynMsgToJson item) =
      item.isUser := by
  cases item with
  | userText text => rfl
  | assistantText text => rfl
  | toolCall call => rfl
  | toolResult result => rfl
  | inputToolResult result => rfl

/- The last two items of the user are tagged. -/
theorem applyCachePoints_map_itemJson
    (dynMsgToJson : DynMsgToJson F)
    (enabled : Bool)
    (items : List ConversationItem)
    (system : Option (Json F)) :
    (applyCachePoints
        { enabled := enabled
          messages := items.map (itemJson dynMsgToJson)
          system := system }).messages =
      items.mapIdx (fun i item =>
        cachedItemJson dynMsgToJson
          (enabled &&
            (LastMatches.last ConversationItem.isUser 2
              items).contains i)
          item) := by
  cases enabled with
  | false =>
      rw [eq_comm, List.mapIdx_eq_iff]
      intro i
      exact List.getElem?_map
  | true =>
      have hUsers :
          (fun item : ConversationItem =>
              hasRole "user" (itemJson dynMsgToJson item)) =
            ConversationItem.isUser :=
        funext (hasRole_itemJson dynMsgToJson)
      show tagLastTwo _ = _
      rw [tagLastTwo, LastMatches.positions_map, hUsers,
        List.mapIdx_eq_iff]
      intro i
      rw [List.getElem?_mapIdx, List.getElem?_map,
        Option.map_map]
      cases items[i]? with
      | none => rfl
      | some item =>
          simp [cachedItemJson, LastMatches.last]

end WarpByokProxy

------------------------------------------------------------
-- The Whole Call
------------------------------------------------------------

namespace WarpByokProxy

variable {F : Type}

/- The fields of a translated request are those dispatched. -/
theorem jsonToDocument_requestFields
    (cfg : Config)
    {reasoning : ThinkingFields F}
    (hReasoning :
      buildReasoningConfig
          { mode := cfg.bedrock.thinking.mode
            effort := cfg.bedrock.thinking.effort
            budgetTokens :=
              cfg.bedrock.thinking.budgetTokens } =
        .ok reasoning) :
    jsonToDocument
        (requestFields
          (buildBetas (splitOff1m cfg.bedrock.model).isSome
            [])
          reasoning) =
      .object (dispatchedFields cfg) := by
  obtain rfl := Except.ok.inj hReasoning
  unfold dispatchedFields
  cases (splitOff1m cfg.bedrock.model).isSome with
  | false =>
      cases cfg.bedrock.thinking.mode with
      | adaptive => rfl
      | enabled => rfl
      | off => rfl
  | true =>
      cases cfg.bedrock.thinking.mode with
      | adaptive => rfl
      | enabled => rfl
      | off => rfl

/- Nothing is injected into a system prompt that is missing. -/
theorem applyCachePoints_system_eq_none
    {inp : CacheInputs F}
    (hSystem : inp.system = none) :
    (applyCachePoints inp).system = none := by
  unfold applyCachePoints
  split
  · exact hSystem
  · rw [hSystem, Option.map_none]

/- A translated request carries what the call needs. -/
theorem exists_translatedInput
    (dynMsgToJson : DynMsgToJson F)
    (cfg : Config)
    (req : Wmaa.Request) :
    ∃ input,
      translateWarpRequest dynMsgToJson req cfg =
          .ok input ∧
        input.wireModelId =
          wireModelId
            ((splitOff1m cfg.bedrock.model).getD
              cfg.bedrock.model)
            cfg.prepareOpts ∧
        input.messages =
          (carriedItems req).mapIdx (fun i item =>
            cachedItemJson dynMsgToJson
              (cfg.bedrock.usePromptCache &&
                (LastMatches.last ConversationItem.isUser 2
                  (carriedItems req)).contains i)
              item) ∧
        input.system = none ∧
        jsonToDocument input.additionalModelRequestFields =
          .object (dispatchedFields cfg) := by
  rcases exists_prepareModelId cfg.bedrock.model
      cfg.prepareOpts with
    ⟨prep, hPrep, -, hWire, hMarked⟩
  rw [Config.prepareOpts] at hPrep
  rw [translateWarpRequest, hPrep]
  refine ⟨_, rfl, hWire, ?_, ?_, ?_⟩
  · rw [buildMessages_eq_map, applyCachePoints_map_itemJson]
  · exact applyCachePoints_system_eq_none rfl
  · rw [hMarked]
    exact jsonToDocument_requestFields cfg rfl

/- Every request is dispatched, with the call it stands for. -/
theorem exists_converseStreamInput
    {builders : Sdk.Builders F}
    (hBuilders : builders.RequireFields)
    (dynMsgToJson : DynMsgToJson F)
    (cfg : Config)
    (bedrock : RealBedrock F)
    (req : Wmaa.Request) :
    ∃ input,
      translateWarpRequest dynMsgToJson req cfg =
          .ok input ∧
        bedrock.converseStreamInput builders input =
          .ok
            (bedrock.dispatchedCall dynMsgToJson cfg req) := by
  rcases exists_translatedInput dynMsgToJson cfg req with
    ⟨input, hInput, hModel, hMessages, hSystem, hFields⟩
  have hSdkMessages :
      messagesToSdk builders input.messages =
        .ok
          (bedrock.dispatchedCall dynMsgToJson cfg
            req).messages := by
    rw [hMessages]
    exact messagesToSdkFrom_of_items hBuilders _ _ _ 0
  have hSdkSystem :
      systemToSdk builders input.system = .ok [] := by
    rw [systemToSdk_eq_filterMap hBuilders, hSystem]
    rfl
  refine ⟨input, hInput, ?_⟩
  simp only [RealBedrock.converseStreamInput, hSdkMessages,
    hSdkSystem, hModel, hFields]
  rfl

end WarpByokProxy

------------------------------------------------------------
-- Calls Apart From Cache Points
------------------------------------------------------------

namespace WarpByokProxy

variable {F : Type}

/- Apart from cache points, messages are those of items. -/
theorem eraseCachePoints_dispatchedMessage
    (dynMsgToJson : DynMsgToJson F)
    (cached : Bool)
    (item : ConversationItem) :
    eraseCachePoints
        (dispatchedMessage dynMsgToJson cached item) =
      itemMessage dynMsgToJson item := by
  have hKept := isCachePointContent_content dynMsgToJson item
  have hErased :
      isCachePointContent
          (.cachePoint { type := .default } :
            Sdk.ContentBlock F) =
        true :=
    rfl
  cases cached with
  | false =>
      simp [eraseCachePoints, dispatchedMessage, itemMessage,
        hKept]
  | true =>
      simp [eraseCachePoints, dispatchedMessage, itemMessage,
        hKept, hErased]

/- A call carries the items of its request. -/
theorem map_eraseCachePoints_dispatchedCall
    (dynMsgToJson : DynMsgToJson F)
    (cfg : Config)
    (bedrock : RealBedrock F)
    (req : Wmaa.Request) :
    (bedrock.dispatchedCall dynMsgToJson cfg
        req).messages.map eraseCachePoints =
      (carriedItems req).map (itemMessage dynMsgToJson) := by
  apply List.ext_getElem?
  intro i
  rw [RealBedrock.dispatchedCall, List.getElem?_map,
    List.getElem?_mapIdx, List.getElem?_map,
    Option.map_map]
  cases (carriedItems req)[i]? with
  | none => rfl
  | some item =>
      exact congrArg some
        (eraseCachePoints_dispatchedMessage dynMsgToJson _
          item)

end WarpByokProxy
