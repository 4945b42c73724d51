import WarpByokProxy.History.Items
import WarpByokProxy.History.ToolCallRoundTrip
import WarpByokProxy.Prompt.SdkGrammar

/-
  Conversations on their way to the SDK.

  Every message that the walker emits has one block that the
  SDK translation reads, and a cache point adds one more of
  them. So every request is translated, and without cache
  points its messages are those of the conversation, item by
  item.

  Key definitions include:
    * `itemMessage`
    * `eraseCachePoints`

  Key theorems include:
    * `messageToSdk_of_forall₂`
    * `blockReads_block`
    * `forall₂_applyCachePoints`
    * `exists_messageToSdk_of_item`
    * `exists_cachedMessages_of_request`
    * `exists_messagesToSdk_of_request`
-/

------------------------------------------------------------
-- Messages Of Items
------------------------------------------------------------

namespace WarpByokProxy

variable {F : Type}

namespace ConversationItem

/- The role that an item has in the SDK. -/
def role : ConversationItem → Sdk.ConversationRole
  | .userText _ => .user
  | .assistantText _ => .assistant
  | .toolCall _ => .assistant
  | .toolResult _ => .user
  | .inputToolResult _ => .user

/- The content block that an item has in the SDK. -/
def content
    (dynMsgToJson : DynMsgToJson F) :
    ConversationItem → Sdk.ContentBlock F
  | .userText text => .text text
  | .assistantText text => .text text
  | .toolCall call =>
      let payload := dynMsgToJson.toolCall call
      .toolUse
        { toolUseId := call.toolCallId
          name := priorToolName payload
          input := jsonToDocument payload }
  | .toolResult result =>
      .toolResult
        { toolUseId := result.toolCallId
          content :=
            [.json (jsonToDocument
              (dynMsgToJson.toolCallResult result))]
          status := some .success }
  | .inputToolResult result =>
      .toolResult
        { toolUseId := result.toolCallId
          content :=
            [.json (jsonToDocument
              (dynMsgToJson.inputToolCallResult result))]
          status := some .success }

end ConversationItem

/- The message that an item has in the SDK. -/
def itemMessage
    (dynMsgToJson : DynMsgToJson F)
    (item : ConversationItem) : Sdk.Message F where
  role := item.role
  content := [item.content dynMsgToJson]

/- The content block is a cache point. -/
def isCachePointContent : Sdk.ContentBlock F → Bool
  | .cachePoint _ => true
  | _ => false

/- The message without its cache points. -/
def eraseCachePoints
    (message : Sdk.Message F) : Sdk.Message F :=
  { message with
    content :=
      message.content.filter (fun content =>
        !isCachePointContent content) }

/- Items are no cache points. -/
theorem isCachePointContent_content
    (dynMsgToJson : DynMsgToJson F)
    (item : ConversationItem) :
    isCachePointContent (item.content dynMsgToJson) =
      false := by
  cases item with
  | userText text => rfl
  | assistantText text => rfl
  | toolCall call => rfl
  | toolResult result => rfl
  | inputToolResult result => rfl

end WarpByokProxy

------------------------------------------------------------
-- Messages Whose Blocks Are Read
------------------------------------------------------------

namespace WarpByokProxy

variable {F : Type}

/- Blocks that are all read are pushed in order. -/
theorem pushBlocks_of_forall₂
    {builders : Sdk.Builders F}
    (hBuilders : builders.RequireFields)
    {blocks : List (Json F)}
    {content : List (Sdk.ContentBlock F)}
    (hReads : List.Forall₂ BlockReads blocks content)
    (idx bIdx : Nat)
    (builder : Sdk.MessageBuilder F) :
    pushBlocks builders idx bIdx blocks builder =
      .ok (content.foldl .pushContent builder) := by
  induction hReads generalizing bIdx builder with
  | nil => rfl
  | @cons block first blocks content hHead _ ih =>
      rw [pushBlocks,
        blockToContent_of_blockReads hBuilders hHead]
      exact ih (bIdx + 1) (builder.pushContent first)

/- A message whose blocks are all read is translated. -/
theorem messageToSdk_of_forall₂
    {builders : Sdk.Builders F}
    (hBuilders : builders.RequireFields)
    {message : Json F}
    {role : Sdk.ConversationRole}
    (hRole : RoleReads message role)
    {blocks : List (Json F)}
    (hGet : message.get "content" = some (.array blocks))
    {content : List (Sdk.ContentBlock F)}
    (hReads : List.Forall₂ BlockReads blocks content)
    (hSome : content ≠ [])
    (idx : Nat) :
    messageToSdk builders idx message =
      .ok { role := role, content := content } := by
  apply messageToSdk_of_pushBlocks hBuilders hRole hGet
  · exact pushBlocks_of_forall₂ hBuilders hReads idx 0 _
  · exact hSome

/- A block of another type without a cache point is typed. -/
theorem isTyped_of_type
    {block : Json F}
    (type : String)
    (hType : block.getStr "type" = some type)
    (hText : type ≠ "text")
    (hCache : block.get "cachePoint" = none) :
    IsTyped block where
  notText := by
    rintro text ⟨hOther, -⟩
    rw [hType, Option.some.injEq] at hOther
    exact hText hOther
  notCachePoint := by
    rintro ⟨entries, hGet⟩
    rw [hCache] at hGet
    contradiction

theorem blockReads_textBlock
    (text : String) :
    BlockReads (textBlock text : Json F) (.text text) := by
  apply BlockReads.text
  constructor
  · rw [textBlock, Json.getStr_ofStrings]
    rfl
  · rw [textBlock, Json.getStr_ofStrings]
    rfl

theorem blockReads_toolUseBlock
    (id name : String)
    (input : Json F) :
    BlockReads (toolUseBlock id name input)
      (.toolUse
        { toolUseId := id
          name := name
          input := jsonToDocument input }) := by
  apply BlockReads.toolUse
  · exact isTyped_of_type "tool_use" rfl (by simp) rfl
  · rfl
  · rfl
  · rfl
  · exact .present rfl (documentReads_jsonToDocument input)

theorem blockReads_toolResultBlock
    (id : String)
    (body : Json F) :
    BlockReads (toolResultBlock id body)
      (.toolResult
        { toolUseId := id
          content := [.json (jsonToDocument body)]
          status := some .success }) := by
  apply BlockReads.toolResult
  · exact isTyped_of_type "tool_result" rfl (by simp) rfl
  · rfl
  · rfl
  · rfl
  · apply Readings.ReadsAll.read
    · exact
        .json rfl rfl (documentReads_jsonToDocument body)
    · exact .nil
  · exact List.cons_ne_nil _ _
  · simp [StatusReads, toolResultBlock, List.lookup_cons]

theorem blockReads_cachePointBlock :
    BlockReads (cachePointBlock : Json F)
      (.cachePoint { type := .default }) := by
  apply BlockReads.cachePoint
  · rintro text ⟨hType, -⟩
    simp [cachePointBlock, Json.getStr,
      List.lookup_cons] at hType
  · exact ⟨_, rfl⟩

/- The block of an item is read as the item's content. -/
theorem blockReads_block
    (dynMsgToJson : DynMsgToJson F)
    (item : ConversationItem) :
    BlockReads (item.block dynMsgToJson)
      (item.content dynMsgToJson) := by
  cases item with
  | userText text => exact blockReads_textBlock text
  | assistantText text => exact blockReads_textBlock text
  | toolCall call => exact blockReads_toolUseBlock _ _ _
  | toolResult result =>
      exact blockReads_toolResultBlock _ _
  | inputToolResult result =>
      exact blockReads_toolResultBlock _ _

end WarpByokProxy

------------------------------------------------------------
-- Cached Messages
------------------------------------------------------------

namespace WarpByokProxy

variable {F : Type}

/- A list is related to what its elements are mapped to. -/
theorem forall₂_mapIdx
    {α β : Type*}
    {R : α → β → Prop}
    {f : Nat → α → β}
    (hMap : ∀ i x, R x (f i x))
    (xs : List α) :
    List.Forall₂ R xs (xs.mapIdx f) := by
  induction xs generalizing f with
  | nil => exact .nil
  | cons x xs ih =>
      rw [List.mapIdx_cons]
      exact .cons (hMap 0 x) (ih (fun i => hMap (i + 1)))

/- Injection tags a message or leaves it alone. -/
theorem forall₂_applyCachePoints
    (inp : CacheInputs F) :
    List.Forall₂
      (fun message cached =>
        cached = message ∨ cached = tagMessage message)
      inp.messages (applyCachePoints inp).messages := by
  rw [applyCachePoints]
  cases inp.enabled with
  | false =>
      exact List.forall₂_same.mpr (fun _ _ => Or.inl rfl)
  | true =>
      apply forall₂_mapIdx
      intro i message
      split_ifs with hLast
      · exact Or.inr rfl
      · exact Or.inl rfl

/- Tagging an item's message adds a cache point. -/
theorem tagMessage_itemJson
    (dynMsgToJson : DynMsgToJson F)
    (item : ConversationItem) :
    tagMessage (itemJson dynMsgToJson item) =
      .object
        [("role", .string item.roleText),
          ("content", .array
            [item.block dynMsgToJson, cachePointBlock])] := by
  simp [tagMessage, itemJson, messageJson, Json.indexMut,
    Json.modifyEntry, Json.push, List.lookup_cons]

theorem roleReads_roleText
    (item : ConversationItem)
    (content : Json F) :
    RoleReads
      (.object
        [("role", .string item.roleText),
          ("content", content)])
      item.role := by
  cases item with
  | userText text => exact .user rfl
  | assistantText text => exact .assistant rfl
  | toolCall call => exact .assistant rfl
  | toolResult result => exact .user rfl
  | inputToolResult result => exact .user rfl

/- The message of an item is translated, tagged or not. -/
theorem exists_messageToSdk_of_item
    {builders : Sdk.Builders F}
    (hBuilders : builders.RequireFields)
    (dynMsgToJson : DynMsgToJson F)
    (item : ConversationItem)
    {cached : Json F}
    (hCached :
      cached = itemJson dynMsgToJson item ∨
        cached = tagMessage (itemJson dynMsgToJson item))
    (idx : Nat) :
    ∃ out,
      messageToSdk builders idx cached = .ok out ∧
        out.content ≠ [] ∧
        eraseCachePoints out =
          itemMessage dynMsgToJson item := by
  have hBlock := blockReads_block dynMsgToJson item
  have hKept := isCachePointContent_content dynMsgToJson item
  have hErased :
      isCachePointContent
          (.cachePoint { type := .default } :
            Sdk.ContentBlock F) =
        true :=
    rfl
  rcases hCached with rfl | rfl
  · have hOk :=
      messageToSdk_of_forall₂ hBuilders
        (roleReads_roleText item
          (.array [item.block dynMsgToJson]))
        rfl (.cons hBlock .nil) (List.cons_ne_nil _ _) idx
    refine ⟨_, hOk, List.cons_ne_nil _ _, ?_⟩
    simp [eraseCachePoints, itemMessage, hKept]
  · rw [tagMessage_itemJson]
    have hOk :=
      messageToSdk_of_forall₂ hBuilders
        (roleReads_roleText item
          (.array
            [item.block dynMsgToJson, cachePointBlock]))
        rfl
        (.cons hBlock (.cons blockReads_cachePointBlock .nil))
        (List.cons_ne_nil _ _) idx
    refine ⟨_, hOk, List.cons_ne_nil _ _, ?_⟩
    simp [eraseCachePoints, itemMessage, hKept, hErased]

end WarpByokProxy

------------------------------------------------------------
-- Whole Requests
------------------------------------------------------------

namespace WarpByokProxy

variable {F : Type}

/- Messages that are translated one by one are translated. -/
theorem exists_messagesToSdkFrom_of_items
    {builders : Sdk.Builders F}
    (hBuilders : builders.RequireFields)
    {dynMsgToJson : DynMsgToJson F}
    {items : List ConversationItem}
    {messages : List (Json F)}
    (hMessages :
      List.Forall₂
        (fun item cached =>
          cached = itemJson dynMsgToJson item ∨
            cached = tagMessage (itemJson dynMsgToJson item))
        items messages)
    (idx : Nat) :
    ∃ out,
      messagesToSdkFrom builders idx messages = .ok out ∧
        (∀ message ∈ out, message.content ≠ []) ∧
        out.map eraseCachePoints =
          items.map (itemMessage dynMsgToJson) := by
  induction hMessages generalizing idx with
  | nil =>
      refine ⟨[], rfl, ?_, rfl⟩
      intro message hMem
      contradiction
  | @cons item cached items messages hCached _ ih =>
      rcases exists_messageToSdk_of_item hBuilders
          dynMsgToJson item hCached idx with
        ⟨first, hFirst, hSome, hErase⟩
      rcases ih (idx + 1) with
        ⟨rest, hRest, hForall, hMap⟩
      refine ⟨first :: rest, ?_, ?_, ?_⟩
      · rw [messagesToSdkFrom, hFirst]
        simp only [hRest]
      · exact List.forall_mem_cons.mpr ⟨hSome, hForall⟩
      · rw [List.map_cons, List.map_cons, hErase, hMap]

/-
  Every request is translated to the messages of its items,
  some of them tagged with a cache point.
-/
theorem exists_cachedMessages_of_request
    (dynMsgToJson : DynMsgToJson F)
    (req : Wmaa.Request)
    (cfg : Config) :
    ∃ input,
      translateWarpRequest dynMsgToJson req cfg =
          .ok input ∧
        List.Forall₂
          (fun item cached =>
            cached = itemJson dynMsgToJson item ∨
              cached =
                tagMessage (itemJson dynMsgToJson item))
          (carriedItems req) input.messages := by
  rcases exists_translateWarpRequest dynMsgToJson req cfg
    with ⟨input, reasoning, hInput, hMessages, -⟩
  refine ⟨input, hInput, ?_⟩
  have hAll :=
    forall₂_applyCachePoints
      { enabled := cfg.bedrock.usePromptCache
        messages := buildMessages dynMsgToJson req
        system := extractSystemPrompt req }
  rw [← hMessages, buildMessages_eq_map,
    List.forall₂_map_left_iff] at hAll
  exact hAll

/-
  Every request is translated up to the messages of the SDK,
  which are those of its conversation and cache points.
-/
theorem exists_messagesToSdk_of_request
    {builders : Sdk.Builders F}
    (hBuilders : builders.RequireFields)
    (dynMsgToJson : DynMsgToJson F)
    (req : Wmaa.Request)
    (cfg : Config) :
    ∃ input out,
      translateWarpRequest dynMsgToJson req cfg =
          .ok input ∧
        messagesToSdk builders input.messages = .ok out ∧
        out ≠ [] ∧
        (∀ message ∈ out, message.content ≠ []) ∧
        out.map eraseCachePoints =
          (carriedItems req).map
            (itemMessage dynMsgToJson) := by
  rcases exists_cachedMessages_of_request dynMsgToJson req
      cfg with ⟨input, hInput, hCached⟩
  rcases exists_messagesToSdkFrom_of_items hBuilders hCached 0
    with ⟨out, hOut, hForall, hMap⟩
  refine ⟨input, out, hInput, hOut, ?_, hForall, hMap⟩
  intro hNil
  rw [hNil, List.map_nil, eq_comm, List.map_eq_nil_iff]
    at hMap
  exact carriedItems_ne_nil req hMap

/- A configuration with caching and without tools. -/
def cachingConfig : Config where
  bedrock :=
    { region := "us-east-1"
      model := "anthropic.claude-opus-4-7"
      useCrossRegionInference := true
      useGlobalInference := false
      usePromptCache := true
      enable1mContext := true
      thinking :=
        { mode := .adaptive
          effort := .max
          budgetTokens := none }
      tools := [] }

theorem exists_messagesToSdk_of_request_one_call :
    ∃ input out,
      translateWarpRequest (F := Empty) .canonical
          (answeringTurn ["tu_1"]) cachingConfig =
          .ok input ∧
        messagesToSdk .strict input.messages = .ok out ∧
        out ≠ [] ∧
        (∀ message ∈ out, message.content ≠ []) ∧
        out.map eraseCachePoints =
          (carriedItems (answeringTurn ["tu_1"])).map
            (itemMessage .canonical) :=
  exists_messagesToSdk_of_request
    Sdk.Builders.strict_requireFields .canonical
    (answeringTurn ["tu_1"]) cachingConfig

end WarpByokProxy
