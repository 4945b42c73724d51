import WarpByokProxy.History.Resumption
import WarpByokProxy.History.SdkMessages

/-
  The names of the tools that a conversation has called.

  The tool-use blocks of a translated request are those of
  the calls in its history, in their order. Their names are
  read off the transcoded calls, where the walker looks for
  an entry under the name of the oneof. No call has one, so
  that every block is named `unknown`, whichever tool it
  called.

  Key definitions include:
    * `priorCalls`
    * `Wmaa.ToolCall.toolName`
    * `toolUseNames`
    * `sdkToolNames`
    * `KeepsToolNames`

  Key theorems include:
    * `toolUseNames_walkPriorMessages`
    * `exists_sdkToolNames_eq`
    * `keepsToolNames_iff`
-/

------------------------------------------------------------
-- Calls Of The History
------------------------------------------------------------

namespace WarpByokProxy

/- The call that an item is. -/
def ConversationItem.call? :
    ConversationItem → Option Wmaa.ToolCall
  | .toolCall call => some call
  | _ => none

/- The tool calls in the history of a request. -/
def priorCalls
    (req : Wmaa.Request) : List Wmaa.ToolCall :=
  ((priorMessages req).filterMap priorItem).filterMap
    ConversationItem.call?

/-
  The name of the tool that is called: the JSON name of its
  variant, and `unknown` when none is set.
-/
def Wmaa.ToolCall.toolName
    (call : ToolCall) : String :=
  (call.tool.map Tool.jsonKey).getD "unknown"

/- Text makes no other item than its own. -/
theorem eq_of_textItem_eq_some
    {item : String → ConversationItem}
    {text : String}
    {found : ConversationItem}
    (hFound : textItem item text = some found) :
    found = item text := by
  rw [textItem] at hFound
  split_ifs at hFound with hBlank
  exact (Option.some.inj hFound).symm

/- The query of a turn is not a call. -/
theorem call?_of_mem_textItem
    {query : String}
    {item : ConversationItem}
    (hMem : item ∈ (textItem .userText query).toList) :
    item.call? = none := by
  rw [Option.mem_toList] at hMem
  rw [eq_of_textItem_eq_some hMem]
  rfl

/- No input of the user is a call. -/
theorem call?_of_userInputItem
    {userInput : Wmaa.UserInput}
    {item : ConversationItem}
    (hItem : userInputItem userInput = some item) :
    item.call? = none := by
  unfold userInputItem at hItem
  split at hItem
  · rw [eq_of_textItem_eq_some hItem]
    rfl
  · rw [eq_of_textItem_eq_some hItem]
    rfl
  · rw [← Option.some.inj hItem]
    rfl
  · contradiction

/- The current turn has no calls. -/
theorem filterMap_call?_currentItems
    (req : Wmaa.Request) :
    (currentItems req).filterMap ConversationItem.call? =
      [] := by
  rw [List.filterMap_eq_nil_iff]
  intro item hMem
  unfold currentItems at hMem
  split at hMem
  · rcases List.mem_filterMap.mp hMem with
      ⟨userInput, -, hItem⟩
    exact call?_of_userInputItem hItem
  · exact call?_of_mem_textItem hMem
  · exact call?_of_mem_textItem hMem
  · exact call?_of_mem_textItem hMem
  · exact call?_of_mem_textItem hMem
  · exact absurd hMem List.not_mem_nil

/- The carried calls are those of the history. -/
theorem filterMap_call?_carriedItems
    (req : Wmaa.Request) :
    (carriedItems req).filterMap ConversationItem.call? =
      priorCalls req := by
  have hConversation :
      (conversation req).filterMap ConversationItem.call? =
        priorCalls req := by
    rw [conversation, List.filterMap_append,
      filterMap_call?_currentItems, List.append_nil,
      priorCalls]
  unfold carriedItems
  split_ifs with hEmpty
  · rw [List.isEmpty_iff] at hEmpty
    rw [← hConversation, hEmpty]
    rfl
  · exact hConversation

end WarpByokProxy

------------------------------------------------------------
-- Names Of Tool Uses
------------------------------------------------------------

namespace WarpByokProxy

variable {F : Type}

/- The name of a tool-use block. -/
def toolUseName?
    (block : Json F) : Option String :=
  if block.getStr "type" = some "tool_use" then
    block.getStr "name"
  else
    none

/- The names of the tool uses of a message. -/
def toolUseNames
    (message : Json F) : List String :=
  ((contentArray message).getD []).filterMap toolUseName?

/- The name of a tool use of the SDK. -/
def sdkToolName? : Sdk.ContentBlock F → Option String
  | .toolUse toolUse => some toolUse.name
  | _ => none

/- The names of the tool uses of a message of the SDK. -/
def sdkToolNames
    (message : Sdk.Message F) : List String :=
  message.content.filterMap sdkToolName?

/- The name that the walker gives to the call of an item. -/
def walkedName?
    (dynMsgToJson : DynMsgToJson F)
    (item : ConversationItem) : Option String :=
  item.call?.map (fun call =>
    priorToolName (dynMsgToJson.toolCall call))

theorem toolUseNames_itemJson
    (dynMsgToJson : DynMsgToJson F)
    (item : ConversationItem) :
    toolUseNames (itemJson dynMsgToJson item) =
      (walkedName? dynMsgToJson item).toList := by
  rw [toolUseNames, contentArray_itemJson]
  cases item with
  | userText text => rfl
  | assistantText text => rfl
  | toolCall call => rfl
  | toolResult result => rfl
  | inputToolResult result => rfl

theorem sdkToolNames_itemMessage
    (dynMsgToJson : DynMsgToJson F)
    (item : ConversationItem) :
    sdkToolNames (itemMessage dynMsgToJson item) =
      (walkedName? dynMsgToJson item).toList := by
  cases item with
  | userText text => rfl
  | assistantText text => rfl
  | toolCall call => rfl
  | toolResult result => rfl
  | inputToolResult result => rfl

/- Cache points use no tools. -/
theorem sdkToolNames_eraseCachePoints
    (message : Sdk.Message F) :
    sdkToolNames (eraseCachePoints message) =
      sdkToolNames message := by
  rw [sdkToolNames, eraseCachePoints, List.filterMap_filter,
    sdkToolNames]
  refine List.filterMap_congr (fun content _ => ?_)
  cases content with
  | text text => rfl
  | cachePoint block => rfl
  | toolUse block => rfl
  | toolResult block => rfl

/- Names of items are the names of their calls. -/
theorem flatMap_walkedName?
    (dynMsgToJson : DynMsgToJson F)
    (items : List ConversationItem) :
    items.flatMap (fun item =>
        (walkedName? dynMsgToJson item).toList) =
      (items.filterMap ConversationItem.call?).map
        (fun call =>
          priorToolName (dynMsgToJson.toolCall call)) := by
  rw [List.map_filterMap, List.filterMap_eq_flatMap_toList]
  rfl

/- The walker names each call of the history. -/
theorem toolUseNames_walkPriorMessages
    (dynMsgToJson : DynMsgToJson F)
    (req : Wmaa.Request) :
    (walkPriorMessages dynMsgToJson req).flatMap
        toolUseNames =
      (priorCalls req).map (fun call =>
        priorToolName (dynMsgToJson.toolCall call)) := by
  rw [walkPriorMessages_eq_map, List.flatMap_map]
  simp only [toolUseNames_itemJson]
  rw [flatMap_walkedName?, priorCalls]

/-
  Every request is translated, and the names of the SDK's
  tool uses are those that the walker gave.
-/
theorem exists_sdkToolNames_eq
    {builders : Sdk.Builders F}
    (hBuilders : builders.RequireFields)
    (dynMsgToJson : DynMsgToJson F)
    (req : Wmaa.Request)
    (cfg : Config) :
    ∃ input out,
      translateWarpRequest dynMsgToJson req cfg =
          .ok input ∧
        messagesToSdk builders input.messages = .ok out ∧
        out.flatMap sdkToolNames =
          (priorCalls req).map (fun call =>
            priorToolName (dynMsgToJson.toolCall call)) := by
  rcases exists_cachedMessages_of_request dynMsgToJson req
      cfg with ⟨input, hInput, hCached⟩
  rcases exists_messagesToSdkFrom_of_items hBuilders hCached 0
    with ⟨out, hOut, -, hErased⟩
  refine ⟨input, out, hInput, hOut, ?_⟩
  have hNames :=
    congrArg (List.flatMap sdkToolNames) hErased
  rw [List.flatMap_map, List.flatMap_map] at hNames
  simp only [sdkToolNames_eraseCachePoints,
    sdkToolNames_itemMessage] at hNames
  rw [hNames, flatMap_walkedName?,
    filterMap_call?_carriedItems]

end WarpByokProxy

------------------------------------------------------------
-- Lost Names
------------------------------------------------------------

namespace WarpByokProxy

variable {F : Type}

/-
  The tool uses that the walker emits carry the names of the
  tools that were called, and so do those of the SDK.
-/
def KeepsToolNames
    (builders : Sdk.Builders F)
    (dynMsgToJson : DynMsgToJson F)
    (req : Wmaa.Request)
    (cfg : Config) : Prop :=
  (walkPriorMessages dynMsgToJson req).flatMap
      toolUseNames =
    (priorCalls req).map Wmaa.ToolCall.toolName ∧
  ∃ input out,
    translateWarpRequest dynMsgToJson req cfg =
        .ok input ∧
      messagesToSdk builders input.messages = .ok out ∧
      out.flatMap sdkToolNames =
        (priorCalls req).map Wmaa.ToolCall.toolName

/- Calls without a tool, and no others, are `unknown`. -/
theorem toolName_eq_unknown_iff
    (call : Wmaa.ToolCall) :
    "unknown" = call.toolName ↔
      ∀ tool, call.tool = some tool →
        tool.jsonKey = "unknown" := by
  rw [Wmaa.ToolCall.toolName]
  cases call.tool with
  | none => simp
  | some tool => simp [eq_comm]

/- The walker gives every call the same name. -/
theorem map_priorToolName
    {dynMsgToJson : DynMsgToJson F}
    (hCanonical : dynMsgToJson.Canonical)
    {calls : List Wmaa.ToolCall}
    (hVariants :
      ∀ call ∈ calls, ∀ tool, call.tool = some tool →
        tool.jsonKey ≠ "tool") :
    calls.map (fun call =>
        priorToolName (dynMsgToJson.toolCall call)) =
      calls.map (fun _ => "unknown") := by
  refine List.map_congr_left (fun call hCall => ?_)
  exact
    priorToolName_of_not_mem hCanonical
      (tool_not_mem_jsonKeys (hVariants call hCall))

/-
  A oneof and its fields share one namespace, so no variant
  of `tool` is called `tool`. The names are then kept just
  when no other name than `unknown` was to be kept.
-/
theorem keepsToolNames_iff
    {builders : Sdk.Builders F}
    (hBuilders : builders.RequireFields)
    {dynMsgToJson : DynMsgToJson F}
    (hCanonical : dynMsgToJson.Canonical)
    (req : Wmaa.Request)
    (cfg : Config)
    (hVariants :
      ∀ call ∈ priorCalls req,
        ∀ tool, call.tool = some tool →
          tool.jsonKey ≠ "tool") :
    KeepsToolNames builders dynMsgToJson req cfg ↔
      ∀ call ∈ priorCalls req,
        ∀ tool, call.tool = some tool →
          tool.jsonKey = "unknown" := by
  have hNames :
      (priorCalls req).map (fun call =>
            priorToolName (dynMsgToJson.toolCall call)) =
          (priorCalls req).map Wmaa.ToolCall.toolName ↔
        ∀ call ∈ priorCalls req,
          ∀ tool, call.tool = some tool →
            tool.jsonKey = "unknown" := by
    rw [map_priorToolName hCanonical hVariants,
      List.map_inj_left]
    simp only [toolName_eq_unknown_iff]
  rw [← hNames, KeepsToolNames,
    toolUseNames_walkPriorMessages]
  constructor
  · rintro ⟨hWalked, -⟩
    exact hWalked
  · intro hSame
    refine ⟨hSame, ?_⟩
    rw [← hSame]
    exact
      exists_sdkToolNames_eq hBuilders dynMsgToJson req cfg

/- A request whose history is one tool call. -/
def requestWithCall
    (call : Wmaa.ToolCall) : Wmaa.Request where
  taskContext :=
    some
      { tasks :=
          [{ id := "task"
             messages :=
              [{ id := "message"
                 taskId := "task"
                 message := some (.toolCall call) }] }] }
  input := none

theorem priorCalls_requestWithCall
    (call : Wmaa.ToolCall) :
    priorCalls (requestWithCall call) = [call] :=
  rfl

theorem keepsToolNames_iff_read_files :
    let call : Wmaa.ToolCall :=
      { toolCallId := "tu_1"
        tool := some (.other ⟨"read_files", []⟩) }
    KeepsToolNames .strict
        (.canonical : DynMsgToJson Empty)
        (requestWithCall call) cachingConfig ↔
      ∀ other ∈ priorCalls (requestWithCall call),
        ∀ tool, other.tool = some tool →
          tool.jsonKey = "unknown" := by
  refine
    keepsToolNames_iff Sdk.Builders.strict_requireFields
      DynMsgToJson.canonical_canonical _ _ ?_
  intro call hCall tool hTool
  rw [priorCalls_requestWithCall, List.mem_singleton]
    at hCall
  rw [hCall] at hTool
  rw [← Option.some.inj hTool]
  decide +kernel

/- A shell command comes back as a call of `unknown`. -/
theorem not_keepsToolNames_run_shell_command :
    ¬ KeepsToolNames .strict
      (.canonical : DynMsgToJson Empty)
      (requestWithCall
        { toolCallId := "tu_1"
          tool := some (.other ⟨"run_shell_command", []⟩) })
      cachingConfig := by
  rintro ⟨hWalked, -⟩
  rw [toolUseNames_walkPriorMessages,
    priorCalls_requestWithCall] at hWalked
  revert hWalked
  decide +kernel

end WarpByokProxy
