import WarpByokProxy.Translator
import Mathlib.Data.List.Basic

/-
  The conversation of a request, apart from its encoding.

  A conversation is a list of texts, tool calls and results.
  Blank texts and messages of other kinds contribute nothing
  to it. The messages of a request encode its conversation
  item by item.

  Key definitions include:
    * `ConversationItem`
    * `conversation`
    * `carriedItems`
    * `answeringTurn`
    * `itemJson`

  Key theorems include:
    * `priorMessageToJson_eq_map`
    * `buildMessages_eq_map`
-/

------------------------------------------------------------
-- Conversations
------------------------------------------------------------

namespace WarpByokProxy

/- One item of a conversation. -/
inductive ConversationItem where
  | userText (text : String)
  | assistantText (text : String)
  | toolCall (call : Wmaa.ToolCall)
  | toolResult (result : Wmaa.ToolCallResult)
  | inputToolResult (result : Wmaa.InputToolCallResult)

/- The item of a text, unless the text is blank. -/
def textItem
    (item : String → ConversationItem)
    (text : String) : Option ConversationItem :=
  if trimIsEmpty text then none else some (item text)

/- The item that a prior message stands for. -/
def priorItem
    (msg : Wmaa.Message) : Option ConversationItem :=
  match msg.message with
  | some (.userQuery query) => textItem .userText query.query
  | some (.agentOutput output) =>
      textItem .assistantText output.text
  | some (.agentReasoning reasoning) =>
      textItem .assistantText reasoning.reasoning
  | some (.toolCall call) => some (.toolCall call)
  | some (.toolCallResult result) => some (.toolResult result)
  | some (.other _) => none
  | none => none

/- The item that an input of the user stands for. -/
def userInputItem
    (userInput : Wmaa.UserInput) : Option ConversationItem :=
  match userInput.input with
  | some (.userQuery query) => textItem .userText query.query
  | some (.cliAgentUserQuery (some query)) =>
      textItem .userText query.query
  | some (.toolCallResult result) =>
      some (.inputToolResult result)
  | _ => none

/- The messages of all tasks, in order. -/
def priorMessages
    (req : Wmaa.Request) : List Wmaa.Message :=
  match req.taskContext with
  | none => []
  | some context =>
      context.tasks.flatMap Wmaa.Task.messages

/- The items of the current turn. -/
def currentItems
    (req : Wmaa.Request) : List ConversationItem :=
  match req.input.bind Wmaa.Input.type with
  | some (.userInputs inputs) =>
      inputs.filterMap userInputItem
  | some (.userQuery query) =>
      (textItem .userText query.query).toList
  | some (.autoCodeDiffQuery query) =>
      (textItem .userText query.query).toList
  | some (.queryWithCannedResponse query) =>
      (textItem .userText query.query).toList
  | some (.createNewProject query) =>
      (textItem .userText query.query).toList
  | _ => []

/- The history, followed by the current turn. -/
def conversation
    (req : Wmaa.Request) : List ConversationItem :=
  (priorMessages req).filterMap priorItem ++
    currentItems req

/- The conversation, or a diagnostic text when it is empty. -/
def carriedItems
    (req : Wmaa.Request) : List ConversationItem :=
  if (conversation req).isEmpty then
    [.userText
      "[PHASE0 WALKER: no UserQuery found in request.input]"]
  else
    conversation req

theorem carriedItems_ne_nil
    (req : Wmaa.Request) :
    carriedItems req ≠ [] := by
  unfold carriedItems
  split_ifs with hEmpty
  · exact List.cons_ne_nil _ _
  · rw [List.isEmpty_iff] at hEmpty
    exact hEmpty

/- A turn that brings the results of the calls before it. -/
def answeringTurn
    (ids : List String) : Wmaa.Request where
  taskContext :=
    some
      { tasks :=
          [{ id := "task"
             messages := ids.map (fun id =>
              { id := id
                taskId := "task"
                message :=
                  some (.toolCall
                    { toolCallId := id, tool := none }) }) }] }
  input :=
    some
      { type :=
          some (.userInputs (ids.map (fun id =>
            { input :=
                some (.toolCallResult
                  { toolCallId := id
                    result := none }) }))) }

theorem conversation_answeringTurn
    (ids : List String) :
    conversation (answeringTurn ids) =
      ids.map (fun id =>
          .toolCall { toolCallId := id, tool := none }) ++
        ids.map (fun id =>
          .inputToolResult
            { toolCallId := id, result := none }) := by
  simp only [conversation, priorMessages, currentItems,
    answeringTurn, List.flatMap_cons, List.flatMap_nil,
    List.append_nil, List.filterMap_map, Option.bind_some]
  rw [← List.filterMap_eq_map, ← List.filterMap_eq_map]
  rfl

end WarpByokProxy

------------------------------------------------------------
-- Encoded Items
------------------------------------------------------------

namespace WarpByokProxy

namespace ConversationItem

variable {F : Type}

/- The role of an item. -/
def roleText : ConversationItem → String
  | .userText _ => "user"
  | .assistantText _ => "assistant"
  | .toolCall _ => "assistant"
  | .toolResult _ => "user"
  | .inputToolResult _ => "user"

/- The content block of an item. -/
def block
    (dynMsgToJson : DynMsgToJson F) :
    ConversationItem → Json F
  | .userText text => textBlock text
  | .assistantText text => textBlock text
  | .toolCall call =>
      let payload := dynMsgToJson.toolCall call
      toolUseBlock call.toolCallId (priorToolName payload)
        payload
  | .toolResult result =>
      toolResultBlock result.toolCallId
        (dynMsgToJson.toolCallResult result)
  | .inputToolResult result =>
      toolResultBlock result.toolCallId
        (dynMsgToJson.inputToolCallResult result)

end ConversationItem

variable {F : Type}

/- The message of an item. -/
def itemJson
    (dynMsgToJson : DynMsgToJson F)
    (item : ConversationItem) : Json F :=
  messageJson item.roleText (item.block dynMsgToJson)

/- The message of a text is that of its item. -/
theorem textMessage_eq_map
    (dynMsgToJson : DynMsgToJson F)
    {item : String → ConversationItem}
    {role text : String}
    (hItem :
      itemJson dynMsgToJson (item text) =
        messageJson role (textBlock text)) :
    textMessage role text =
      (textItem item text).map (itemJson dynMsgToJson) := by
  rw [textMessage, textItem]
  split_ifs with hBlank
  · rfl
  · rw [Option.map_some, hItem]

/- A prior message is encoded as its item. -/
theorem priorMessageToJson_eq_map
    (dynMsgToJson : DynMsgToJson F)
    (msg : Wmaa.Message) :
    priorMessageToJson dynMsgToJson msg =
      (priorItem msg).map (itemJson dynMsgToJson) := by
  unfold priorMessageToJson priorItem
  cases msg.message with
  | none => rfl
  | some content =>
      cases content with
      | userQuery query =>
          exact textMessage_eq_map dynMsgToJson rfl
      | agentOutput output =>
          exact textMessage_eq_map dynMsgToJson rfl
      | agentReasoning reasoning =>
          exact textMessage_eq_map dynMsgToJson rfl
      | toolCall call => rfl
      | toolCallResult result => rfl
      | other variant => rfl

/- An input of the user is encoded as its item. -/
theorem userInputMessages_eq_map
    (dynMsgToJson : DynMsgToJson F)
    (userInput : Wmaa.UserInput) :
    userInputMessages dynMsgToJson userInput =
      ((userInputItem userInput).map
        (itemJson dynMsgToJson)).toList := by
  unfold userInputMessages userInputItem
  cases userInput.input with
  | none => rfl
  | some content =>
      cases content with
      | userQuery query =>
          exact congrArg Option.toList
            (textMessage_eq_map dynMsgToJson rfl)
      | cliAgentUserQuery query =>
          cases query with
          | none => rfl
          | some query =>
              exact congrArg Option.toList
                (textMessage_eq_map dynMsgToJson rfl)
      | toolCallResult result => rfl
      | other variant => rfl

theorem walkPriorMessages_eq_map
    (dynMsgToJson : DynMsgToJson F)
    (req : Wmaa.Request) :
    walkPriorMessages dynMsgToJson req =
      ((priorMessages req).filterMap priorItem).map
        (itemJson dynMsgToJson) := by
  rw [walkPriorMessages, priorMessages, List.map_filterMap]
  simp only [← priorMessageToJson_eq_map]
  cases req.taskContext with
  | none => rfl
  | some context => exact List.filterMap_flatMap.symm

/- The message of a query is that of its item. -/
theorem toList_textMessage_eq_map
    (dynMsgToJson : DynMsgToJson F)
    (query : Wmaa.UserQuery) :
    (textMessage "user" query.query).toList =
      (textItem .userText query.query).toList.map
        (itemJson dynMsgToJson) := by
  have hText :
      textMessage "user" query.query =
        (textItem .userText query.query).map
          (itemJson dynMsgToJson) :=
    textMessage_eq_map dynMsgToJson rfl
  rw [hText]
  cases textItem .userText query.query with
  | none => rfl
  | some item => rfl

theorem extractUserMessages_eq_map
    (dynMsgToJson : DynMsgToJson F)
    (req : Wmaa.Request) :
    extractUserMessages dynMsgToJson req =
      (currentItems req).map (itemJson dynMsgToJson) := by
  unfold extractUserMessages currentItems
  cases req.input.bind Wmaa.Input.type with
  | none => rfl
  | some type =>
      cases type with
      | userInputs inputs =>
          rw [List.map_filterMap,
            List.filterMap_eq_flatMap_toList]
          exact congrArg (fun messages =>
              inputs.flatMap messages)
            (funext (userInputMessages_eq_map dynMsgToJson))
      | userQuery query =>
          exact toList_textMessage_eq_map dynMsgToJson query
      | autoCodeDiffQuery query =>
          exact toList_textMessage_eq_map dynMsgToJson query
      | queryWithCannedResponse query =>
          exact toList_textMessage_eq_map dynMsgToJson query
      | createNewProject query =>
          exact toList_textMessage_eq_map dynMsgToJson query
      | other variant => rfl

/- The messages of a request encode what it carries. -/
theorem buildMessages_eq_map
    (dynMsgToJson : DynMsgToJson F)
    (req : Wmaa.Request) :
    buildMessages dynMsgToJson req =
      (carriedItems req).map (itemJson dynMsgToJson) := by
  have hOut :
      walkPriorMessages dynMsgToJson req ++
          extractUserMessages dynMsgToJson req =
        (conversation req).map (itemJson dynMsgToJson) := by
    rw [walkPriorMessages_eq_map, extractUserMessages_eq_map,
      conversation, List.map_append]
  unfold buildMessages carriedItems
  rw [hOut]
  cases conversation req with
  | nil => rfl
  | cons item items => rfl

end WarpByokProxy
