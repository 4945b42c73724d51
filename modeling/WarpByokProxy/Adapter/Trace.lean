import WarpByokProxy.Library.MaskedFields
import WarpByokProxy.WarpApi

/-
  Reading a trace of response events from the client's side:
  the actions it asks for, the messages it registers, and
  the fields that a message sets.

  Key definitions include:
    * `Wmaa.ResponseEvent.actions`
    * `Wmaa.actionTrace`
    * `Wmaa.addedMessages`
    * `Wmaa.MessageContent.fieldName`
    * `Wmaa.Message.fields`
-/

------------------------------------------------------------
-- Actions
------------------------------------------------------------

namespace WarpByokProxy

namespace Wmaa

/- The actions that an event carries. -/
def ResponseEvent.actions
    (event : ResponseEvent) : List Action :=
  match event.type with
  | some (.clientActions actions) =>
      actions.filterMap ClientAction.action
  | _ => []

/- All actions of a trace, in order. -/
def actionTrace
    (trace : List ResponseEvent) : List Action :=
  trace.flatMap ResponseEvent.actions

@[simp] theorem actionTrace_nil :
    actionTrace [] = [] := rfl

@[simp] theorem actionTrace_append
    (first second : List ResponseEvent) :
    actionTrace (first ++ second) =
      actionTrace first ++ actionTrace second := by
  simp [actionTrace]

@[simp] theorem actionTrace_cons
    (event : ResponseEvent)
    (trace : List ResponseEvent) :
    actionTrace (event :: trace) =
      event.actions ++ actionTrace trace := by
  simp [actionTrace]

/- The event opens the response. -/
def ResponseEvent.isInit
    (event : ResponseEvent) : Bool :=
  match event.type with
  | some (.init _) => true
  | _ => false

/- The end of the response, if the event is it. -/
def ResponseEvent.finished?
    (event : ResponseEvent) : Option StreamFinished :=
  match event.type with
  | some (.finished finished) => some finished
  | _ => none

/- The action creates a task. -/
def Action.isCreateTask : Action → Bool
  | .createTask _ => true
  | _ => false

/- The task that an action on messages names. -/
def Action.namedTask? : Action → Option String
  | .createTask _ => none
  | .addMessagesToTask taskId _ => some taskId
  | .appendToMessageContent taskId _ _ => some taskId

/- The messages that an action registers. -/
def Action.added : Action → List Message
  | .addMessagesToTask _ messages => messages
  | _ => []

/- The message that an action appends to. -/
def Action.appended? : Action → Option Message
  | .appendToMessageContent _ message _ => message
  | _ => none

/- The action appends to a message. -/
def Action.isAppend : Action → Bool
  | .appendToMessageContent _ _ _ => true
  | _ => false

/- The messages registered over a list of actions. -/
def addedMessages
    (actions : List Action) : List Message :=
  actions.flatMap Action.added

@[simp] theorem addedMessages_nil :
    addedMessages [] = [] := rfl

@[simp] theorem addedMessages_append
    (first second : List Action) :
    addedMessages (first ++ second) =
      addedMessages first ++ addedMessages second := by
  simp [addedMessages]

@[simp] theorem addedMessages_cons
    (action : Action)
    (actions : List Action) :
    addedMessages (action :: actions) =
      action.added ++ addedMessages actions := by
  simp [addedMessages]

end Wmaa

end WarpByokProxy

------------------------------------------------------------
-- Messages
------------------------------------------------------------

namespace WarpByokProxy

namespace Wmaa

/- The schema's field name of a content variant. -/
def MessageContent.fieldName : MessageContent → String
  | .userQuery _ => "user_query"
  | .agentOutput _ => "agent_output"
  | .agentReasoning _ => "agent_reasoning"
  | .toolCall _ => "tool_call"
  | .toolCallResult _ => "tool_call_result"
  | .other variant => variant.fieldName

/- The text of an agent output. -/
def MessageContent.agentOutput? :
    MessageContent → Option String
  | .agentOutput output => some output.text
  | _ => none

/- The text of an agent reasoning. -/
def MessageContent.agentReasoning? :
    MessageContent → Option String
  | .agentReasoning reasoning => some reasoning.reasoning
  | _ => none

/- The value of a leaf field. -/
inductive FieldValue where
  | text (value : String)
  | integer (value : Int)
  | bytes (value : List UInt8)
deriving DecidableEq

open MaskedFields (Record)

/- The leaf fields of an undecoded variant. -/
def OtherVariant.fields
    (variant : OtherVariant) : Record String FieldValue
  | [name] =>
      if name = variant.fieldName then
        some (.bytes variant.contents)
      else
        none
  | _ => none

/- The leaf fields of a duration. -/
def Duration.fields
    (duration : Duration) : Record String FieldValue
  | ["seconds"] => some (.integer duration.seconds.toInt)
  | ["nanos"] => some (.integer duration.nanos.toInt)
  | _ => none

/- The leaf fields of the `tool` oneof. -/
def Tool.fields : Tool → Record String FieldValue
  | .server inner, ["server", "payload"] =>
      some (.text inner.payload)
  | .server _, _ => none
  | .other variant, path => variant.fields path

/- The leaf fields of the `message` oneof. -/
def MessageContent.fields :
    MessageContent → Record String FieldValue
  | .userQuery query, ["user_query", "query"] =>
      some (.text query.query)
  | .agentOutput output, ["agent_output", "text"] =>
      some (.text output.text)
  | .agentReasoning reasoning,
      ["agent_reasoning", "reasoning"] =>
      some (.text reasoning.reasoning)
  | .agentReasoning reasoning,
      "agent_reasoning" :: "finished_duration" :: path =>
      reasoning.finishedDuration.bind (·.fields path)
  | .toolCall call, ["tool_call", "tool_call_id"] =>
      some (.text call.toolCallId)
  | .toolCall call, "tool_call" :: path =>
      call.tool.bind (·.fields path)
  | .toolCallResult result,
      ["tool_call_result", "tool_call_id"] =>
      some (.text result.toolCallId)
  | .toolCallResult result, "tool_call_result" :: path =>
      result.result.bind (·.fields path)
  | .other variant, path => variant.fields path
  | _, _ => none

/-
  The leaf fields of a message. The variants of the oneof
  are fields of the message itself: the name of the oneof is
  not part of any path.
-/
def Message.fields
    (message : Message) : Record String FieldValue
  | ["id"] => some (.text message.id)
  | ["task_id"] => some (.text message.taskId)
  | path => message.message.bind (·.fields path)

end Wmaa

end WarpByokProxy
