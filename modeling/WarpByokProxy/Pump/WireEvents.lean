import WarpByokProxy.Library.WireFormat
import WarpByokProxy.RouteMultiAgent

/-
  Response events in the wire format of protobuf.

  The codec of `prost` is generated from a schema outside the
  repository, and all that proofs assume of it is that it
  decodes what it encodes. This codec shows that the wire
  format keeps that promise. Of the numbers of fields only
  that of `agent_output` is known from the source; all others
  are counted up from one in each record.

  Key definitions include:
    * `Wmaa.Message.record`
    * `Wmaa.Action.oneof`
    * `Wmaa.ResponseEvent.record`
    * `wireProst`

  Key theorems include:
    * `decode_encode_wireProst`
-/

------------------------------------------------------------
-- Task Messages
------------------------------------------------------------

namespace WarpByokProxy

namespace Wmaa

open Wire

/- A record is put together from the codecs of its fields. -/
def Duration.record : Record Duration :=
  (Record.both
    (.implicit 1 .int64 0)
    (.implicit 2 .int32 0)).map
    (fun d => (d.seconds, d.nanos))
    (fun (seconds, nanos) => { seconds, nanos })
    (fun _ => rfl)

/- An undecoded variant is written under its name. -/
def OtherVariant.record : Record OtherVariant :=
  (Record.both
    (.implicit 1 .text "")
    (.implicit 2 .raw [])).map
    (fun v => (v.fieldName, v.contents))
    (fun (fieldName, contents) => { fieldName, contents })
    (fun _ => rfl)

def AgentOutput.record : Record AgentOutput :=
  (Record.implicit 1 .text "").map
    AgentOutput.text
    AgentOutput.mk
    (fun _ => rfl)

def AgentReasoning.record : Record AgentReasoning :=
  (Record.both
    (.implicit 1 .text "")
    (.optional (.single 2 (.record Duration.record)))).map
    (fun r => (r.reasoning, r.finishedDuration))
    (fun (reasoning, finishedDuration) =>
      { reasoning, finishedDuration })
    (fun _ => rfl)

def Server.record : Record Server :=
  (Record.implicit 1 .text "").map
    Server.payload
    Server.mk
    (fun _ => rfl)

def Tool.oneof : Oneof Tool :=
  (Oneof.either
    (.single 2 (.record Server.record))
    (.single 3 (.record OtherVariant.record))).map
    (fun (tool : Tool) =>
      match tool with
      | .server generic => .inl generic
      | .other variant => .inr variant)
    (Sum.elim .server .other)
    (fun tool => by cases tool <;> rfl)

def ToolCall.record : Record ToolCall :=
  (Record.both
    (.implicit 1 .text "")
    (.optional Tool.oneof)).map
    (fun c => (c.toolCallId, c.tool))
    (fun (toolCallId, tool) => { toolCallId, tool })
    (fun _ => rfl)

def ToolCallResult.record : Record ToolCallResult :=
  (Record.both
    (.implicit 1 .text "")
    (.optional (.single 2 (.record OtherVariant.record)))).map
    (fun r => (r.toolCallId, r.result))
    (fun (toolCallId, result) => { toolCallId, result })
    (fun _ => rfl)

def UserQuery.record : Record UserQuery :=
  (Record.implicit 1 .text "").map
    UserQuery.query
    UserQuery.mk
    (fun _ => rfl)

/- The number of `agent_output` is the schema's own. -/
def MessageContent.oneof : Oneof MessageContent :=
  (Oneof.either (.single 2 (.record UserQuery.record))
    (.either (.single 3 (.record AgentOutput.record))
      (.either (.single 4 (.record AgentReasoning.record))
        (.either (.single 5 (.record ToolCall.record))
          (.either
            (.single 6 (.record ToolCallResult.record))
            (.single 7 (.record OtherVariant.record))))))).map
    (fun (content : MessageContent) =>
      match content with
      | .userQuery query => .inl query
      | .agentOutput output => .inr (.inl output)
      | .agentReasoning reasoning =>
          .inr (.inr (.inl reasoning))
      | .toolCall call => .inr (.inr (.inr (.inl call)))
      | .toolCallResult result =>
          .inr (.inr (.inr (.inr (.inl result))))
      | .other variant =>
          .inr (.inr (.inr (.inr (.inr variant)))))
    (Sum.elim .userQuery
      (Sum.elim .agentOutput
        (Sum.elim .agentReasoning
          (Sum.elim .toolCall
            (Sum.elim .toolCallResult .other)))))
    (fun content => by cases content <;> rfl)

def Message.record : Record Message :=
  (Record.both (.implicit 1 .text "")
    (.both (.optional MessageContent.oneof)
      (.implicit 8 .text ""))).map
    (fun m => (m.id, m.message, m.taskId))
    (fun (id, message, taskId) => { id, taskId, message })
    (fun _ => rfl)

def Task.record : Record Task :=
  (Record.both
    (.implicit 1 .text "")
    (.repeated 2 (.record Message.record))).map
    (fun t => (t.id, t.messages))
    (fun (id, messages) => { id, messages })
    (fun _ => rfl)

end Wmaa

end WarpByokProxy

------------------------------------------------------------
-- Response Events
------------------------------------------------------------

namespace WarpByokProxy

namespace Wmaa

open Wire

def FieldMask.record : Record FieldMask :=
  (Record.repeated 1 .text).map
    FieldMask.paths
    FieldMask.mk
    (fun _ => rfl)

def Action.oneof : Oneof Action :=
  (Oneof.either
    (.single 1 (.record
      (.optional (.single 1 (.record Task.record)))))
    (.either
      (.single 2 (.record
        (.both (.implicit 1 .text "")
          (.repeated 2 (.record Message.record)))))
      (.single 3 (.record
        (.both (.implicit 1 .text "")
          (.both
            (.optional (.single 2 (.record Message.record)))
            (.optional
              (.single 3 (.record FieldMask.record))))))))).map
    (fun (action : Action) =>
      match action with
      | .createTask task => .inl task
      | .addMessagesToTask taskId messages =>
          .inr (.inl (taskId, messages))
      | .appendToMessageContent taskId message mask =>
          .inr (.inr (taskId, message, mask)))
    (Sum.elim .createTask
      (Sum.elim
        (fun (taskId, messages) =>
          .addMessagesToTask taskId messages)
        (fun (taskId, message, mask) =>
          .appendToMessageContent taskId message mask)))
    (fun action => by cases action <;> rfl)

def ClientAction.record : Record ClientAction :=
  (Record.optional Action.oneof).map
    ClientAction.action
    ClientAction.mk
    (fun _ => rfl)

def StreamInit.record : Record StreamInit :=
  (Record.both (.implicit 1 .text "")
    (.both (.implicit 2 .text "") (.implicit 3 .text ""))).map
    (fun i => (i.conversationId, i.requestId, i.runId))
    (fun (conversationId, requestId, runId) =>
      { conversationId, requestId, runId })
    (fun _ => rfl)

/- Each reason is a record without fields. -/
def Reason.oneof : Oneof Reason :=
  (Oneof.either (.single 1 (.record .empty))
    (.either (.single 2 (.record .empty))
      (.either (.single 3 (.record .empty))
        (.either (.single 4 (.record .empty))
          (.single 5 (.record .empty)))))).map
    (fun (reason : Reason) =>
      match reason with
      | .done => .inl ()
      | .maxTokenLimit => .inr (.inl ())
      | .quotaLimit => .inr (.inr (.inl ()))
      | .contextWindowExceeded =>
          .inr (.inr (.inr (.inl ())))
      | .other => .inr (.inr (.inr (.inr ()))))
    (Sum.elim (fun _ => .done)
      (Sum.elim (fun _ => .maxTokenLimit)
        (Sum.elim (fun _ => .quotaLimit)
          (Sum.elim (fun _ => .contextWindowExceeded)
            (fun _ => .other)))))
    (fun reason => by cases reason <;> rfl)

def TokenUsage.record : Record TokenUsage :=
  (Record.both (.implicit 1 .uint32 0)
    (.both (.implicit 2 .uint32 0)
      (.both (.implicit 3 .uint32 0)
        (.implicit 4 .uint32 0)))).map
    (fun u =>
      (u.totalInput, u.output, u.inputCacheRead,
        u.inputCacheWrite))
    (fun (totalInput, output, inputCacheRead,
        inputCacheWrite) =>
      { totalInput, output, inputCacheRead,
        inputCacheWrite })
    (fun _ => rfl)

def StreamFinished.record : Record StreamFinished :=
  (Record.both
    (.optional Reason.oneof)
    (.repeated 6 (.record TokenUsage.record))).map
    (fun f => (f.reason, f.tokenUsage))
    (fun (reason, tokenUsage) => { reason, tokenUsage })
    (fun _ => rfl)

def EventType.oneof : Oneof EventType :=
  (Oneof.either (.single 1 (.record StreamInit.record))
    (.either
      (.single 2 (.record
        (.repeated 1 (.record ClientAction.record))))
      (.single 3 (.record StreamFinished.record)))).map
    (fun (type : EventType) =>
      match type with
      | .init ids => .inl ids
      | .clientActions actions => .inr (.inl actions)
      | .finished ending => .inr (.inr ending))
    (Sum.elim .init (Sum.elim .clientActions .finished))
    (fun type => by cases type <;> rfl)

def ResponseEvent.record : Record ResponseEvent :=
  (Record.optional EventType.oneof).map
    ResponseEvent.type
    ResponseEvent.mk
    (fun _ => rfl)

end Wmaa

/- Response events in the wire format. -/
def wireProst : Prost Wmaa.ResponseEvent where
  encode := Wmaa.ResponseEvent.record.encode
  decode := Wmaa.ResponseEvent.record.decode

/- It decodes what it encodes. -/
theorem decode_encode_wireProst
    (evt : Wmaa.ResponseEvent) :
    wireProst.decode (wireProst.encode evt) = some evt :=
  Wmaa.ResponseEvent.record.decode_encode evt

end WarpByokProxy
