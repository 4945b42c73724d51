import WarpByokProxy.Adapter.Trace
import Mathlib.Data.List.Nodup

/-
  A client that replays response events: it keeps tasks and
  messages by id and applies appends under their field mask.

  The client is not part of the repository. Its behaviour
  follows the audit notes under `docs/`: a message id must
  have been registered before it can be appended to, and a
  mask path that names no field of the target is ignored.

  Key definitions include:
    * `Wmaa.MessageContent.appendAt`
    * `Client`
    * `Client.apply`
    * `Client.replay`

  Key theorems include:
    * `Client.apply_append_last`
    * `Client.replay_append`
-/

------------------------------------------------------------
-- Masked Appends
------------------------------------------------------------

namespace WarpByokProxy

namespace Wmaa

/-
  Append the patch's string to the target's at a mask path.
  Nothing happens when the path is no string field of both.
-/
def MessageContent.appendAt
    (path : String)
    (patch target : MessageContent) : MessageContent :=
  match path, patch, target with
  | "agent_output.text",
      .agentOutput added, .agentOutput held =>
      .agentOutput { text := held.text ++ added.text }
  | "agent_reasoning.reasoning",
      .agentReasoning added, .agentReasoning held =>
      .agentReasoning
        { held with
          reasoning := held.reasoning ++ added.reasoning }
  | "tool_call.tool_call_id",
      .toolCall added, .toolCall held =>
      .toolCall
        { held with
          toolCallId := held.toolCallId ++ added.toolCallId }
  | "tool_call.server.payload",
      .toolCall ⟨_, some (.server added)⟩,
      .toolCall ⟨callId, some (.server held)⟩ =>
      .toolCall
        { toolCallId := callId
          tool := some (.server
            { payload := held.payload ++ added.payload }) }
  | _, _, held => held

/- Append a patch under every path of a mask. -/
def Message.appendMasked
    (mask : FieldMask)
    (patch target : Message) : Message :=
  match patch.message, target.message with
  | some added, some held =>
      { target with
        message := some (mask.paths.foldl
          (fun content path =>
            MessageContent.appendAt path added content)
          held) }
  | _, _ => target

end Wmaa

end WarpByokProxy

------------------------------------------------------------
-- The Client
------------------------------------------------------------

namespace WarpByokProxy

open Wmaa

/- Known tasks, and messages in the order of insertion. -/
structure Client where
  tasks : List String
  messages : List Message
deriving DecidableEq

namespace Client

/- A client that has seen no event. -/
def empty : Client where
  tasks := []
  messages := []

/- Insert a message by id, replacing one that has the id. -/
def insertMessage
    (messages : List Message)
    (message : Message) : List Message :=
  if message.id ∈ messages.map Message.id then
    messages.map
      (fun held =>
        if held.id = message.id then message else held)
  else
    messages ++ [message]

/-
  Apply an action; `none` when it names a task or a message
  that the client does not know.
-/
def apply
    (client : Client) : Action → Option Client
  | .createTask (some task) =>
      some
        { tasks := client.tasks ++ [task.id]
          messages :=
            task.messages.foldl insertMessage
              client.messages }
  | .addMessagesToTask taskId messages =>
      if taskId ∈ client.tasks then
        some
          { client with
            messages :=
              messages.foldl insertMessage client.messages }
      else
        none
  | .appendToMessageContent
      taskId (some patch) (some mask) =>
      if taskId ∈ client.tasks ∧
          patch.id ∈ client.messages.map Message.id then
        some
          { client with
            messages := client.messages.map (fun held =>
              if held.id = patch.id then
                Message.appendMasked mask patch held
              else
                held) }
      else
        none
  | _ => some client

/- Apply all actions of a trace in order. -/
def replay
    (client : Client)
    (trace : List ResponseEvent) : Option Client :=
  (actionTrace trace).foldlM apply client

@[simp] theorem replay_nil
    (client : Client) :
    client.replay [] = some client := rfl

/- A trace is replayed piece by piece. -/
theorem replay_append
    (client : Client)
    (first second : List ResponseEvent) :
    client.replay (first ++ second) =
      (client.replay first).bind
        (fun middle => middle.replay second) := by
  simp [replay, List.foldlM_append]

/- A message under a new id is added at the end. -/
theorem insertMessage_of_not_mem
    {messages : List Message}
    {message : Message}
    (hNew : message.id ∉ messages.map Message.id) :
    insertMessage messages message =
      messages ++ [message] := by
  simp only [insertMessage, hNew, if_false]

/- An append to the last message changes only that message. -/
theorem apply_append_last
    {client : Client}
    {taskId : String}
    {front : List Message}
    {last patch : Message}
    (mask : FieldMask)
    (hTask : taskId ∈ client.tasks)
    (hMessages : client.messages = front ++ [last])
    (hId : patch.id = last.id)
    (hFront : last.id ∉ front.map Message.id) :
    client.apply
        (.appendToMessageContent taskId (some patch)
          (some mask)) =
      some
        { client with
          messages :=
            front ++
              [Message.appendMasked mask patch last] } := by
  have hUntouched :
      front.map (fun held =>
          if held.id = last.id then
            Message.appendMasked mask patch held
          else
            held) =
        front := by
    rw [List.map_congr_left (g := id), List.map_id]
    intro held hHeld
    have hOther : held.id ≠ last.id := by
      intro hEq
      apply hFront
      rw [← hEq]
      exact List.mem_map_of_mem hHeld
    simp [hOther]
  simp [apply, hTask, hMessages, hId, hUntouched]

end Client

end WarpByokProxy
