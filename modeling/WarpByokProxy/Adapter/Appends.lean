import WarpByokProxy.Adapter.Trace
import WarpByokProxy.Adapter.Turn

/-
  The appends among the adapter's events: exactly one for
  every content frame, with the patch of its item, to the
  message that the frame leaves open.

  Key definitions include:
    * `Wmaa.appendedMessages`

  Key theorems include:
    * `UiAdapter.appendedMessages_translate`
    * `UiAdapter.appendedContents_output`
-/

------------------------------------------------------------
-- Appended Messages
------------------------------------------------------------

namespace WarpByokProxy

namespace Wmaa

/- The patches that a list of actions appends. -/
def appendedMessages
    (actions : List Action) : List Message :=
  actions.filterMap Action.appended?

@[simp] theorem appendedMessages_nil :
    appendedMessages [] = [] := rfl

@[simp] theorem appendedMessages_append
    (first second : List Action) :
    appendedMessages (first ++ second) =
      appendedMessages first ++ appendedMessages second := by
  simp [appendedMessages]

/- Only appends carry patches. -/
theorem appendedMessages_of_isAppend
    {actions : List Action}
    (hNone : ∀ action ∈ actions, action.isAppend = false) :
    appendedMessages actions = [] := by
  rw [appendedMessages, List.filterMap_eq_nil_iff]
  intro action hAction
  have hFalse := hNone action hAction
  cases action with
  | createTask => rfl
  | addMessagesToTask => rfl
  | appendToMessageContent => simp [Action.isAppend] at hFalse

end Wmaa

end WarpByokProxy

------------------------------------------------------------
-- Appends Of A Frame
------------------------------------------------------------

namespace WarpByokProxy

namespace UiAdapter

open Wmaa

variable {F : Type}

/- Neither prelude nor registration appends to a message. -/
theorem isAppend_of_mem_sendPrelude
    {self : UiAdapter}
    {frame : OzResponseFrame F}
    {action : Action}
    (hAction :
      action ∈ actionTrace (self.sendPrelude frame).2) :
    action.isAppend = false := by
  unfold sendPrelude at hAction
  by_cases hNeeds :
      (!self.sentInit && frame.needsPrelude) = true
  · simp only [hNeeds, if_true] at hAction
    have hCreate : action = .createTask _ :=
      List.mem_singleton.mp hAction
    rw [hCreate]
    rfl
  · simp [hNeeds] at hAction

theorem isAppend_of_mem_ensureKindMessage
    {uuids : Nat → String}
    {self : UiAdapter}
    {kind : ActiveKind}
    {action : Action}
    (hAction :
      action ∈
        actionTrace
          (self.ensureKindMessage uuids kind).2) :
    action.isAppend = false := by
  unfold ensureKindMessage at hAction
  by_cases hOpen : self.activeKind = some kind
  · simp [hOpen] at hAction
  · simp only [hOpen, if_false] at hAction
    have hAdd : action = .addMessagesToTask _ _ :=
      List.mem_singleton.mp hAction
    rw [hAdd]
    rfl

/- Frames without content append to no message. -/
theorem isAppend_of_mem_translate
    {serde : SerdeJson F}
    {frame : OzResponseFrame F}
    (hItem : contentItem serde frame = none)
    (uuids : Nat → String)
    (self : UiAdapter) :
    ∀ action ∈
        actionTrace (self.translate serde uuids frame).2,
      action.isAppend = false := by
  intro action hAction
  have hKind : frame.contentKind = none := by
    rw [← map_kind_contentItem serde frame, hItem]
    rfl
  simp only [translate, actionTrace_append] at hAction
  rcases List.mem_append.mp hAction with
    hPrelude | hTranslated
  · exact isAppend_of_mem_sendPrelude hPrelude
  · rcases (translateFrame_of_contentKind_none hKind serde
        uuids (self.sendPrelude frame).1).2 with
      hNone | ⟨-, reason, hFinish⟩
    · rw [hNone] at hTranslated
      simp at hTranslated
    · rw [hFinish] at hTranslated
      simp [streamFinishedEvent, ResponseEvent.actions]
        at hTranslated

/- A content frame appends to the message it leaves open. -/
theorem appendedMessages_translate
    {serde : SerdeJson F}
    {frame : OzResponseFrame F}
    {item : ContentItem}
    (hItem : contentItem serde frame = some item)
    (uuids : Nat → String)
    (self : UiAdapter) :
    appendedMessages
        (actionTrace (self.translate serde uuids frame).2) =
      [(self.translate serde uuids frame).1.messageWith
        item.patch] := by
  have hPrelude :
      appendedMessages
          (actionTrace (self.sendPrelude frame).2) = [] :=
    appendedMessages_of_isAppend
      (fun _ hAction => isAppend_of_mem_sendPrelude hAction)
  have hRegistered :
      appendedMessages
          (actionTrace
            ((self.sendPrelude frame).1.ensureKindMessage
              uuids item.kind).2) = [] :=
    appendedMessages_of_isAppend
      (fun _ hAction =>
        isAppend_of_mem_ensureKindMessage hAction)
  simp only [translate]
  rw [translateFrame_of_contentItem hItem]
  simp only [actionTrace_append, appendedMessages_append,
    hPrelude, hRegistered, List.nil_append]
  rfl

/- The contents that a run appends, in order. -/
theorem appendedContents_output
    (serde : SerdeJson F)
    (uuids : Nat → String)
    (self : UiAdapter)
    (frames : List (OzResponseFrame F)) :
    (appendedMessages
        (actionTrace
          ((machine serde uuids).output self frames))).map
            Message.message =
      (contentItems serde frames).map
        (fun item => some item.patch) := by
  rw [contentItems, List.map_filterMap]
  apply
    Transducer.read_output
      (fun events =>
        (appendedMessages (actionTrace events)).map
          Message.message)
  · rfl
  · intro first second
    rw [actionTrace_append, appendedMessages_append,
      List.map_append]
  · intro adapter frame
    rw [machine_step]
    cases hItem : contentItem serde frame with
    | none =>
        rw [appendedMessages_of_isAppend
          (isAppend_of_mem_translate hItem uuids adapter)]
        rfl
    | some item =>
        rw [appendedMessages_translate hItem]
        rfl

end UiAdapter

end WarpByokProxy
