import WarpByokProxy.Accumulator.Tail
import WarpByokProxy.Adapter.Trace
import WarpByokProxy.Adapter.Turn

/-
  The ends of a response: each `done` frame emits one, with
  the usage reported before it, and nothing else does.

  Key definitions include:
    * `Wmaa.finishedEvents`
    * `UiAdapter.ending`

  Key theorems include:
    * `UiAdapter.finishedEvents_translate`
    * `UiAdapter.finishedEvents_output`
    * `UiAdapter.output_of_forall_usage`
-/

------------------------------------------------------------
-- Ends Of A Response
------------------------------------------------------------

namespace WarpByokProxy

variable {F : Type}

namespace Wmaa

/- The ends of a response in a trace. -/
def finishedEvents
    (trace : List ResponseEvent) : List StreamFinished :=
  trace.filterMap ResponseEvent.finished?

@[simp] theorem finishedEvents_nil :
    finishedEvents [] = [] := rfl

@[simp] theorem finishedEvents_append
    (first second : List ResponseEvent) :
    finishedEvents (first ++ second) =
      finishedEvents first ++ finishedEvents second := by
  simp [finishedEvents]

end Wmaa

namespace UiAdapter

open Wmaa

/- The end that a frame asks for, given the usage so far. -/
def ending
    (usage : Option TokenUsage)
    (frame : OzResponseFrame F) : List StreamFinished :=
  (frame.stopReason?.map (fun reason =>
    { reason := some (reasonVariant reason)
      tokenUsage := usage.toList })).toList

theorem finishedEvents_sendPrelude
    (self : UiAdapter)
    (frame : OzResponseFrame F) :
    finishedEvents (self.sendPrelude frame).2 = [] := by
  unfold sendPrelude
  by_cases hNeeds :
      (!self.sentInit && frame.needsPrelude) = true
  · rw [if_pos hNeeds]
    rfl
  · rw [if_neg hNeeds]
    rfl

theorem finishedEvents_ensureKindMessage
    (uuids : Nat → String)
    (self : UiAdapter)
    (kind : ActiveKind) :
    finishedEvents (self.ensureKindMessage uuids kind).2 =
      [] := by
  unfold ensureKindMessage
  by_cases hOpen : self.activeKind = some kind
  · rw [if_pos hOpen]
    rfl
  · rw [if_neg hOpen]
    rfl

/- Step rule: a frame emits the end that it asks for. -/
theorem finishedEvents_translate
    (serde : SerdeJson F)
    (uuids : Nat → String)
    (self : UiAdapter)
    (frame : OzResponseFrame F) :
    finishedEvents (self.translate serde uuids frame).2 =
      ending self.pendingUsage frame := by
  simp only [translate, finishedEvents_append,
    finishedEvents_sendPrelude, List.nil_append]
  cases hItem : contentItem serde frame with
  | some item =>
      rw [translateFrame_of_contentItem hItem]
      simp only [finishedEvents_append,
        finishedEvents_ensureKindMessage, List.nil_append]
      cases frame with
      | textDelta => rfl
      | thinkingDelta => rfl
      | toolUse => rfl
      | toolUseInputDelta => rfl
      | blockStop => rfl
      | usageUpdate => rfl
      | done => simp [contentItem] at hItem
  | none =>
      cases frame with
      | textDelta => simp [contentItem] at hItem
      | thinkingDelta => simp [contentItem] at hItem
      | toolUse => simp [contentItem] at hItem
      | toolUseInputDelta => rfl
      | blockStop => rfl
      | usageUpdate => rfl
      | done reason =>
          simp [translateFrame, sendPrelude_fst, ending,
            streamFinishedEvent, finishedEvents,
            ResponseEvent.finished?,
            OzResponseFrame.stopReason?]

/- The ends of a turn carry the usage known at their time. -/
theorem finishedEvents_output
    (serde : SerdeJson F)
    (uuids : Nat → String)
    (opts : UiAdapterOpts)
    (frames : List (OzResponseFrame F)) :
    finishedEvents
        ((machine serde uuids).output (new uuids opts)
          frames) =
      Transducer.answers
        (fun past => ending (lastUsage past)) frames := by
  induction frames using List.reverseRecOn with
  | nil => rfl
  | append_singleton frames frame ih =>
      rw [output_append_singleton, finishedEvents_append,
        ih, finishedEvents_translate,
        Transducer.answers_append_singleton]
      rfl

/- Usage reports alone emit nothing. -/
theorem output_of_forall_usage
    (serde : SerdeJson F)
    (uuids : Nat → String)
    (self : UiAdapter)
    {frames : List (OzResponseFrame F)}
    (hFrames : ∀ frame ∈ frames, frame.isUsage = true) :
    (machine serde uuids).output self frames = [] := by
  induction frames generalizing self with
  | nil => rfl
  | cons frame frames ih =>
      have hHead := hFrames frame List.mem_cons_self
      have hRest :=
        ih (self.translate serde uuids frame).1
          (fun other hOther =>
            hFrames other (List.mem_cons_of_mem _ hOther))
      rw [Transducer.output_cons, machine_step, hRest]
      cases frame with
      | usageUpdate =>
          simp [translate, translateFrame, sendPrelude,
            OzResponseFrame.needsPrelude]
      | textDelta =>
          simp [OzResponseFrame.isUsage] at hHead
      | thinkingDelta =>
          simp [OzResponseFrame.isUsage] at hHead
      | toolUse => simp [OzResponseFrame.isUsage] at hHead
      | toolUseInputDelta =>
          simp [OzResponseFrame.isUsage] at hHead
      | blockStop => simp [OzResponseFrame.isUsage] at hHead
      | done => simp [OzResponseFrame.isUsage] at hHead

end UiAdapter

end WarpByokProxy
