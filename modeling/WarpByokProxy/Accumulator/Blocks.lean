import WarpByokProxy.Accumulator.Deltas
import Mathlib.Data.List.Induction

/-
  The kind of an open block, read off the events.

  The kind that the accumulator works with at an index is
  decided by the last start or stop at that index: a start
  describes it, and without one the block is a text block,
  whether it was never started, was opened by a delta, or
  was stopped.

  Key definitions include:
    * `BedrockEvent.delimiter?`
    * `openKind`
    * `StreamAccumulator.kindAt`

  Key theorems include:
    * `exists_start_of_openKind`
    * `StreamAccumulator.kindAt_handle`
    * `StreamAccumulator.kindAt_final`
-/

------------------------------------------------------------
-- Delimiters
------------------------------------------------------------

namespace WarpByokProxy

/-
  What a start or a stop at an index says about the block:
  its description, or that there is none.
-/
def BedrockEvent.delimiter?
    (blockIndex : UInt32) :
    BedrockEvent → Option (Option String)
  | .contentBlockStart other kind =>
      if other = blockIndex then some (some kind) else none
  | .contentBlockStop other =>
      if other = blockIndex then some none else none
  | _ => none

/- The description of the block that is open at an index. -/
def openKind
    (blockIndex : UInt32)
    (past : List BedrockEvent) : Option String :=
  (past.filterMap
    (BedrockEvent.delimiter? blockIndex)).getLast?.join

@[simp] theorem openKind_nil
    (blockIndex : UInt32) :
    openKind blockIndex [] = none := rfl

/- The last delimiter decides. -/
theorem openKind_append_singleton
    (blockIndex : UInt32)
    (past : List BedrockEvent)
    (event : BedrockEvent) :
    openKind blockIndex (past ++ [event]) =
      (event.delimiter? blockIndex).getD
        (openKind blockIndex past) := by
  unfold openKind
  rw [List.filterMap_append]
  cases hDelimiter : event.delimiter? blockIndex with
  | none => simp [hDelimiter]
  | some description => simp [hDelimiter]

/- An open description comes from a start that still stands. -/
theorem exists_start_of_openKind
    {blockIndex : UInt32}
    {past : List BedrockEvent}
    {kind : String}
    (hOpen : openKind blockIndex past = some kind) :
    ∃ before during,
      past =
          before ++
            .contentBlockStart blockIndex kind :: during ∧
        ∀ event ∈ during,
          event.delimiter? blockIndex = none := by
  induction past using List.reverseRecOn with
  | nil => simp at hOpen
  | append_singleton past event ih =>
      rw [openKind_append_singleton] at hOpen
      cases hDelimiter : event.delimiter? blockIndex with
      | none =>
          rw [hDelimiter, Option.getD_none] at hOpen
          rcases ih hOpen with
            ⟨before, during, hPast, hDuring⟩
          refine ⟨before, during ++ [event], ?_, ?_⟩
          · simp [hPast]
          · intro other hOther
            rcases List.mem_append.mp hOther with hOld | hNew
            · exact hDuring other hOld
            · rw [List.mem_singleton.mp hNew, hDelimiter]
      | some description =>
          rw [hDelimiter, Option.getD_some] at hOpen
          subst hOpen
          refine ⟨past, [], ?_, by simp⟩
          cases event with
          | contentBlockStart other described =>
              simp only [BedrockEvent.delimiter?] at hDelimiter
              split_ifs at hDelimiter with hIndex
              rw [hIndex,
                Option.some.inj (Option.some.inj hDelimiter)]
          | contentBlockStop other =>
              simp [BedrockEvent.delimiter?] at hDelimiter
          | contentBlockDelta =>
              simp [BedrockEvent.delimiter?] at hDelimiter
          | messageStart =>
              simp [BedrockEvent.delimiter?] at hDelimiter
          | messageStop =>
              simp [BedrockEvent.delimiter?] at hDelimiter
          | messageStreamMetadata =>
              simp [BedrockEvent.delimiter?] at hDelimiter

end WarpByokProxy

------------------------------------------------------------
-- Kinds Of Blocks
------------------------------------------------------------

namespace WarpByokProxy

namespace StreamAccumulator

variable {F : Type}

/- The kind of block that a delta at an index meets. -/
def kindAt
    (self : StreamAccumulator)
    (blockIndex : UInt32) : BlockKind :=
  ((self.blocks blockIndex).getD .text).kind

/- The kind of block that a description opens. -/
def kindOf
    (serde : SerdeJson F)
    (description : Option String) : BlockKind :=
  (description.map (fun kind =>
    (parseBlockStart serde kind).kind)).getD .text

/- Step rule: only delimiters change the kind at an index. -/
theorem kindAt_handle
    (serde : SerdeJson F)
    (self : StreamAccumulator)
    (event : BedrockEvent)
    (blockIndex : UInt32) :
    (self.handle serde event).1.kindAt blockIndex =
      ((event.delimiter? blockIndex).map
        (kindOf serde)).getD (self.kindAt blockIndex) := by
  cases event with
  | messageStart => rfl
  | messageStop => rfl
  | messageStreamMetadata => rfl
  | contentBlockStart other kind =>
      by_cases hIndex : other = blockIndex
      · simp [handle, kindAt, BedrockEvent.delimiter?,
          hIndex, kindOf]
      · simp [handle, kindAt, BedrockEvent.delimiter?,
          hIndex, set_blocks_of_ne _ _ (Ne.symm hIndex)]
  | contentBlockStop other =>
      by_cases hIndex : other = blockIndex
      · simp [handle, kindAt, BedrockEvent.delimiter?,
          hIndex, kindOf, BlockState.text]
      · simp [handle, kindAt, BedrockEvent.delimiter?,
          hIndex, set_blocks_of_ne _ _ (Ne.symm hIndex)]
  | contentBlockDelta other deltaJson =>
      by_cases hIndex : other = blockIndex
      · simp [handle, kindAt, BedrockEvent.delimiter?,
          hIndex, kind_handleDelta]
      · simp [handle, kindAt, BedrockEvent.delimiter?,
          set_blocks_of_ne _ _ (Ne.symm hIndex)]

/- Run rule: the kind at an index after any events. -/
theorem kindAt_final
    (serde : SerdeJson F)
    (past : List BedrockEvent)
    (blockIndex : UInt32) :
    ((machine serde).final new past).kindAt blockIndex =
      kindOf serde (openKind blockIndex past) := by
  induction past using List.reverseRecOn with
  | nil => rfl
  | append_singleton past event ih =>
      rw [Transducer.final_append, Transducer.final_cons,
        Transducer.final_nil, machine_step, kindAt_handle,
        ih, openKind_append_singleton]
      cases event.delimiter? blockIndex with
      | none => rfl
      | some description => rfl

end StreamAccumulator

end WarpByokProxy
