import WarpByokProxy.Pipeline.Usage
import WarpByokProxy.Pump.Arguments

/-
  What an error in the middle of a stream leaves in the body.

  The events before the error reach the client as they do
  when the stream is closed instead. The synthesized stop
  then adds the opening of the response, if nothing has
  opened it yet, and one end with the usage reported so far.

  Key definitions include:
    * `BedrockEvent.reportedUsage`
    * `UiAdapter.prelude`
    * `abortedEvents`
    * `FailsCleanly`

  Key theorems include:
    * `UiAdapter.output_eq_nil_iff`
    * `UiAdapter.translate_done_stateAfter`
    * `turnEvents_append_stop`
    * `bodyEvents_failsCleanly`
-/

------------------------------------------------------------
-- Silent Frames
------------------------------------------------------------

namespace WarpByokProxy

open Wmaa

variable {F : Type}

namespace UiAdapter

/- The two events that open a response. -/
def prelude
    (self : UiAdapter) : List ResponseEvent :=
  [self.streamInitEvent, self.createTaskEvent]

/- A frame that opens nothing says nothing to the client. -/
theorem translate_of_needsPrelude_eq_false
    {frame : OzResponseFrame F}
    (hFrame : frame.needsPrelude = false)
    (serde : SerdeJson F)
    (uuids : Nat → String)
    (self : UiAdapter) :
    (self.translate serde uuids frame).1.sentInit =
        self.sentInit ∧
      (self.translate serde uuids frame).2 = [] := by
  have hSilent : self.sendPrelude frame = (self, []) := by
    rw [sendPrelude, hFrame, Bool.and_false]
    exact if_neg Bool.false_ne_true
  rw [translate, hSilent]
  cases frame with
  | toolUseInputDelta => exact ⟨rfl, rfl⟩
  | blockStop => exact ⟨rfl, rfl⟩
  | usageUpdate => exact ⟨rfl, rfl⟩
  | textDelta => simp [OzResponseFrame.needsPrelude] at hFrame
  | thinkingDelta =>
      simp [OzResponseFrame.needsPrelude] at hFrame
  | toolUse => simp [OzResponseFrame.needsPrelude] at hFrame
  | done => simp [OzResponseFrame.needsPrelude] at hFrame

/- Before the prelude, only such frames emit no event. -/
theorem output_eq_nil_iff
    (serde : SerdeJson F)
    (uuids : Nat → String)
    {self : UiAdapter}
    (hUnsent : self.sentInit = false)
    (frames : List (OzResponseFrame F)) :
    (machine serde uuids).output self frames = [] ↔
      frames.any OzResponseFrame.needsPrelude = false := by
  induction frames generalizing self with
  | nil => simp
  | cons frame frames ih =>
      rw [Transducer.output_cons, machine_step,
        List.append_eq_nil_iff, List.any_cons,
        Bool.or_eq_false_iff]
      cases hFrame : frame.needsPrelude with
      | false =>
          rcases translate_of_needsPrelude_eq_false hFrame
              serde uuids self with ⟨hSent, hNone⟩
          rw [hUnsent] at hSent
          rw [hNone, ih hSent]
          simp
      | true =>
          have hOpened :
              (self.sendPrelude frame).2 = self.prelude := by
            rw [sendPrelude, hUnsent, hFrame]
            rfl
          rw [translate, hOpened]
          simp [prelude]

/- The events of a `done` frame after any other frames. -/
theorem translate_done_stateAfter
    (serde : SerdeJson F)
    (uuids : Nat → String)
    (opts : UiAdapterOpts)
    (frames : List (OzResponseFrame F))
    (stopReason : String) :
    ((stateAfter uuids opts frames).translate serde uuids
        (.done stopReason)).2 =
      (if frames.any OzResponseFrame.needsPrelude then
          []
        else
          (new uuids opts).prelude) ++
        [{ type := some (.finished
            { reason := some (reasonVariant stopReason)
              tokenUsage :=
                (lastUsage frames).toList }) }] := by
  rw [translate, sendPrelude_fst]
  cases hAny :
      frames.any OzResponseFrame.needsPrelude with
  | true =>
      have hOpened :
          ((stateAfter uuids opts frames).sendPrelude
            (.done stopReason : OzResponseFrame F)).2 =
              [] := by
        rw [sendPrelude, stateAfter, hAny]
        rfl
      rw [hOpened]
      rfl
  | false =>
      have hOpened :
          ((stateAfter uuids opts frames).sendPrelude
            (.done stopReason : OzResponseFrame F)).2 =
              (new uuids opts).prelude := by
        rw [sendPrelude, stateAfter, hAny]
        rfl
      rw [hOpened]
      rfl

end UiAdapter

end WarpByokProxy

------------------------------------------------------------
-- Stopped Turns
------------------------------------------------------------

namespace WarpByokProxy

open Wmaa

variable {F : Type}

/- The usage that an event reports, as kept by the adapter. -/
def BedrockEvent.reportedUsage :
    BedrockEvent → Option TokenUsage
  | .messageStreamMetadata
      inputTokens outputTokens cacheRead cacheWrite =>
      some
        { totalInput := toU32 inputTokens
          output := toU32 outputTokens
          inputCacheRead := toU32 cacheRead
          inputCacheWrite := toU32 cacheWrite }
  | _ => none

/- The last usage of the frames is that of the events. -/
theorem lastUsage_output
    (serde : SerdeJson F)
    (self : StreamAccumulator)
    (events : List BedrockEvent) :
    lastUsage
        ((StreamAccumulator.machine serde).output self
          events) =
      (events.filterMap
        BedrockEvent.reportedUsage).getLast? := by
  rw [lastUsage, ← filterMap_reportedUsage_filter,
    StreamAccumulator.usage_output, List.filterMap_filterMap]
  congr 1
  apply List.filterMap_congr
  intro event _
  cases event <;> rfl

/-
  The events that a stop adds to a turn: the opening of the
  response, if it is still missing, and its end.
-/
def abortedEvents
    (serde : SerdeJson F)
    (uuids : Nat → String)
    (opts : UiAdapterOpts)
    (events : List BedrockEvent)
    (stopReason : String) : List ResponseEvent :=
  (if turnEvents serde uuids opts events = [] then
      (UiAdapter.new uuids opts).prelude
    else
      []) ++
    [{ type := some (.finished
        { reason := some (UiAdapter.reasonVariant stopReason)
          tokenUsage :=
            (events.filterMap
              BedrockEvent.reportedUsage).getLast?.toList }) }]

/- A stop adds these events, whatever state it meets. -/
theorem turnEvents_append_stop
    (serde : SerdeJson F)
    (uuids : Nat → String)
    (opts : UiAdapterOpts)
    (events : List BedrockEvent)
    (stopReason : String) :
    turnEvents serde uuids opts
        (events ++ [.messageStop stopReason]) =
      turnEvents serde uuids opts events ++
        abortedEvents serde uuids opts events stopReason := by
  let frames :=
    (StreamAccumulator.machine serde).output .new events
  have hFrames :
      (StreamAccumulator.machine serde).output .new
          (events ++ [.messageStop stopReason]) =
        frames ++ [.done stopReason] := by
    rw [Transducer.output_append]
    rfl
  have hUnsent :
      turnEvents serde uuids opts events = [] ↔
        frames.any OzResponseFrame.needsPrelude = false :=
    UiAdapter.output_eq_nil_iff serde uuids rfl frames
  rw [turnEvents, hFrames,
    UiAdapter.output_append_singleton,
    UiAdapter.translate_done_stateAfter, lastUsage_output,
    abortedEvents]
  cases hAny :
      frames.any OzResponseFrame.needsPrelude with
  | true =>
      have hSome :
          ¬ turnEvents serde uuids opts events = [] := by
        intro hNone
        rw [hUnsent, hAny] at hNone
        contradiction
      rw [if_pos rfl, if_neg hSome]
      rfl
  | false =>
      rw [if_neg Bool.false_ne_true,
        if_pos (hUnsent.mpr hAny)]
      rfl

end WarpByokProxy

------------------------------------------------------------
-- Errors In The Middle Of A Stream
------------------------------------------------------------

namespace WarpByokProxy

open Wmaa

variable {E F : Type}

/-
  How the body of a failing stream relates to the body of
  the events before the failure alone: one end is added, the
  tool calls are the same, and each of them is of a block
  that was stopped in time.
-/
structure FailsCleanly
    (serde : SerdeJson F)
    (uuids : Nat → String)
    (opts : UiAdapterOpts)
    (events : List BedrockEvent)
    (alone body : List ResponseEvent) : Prop where
  kept :
    body =
      alone ++
        (if alone = [] then
            -- The greeting of a response, still missing.
            [{ type := some (.init
                { conversationId :=
                    opts.conversationId.getD ""
                  requestId := opts.requestId.getD ""
                  runId := opts.runId.getD "" }) },
              { type := some (.clientActions
                  [{ action := some (.createTask
                      (some
                        { id := "task-" ++ uuids 0
                          messages := [] })) }]) }]
          else
            []) ++
        [{ type := some (.finished
            { reason := some .other
              tokenUsage :=
                (events.filterMap
                  BedrockEvent.reportedUsage).getLast?.toList
            }) }]
  calls : appendedCalls body = appendedCalls alone
  completed :
    ∀ call ∈ appendedCalls body,
      ∃ start stop blockIndex id name,
        CompletesCall serde events start stop blockIndex
            id name ∧
          call ∈
            deliveredCalls serde uuids opts events stop

/- What follows the first error is never consumed. -/
theorem consumed_append_error
    (events : List BedrockEvent)
    (e : E)
    (rest : List (Except E BedrockEvent)) :
    consumed (events.map .ok ++ .error e :: rest) =
      events ++ [.messageStop "error"] := by
  induction events with
  | nil => rfl
  | cons event events ih =>
      rw [List.map_cons, List.cons_append, consumed, ih,
        List.cons_append]

/- Aborting a turn delivers no call. -/
theorem appendedCalls_abortedEvents
    (serde : SerdeJson F)
    (uuids : Nat → String)
    (opts : UiAdapterOpts)
    (events : List BedrockEvent)
    (stopReason : String) :
    appendedCalls
        (abortedEvents serde uuids opts events stopReason) =
      [] := by
  unfold abortedEvents
  by_cases hNone : turnEvents serde uuids opts events = []
  · rw [if_pos hNone]
    rfl
  · rw [if_neg hNone]
    rfl

/- The calls of two traces are those of both in turn. -/
theorem appendedCalls_append
    (first second : List ResponseEvent) :
    appendedCalls (first ++ second) =
      appendedCalls first ++ appendedCalls second := by
  rw [appendedCalls, actionTrace_append,
    appendedMessages_append, List.filterMap_append]
  rfl

/- So are the calls of a trace that comes in batches. -/
theorem appendedCalls_flatten
    (batches : List (List ResponseEvent)) :
    appendedCalls batches.flatten =
      batches.flatMap appendedCalls := by
  induction batches with
  | nil => rfl
  | cons batch batches ih =>
      rw [List.flatten_cons, appendedCalls_append, ih,
        List.flatMap_cons]

/- Every call of a turn is delivered at some position. -/
theorem exists_position_of_mem_appendedCalls
    {serde : SerdeJson F}
    {uuids : Nat → String}
    {opts : UiAdapterOpts}
    {events : List BedrockEvent}
    {call : ToolCall}
    (hCall :
      call ∈
        appendedCalls (turnEvents serde uuids opts events)) :
    ∃ position,
      call ∈
        deliveredCalls serde uuids opts events position := by
  rw [← flatten_turnBatches, appendedCalls_flatten,
    List.mem_flatMap] at hCall
  rcases hCall with ⟨batch, hBatch, hMem⟩
  rcases List.mem_iff_getElem?.mp hBatch with
    ⟨position, hPosition⟩
  refine ⟨position, ?_⟩
  rw [deliveredCalls, List.getD_eq_getElem?_getD, hPosition,
    Option.getD_some]
  exact hMem

/-
  A failing stream keeps what was translated before the
  failure and cuts off the rest.
-/
theorem bodyEvents_failsCleanly
    (serde : SerdeJson F)
    (uuids : Nat → String)
    (opts : UiAdapterOpts)
    (events : List BedrockEvent)
    (e : E)
    (rest : List (Except E BedrockEvent)) :
    FailsCleanly serde uuids opts events
      (bodyEvents serde uuids opts
        (bedrockItems events (none : Option E)))
      (bodyEvents serde uuids opts
        (events.map .ok ++ .error e :: rest)) := by
  have hAlone :
      bodyEvents serde uuids opts
          (bedrockItems events (none : Option E)) =
        turnEvents serde uuids opts events := by
    rw [bodyEvents_eq_turnEvents, consumed_bedrockItems]
    exact congrArg _ (List.append_nil events)
  have hBody :
      bodyEvents serde uuids opts
          (events.map .ok ++ .error e :: rest) =
        turnEvents serde uuids opts events ++
          abortedEvents serde uuids opts events "error" := by
    rw [bodyEvents_eq_turnEvents, consumed_append_error,
      turnEvents_append_stop]
  have hCalls :
      appendedCalls
          (turnEvents serde uuids opts events ++
            abortedEvents serde uuids opts events "error") =
        appendedCalls
          (turnEvents serde uuids opts events) := by
    rw [appendedCalls_append, appendedCalls_abortedEvents,
      List.append_nil]
  rw [hAlone, hBody]
  refine { kept := ?_, calls := hCalls, completed := ?_ }
  · rw [abortedEvents, List.append_assoc]
    rfl
  · intro call hCall
    rw [hCalls] at hCall
    rcases exists_position_of_mem_appendedCalls hCall with
      ⟨stop, hStop⟩
    rcases exists_completesCall_of_mem_deliveredCalls hStop
      with ⟨start, blockIndex, id, name, hCompletes⟩
    exact ⟨start, stop, blockIndex, id, name, hCompletes,
      hStop⟩

end WarpByokProxy
