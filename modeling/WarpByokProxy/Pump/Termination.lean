import WarpByokProxy.Adapter.Finish
import WarpByokProxy.Pump.Body

/-
  How a pumped response ends.

  The body has one end for each message stop that the pump
  consumes, be it one of the stream or the one that stands
  for its error. It ends exactly once, and with the end,
  when the stream either stops its message or fails, but not
  both.

  Key definitions include:
    * `StopsLast`
    * `cleanStopReasons`
    * `EndsExactlyOnce`

  Key theorems include:
    * `reasons_finishedEvents_turnEvents`
    * `turnEvents_of_stop`
    * `endsExactlyOnce_iff`
-/

------------------------------------------------------------
-- Ends Of A Turn
------------------------------------------------------------

namespace WarpByokProxy

open Wmaa

variable {F : Type}

/- An adapter run has an end for each `done` frame. -/
theorem UiAdapter.reasons_finishedEvents_output
    (serde : SerdeJson F)
    (uuids : Nat → String)
    (self : UiAdapter)
    (frames : List (OzResponseFrame F)) :
    (finishedEvents
        ((machine serde uuids).output self frames)).map
          StreamFinished.reason =
      (frames.filterMap OzResponseFrame.stopReason?).map
        (fun stopReason =>
          some (reasonVariant stopReason)) := by
  rw [List.map_filterMap]
  apply
    Transducer.read_output
      (fun events =>
        (finishedEvents events).map StreamFinished.reason)
  · rfl
  · intro first second
    rw [finishedEvents_append, List.map_append]
  · intro adapter frame
    rw [machine_step, finishedEvents_translate, ending]
    cases frame.stopReason? with
    | none => rfl
    | some stopReason => rfl

/- A turn has an end for each message stop. -/
theorem reasons_finishedEvents_turnEvents
    (serde : SerdeJson F)
    (uuids : Nat → String)
    (opts : UiAdapterOpts)
    (events : List BedrockEvent) :
    (finishedEvents
        (turnEvents serde uuids opts events)).map
          StreamFinished.reason =
      (events.filterMap BedrockEvent.stopReason?).map
        (fun stopReason =>
          some (UiAdapter.reasonVariant stopReason)) := by
  rw [turnEvents, UiAdapter.reasons_finishedEvents_output,
    StreamAccumulator.stopReasons_output]

/-
  A turn that stops once, followed by metadata alone, ends
  with the end that the stop asks for.
-/
theorem turnEvents_of_stop
    (serde : SerdeJson F)
    (uuids : Nat → String)
    (opts : UiAdapterOpts)
    {before after : List BedrockEvent}
    (hBefore :
      before.filterMap BedrockEvent.stopReason? = [])
    (hAfter : ∀ event ∈ after, event.isMetadata = true)
    (stopReason : String) :
    ∃ content finished,
      turnEvents serde uuids opts
          (before ++ .messageStop stopReason :: after) =
        content ++ [{ type := some (.finished finished) }] ∧
      finishedEvents content = [] ∧
      finished.reason =
        some (UiAdapter.reasonVariant stopReason) := by
  let frames :=
    (StreamAccumulator.machine serde).output .new before
  let usage :=
    (StreamAccumulator.machine serde).output
      ((StreamAccumulator.machine serde).final .new before)
      after
  let adapter :=
    (UiAdapter.machine serde uuids).final
      (UiAdapter.new uuids opts) frames
  let opened :=
    adapter.sendPrelude
      (.done stopReason : OzResponseFrame F)
  have hFrames :
      (StreamAccumulator.machine serde).output .new
          (before ++ .messageStop stopReason :: after) =
        frames ++ .done stopReason :: usage := by
    rw [Transducer.output_append]
    rfl
  have hUsage :
      ∀ frame ∈ usage, frame.isUsage = true :=
    StreamAccumulator.output_of_forall_metadata serde _
      hAfter
  have hNoEnd :
      finishedEvents
          (turnEvents serde uuids opts before) = [] := by
    have hReasons :=
      reasons_finishedEvents_turnEvents serde uuids opts
        before
    rw [hBefore] at hReasons
    exact List.map_eq_nil_iff.mp hReasons
  refine ⟨turnEvents serde uuids opts before ++ opened.2,
    { reason := some (UiAdapter.reasonVariant stopReason)
      tokenUsage := opened.1.pendingUsage.toList },
    ?_, ?_, rfl⟩
  · rw [turnEvents, hFrames, Transducer.output_append,
      Transducer.output_cons,
      UiAdapter.output_of_forall_usage serde uuids _ hUsage,
      List.append_nil, List.append_assoc]
    rfl
  · rw [finishedEvents_append, hNoEnd,
      UiAdapter.finishedEvents_sendPrelude, List.append_nil]

end WarpByokProxy

------------------------------------------------------------
-- One End Of The Body
------------------------------------------------------------

namespace WarpByokProxy

open Wmaa

variable {E F : Type}

/- The stop reasons with which a model ends in good order. -/
def cleanStopReasons : List String :=
  ["end_turn", "stop_sequence", "tool_use", "done"]

/- Exactly the clean stop reasons are reported as done. -/
theorem reasonVariant_eq_done_iff
    (stopReason : String) :
    UiAdapter.reasonVariant stopReason = .done ↔
      stopReason ∈ cleanStopReasons := by
  unfold UiAdapter.reasonVariant
  split <;> simp_all [cleanStopReasons]

/- Only metadata follows a message stop. -/
def StopsLast
    (events : List BedrockEvent) : Prop :=
  ∀ before stopReason after,
    events = before ++ .messageStop stopReason :: after →
      ∀ event ∈ after, event.isMetadata = true

/-
  The body ends with the one end of the response, and the
  end is `done` only after a clean message stop and without
  an error.
-/
def EndsExactlyOnce
    (events : List BedrockEvent)
    (failure : Option E)
    (body : List ResponseEvent) : Prop :=
  ∃ content finished,
    body =
      content ++ [{ type := some (.finished finished) }] ∧
    finishedEvents content = [] ∧
    (finished.reason = some .done →
      failure = none ∧
        ∃ stopReason ∈ cleanStopReasons,
          .messageStop stopReason ∈ events)

theorem stopReasons_eq_nil_iff
    (events : List BedrockEvent) :
    events.filterMap BedrockEvent.stopReason? = [] ↔
      ∀ stopReason, .messageStop stopReason ∉ events := by
  rw [List.filterMap_eq_nil_iff]
  constructor
  · intro hNone stopReason hMem
    have hStop := hNone _ hMem
    simp [BedrockEvent.stopReason?] at hStop
  · intro hNone event hMem
    cases event with
    | messageStop stopReason =>
        exact absurd hMem (hNone stopReason)
    | messageStart => rfl
    | contentBlockStart => rfl
    | contentBlockDelta => rfl
    | contentBlockStop => rfl
    | messageStreamMetadata => rfl

/- Nothing before the last stop is a stop. -/
theorem StopsLast.stopReasons_before
    {before after : List BedrockEvent}
    {stopReason : String}
    (hStops :
      StopsLast
        (before ++ .messageStop stopReason :: after)) :
    before.filterMap BedrockEvent.stopReason? = [] := by
  rw [stopReasons_eq_nil_iff]
  intro earlier hEarlier
  rcases List.append_of_mem hEarlier with
    ⟨first, second, rfl⟩
  have hMetadata :=
    hStops first earlier
      (second ++ .messageStop stopReason :: after)
      (by simp) (.messageStop stopReason) (by simp)
  simp [BedrockEvent.isMetadata] at hMetadata

/- The body has as many ends as the pump consumes stops. -/
theorem EndsExactlyOnce.length_stopReasons
    {serde : SerdeJson F}
    {uuids : Nat → String}
    {opts : UiAdapterOpts}
    {events consumedEvents : List BedrockEvent}
    {failure : Option E}
    (hEnds :
      EndsExactlyOnce events failure
        (turnEvents serde uuids opts consumedEvents)) :
    (consumedEvents.filterMap
      BedrockEvent.stopReason?).length = 1 := by
  rcases hEnds with
    ⟨content, finished, hBody, hContent, -⟩
  have hReasons :=
    congrArg List.length
      (reasons_finishedEvents_turnEvents serde uuids opts
        consumedEvents)
  rw [hBody, finishedEvents_append, hContent] at hReasons
  simpa [finishedEvents, ResponseEvent.finished?]
    using hReasons.symm

/-
  The body ends exactly once just when the stream stops its
  message or fails, but not both.
-/
theorem endsExactlyOnce_iff
    (serde : SerdeJson F)
    (uuids : Nat → String)
    (opts : UiAdapterOpts)
    {events : List BedrockEvent}
    (hStops : StopsLast events)
    (failure : Option E) :
    EndsExactlyOnce events failure
        (bodyEvents serde uuids opts
          (bedrockItems events failure)) ↔
      ((∃ stopReason, .messageStop stopReason ∈ events) ↔
        failure = none) := by
  rw [bodyEvents_eq_turnEvents, consumed_bedrockItems]
  constructor
  · intro hEnds
    have hLength := hEnds.length_stopReasons
    rw [List.filterMap_append, List.length_append] at hLength
    cases failure with
    | none =>
        have hSome :
            events.filterMap BedrockEvent.stopReason? ≠
              [] := by
          intro hNil
          simp [hNil] at hLength
        rw [Ne, stopReasons_eq_nil_iff] at hSome
        push Not at hSome
        simpa using hSome
    | some e =>
        have hNil :
            events.filterMap BedrockEvent.stopReason? =
              [] := by
          apply List.length_eq_zero_iff.mp
          simpa [BedrockEvent.stopReason?] using hLength
        rw [stopReasons_eq_nil_iff] at hNil
        simpa using hNil
  · intro hIff
    cases failure with
    | none =>
        rcases hIff.mpr rfl with ⟨stopReason, hMem⟩
        rcases List.append_of_mem hMem with
          ⟨before, after, rfl⟩
        rcases turnEvents_of_stop serde uuids opts
            hStops.stopReasons_before
            (hStops before stopReason after rfl)
            stopReason with
          ⟨content, finished, hBody, hContent, hReason⟩
        refine ⟨content, finished, ?_, hContent, ?_⟩
        · simpa using hBody
        · intro hDone
          rw [hReason, Option.some.injEq,
            reasonVariant_eq_done_iff] at hDone
          exact ⟨rfl, stopReason, hDone, hMem⟩
    | some e =>
        have hNone :
            ∀ stopReason,
              .messageStop stopReason ∉ events := by
          intro stopReason hMem
          simpa using hIff.mp ⟨stopReason, hMem⟩
        rcases turnEvents_of_stop serde uuids opts
            ((stopReasons_eq_nil_iff events).mpr hNone)
            (List.forall_mem_nil _) "error" with
          ⟨content, finished, hBody, hContent, hReason⟩
        refine ⟨content, finished, hBody, hContent, ?_⟩
        intro hDone
        rw [hReason, Option.some.injEq,
          reasonVariant_eq_done_iff] at hDone
        simp [cleanStopReasons] at hDone

theorem endsExactlyOnce_usage_last :
    EndsExactlyOnce
        [.messageStart, .messageStop "end_turn",
          .messageStreamMetadata 24 13 0 0]
        (none : Option String)
        (bodyEvents SerdeJson.integral numberedUuids
          ⟨none, none, none⟩
          (bedrockItems
            [.messageStart, .messageStop "end_turn",
              .messageStreamMetadata 24 13 0 0]
            (none : Option String))) ↔
      ((∃ stopReason,
          .messageStop stopReason ∈
            [BedrockEvent.messageStart,
              .messageStop "end_turn",
              .messageStreamMetadata 24 13 0 0]) ↔
        (none : Option String) = none) :=
  endsExactlyOnce_iff SerdeJson.integral numberedUuids
    ⟨none, none, none⟩
    (by
      intro before stopReason after hSplit
      rcases before with
        - | ⟨first, - | ⟨second, - | ⟨third, before⟩⟩⟩
      · simp at hSplit
      · simp only [List.cons_append, List.nil_append,
          List.cons.injEq] at hSplit
        rw [← hSplit.2.2]
        decide
      · simp at hSplit
      · simp at hSplit)
    none

/-
  A stream that closes without a message stop has no end,
  and an error after the message stop adds a second one.
-/
theorem not_endsExactlyOnce_close_or_late_error :
    ¬ EndsExactlyOnce [.messageStart] (none : Option String)
        (bodyEvents SerdeJson.integral numberedUuids
          ⟨none, none, none⟩
          (bedrockItems [.messageStart]
            (none : Option String))) ∧
      ¬ EndsExactlyOnce
        [.messageStart, .messageStop "end_turn"]
        (some "connection reset")
        (bodyEvents SerdeJson.integral numberedUuids
          ⟨none, none, none⟩
          (bedrockItems
            [.messageStart, .messageStop "end_turn"]
            (some "connection reset"))) := by
  constructor
  · intro hEnds
    rw [bodyEvents_eq_turnEvents] at hEnds
    exact absurd hEnds.length_stopReasons (by decide)
  · intro hEnds
    rw [bodyEvents_eq_turnEvents] at hEnds
    exact absurd hEnds.length_stopReasons (by decide)

end WarpByokProxy
