import WarpByokProxy.Accumulator.Blocks
import WarpByokProxy.Adapter.Trace
import WarpByokProxy.Adapter.Turn
import WarpByokProxy.BedrockClient

/-
  The path of a response from the SDK to the client: event
  translation, accumulator and adapter in a row.

  Both encoders of a block meet here. The translator invents
  the texts that describe blocks and deltas, the accumulator
  interprets them, and the kind of every block is decided by
  the last SDK event that started or stopped it.

  Key definitions include:
    * `framesOf`
    * `pipeline`
    * `responseEvents`
    * `openStart`
    * `openAsToolUse`

  Key theorems include:
    * `responseEvents_eq_output`
    * `openKind_translated`
    * `kindAt_translated`
    * `kindAt_translated_ne_thinking`
-/

------------------------------------------------------------
-- The Pipeline
------------------------------------------------------------

namespace WarpByokProxy

variable {F : Type}

/- The events that the accumulator receives. -/
def translated
    (serde : SerdeJson F)
    (events : List Sdk.ConverseStreamOutput) :
    List BedrockEvent :=
  events.filterMap (translateOutputEvent serde)

/- The frames that a stream of SDK events amounts to. -/
def framesOf
    (serde : SerdeJson F)
    (events : List Sdk.ConverseStreamOutput) :
    List (OzResponseFrame F) :=
  (StreamAccumulator.machine serde).output .new
    (translated serde events)

/- Translation, accumulator and adapter as one machine. -/
def pipeline
    (serde : SerdeJson F)
    (uuids : Nat → String) :
    Transducer (StreamAccumulator × UiAdapter)
      Sdk.ConverseStreamOutput Wmaa.ResponseEvent :=
  .filterMapInput (translateOutputEvent serde)
    (.comp (StreamAccumulator.machine serde)
      (UiAdapter.machine serde uuids))

/- The client's events for a stream of SDK events. -/
def responseEvents
    (serde : SerdeJson F)
    (uuids : Nat → String)
    (opts : UiAdapterOpts)
    (events : List Sdk.ConverseStreamOutput) :
    List Wmaa.ResponseEvent :=
  (pipeline serde uuids).output
    (.new, UiAdapter.new uuids opts) events

/- The adapter sees the frames of the accumulator. -/
theorem responseEvents_eq_output
    (serde : SerdeJson F)
    (uuids : Nat → String)
    (opts : UiAdapterOpts)
    (events : List Sdk.ConverseStreamOutput) :
    responseEvents serde uuids opts events =
      (UiAdapter.machine serde uuids).output
        (UiAdapter.new uuids opts)
        (framesOf serde events) := by
  rw [responseEvents, pipeline,
    Transducer.output_filterMapInput, Transducer.output_comp]
  rfl

theorem translated_append
    (serde : SerdeJson F)
    (first second : List Sdk.ConverseStreamOutput) :
    translated serde (first ++ second) =
      translated serde first ++ translated serde second := by
  simp [translated]

/- The frames of later events depend on the open blocks. -/
theorem framesOf_append
    (serde : SerdeJson F)
    (first second : List Sdk.ConverseStreamOutput) :
    framesOf serde (first ++ second) =
      framesOf serde first ++
        (StreamAccumulator.machine serde).output
          ((StreamAccumulator.machine serde).final .new
            (translated serde first))
          (translated serde second) := by
  rw [framesOf, translated_append, Transducer.output_append]
  rfl

/- The frames of one more event. -/
theorem framesOf_append_singleton
    (serde : SerdeJson F)
    (events : List Sdk.ConverseStreamOutput)
    (event : Sdk.ConverseStreamOutput) :
    framesOf serde (events ++ [event]) =
      framesOf serde events ++
        (StreamAccumulator.machine serde).output
          ((StreamAccumulator.machine serde).final .new
            (translated serde events))
          (translateOutputEvent serde event).toList := by
  have hEvent :
      translated serde [event] =
        (translateOutputEvent serde event).toList := by
    cases hTranslated : translateOutputEvent serde event with
    | none => simp [hTranslated, translated]
    | some bedrockEvent => simp [hTranslated, translated]
  rw [framesOf_append, hEvent]

end WarpByokProxy

------------------------------------------------------------
-- Open Blocks Of The SDK
------------------------------------------------------------

namespace WarpByokProxy

variable {F : Type}

/-
  What a start or a stop at an index says about the block:
  its payload, or that there is no block.
-/
def Sdk.ConverseStreamOutput.delimiter?
    (contentBlockIndex : Int32) :
    Sdk.ConverseStreamOutput →
      Option (Option (Option Sdk.ContentBlockStart))
  | .contentBlockStart index start =>
      if index = contentBlockIndex then
        some (some start)
      else
        none
  | .contentBlockStop index =>
      if index = contentBlockIndex then some none else none
  | _ => none

/- The start that stands at an index, if any. -/
def openStart
    (contentBlockIndex : Int32)
    (past : List Sdk.ConverseStreamOutput) :
    Option (Option Sdk.ContentBlockStart) :=
  (past.filterMap
    (Sdk.ConverseStreamOutput.delimiter?
      contentBlockIndex)).getLast?.join

/- The block at an index is open with a ToolUse payload. -/
def openAsToolUse
    (contentBlockIndex : Int32)
    (past : List Sdk.ConverseStreamOutput) : Bool :=
  match openStart contentBlockIndex past with
  | some (some (.toolUse _)) => true
  | _ => false

/- The block index of an event, if it has one. -/
def Sdk.ConverseStreamOutput.blockIndex? :
    Sdk.ConverseStreamOutput → Option Int32
  | .contentBlockStart contentBlockIndex _ =>
      some contentBlockIndex
  | .contentBlockDelta contentBlockIndex _ =>
      some contentBlockIndex
  | .contentBlockStop contentBlockIndex =>
      some contentBlockIndex
  | _ => none

/- No event has a negative block index. -/
def NonNegativeIndices
    (events : List Sdk.ConverseStreamOutput) : Prop :=
  ∀ event ∈ events, ∀ index ∈ event.blockIndex?,
    0 ≤ index.toInt

/- Translated delimiters describe the SDK's delimiters. -/
theorem delimiter?_translated
    (serde : SerdeJson F)
    {event : Sdk.ConverseStreamOutput}
    (hEvent : ∀ index ∈ event.blockIndex?, 0 ≤ index.toInt)
    {contentBlockIndex : Int32}
    (hIndex : 0 ≤ contentBlockIndex.toInt) :
    (translateOutputEvent serde event).bind
        (BedrockEvent.delimiter?
          (blockIndexOf contentBlockIndex)) =
      (event.delimiter? contentBlockIndex).map
        (Option.map (blockStartKind serde)) := by
  cases event with
  | contentBlockStart other start =>
      have hIff := blockIndexOf_inj (hEvent other rfl) hIndex
      by_cases hSame : other = contentBlockIndex
      · simp [translateOutputEvent, hSame,
          BedrockEvent.delimiter?,
          Sdk.ConverseStreamOutput.delimiter?]
      · simp [translateOutputEvent, hSame, hIff,
          BedrockEvent.delimiter?,
          Sdk.ConverseStreamOutput.delimiter?]
  | contentBlockStop other =>
      have hIff := blockIndexOf_inj (hEvent other rfl) hIndex
      by_cases hSame : other = contentBlockIndex
      · simp [translateOutputEvent, hSame,
          BedrockEvent.delimiter?,
          Sdk.ConverseStreamOutput.delimiter?]
      · simp [translateOutputEvent, hSame, hIff,
          BedrockEvent.delimiter?,
          Sdk.ConverseStreamOutput.delimiter?]
  | contentBlockDelta other delta =>
      exact bind_translateOutputEvent_delta
        (fun _ _ => rfl) serde other delta
  | messageStart => rfl
  | messageStop => rfl
  | metadata => rfl
  | other => rfl

/- The accumulator's description of an open block. -/
theorem openKind_translated
    (serde : SerdeJson F)
    {past : List Sdk.ConverseStreamOutput}
    (hPast : NonNegativeIndices past)
    {contentBlockIndex : Int32}
    (hIndex : 0 ≤ contentBlockIndex.toInt) :
    openKind (blockIndexOf contentBlockIndex)
        (translated serde past) =
      (openStart contentBlockIndex past).map
        (blockStartKind serde) := by
  have hDelimiters :
      (translated serde past).filterMap
          (BedrockEvent.delimiter?
            (blockIndexOf contentBlockIndex)) =
        (past.filterMap
          (Sdk.ConverseStreamOutput.delimiter?
            contentBlockIndex)).map
              (Option.map (blockStartKind serde)) := by
    rw [translated, List.filterMap_filterMap,
      List.map_filterMap]
    apply List.filterMap_congr
    intro event hEvent
    exact delimiter?_translated serde (hPast event hEvent)
      hIndex
  rw [openKind, hDelimiters, List.getLast?_map, openStart]
  cases (past.filterMap
    (Sdk.ConverseStreamOutput.delimiter?
      contentBlockIndex)).getLast? with
  | none => rfl
  | some description => rfl

end WarpByokProxy

------------------------------------------------------------
-- Kinds Of Translated Blocks
------------------------------------------------------------

namespace WarpByokProxy

variable {F : Type}

/- A printed object of strings is not the word `text`. -/
theorem toString_ofStrings_ne_text
    {serde : SerdeJson F}
    (hRoundTrip : serde.RoundTripsStrings)
    (hText : serde.RejectsText)
    {fields : List (String × String)}
    (hKeys : (fields.map Prod.fst).Nodup) :
    serde.toString (.ofStrings fields) ≠ "text" := by
  intro hEq
  rcases hRoundTrip fields hKeys with ⟨json, hRead, -⟩
  rw [hEq, hText] at hRead
  simp at hRead

/- The kind of block that an SDK start opens. -/
def Sdk.ContentBlockStart.kind :
    Option Sdk.ContentBlockStart → BlockKind
  | some (.toolUse _) => .toolUse
  | _ => .text

/- Translator and accumulator agree on the kind of a start. -/
theorem kind_parseBlockStart_blockStartKind
    {serde : SerdeJson F}
    (hRoundTrip : serde.RoundTripsStrings)
    (hText : serde.RejectsText)
    (start : Option Sdk.ContentBlockStart) :
    (parseBlockStart serde (blockStartKind serde start)).kind =
      Sdk.ContentBlockStart.kind start := by
  cases start with
  | none => rfl
  | some payload =>
      cases payload with
      | other => rfl
      | toolUse block =>
          have hKeys :
              ([("type", "tool_use"),
                ("id", block.toolUseId),
                ("name", block.name)].map
                  Prod.fst).Nodup := by
            simp
          rcases hRoundTrip.exists_getStr_eq hKeys with
            ⟨json, hRead, hFields⟩
          simp only [blockStartKind, parseBlockStart,
            toString_ofStrings_ne_text hRoundTrip hText hKeys,
            hRead, if_false, Option.getD_some, hFields]
          rfl

/-
  The kind of the block that a translated delta meets. The
  index must be one of the stream's own.
-/
theorem kindAt_translated
    {serde : SerdeJson F}
    (hRoundTrip : serde.RoundTripsStrings)
    (hText : serde.RejectsText)
    {past : List Sdk.ConverseStreamOutput}
    (hPast : NonNegativeIndices past)
    {contentBlockIndex : Int32}
    (hIndex : 0 ≤ contentBlockIndex.toInt) :
    ((StreamAccumulator.machine serde).final .new
        (translated serde past)).kindAt
          (blockIndexOf contentBlockIndex) =
      if openAsToolUse contentBlockIndex past then
        .toolUse
      else
        .text := by
  rw [StreamAccumulator.kindAt_final,
    openKind_translated serde hPast hIndex,
    StreamAccumulator.kindOf, Option.map_map]
  unfold openAsToolUse
  cases openStart contentBlockIndex past with
  | none => rfl
  | some start =>
      simp only [Option.map_some, Function.comp_apply,
        Option.getD_some,
        kind_parseBlockStart_blockStartKind hRoundTrip hText]
      cases start with
      | none => rfl
      | some payload => cases payload <;> rfl

/- No translated start describes a thinking block. -/
theorem kindAt_translated_ne_thinking
    {serde : SerdeJson F}
    (hRoundTrip : serde.RoundTripsStrings)
    (hText : serde.RejectsText)
    (past : List Sdk.ConverseStreamOutput)
    (blockIndex : UInt32) :
    ((StreamAccumulator.machine serde).final .new
        (translated serde past)).kindAt blockIndex ≠
      .thinking := by
  rw [StreamAccumulator.kindAt_final]
  cases hOpen :
      openKind blockIndex (translated serde past) with
  | none => simp [StreamAccumulator.kindOf]
  | some kind =>
      rcases exists_start_of_openKind hOpen with
        ⟨before, during, hSplit, -⟩
      have hMem :
          .contentBlockStart blockIndex kind ∈
            translated serde past := by
        simp [hSplit]
      rcases List.mem_filterMap.mp hMem with
        ⟨event, -, hEvent⟩
      have hKind :
          ∃ start, kind = blockStartKind serde start := by
        cases event with
        | contentBlockStart index start =>
            have hEq := Option.some.inj hEvent
            exact ⟨start,
              (BedrockEvent.contentBlockStart.inj hEq).2.symm⟩
        | contentBlockDelta index delta =>
            simp [translateOutputEvent] at hEvent
        | contentBlockStop =>
            simp [translateOutputEvent] at hEvent
        | messageStart =>
            simp [translateOutputEvent] at hEvent
        | messageStop =>
            simp [translateOutputEvent] at hEvent
        | metadata => simp [translateOutputEvent] at hEvent
        | other => simp [translateOutputEvent] at hEvent
      rcases hKind with ⟨start, rfl⟩
      rw [StreamAccumulator.kindOf, Option.map_some,
        Option.getD_some,
        kind_parseBlockStart_blockStartKind hRoundTrip hText]
      unfold Sdk.ContentBlockStart.kind
      split <;> simp

end WarpByokProxy
