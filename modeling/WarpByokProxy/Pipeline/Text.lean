import WarpByokProxy.Adapter.Appends
import WarpByokProxy.Pipeline.Stream

/-
  Text and reasoning on the way from the SDK to the client.

  On this path every block is a text block or a tool block.
  Text deltas of blocks that are not open as ToolUse reach
  the client one by one. Reasoning deltas need a thinking
  block, which no translated start ever opens, so all of
  their text is lost. That the events of this path are those
  in the body is `bodyEvents_drainStream`.

  Key definitions include:
    * `forwardedText`
    * `sentReasoning`
    * `KeepsReasoning`

  Key theorems include:
    * `textDelta?_framesOf`
    * `thinkingDelta?_framesOf`
    * `outputTexts_responseEvents`
    * `keepsReasoning_iff`
-/

------------------------------------------------------------
-- Deltas
------------------------------------------------------------

namespace WarpByokProxy

variable {F : Type}

/- The text of an SDK delta. -/
def Sdk.ContentBlockDelta.text? :
    Option Sdk.ContentBlockDelta → Option String
  | some (.text sent) => some sent
  | _ => none

/- Reading a field of a printed object of strings. -/
theorem deltaField_ofStrings
    {serde : SerdeJson F}
    (hRoundTrip : serde.RoundTripsStrings)
    {fields : List (String × String)}
    (hKeys : (fields.map Prod.fst).Nodup)
    (type field : String) :
    deltaField serde type field
        (serde.toString (.ofStrings fields)) =
      if fields.lookup "type" = some type then
        some ((fields.lookup field).getD "")
      else
        none := by
  rcases hRoundTrip.exists_getStr_eq hKeys with
    ⟨json, hRead, hFields⟩
  rw [deltaField, hRead, Option.bind_some]
  simp only [hFields]

/- The accumulator reads text deltas as they were written. -/
theorem deltaField_deltaJson
    {serde : SerdeJson F}
    (hRoundTrip : serde.RoundTripsStrings)
    {delta : Option Sdk.ContentBlockDelta}
    {json : String}
    (hJson : deltaJson serde delta = some json) :
    deltaField serde "text_delta" "text" json =
      Sdk.ContentBlockDelta.text? delta := by
  unfold deltaJson at hJson
  split at hJson
  · rw [← Option.some.inj hJson,
      deltaField_ofStrings hRoundTrip (by simp)]
    rfl
  · rw [← Option.some.inj hJson,
      deltaField_ofStrings hRoundTrip (by simp)]
    rfl
  · rw [← Option.some.inj hJson,
      deltaField_ofStrings hRoundTrip (by simp)]
    rfl
  · rw [← Option.some.inj hJson,
      deltaField_ofStrings hRoundTrip (by simp)]
    rfl
  · simp at hJson

/- A delta that is dropped has no text. -/
theorem text?_of_deltaJson_none
    {serde : SerdeJson F}
    {delta : Option Sdk.ContentBlockDelta}
    (hJson : deltaJson serde delta = none) :
    Sdk.ContentBlockDelta.text? delta = none := by
  unfold deltaJson at hJson
  unfold Sdk.ContentBlockDelta.text?
  split at hJson <;> simp_all

end WarpByokProxy

------------------------------------------------------------
-- Text
------------------------------------------------------------

namespace WarpByokProxy

variable {F : Type}

/-
  The texts that an event should bring to the client: the
  text of a delta whose block is not open as ToolUse.
-/
def forwardedText
    (past : List Sdk.ConverseStreamOutput)
    (event : Sdk.ConverseStreamOutput) : List String :=
  match event with
  | .contentBlockDelta contentBlockIndex
      (some (.text text)) =>
      if openAsToolUse contentBlockIndex past then
        []
      else
        [text]
  | _ => []

/- Step rule: the text frames of one more SDK event. -/
theorem textDelta?_handle_translated
    {serde : SerdeJson F}
    (hRoundTrip : serde.RoundTripsStrings)
    (hText : serde.RejectsText)
    {past : List Sdk.ConverseStreamOutput}
    (hPast : NonNegativeIndices past)
    {event : Sdk.ConverseStreamOutput}
    (hEvent :
      ∀ index ∈ event.blockIndex?, 0 ≤ index.toInt) :
    ((StreamAccumulator.machine serde).output
        ((StreamAccumulator.machine serde).final .new
          (translated serde past))
        (translateOutputEvent serde
          event).toList).filterMap
            OzResponseFrame.textDelta? =
      forwardedText past event := by
  cases event with
  | contentBlockDelta index delta =>
      have hForwarded :
          forwardedText past
              (.contentBlockDelta index delta) =
            if openAsToolUse index past then
              []
            else
              (Sdk.ContentBlockDelta.text? delta).toList := by
        unfold forwardedText Sdk.ContentBlockDelta.text?
        cases delta with
        | none => simp
        | some delta => cases delta <;> simp
      rw [hForwarded]
      cases hJson : deltaJson serde delta with
      | none =>
          rw [text?_of_deltaJson_none hJson]
          simp [translateOutputEvent, hJson]
      | some json =>
          have hKind :=
            kindAt_translated hRoundTrip hText hPast
              (hEvent index rfl)
          rw [StreamAccumulator.kindAt] at hKind
          simp only [translateOutputEvent, hJson,
            Option.map_some, Option.toList_some,
            Transducer.output_singleton,
            StreamAccumulator.machine_step,
            StreamAccumulator.handle,
            textDelta?_handleDelta, hKind,
            deltaField_deltaJson hRoundTrip hJson]
          cases openAsToolUse index past with
          | true => rfl
          | false => rfl
  | contentBlockStart index start => rfl
  | contentBlockStop index =>
      rw [translateOutputEvent, Option.toList_some,
        Transducer.output_singleton]
      exact StreamAccumulator.filterMap_handle_stop_eq_nil
        (fun _ _ _ => rfl) rfl serde _
  | messageStart => rfl
  | messageStop => rfl
  | metadata => rfl
  | other => rfl

/- The text frames of a stream are the forwarded texts. -/
theorem textDelta?_framesOf
    {serde : SerdeJson F}
    (hRoundTrip : serde.RoundTripsStrings)
    (hText : serde.RejectsText)
    {events : List Sdk.ConverseStreamOutput}
    (hEvents : NonNegativeIndices events) :
    (framesOf serde events).filterMap
        OzResponseFrame.textDelta? =
      Transducer.answers forwardedText events := by
  induction events using List.reverseRecOn with
  | nil => rfl
  | append_singleton past event ih =>
      have hPast : NonNegativeIndices past :=
        fun earlier hEarlier =>
          hEvents earlier (List.mem_append_left _ hEarlier)
      rw [framesOf_append_singleton, List.filterMap_append,
        ih hPast,
        textDelta?_handle_translated hRoundTrip hText hPast
          (hEvents event (by simp)),
        Transducer.answers_append_singleton]

end WarpByokProxy

------------------------------------------------------------
-- Text At The Client
------------------------------------------------------------

namespace WarpByokProxy

namespace Wmaa

/- The output texts that a trace appends, in order. -/
def outputTexts
    (trace : List ResponseEvent) : List String :=
  (appendedMessages (actionTrace trace)).filterMap
    (fun message =>
      message.message.bind MessageContent.agentOutput?)

/- The reasoning texts that a trace appends, in order. -/
def reasoningTexts
    (trace : List ResponseEvent) : List String :=
  (appendedMessages (actionTrace trace)).filterMap
    (fun message =>
      message.message.bind MessageContent.agentReasoning?)

end Wmaa

open Wmaa

variable {F : Type}

/- What a reader of contents finds in the appended patches. -/
theorem filterMap_appendedMessages_output
    {α : Type}
    (read : MessageContent → Option α)
    (serde : SerdeJson F)
    (uuids : Nat → String)
    (self : UiAdapter)
    (frames : List (OzResponseFrame F)) :
    (appendedMessages
        (actionTrace
          ((UiAdapter.machine serde uuids).output self
            frames))).filterMap
              (fun message => message.message.bind read) =
      frames.filterMap (fun frame =>
        (contentItem serde frame).bind
          (fun item => read item.patch)) := by
  have hContents :=
    congrArg
      (List.filterMap (fun content => content.bind read))
      (UiAdapter.appendedContents_output serde uuids self
        frames)
  rw [List.filterMap_map, List.filterMap_map, contentItems,
    List.filterMap_filterMap] at hContents
  exact hContents

theorem outputTexts_output
    (serde : SerdeJson F)
    (uuids : Nat → String)
    (self : UiAdapter)
    (frames : List (OzResponseFrame F)) :
    outputTexts
        ((UiAdapter.machine serde uuids).output self
          frames) =
      frames.filterMap OzResponseFrame.textDelta? := by
  rw [outputTexts, filterMap_appendedMessages_output]
  apply List.filterMap_congr
  intro frame _
  cases frame <;> rfl

theorem reasoningTexts_output
    (serde : SerdeJson F)
    (uuids : Nat → String)
    (self : UiAdapter)
    (frames : List (OzResponseFrame F)) :
    reasoningTexts
        ((UiAdapter.machine serde uuids).output self
          frames) =
      frames.filterMap OzResponseFrame.thinkingDelta? := by
  rw [reasoningTexts, filterMap_appendedMessages_output]
  apply List.filterMap_congr
  intro frame _
  cases frame <;> rfl

/-
  The client receives the text deltas of blocks that are not
  open as ToolUse, element by element and in order.
-/
theorem outputTexts_responseEvents
    {serde : SerdeJson F}
    (hRoundTrip : serde.RoundTripsStrings)
    (hText : serde.RejectsText)
    (uuids : Nat → String)
    (opts : UiAdapterOpts)
    {events : List Sdk.ConverseStreamOutput}
    (hEvents : NonNegativeIndices events) :
    outputTexts (responseEvents serde uuids opts events) =
      Transducer.answers forwardedText events := by
  rw [responseEvents_eq_output, outputTexts_output,
    textDelta?_framesOf hRoundTrip hText hEvents]

theorem outputTexts_responseEvents_restarted_index :
    outputTexts
        (responseEvents SerdeJson.sortedIntegral numberedUuids
          ⟨none, none, none⟩
          [.contentBlockDelta 0 (some (.text "a")),
            .contentBlockStart 0
              (some (.toolUse ⟨"tu_1", "grep"⟩)),
            .contentBlockDelta 0 (some (.text "b")),
            .contentBlockStop 0,
            .contentBlockDelta 0 (some (.text "c"))]) =
      Transducer.answers forwardedText
        [.contentBlockDelta 0 (some (.text "a")),
          .contentBlockStart 0
            (some (.toolUse ⟨"tu_1", "grep"⟩)),
          .contentBlockDelta 0 (some (.text "b")),
          .contentBlockStop 0,
          .contentBlockDelta 0 (some (.text "c"))] :=
  outputTexts_responseEvents
    (SerdeJson.roundTripsStrings_sorted _)
    (SerdeJson.rejectsText_sorted _)
    numberedUuids ⟨none, none, none⟩
    (by simp [NonNegativeIndices,
      Sdk.ConverseStreamOutput.blockIndex?])

end WarpByokProxy

------------------------------------------------------------
-- Reasoning At The Client
------------------------------------------------------------

namespace WarpByokProxy

open Wmaa

variable {F : Type}

/-
  The reasoning that an event sends: the text of a reasoning
  delta whose block is not open as ToolUse.
-/
def sentReasoning
    (past : List Sdk.ConverseStreamOutput)
    (event : Sdk.ConverseStreamOutput) : List String :=
  match event with
  | .contentBlockDelta contentBlockIndex
      (some (.reasoningContent (.text text))) =>
      if openAsToolUse contentBlockIndex past then
        []
      else
        [text]
  | _ => []

/- All reasoning that is sent reaches the client, in order. -/
def KeepsReasoning
    (serde : SerdeJson F)
    (uuids : Nat → String)
    (opts : UiAdapterOpts)
    (events : List Sdk.ConverseStreamOutput) : Prop :=
  String.join
      (reasoningTexts
        (responseEvents serde uuids opts events)) =
    String.join (Transducer.answers sentReasoning events)

/- The reasoning deltas outside of tool blocks are empty. -/
def ReasoningIsBlank
    (past : List Sdk.ConverseStreamOutput)
    (event : Sdk.ConverseStreamOutput) : Prop :=
  ∀ contentBlockIndex text,
    event =
        .contentBlockDelta contentBlockIndex
          (some (.reasoningContent (.text text))) →
      openAsToolUse contentBlockIndex past = false →
        text = ""

/- Step rule: no SDK event yields a reasoning frame. -/
theorem thinkingDelta?_handle_translated
    {serde : SerdeJson F}
    (hRoundTrip : serde.RoundTripsStrings)
    (hText : serde.RejectsText)
    (past : List Sdk.ConverseStreamOutput)
    (event : Sdk.ConverseStreamOutput) :
    ((StreamAccumulator.machine serde).output
        ((StreamAccumulator.machine serde).final .new
          (translated serde past))
        (translateOutputEvent serde
          event).toList).filterMap
            OzResponseFrame.thinkingDelta? = [] := by
  cases event with
  | contentBlockDelta index delta =>
      cases hJson : deltaJson serde delta with
      | none => simp [translateOutputEvent, hJson]
      | some json =>
          have hKind :=
            kindAt_translated_ne_thinking hRoundTrip hText
              past (blockIndexOf index)
          simp only [translateOutputEvent, hJson,
            Option.map_some, Option.toList_some,
            Transducer.output_singleton,
            StreamAccumulator.machine_step,
            StreamAccumulator.handle]
          exact thinkingDelta?_handleDelta serde hKind _ json
  | contentBlockStart index start => rfl
  | contentBlockStop index =>
      rw [translateOutputEvent, Option.toList_some,
        Transducer.output_singleton]
      exact StreamAccumulator.filterMap_handle_stop_eq_nil
        (fun _ _ _ => rfl) rfl serde _
  | messageStart => rfl
  | messageStop => rfl
  | metadata => rfl
  | other => rfl

/- No stream of SDK events yields a reasoning frame. -/
theorem thinkingDelta?_framesOf
    {serde : SerdeJson F}
    (hRoundTrip : serde.RoundTripsStrings)
    (hText : serde.RejectsText)
    (events : List Sdk.ConverseStreamOutput) :
    (framesOf serde events).filterMap
        OzResponseFrame.thinkingDelta? = [] := by
  induction events using List.reverseRecOn with
  | nil => rfl
  | append_singleton past event ih =>
      rw [framesOf_append_singleton, List.filterMap_append,
        ih,
        thinkingDelta?_handle_translated hRoundTrip hText
          past event,
        List.append_nil]

/- An event sends nothing when its reasoning is blank. -/
theorem join_sentReasoning_event_iff
    (past : List Sdk.ConverseStreamOutput)
    (event : Sdk.ConverseStreamOutput) :
    String.join (sentReasoning past event) = "" ↔
      ReasoningIsBlank past event := by
  constructor
  · rintro hJoin index text rfl hOpen
    simpa [sentReasoning, hOpen] using hJoin
  · intro hBlank
    unfold sentReasoning
    split
    · rename_i index text
      cases hOpen : openAsToolUse index past with
      | true => rfl
      | false => simp [hBlank index text rfl hOpen]
    · rfl

/- Nothing is sent when all reasoning deltas are empty. -/
theorem join_sentReasoning_eq_empty_iff
    (events : List Sdk.ConverseStreamOutput) :
    String.join (Transducer.answers sentReasoning events) =
        "" ↔
      Trace.Always ReasoningIsBlank events := by
  induction events using List.reverseRecOn with
  | nil => simp [Trace.always_nil]
  | append_singleton past event ih =>
      rw [Transducer.answers_append_singleton,
        String.join_append, String.append_eq_empty_iff, ih,
        join_sentReasoning_event_iff, Trace.always_append,
        Trace.always_singleton, List.append_nil]

/-
  Reasoning is kept only where there is none to keep: every
  reasoning delta outside of tool blocks is empty.
-/
theorem keepsReasoning_iff
    {serde : SerdeJson F}
    (hRoundTrip : serde.RoundTripsStrings)
    (hText : serde.RejectsText)
    (uuids : Nat → String)
    (opts : UiAdapterOpts)
    (events : List Sdk.ConverseStreamOutput) :
    KeepsReasoning serde uuids opts events ↔
      Trace.Always ReasoningIsBlank events := by
  rw [← join_sentReasoning_eq_empty_iff, KeepsReasoning,
    responseEvents_eq_output, reasoningTexts_output,
    thinkingDelta?_framesOf hRoundTrip hText events,
    String.join_nil, eq_comm]

/-
  Thoughts within a tool block are no reasoning, and an empty
  thought is none that could be lost.
-/
theorem keepsReasoning_no_thoughts :
    KeepsReasoning SerdeJson.sortedIntegral numberedUuids
      ⟨none, none, none⟩
      [.messageStart,
        .contentBlockStart 0
          (some (.toolUse ⟨"tu_1", "grep"⟩)),
        .contentBlockDelta 0
          (some (.reasoningContent (.text "hmm"))),
        .contentBlockDelta 1
          (some (.reasoningContent (.text ""))),
        .contentBlockDelta 1 (some (.text "a"))] :=
  (keepsReasoning_iff
    (SerdeJson.roundTripsStrings_sorted _)
    (SerdeJson.rejectsText_sorted _)
    numberedUuids ⟨none, none, none⟩ _).mpr
      ((join_sentReasoning_eq_empty_iff _).mp (by decide))

/- A streamed thought never arrives. -/
theorem not_keepsReasoning_thought :
    ¬ KeepsReasoning SerdeJson.sortedIntegral numberedUuids
        ⟨none, none, none⟩
        [.messageStart,
          .contentBlockDelta 0
            (some (.reasoningContent (.text "hmm")))] := by
  unfold KeepsReasoning
  decide +kernel

end WarpByokProxy
