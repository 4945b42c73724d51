import WarpByokProxy.Adapter.Finish
import WarpByokProxy.Pipeline.Stream

/-
  Token usage on the way from the SDK to the client.

  The adapter keeps the last usage report until the response
  ends. A report that comes after the message stop is too
  late, so the client learns the counts of the last report
  before it. All conversions keep non-negative counts.

  Key definitions include:
    * `UsageCounts`
    * `Sdk.usageCounts`
    * `lastMetadata`
    * `DeliversLastUsage`

  Key theorems include:
    * `counts_tokenUsageOf`
    * `lastUsage_framesOf`
    * `finishedEvents_responseEvents`
    * `deliversLastUsage_iff`
-/

------------------------------------------------------------
-- Counts
------------------------------------------------------------

namespace WarpByokProxy

variable {F : Type}

/- The four token counts of a report, as numbers. -/
structure UsageCounts where
  input : Int
  output : Int
  cacheRead : Int
  cacheWrite : Int
deriving DecidableEq

namespace UsageCounts

/- Negative counts read as zero. -/
def clamped
    (counts : UsageCounts) : UsageCounts where
  input := max counts.input 0
  output := max counts.output 0
  cacheRead := max counts.cacheRead 0
  cacheWrite := max counts.cacheWrite 0

end UsageCounts

/- The counts of a metadata event; absent ones are zero. -/
def Sdk.usageCounts
    (usage : Option Sdk.TokenUsage) : UsageCounts where
  input :=
    (usage.map (fun u => u.inputTokens.toInt)).getD 0
  output :=
    (usage.map (fun u => u.outputTokens.toInt)).getD 0
  cacheRead :=
    ((usage.bind
      Sdk.TokenUsage.cacheReadInputTokens).map
        Int32.toInt).getD 0
  cacheWrite :=
    ((usage.bind
      Sdk.TokenUsage.cacheWriteInputTokens).map
        Int32.toInt).getD 0

/- The counts that the client reads. -/
def Wmaa.TokenUsage.counts
    (usage : Wmaa.TokenUsage) : UsageCounts where
  input := usage.totalInput.toNat
  output := usage.output.toNat
  cacheRead := usage.inputCacheRead.toNat
  cacheWrite := usage.inputCacheWrite.toNat

/- What the adapter keeps of a metadata event. -/
def tokenUsageOf
    (usage : Option Sdk.TokenUsage) : Wmaa.TokenUsage where
  totalInput :=
    toU32 ((usage.map (fun u => toU64 u.inputTokens)).getD 0)
  output :=
    toU32
      ((usage.map (fun u => toU64 u.outputTokens)).getD 0)
  inputCacheRead :=
    toU32
      (((usage.bind
        Sdk.TokenUsage.cacheReadInputTokens).map
          toU64).getD 0)
  inputCacheWrite :=
    toU32
      (((usage.bind
        Sdk.TokenUsage.cacheWriteInputTokens).map
          toU64).getD 0)

/- Both conversions together only clamp a count at zero. -/
theorem toNat_toU32_toU64
    (value : Int32) :
    ((toU32 (toU64 value)).toNat : Int) =
      max value.toInt 0 := by
  have hWide := toNat_toU64 value
  have hFits : (toU64 value).toNat < UInt32.size := by
    rw [hWide]
    exact Nat.lt_trans (toNat_toInt_lt value) (by decide)
  rw [toNat_toU32 hFits, hWide]
  exact Int.toNat_eq_max value.toInt

theorem toNat_toU32_getD_toU64
    (value : Option Int32) :
    ((toU32 ((value.map toU64).getD 0)).toNat : Int) =
      max ((value.map Int32.toInt).getD 0) 0 := by
  cases value with
  | none => rfl
  | some value => exact toNat_toU32_toU64 value

/- The client reads the clamped counts of the event. -/
theorem counts_tokenUsageOf
    (usage : Option Sdk.TokenUsage) :
    (tokenUsageOf usage).counts =
      (Sdk.usageCounts usage).clamped := by
  cases usage with
  | none => rfl
  | some usage =>
      simp only [Wmaa.TokenUsage.counts, tokenUsageOf,
        UsageCounts.clamped, Sdk.usageCounts,
        Option.map_some, Option.getD_some, Option.bind_some,
        toNat_toU32_toU64, toNat_toU32_getD_toU64]

end WarpByokProxy

------------------------------------------------------------
-- Reports And Stops
------------------------------------------------------------

namespace WarpByokProxy

variable {F : Type}

namespace Sdk

/- The usage that a metadata event reports. -/
def ConverseStreamOutput.metadata? :
    ConverseStreamOutput → Option (Option TokenUsage)
  | .metadata usage => some usage
  | _ => none

/- The event stops the message. -/
def ConverseStreamOutput.isMessageStop :
    ConverseStreamOutput → Bool
  | .messageStop _ => true
  | _ => false

end Sdk

/- The report of the last metadata event. -/
def lastMetadata
    (events : List Sdk.ConverseStreamOutput) :
    Option (Option Sdk.TokenUsage) :=
  (events.filterMap
    Sdk.ConverseStreamOutput.metadata?).getLast?

theorem reportedUsage_translated
    (serde : SerdeJson F)
    (event : Sdk.ConverseStreamOutput) :
    (translateOutputEvent serde event).bind
        (fun bedrockEvent =>
          (bedrockEvent.usageFrame? :
            Option (OzResponseFrame F)).bind
              OzResponseFrame.reportedUsage) =
      event.metadata?.map tokenUsageOf := by
  cases event with
  | metadata usage => rfl
  | contentBlockDelta index delta =>
      exact bind_translateOutputEvent_delta
        (fun _ _ => rfl) serde index delta
  | messageStart => rfl
  | contentBlockStart => rfl
  | contentBlockStop => rfl
  | messageStop => rfl
  | other => rfl

/- All reports are those of the usage frames. -/
theorem filterMap_reportedUsage_filter
    (frames : List (OzResponseFrame F)) :
    (frames.filter OzResponseFrame.isUsage).filterMap
        OzResponseFrame.reportedUsage =
      frames.filterMap OzResponseFrame.reportedUsage := by
  rw [List.filterMap_filter]
  apply List.filterMap_congr
  intro frame _
  cases frame <;> rfl

/- The adapter's last usage is that of the last metadata. -/
theorem lastUsage_framesOf
    (serde : SerdeJson F)
    (events : List Sdk.ConverseStreamOutput) :
    lastUsage (framesOf serde events) =
      (lastMetadata events).map tokenUsageOf := by
  have hReports :
      (framesOf serde events).filterMap
          OzResponseFrame.reportedUsage =
        (events.filterMap
          Sdk.ConverseStreamOutput.metadata?).map
            tokenUsageOf := by
    rw [← filterMap_reportedUsage_filter, framesOf,
      StreamAccumulator.usage_output, translated,
      List.filterMap_filterMap, List.filterMap_filterMap,
      List.map_filterMap]
    apply List.filterMap_congr
    intro event _
    exact reportedUsage_translated serde event
  rw [lastUsage, hReports, List.getLast?_map, lastMetadata]

end WarpByokProxy

------------------------------------------------------------
-- The End Of A Response
------------------------------------------------------------

namespace WarpByokProxy

open Wmaa

variable {F : Type}

/- None of the events stops the message. -/
def NoMessageStop
    (events : List Sdk.ConverseStreamOutput) : Prop :=
  ∀ event ∈ events, event.isMessageStop = false

/- Without a message stop no frame ends the response. -/
theorem stopReason?_of_noMessageStop
    (serde : SerdeJson F)
    (self : StreamAccumulator)
    {events : List Sdk.ConverseStreamOutput}
    (hEvents : NoMessageStop events) :
    ∀ frame ∈
        (StreamAccumulator.machine serde).output self
          (translated serde events),
      frame.stopReason? = none := by
  rw [← List.filterMap_eq_nil_iff,
    StreamAccumulator.stopReasons_output, translated,
    List.filterMap_filterMap, List.filterMap_eq_nil_iff]
  intro event hEvent
  have hStop := hEvents event hEvent
  cases event with
  | contentBlockDelta index delta =>
      exact bind_translateOutputEvent_delta
        (fun _ _ => rfl) serde index delta
  | messageStop =>
      simp [Sdk.ConverseStreamOutput.isMessageStop] at hStop
  | messageStart => rfl
  | contentBlockStart => rfl
  | contentBlockStop => rfl
  | metadata => rfl
  | other => rfl

/- A frame that ends nothing asks for no end. -/
theorem UiAdapter.ending_of_stopReason?_none
    {frame : OzResponseFrame F}
    (hStop : frame.stopReason? = none)
    (usage : Option Wmaa.TokenUsage) :
    UiAdapter.ending usage frame = [] := by
  rw [UiAdapter.ending, hStop]
  rfl

/-
  The one end of a response with one message stop carries
  the usage that was reported before the stop.
-/
theorem finishedEvents_responseEvents
    (serde : SerdeJson F)
    (uuids : Nat → String)
    (opts : UiAdapterOpts)
    {before after : List Sdk.ConverseStreamOutput}
    (hBefore : NoMessageStop before)
    (hAfter : NoMessageStop after)
    (stopReason : String) :
    finishedEvents
        (responseEvents serde uuids opts
          (before ++ .messageStop stopReason :: after)) =
      [{ reason := some (UiAdapter.reasonVariant stopReason)
         tokenUsage :=
          ((lastMetadata before).map
            tokenUsageOf).toList }] := by
  have hFrames :
      framesOf serde
          (before ++ .messageStop stopReason :: after) =
        framesOf serde before ++ [.done stopReason] ++
          (StreamAccumulator.machine serde).output
            ((StreamAccumulator.machine serde).final .new
              (translated serde before))
            (translated serde after) := by
    rw [framesOf_append, List.append_assoc]
    rfl
  have hSilent :
      ∀ past : List (OzResponseFrame F),
        ∀ frame ∈ framesOf serde before,
          UiAdapter.ending (lastUsage past) frame = [] :=
    fun past frame hFrame =>
      UiAdapter.ending_of_stopReason?_none
        (stopReason?_of_noMessageStop serde .new hBefore
          frame hFrame) _
  have hTail :
      ∀ past : List (OzResponseFrame F),
        ∀ frame ∈
            (StreamAccumulator.machine serde).output
              ((StreamAccumulator.machine serde).final .new
                (translated serde before))
              (translated serde after),
          UiAdapter.ending (lastUsage past) frame = [] :=
    fun past frame hFrame =>
      UiAdapter.ending_of_stopReason?_none
        (stopReason?_of_noMessageStop serde _ hAfter
          frame hFrame) _
  have hBeforeStop :
      Transducer.answers
          (fun past => UiAdapter.ending (lastUsage past))
          (framesOf serde before) = [] :=
    Transducer.answers_append_of_forall_eq_nil hSilent []
  rw [responseEvents_eq_output,
    UiAdapter.finishedEvents_output, hFrames,
    Transducer.answers_append_of_forall_eq_nil hTail,
    Transducer.answers_append_singleton, hBeforeStop,
    lastUsage_framesOf]
  rfl

/-
  The client receives one end of the response, and its one
  usage entry has the counts of the stream's last report.
-/
def DeliversLastUsage
    (serde : SerdeJson F)
    (uuids : Nat → String)
    (opts : UiAdapterOpts)
    (events : List Sdk.ConverseStreamOutput) : Prop :=
  ∃ last finished usage,
    lastMetadata events = some last ∧
    finishedEvents
        (responseEvents serde uuids opts events) =
      [finished] ∧
    finished.tokenUsage = [usage] ∧
    usage.counts = Sdk.usageCounts last

/-
  The counts of the last report arrive just when the last
  report before the message stop has them already. Counts
  that are not negative are their own clamped counts.
-/
theorem deliversLastUsage_iff
    (serde : SerdeJson F)
    (uuids : Nat → String)
    (opts : UiAdapterOpts)
    {before after : List Sdk.ConverseStreamOutput}
    (hBefore : NoMessageStop before)
    (hAfter : NoMessageStop after)
    (stopReason : String) :
    DeliversLastUsage serde uuids opts
        (before ++ .messageStop stopReason :: after) ↔
      ∃ last metadata,
        lastMetadata
            (before ++ .messageStop stopReason :: after) =
          some last ∧
        lastMetadata before = some metadata ∧
        (Sdk.usageCounts metadata).clamped =
          Sdk.usageCounts last := by
  unfold DeliversLastUsage
  rw [finishedEvents_responseEvents serde uuids opts hBefore
    hAfter stopReason]
  constructor
  · rintro ⟨last, finished, usage, hLast, hFinished, hUsage,
      hCounts⟩
    rw [← List.head_eq_of_cons_eq hFinished] at hUsage
    cases hMetadata : lastMetadata before with
    | none => simp [hMetadata] at hUsage
    | some metadata =>
        have hSame : tokenUsageOf metadata = usage := by
          simpa [hMetadata] using hUsage
        refine ⟨last, metadata, hLast, rfl, ?_⟩
        rw [← counts_tokenUsageOf, hSame, hCounts]
  · rintro ⟨last, metadata, hLast, hMetadata, hClamped⟩
    refine ⟨last, _, tokenUsageOf metadata, hLast, rfl, ?_, ?_⟩
    · simp [hMetadata]
    · rw [counts_tokenUsageOf, hClamped]

theorem deliversLastUsage_usage_first :
    DeliversLastUsage SerdeJson.integral numberedUuids
        ⟨none, none, none⟩
        ([.messageStart,
            .metadata (some ⟨24, 13, none, none⟩)] ++
          .messageStop "end_turn" :: []) ↔
      ∃ last metadata,
        lastMetadata
            ([.messageStart,
                .metadata (some ⟨24, 13, none, none⟩)] ++
              .messageStop "end_turn" :: []) =
          some last ∧
        lastMetadata
            [.messageStart,
              .metadata (some ⟨24, 13, none, none⟩)] =
          some metadata ∧
        (Sdk.usageCounts metadata).clamped =
          Sdk.usageCounts last :=
  deliversLastUsage_iff SerdeJson.integral numberedUuids
    ⟨none, none, none⟩
    (by unfold NoMessageStop; decide)
    (by unfold NoMessageStop; decide)
    "end_turn"

/- Usage that follows the message stop is lost. -/
theorem not_deliversLastUsage_stop_first :
    ¬ DeliversLastUsage SerdeJson.integral numberedUuids
        ⟨none, none, none⟩
        [.messageStart, .messageStop "end_turn",
          .metadata (some ⟨24, 13, none, none⟩)] := by
  rintro ⟨last, finished, usage, -, hFinished, hUsage, -⟩
  have hEnds :
      finishedEvents
          (responseEvents SerdeJson.integral numberedUuids
            ⟨none, none, none⟩
            [.messageStart, .messageStop "end_turn",
              .metadata (some ⟨24, 13, none, none⟩)]) =
        [{ reason := some .done, tokenUsage := [] }] := by
    decide +kernel
  rw [hEnds] at hFinished
  rw [← List.head_eq_of_cons_eq hFinished] at hUsage
  simp at hUsage

end WarpByokProxy
