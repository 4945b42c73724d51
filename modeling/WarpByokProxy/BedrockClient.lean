import WarpByokProxy.StreamAccumulator

/-
  The event translator of the Bedrock client, translated
  from `translate_output_event` in `bedrock_client.rs`, over
  the SDK event types that it inspects.

  A union variant that the translator does not single out is
  `other`, and SDK fields that it does not read are left
  out. The stop reason is the text that `as_str` returns.

  Key definitions include:
    * `Sdk.ConverseStreamOutput`
    * `u32TryFromI32`
    * `u64TryFromI32`
    * `translateOutputEvent`
-/

------------------------------------------------------------
-- SDK Events
------------------------------------------------------------

namespace WarpByokProxy

namespace Sdk

/- The payload of a tool block's start. -/
structure ToolUseBlockStart where
  toolUseId : String
  name : String
deriving DecidableEq, Repr

/- The payload of a block start. -/
inductive ContentBlockStart where
  | toolUse (block : ToolUseBlockStart)
  | other
deriving DecidableEq, Repr

/- A piece of a reasoning block. -/
inductive ReasoningContentBlockDelta where
  | text (text : String)
  | signature (signature : String)
  | other
deriving DecidableEq, Repr

/- A piece of a content block. -/
inductive ContentBlockDelta where
  | text (text : String)
  | toolUse (input : String)
  | reasoningContent (delta : ReasoningContentBlockDelta)
  | other
deriving DecidableEq, Repr

/- Token counts reported at the end of a turn. -/
structure TokenUsage where
  inputTokens : Int32
  outputTokens : Int32
  cacheReadInputTokens : Option Int32
  cacheWriteInputTokens : Option Int32
deriving DecidableEq

/- One event of the SDK's response stream. -/
inductive ConverseStreamOutput where
  | messageStart
  | contentBlockStart
      (contentBlockIndex : Int32)
      (start : Option ContentBlockStart)
  | contentBlockDelta
      (contentBlockIndex : Int32)
      (delta : Option ContentBlockDelta)
  | contentBlockStop (contentBlockIndex : Int32)
  | messageStop (stopReason : String)
  | metadata (usage : Option TokenUsage)
  | other
deriving DecidableEq

end Sdk

end WarpByokProxy

------------------------------------------------------------
-- Integer Conversions
------------------------------------------------------------

namespace WarpByokProxy

/- `u32::try_from` on an `i32`. -/
def u32TryFromI32
    (value : Int32) : Option UInt32 :=
  if 0 ≤ value.toInt then
    some (UInt32.ofNat value.toInt.toNat)
  else
    none

/- `u64::try_from` on an `i32`. -/
def u64TryFromI32
    (value : Int32) : Option UInt64 :=
  if 0 ≤ value.toInt then
    some (UInt64.ofNat value.toInt.toNat)
  else
    none

/- A non-negative 32-bit integer is below two to the 31. -/
theorem toNat_toInt_lt
    (value : Int32) :
    value.toInt.toNat < 2147483648 := by
  have hUpper := value.toInt_lt
  omega

/- The index of a block; a negative index reads as zero. -/
def blockIndexOf
    (contentBlockIndex : Int32) : UInt32 :=
  (u32TryFromI32 contentBlockIndex).getD 0

/- Non-negative block indices stay apart. -/
theorem blockIndexOf_inj
    {left right : Int32}
    (hLeft : 0 ≤ left.toInt)
    (hRight : 0 ≤ right.toInt) :
    blockIndexOf left = blockIndexOf right ↔
      left = right := by
  constructor
  · intro hEq
    have hNat := congrArg UInt32.toNat hEq
    have hLeftLt := toNat_toInt_lt left
    have hRightLt := toNat_toInt_lt right
    simp only [blockIndexOf, u32TryFromI32, hLeft, hRight,
      if_true, Option.getD_some, UInt32.toNat_ofNat']
      at hNat
    apply Int32.toInt_inj.mp
    omega
  · intro hEq
    rw [hEq]

/- A token count; a negative count reads as zero. -/
def toU64
    (value : Int32) : UInt64 :=
  (u64TryFromI32 value).getD 0

/- A non-negative count is widened without change. -/
theorem toNat_toU64
    (value : Int32) :
    (toU64 value).toNat = value.toInt.toNat := by
  have hLt := toNat_toInt_lt value
  unfold toU64 u64TryFromI32
  by_cases hNonneg : 0 ≤ value.toInt
  · simp only [hNonneg, if_true, Option.getD_some,
      UInt64.toNat_ofNat']
    omega
  · simp only [hNonneg, if_false, Option.getD_none]
    have hZero : value.toInt.toNat = 0 := by
      omega
    rw [hZero]
    rfl

end WarpByokProxy

------------------------------------------------------------
-- Event Translation
------------------------------------------------------------

namespace WarpByokProxy

variable {F : Type}

/- The description of a block that starts. -/
def blockStartKind
    (serde : SerdeJson F)
    (start : Option Sdk.ContentBlockStart) : String :=
  match start with
  | some (.toolUse block) =>
      serde.toString (.ofStrings
        [("type", "tool_use"),
          ("id", block.toolUseId),
          ("name", block.name)])
  | _ => "text"

/- The JSON text of a delta, for the deltas that are kept. -/
def deltaJson
    (serde : SerdeJson F)
    (delta : Option Sdk.ContentBlockDelta) :
    Option String :=
  match delta with
  | some (.text text) =>
      some (serde.toString (.ofStrings
        [("type", "text_delta"), ("text", text)]))
  | some (.toolUse input) =>
      some (serde.toString (.ofStrings
        [("type", "input_json_delta"),
          ("partial_json", input)]))
  | some (.reasoningContent (.text text)) =>
      some (serde.toString (.ofStrings
        [("type", "thinking_delta"), ("thinking", text)]))
  | some (.reasoningContent (.signature signature)) =>
      some (serde.toString (.ofStrings
        [("type", "signature_delta"),
          ("signature", signature)]))
  | _ => none

/- Translate one SDK event; some events have no image. -/
def translateOutputEvent
    (serde : SerdeJson F) :
    Sdk.ConverseStreamOutput → Option BedrockEvent
  | .messageStart => some .messageStart
  | .contentBlockStart contentBlockIndex start =>
      some (.contentBlockStart
        (blockIndexOf contentBlockIndex)
        (blockStartKind serde start))
  | .contentBlockDelta contentBlockIndex delta =>
      (deltaJson serde delta).map (fun json =>
        .contentBlockDelta
          (blockIndexOf contentBlockIndex) json)
  | .contentBlockStop contentBlockIndex =>
      some (.contentBlockStop
        (blockIndexOf contentBlockIndex))
  | .messageStop stopReason => some (.messageStop stopReason)
  | .metadata usage =>
      some (.messageStreamMetadata
        ((usage.map (fun u => toU64 u.inputTokens)).getD 0)
        ((usage.map (fun u => toU64 u.outputTokens)).getD 0)
        (((usage.bind Sdk.TokenUsage.cacheReadInputTokens).map
          toU64).getD 0)
        (((usage.bind Sdk.TokenUsage.cacheWriteInputTokens).map
          toU64).getD 0))
  | .other => none

/- A reader that skips deltas reads nothing of a delta. -/
theorem bind_translateOutputEvent_delta
    {α : Type}
    {read : BedrockEvent → Option α}
    (hDelta :
      ∀ blockIndex json,
        read (.contentBlockDelta blockIndex json) = none)
    (serde : SerdeJson F)
    (contentBlockIndex : Int32)
    (delta : Option Sdk.ContentBlockDelta) :
    (translateOutputEvent serde
      (.contentBlockDelta contentBlockIndex delta)).bind
        read = none := by
  rw [translateOutputEvent]
  cases deltaJson serde delta with
  | none => rfl
  | some json => exact hDelta _ json

end WarpByokProxy
