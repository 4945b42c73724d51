import WarpByokProxy.Frame
import WarpByokProxy.Library.Transducer
import WarpByokProxy.Serde
import Mathlib.Logic.Function.Basic

/-
  The stream accumulator, translated from
  `stream_accumulator.rs`: a state machine from Bedrock
  events to response frames that keeps one state for every
  open content block.

  The `HashMap<u32, BlockState>` of the source is a function
  from block indices to optional states.

  Key definitions include:
    * `BedrockEvent`
    * `BlockState`
    * `StreamAccumulator`
    * `parseBlockStart`
    * `handleDelta`
    * `StreamAccumulator.handle`
    * `StreamAccumulator.machine`
-/

------------------------------------------------------------
-- Events And Block States
------------------------------------------------------------

namespace WarpByokProxy

/-
  One event of a Bedrock response stream. `kind` and
  `deltaJson` are JSON texts.
-/
inductive BedrockEvent where
  | contentBlockStart (blockIndex : UInt32) (kind : String)
  | contentBlockDelta
      (blockIndex : UInt32)
      (deltaJson : String)
  | contentBlockStop (blockIndex : UInt32)
  | messageStart
  | messageStop (stopReason : String)
  | messageStreamMetadata
      (inputTokens outputTokens cacheRead cacheWrite :
        UInt64)
deriving DecidableEq, Repr

/- What an open content block carries. -/
inductive BlockKind where
  | text
  | thinking
  | toolUse
deriving DecidableEq, Repr

/- A tool call whose argument text is still arriving. -/
structure ToolUseAcc where
  id : String
  name : String
  partialJson : String
deriving DecidableEq, Repr

/- The state of an open content block. -/
structure BlockState where
  kind : BlockKind
  toolUse : Option ToolUseAcc
deriving DecidableEq, Repr

namespace BlockState

/- A fresh text block. -/
def text : BlockState where
  kind := .text
  toolUse := none

/- A fresh thinking block. -/
def thinking : BlockState where
  kind := .thinking
  toolUse := none

/- A tool block with the argument text received so far. -/
def tool
    (acc : ToolUseAcc) : BlockState where
  kind := .toolUse
  toolUse := some acc

end BlockState

/- The states of all open blocks, by block index. -/
structure StreamAccumulator where
  blocks : UInt32 → Option BlockState

end WarpByokProxy

------------------------------------------------------------
-- Block Starts And Deltas
------------------------------------------------------------

namespace WarpByokProxy

variable {F : Type}

/- Read the description of a block that starts. -/
def parseBlockStart
    (serde : SerdeJson F)
    (kind : String) : BlockState :=
  if kind = "text" then
    .text
  else
    let parsed := (serde.fromStr kind).getD .null
    match (parsed.getStr "type").getD "text" with
    | "thinking" => .thinking
    | "tool_use" =>
        .tool
          { id := (parsed.getStr "id").getD ""
            name := (parsed.getStr "name").getD ""
            partialJson := "" }
    | _ => .text

/-
  Apply a delta to its block. A delta whose type does not
  fit the block, or whose text is not JSON, changes nothing.
-/
def handleDelta
    (serde : SerdeJson F)
    (state : BlockState)
    (blockIndex : UInt32)
    (deltaJson : String) :
    BlockState × List (OzResponseFrame F) :=
  match serde.fromStr deltaJson with
  | none => (state, [])
  | some parsed =>
      match state.kind, (parsed.getStr "type").getD "" with
      | .text, "text_delta" =>
          let text := (parsed.getStr "text").getD ""
          (state, [.textDelta blockIndex text])
      | .thinking, "thinking_delta" =>
          let text := (parsed.getStr "thinking").getD ""
          (state, [.thinkingDelta blockIndex text none])
      | .thinking, "signature_delta" =>
          let signature := parsed.getStr "signature"
          (state, [.thinkingDelta blockIndex "" signature])
      | .toolUse, "input_json_delta" =>
          let piece := (parsed.getStr "partial_json").getD ""
          let toolUse := state.toolUse.map (fun acc =>
            { acc with
              partialJson := acc.partialJson ++ piece })
          let id := (toolUse.map ToolUseAcc.id).getD ""
          ({ state with toolUse := toolUse },
            [.toolUseInputDelta blockIndex id piece])
      | _, _ => (state, [])

/-
  The tool call of a block that stops. Argument text that is
  not JSON is replaced by the empty object.
-/
def toolUseAtStop
    (serde : SerdeJson F)
    (blockIndex : UInt32)
    (removed : Option BlockState) :
    List (OzResponseFrame F) :=
  match removed with
  | none => []
  | some state =>
      match state.kind, state.toolUse with
      | .toolUse, some acc =>
          let input :=
            (serde.fromStr acc.partialJson).getD
              .emptyObject
          [.toolUse blockIndex acc.id acc.name input]
      | _, _ => []

end WarpByokProxy

------------------------------------------------------------
-- The Accumulator
------------------------------------------------------------

namespace WarpByokProxy

namespace StreamAccumulator

variable {F : Type}

/- No block is open. -/
def new : StreamAccumulator where
  blocks := fun _ => none

/- Replace the state of one block. -/
def set
    (self : StreamAccumulator)
    (blockIndex : UInt32)
    (state : Option BlockState) : StreamAccumulator where
  blocks := Function.update self.blocks blockIndex state

/- Consume one event. -/
def handle
    (serde : SerdeJson F)
    (self : StreamAccumulator) :
    BedrockEvent →
      StreamAccumulator × List (OzResponseFrame F)
  | .messageStart => (self, [])
  | .contentBlockStart blockIndex kind =>
      (self.set blockIndex
        (some (parseBlockStart serde kind)), [])
  | .contentBlockDelta blockIndex deltaJson =>
      -- A delta for an unknown index opens a text block.
      let state := (self.blocks blockIndex).getD .text
      let result :=
        handleDelta serde state blockIndex deltaJson
      (self.set blockIndex (some result.1), result.2)
  | .contentBlockStop blockIndex =>
      (self.set blockIndex none,
        toolUseAtStop serde blockIndex
            (self.blocks blockIndex) ++
          [.blockStop blockIndex])
  | .messageStop stopReason => (self, [.done stopReason])
  | .messageStreamMetadata
      inputTokens outputTokens cacheRead cacheWrite =>
      (self,
        [.usageUpdate
          inputTokens outputTokens cacheRead cacheWrite])

/- The accumulator as a transducer. -/
def machine
    (serde : SerdeJson F) :
    Transducer StreamAccumulator BedrockEvent
      (OzResponseFrame F) where
  step := handle serde

@[simp] theorem machine_step
    (serde : SerdeJson F)
    (self : StreamAccumulator)
    (event : BedrockEvent) :
    (machine serde).step self event =
      self.handle serde event := rfl

@[simp] theorem new_blocks
    (blockIndex : UInt32) :
    new.blocks blockIndex = none := rfl

@[simp] theorem set_blocks_self
    (self : StreamAccumulator)
    (blockIndex : UInt32)
    (state : Option BlockState) :
    (self.set blockIndex state).blocks blockIndex =
      state := by
  simp [set]

theorem set_blocks_of_ne
    (self : StreamAccumulator)
    {blockIndex other : UInt32}
    (state : Option BlockState)
    (hNe : other ≠ blockIndex) :
    (self.set blockIndex state).blocks other =
      self.blocks other := by
  simp [set, Function.update_of_ne hNe]

end StreamAccumulator

end WarpByokProxy
