import WarpByokProxy.Accumulator.Deltas

/-
  Independence of content blocks.

  The accumulator keeps one state for each block index, and
  an event with an index only reads and writes the state at
  that index. What a stream yields for one block is therefore
  what the events of this block yield alone, however they are
  interleaved with the events of others.

  Key definitions include:
    * `BedrockEvent.blockIndex?`
    * `OzResponseFrame.blockIndex?`
    * `StreamAccumulator.AgreesAt`
    * `StreamAccumulator.BlocksIndependent`

  Key theorems include:
    * `blockIndex?_of_mem_handle`
    * `StreamAccumulator.agreesAt_handle`
    * `StreamAccumulator.agreesAt_handle_of_ne`
    * `StreamAccumulator.blocksIndependent`
-/

------------------------------------------------------------
-- Block Indices
------------------------------------------------------------

namespace WarpByokProxy

variable {F : Type}

/- The block that an event belongs to, if any. -/
def BedrockEvent.blockIndex? :
    BedrockEvent → Option UInt32
  | .contentBlockStart blockIndex _ => some blockIndex
  | .contentBlockDelta blockIndex _ => some blockIndex
  | .contentBlockStop blockIndex => some blockIndex
  | _ => none

/- The block that a frame belongs to, if any. -/
def OzResponseFrame.blockIndex? :
    OzResponseFrame F → Option UInt32
  | .textDelta blockIndex _ => some blockIndex
  | .thinkingDelta blockIndex _ _ => some blockIndex
  | .toolUse blockIndex _ _ _ => some blockIndex
  | .toolUseInputDelta blockIndex _ _ => some blockIndex
  | .blockStop blockIndex => some blockIndex
  | _ => none

/- The event stops the message or reports metadata. -/
def BedrockEvent.isClosing : BedrockEvent → Bool
  | .messageStop _ => true
  | .messageStreamMetadata _ _ _ _ => true
  | _ => false

/- The frame ends the response or reports usage. -/
def OzResponseFrame.isClosing : OzResponseFrame F → Bool
  | .done _ => true
  | .usageUpdate _ _ _ _ => true
  | _ => false

/- Frames that close the response belong to no block. -/
theorem isClosing_eq_isNone_blockIndex?
    (frame : OzResponseFrame F) :
    frame.isClosing = frame.blockIndex?.isNone := by
  cases frame <;> rfl

/- Every frame belongs to the block of its event. -/
theorem blockIndex?_of_mem_handle
    {serde : SerdeJson F}
    {self : StreamAccumulator}
    {event : BedrockEvent}
    {frame : OzResponseFrame F}
    (hFrame : frame ∈ (self.handle serde event).2) :
    frame.blockIndex? = event.blockIndex? := by
  cases event with
  | messageStart => exact absurd hFrame List.not_mem_nil
  | contentBlockStart =>
      exact absurd hFrame List.not_mem_nil
  | contentBlockDelta blockIndex deltaJson =>
      rcases mem_handleDelta hFrame with
        ⟨text, rfl⟩ | ⟨text, signature, rfl⟩ |
          ⟨id, piece, rfl⟩
      · rfl
      · rfl
      · rfl
  | contentBlockStop blockIndex =>
      rcases List.mem_append.mp hFrame with hCall | hStop
      · rcases mem_toolUseAtStop hCall with
          ⟨state, acc, -, -, -, rfl⟩
        rfl
      · rw [List.mem_singleton.mp hStop]
        rfl
  | messageStop =>
      rw [List.mem_singleton.mp hFrame]
      rfl
  | messageStreamMetadata =>
      rw [List.mem_singleton.mp hFrame]
      rfl

end WarpByokProxy

------------------------------------------------------------
-- Agreement At A Block
------------------------------------------------------------

namespace WarpByokProxy

namespace StreamAccumulator

variable {F : Type}

/- Two accumulators have the same state for a block. -/
def AgreesAt
    (blockIndex : UInt32)
    (self other : StreamAccumulator) : Prop :=
  self.blocks blockIndex = other.blocks blockIndex

/-
  Step rule: an event of the block is answered alike, and
  the answers leave like states.
-/
theorem agreesAt_handle
    (serde : SerdeJson F)
    {blockIndex : UInt32}
    {self other : StreamAccumulator}
    (hAgrees : AgreesAt blockIndex self other)
    {event : BedrockEvent}
    (hEvent : event.blockIndex? = some blockIndex) :
    AgreesAt blockIndex (self.handle serde event).1
        (other.handle serde event).1 ∧
      (self.handle serde event).2 =
        (other.handle serde event).2 := by
  unfold AgreesAt at hAgrees ⊢
  cases event with
  | contentBlockStart index kind =>
      obtain rfl := Option.some.inj hEvent
      refine ⟨?_, rfl⟩
      rw [handle, handle, set_blocks_self, set_blocks_self]
  | contentBlockDelta index deltaJson =>
      obtain rfl := Option.some.inj hEvent
      rw [handle, handle, hAgrees, set_blocks_self,
        set_blocks_self]
      exact ⟨rfl, rfl⟩
  | contentBlockStop index =>
      obtain rfl := Option.some.inj hEvent
      rw [handle, handle, hAgrees, set_blocks_self,
        set_blocks_self]
      exact ⟨rfl, rfl⟩
  | messageStart => contradiction
  | messageStop => contradiction
  | messageStreamMetadata => contradiction

/- Step rule: any other event leaves the block alone. -/
theorem agreesAt_handle_of_ne
    (serde : SerdeJson F)
    {blockIndex : UInt32}
    {self other : StreamAccumulator}
    (hAgrees : AgreesAt blockIndex self other)
    {event : BedrockEvent}
    (hEvent : event.blockIndex? ≠ some blockIndex) :
    AgreesAt blockIndex (self.handle serde event).1
      other := by
  have hIndex :
      ∀ index, event.blockIndex? = some index →
        blockIndex ≠ index := by
    intro index hSome hEq
    apply hEvent
    rw [hSome, hEq]
  unfold AgreesAt at hAgrees ⊢
  cases event with
  | contentBlockStart index kind =>
      rw [handle, set_blocks_of_ne _ _ (hIndex index rfl)]
      exact hAgrees
  | contentBlockDelta index deltaJson =>
      rw [handle, set_blocks_of_ne _ _ (hIndex index rfl)]
      exact hAgrees
  | contentBlockStop index =>
      rw [handle, set_blocks_of_ne _ _ (hIndex index rfl)]
      exact hAgrees
  | messageStart => exact hAgrees
  | messageStop => exact hAgrees
  | messageStreamMetadata => exact hAgrees

end StreamAccumulator

end WarpByokProxy

------------------------------------------------------------
-- Independence
------------------------------------------------------------

namespace WarpByokProxy

namespace StreamAccumulator

variable {F : Type}

/- The event belongs to the block. -/
def eventOf
    (blockIndex : UInt32)
    (event : BedrockEvent) : Bool :=
  event.blockIndex? = some blockIndex

/- The frame belongs to the block. -/
def frameOf
    (blockIndex : UInt32)
    (frame : OzResponseFrame F) : Bool :=
  frame.blockIndex? = some blockIndex

/- The frames of a stream, from a fresh accumulator. -/
def framesFor
    (serde : SerdeJson F)
    (events : List BedrockEvent) :
    List (OzResponseFrame F) :=
  (machine serde).output new events

/-
  The frames of a block are those of its events alone, and
  the frames that close the response are those of the closing
  events alone. Only the order within each block matters.
-/
structure BlocksIndependent
    (serde : SerdeJson F)
    (events : List BedrockEvent) : Prop where
  block :
    ∀ blockIndex,
      (framesFor serde events).filter
          (frameOf blockIndex) =
        framesFor serde
          (events.filter (eventOf blockIndex))
  closing :
    (framesFor serde events).filter
        OzResponseFrame.isClosing =
      framesFor serde
        (events.filter BedrockEvent.isClosing)
  interleaved :
    ∀ other : List BedrockEvent,
      (∀ blockIndex,
        other.filter (eventOf blockIndex) =
          events.filter (eventOf blockIndex)) →
      ∀ blockIndex,
        (framesFor serde other).filter
            (frameOf blockIndex) =
          (framesFor serde events).filter
            (frameOf blockIndex)

/- The frames of a block depend on its events alone. -/
theorem filter_frameOf
    (serde : SerdeJson F)
    (events : List BedrockEvent)
    (blockIndex : UInt32) :
    (framesFor serde events).filter (frameOf blockIndex) =
      framesFor serde
        (events.filter (eventOf blockIndex)) := by
  apply Transducer.filter_output
    (R := AgreesAt blockIndex) _ _ rfl
  · intro self other event hAgrees hEvent
    have hIndex : event.blockIndex? = some blockIndex :=
      of_decide_eq_true hEvent
    rcases agreesAt_handle serde hAgrees hIndex with
      ⟨hNext, hFrames⟩
    refine ⟨hNext, ?_⟩
    rw [machine_step, hFrames]
    apply List.filter_eq_self.mpr
    intro frame hFrame
    apply decide_eq_true
    rw [blockIndex?_of_mem_handle hFrame, hIndex]
  · intro self other event hAgrees hEvent
    have hIndex : event.blockIndex? ≠ some blockIndex :=
      of_decide_eq_false hEvent
    refine ⟨agreesAt_handle_of_ne serde hAgrees hIndex, ?_⟩
    apply List.filter_eq_nil_iff.mpr
    intro frame hFrame
    rw [frameOf, blockIndex?_of_mem_handle hFrame]
    simpa using hIndex

/- Closing frames depend on closing events alone. -/
theorem filter_isClosing
    (serde : SerdeJson F)
    (events : List BedrockEvent) :
    (framesFor serde events).filter
        OzResponseFrame.isClosing =
      framesFor serde
        (events.filter BedrockEvent.isClosing) := by
  apply Transducer.filter_output
    (R := fun _ _ => True) _ _ True.intro
  · intro self other event _ hEvent
    refine ⟨True.intro, ?_⟩
    cases event with
    | messageStop => rfl
    | messageStreamMetadata => rfl
    | messageStart => contradiction
    | contentBlockStart => contradiction
    | contentBlockDelta => contradiction
    | contentBlockStop => contradiction
  · intro self other event _ hEvent
    refine ⟨True.intro, ?_⟩
    apply List.filter_eq_nil_iff.mpr
    intro frame hFrame
    rw [isClosing_eq_isNone_blockIndex?,
      blockIndex?_of_mem_handle hFrame]
    cases event with
    | messageStop => contradiction
    | messageStreamMetadata => contradiction
    | messageStart =>
        exact absurd hFrame List.not_mem_nil
    | contentBlockStart => exact Bool.false_ne_true
    | contentBlockDelta => exact Bool.false_ne_true
    | contentBlockStop => exact Bool.false_ne_true

/- Content blocks do not interfere. -/
theorem blocksIndependent
    (serde : SerdeJson F)
    (events : List BedrockEvent) :
    BlocksIndependent serde events := by
  refine
    { block := filter_frameOf serde events
      closing := filter_isClosing serde events
      interleaved := ?_ }
  intro other hOther blockIndex
  rw [filter_frameOf, filter_frameOf, hOther blockIndex]

end StreamAccumulator

end WarpByokProxy
