import WarpByokProxy.Accumulator.Deltas

/-
  Starts of text blocks that are missing.

  A delta for an index without an open block opens a text
  block, and a text block leaves nothing behind at its stop.
  An index without a block and an index with a text block
  therefore answer all events alike, so that the start of a
  text block can be left out.

  Key definitions include:
    * `TextLike`
    * `StreamAccumulator.Alike`

  Key theorems include:
    * `kind_parseBlockStart_eq_text_iff`
    * `handleDelta_of_kind_text`
    * `StreamAccumulator.isBisimulation_alike`
    * `StreamAccumulator.output_without_text_start`
-/

------------------------------------------------------------
-- Text Blocks
------------------------------------------------------------

namespace WarpByokProxy

variable {F : Type}

/-
  A text block is announced by the bare word, by a text that
  is not JSON, and by JSON without one of the other types.
-/
theorem kind_parseBlockStart_eq_text_iff
    (serde : SerdeJson F)
    (kind : String) :
    (parseBlockStart serde kind).kind = .text ↔
      kind = "text" ∨
        serde.fromStr kind = none ∨
        ∃ json,
          serde.fromStr kind = some json ∧
            json.getStr "type" ≠ some "thinking" ∧
            json.getStr "type" ≠ some "tool_use" := by
  unfold parseBlockStart
  by_cases hWord : kind = "text"
  · rw [if_pos hWord]
    exact iff_of_true rfl (.inl hWord)
  · rw [if_neg hWord]
    cases hJson : serde.fromStr kind with
    | none => exact iff_of_true rfl (.inr (.inl rfl))
    | some json =>
        simp only [Option.getD_some]
        split
        · rename_i hType
          rw [getD_eq_iff_of_ne (by decide)] at hType
          simp [hWord, hType, BlockState.thinking]
        · rename_i hType
          rw [getD_eq_iff_of_ne (by decide)] at hType
          simp [hWord, hType, BlockState.tool]
        · rename_i hThinking hTool
          refine
            iff_of_true rfl
              (.inr (.inr ⟨json, rfl, ?_, ?_⟩))
          · intro hType
            apply hThinking
            rw [hType, Option.getD_some]
          · intro hType
            apply hTool
            rw [hType, Option.getD_some]

/- No block is open, or a text block is. -/
def TextLike
    (open? : Option BlockState) : Prop :=
  ∀ state, open? = some state → state.kind = .text

theorem textLike_some_iff
    (state : BlockState) :
    TextLike (some state) ↔ state.kind = .text := by
  constructor
  · intro hText
    exact hText state rfl
  · intro hKind other hOther
    rw [← Option.some.inj hOther]
    exact hKind

/- A delta meets a text block in either case. -/
theorem kind_getD_of_textLike
    {open? : Option BlockState}
    (hText : TextLike open?) :
    (open?.getD .text).kind = .text := by
  cases open? with
  | none => rfl
  | some state => exact hText state rfl

/- Nothing is called when a text block stops. -/
theorem toolUseAtStop_of_textLike
    {open? : Option BlockState}
    (hText : TextLike open?)
    (serde : SerdeJson F)
    (blockIndex : UInt32) :
    toolUseAtStop serde blockIndex open? = [] := by
  apply List.eq_nil_iff_forall_not_mem.mpr
  intro frame hFrame
  rcases mem_toolUseAtStop hFrame with
    ⟨state, acc, hState, hKind, -, -⟩
  rw [hText state hState] at hKind
  contradiction

/- What a text block answers does not depend on its state. -/
theorem handleDelta_of_kind_text
    (serde : SerdeJson F)
    {state other : BlockState}
    (hState : state.kind = .text)
    (hOther : other.kind = .text)
    (blockIndex : UInt32)
    (deltaJson : String) :
    (handleDelta serde state blockIndex deltaJson).2 =
      (handleDelta serde other blockIndex deltaJson).2 := by
  unfold handleDelta
  cases serde.fromStr deltaJson with
  | none => rfl
  | some json =>
      simp only [hState, hOther]
      split
      · rfl
      · contradiction
      · contradiction
      · contradiction
      · rfl

end WarpByokProxy

------------------------------------------------------------
-- Accumulators That Answer Alike
------------------------------------------------------------

namespace WarpByokProxy

namespace StreamAccumulator

variable {F : Type}

/-
  At every index the accumulators have the same state, or
  neither has more than a text block open.
-/
def Alike
    (self other : StreamAccumulator) : Prop :=
  ∀ blockIndex,
    self.blocks blockIndex = other.blocks blockIndex ∨
      TextLike (self.blocks blockIndex) ∧
        TextLike (other.blocks blockIndex)

/- Opening a text block where none is open goes unnoticed. -/
theorem alike_set
    {self : StreamAccumulator}
    {blockIndex : UInt32}
    (hOpen : TextLike (self.blocks blockIndex))
    {state : BlockState}
    (hKind : state.kind = .text) :
    Alike (self.set blockIndex (some state)) self := by
  intro index
  by_cases hIndex : index = blockIndex
  · subst hIndex
    rw [set_blocks_self]
    exact .inr ⟨(textLike_some_iff state).mpr hKind, hOpen⟩
  · rw [set_blocks_of_ne _ _ hIndex]
    exact .inl rfl

/- Changing an index in both keeps the others alike. -/
theorem alike_set_set
    {self other : StreamAccumulator}
    (hAlike : Alike self other)
    {blockIndex : UInt32}
    {state state' : Option BlockState}
    (hStates :
      state = state' ∨ TextLike state ∧ TextLike state') :
    Alike (self.set blockIndex state)
      (other.set blockIndex state') := by
  intro index
  by_cases hIndex : index = blockIndex
  · subst hIndex
    rw [set_blocks_self, set_blocks_self]
    exact hStates
  · rw [set_blocks_of_ne _ _ hIndex,
      set_blocks_of_ne _ _ hIndex]
    exact hAlike index

/- Step rule for deltas. -/
theorem alike_handle_delta
    (serde : SerdeJson F)
    {self other : StreamAccumulator}
    (hAlike : Alike self other)
    (blockIndex : UInt32)
    (deltaJson : String) :
    Alike
        (self.handle serde
          (.contentBlockDelta blockIndex deltaJson)).1
        (other.handle serde
          (.contentBlockDelta blockIndex deltaJson)).1 ∧
      (self.handle serde
          (.contentBlockDelta blockIndex deltaJson)).2 =
        (other.handle serde
          (.contentBlockDelta blockIndex deltaJson)).2 := by
  rw [handle, handle]
  rcases hAlike blockIndex with hSame | ⟨hSelf, hOther⟩
  · rw [hSame]
    exact ⟨alike_set_set hAlike (.inl rfl), rfl⟩
  · have hKind := kind_getD_of_textLike hSelf
    have hKind' := kind_getD_of_textLike hOther
    refine ⟨alike_set_set hAlike (.inr ⟨?_, ?_⟩), ?_⟩
    · rw [textLike_some_iff, kind_handleDelta, hKind]
    · rw [textLike_some_iff, kind_handleDelta, hKind']
    · exact handleDelta_of_kind_text serde hKind hKind' _ _

/- Step rule for stops. -/
theorem alike_handle_stop
    (serde : SerdeJson F)
    {self other : StreamAccumulator}
    (hAlike : Alike self other)
    (blockIndex : UInt32) :
    Alike
        (self.handle serde
          (.contentBlockStop blockIndex)).1
        (other.handle serde
          (.contentBlockStop blockIndex)).1 ∧
      (self.handle serde
          (.contentBlockStop blockIndex)).2 =
        (other.handle serde
          (.contentBlockStop blockIndex)).2 := by
  rw [handle, handle]
  refine ⟨alike_set_set hAlike (.inl rfl), ?_⟩
  rcases hAlike blockIndex with hSame | ⟨hSelf, hOther⟩
  · rw [hSame]
  · rw [toolUseAtStop_of_textLike hSelf,
      toolUseAtStop_of_textLike hOther]

/- Accumulators that are alike cannot be told apart. -/
theorem isBisimulation_alike
    (serde : SerdeJson F) :
    Transducer.IsBisimulation (machine serde)
      (machine serde) Alike := by
  intro self other event hAlike
  rw [machine_step, machine_step]
  cases event with
  | messageStart => exact ⟨hAlike, rfl⟩
  | messageStop => exact ⟨hAlike, rfl⟩
  | messageStreamMetadata => exact ⟨hAlike, rfl⟩
  | contentBlockStart =>
      exact ⟨alike_set_set hAlike (.inl rfl), rfl⟩
  | contentBlockDelta blockIndex deltaJson =>
      exact
        alike_handle_delta serde hAlike blockIndex deltaJson
  | contentBlockStop blockIndex =>
      exact alike_handle_stop serde hAlike blockIndex

/-
  Leaving out the start of a text block, at an index where
  no other block is open, changes none of the frames.
-/
theorem output_without_text_start
    (serde : SerdeJson F)
    (before after : List BedrockEvent)
    (blockIndex : UInt32)
    (kind : String)
    (hText : (parseBlockStart serde kind).kind = .text)
    (hOpen :
      ∀ state,
        ((machine serde).final new before).blocks
            blockIndex = some state →
          state.kind ≠ .toolUse ∧
            state.kind ≠ .thinking) :
    (machine serde).output new
        (before ++
          .contentBlockStart blockIndex kind :: after) =
      (machine serde).output new (before ++ after) := by
  have hTextLike :
      TextLike
        (((machine serde).final new before).blocks
          blockIndex) := by
    intro state hState
    rcases hOpen state hState with ⟨hTool, hThinking⟩
    cases hKind : state.kind with
    | text => rfl
    | thinking => contradiction
    | toolUse => contradiction
  have hAfter :
      (machine serde).output
          (((machine serde).final new before).set blockIndex
            (some (parseBlockStart serde kind)))
          after =
        (machine serde).output
          ((machine serde).final new before) after :=
    Transducer.output_eq_of_isBisimulation
      (isBisimulation_alike serde)
      (alike_set hTextLike hText) after
  rw [Transducer.output_append, Transducer.output_append,
    Transducer.output_cons, machine_step]
  -- The start itself yields no frames.
  exact congrArg
    ((machine serde).output new before ++ ·) hAfter

/- A start is left out after the delta that came before it. -/
theorem output_without_text_start_late :
    let before : List BedrockEvent :=
      [.contentBlockDelta 0 "\x7b\"type\":\"text_delta\"\x7d"]
    let after : List BedrockEvent :=
      [.contentBlockStop 0]
    (machine SerdeJson.integral).output new
        (before ++ .contentBlockStart 0 "text" :: after) =
      (machine SerdeJson.integral).output new
        (before ++ after) := by
  refine
    output_without_text_start SerdeJson.integral _ _ 0
      "text" rfl ?_
  intro state hState
  rw [Transducer.final_cons, Transducer.final_nil,
    machine_step, handle, set_blocks_self] at hState
  rw [← Option.some.inj hState, kind_handleDelta,
    new_blocks, Option.getD_none, BlockState.text]
  simp

end StreamAccumulator

end WarpByokProxy
