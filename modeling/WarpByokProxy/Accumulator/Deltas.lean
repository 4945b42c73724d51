import WarpByokProxy.StreamAccumulator

/-
  What a delta or a stop does to its block, and which frames
  it yields.

  Key definitions include:
    * `deltaField`
    * `OzResponseFrame.textDelta?`
    * `OzResponseFrame.thinkingDelta?`
    * `OzResponseFrame.shownPiece`

  Key theorems include:
    * `mem_handleDelta`
    * `mem_toolUseAtStop`
    * `kind_handleDelta`
    * `textDelta?_handleDelta`
    * `thinkingDelta?_handleDelta`
    * `handleDelta_tool`
-/

------------------------------------------------------------
-- Readers
------------------------------------------------------------

namespace WarpByokProxy

variable {F : Type}

/- A string field of a JSON text of the given type. -/
def deltaField
    (serde : SerdeJson F)
    (type field : String)
    (deltaJson : String) : Option String :=
  (serde.fromStr deltaJson).bind (fun json =>
    if json.getStr "type" = some type then
      some ((json.getStr field).getD "")
    else
      none)

/- The text that a frame adds to the agent's output. -/
def OzResponseFrame.textDelta? :
    OzResponseFrame F → Option String
  | .textDelta _ text => some text
  | _ => none

/- The text that a frame adds to the agent's reasoning. -/
def OzResponseFrame.thinkingDelta? :
    OzResponseFrame F → Option String
  | .thinkingDelta _ text _ => some text
  | _ => none

/- The piece of argument text that a frame shows. -/
def OzResponseFrame.shownPiece
    (blockIndex : UInt32) :
    OzResponseFrame F → Option String
  | .toolUseInputDelta other _ piece =>
      if other = blockIndex then some piece else none
  | _ => none

theorem getD_eq_iff_of_ne
    {found : Option String}
    {default text : String}
    (hNe : default ≠ text) :
    found.getD default = text ↔ found = some text := by
  cases found with
  | none => simp [hNe]
  | some value => simp

end WarpByokProxy

------------------------------------------------------------
-- Frames Of A Delta
------------------------------------------------------------

namespace WarpByokProxy

variable {F : Type}

/- The frames that a delta can yield; all have its index. -/
theorem mem_handleDelta
    {serde : SerdeJson F}
    {state : BlockState}
    {blockIndex : UInt32}
    {deltaJson : String}
    {frame : OzResponseFrame F}
    (hFrame :
      frame ∈
        (handleDelta serde state blockIndex deltaJson).2) :
    (∃ text, frame = .textDelta blockIndex text) ∨
      (∃ text signature,
        frame = .thinkingDelta blockIndex text signature) ∨
      ∃ id piece,
        frame = .toolUseInputDelta blockIndex id piece := by
  unfold handleDelta at hFrame
  split at hFrame
  · simp at hFrame
  · split at hFrame
    · exact Or.inl ⟨_, List.mem_singleton.mp hFrame⟩
    · exact Or.inr
        (Or.inl ⟨_, _, List.mem_singleton.mp hFrame⟩)
    · exact Or.inr
        (Or.inl ⟨_, _, List.mem_singleton.mp hFrame⟩)
    · exact Or.inr
        (Or.inr ⟨_, _, List.mem_singleton.mp hFrame⟩)
    · simp at hFrame

/- A reader that skips such frames reads nothing. -/
theorem filterMap_handleDelta_eq_nil
    {α : Type}
    {read : OzResponseFrame F → Option α}
    {blockIndex : UInt32}
    (hText : ∀ text, read (.textDelta blockIndex text) = none)
    (hThinking :
      ∀ text signature,
        read (.thinkingDelta blockIndex text signature) =
          none)
    (hInput :
      ∀ id piece,
        read (.toolUseInputDelta blockIndex id piece) = none)
    (serde : SerdeJson F)
    (state : BlockState)
    (deltaJson : String) :
    (handleDelta serde state blockIndex
      deltaJson).2.filterMap read = [] := by
  rw [List.filterMap_eq_nil_iff]
  intro frame hFrame
  rcases mem_handleDelta hFrame with
    ⟨text, rfl⟩ | ⟨text, signature, rfl⟩ | ⟨id, piece, rfl⟩
  · exact hText text
  · exact hThinking text signature
  · exact hInput id piece

/- A stop yields the call of a tool block, if any. -/
theorem mem_toolUseAtStop
    {serde : SerdeJson F}
    {blockIndex : UInt32}
    {removed : Option BlockState}
    {frame : OzResponseFrame F}
    (hFrame :
      frame ∈ toolUseAtStop serde blockIndex removed) :
    ∃ state acc,
      removed = some state ∧
        state.kind = .toolUse ∧
        state.toolUse = some acc ∧
        frame =
          .toolUse blockIndex acc.id acc.name
            ((serde.fromStr acc.partialJson).getD
              .emptyObject) := by
  unfold toolUseAtStop at hFrame
  split at hFrame
  · simp at hFrame
  · rename_i state
    split at hFrame
    · rename_i acc hKind hAcc
      exact ⟨state, acc, rfl, hKind, hAcc,
        List.mem_singleton.mp hFrame⟩
    · simp at hFrame

/- A reader that skips calls reads nothing. -/
theorem filterMap_toolUseAtStop_eq_nil
    {α : Type}
    {read : OzResponseFrame F → Option α}
    {blockIndex : UInt32}
    (hTool :
      ∀ id name input,
        read (.toolUse blockIndex id name input) = none)
    (serde : SerdeJson F)
    (removed : Option BlockState) :
    (toolUseAtStop serde blockIndex removed).filterMap
      read = [] := by
  rw [List.filterMap_eq_nil_iff]
  intro frame hFrame
  rcases mem_toolUseAtStop hFrame with
    ⟨state, acc, -, -, -, rfl⟩
  exact hTool _ _ _

/- Nothing else but the stop itself comes with it. -/
theorem StreamAccumulator.filterMap_handle_stop_eq_nil
    {α : Type}
    {read : OzResponseFrame F → Option α}
    {blockIndex : UInt32}
    (hTool :
      ∀ id name input,
        read (.toolUse blockIndex id name input) = none)
    (hStop : read (.blockStop blockIndex) = none)
    (serde : SerdeJson F)
    (self : StreamAccumulator) :
    (self.handle serde
      (.contentBlockStop blockIndex)).2.filterMap read =
        [] := by
  rw [handle, List.filterMap_append,
    filterMap_toolUseAtStop_eq_nil hTool, List.nil_append,
    List.filterMap_cons, hStop, List.filterMap_nil]

/- A delta leaves the kind of its block alone. -/
theorem kind_handleDelta
    (serde : SerdeJson F)
    (state : BlockState)
    (blockIndex : UInt32)
    (deltaJson : String) :
    (handleDelta serde state blockIndex deltaJson).1.kind =
      state.kind := by
  unfold handleDelta
  split
  · rfl
  · split <;> rfl

/- A text block turns text deltas, and no others, to text. -/
theorem textDelta?_handleDelta
    (serde : SerdeJson F)
    (state : BlockState)
    (blockIndex : UInt32)
    (deltaJson : String) :
    (handleDelta serde state blockIndex
        deltaJson).2.filterMap OzResponseFrame.textDelta? =
      if state.kind = .text then
        (deltaField serde "text_delta" "text"
          deltaJson).toList
      else
        [] := by
  unfold handleDelta deltaField
  cases hJson : serde.fromStr deltaJson with
  | none => simp
  | some json =>
      simp only [Option.bind_some]
      split
      · rename_i hKind hType
        have hType' :=
          (getD_eq_iff_of_ne (by decide)).mp hType
        simp [hKind, hType', OzResponseFrame.textDelta?]
      · rename_i hKind _
        simp [hKind, OzResponseFrame.textDelta?]
      · rename_i hKind _
        simp [hKind, OzResponseFrame.textDelta?]
      · rename_i hKind _
        simp [hKind, OzResponseFrame.textDelta?]
      · rename_i hOther _ _ _
        by_cases hKind : state.kind = .text
        · have hType :
              json.getStr "type" ≠ some "text_delta" := by
            intro hEq
            apply hOther hKind
            rw [hEq, Option.getD_some]
          simp [hKind, hType]
        · simp [hKind]

/- Only a thinking block emits reasoning. -/
theorem thinkingDelta?_handleDelta
    (serde : SerdeJson F)
    {state : BlockState}
    (hKind : state.kind ≠ .thinking)
    (blockIndex : UInt32)
    (deltaJson : String) :
    (handleDelta serde state blockIndex
        deltaJson).2.filterMap
          OzResponseFrame.thinkingDelta? = [] := by
  unfold handleDelta
  split
  · rfl
  · split
    · rfl
    · contradiction
    · contradiction
    · rfl
    · rfl

/- A delta adds its piece to an open tool block. -/
theorem handleDelta_tool
    (serde : SerdeJson F)
    (acc : ToolUseAcc)
    (blockIndex : UInt32)
    (deltaJson : String) :
    handleDelta serde (.tool acc) blockIndex deltaJson =
      match deltaField serde "input_json_delta"
          "partial_json" deltaJson with
      | none => (.tool acc, [])
      | some piece =>
          (.tool
              { acc with
                partialJson := acc.partialJson ++ piece },
            [.toolUseInputDelta blockIndex acc.id
              piece]) := by
  unfold handleDelta deltaField
  cases hJson : serde.fromStr deltaJson with
  | none => rfl
  | some json =>
      simp only [Option.bind_some]
      by_cases hType :
          json.getStr "type" = some "input_json_delta"
      · simp [hType, BlockState.tool]
      · rw [if_neg hType]
        simp only [BlockState.tool]
        split
        · simp_all
        · simp_all
        · simp_all
        · rename_i hDefault
          exact (hType
            ((getD_eq_iff_of_ne (by decide)).mp
              hDefault)).elim
        · rfl

end WarpByokProxy
