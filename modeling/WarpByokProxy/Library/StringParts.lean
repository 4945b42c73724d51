import Mathlib.Data.List.Infix

/-
  Parts of strings: beginnings, parts in the middle, and the
  split at the last occurrence of a character.

  Key definitions include:
    * `StringParts.startsWith`
    * `StringParts.stripStart`
    * `StringParts.contains`
    * `StringParts.rsplitOnce`

  Key theorems include:
    * `StringParts.stripStart_eq_some_iff`
    * `StringParts.contains_iff`
    * `StringParts.infix_append_cons_iff`
    * `StringParts.splitLast_eq_some_iff`
    * `StringParts.rsplitOnce_eq_some_iff`
-/

------------------------------------------------------------
-- Parts
------------------------------------------------------------

namespace StringParts

/- The text begins with the given start. -/
def startsWith
    (start text : String) : Bool :=
  start.toList.isPrefixOf text.toList

/- The text without the given start, if it begins with it. -/
def stripStart
    (start text : String) : Option String :=
  if startsWith start text then
    some (String.ofList
      (text.toList.drop start.toList.length))
  else
    none

/- The characters stand next to each other in the text. -/
def hasPart
    (part : List Char) : List Char → Bool
  | [] => part.isEmpty
  | c :: rest =>
      part.isPrefixOf (c :: rest) || hasPart part rest

/- The text contains the given part. -/
def contains
    (part text : String) : Bool :=
  hasPart part.toList text.toList

theorem startsWith_iff
    (start text : String) :
    startsWith start text = true ↔
      start.toList <+: text.toList :=
  List.isPrefixOf_iff_prefix

/- Only the given start is taken off. -/
theorem stripStart_eq_some_iff
    (start text rest : String) :
    stripStart start text = some rest ↔
      text.toList = start.toList ++ rest.toList := by
  unfold stripStart
  constructor
  · intro hStrip
    split_ifs at hStrip with hStart
    obtain rfl := Option.some.inj hStrip
    rw [startsWith_iff] at hStart
    rw [String.toList_ofList]
    exact List.prefix_append_drop hStart
  · intro hText
    have hStart : startsWith start text = true := by
      rw [startsWith_iff, hText]
      exact List.prefix_append _ _
    rw [if_pos hStart, hText, List.drop_left,
      String.ofList_toList]

theorem hasPart_iff
    (part text : List Char) :
    hasPart part text = true ↔ part <:+: text := by
  induction text with
  | nil => simp [hasPart]
  | cons c rest ih =>
      rw [hasPart, Bool.or_eq_true,
        List.isPrefixOf_iff_prefix, ih, List.infix_cons_iff]

theorem contains_iff
    (part text : String) :
    contains part text = true ↔
      part.toList <:+: text.toList :=
  hasPart_iff part.toList text.toList

end StringParts

------------------------------------------------------------
-- Parts Beside A Separator
------------------------------------------------------------

namespace StringParts

variable {α : Type}

/-
  A part without the separator lies on one side of it.
-/
theorem infix_append_cons_iff
    {part : List α}
    {separator : α}
    (hPart : separator ∉ part)
    (left right : List α) :
    part <:+: left ++ separator :: right ↔
      part <:+: left ∨ part <:+: right := by
  -- What starts at the separator is empty or contains it.
  have hStart :
      ∀ rest : List α,
        rest <+: separator :: right →
          (∀ c ∈ rest, c ∈ part) → rest = [] := by
    intro rest hRest hSub
    rcases List.prefix_cons_iff.mp hRest with
      hNil | ⟨tail, hCons, -⟩
    · exact hNil
    · have hMem : separator ∈ rest := by
        rw [hCons]
        exact List.mem_cons_self
      exact absurd (hSub separator hMem) hPart
  rw [List.infix_append_iff_ne_nil, List.infix_cons_iff]
  constructor
  · rintro (hLeft | (hHere | hRight) |
      ⟨first, rest, -, hRest, hSplit, -, hPrefix⟩)
    · exact .inl hLeft
    · have hNil := hStart part hHere (fun _ hMem => hMem)
      rw [hNil]
      exact .inl List.nil_infix
    · exact .inr hRight
    · refine absurd (hStart rest hPrefix ?_) hRest
      intro c hMem
      rw [hSplit]
      exact List.mem_append_right _ hMem
  · rintro (hLeft | hRight)
    · exact .inl hLeft
    · exact .inr (.inl (.inr hRight))

/-
  An end that begins with the separator is not longer than
  what stands behind a text without the separator.
-/
theorem cons_suffix_append_iff
    {separator : α}
    {left : List α}
    (hLeft : separator ∉ left)
    (last right : List α) :
    separator :: last <:+ left ++ right ↔
      separator :: last <:+ right := by
  constructor
  · rintro ⟨first, hText⟩
    rcases List.append_eq_append_iff.mp hText with
      ⟨middle, hSplit, hEnd⟩ | ⟨middle, -, hEnd⟩
    · cases middle with
      | nil =>
          rw [List.nil_append] at hEnd
          rw [hEnd]
      | cons c middle =>
          obtain ⟨rfl, -⟩ := List.cons.inj hEnd
          refine absurd ?_ hLeft
          rw [hSplit]
          exact List.mem_append_right _ List.mem_cons_self
    · exact ⟨middle, hEnd.symm⟩
  · intro hRight
    exact List.suffix_append_of_suffix hRight

/-
  A beginning without the separator does not reach beyond
  it.
-/
theorem prefix_append_cons_iff
    {start : List α}
    {separator : α}
    (hStart : separator ∉ start)
    (left right : List α) :
    start <+: left ++ separator :: right ↔
      start <+: left := by
  constructor
  · rintro ⟨rest, hText⟩
    rcases List.append_eq_append_iff.mp hText with
      ⟨middle, hSplit, -⟩ | ⟨middle, hSplit, hEnd⟩
    · exact ⟨middle, hSplit.symm⟩
    · cases middle with
      | nil =>
          rw [List.append_nil] at hSplit
          rw [hSplit]
      | cons c middle =>
          obtain ⟨rfl, -⟩ := List.cons.inj hEnd
          refine absurd ?_ hStart
          rw [hSplit]
          exact List.mem_append_right _ List.mem_cons_self
  · intro hLeft
    exact List.prefix_append_of_prefix hLeft

end StringParts

------------------------------------------------------------
-- The Last Separator
------------------------------------------------------------

namespace StringParts

/- What stands before and after the last separator. -/
def splitLast
    (separator : Char) :
    List Char → Option (List Char × List Char)
  | [] => none
  | c :: rest =>
      match splitLast separator rest with
      | some (head, tail) => some (c :: head, tail)
      | none => if c = separator then some ([], rest) else none

/- Split a text at its last separator. -/
def rsplitOnce
    (separator : Char)
    (text : String) : Option (String × String) :=
  (splitLast separator text.toList).map (fun parts =>
    (String.ofList parts.1, String.ofList parts.2))

/- A text without the separator is not split. -/
theorem splitLast_eq_none_iff
    (separator : Char)
    (text : List Char) :
    splitLast separator text = none ↔ separator ∉ text := by
  induction text with
  | nil => simp [splitLast]
  | cons c rest ih =>
      rw [splitLast, List.mem_cons, not_or]
      cases hRest : splitLast separator rest with
      | none =>
          have hOut := ih.mp hRest
          by_cases hHead : c = separator
          · simp [hHead]
          · simp [hHead, hOut, Ne.symm hHead]
      | some parts =>
          have hIn : ¬ separator ∉ rest := by
            rw [← ih, hRest]
            exact Option.some_ne_none parts
          simp [hIn]

/- The split is at a separator without one after it. -/
theorem splitLast_eq_some_iff
    (separator : Char)
    (text head tail : List Char) :
    splitLast separator text = some (head, tail) ↔
      text = head ++ separator :: tail ∧
        separator ∉ tail := by
  induction text generalizing head with
  | nil => simp [splitLast]
  | cons c rest ih =>
      rw [splitLast]
      cases hRest : splitLast separator rest with
      | none =>
          have hOut :=
            (splitLast_eq_none_iff separator rest).mp hRest
          constructor
          · intro hSplit
            simp only at hSplit
            split_ifs at hSplit with hHead
            obtain ⟨rfl, rfl⟩ :=
              Prod.mk.inj (Option.some.inj hSplit)
            exact ⟨by rw [hHead, List.nil_append], hOut⟩
          · rintro ⟨hText, hTail⟩
            cases head with
            | nil =>
                obtain ⟨rfl, rfl⟩ := List.cons.inj hText
                simp
            | cons d head =>
                have hMem : separator ∈ rest := by
                  rw [(List.cons.inj hText).2]
                  exact List.mem_append_right _
                    List.mem_cons_self
                exact absurd hMem hOut
      | some parts =>
          rcases parts with ⟨first, last⟩
          constructor
          · intro hSplit
            obtain ⟨rfl, rfl⟩ :=
              Prod.mk.inj (Option.some.inj hSplit)
            rcases (ih first).mp hRest with ⟨hText, hTail⟩
            exact ⟨by rw [hText, List.cons_append], hTail⟩
          · rintro ⟨hText, hTail⟩
            cases head with
            | nil =>
                have hOut : separator ∉ rest := by
                  rw [(List.cons.inj hText).2]
                  exact hTail
                rw [← splitLast_eq_none_iff, hRest] at hOut
                exact absurd hOut (Option.some_ne_none _)
            | cons d head =>
                obtain ⟨rfl, hRestText⟩ :=
                  List.cons.inj hText
                have hSplit :=
                  (ih head).mpr ⟨hRestText, hTail⟩
                rw [hRest] at hSplit
                obtain ⟨rfl, rfl⟩ :=
                  Prod.mk.inj (Option.some.inj hSplit)
                rfl

/- The parts beside the last separator. -/
theorem rsplitOnce_eq_some_iff
    (separator : Char)
    (text head last : String) :
    rsplitOnce separator text = some (head, last) ↔
      text.toList =
          head.toList ++ separator :: last.toList ∧
        separator ∉ last.toList := by
  rw [rsplitOnce, Option.map_eq_some_iff]
  constructor
  · rintro ⟨⟨first, tail⟩, hParts, hPair⟩
    obtain ⟨rfl, rfl⟩ := Prod.mk.inj hPair
    rw [String.toList_ofList, String.toList_ofList]
    exact (splitLast_eq_some_iff _ _ _ _).mp hParts
  · intro hText
    refine
      ⟨(head.toList, last.toList),
        (splitLast_eq_some_iff _ _ _ _).mpr hText, ?_⟩
    rw [String.ofList_toList, String.ofList_toList]

end StringParts
