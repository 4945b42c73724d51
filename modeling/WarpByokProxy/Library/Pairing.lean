import Mathlib.Data.List.Basic
import Mathlib.Data.List.Infix

/-
  Calls and their answers in a list.

  An element may be a call or an answer, each with an
  identifier, and never both. Calls may come in groups that
  are answered together. When each call wants its answer in
  the very next place instead, groups have to have a single
  call.

  Key definitions include:
    * `Pairing.IsGroup`
    * `Pairing.GroupsAnswered`
    * `Pairing.Paired`
    * `Pairing.OneByOne`

  Key theorems include:
    * `Pairing.exists_answer_of_call`
    * `Pairing.paired_iff`
    * `Pairing.groupsAnswered_append`
-/

------------------------------------------------------------
-- Groups Of Calls
------------------------------------------------------------

namespace Pairing

variable {α ι : Type*}

/- A group of calls that is as long as it can be. -/
structure IsGroup
    (call : α → Option ι)
    (before group after : List α) : Prop where
  nonempty : group ≠ []
  calls : ∀ x ∈ group, (call x).isSome = true
  opens :
    ∀ x, before.getLast? = some x → call x = none
  closes :
    ∀ x, after.head? = some x → call x = none

/-
  Each group has distinct identifiers, and right after it
  stand answers to exactly these, in any order.
-/
def GroupsAnswered
    (call answer : α → Option ι)
    (xs : List α) : Prop :=
  ∀ before group after,
    xs = before ++ group ++ after →
      IsGroup call before group after →
        (group.filterMap call).Nodup ∧
          ∃ answers rest,
            after = answers ++ rest ∧
              (∀ x ∈ answers, (answer x).isSome = true) ∧
              (answers.filterMap answer).Perm
                (group.filterMap call)

/- Each call stands right before its own answer. -/
structure Paired
    (call answer : α → Option ι)
    (xs : List α) : Prop where
  answered :
    ∀ i x id,
      xs[i]? = some x →
      call x = some id →
        ∃ y, xs[i + 1]? = some y ∧ answer y = some id
  asked :
    ∀ i y id,
      xs[i]? = some y →
      answer y = some id →
        ∃ j x,
          i = j + 1 ∧
            xs[j]? = some x ∧
            call x = some id

/- No calls are neighbours, and answers stand after calls. -/
structure OneByOne
    (call answer : α → Option ι)
    (xs : List α) : Prop where
  apart :
    ∀ i x y,
      xs[i]? = some x →
      xs[i + 1]? = some y →
      (call x).isSome = true →
        call y = none
  follows :
    ∀ i y,
      xs[i]? = some y →
      (answer y).isSome = true →
        ∃ j x,
          i = j + 1 ∧
            xs[j]? = some x ∧
            (call x).isSome = true

variable {call answer : α → Option ι}

/- Without calls and answers nothing has to be paired. -/
theorem paired_of_forall_none
    {xs : List α}
    (hNone : ∀ x ∈ xs, call x = none ∧ answer x = none) :
    Paired call answer xs where
  answered := by
    intro i x id hGet hCall
    rw [(hNone x (List.mem_of_getElem? hGet)).1] at hCall
    contradiction
  asked := by
    intro i y id hGet hAnswer
    rw [(hNone y (List.mem_of_getElem? hGet)).2] at hAnswer
    contradiction

/- A call without neighbours is a group of its own. -/
theorem OneByOne.isGroup
    {xs : List α}
    (hSingle : OneByOne call answer xs)
    {i : Nat}
    {x : α}
    (hGet : xs[i]? = some x)
    (hCall : (call x).isSome = true) :
    IsGroup call (xs.take i) [x] (xs.drop (i + 1)) where
  nonempty := List.cons_ne_nil x []
  calls := by
    intro y hMem
    rw [List.mem_singleton.mp hMem]
    exact hCall
  opens := by
    intro y hLast
    cases i with
    | zero => simp at hLast
    | succ j =>
        have hLength : j < xs.length := by
          have hSucc :=
            (List.getElem?_eq_some_iff.mp hGet).1
          omega
        have hPrevious : xs[j]? = some y := by
          rw [List.getLast?_take,
            if_neg (Nat.succ_ne_zero j)] at hLast
          simpa [hLength] using hLast
        by_contra hSome
        have hNone :=
          hSingle.apart j y x hPrevious hGet
            (Option.isSome_iff_ne_none.mpr hSome)
        rw [hNone] at hCall
        contradiction
  closes := by
    intro y hHead
    rw [List.head?_drop] at hHead
    exact hSingle.apart i x y hGet hHead hCall

/- Then its answer comes next. -/
theorem exists_answer_of_call
    {xs : List α}
    (hGroups : GroupsAnswered call answer xs)
    (hSingle : OneByOne call answer xs)
    {i : Nat}
    {x : α}
    {id : ι}
    (hGet : xs[i]? = some x)
    (hCall : call x = some id) :
    ∃ y, xs[i + 1]? = some y ∧ answer y = some id := by
  have hSplit :
      xs = xs.take i ++ [x] ++ xs.drop (i + 1) := by
    rcases List.getElem?_eq_some_iff.mp hGet with
      ⟨hLength, rfl⟩
    rw [List.append_assoc, List.singleton_append,
      List.getElem_cons_drop, List.take_append_drop]
  have hGroup :=
    hSingle.isGroup hGet (Option.isSome_of_eq_some hCall)
  rcases hGroups _ _ _ hSplit hGroup with
    ⟨-, answers, rest, hAfter, hAnswers, hPerm⟩
  rw [List.filterMap_cons_some hCall, List.filterMap_nil]
    at hPerm
  have hOne := hPerm.eq_singleton
  cases answers with
  | nil => simp at hOne
  | cons y answers =>
      rcases Option.isSome_iff_exists.mp
          (hAnswers y List.mem_cons_self) with
        ⟨found, hFound⟩
      rw [List.filterMap_cons_some hFound] at hOne
      refine ⟨y, ?_, ?_⟩
      · rw [← List.head?_drop, hAfter, List.cons_append,
          List.head?_cons]
      · rw [hFound, (List.cons.inj hOne).1]

/-
  With groups that are answered, calls are paired with their
  answers exactly when they come one by one.
-/
theorem paired_iff
    (hDisjoint :
      ∀ x, (answer x).isSome = true → call x = none)
    {xs : List α}
    (hGroups : GroupsAnswered call answer xs) :
    Paired call answer xs ↔ OneByOne call answer xs := by
  constructor
  · intro hPaired
    constructor
    · intro i x y hGet hNext hCall
      rcases Option.isSome_iff_exists.mp hCall with
        ⟨id, hId⟩
      rcases hPaired.answered i x id hGet hId with
        ⟨found, hFound, hAnswer⟩
      rw [hNext, Option.some.injEq] at hFound
      rw [hFound]
      exact hDisjoint found
        (Option.isSome_of_eq_some hAnswer)
    · intro i y hGet hAnswer
      rcases Option.isSome_iff_exists.mp hAnswer with
        ⟨id, hId⟩
      rcases hPaired.asked i y id hGet hId with
        ⟨j, x, hIndex, hPrevious, hCall⟩
      exact ⟨j, x, hIndex, hPrevious,
        Option.isSome_of_eq_some hCall⟩
  · intro hSingle
    constructor
    · intro i x id hGet hCall
      exact exists_answer_of_call hGroups hSingle hGet hCall
    · intro i y id hGet hAnswer
      rcases hSingle.follows i y hGet
          (Option.isSome_of_eq_some hAnswer) with
        ⟨j, x, rfl, hPrevious, hCall⟩
      rcases Option.isSome_iff_exists.mp hCall with
        ⟨asked, hAsked⟩
      rcases exists_answer_of_call hGroups hSingle hPrevious
          hAsked with ⟨found, hFound, hFoundAnswer⟩
      rw [hGet, Option.some.injEq] at hFound
      rw [← hFound, hAnswer] at hFoundAnswer
      rw [hFoundAnswer]
      exact ⟨j, x, rfl, hPrevious, hAsked⟩

end Pairing

------------------------------------------------------------
-- One Group And Its Answers
------------------------------------------------------------

namespace Pairing

variable {α ι : Type*}
variable {call answer : α → Option ι}

/- Nothing stands before a group when all before is calls. -/
theorem IsGroup.before_eq_nil
    {before group after calls answers : List α}
    (hGroup : IsGroup call before group after)
    (hSplit :
      calls ++ answers = before ++ (group ++ after))
    (hCalls : ∀ x ∈ calls, (call x).isSome = true)
    (hNotAnswer : ∀ x ∈ group, x ∉ answers) :
    before = [] := by
  by_contra hSome
  rcases List.append_eq_append_iff.mp hSplit with
    ⟨gap, -, hTail⟩ | ⟨gap, hHead, -⟩
  · rcases List.exists_mem_of_ne_nil group hGroup.nonempty
      with ⟨x, hMem⟩
    apply hNotAnswer x hMem
    rw [hTail]
    exact List.mem_append_right _
      (List.mem_append_left _ hMem)
  · have hMem : before.getLast hSome ∈ calls := by
      rw [hHead]
      exact List.mem_append_left _ (List.getLast_mem hSome)
    have hCall := hCalls _ hMem
    rw [hGroup.opens _
      (List.getLast?_eq_some_getLast hSome)] at hCall
    contradiction

/- A group at the start takes all calls there. -/
theorem IsGroup.eq_of_append_eq
    {before group after calls answers : List α}
    (hGroup : IsGroup call before group after)
    (hSplit : calls ++ answers = group ++ after)
    (hCalls : ∀ x ∈ calls, (call x).isSome = true)
    (hNotAnswer : ∀ x ∈ group, x ∉ answers) :
    group = calls ∧ after = answers := by
  rcases List.append_eq_append_iff.mp hSplit with
    ⟨gap, hGap, hTail⟩ | ⟨gap, hGap, hTail⟩
  · cases gap with
    | nil =>
        rw [List.append_nil] at hGap
        exact ⟨hGap, hTail.symm⟩
    | cons x gap =>
        have hMem : x ∈ group := by
          rw [hGap]
          exact List.mem_append_right _ List.mem_cons_self
        have hAnswer : x ∈ answers := by
          rw [hTail]
          exact List.mem_cons_self
        exact absurd hAnswer (hNotAnswer x hMem)
  · cases gap with
    | nil =>
        rw [List.append_nil] at hGap
        exact ⟨hGap.symm, hTail⟩
    | cons x gap =>
        have hMem : x ∈ calls := by
          rw [hGap]
          exact List.mem_append_right _ List.mem_cons_self
        have hCall := hCalls x hMem
        have hHead : after.head? = some x := by
          rw [hTail, List.cons_append, List.head?_cons]
        rw [hGroup.closes x hHead] at hCall
        contradiction

/- Calls and then their answers are one answered group. -/
theorem groupsAnswered_append
    {calls answers : List α}
    (hCalls : ∀ x ∈ calls, (call x).isSome = true)
    (hAnswers :
      ∀ y ∈ answers,
        call y = none ∧ (answer y).isSome = true)
    (hNodup : (calls.filterMap call).Nodup)
    (hPerm :
      (answers.filterMap answer).Perm
        (calls.filterMap call)) :
    GroupsAnswered call answer (calls ++ answers) := by
  intro before group after hSplit hGroup
  have hNotAnswer : ∀ x ∈ group, x ∉ answers := by
    intro x hMem hAnswer
    have hSome := hGroup.calls x hMem
    rw [(hAnswers x hAnswer).1] at hSome
    contradiction
  rw [List.append_assoc] at hSplit
  have hBefore :=
    hGroup.before_eq_nil hSplit hCalls hNotAnswer
  rw [hBefore, List.nil_append] at hSplit
  obtain ⟨rfl, rfl⟩ :=
    hGroup.eq_of_append_eq hSplit hCalls hNotAnswer
  refine ⟨hNodup, after, [], ?_, ?_, hPerm⟩
  · rw [List.append_nil]
  · intro y hMem
    exact (hAnswers y hMem).2

end Pairing
