import Mathlib.Data.List.Basic

/-
  Lists that are read element by element.

  A reading relates an element to what it stands for. A list
  is read in order, and elements that stand for nothing are
  skipped.

  Key definitions include:
    * `Readings.ReadsAll`

  Key theorems include:
    * `Readings.readsAll_iff_filterMap`
    * `Readings.ReadsAll.ne_nil_iff`
    * `Readings.foldl_collect`
-/

------------------------------------------------------------
-- Reading A List
------------------------------------------------------------

namespace Readings

variable {α β : Type*}

/- The elements that have a reading, read in order. -/
inductive ReadsAll
    (R : α → β → Prop) : List α → List β → Prop where
  | nil : ReadsAll R [] []
  | read {x : α} {y : β} {xs : List α} {ys : List β}
      (hRead : R x y)
      (hRest : ReadsAll R xs ys) :
      ReadsAll R (x :: xs) (y :: ys)
  | skip {x : α} {xs : List α} {ys : List β}
      (hNone : ∀ y, ¬ R x y)
      (hRest : ReadsAll R xs ys) :
      ReadsAll R (x :: xs) ys

/- Computable readings are collected by a `filterMap`. -/
theorem readsAll_iff_filterMap
    {R : α → β → Prop}
    {f : α → Option β}
    (hReads : ∀ x y, f x = some y ↔ R x y)
    (xs : List α)
    (ys : List β) :
    ReadsAll R xs ys ↔ xs.filterMap f = ys := by
  constructor
  · intro hAll
    induction hAll with
    | nil => rfl
    | read hRead _ ih =>
        rw [List.filterMap_cons, (hReads _ _).mpr hRead, ih]
    | @skip x xs ys hNone _ ih =>
        have hSkip : f x = none := by
          rw [Option.eq_none_iff_forall_ne_some]
          intro y hSome
          exact hNone y ((hReads x y).mp hSome)
        rw [List.filterMap_cons, hSkip, ih]
  · intro hEq
    subst hEq
    induction xs with
    | nil => exact .nil
    | cons x xs ih =>
        rw [List.filterMap_cons]
        cases hx : f x with
        | none =>
            apply ReadsAll.skip _ ih
            intro y hRead
            rw [(hReads x y).mpr hRead] at hx
            contradiction
        | some y => exact .read ((hReads x y).mp hx) ih

/- Something is read just when some element has a reading. -/
theorem ReadsAll.ne_nil_iff
    {R : α → β → Prop}
    {xs : List α}
    {ys : List β}
    (hAll : ReadsAll R xs ys) :
    ys ≠ [] ↔ ∃ x ∈ xs, ∃ y, R x y := by
  induction hAll with
  | nil => simp
  | @read x y xs ys hRead _ _ =>
      refine iff_of_true (List.cons_ne_nil y ys) ?_
      exact ⟨x, List.mem_cons_self, y, hRead⟩
  | @skip x xs ys hNone _ ih =>
      rw [ih]
      constructor
      · rintro ⟨other, hMem, hReads⟩
        exact ⟨other, List.mem_cons_of_mem x hMem, hReads⟩
      · rintro ⟨other, hMem, y, hRead⟩
        rcases List.mem_cons.mp hMem with rfl | hOld
        · exact absurd hRead (hNone y)
        · exact ⟨other, hOld, y, hRead⟩

end Readings

------------------------------------------------------------
-- Collecting What Was Read
------------------------------------------------------------

namespace Readings

variable {α σ : Type*}

/-
  A builder that collects its elements one by one has
  collected all of them, unless there were none.
-/
theorem foldl_collect
    {push : σ → α → σ}
    (collect : σ → List α → σ)
    (hFirst : ∀ s x, push s x = collect s [x])
    (hNext :
      ∀ s x xs,
        collect (push s x) xs = collect s (x :: xs))
    (s : σ)
    {xs : List α}
    (hSome : xs ≠ []) :
    xs.foldl push s = collect s xs := by
  induction xs generalizing s with
  | nil => contradiction
  | cons x xs ih =>
      rw [List.foldl_cons]
      cases xs with
      | nil => exact hFirst s x
      | cons y xs =>
          rw [ih (push s x) (List.cons_ne_nil y xs)]
          exact hNext s x (y :: xs)

end Readings
