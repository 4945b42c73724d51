import Mathlib.Data.List.Basic

/-
  Lists that only grow.

  A list grows when its elements grow in place and others are
  added behind them. When growth of elements is reflexive and
  transitive, so is growth of lists.

  Key definitions include:
    * `Growth`

  The rules for reasoning about growth are:
    * `Growth.append`
    * `Growth.map`
    * `Growth.trans`
-/

------------------------------------------------------------
-- Growth
------------------------------------------------------------

/- Every element grows where it is; others follow. -/
inductive Growth
    {α : Type*}
    (R : α → α → Prop) : List α → List α → Prop where
  | nil (rest : List α) : Growth R [] rest
  | cons
      {x y : α}
      {xs ys : List α}
      (hHead : R x y)
      (hTail : Growth R xs ys) :
      Growth R (x :: xs) (y :: ys)

namespace Growth

variable {α : Type*} {R : α → α → Prop}

/- Elements may be added at the end. -/
theorem append
    (hRefl : ∀ x, R x x)
    (xs rest : List α) :
    Growth R xs (xs ++ rest) := by
  induction xs with
  | nil => exact .nil rest
  | cons x xs ih => exact .cons (hRefl x) ih

/- Nothing has to change. -/
theorem refl
    (hRefl : ∀ x, R x x)
    (xs : List α) :
    Growth R xs xs := by
  have hAppend := append hRefl xs []
  rw [List.append_nil] at hAppend
  exact hAppend

/- Elements may grow in place. -/
theorem map
    {f : α → α}
    {xs : List α}
    (hGrows : ∀ x ∈ xs, R x (f x)) :
    Growth R xs (xs.map f) := by
  induction xs with
  | nil => exact .nil []
  | cons x xs ih =>
      rw [List.forall_mem_cons] at hGrows
      exact .cons hGrows.1 (ih hGrows.2)

/- Growth goes on. -/
theorem trans
    (hTrans : ∀ {x y z}, R x y → R y z → R x z)
    {xs ys zs : List α}
    (hFirst : Growth R xs ys)
    (hSecond : Growth R ys zs) :
    Growth R xs zs := by
  induction hFirst generalizing zs with
  | nil rest => exact .nil zs
  | cons hHead hTail ih =>
      cases hSecond with
      | cons hNext hRest =>
          exact .cons (hTrans hHead hNext) (ih hRest)

end Growth
