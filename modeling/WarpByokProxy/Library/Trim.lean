import Mathlib.Data.List.DropRight

/-
  Lists without blanks at either end, over an arbitrary type
  of symbols and an arbitrary notion of blank.

  Key definitions include:
    * `Trim.both`

  Key theorems include:
    * `Trim.both_eq_nil_iff`
    * `Trim.eq_nil_of_suffix`
-/

------------------------------------------------------------
-- Trimming
------------------------------------------------------------

namespace Trim

variable {α : Type*}

/- The list from its first to its last symbol. -/
def both
    (blank : α → Bool)
    (xs : List α) : List α :=
  (xs.dropWhile blank).rdropWhile blank

/- Only a blank list has nothing left. -/
theorem both_eq_nil_iff
    (blank : α → Bool)
    (xs : List α) :
    both blank xs = [] ↔ ∀ x ∈ xs, blank x = true := by
  rw [both, List.rdropWhile_eq_nil_iff]
  constructor
  · intro hLeft x hMem
    rw [← List.takeWhile_append_dropWhile (p := blank)
      (l := xs), List.mem_append] at hMem
    rcases hMem with hBlank | hRest
    · exact List.mem_takeWhile_imp hBlank
    · exact hLeft x hRest
  · intro hBlank x hMem
    exact hBlank x (List.dropWhile_subset blank hMem)

/- No blanks are left at the end. -/
theorem eq_nil_of_suffix
    {blank : α → Bool}
    {xs rest : List α}
    (hSuffix : rest <:+ both blank xs)
    (hBlank : ∀ x ∈ rest, blank x = true) :
    rest = [] := by
  by_contra hSome
  rcases hSuffix with ⟨front, hBoth⟩
  have hNe : both blank xs ≠ [] := by
    rw [← hBoth]
    exact List.append_ne_nil_of_right_ne_nil front hSome
  have hLast :
      ¬ blank ((both blank xs).getLast hNe) = true :=
    List.rdropWhile_last_not blank _ hNe
  apply hLast
  apply hBlank
  have hEq :
      (both blank xs).getLast hNe = rest.getLast hSome := by
    simp only [← hBoth]
    exact List.getLast_append_of_ne_nil _ hSome
  rw [hEq]
  exact List.getLast_mem hSome

end Trim
