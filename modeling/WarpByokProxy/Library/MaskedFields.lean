import Mathlib.Data.List.Infix

/-
  Field masks over records.

  A record is seen through its leaf fields: a partial
  function from paths to values. A mask is a list of paths,
  each standing for the whole subtree under it. Merging a
  patch under a mask takes the masked fields from the patch
  and leaves the others alone.

  Key definitions include:
    * `MaskedFields.Record`
    * `MaskedFields.Under`
    * `MaskedFields.Covers`
    * `MaskedFields.merge`
    * `MaskedFields.segments`

  Key theorems include:
    * `MaskedFields.merge_eq_patch_iff`
-/

------------------------------------------------------------
-- Masks
------------------------------------------------------------

namespace MaskedFields

variable {S V : Type*}

/- The leaf fields of a record, by path. -/
abbrev Record (S V : Type*) :=
  List S → Option V

/- The path lies in the subtree of a mask entry. -/
def Under
    (mask : List (List S))
    (path : List S) : Prop :=
  ∃ entry ∈ mask, entry <+: path

instance
    [DecidableEq S]
    (mask : List (List S))
    (path : List S) :
    Decidable (Under mask path) := by
  unfold Under
  infer_instance

/- Every field in which the records differ is masked. -/
def Covers
    (mask : List (List S))
    (base patch : Record S V) : Prop :=
  ∀ path, base path ≠ patch path → Under mask path

/- Take the masked fields from the patch. -/
def merge
    [DecidableEq S]
    (mask : List (List S))
    (base patch : Record S V) : Record S V :=
  fun path =>
    if Under mask path then patch path else base path

/-
  A masked merge carries all the data of the patch exactly
  when the mask covers the differences.
-/
theorem merge_eq_patch_iff
    [DecidableEq S]
    (mask : List (List S))
    (base patch : Record S V) :
    merge mask base patch = patch ↔
      Covers mask base patch := by
  constructor
  · intro hMerge path hDiffer
    by_contra hOutside
    apply hDiffer
    have hField := congrFun hMerge path
    simpa [merge, hOutside] using hField
  · intro hCovers
    funext path
    by_cases hUnder : Under mask path
    · simp [merge, hUnder]
    · have hSame : base path = patch path := by
        by_contra hDiffer
        exact hUnder (hCovers path hDiffer)
      simp [merge, hUnder, hSame]

end MaskedFields

------------------------------------------------------------
-- Dotted Paths
------------------------------------------------------------

namespace MaskedFields

/- The segments of a path written with dots. -/
def segments
    (path : String) : List String :=
  (path.toList.splitOn '.').map String.ofList

example :
    segments "outer.inner" = ["outer", "inner"] := by
  decide

end MaskedFields
