import Mathlib.Data.List.Nodup
import Mathlib.Logic.Function.Basic

/-
  Draws of many parties from one supply.

  The log of the draws names each draw by a key, such as the
  party and the number of its draw. Seen from the keys, every
  party has a supply of its own: the position of a key that
  was drawn is that of its draw, and keys that were not drawn
  have positions beyond all draws.

  Key definitions include:
    * `SharedSupply.position`

  Key theorems include:
    * `SharedSupply.position_injective`
    * `SharedSupply.position_of_getElem?`
-/

------------------------------------------------------------
-- Positions Of Draws
------------------------------------------------------------

namespace SharedSupply

variable {κ : Type*} [DecidableEq κ]

/- The position of a key, whether or not it was drawn yet. -/
def position
    (code : κ → Nat)
    (draws : List κ)
    (key : κ) : Nat :=
  if key ∈ draws then
    draws.idxOf key
  else
    draws.length + code key

/- No two keys share a position. -/
theorem position_injective
    {code : κ → Nat}
    (hCode : Function.Injective code)
    (draws : List κ) :
    Function.Injective (position code draws) := by
  intro left right hEq
  unfold position at hEq
  by_cases hLeft : left ∈ draws
  · have hBefore := List.idxOf_lt_length_of_mem hLeft
    by_cases hRight : right ∈ draws
    · rw [if_pos hLeft, if_pos hRight] at hEq
      exact (List.idxOf_inj hLeft).mp hEq
    · rw [if_pos hLeft, if_neg hRight] at hEq
      omega
  · by_cases hRight : right ∈ draws
    · have hBefore := List.idxOf_lt_length_of_mem hRight
      rw [if_neg hLeft, if_pos hRight] at hEq
      omega
    · rw [if_neg hLeft, if_neg hRight] at hEq
      exact hCode (Nat.add_left_cancel hEq)

/- A key that was drawn once has the position of its draw. -/
theorem position_of_getElem?
    {draws : List κ}
    (hDraws : draws.Nodup)
    {n : Nat}
    {key : κ}
    (hKey : draws[n]? = some key)
    (code : κ → Nat) :
    position code draws key = n := by
  rcases List.getElem?_eq_some_iff.mp hKey with ⟨hn, rfl⟩
  rw [position, if_pos (List.getElem_mem hn)]
  exact hDraws.idxOf_getElem n hn

end SharedSupply
