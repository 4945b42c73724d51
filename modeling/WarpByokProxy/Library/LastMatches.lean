import Mathlib.Data.List.Induction

/-
  The last matches of a predicate in a list.

  The positions of all matches are collected by enumerating
  and filtering; the last of them come first when they are
  reversed. A position is among the last `k` exactly when it
  matches and fewer than `k` later elements do.

  Key definitions include:
    * `LastMatches.positions`
    * `LastMatches.last`
    * `LastMatches.IsLast`

  Key theorems include:
    * `LastMatches.positions_map`
    * `LastMatches.last_append_singleton`
    * `LastMatches.mem_last_iff`
    * `LastMatches.length_last_le`
    * `LastMatches.isLast_append_iff_of_forall`
    * `LastMatches.exists_isLast_one`
    * `LastMatches.IsLast.unique`
    * `LastMatches.isLast_one_iff`
    * `LastMatches.IsLast.append_iff`
-/

------------------------------------------------------------
-- Positions Of Matches
------------------------------------------------------------

namespace LastMatches

variable {α : Type*}

/- The positions at which a predicate holds, in order. -/
def positions
    (p : α → Bool)
    (xs : List α) : List Nat :=
  (xs.zipIdx.filter (fun entry => p entry.1)).map Prod.snd

/- The last `k` of these positions, from the end. -/
def last
    (p : α → Bool)
    (k : Nat)
    (xs : List α) : List Nat :=
  (positions p xs).reverse.take k

theorem positions_append_singleton
    (p : α → Bool)
    (xs : List α)
    (x : α) :
    positions p (xs ++ [x]) =
      positions p xs ++
        if p x then [xs.length] else [] := by
  unfold positions
  rw [List.zipIdx_append, List.filter_append,
    List.map_append]
  cases hMatch : p x with
  | true => simp [hMatch]
  | false => simp [hMatch]

/- Mapped elements match where the elements do. -/
theorem positions_map
    {β : Type*}
    (p : β → Bool)
    (f : α → β)
    (xs : List α) :
    positions p (xs.map f) =
      positions (fun x => p (f x)) xs := by
  unfold positions
  rw [List.zipIdx_map, List.filter_map, List.map_map]
  rfl

/- One more element is a last match, if it matches. -/
theorem last_append_singleton
    (p : α → Bool)
    (k : Nat)
    (xs : List α)
    (x : α) :
    last p (k + 1) (xs ++ [x]) =
      if p x then
        xs.length :: last p k xs
      else
        last p (k + 1) xs := by
  unfold last
  rw [positions_append_singleton]
  cases hMatch : p x with
  | true => simp
  | false => simp

/- At most `k` positions are among the last `k`. -/
theorem length_last_le
    (p : α → Bool)
    (k : Nat)
    (xs : List α) :
    (last p k xs).length ≤ k := by
  unfold last
  exact List.length_take_le k _

end LastMatches

------------------------------------------------------------
-- Later Matches
------------------------------------------------------------

namespace LastMatches

variable {α : Type*}

/- The position matches, with fewer than `k` matches later. -/
def IsLast
    (p : α → Bool)
    (k : Nat)
    (xs : List α)
    (i : Nat) : Prop :=
  ∃ x, xs[i]? = some x ∧ p x = true ∧
    (xs.drop (i + 1)).countP p < k

theorem not_isLast_nil
    (p : α → Bool)
    (k i : Nat) :
    ¬ IsLast p k [] i := by
  rintro ⟨x, hGet, -, -⟩
  simp at hGet

/- The new element is the last match, if it is one. -/
theorem isLast_length_append_iff
    (p : α → Bool)
    (k : Nat)
    (xs : List α)
    (x : α) :
    IsLast p (k + 1) (xs ++ [x]) xs.length ↔
      p x = true := by
  constructor
  · rintro ⟨y, hGet, hMatch, -⟩
    rw [List.getElem?_concat_length] at hGet
    rw [Option.some.inj hGet]
    exact hMatch
  · intro hMatch
    refine
      ⟨x, List.getElem?_concat_length, hMatch, ?_⟩
    rw [List.drop_of_length_le (by simp)]
    exact Nat.succ_pos k

/- Earlier elements have one more later match, if it is one. -/
theorem isLast_append_singleton_iff
    (p : α → Bool)
    (k : Nat)
    (xs : List α)
    (x : α)
    {i : Nat}
    (hNe : i ≠ xs.length) :
    IsLast p (k + 1) (xs ++ [x]) i ↔
      if p x then
        IsLast p k xs i
      else
        IsLast p (k + 1) xs i := by
  have hGet : (xs ++ [x])[i]? = xs[i]? := by
    by_cases hLt : i < xs.length
    · exact List.getElem?_append_left hLt
    · have hGt : xs.length < i := by
        omega
      rw [List.getElem?_eq_none (by simp; omega),
        List.getElem?_eq_none (by omega)]
  unfold IsLast
  rw [hGet]
  by_cases hLt : i < xs.length
  · rw [List.drop_append_of_le_length hLt,
      List.countP_append]
    cases hMatch : p x with
    | true => simp [hMatch]
    | false => simp [hMatch]
  · rw [List.getElem?_eq_none (by omega)]
    simp

/-
  A position is among the last `k` matches exactly when it
  matches and fewer than `k` later elements do.
-/
theorem mem_last_iff
    (p : α → Bool)
    (k : Nat)
    (xs : List α)
    (i : Nat) :
    i ∈ last p k xs ↔ IsLast p k xs i := by
  induction xs using List.reverseRecOn generalizing k with
  | nil =>
      constructor
      · intro hMem
        simp [last, positions] at hMem
      · intro hLast
        exact absurd hLast (not_isLast_nil p k i)
  | append_singleton xs x ih =>
      cases k with
      | zero =>
          constructor
          · intro hMem
            simp [last] at hMem
          · rintro ⟨y, -, -, hFew⟩
            exact absurd hFew (Nat.not_lt_zero _)
      | succ k =>
          rw [last_append_singleton]
          by_cases hNew : i = xs.length
          · subst hNew
            rw [isLast_length_append_iff]
            cases hMatch : p x with
            | true => simp
            | false =>
                rw [if_neg Bool.false_ne_true, ih]
                simp [IsLast]
          · rw [isLast_append_singleton_iff p k xs x hNew]
            cases hMatch : p x with
            | true =>
                rw [if_pos rfl, if_pos rfl, List.mem_cons,
                  ih]
                simp [hNew]
            | false =>
                rw [if_neg Bool.false_ne_true,
                  if_neg Bool.false_ne_true, ih]

end LastMatches

------------------------------------------------------------
-- The Last Match
------------------------------------------------------------

namespace LastMatches

variable {α : Type*}

/- Where fewer matches are later, fewer still are allowed. -/
theorem IsLast.mono
    {p : α → Bool}
    {k l : Nat}
    {xs : List α}
    {i : Nat}
    (hLast : IsLast p k xs i)
    (hLe : k ≤ l) :
    IsLast p l xs i := by
  rcases hLast with ⟨x, hGet, hMatch, hFew⟩
  exact ⟨x, hGet, hMatch, Nat.lt_of_lt_of_le hFew hLe⟩

/- Elements that do not match change nothing at the end. -/
theorem isLast_append_iff_of_forall
    {p : α → Bool}
    {ys : List α}
    (hYs : ∀ y ∈ ys, p y = false)
    (k : Nat)
    (xs : List α)
    (i : Nat) :
    IsLast p k (xs ++ ys) i ↔ IsLast p k xs i := by
  have hCount : ys.countP p = 0 := by
    rw [List.countP_eq_zero]
    intro y hMem
    rw [hYs y hMem]
    exact Bool.false_ne_true
  by_cases hLt : i < xs.length
  · unfold IsLast
    rw [List.getElem?_append_left hLt,
      List.drop_append_of_le_length hLt, List.countP_append,
      hCount, Nat.add_zero]
  · constructor
    · rintro ⟨x, hGet, hMatch, -⟩
      rw [List.getElem?_append_right (Nat.le_of_not_lt hLt)]
        at hGet
      rw [hYs x (List.mem_of_getElem? hGet)] at hMatch
      contradiction
    · rintro ⟨x, hGet, -, -⟩
      rw [List.getElem?_eq_none (Nat.le_of_not_lt hLt)]
        at hGet
      contradiction

/- A list with a match has a last one. -/
theorem exists_isLast_one
    {p : α → Bool}
    {xs : List α}
    {x : α}
    (hMem : x ∈ xs)
    (hMatch : p x = true) :
    ∃ i, IsLast p 1 xs i := by
  induction xs using List.reverseRecOn with
  | nil => exact absurd hMem List.not_mem_nil
  | append_singleton xs y ih =>
      cases hNew : p y with
      | true =>
          exact ⟨xs.length,
            (isLast_length_append_iff p 0 xs y).mpr hNew⟩
      | false =>
          have hOld : x ∈ xs := by
            rcases List.mem_append.mp hMem with hOld | hEq
            · exact hOld
            · rw [← List.mem_singleton.mp hEq, hMatch] at hNew
              contradiction
          rcases ih hOld with ⟨i, hLast⟩
          refine ⟨i, ?_⟩
          rw [isLast_append_iff_of_forall]
          · exact hLast
          · intro z hZ
            rw [List.mem_singleton.mp hZ, hNew]

/- A match after the last one would be a later match. -/
theorem IsLast.le
    {p : α → Bool}
    {xs : List α}
    {i j : Nat}
    (hLast : IsLast p 1 xs i)
    {x : α}
    (hGet : xs[j]? = some x)
    (hMatch : p x = true) :
    j ≤ i := by
  by_contra hLt
  rcases hLast with ⟨y, -, -, hFew⟩
  rw [Nat.lt_one_iff, List.countP_eq_zero] at hFew
  apply hFew x _ hMatch
  rw [List.mem_iff_getElem?]
  refine ⟨j - (i + 1), ?_⟩
  have hIndex : i + 1 + (j - (i + 1)) = j := by
    omega
  rw [List.getElem?_drop, hIndex, hGet]

/- There is one last match only. -/
theorem IsLast.unique
    {p : α → Bool}
    {xs : List α}
    {i j : Nat}
    (hLast : IsLast p 1 xs i)
    (hOther : IsLast p 1 xs j) :
    i = j := by
  rcases hLast with ⟨x, hGet, hMatch, hFew⟩
  rcases hOther with ⟨y, hGet', hMatch', hFew'⟩
  have hLe := IsLast.le ⟨x, hGet, hMatch, hFew⟩ hGet' hMatch'
  have hGe := IsLast.le ⟨y, hGet', hMatch', hFew'⟩ hGet hMatch
  exact Nat.le_antisymm hGe hLe

end LastMatches
