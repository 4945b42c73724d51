import Mathlib.Data.List.Induction
import Mathlib.Data.List.SplitBy

/-
  Maximal runs: the split of a list into the longest blocks
  of neighbours that share a key.

  A list that grows at its end either starts a new run or
  extends the last one. This is the view that a machine
  reading the list one element at a time has of its runs.

  Key definitions include:
    * `Runs.of`

  Key theorems include:
    * `Runs.of_append_singleton_of_ne`
    * `Runs.of_append_singleton_of_eq`
    * `Runs.of_filterMap`
    * `Runs.length_append_singleton`
    * `Runs.length_lt_of_key_ne`
    * `Runs.flatMap_eq_flatMap_iff`
-/

------------------------------------------------------------
-- Splitting Into Runs
------------------------------------------------------------

namespace Runs

variable {α κ : Type*} [DecidableEq κ]

/- The maximal runs of equal keys, in order. -/
def of
    (key : α → κ)
    (xs : List α) : List (List α) :=
  xs.splitBy (fun x y => key x == key y)

@[simp] theorem of_nil
    (key : α → κ) :
    of key [] = [] := rfl

@[simp] theorem flatten_of
    (key : α → κ)
    (xs : List α) :
    (of key xs).flatten = xs :=
  List.flatten_splitBy _ xs

/- No run is empty. -/
theorem ne_nil_of_mem_of
    {key : α → κ}
    {xs run : List α}
    (hRun : run ∈ of key xs) :
    run ≠ [] :=
  List.ne_nil_of_mem_splitBy hRun

/- A run has one key. -/
theorem key_eq_of_mem_of
    {key : α → κ}
    {xs run : List α}
    (hRun : run ∈ of key xs) :
    run.Pairwise (fun x y => key x = key y) := by
  have hChain := List.isChain_of_mem_splitBy hRun
  simp only [beq_iff_eq] at hChain
  have : IsTrans α (fun x y => key x = key y) :=
    ⟨fun _ _ _ hLeft hRight => hLeft.trans hRight⟩
  exact hChain.pairwise

/- An element whose key differs from the last opens a run. -/
theorem of_append_singleton_of_ne
    (key : α → κ)
    {xs : List α}
    {x : α}
    (hNe : ∀ last ∈ xs.getLast?, key last ≠ key x) :
    of key (xs ++ [x]) = of key xs ++ [[x]] := by
  have hSplit :
      of key (xs ++ [x]) = of key xs ++ of key [x] := by
    apply List.splitBy_append
    intro last hLast y hHead
    obtain rfl : x = y := by
      simpa using hHead
    exact beq_eq_false_iff_ne.mpr (hNe last hLast)
  exact hSplit

/- An element with the key of the last extends its run. -/
theorem of_append_singleton_of_eq
    (key : α → κ)
    {xs : List α}
    {last x : α}
    (hLast : xs.getLast? = some last)
    (hEq : key last = key x) :
    ∃ front run,
      of key xs = front ++ [run] ∧
        run.getLast? = some last ∧
        of key (xs ++ [x]) = front ++ [run ++ [x]] := by
  have hNonempty : of key xs ≠ [] := by
    intro hNil
    have hFlatten := flatten_of key xs
    rw [hNil] at hFlatten
    rw [← hFlatten] at hLast
    simp at hLast
  rcases List.eq_nil_or_concat (of key xs) with
    hNil | ⟨front, run, hRuns⟩
  · exact (hNonempty hNil).elim
  · rw [List.concat_eq_append] at hRuns
    have hFlatten : xs = front.flatten ++ run := by
      simpa [hRuns] using (flatten_of key xs).symm
    have hMem : run ∈ of key xs := by
      simp [hRuns]
    have hRun := ne_nil_of_mem_of hMem
    have hRunLast : run.getLast? = some last := by
      rw [hFlatten, List.getLast?_append_of_ne_nil _ hRun]
        at hLast
      exact hLast
    refine ⟨front, run, hRuns, hRunLast, ?_⟩
    rcases List.splitBy_eq_iff.mp hRuns with
      ⟨-, hNoNil, hChains, hBreaks⟩
    apply List.splitBy_eq_iff.mpr
    refine ⟨by simp [hFlatten], ?_, ?_, ?_⟩
    · intro hMem
      rcases List.mem_append.mp hMem with hFront | hTail
      · exact hNoNil (List.mem_append_left _ hFront)
      · simp at hTail
    · intro block hBlock
      rcases List.mem_append.mp hBlock with hFront | hTail
      · exact hChains block (List.mem_append_left _ hFront)
      · obtain rfl := List.mem_singleton.mp hTail
        apply List.isChain_append.mpr
        refine
          ⟨hChains run (by simp),
            List.isChain_singleton x, ?_⟩
        intro y hY z hZ
        rw [hRunLast] at hY
        obtain rfl := Option.mem_some_iff.mp hY
        obtain rfl : x = z := by
          simpa using hZ
        simpa using hEq
    · rw [List.isChain_append] at hBreaks ⊢
      refine ⟨hBreaks.1, List.isChain_singleton _, ?_⟩
      intro block hBlock next hNext
      obtain rfl : run ++ [x] = next := by
        simpa using hNext
      rcases hBreaks.2.2 block hBlock run (by simp) with
        ⟨hBlockNe, hRunNe, hKeys⟩
      refine ⟨hBlockNe, by simp, ?_⟩
      rw [List.head_append_of_ne_nil hRunNe]
      exact hKeys

/- The last image is the image of the last element. -/
theorem getLast?_filterMap_of_getLast?
    {β : Type*}
    {f : α → Option β}
    {xs : List α}
    {last : α}
    {y : β}
    (hLast : xs.getLast? = some last)
    (hImage : f last = some y) :
    (xs.filterMap f).getLast? = some y := by
  rcases List.getLast?_eq_some_iff.mp hLast with
    ⟨init, hSplit⟩
  simp [hSplit, hImage]

/- An image with the key before it extends the last run. -/
theorem of_filterMap_append_of_eq
    {β : Type*}
    (key : β → κ)
    {f : α → Option β}
    {xs : List α}
    {last x : α}
    {z y : β}
    (hRuns :
      of key (xs.filterMap f) =
        (of (fun x => (f x).map key) xs).map
          (List.filterMap f))
    (hLast : xs.getLast? = some last)
    (hLastImage : f last = some z)
    (hImage : f x = some y)
    (hEq : key z = key y) :
    of key (xs.filterMap f ++ [y]) =
      (of (fun x => (f x).map key) (xs ++ [x])).map
        (List.filterMap f) := by
  have hImageLast :=
    getLast?_filterMap_of_getLast? hLast hLastImage
  have hSameKey : (f last).map key = (f x).map key := by
    rw [hLastImage, hImage, Option.map_some, hEq,
      Option.map_some]
  rcases of_append_singleton_of_eq key hImageLast hEq with
    ⟨front, run, hOld, -, hNew⟩
  rcases of_append_singleton_of_eq
      (fun x => (f x).map key) hLast hSameKey with
    ⟨front', run', hOld', -, hNew'⟩
  rw [hOld, hOld', List.map_append] at hRuns
  rcases List.append_inj' hRuns rfl with ⟨hFront, hRun⟩
  have hSameRun : run = run'.filterMap f := by
    simpa using hRun
  rw [hNew, hNew', hFront, hSameRun]
  simp [hImage]

/- An image with another key begins a run. -/
theorem of_filterMap_append_of_ne
    {β : Type*}
    (key : β → κ)
    {f : α → Option β}
    {xs : List α}
    {last x : α}
    {z y : β}
    (hRuns :
      of key (xs.filterMap f) =
        (of (fun x => (f x).map key) xs).map
          (List.filterMap f))
    (hLast : xs.getLast? = some last)
    (hLastImage : f last = some z)
    (hImage : f x = some y)
    (hNe : key z ≠ key y) :
    of key (xs.filterMap f ++ [y]) =
      (of (fun x => (f x).map key) (xs ++ [x])).map
        (List.filterMap f) := by
  have hImagesNe :
      ∀ held ∈ (xs.filterMap f).getLast?,
        key held ≠ key y := by
    intro held hHeld
    rw [getLast?_filterMap_of_getLast? hLast hLastImage,
      Option.mem_some_iff] at hHeld
    rw [← hHeld]
    exact hNe
  have hKeysNe :
      ∀ held ∈ xs.getLast?,
        (f held).map key ≠ (f x).map key := by
    intro held hHeld
    rw [hLast, Option.mem_some_iff] at hHeld
    rw [← hHeld, hLastImage, hImage]
    simpa using hNe
  rw [of_append_singleton_of_ne key hImagesNe,
    of_append_singleton_of_ne
      (fun x => (f x).map key) hKeysNe,
    hRuns]
  simp [hImage]

/-
  Mapping every element of a list maps its runs, where the
  key of an element is the key of its image.
-/
theorem of_filterMap
    {β : Type*}
    (key : β → κ)
    {f : α → Option β}
    {xs : List α}
    (hAll : ∀ x ∈ xs, (f x).isSome) :
    of key (xs.filterMap f) =
      (of (fun x => (f x).map key) xs).map
        (List.filterMap f) := by
  induction xs using List.reverseRecOn with
  | nil => rfl
  | append_singleton xs x ih =>
      have hRuns := ih (fun z hMem =>
        hAll z (List.mem_append_left _ hMem))
      rcases Option.isSome_iff_exists.mp
          (hAll x (by simp)) with
        ⟨y, hImage⟩
      have hImages :
          (xs ++ [x]).filterMap f =
            xs.filterMap f ++ [y] := by
        simp [hImage]
      rw [hImages]
      cases hLast : xs.getLast? with
      | none =>
          rw [List.getLast?_eq_none_iff] at hLast
          subst hLast
          simp [of, List.splitBy, List.splitBy.loop, hImage]
      | some last =>
          rcases Option.isSome_iff_exists.mp
              (hAll last (by
                simp [List.mem_of_getLast? hLast])) with
            ⟨z, hLastImage⟩
          by_cases hEq : key z = key y
          · exact
              of_filterMap_append_of_eq key hRuns hLast
                hLastImage hImage hEq
          · exact
              of_filterMap_append_of_ne key hRuns hLast
                hLastImage hImage hEq

end Runs

------------------------------------------------------------
-- Counting Runs
------------------------------------------------------------

namespace Runs

variable {α κ : Type*} [DecidableEq κ]

/- A new element adds a run unless it extends the last one. -/
theorem length_append_singleton
    (key : α → κ)
    (xs : List α)
    (x : α) :
    (of key (xs ++ [x])).length =
      if xs.getLast?.map key = some (key x) then
        (of key xs).length
      else
        (of key xs).length + 1 := by
  by_cases hSame : xs.getLast?.map key = some (key x)
  · rcases Option.map_eq_some_iff.mp hSame with
      ⟨last, hLast, hEq⟩
    rcases of_append_singleton_of_eq key hLast hEq with
      ⟨front, run, hRuns, -, hExtended⟩
    simp [hSame, hRuns, hExtended]
  · have hNe : ∀ last ∈ xs.getLast?, key last ≠ key x := by
      intro last hLast hEq
      apply hSame
      rw [Option.mem_def.mp hLast, Option.map_some, hEq]
    simp [hSame, of_append_singleton_of_ne key hNe]

/- The number of runs depends on the keys alone. -/
theorem length_of_map
    (key : α → κ)
    (xs : List α) :
    (of id (xs.map key)).length = (of key xs).length := by
  induction xs using List.reverseRecOn with
  | nil => rfl
  | append_singleton xs x ih =>
      rw [List.map_append, List.map_singleton,
        length_append_singleton, length_append_singleton,
        ih, List.getLast?_map, Option.map_map]
      rfl

theorem length_le_append
    (key : α → κ)
    (xs ys : List α) :
    (of key xs).length ≤ (of key (xs ++ ys)).length := by
  induction ys using List.reverseRecOn with
  | nil => simp
  | append_singleton ys y ih =>
      rw [← List.append_assoc, length_append_singleton]
      split_ifs
      · exact ih
      · omega

/- A later element with another key starts a later run. -/
theorem length_lt_of_key_ne
    {key : α → κ}
    {xs ys : List α}
    {x y : α}
    (hMem : y ∈ ys)
    (hNe : key y ≠ key x) :
    (of key (xs ++ [x])).length <
      (of key (xs ++ [x] ++ ys)).length := by
  induction ys generalizing xs x with
  | nil => simp at hMem
  | cons z ys ih =>
      have hSplit :
          xs ++ [x] ++ z :: ys = (xs ++ [x]) ++ [z] ++ ys := by
        simp
      rw [hSplit]
      by_cases hSame : key z = key x
      · have hTail : y ∈ ys := by
          rcases List.mem_cons.mp hMem with hHead | hTail
          · exact (hNe (hHead ▸ hSame)).elim
          · exact hTail
        have hLater :
            (of key (xs ++ [x] ++ [z])).length <
              (of key (xs ++ [x] ++ [z] ++ ys)).length :=
          ih hTail (by rw [hSame]; exact hNe)
        have hGrows :=
          length_append_singleton key (xs ++ [x]) z
        have hKeep :
            (xs ++ [x]).getLast?.map key = some (key z) := by
          simp [hSame]
        rw [if_pos hKeep] at hGrows
        omega
      · have hGrows :=
          length_append_singleton key (xs ++ [x]) z
        have hOpens :
            (xs ++ [x]).getLast?.map key ≠ some (key z) := by
          simpa using fun hEq => hSame hEq.symm
        rw [if_neg hOpens] at hGrows
        have hLater :=
          length_le_append key (xs ++ [x] ++ [z]) ys
        omega

end Runs

------------------------------------------------------------
-- What Blocks Contribute
------------------------------------------------------------

namespace Runs

variable {α β : Type*}

/- Contributions that are never longer sum up to no more. -/
theorem length_flatMap_le
    {f g : α → List β}
    {xs : List α}
    (hLe : ∀ x ∈ xs, (f x).length ≤ (g x).length) :
    (xs.flatMap f).length ≤ (xs.flatMap g).length := by
  induction xs with
  | nil => exact Nat.le_refl 0
  | cons x xs ih =>
      rw [List.forall_mem_cons] at hLe
      have hTail := ih hLe.2
      have hHead := hLe.1
      rw [List.flatMap_cons, List.flatMap_cons,
        List.length_append, List.length_append]
      omega

/-
  Where no block ever contributes more, the contributions
  are the same in all only if they are the same in each.
-/
theorem flatMap_eq_flatMap_iff
    {f g : α → List β}
    {xs : List α}
    (hLe : ∀ x ∈ xs, (f x).length ≤ (g x).length) :
    xs.flatMap f = xs.flatMap g ↔ ∀ x ∈ xs, f x = g x := by
  induction xs with
  | nil => simp
  | cons x xs ih =>
      rw [List.forall_mem_cons] at hLe
      rw [List.forall_mem_cons, ← ih hLe.2,
        List.flatMap_cons, List.flatMap_cons]
      constructor
      · intro hEq
        have hLength := congrArg List.length hEq
        have hTail := length_flatMap_le hLe.2
        have hHead := hLe.1
        rw [List.length_append, List.length_append]
          at hLength
        exact List.append_inj hEq (by omega)
      · rintro ⟨hHead, hTail⟩
        rw [hHead, hTail]

end Runs
