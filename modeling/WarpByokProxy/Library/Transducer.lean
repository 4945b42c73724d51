import Mathlib.Data.List.Induction

/-
  Deterministic transducers over arbitrary state, input and
  output types.

  A transducer reads one input at a time, moves to a new
  state and emits a batch of outputs. A run is described by
  the state it ends in, by the batch of every input, and by
  the concatenation of the batches.

  Key definitions include:
    * `Transducer`
    * `Transducer.final`
    * `Transducer.batches`
    * `Transducer.output`
    * `Transducer.filterMapInput`
    * `Transducer.comp`
    * `Transducer.withPast`
    * `Transducer.Congruence`
    * `Transducer.Agree`
    * `Transducer.IsBisimulation`
    * `Trace.Always`

  The rules for reasoning about runs are:
    * `Transducer.run_invariant`
    * `Transducer.output_comp`
    * `Transducer.final_comp`
    * `Transducer.output_filterMapInput`
    * `Transducer.read_output`
    * `Transducer.countP_output_le`
    * `Transducer.congruence_agree`
    * `Transducer.filter_output`
    * `Transducer.output_eq_of_isBisimulation`
    * `Trace.always_append`
-/

------------------------------------------------------------
-- Machines And Runs
------------------------------------------------------------

/-
  A machine that answers each input with a new state and a
  batch of outputs.
-/
structure Transducer (σ α β : Type*) where
  step : σ → α → σ × List β

namespace Transducer

variable {σ τ α β γ : Type*}

/- The state reached after reading a list of inputs. -/
def final
    (M : Transducer σ α β) :
    σ → List α → σ
  | s, [] => s
  | s, x :: xs => M.final (M.step s x).1 xs

/- The batch emitted for each input. -/
def batches
    (M : Transducer σ α β) :
    σ → List α → List (List β)
  | _, [] => []
  | s, x :: xs =>
      (M.step s x).2 :: M.batches (M.step s x).1 xs

/- Everything emitted over a list of inputs, in order. -/
def output
    (M : Transducer σ α β)
    (s : σ)
    (xs : List α) : List β :=
  (M.batches s xs).flatten

@[simp] theorem final_nil
    (M : Transducer σ α β)
    (s : σ) :
    M.final s [] = s := rfl

@[simp] theorem final_cons
    (M : Transducer σ α β)
    (s : σ)
    (x : α)
    (xs : List α) :
    M.final s (x :: xs) = M.final (M.step s x).1 xs := rfl

@[simp] theorem batches_nil
    (M : Transducer σ α β)
    (s : σ) :
    M.batches s [] = [] := rfl

@[simp] theorem batches_cons
    (M : Transducer σ α β)
    (s : σ)
    (x : α)
    (xs : List α) :
    M.batches s (x :: xs) =
      (M.step s x).2 :: M.batches (M.step s x).1 xs := rfl

@[simp] theorem output_nil
    (M : Transducer σ α β)
    (s : σ) :
    M.output s [] = [] := rfl

@[simp] theorem output_cons
    (M : Transducer σ α β)
    (s : σ)
    (x : α)
    (xs : List α) :
    M.output s (x :: xs) =
      (M.step s x).2 ++ M.output (M.step s x).1 xs := by
  simp [output]

theorem output_singleton
    (M : Transducer σ α β)
    (s : σ)
    (x : α) :
    M.output s [x] = (M.step s x).2 := by
  rw [output_cons, output_nil, List.append_nil]

/- Reading two lists in turn reaches the state of the second run. -/
theorem final_append
    (M : Transducer σ α β)
    (s : σ)
    (xs ys : List α) :
    M.final s (xs ++ ys) = M.final (M.final s xs) ys := by
  induction xs generalizing s with
  | nil => rfl
  | cons x xs ih => simp [ih]

/- The second run starts where the first one stopped. -/
theorem batches_append
    (M : Transducer σ α β)
    (s : σ)
    (xs ys : List α) :
    M.batches s (xs ++ ys) =
      M.batches s xs ++ M.batches (M.final s xs) ys := by
  induction xs generalizing s with
  | nil => rfl
  | cons x xs ih => simp [ih]

/- Outputs of consecutive runs are concatenated. -/
theorem output_append
    (M : Transducer σ α β)
    (s : σ)
    (xs ys : List α) :
    M.output s (xs ++ ys) =
      M.output s xs ++ M.output (M.final s xs) ys := by
  simp [output, batches_append]

/- Every input owns exactly one batch. -/
@[simp] theorem length_batches
    (M : Transducer σ α β)
    (s : σ)
    (xs : List α) :
    (M.batches s xs).length = xs.length := by
  induction xs generalizing s with
  | nil => rfl
  | cons x xs ih => simp [ih]

/-
  The batch of the input at position `n` is emitted from the
  state reached on the inputs before it.
-/
theorem getElem?_batches
    (M : Transducer σ α β)
    (s : σ)
    (xs : List α)
    (n : Nat) :
    (M.batches s xs)[n]? =
      xs[n]?.map
        (fun x => (M.step (M.final s (xs.take n)) x).2) := by
  induction xs generalizing s n with
  | nil => simp
  | cons x xs ih =>
      cases n with
      | zero => simp
      | succ n => simp [ih]

/- The first batches belong to the first inputs. -/
theorem take_batches
    (M : Transducer σ α β)
    (s : σ)
    (xs : List α)
    (n : Nat) :
    (M.batches s xs).take n = M.batches s (xs.take n) := by
  induction xs generalizing s n with
  | nil => simp
  | cons x xs ih =>
      cases n with
      | zero => rfl
      | succ n => simp [ih]

/- Later batches are those of a run on the later inputs. -/
theorem drop_batches
    (M : Transducer σ α β)
    (s : σ)
    (xs : List α)
    (n : Nat) :
    (M.batches s xs).drop n =
      M.batches (M.final s (xs.take n)) (xs.drop n) := by
  induction xs generalizing s n with
  | nil => simp
  | cons x xs ih =>
      cases n with
      | zero => rfl
      | succ n => simp [ih]

/-
  Invariant rule. A relation between the inputs read so far,
  the current state and the trace emitted so far holds after
  every run when it holds initially and each step keeps it.
-/
theorem run_invariant
    (M : Transducer σ α β)
    {I : List α → σ → List β → Prop}
    {s : σ}
    (hInit : I [] s [])
    (hStep :
      ∀ xs t trace x, I xs t trace →
        I (xs ++ [x]) (M.step t x).1
          (trace ++ (M.step t x).2))
    (xs : List α) :
    I xs (M.final s xs) (M.output s xs) := by
  induction xs using List.reverseRecOn with
  | nil => exact hInit
  | append_singleton xs x ih =>
      have hNext := hStep xs _ _ x ih
      rw [final_append, output_append]
      simpa using hNext

end Transducer

------------------------------------------------------------
-- Building Machines
------------------------------------------------------------

namespace Transducer

variable {σ τ α β γ : Type*}

/- Translate each input first, skipping the untranslatable. -/
def filterMapInput
    (f : α → Option β)
    (M : Transducer σ β γ) :
    Transducer σ α γ where
  step s x :=
    match f x with
    | none => (s, [])
    | some y => M.step s y

theorem output_filterMapInput
    (f : α → Option β)
    (M : Transducer σ β γ)
    (s : σ)
    (xs : List α) :
    (filterMapInput f M).output s xs =
      M.output s (xs.filterMap f) := by
  induction xs generalizing s with
  | nil => rfl
  | cons x xs ih =>
      cases hf : f x with
      | none => simp [filterMapInput, hf, ← ih]
      | some y => simp [filterMapInput, hf, ← ih]

/- Feed every batch of the first machine to the second one. -/
def comp
    (M : Transducer σ α β)
    (N : Transducer τ β γ) :
    Transducer (σ × τ) α γ where
  step s x :=
    let first := M.step s.1 x
    ((first.1, N.final s.2 first.2),
      N.output s.2 first.2)

@[simp] theorem comp_step
    (M : Transducer σ α β)
    (N : Transducer τ β γ)
    (s : σ × τ)
    (x : α) :
    (comp M N).step s x =
      (((M.step s.1 x).1, N.final s.2 (M.step s.1 x).2),
        N.output s.2 (M.step s.1 x).2) := rfl

theorem output_comp
    (M : Transducer σ α β)
    (N : Transducer τ β γ)
    (s : σ)
    (t : τ)
    (xs : List α) :
    (comp M N).output (s, t) xs =
      N.output t (M.output s xs) := by
  induction xs generalizing s t with
  | nil => rfl
  | cons x xs ih => simp [ih, N.output_append]

/- Each machine reaches the state of its own run. -/
theorem final_comp
    (M : Transducer σ α β)
    (N : Transducer τ β γ)
    (s : σ)
    (t : τ)
    (xs : List α) :
    (comp M N).final (s, t) xs =
      (M.final s xs, N.final t (M.output s xs)) := by
  induction xs generalizing s t with
  | nil => rfl
  | cons x xs ih => simp [ih, N.final_append]

/-
  The machine that remembers all its inputs: the answer to
  an input is a function of that input and of its past.
-/
def withPast
    (f : List α → α → List β) :
    Transducer (List α) α β where
  step past x := (past ++ [x], f past x)

theorem final_withPast
    (f : List α → α → List β)
    (past xs : List α) :
    (withPast f).final past xs = past ++ xs := by
  induction xs generalizing past with
  | nil => simp
  | cons x xs ih =>
      have hStep :
          ((withPast f).step past x).1 = past ++ [x] := rfl
      rw [final_cons, hStep, ih]
      simp

/- Answers to a list of inputs read from the beginning. -/
def answers
    (f : List α → α → List β)
    (xs : List α) : List β :=
  (withPast f).output [] xs

@[simp] theorem answers_nil
    (f : List α → α → List β) :
    answers f [] = [] := rfl

@[simp] theorem answers_append_singleton
    (f : List α → α → List β)
    (xs : List α)
    (x : α) :
    answers f (xs ++ [x]) = answers f xs ++ f xs x := by
  rw [answers, output_append, final_withPast]
  simp [withPast, answers]

/- Inputs that are never answered can be left out at the end. -/
theorem answers_append_of_forall_eq_nil
    {f : List α → α → List β}
    {ys : List α}
    (hSilent : ∀ past, ∀ y ∈ ys, f past y = [])
    (xs : List α) :
    answers f (xs ++ ys) = answers f xs := by
  induction ys using List.reverseRecOn with
  | nil => simp
  | append_singleton ys y ih =>
      have hPrefix :=
        ih (fun past z hMem =>
          hSilent past z (List.mem_append_left _ hMem))
      rw [← List.append_assoc, answers_append_singleton,
        hPrefix, hSilent _ y (by simp), List.append_nil]

end Transducer

------------------------------------------------------------
-- Readings Of Outputs
------------------------------------------------------------

namespace Transducer

variable {σ α β γ : Type*}

/-
  Reading rule. What is read off an output piece by piece,
  and off each batch whatever the state, is read off the
  inputs.
-/
theorem read_output
    {M : Transducer σ α β}
    (read : List β → List γ)
    {ask : α → Option γ}
    (hNil : read [] = [])
    (hAppend :
      ∀ first second,
        read (first ++ second) = read first ++ read second)
    (hStep :
      ∀ s x, read (M.step s x).2 = (ask x).toList)
    (s : σ)
    (xs : List α) :
    read (M.output s xs) = xs.filterMap ask := by
  induction xs generalizing s with
  | nil => exact hNil
  | cons x xs ih =>
      rw [output_cons, hAppend, hStep, ih,
        List.filterMap_cons]
      cases ask x with
      | none => rfl
      | some found => rfl

/-
  Size rule. When no batch counts more than `c`, an output
  counts no more than `c` for each input.
-/
theorem countP_output_le
    {M : Transducer σ α β}
    {p : β → Bool}
    {c : Nat}
    (hStep : ∀ s x, (M.step s x).2.countP p ≤ c)
    (s : σ)
    (xs : List α) :
    (M.output s xs).countP p ≤ c * xs.length := by
  induction xs generalizing s with
  | nil => exact Nat.zero_le _
  | cons x xs ih =>
      rw [output_cons, List.countP_append, List.length_cons,
        Nat.mul_succ, Nat.add_comm]
      exact Nat.add_le_add (ih _) (hStep s x)

end Transducer

------------------------------------------------------------
-- Inputs That Agree
------------------------------------------------------------

namespace Transducer

variable {σ α β : Type*}

/- A relation of lists that holds when it does in parts. -/
structure Congruence
    (R : List β → List β → Prop) : Prop where
  refl : ∀ xs, R xs xs
  append :
    ∀ {xs ys zs ws},
      R xs ys → R zs ws → R (xs ++ zs) (ys ++ ws)

/-
  Lists of inputs that lead to the same state from wherever
  the machine is, and to related outputs.
-/
def Agree
    (M : Transducer σ α β)
    (R : List β → List β → Prop)
    (xs ys : List α) : Prop :=
  ∀ s,
    M.final s xs = M.final s ys ∧
      R (M.output s xs) (M.output s ys)

/-
  Replacement rule. Inputs that agree can replace each other
  within longer inputs, and so on through further machines.
-/
theorem congruence_agree
    {M : Transducer σ α β}
    {R : List β → List β → Prop}
    (hR : Congruence R) :
    Congruence (M.Agree R) where
  refl := fun _ _ => ⟨rfl, hR.refl _⟩
  append := by
    intro xs ys zs ws hFirst hSecond s
    rcases hFirst s with ⟨hFinal, hOutput⟩
    rcases hSecond (M.final s xs) with ⟨hFinal', hOutput'⟩
    rw [final_append, final_append, output_append,
      output_append, ← hFinal]
    exact ⟨hFinal', hR.append hOutput hOutput'⟩

/- Inputs that a machine takes for the same batch agree. -/
theorem agree_of_step
    {M : Transducer σ α β}
    {R : List β → List β → Prop}
    {x : α}
    {ys : List α}
    (hStep :
      ∀ s,
        (M.step s x).1 = M.final s ys ∧
          R (M.step s x).2 (M.output s ys)) :
    M.Agree R [x] ys := by
  intro s
  rw [output_singleton]
  exact hStep s

end Transducer

------------------------------------------------------------
-- Non-Interference
------------------------------------------------------------

namespace Transducer

variable {σ τ α β : Type*}

/-
  Unwinding rule. Two machines run side by side, the second
  one on the seen inputs alone. When a seen input is answered
  alike, and a hidden one neither shows up nor disturbs the
  relation of the states, the seen outputs of the first run
  are the outputs of the second.
-/
theorem filter_output
    {M : Transducer σ α β}
    {N : Transducer τ α β}
    {R : σ → τ → Prop}
    {seen : α → Bool}
    {shown : β → Bool}
    (hSeen :
      ∀ s t x, R s t → seen x = true →
        R (M.step s x).1 (N.step t x).1 ∧
          (M.step s x).2.filter shown = (N.step t x).2)
    (hHidden :
      ∀ s t x, R s t → seen x = false →
        R (M.step s x).1 t ∧
          (M.step s x).2.filter shown = [])
    {s : σ}
    {t : τ}
    (hStates : R s t)
    (xs : List α) :
    (M.output s xs).filter shown =
      N.output t (xs.filter seen) := by
  induction xs generalizing s t with
  | nil => rfl
  | cons x xs ih =>
      rw [output_cons, List.filter_append]
      cases hx : seen x with
      | true =>
          rcases hSeen s t x hStates hx with
            ⟨hNext, hOutput⟩
          rw [hOutput, ih hNext, List.filter_cons_of_pos hx,
            output_cons]
      | false =>
          rcases hHidden s t x hStates hx with
            ⟨hNext, hOutput⟩
          rw [hOutput, ih hNext, List.nil_append,
            List.filter_cons_of_neg (ne_true_of_eq_false hx)]

end Transducer

------------------------------------------------------------
-- Indistinguishable States
------------------------------------------------------------

namespace Transducer

variable {σ τ α β : Type*}

/-
  Related states answer every input alike and move to
  related states.
-/
def IsBisimulation
    (M : Transducer σ α β)
    (N : Transducer τ α β)
    (R : σ → τ → Prop) : Prop :=
  ∀ s t x, R s t →
    R (M.step s x).1 (N.step t x).1 ∧
      (M.step s x).2 = (N.step t x).2

/- Runs from related states emit the same. -/
theorem output_eq_of_isBisimulation
    {M : Transducer σ α β}
    {N : Transducer τ α β}
    {R : σ → τ → Prop}
    (hBisimulation : IsBisimulation M N R)
    {s : σ}
    {t : τ}
    (hStates : R s t)
    (xs : List α) :
    M.output s xs = N.output t xs := by
  induction xs generalizing s t with
  | nil => rfl
  | cons x xs ih =>
      rcases hBisimulation s t x hStates with
        ⟨hNext, hOutput⟩
      rw [output_cons, output_cons, hOutput, ih hNext]

end Transducer

------------------------------------------------------------
-- Past-Time Properties Of Traces
------------------------------------------------------------

namespace Trace

variable {α : Type*}

/-
  Every element of the trace satisfies `P` relative to the
  elements before it.
-/
def Always
    (P : List α → α → Prop)
    (trace : List α) : Prop :=
  ∀ before x after,
    trace = before ++ x :: after → P before x

theorem always_nil
    (P : List α → α → Prop) :
    Always P [] := by
  intro before x after hSplit
  simp at hSplit

/- Extending a trace only asks about the new elements. -/
theorem always_append
    {P : List α → α → Prop}
    {first second : List α} :
    Always P (first ++ second) ↔
      Always P first ∧
        Always (fun before x => P (first ++ before) x)
          second := by
  constructor
  · intro hAll
    constructor
    · intro before x after hSplit
      apply hAll before x (after ++ second)
      simp [hSplit]
    · intro before x after hSplit
      apply hAll (first ++ before) x after
      simp [hSplit]
  · rintro ⟨hFirst, hSecond⟩ before x after hSplit
    rcases List.append_eq_append_iff.mp hSplit with
      ⟨middle, hBefore, hRest⟩ | ⟨middle, hBefore, hRest⟩
    · subst hBefore
      exact hSecond middle x after hRest
    · cases middle with
      | nil =>
          simp only [List.append_nil] at hBefore
          subst hBefore
          simpa using hSecond [] x after hRest.symm
      | cons y middle =>
          obtain ⟨rfl, hAfter⟩ := List.cons.inj hRest
          exact hFirst before x middle hBefore

@[simp] theorem always_singleton
    {P : List α → α → Prop}
    {x : α} :
    Always P [x] ↔ P [] x := by
  constructor
  · intro hAll
    exact hAll [] x [] rfl
  · intro hHead before y after hSplit
    cases before with
    | nil =>
        obtain ⟨rfl, -⟩ := List.cons.inj hSplit
        exact hHead
    | cons z before => simp at hSplit

end Trace
