import Mathlib.Data.List.Basic
import Mathlib.Data.List.Induction
import Mathlib.Logic.Relation

/-
  Actors that exchange values over bounded channels.

  A channel is a first-in first-out queue of limited length.
  A system gives every actor at most one step in each state;
  an actor without a step is blocked or done. Its runs take
  the steps in any order.

  Key definitions include:
    * `Channel`
    * `Channel.send?`
    * `Channel.recv?`
    * `Actors`
    * `Actors.Reachable`
    * `Actors.Blocked`
    * `Actors.run`

  The rules for reasoning about runs are:
    * `Actors.Reachable.invariant`
    * `Actors.Reachable.simulate`
    * `Actors.run_invariant`
    * `Actors.length_le_of_run`
    * `Actors.exists_run_blocked`
    * `Channel.items_send?`
    * `Channel.items_recv?`
-/

------------------------------------------------------------
-- Bounded Channels
------------------------------------------------------------

/- The values in flight, oldest first. -/
structure Channel (α : Type*) (capacity : Nat) where
  items : List α
  bounded : items.length ≤ capacity

namespace Channel

variable {α : Type*} {capacity : Nat}

/- Nothing is in flight. -/
def empty : Channel α capacity where
  items := []
  bounded := Nat.zero_le capacity

/- Put a value in flight, unless the channel is full. -/
def send?
    (channel : Channel α capacity)
    (x : α) : Option (Channel α capacity) :=
  if hRoom : channel.items.length < capacity then
    some
      { items := channel.items ++ [x]
        bounded := by
          rw [List.length_append]
          exact hRoom }
  else
    none

/- Take the oldest value, unless there is none. -/
def recv?
    (channel : Channel α capacity) :
    Option (α × Channel α capacity) :=
  match channel with
  | { items := [], .. } => none
  | { items := x :: xs, bounded } =>
      some (x,
        { items := xs
          bounded := Nat.le_of_succ_le bounded })

/- A value that is sent comes last. -/
theorem items_send?
    {channel next : Channel α capacity}
    {x : α}
    (hSend : channel.send? x = some next) :
    next.items = channel.items ++ [x] := by
  unfold send? at hSend
  by_cases hRoom : channel.items.length < capacity
  · rw [dif_pos hRoom, Option.some.injEq] at hSend
    rw [← hSend]
  · rw [dif_neg hRoom] at hSend
    contradiction

/- Sends block on full channels only. -/
theorem length_eq_of_send?_eq_none
    {channel : Channel α capacity}
    {x : α}
    (hSend : channel.send? x = none) :
    channel.items.length = capacity := by
  unfold send? at hSend
  by_cases hRoom : channel.items.length < capacity
  · rw [dif_pos hRoom] at hSend
    contradiction
  · exact Nat.le_antisymm channel.bounded
      (Nat.le_of_not_lt hRoom)

/- The value that is taken came first. -/
theorem items_recv?
    {channel next : Channel α capacity}
    {x : α}
    (hRecv : channel.recv? = some (x, next)) :
    channel.items = x :: next.items := by
  rcases channel with ⟨items, hBounded⟩
  cases items with
  | nil => simp [recv?] at hRecv
  | cons y ys =>
      simp only [recv?, Option.some.injEq,
        Prod.mk.injEq] at hRecv
      rw [hRecv.1, ← hRecv.2]

/- Receives block on empty channels only. -/
theorem items_of_recv?_eq_none
    {channel : Channel α capacity}
    (hRecv : channel.recv? = none) :
    channel.items = [] := by
  rcases channel with ⟨items, hBounded⟩
  cases items with
  | nil => rfl
  | cons y ys => simp [recv?] at hRecv

end Channel

------------------------------------------------------------
-- Interleavings
------------------------------------------------------------

/- The next step of every actor, in every state. -/
structure Actors (ι σ : Type*) where
  step : ι → σ → Option σ

namespace Actors

variable {ι σ : Type*}

/- Some actor takes its step. -/
def Step
    (system : Actors ι σ)
    (s t : σ) : Prop :=
  ∃ actor, system.step actor s = some t

/- A state that some interleaving of steps leads to. -/
def Reachable
    (system : Actors ι σ)
    (s t : σ) : Prop :=
  Relation.ReflTransGen system.Step s t

/- The actor has no step. -/
def Blocked
    (system : Actors ι σ)
    (actor : ι)
    (s : σ) : Prop :=
  system.step actor s = none

/-
  Invariant rule. What holds at the start and is kept by the
  step of every actor holds after every interleaving.
-/
theorem Reachable.invariant
    {system : Actors ι σ}
    {I : σ → Prop}
    (hStep :
      ∀ actor s t,
        I s → system.step actor s = some t → I t)
    {s t : σ}
    (hReach : system.Reachable s t)
    (hInit : I s) :
    I t := by
  induction hReach with
  | refl => exact hInit
  | tail _ hLast ih =>
      rcases hLast with ⟨actor, hActor⟩
      exact hStep actor _ _ ih hActor

/-
  Simulation rule. When a run of the other system answers
  every step from related states, and leads to related
  states again, it answers every run.
-/
theorem Reachable.simulate
    {κ τ : Type*}
    {system : Actors ι σ}
    {other : Actors κ τ}
    {R : σ → τ → Prop}
    (hStep :
      ∀ actor s next t,
        R s t → system.step actor s = some next →
          ∃ u, other.Reachable t u ∧ R next u)
    {s s' : σ}
    {t : τ}
    (hReach : system.Reachable s s')
    (hInit : R s t) :
    ∃ t', other.Reachable t t' ∧ R s' t' := by
  induction hReach with
  | refl => exact ⟨t, Relation.ReflTransGen.refl, hInit⟩
  | tail _ hLast ih =>
      rcases hLast with ⟨actor, hActor⟩
      rcases ih with ⟨u, hBefore, hRelated⟩
      rcases hStep actor _ _ u hRelated hActor with
        ⟨t', hAnswer, hNext⟩
      exact ⟨t', hBefore.trans hAnswer, hNext⟩

end Actors

------------------------------------------------------------
-- Schedules
------------------------------------------------------------

namespace Actors

variable {ι σ : Type*}

/-
  The state after the actors of a schedule have stepped in
  turn, unless one of them has no step when it is due.
-/
def run
    (system : Actors ι σ) :
    List ι → σ → Option σ
  | [], s => some s
  | actor :: schedule, s =>
      (system.step actor s).bind (system.run schedule)

@[simp] theorem run_nil
    (system : Actors ι σ)
    (s : σ) :
    system.run [] s = some s := rfl

theorem run_cons_eq_some
    {system : Actors ι σ}
    {actor : ι}
    {schedule : List ι}
    {s t : σ} :
    system.run (actor :: schedule) s = some t ↔
      ∃ next, system.step actor s = some next ∧
        system.run schedule next = some t :=
  Option.bind_eq_some_iff

/- A schedule goes on in the state that the first part leaves. -/
theorem run_append
    (system : Actors ι σ)
    (first second : List ι)
    (s : σ) :
    system.run (first ++ second) s =
      (system.run first s).bind (system.run second) := by
  induction first generalizing s with
  | nil => rfl
  | cons actor first ih =>
      rw [List.cons_append, run, run]
      cases system.step actor s with
      | none => rfl
      | some next => exact ih next

/- The last actor steps in the state that the others leave. -/
theorem run_append_singleton
    (system : Actors ι σ)
    (schedule : List ι)
    (actor : ι)
    (s : σ) :
    system.run (schedule ++ [actor]) s =
      (system.run schedule s).bind (system.step actor) := by
  have hLast : system.run [actor] = system.step actor := by
    funext t
    rw [run]
    cases system.step actor t with
    | none => rfl
    | some next => rfl
  rw [run_append, hLast]

/-
  Invariant rule with a past. What holds of nothing and the
  start, and is kept by every step together with the schedule
  so far, holds after every schedule.
-/
theorem run_invariant
    {system : Actors ι σ}
    {I : List ι → σ → Prop}
    {s : σ}
    (hInit : I [] s)
    (hStep :
      ∀ schedule actor t next,
        I schedule t → system.step actor t = some next →
          I (schedule ++ [actor]) next)
    {schedule : List ι}
    {t : σ}
    (hRun : system.run schedule s = some t) :
    I schedule t := by
  induction schedule using List.reverseRecOn generalizing t with
  | nil =>
      obtain rfl := Option.some.inj hRun
      exact hInit
  | append_singleton schedule actor ih =>
      rw [run_append_singleton, Option.bind_eq_some_iff]
        at hRun
      rcases hRun with ⟨before, hBefore, hLast⟩
      exact hStep schedule actor before t (ih hBefore) hLast

/- What a schedule leads to is reachable. -/
theorem reachable_of_run
    {system : Actors ι σ}
    {schedule : List ι}
    {s t : σ}
    (hRun : system.run schedule s = some t) :
    system.Reachable s t := by
  induction schedule generalizing s with
  | nil =>
      obtain rfl := Option.some.inj hRun
      exact Relation.ReflTransGen.refl
  | cons actor schedule ih =>
      rcases run_cons_eq_some.mp hRun with
        ⟨next, hStep, hRest⟩
      apply Relation.ReflTransGen.head ⟨actor, hStep⟩
      exact ih hRest

/-
  Variant rule. When every step lowers a variant, a schedule
  is no longer than the variant has room for.
-/
theorem length_le_of_run
    {system : Actors ι σ}
    {variant : σ → Nat}
    (hStep :
      ∀ actor s t,
        system.step actor s = some t →
          variant t < variant s)
    {schedule : List ι}
    {s t : σ}
    (hRun : system.run schedule s = some t) :
    schedule.length + variant t ≤ variant s := by
  induction schedule generalizing s with
  | nil =>
      obtain rfl := Option.some.inj hRun
      exact Nat.le_of_eq (Nat.zero_add _)
  | cons actor schedule ih =>
      rcases run_cons_eq_some.mp hRun with
        ⟨next, hFirst, hRest⟩
      have hLess := hStep actor s next hFirst
      have hLater := ih hRest
      rw [List.length_cons]
      omega

/-
  Progress rule. When every step lowers a variant, any group
  of actors can go on by itself until it is blocked.
-/
theorem exists_run_blocked
    {system : Actors ι σ}
    {variant : σ → Nat}
    (hStep :
      ∀ actor s t,
        system.step actor s = some t →
          variant t < variant s)
    (group : ι → Prop)
    (s : σ) :
    ∃ schedule t,
      (∀ actor ∈ schedule, group actor) ∧
        system.run schedule s = some t ∧
        ∀ actor, group actor → system.Blocked actor t := by
  induction hVariant : variant s using Nat.strongRecOn
    generalizing s with
  | _ n ih =>
      by_cases hStuck :
          ∀ actor, group actor → system.Blocked actor s
      · refine ⟨[], s, ?_, rfl, hStuck⟩
        intro actor hMem
        exact absurd hMem List.not_mem_nil
      · push Not at hStuck
        rcases hStuck with ⟨actor, hGroup, hMoves⟩
        rcases Option.ne_none_iff_exists'.mp hMoves with
          ⟨next, hNext⟩
        have hLess := hStep actor s next hNext
        rw [hVariant] at hLess
        rcases ih (variant next) hLess next rfl with
          ⟨schedule, t, hMembers, hRun, hBlocked⟩
        refine ⟨actor :: schedule, t, ?_, ?_, hBlocked⟩
        · exact List.forall_mem_cons.mpr ⟨hGroup, hMembers⟩
        · exact run_cons_eq_some.mpr ⟨next, hNext, hRun⟩

end Actors
