import Mathlib.Data.List.Basic

/-
  Sinks over arbitrary values.

  A sink records what its reader has taken. The reader may go
  away after some number of values; from then on every send
  fails and leaves the sink as it is. What a sink has taken
  after any number of sends is a prefix of what it was
  offered.

  Key definitions include:
    * `Sink`
    * `Sink.send`
    * `Sink.sendAll`
    * `Sink.offered`

  The rules for reasoning about sends are:
    * `Sink.offered_append`
    * `Sink.offered_of_spent`
    * `Sink.sendAll_cases`
-/

------------------------------------------------------------
-- Sinks
------------------------------------------------------------

/-
  The values taken so far, and how many more the reader will
  take; a reader without a number never goes away.
-/
structure Sink (β : Type*) where
  taken : List β
  patience : Option Nat

namespace Sink

variable {β : Type*}

/- A sink whose reader never goes away. -/
def connected : Sink β where
  taken := []
  patience := none

/- The reader has gone away. -/
def Spent
    (sink : Sink β) : Prop :=
  sink.patience = some 0

/- Offer one value; the send fails when the reader is gone. -/
def send
    (sink : Sink β)
    (x : β) : Except (Sink β) (Sink β) :=
  match sink.patience with
  | none =>
      .ok { taken := sink.taken ++ [x], patience := none }
  | some 0 => .error sink
  | some (n + 1) =>
      .ok { taken := sink.taken ++ [x], patience := some n }

/- Offer values in order, up to the first failure. -/
def sendAll
    (sink : Sink β) :
    List β → Except (Sink β) (Sink β)
  | [] => .ok sink
  | x :: xs =>
      match sink.send x with
      | .error stopped => .error stopped
      | .ok next => next.sendAll xs

end Sink

------------------------------------------------------------
-- Offers
------------------------------------------------------------

namespace Sink

variable {β : Type*}

/- The sink once it has been offered a list of values. -/
def offered
    (sink : Sink β)
    (xs : List β) : Sink β where
  taken :=
    sink.taken ++
      match sink.patience with
      | none => xs
      | some n => xs.take n
  patience := sink.patience.map (fun n => n - xs.length)

@[simp] theorem taken_offered_connected
    (xs : List β) :
    ((connected : Sink β).offered xs).taken = xs := rfl

@[simp] theorem offered_nil
    (sink : Sink β) :
    sink.offered [] = sink := by
  rcases sink with ⟨taken, patience⟩
  cases patience with
  | none => simp [offered]
  | some n => simp [offered]

/- Offering two lists in turn is offering both at once. -/
theorem offered_append
    (sink : Sink β)
    (xs ys : List β) :
    sink.offered (xs ++ ys) =
      (sink.offered xs).offered ys := by
  rcases sink with ⟨taken, patience⟩
  cases patience with
  | none => simp [offered]
  | some n =>
      simp [offered, List.take_append, Nat.sub_sub]

/- A sink without a reader takes nothing. -/
theorem offered_of_spent
    {sink : Sink β}
    (hSpent : sink.Spent)
    (xs : List β) :
    sink.offered xs = sink := by
  rcases sink with ⟨taken, patience⟩
  obtain rfl : patience = some 0 := hSpent
  simp [offered]

/- A send that succeeds takes its value. -/
theorem send_cases
    (sink : Sink β)
    (x : β) :
    sink.send x = .ok (sink.offered [x]) ∨
      sink.send x = .error (sink.offered [x]) ∧
        (sink.offered [x]).Spent := by
  rcases sink with ⟨taken, patience⟩
  cases patience with
  | none => exact Or.inl rfl
  | some n =>
      cases n with
      | zero =>
          right
          simp [send, offered, Spent]
      | succ n =>
          left
          simp [send, offered]

/-
  Sends end in the sink that was offered everything. They
  fail only when the reader is gone by then.
-/
theorem sendAll_cases
    (sink : Sink β)
    (xs : List β) :
    sink.sendAll xs = .ok (sink.offered xs) ∨
      sink.sendAll xs = .error (sink.offered xs) ∧
        (sink.offered xs).Spent := by
  induction xs generalizing sink with
  | nil =>
      left
      rw [offered_nil]
      rfl
  | cons x xs ih =>
      have hOffered :
          sink.offered (x :: xs) =
            (sink.offered [x]).offered xs :=
        offered_append sink [x] xs
      rw [sendAll, hOffered]
      rcases send_cases sink x with hOk | ⟨hError, hSpent⟩
      · rw [hOk]
        exact ih (sink.offered [x])
      · rw [hError, offered_of_spent hSpent]
        exact Or.inr ⟨rfl, hSpent⟩

end Sink
