import WarpByokProxy.Pump.Steps
import WarpByokProxy.Server

/-
  What the tasks of a response draw from the supply of UUIDs.

  The translation of a frame draws at most one UUID, the next
  one, and depends on no other. So does every step of a
  response, as long as its pump runs.

  Key definitions include:
    * `DrawsNext`
    * `StreamState.StepDraws`

  Key theorems include:
    * `UiAdapter.translate_draws`
    * `StreamState.step_draws`
-/

------------------------------------------------------------
-- What A Step Draws
------------------------------------------------------------

namespace WarpByokProxy

variable {F Chunk : Type}

/-
  The function draws the given number of UUIDs, and nothing
  but the next ones of the supply counts.
-/
structure DrawsNext
    {α : Type}
    (f : (Nat → String) → α)
    (minted : α → Nat)
    (before : Nat)
    (uuids : Nat → String)
    (drawn : Nat) : Prop where
  minted : minted (f uuids) = before + drawn
  atMost : drawn ≤ 1
  others :
    ∀ own : Nat → String,
      (drawn = 1 → own before = uuids before) →
        f own = f uuids

namespace UiAdapter

/- Registering a message draws one UUID. -/
theorem ensureKindMessage_draws
    (uuids : Nat → String)
    (self : UiAdapter)
    (kind : ActiveKind) :
    ∃ drawn,
      DrawsNext
        (fun own => self.ensureKindMessage own kind)
        (fun ensured => ensured.1.minted) self.minted uuids
        drawn := by
  by_cases hOpen : self.activeKind = some kind
  · refine ⟨0, ?_, Nat.zero_le 1, ?_⟩
    · simp [ensureKindMessage, hOpen]
    · intro own _
      simp [ensureKindMessage, hOpen]
  · refine ⟨1, ?_, Nat.le_refl 1, ?_⟩
    · simp [ensureKindMessage, hOpen]
    · intro own hSame
      simp [ensureKindMessage, hOpen, hSame rfl]

/- So does the translation of a frame that registers one. -/
theorem translateFrame_draws
    (serde : SerdeJson F)
    (uuids : Nat → String)
    (self : UiAdapter)
    (frame : OzResponseFrame F) :
    ∃ drawn,
      DrawsNext
        (fun own => self.translateFrame serde own frame)
        (fun translated => translated.1.minted) self.minted
        uuids drawn := by
  have hEnsured := self.ensureKindMessage_draws uuids
  cases frame with
  | textDelta blockIndex text =>
      rcases hEnsured .agentOutput with ⟨drawn, hDraws⟩
      refine ⟨drawn, hDraws.minted, hDraws.atMost, ?_⟩
      intro own hSame
      simp only [translateFrame, hDraws.others own hSame]
  | thinkingDelta blockIndex text signature =>
      rcases hEnsured .agentReasoning with ⟨drawn, hDraws⟩
      refine ⟨drawn, hDraws.minted, hDraws.atMost, ?_⟩
      intro own hSame
      simp only [translateFrame, hDraws.others own hSame]
  | toolUse blockIndex id name input =>
      rcases hEnsured .toolCall with ⟨drawn, hDraws⟩
      refine ⟨drawn, hDraws.minted, hDraws.atMost, ?_⟩
      intro own hSame
      simp only [translateFrame, hDraws.others own hSame]
  | toolUseInputDelta =>
      exact ⟨0, rfl, Nat.zero_le 1, fun _ _ => rfl⟩
  | blockStop =>
      exact ⟨0, rfl, Nat.zero_le 1, fun _ _ => rfl⟩
  | usageUpdate =>
      exact ⟨0, rfl, Nat.zero_le 1, fun _ _ => rfl⟩
  | done =>
      exact ⟨0, rfl, Nat.zero_le 1, fun _ _ => rfl⟩

/- The opening of a response draws nothing. -/
theorem translate_draws
    (serde : SerdeJson F)
    (uuids : Nat → String)
    (self : UiAdapter)
    (frame : OzResponseFrame F) :
    ∃ drawn,
      DrawsNext (fun own => self.translate serde own frame)
        (fun translated => translated.1.minted) self.minted
        uuids drawn := by
  have hMinted :
      (self.sendPrelude frame).1.minted = self.minted := by
    rw [sendPrelude_fst]
  rcases (self.sendPrelude frame).1.translateFrame_draws
      serde uuids frame with ⟨drawn, hDraws⟩
  rw [hMinted] at hDraws
  refine ⟨drawn, hDraws.minted, hDraws.atMost, ?_⟩
  intro own hSame
  simp only [translate, hDraws.others own hSame]

end UiAdapter

namespace StreamState

/-
  What a step of a response draws. A pump that has stopped
  draws nothing any more; a pump that runs has drawn what it
  had before and what the step adds.
-/
structure StepDraws
    (ctx : ServerContext F Chunk)
    (actor : StreamActor)
    (state next : StreamState F Chunk)
    (uuids : Nat → String)
    (drawn : Nat) : Prop where
  minted : next.minted - state.minted = drawn
  atMost : drawn ≤ 1
  running :
    next.pump.isStopped = false →
      state.pump.isStopped = false ∧
        next.minted = state.minted + drawn
  others :
    ∀ own : Nat → String,
      (drawn = 1 → own state.minted = uuids state.minted) →
        (streamTasks ctx.serde own ctx.encodeSseEvent).step
          actor state = some next

/- A step that leaves the pump's draws alone draws nothing. -/
theorem stepDraws_zero
    {ctx : ServerContext F Chunk}
    {actor : StreamActor}
    {state next : StreamState F Chunk}
    (hPump :
      next.pump.isStopped = true ∨
        next.pump.isStopped = state.pump.isStopped ∧
          next.minted = state.minted)
    (hOthers :
      ∀ own : Nat → String,
        (streamTasks ctx.serde own ctx.encodeSseEvent).step
          actor state = some next)
    (uuids : Nat → String) :
    StepDraws ctx actor state next uuids 0 := by
  refine
    { minted := ?_
      atMost := Nat.zero_le 1
      running := ?_
      others := fun own _ => hOthers own }
  · rcases hPump with hStopped | ⟨-, hMinted⟩
    · cases hState : next.pump with
      | running =>
          simp [hState, PumpTask.isStopped] at hStopped
      | stopped => simp [minted, hState]
    · rw [hMinted]
      exact Nat.sub_self _
  · intro hRunning
    rcases hPump with hStopped | ⟨hSame, hMinted⟩
    · rw [hStopped] at hRunning
      contradiction
    · rw [hSame] at hRunning
      exact ⟨hRunning, hMinted⟩

/- A step of the pump draws what its translation draws. -/
theorem pumpStep_draws
    {ctx : ServerContext F Chunk}
    {uuids : Nat → String}
    {state next : StreamState F Chunk}
    (hStep :
      state.pumpStep ctx.serde uuids ctx.encodeSseEvent =
        some next) :
    ∃ drawn, StepDraws ctx .pump state next uuids drawn := by
  cases pumpMoves_of_step hStep with
  | @translate drain events acc adapter frame =>
      rcases adapter.translate_draws ctx.serde uuids frame
        with ⟨drawn, hDraws⟩
      refine
        ⟨drawn,
          { minted := ?_
            atMost := hDraws.atMost
            running := fun _ => ⟨rfl, hDraws.minted⟩
            others := ?_ }⟩
      · exact
          Nat.sub_eq_of_eq_add
            (hDraws.minted.trans (Nat.add_comm _ _))
      · intro own hSame
        have hOther := hDraws.others own hSame
        simp only [streamTasks, pumpStep]
        rw [hOther]
  -- The other moves do not look at the supply.
  | send =>
      refine ⟨0, stepDraws_zero (Or.inr ?_) ?_ uuids⟩
      · exact ⟨rfl, rfl⟩
      · exact fun _ => hStep
  | handle =>
      refine ⟨0, stepDraws_zero (Or.inr ?_) ?_ uuids⟩
      · exact ⟨rfl, rfl⟩
      · exact fun _ => hStep
  | fail =>
      refine ⟨0, stepDraws_zero (Or.inr ?_) ?_ uuids⟩
      · exact ⟨rfl, rfl⟩
      · exact fun _ => hStep
  | hangUp =>
      refine ⟨0, stepDraws_zero (Or.inl rfl) ?_ uuids⟩
      exact fun _ => hStep
  | finish =>
      refine ⟨0, stepDraws_zero (Or.inl rfl) ?_ uuids⟩
      exact fun _ => hStep
  | close =>
      refine ⟨0, stepDraws_zero (Or.inl rfl) ?_ uuids⟩
      exact fun _ => hStep

/- The other steps draw nothing. -/
theorem step_draws
    {ctx : ServerContext F Chunk}
    {uuids : Nat → String}
    {actor : StreamActor}
    {state next : StreamState F Chunk}
    (hStep :
      (streamTasks ctx.serde uuids ctx.encodeSseEvent).step
        actor state = some next) :
    ∃ drawn, StepDraws ctx actor state next uuids drawn := by
  cases actor with
  | pump => exact pumpStep_draws hStep
  | drain =>
      have hPump : next.pump = state.pump :=
        (drainMoves_of_step hStep).pump
      refine ⟨0, stepDraws_zero (Or.inr ?_) ?_ uuids⟩
      · rw [minted, minted, hPump]
        exact ⟨rfl, rfl⟩
      · exact fun _ => hStep
  | reader =>
      rcases readMoves_of_step hStep with
        ⟨chunk, rest, -, -, rfl⟩
      refine ⟨0, stepDraws_zero (Or.inr ?_) ?_ uuids⟩
      · exact ⟨rfl, rfl⟩
      · exact fun _ => hStep
  | disconnect =>
      rcases disconnectMoves_of_step hStep with ⟨-, rfl⟩
      refine ⟨0, stepDraws_zero (Or.inr ?_) ?_ uuids⟩
      · exact ⟨rfl, rfl⟩
      · exact fun _ => hStep

end StreamState

end WarpByokProxy
