import WarpByokProxy.Pump.Progress
import WarpByokProxy.Server.Sessions

/-
  Every response can be completed by itself.

  What a response does alone it can also do within the
  server, whatever state the other exchanges are in, and
  without touching them. So a client that reads is served to
  the end, however slow the others are, and after a number of
  steps that is linear in what Bedrock delivers for it.

  Key definitions include:
    * `Server.SuppliesFrom`
    * `Server.Completable`

  Key theorems include:
    * `Server.act_of_step`
    * `Server.run_of_tasks`
    * `proxyServer_completesResponses`
-/

------------------------------------------------------------
-- Steps Of One Response
------------------------------------------------------------

namespace WarpByokProxy

variable {F Chunk : Type}

namespace StreamState

/- Only the loss of the client loses the client. -/
theorem connected_of_step
    {serde : SerdeJson F}
    {uuids : Nat → String}
    {encodeSseEvent : Wmaa.ResponseEvent → Chunk}
    {actor : StreamActor}
    (hActor : actor ≠ .disconnect)
    {state next : StreamState F Chunk}
    (hStep :
      (streamTasks serde uuids encodeSseEvent).step actor
        state = some next) :
    next.reader.connected = state.reader.connected := by
  cases actor with
  | drain => rw [(drainMoves_of_step hStep).reader]
  | pump => cases pumpMoves_of_step hStep <;> rfl
  | reader =>
      rcases readMoves_of_step hStep with
        ⟨chunk, rest, hConnected, -, rfl⟩
      exact hConnected.symm
  | disconnect => exact absurd rfl hActor

/- So does no schedule without it. -/
theorem connected_of_run
    {serde : SerdeJson F}
    {uuids : Nat → String}
    {encodeSseEvent : Wmaa.ResponseEvent → Chunk}
    {schedule : List StreamActor}
    (hSchedule : .disconnect ∉ schedule)
    {state next : StreamState F Chunk}
    (hRun :
      (streamTasks serde uuids encodeSseEvent).run schedule
        state = some next) :
    next.reader.connected = state.reader.connected := by
  induction schedule generalizing state with
  | nil =>
      obtain rfl := Option.some.inj hRun
      rfl
  | cons actor schedule ih =>
      rw [List.mem_cons, not_or] at hSchedule
      rcases Actors.run_cons_eq_some.mp hRun with
        ⟨between, hStep, hRest⟩
      rw [ih hSchedule.2 hRest,
        connected_of_step (Ne.symm hSchedule.1) hStep]

end StreamState

namespace Server

/-
  From what a pump has drawn on, a supply is the server's own,
  as long as no other exchange draws.
-/
def SuppliesFrom
    (ctx : ServerContext F Chunk)
    (server : Server F Chunk)
    (state : StreamState F Chunk)
    (own : Nat → String) : Prop :=
  state.pump.isStopped = false →
    ∀ n, state.minted ≤ n →
      own n = ctx.uuids (server.minted + (n - state.minted))

/- Such a supply there always is. -/
theorem suppliesFrom_shifted
    (ctx : ServerContext F Chunk)
    (server : Server F Chunk)
    (state : StreamState F Chunk) :
    server.SuppliesFrom ctx state (fun n =>
      ctx.uuids (server.minted + (n - state.minted))) :=
  fun _ _ _ => rfl

/- A step of a response alone is one of the server. -/
theorem act_of_step
    {ctx : ServerContext F Chunk}
    {server : Server F Chunk}
    {i : Nat}
    {opts : UiAdapterOpts}
    {state next : StreamState F Chunk}
    (hExchange :
      server.exchanges[i]? = some (.streaming opts state))
    {own : Nat → String}
    (hOwn : server.SuppliesFrom ctx state own)
    {actor : StreamActor}
    (hStep :
      (streamTasks ctx.serde own ctx.encodeSseEvent).step
        actor state = some next) :
    ∃ minted,
      let after : Server F Chunk :=
        { minted := minted
          sent := server.sent
          exchanges :=
            server.exchanges.set i (.streaming opts next) }
      server.act ctx i actor = some after ∧
        after.SuppliesFrom ctx next own := by
  rcases StreamState.step_draws hStep with ⟨drawn, hDraws⟩
  have hRunning :
      drawn = 1 → state.pump.isStopped = false := by
    intro hDrawn
    cases hNext : next.pump.isStopped with
    | false => exact (hDraws.running hNext).1
    | true =>
        -- A pump that has stopped has nothing minted.
        have hMinted := hDraws.minted
        cases hPump : next.pump with
        | running => simp [hPump, PumpTask.isStopped] at hNext
        | stopped =>
            simp [StreamState.minted, hPump] at hMinted
            omega
  have hServer :
      (streamTasks ctx.serde
          (fun n =>
            ctx.uuids (server.minted + (n - state.minted)))
          ctx.encodeSseEvent).step actor state =
        some next := by
    apply hDraws.others
    intro hDrawn
    exact
      (hOwn (hRunning hDrawn) state.minted
        (Nat.le_refl _)).symm
  refine
    ⟨server.minted + (next.minted - state.minted), ?_, ?_⟩
  · unfold Server.act
    simp only [hExchange, hServer, Option.map_some]
  · intro hNext n hn
    rcases hDraws.running hNext with ⟨hBefore, hMinted⟩
    have hPosition :
        server.minted + (n - state.minted) =
          server.minted + (next.minted - state.minted) +
            (n - next.minted) := by
      omega
    rw [hOwn hBefore n (by omega), hPosition]

/- A run of a response alone is one of the server. -/
theorem run_of_tasks
    {ctx : ServerContext F Chunk}
    {server : Server F Chunk}
    {i : Nat}
    {opts : UiAdapterOpts}
    {state next : StreamState F Chunk}
    (hExchange :
      server.exchanges[i]? = some (.streaming opts state))
    {own : Nat → String}
    (hOwn : server.SuppliesFrom ctx state own)
    {schedule : List StreamActor}
    (hRun :
      (streamTasks ctx.serde own ctx.encodeSseEvent).run
        schedule state = some next) :
    ∃ minted,
      (proxyServer ctx).run (schedule.map (.act i)) server =
        some
          { minted := minted
            sent := server.sent
            exchanges :=
              server.exchanges.set i
                (.streaming opts next) } := by
  induction schedule generalizing server state with
  | nil =>
      obtain rfl := Option.some.inj hRun
      rcases List.getElem?_eq_some_iff.mp hExchange with
        ⟨hLength, hEq⟩
      refine ⟨server.minted, ?_⟩
      rw [← hEq, List.set_getElem_self]
      rfl
  | cons actor schedule ih =>
      rcases Actors.run_cons_eq_some.mp hRun with
        ⟨between, hStep, hRest⟩
      rcases act_of_step hExchange hOwn hStep with
        ⟨minted, hAct, hSupplies⟩
      have hLength :=
        (List.getElem?_eq_some_iff.mp hExchange).1
      rcases ih (List.getElem?_set_self hLength) hSupplies
          hRest with ⟨final, hFinal⟩
      refine ⟨final, ?_⟩
      rw [List.map_cons, Actors.run_cons_eq_some]
      refine ⟨_, hAct, ?_⟩
      rw [hFinal, List.set_set]

end Server

end WarpByokProxy

------------------------------------------------------------
-- Complete Responses
------------------------------------------------------------

namespace WarpByokProxy

variable {F Chunk : Type}

/-
  The response of an exchange has taken a limited number of
  steps so far, and can go on by itself until both of its
  tasks have stopped and a client that is still there has all
  of the turn that Bedrock's reply to the exchange's own call
  makes, on its part `own` of the UUID supply. Nothing else
  on the server changes.
-/
structure Server.Completable
    (ctx : ServerContext F Chunk)
    (events : List ServerEvent)
    (server : Server F Chunk)
    (i : Nat)
    (opts : UiAdapterOpts)
    (results :
      List
        (Except String (Option Sdk.ConverseStreamOutput)))
    (state : StreamState F Chunk) : Prop where
  replied : .reply i (.ok results) ∈ events
  bounded :
    (actorsOf i events).length ≤ 9 * results.length + 7
  completes :
    ∃ schedule : List StreamActor, ∃ minted final,
      .disconnect ∉ schedule ∧
        (proxyServer ctx).run (schedule.map (.act i)) server =
          some
            { minted := minted
              sent := server.sent
              exchanges :=
                server.exchanges.set i
                  (.streaming opts final) } ∧
        final.drain.isStopped = true ∧
        final.pump.isStopped = true ∧
        final.reader.connected = state.reader.connected ∧
        ∃ own : Nat × Draw → Nat,
          Function.Injective own ∧
            Wmaa.FollowsProtocol
              (UiAdapter.new (ctx.pumpUuids own i)
                opts).taskId
              (turnOfResults ctx.serde (ctx.pumpUuids own i)
                opts results) ∧
            (state.reader.connected = true →
              final.reader.received =
                (turnOfResults ctx.serde
                  (ctx.pumpUuids own i) opts results).map
                    ctx.encodeSseEvent)

/-
  Its steps alone, none of them the loss of the client, lead
  a response to where no step is left.
-/
theorem Server.exists_run_quiescent
    (ctx : ServerContext F Chunk)
    {server : Server F Chunk}
    {i : Nat}
    {opts : UiAdapterOpts}
    {state : StreamState F Chunk}
    (hExchange :
      server.exchanges[i]? = some (.streaming opts state)) :
    ∃ schedule : List StreamActor, ∃ minted own final,
      .disconnect ∉ schedule ∧
        (proxyServer ctx).run (schedule.map (.act i)) server =
          some
            { minted := minted
              sent := server.sent
              exchanges :=
                server.exchanges.set i
                  (.streaming opts final) } ∧
        final.Quiescent ctx.serde own ctx.encodeSseEvent ∧
        final.reader.connected = state.reader.connected := by
  rcases Actors.exists_run_blocked
      (StreamState.variant_step ctx.serde _
        ctx.encodeSseEvent)
      (fun actor => actor ≠ .disconnect) state with
    ⟨schedule, final, hMembers, hSchedule, hQuiescent⟩
  have hNoLoss : .disconnect ∉ schedule :=
    fun hMem => hMembers _ hMem rfl
  rcases Server.run_of_tasks hExchange
      (Server.suppliesFrom_shifted ctx server state)
      hSchedule with ⟨minted, hLater⟩
  exact
    ⟨schedule, minted, _, final, hNoLoss, hLater, hQuiescent,
      StreamState.connected_of_run hNoLoss hSchedule⟩

/- Steps of tasks are no replies. -/
theorem reply_mem_of_mem_append_acts
    {events : List ServerEvent}
    {i j : Nat}
    {outcome :
      Except String
        (List
          (Except String (Option Sdk.ConverseStreamOutput)))}
    {schedule : List StreamActor}
    (hMem :
      .reply j outcome ∈ events ++ schedule.map (.act i)) :
    .reply j outcome ∈ events := by
  rcases List.mem_append.mp hMem with hBefore | hActs
  · exact hBefore
  · rcases List.mem_map.mp hActs with ⟨actor, -, hEq⟩
    contradiction

/-
  However the exchanges interleave, each response that
  streams can be completed, whatever the others do.
-/
theorem proxyServer_completesResponses
    {ctx : ServerContext F Chunk}
    (hUuids : Function.Injective ctx.uuids)
    {events : List ServerEvent}
    {server : Server F Chunk}
    (hRun :
      (proxyServer ctx).run events Server.new = some server)
    {i : Nat}
    {opts : UiAdapterOpts}
    {state : StreamState F Chunk}
    (hExchange :
      server.exchanges[i]? = some (.streaming opts state)) :
    ∃ results,
      server.Completable ctx events i opts results state := by
  rcases Server.exists_run_quiescent ctx hExchange with
    ⟨schedule, minted, supply, final, hNoLoss, hLater,
      hQuiescent, hSame⟩
  rcases StreamState.isStopped_of_quiescent hQuiescent
    with ⟨hDrain, hPump⟩
  -- The longer run serves the turn, and all of it is read.
  have hWhole :
      (proxyServer ctx).run
          (events ++ schedule.map (.act i)) Server.new =
        some
          { minted := minted
            sent := server.sent
            exchanges :=
              server.exchanges.set i
                (.streaming opts final) } := by
    rw [Actors.run_append, hRun]
    exact hLater
  have hLength :=
    (List.getElem?_eq_some_iff.mp hExchange).1
  rcases Server.isolated_of_run hWhole with
    ⟨own, hOwn, hAlone⟩
  rcases hAlone i opts final
      (List.getElem?_set_self hLength) with
    ⟨-, -, -, results, hReply, hTasks⟩
  have hTurn :=
    receivesTurn_of_run (injective_pump hUuids hOwn i) hTasks
  refine
    ⟨results,
      { replied := reply_mem_of_mem_append_acts hReply
        bounded := ?_
        completes := ?_ }⟩
  · have hSteps := StreamState.length_le_of_run_initial hTasks
    rw [actorsOf_append, List.length_append] at hSteps
    omega
  · refine
      ⟨schedule, minted, final, hNoLoss, hLater, hDrain,
        hPump, hSame, own, hOwn, hTurn.protocol, ?_⟩
    intro hConnected
    rw [← hSame] at hConnected
    exact
      hTurn.complete hConnected hPump
        (StreamState.nothing_left_of_quiescent hQuiescent
          hConnected).1

theorem proxyServer_completesResponses_first_turn :
    ∃ opts state results,
      serverAfterTurns.exchanges[0]? =
          some (.streaming opts state) ∧
        serverAfterTurns.Completable greetedServer
          interleavedTurns 0 opts results state := by
  have hExchange :
      ∃ opts state,
        serverAfterTurns.exchanges[0]? =
          some (.streaming opts state) :=
    ⟨_, _, rfl⟩
  rcases hExchange with ⟨opts, state, hStreaming⟩
  rcases proxyServer_completesResponses
      numberedUuids_injective run_interleavedTurns
      hStreaming with
    ⟨results, hCompletable⟩
  exact ⟨opts, state, results, hStreaming, hCompletable⟩

end WarpByokProxy
