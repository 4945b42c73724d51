import WarpByokProxy.Adapter.Protocol
import WarpByokProxy.Pump.Interleaving
import WarpByokProxy.Server.Isolation

/-
  What the clients of one server see side by side.

  Every client receives a prefix of the turn that Bedrock's
  reply to its own call makes on a supply of UUIDs of its
  own, and all of it once its pump has stopped and its body
  is read. The turn follows the protocol. The turns of
  different clients have nothing in common: neither task nor
  message, and neither request nor run.

  Key definitions include:
    * `StreamState.ReceivesTurn`
    * `Server.ServesReply`
    * `TurnsApart`
    * `Server.KeepsClientsApart`

  Key theorems include:
    * `receivesTurn_of_run`
    * `messageId_of_mem_turnEvents`
    * `proxyServer_keepsClientsApart`
-/

------------------------------------------------------------
-- Turns Of Clients
------------------------------------------------------------

namespace WarpByokProxy

variable {F Chunk : Type}

/- The ids of the messages that a turn registers. -/
def registeredIds
    (turn : List Wmaa.ResponseEvent) : List String :=
  (Wmaa.addedMessages (Wmaa.actionTrace turn)).map
    Wmaa.Message.id

/-
  The client receives the turn that results make, which
  follows the protocol, up to where the response is.
-/
structure StreamState.ReceivesTurn
    (serde : SerdeJson F)
    (uuids : Nat → String)
    (encodeSseEvent : Wmaa.ResponseEvent → Chunk)
    (opts : UiAdapterOpts)
    (results :
      List
        (Except String (Option Sdk.ConverseStreamOutput)))
    (state : StreamState F Chunk) : Prop where
  protocol :
    Wmaa.FollowsProtocol (UiAdapter.new uuids opts).taskId
      (turnOfResults serde uuids opts results)
  received :
    state.reader.received <+:
      (turnOfResults serde uuids opts results).map
        encodeSseEvent
  complete :
    state.reader.connected = true →
      state.pump.isStopped = true →
        state.body.items = [] →
          state.reader.received =
            (turnOfResults serde uuids opts results).map
              encodeSseEvent

/- The UUIDs that the pump of an exchange draws. -/
def ServerContext.pumpUuids
    (ctx : ServerContext F Chunk)
    (own : Nat × Draw → Nat)
    (i : Nat) : Nat → String :=
  fun n => ctx.uuids (own (i, .pump n))

/-
  An exchange serves what Bedrock replied to its call: the
  turn that these results make, on the exchange's own UUIDs.
-/
def Server.ServesReply
    (ctx : ServerContext F Chunk)
    (events : List ServerEvent)
    (own : Nat × Draw → Nat)
    (i : Nat)
    (opts : UiAdapterOpts)
    (results :
      List
        (Except String (Option Sdk.ConverseStreamOutput)))
    (state : StreamState F Chunk) : Prop :=
  .reply i (.ok results) ∈ events ∧
    state.ReceivesTurn ctx.serde (ctx.pumpUuids own i)
      ctx.encodeSseEvent opts results

/- The ids that two turns use have nothing in common. -/
structure TurnsApart
    (serde : SerdeJson F)
    (uuids others : Nat → String)
    (first second : UiAdapterOpts)
    (results replied :
      List
        (Except String (Option Sdk.ConverseStreamOutput))) :
    Prop where
  requestId : first.requestId ≠ second.requestId
  runId : first.runId ≠ second.runId
  taskId :
    (UiAdapter.new uuids first).taskId ≠
      (UiAdapter.new others second).taskId
  messageIds :
    (registeredIds
        (turnOfResults serde uuids first results)).Disjoint
      (registeredIds
        (turnOfResults serde others second replied))

/-
  Clients are served side by side without mixing anything
  up: each has its own part `own` of the UUID supply, and is
  served the reply to its own call, and no others' ids.
-/
structure Server.KeepsClientsApart
    (ctx : ServerContext F Chunk)
    (events : List ServerEvent)
    (own : Nat × Draw → Nat)
    (server : Server F Chunk) : Prop where
  supplies : Function.Injective own
  served :
    ∀ (i : Nat) opts state,
      server.exchanges[i]? = some (.streaming opts state) →
        ∃ results,
          Server.ServesReply ctx events own i opts results
            state
  apart :
    ∀ (i j : Nat) first second state other results replied,
      i ≠ j →
      server.exchanges[i]? = some (.streaming first state) →
      server.exchanges[j]? = some (.streaming second other) →
        TurnsApart ctx.serde (ctx.pumpUuids own i)
          (ctx.pumpUuids own j) first second results replied

/- The sequential body is the encoded turn. -/
theorem sequentialBody_eq_map
    (serde : SerdeJson F)
    (uuids : Nat → String)
    (encodeSseEvent : Wmaa.ResponseEvent → Chunk)
    (opts : UiAdapterOpts)
    (results :
      List
        (Except String (Option Sdk.ConverseStreamOutput))) :
    sequentialBody serde uuids encodeSseEvent opts results =
      (turnOfResults serde uuids opts results).map
        encodeSseEvent := by
  rw [turnOfResults, sequentialBody, pumpStream_eq_offered,
    Sink.taken_offered_connected]

/- A response that runs alone accounts for its whole turn. -/
theorem accounted_of_run
    {serde : SerdeJson F}
    {uuids : Nat → String}
    {encodeSseEvent : Wmaa.ResponseEvent → Chunk}
    {opts : UiAdapterOpts}
    {results :
      List
        (Except String (Option Sdk.ConverseStreamOutput))}
    {schedule : List StreamActor}
    {state : StreamState F Chunk}
    (hRun :
      (streamTasks serde uuids encodeSseEvent).run schedule
          (.initial uuids opts results) =
        some state) :
    state.Accounted serde uuids encodeSseEvent
      ((turnOfResults serde uuids opts results).map
        encodeSseEvent) := by
  rw [← sequentialBody_eq_map]
  exact
    StreamState.accounted_of_reachable
      (Actors.reachable_of_run hRun)

/- A response that runs alone serves the turn of its tasks. -/
theorem receivesTurn_of_run
    {serde : SerdeJson F}
    {uuids : Nat → String}
    (hUuids : Function.Injective uuids)
    {encodeSseEvent : Wmaa.ResponseEvent → Chunk}
    {opts : UiAdapterOpts}
    {results :
      List
        (Except String (Option Sdk.ConverseStreamOutput))}
    {schedule : List StreamActor}
    {state : StreamState F Chunk}
    (hRun :
      (streamTasks serde uuids encodeSseEvent).run schedule
          (.initial uuids opts results) =
        some state) :
    state.ReceivesTurn serde uuids encodeSseEvent opts
      results := by
  have hAccount := accounted_of_run hRun
  have hConforms :=
    UiAdapter.conforms_output serde uuids opts
      ((StreamAccumulator.machine serde).output .new
        (consumed (drainStream serde results)))
  refine
    { protocol :=
        { opening := ?_
          tasks := hConforms.tasks
          distinct := ?_
          targets := hConforms.targets }
      received := hAccount.received
      complete := ?_ }
  · cases hSent :
        (UiAdapter.stateAfter uuids opts
          ((StreamAccumulator.machine serde).output .new
            (consumed
              (drainStream serde results)))).sentInit with
    | true => exact Or.inr (hConforms.opened hSent)
    | false => exact Or.inl (hConforms.silent hSent).1
  · rw [turnOfResults, turnEvents,
      UiAdapter.addedIds_output]
    exact UiAdapter.mintedIds_nodup hUuids _
  · intro hConnected hStopped hBody
    have hWhole := hAccount.connected hConnected
    rw [hBody, StreamState.pending_of_isStopped hStopped,
      List.nil_append, List.append_nil] at hWhole
    exact hWhole

/- Messages are named after the UUIDs of their own turn. -/
theorem messageId_of_mem_turnEvents
    {serde : SerdeJson F}
    {uuids : Nat → String}
    {opts : UiAdapterOpts}
    {events : List BedrockEvent}
    {id : String}
    (hId :
      id ∈ registeredIds (turnEvents serde uuids opts events)) :
    ∃ n, id = UiAdapter.messageIdOf (uuids n) := by
  rw [registeredIds, turnEvents, UiAdapter.addedIds_output]
    at hId
  rcases List.mem_map.mp hId with ⟨n, -, rfl⟩
  exact ⟨n + 2, rfl⟩

end WarpByokProxy

------------------------------------------------------------
-- Clients Side By Side
------------------------------------------------------------

namespace WarpByokProxy

variable {F Chunk : Type}

/- The pump of an exchange never repeats a UUID. -/
theorem injective_pump
    {uuids : Nat → String}
    (hUuids : Function.Injective uuids)
    {own : Nat × Draw → Nat}
    (hOwn : Function.Injective own)
    (i : Nat) :
    Function.Injective
      (fun n => uuids (own (i, .pump n))) := by
  intro left right hEq
  have hKey := (Prod.mk.inj (hOwn (hUuids hEq))).2
  exact Draw.pump.inj hKey

/-
  In every run of the server each client is served the turn
  of its own call, apart from all others, when the generator
  never repeats a UUID.
-/
theorem proxyServer_keepsClientsApart
    {ctx : ServerContext F Chunk}
    (hUuids : Function.Injective ctx.uuids)
    {events : List ServerEvent}
    {server : Server F Chunk}
    (hRun :
      (proxyServer ctx).run events Server.new =
        some server) :
    ∃ own, server.KeepsClientsApart ctx events own := by
  rcases Server.isolated_of_run hRun with ⟨own, hOwn, hAlone⟩
  refine
    ⟨own,
      { supplies := hOwn
        served := ?_
        apart := ?_ }⟩
  · intro i opts state hExchange
    rcases hAlone i opts state hExchange with
      ⟨-, -, -, results, hReply, hTasks⟩
    exact
      ⟨results, hReply,
        receivesTurn_of_run (injective_pump hUuids hOwn i)
          hTasks⟩
  · intro i j first second state other results replied hNe
      hFirst hSecond
    rcases hAlone i first state hFirst with
      ⟨hRequest, hRunId, -⟩
    rcases hAlone j second other hSecond with
      ⟨hRequest', hRunId', -⟩
    -- No position belongs to both exchanges.
    have hOther :
        ∀ draw draw',
          ctx.uuids (own (i, draw)) ≠
            ctx.uuids (own (j, draw')) := by
      intro draw draw' hEq
      exact hNe (Prod.mk.inj (hOwn (hUuids hEq))).1
    refine
      { requestId := ?_
        runId := ?_
        taskId := ?_
        messageIds := ?_ }
    · rw [hRequest, hRequest']
      intro hEq
      exact
        hOther _ _
          ((String.append_right_inj "req-").mp
            (Option.some.inj hEq))
    · rw [hRunId, hRunId']
      intro hEq
      exact
        hOther _ _
          ((String.append_right_inj "run-").mp
            (Option.some.inj hEq))
    · intro hEq
      exact
        hOther _ _ ((String.append_right_inj "task-").mp hEq)
    · intro id hId hId'
      rcases messageId_of_mem_turnEvents hId with ⟨n, rfl⟩
      rcases messageId_of_mem_turnEvents hId' with ⟨m, hEq⟩
      exact hOther _ _ (UiAdapter.messageIdOf_injective hEq)

theorem proxyServer_keepsClientsApart_two_turns :
    ∃ own,
      serverAfterTurns.KeepsClientsApart greetedServer
        interleavedTurns own :=
  proxyServer_keepsClientsApart numberedUuids_injective
    run_interleavedTurns

end WarpByokProxy
