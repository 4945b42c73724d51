import WarpByokProxy.History.SdkMessages
import WarpByokProxy.Library.SharedSupply
import WarpByokProxy.Server.Ownership
import Mathlib.Data.Nat.Pairing

/-
  Responses that stream side by side do not interfere.

  All exchanges draw their UUIDs from one supply. Seen from
  one exchange, a run of the server is a run of its tasks
  alone on a supply of its own, and the supplies of different
  exchanges have no position in common.

  Key definitions include:
    * `Server.Isolated`

  Key theorems include:
    * `eq_of_drawn`
    * `proxyServer_isolated`
-/

------------------------------------------------------------
-- Exchanges Alone
------------------------------------------------------------

namespace WarpByokProxy

variable {F Chunk : Type}

/-
  Each exchange has a supply of UUIDs of its own, and no two
  supplies have a position in common. Its session is named
  from its own supply, and its response is a run of its tasks
  alone on that supply.
-/
def Server.Isolated
    (ctx : ServerContext F Chunk)
    (events : List ServerEvent)
    (server : Server F Chunk) : Prop :=
  ∃ own : Nat × Draw → Nat,
    Function.Injective own ∧
      ∀ i opts state,
        server.exchanges[i]? =
            some (.streaming opts state) →
          let uuidOf := fun draw => ctx.uuids (own (i, draw))
          opts.requestId =
              some ("req-" ++ uuidOf .request) ∧
            opts.runId = some ("run-" ++ uuidOf .run) ∧
            ((∃ given ≠ "",
                opts.conversationId = some given) ∨
              opts.conversationId =
                some ("conv-" ++ uuidOf .conversation)) ∧
            ∃ results,
              .reply i (.ok results) ∈ events ∧
                (streamTasks ctx.serde
                    (fun n => uuidOf (.pump n))
                    ctx.encodeSseEvent).run
                    (actorsOf i events)
                    (.initial (fun n => uuidOf (.pump n))
                      opts results) =
                  some state

/- Keys of draws, numbered. -/
def drawCode
    (key : Nat × Draw) : Nat :=
  Nat.pair key.1 key.2.code

theorem drawCode_injective :
    Function.Injective drawCode := by
  rintro ⟨i, first⟩ ⟨j, second⟩ hEq
  rcases Nat.pair_eq_pair.mp hEq with ⟨hExchange, hCode⟩
  rw [Prod.mk.injEq]
  exact ⟨hExchange, Draw.code_injective hCode⟩

/- The UUID of a draw is at the position of its key. -/
theorem eq_of_drawn
    {uuids : Nat → String}
    {owners : List (Nat × Draw)}
    (hOwners : owners.Nodup)
    {exchange : Nat}
    {draw : Draw}
    {uuid : String}
    (hDrawn : Drawn uuids owners exchange draw uuid) :
    uuid =
      uuids
        (SharedSupply.position drawCode owners
          (exchange, draw)) := by
  rcases hDrawn with ⟨n, hOwner, rfl⟩
  rw [SharedSupply.position_of_getElem? hOwners hOwner]

/- Exchanges are isolated by the owners of their draws. -/
theorem Server.isolated_of_run
    {ctx : ServerContext F Chunk}
    {events : List ServerEvent}
    {server : Server F Chunk}
    (hRun :
      (proxyServer ctx).run events Server.new =
        some server) :
    server.Isolated ctx events := by
  rcases Server.owned_run hRun with ⟨owners, hOwned⟩
  have hDistinct := hOwned.distinct
  refine
    ⟨SharedSupply.position drawCode owners,
      SharedSupply.position_injective drawCode_injective
        owners, ?_⟩
  intro i opts state hExchange
  rcases hOwned.exchanges i _ hExchange with
    ⟨hSession, -, results, hReply, hTasks⟩
  rcases hSession.requestId with
    ⟨reqId, hReqId, hRequest⟩
  rcases hSession.runId with ⟨runId, hRunId, hRunSome⟩
  refine ⟨?_, ?_, ?_, results, hReply, ?_⟩
  · rw [hRequest, eq_of_drawn hDistinct hReqId]
  · rw [hRunSome, eq_of_drawn hDistinct hRunId]
  · rcases hSession.conversationId with
      hGiven | ⟨uuid, hUuid, hSome⟩
    · exact Or.inl hGiven
    · rw [hSome, eq_of_drawn hDistinct hUuid]
      exact Or.inr rfl
  · apply hTasks
    intro n uuid hDrawn
    exact (eq_of_drawn hDistinct hDrawn).symm

/- However they interleave, exchanges are isolated. -/
theorem proxyServer_isolated
    (ctx : ServerContext F Chunk)
    {events : List ServerEvent}
    {server : Server F Chunk}
    (hRun :
      (proxyServer ctx).run events Server.new =
        some server) :
    server.Isolated ctx events :=
  Server.isolated_of_run hRun

/- A server whose clients all say the same. -/
def greetedServer :
    ServerContext Empty Wmaa.ResponseEvent where
  serde := .integral
  dynMsgToJson := .canonical
  builders := .strict
  decodeRequest := fun _ =>
    .ok
      { metadata := none
        request :=
          { taskContext := none
            input :=
              some
                { type :=
                    some (.userQuery { query := "hello" }) } } }
  encodeSseEvent := id
  uuids := numberedUuids
  cfg := cachingConfig
  stubWarpApi := false
  bedrock := { toolConfig := none }

/- A request for a turn. -/
def turnRequest : Http.Request where
  method := .post
  path := "/ai/multi-agent"
  body := .ok []

/- Two turns side by side, the second one ahead. -/
def interleavedTurns : List ServerEvent :=
  [.arrive turnRequest, .arrive turnRequest,
    .reply 1 (.ok [.ok (some (.messageStop "end_turn"))]),
    .reply 0 (.ok [.ok (some (.messageStop "max_tokens"))]),
    .act 1 .drain, .act 1 .drain, .act 0 .drain,
    .act 1 .pump, .act 1 .pump, .act 1 .pump,
    .act 0 .drain, .act 1 .reader, .act 0 .pump,
    .act 0 .pump]

/- The server after these two turns. -/
def serverAfterTurns :
    Server Empty Wmaa.ResponseEvent :=
  ((proxyServer greetedServer).run interleavedTurns
    Server.new).getD Server.new

theorem run_interleavedTurns :
    (proxyServer greetedServer).run interleavedTurns
        Server.new =
      some serverAfterTurns := by
  rfl

theorem proxyServer_isolated_two_turns :
    serverAfterTurns.Isolated greetedServer
      interleavedTurns :=
  proxyServer_isolated greetedServer run_interleavedTurns

end WarpByokProxy
