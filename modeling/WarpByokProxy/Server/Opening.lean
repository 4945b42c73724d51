import WarpByokProxy.Pump.Failure
import WarpByokProxy.Server.Exchanges
import WarpByokProxy.Server.Sessions

/-
  How the responses of a run begin.

  A request has an event stream for a response as soon as
  Bedrock accepts its call. The first thing that the client
  reads there are the identifiers of its session: none of
  them is blank, and the conversation is the client's own if
  it names one.

  Key definitions include:
    * `Wmaa.StreamInit.IsComplete`
    * `Server.GreetsClients`

  Key theorems include:
    * `UiAdapter.output_opens`
    * `Exchange.Answers.head_eq_stream_iff`
    * `proxyServer_greetsClients`
-/

------------------------------------------------------------
-- The First Event
------------------------------------------------------------

namespace WarpByokProxy

variable {F Chunk : Type}

/- The client finds no identifier blank. -/
structure Wmaa.StreamInit.IsComplete
    (init : Wmaa.StreamInit) : Prop where
  conversationId : init.conversationId ≠ ""
  requestId : init.requestId ≠ ""
  runId : init.runId ≠ ""

/- What an adapter emits begins with its opening event. -/
theorem UiAdapter.output_opens
    (serde : SerdeJson F)
    (uuids : Nat → String)
    (opts : UiAdapterOpts)
    (frames : List (OzResponseFrame F)) :
    (machine serde uuids).output (new uuids opts) frames =
        [] ∨
      ((machine serde uuids).output (new uuids opts)
          frames).head? =
        some (new uuids opts).streamInitEvent := by
  induction frames using List.reverseRecOn with
  | nil => exact Or.inl rfl
  | append_singleton frames frame ih =>
      rw [output_append_singleton]
      rcases ih with hSilent | hHead
      · -- Nothing is out yet: the frame opens the response.
        have hNone :=
          (output_eq_nil_iff serde uuids rfl frames).mp
            hSilent
        rw [hSilent, List.nil_append]
        cases hNeeds : frame.needsPrelude with
        | false =>
            exact Or.inl
              (translate_of_needsPrelude_eq_false hNeeds serde
                uuids _).2
        | true =>
            refine Or.inr ?_
            rw [translate, sendPrelude, stateAfter, hNone,
              hNeeds]
            rfl
      · refine Or.inr ?_
        rw [List.head?_append, hHead]
        rfl

end WarpByokProxy

------------------------------------------------------------
-- Greetings
------------------------------------------------------------

namespace WarpByokProxy

variable {F Chunk : Type}

/-
  Every response that streams, and no other, was accepted by
  Bedrock, and opens with the identifiers of its session.
-/
structure Server.GreetsClients
    (ctx : ServerContext F Chunk)
    (events : List ServerEvent)
    (server : Server F Chunk) : Prop where
  streams :
    ∀ (i : Nat) exchange,
      server.exchanges[i]? = some exchange →
        (exchange.head = some (streamStatus, streamHeaders) ↔
          ∃ results, .reply i (.ok results) ∈ events)
  opens :
    ∀ (i : Nat) opts state,
      server.exchanges[i]? = some (.streaming opts state) →
        ∃ init : Wmaa.StreamInit,
          init.IsComplete ∧
            (∀ req warpReq given,
              (arrivals events)[i]? = some req →
                turnOf ctx req = some warpReq →
                  givenConversationId warpReq = some given →
                    init.conversationId = given) ∧
            (state.reader.received = [] ∨
              state.reader.received.head? =
                some
                  (ctx.encodeSseEvent
                    { type := some (.init init) }))

/- The replies to an exchange are among the events. -/
theorem mem_repliesTo_iff
    {i : Nat}
    {result :
      Except String
        (List
          (Except String
            (Option Sdk.ConverseStreamOutput)))}
    {events : List ServerEvent} :
    result ∈ repliesTo i events ↔
      .reply i result ∈ events := by
  rw [repliesTo, List.mem_filterMap]
  constructor
  · rintro ⟨event, hMem, hSome⟩
    cases event with
    | arrive req => contradiction
    | act other actor => contradiction
    | reply other found =>
        simp only [Option.ite_none_right_eq_some,
          Option.some.injEq] at hSome
        rw [← hSome.1, ← hSome.2]
        exact hMem
  · intro hMem
    exact ⟨_, hMem, if_pos rfl⟩

/- Only exchanges with a good reply stream. -/
theorem Exchange.Answers.head_eq_stream_iff
    {ctx : ServerContext F Chunk}
    {req : Http.Request}
    {replies :
      List
        (Except String
          (List
            (Except String
              (Option Sdk.ConverseStreamOutput))))}
    {exchange : Exchange F Chunk}
    (hAnswers : exchange.Answers ctx req replies) :
    exchange.head = some (streamStatus, streamHeaders) ↔
      ∃ results, .ok results ∈ replies := by
  cases hAnswers with
  | health _ hReplies =>
      rw [hReplies]
      simp [Exchange.head, healthResponse, streamHeaders]
  | stub _ _ _ _ hReplies =>
      rw [hReplies]
      simp [Exchange.head, warpStubResponse, streamHeaders]
  | notFound _ _ _ hReplies =>
      rw [hReplies]
      simp [Exchange.head, notFoundResponse, streamHeaders]
  | unread _ _ hReplies =>
      rw [hReplies]
      simp [Exchange.head, errorResponse, streamHeaders]
  | undecoded _ _ _ hReplies =>
      rw [hReplies]
      simp [Exchange.head, errorResponse, streamHeaders]
  | waiting _ _ hReplies =>
      rw [hReplies]
      simp [Exchange.head]
  | refused _ hReplies =>
      rw [hReplies]
      simp [Exchange.head, errorResponse, streamHeaders]
  | streaming _ _ hReplies _ =>
      rcases hReplies with ⟨results, rfl⟩
      simp [Exchange.head]

/- A session that is named without blanks is complete. -/
theorem isComplete_of_opts
    {opts : UiAdapterOpts}
    {reqId runId : String}
    (hRequest : opts.requestId = some ("req-" ++ reqId))
    (hRun : opts.runId = some ("run-" ++ runId))
    {uuid : String}
    (hConversation :
      (∃ given ≠ "", opts.conversationId = some given) ∨
        opts.conversationId = some ("conv-" ++ uuid)) :
    ({ conversationId := opts.conversationId.getD ""
       requestId := opts.requestId.getD ""
       runId := opts.runId.getD "" } :
      Wmaa.StreamInit).IsComplete := by
  refine
    { conversationId := ?_
      requestId := ?_
      runId := ?_ }
  · rcases hConversation with ⟨given, hGiven, hSome⟩ | hSome
    · rw [hSome]
      exact hGiven
    · rw [hSome]
      simp
  · rw [hRequest]
    simp
  · rw [hRun]
    simp

/- What a client has received begins as its turn does. -/
theorem head?_of_prefix
    {encodeSseEvent : Wmaa.ResponseEvent → Chunk}
    {turn : List Wmaa.ResponseEvent}
    {received : List Chunk}
    (hReceived : received <+: turn.map encodeSseEvent)
    {first : Wmaa.ResponseEvent}
    (hTurn : turn = [] ∨ turn.head? = some first) :
    received = [] ∨
      received.head? = some (encodeSseEvent first) := by
  rcases hReceived with ⟨rest, hPrefix⟩
  cases received with
  | nil => exact Or.inl rfl
  | cons chunk chunks =>
      refine Or.inr ?_
      rcases hTurn with hSilent | hFirst
      · rw [hSilent] at hPrefix
        contradiction
      · have hHead := congrArg List.head? hPrefix
        rw [List.head?_map, hFirst] at hHead
        exact hHead

/-
  However the exchanges interleave, the responses that stream
  are those that Bedrock has accepted, and they open with the
  identifiers of their session.
-/
theorem proxyServer_greetsClients
    {ctx : ServerContext F Chunk}
    (hBuilders : ctx.builders.RequireFields)
    {events : List ServerEvent}
    {server : Server F Chunk}
    (hRun :
      (proxyServer ctx).run events Server.new =
        some server) :
    server.GreetsClients ctx events := by
  have hServes := Server.serves_run hBuilders hRun
  have hAnswers :
      ∀ (i : Nat) exchange,
        server.exchanges[i]? = some exchange →
          ∃ req, (arrivals events)[i]? = some req ∧
            exchange.Answers ctx req
              (repliesTo i events) := by
    intro i exchange hExchange
    have hLength := (List.getElem?_eq_some_iff.mp hExchange).1
    rw [hServes.exchanges] at hLength
    have hReq := List.getElem?_eq_getElem hLength
    exact ⟨_, hReq, hServes.answers i _ _ hReq hExchange⟩
  rcases Server.isolated_of_run hRun with ⟨own, -, hAlone⟩
  refine { streams := ?_, opens := ?_ }
  · intro i exchange hExchange
    rcases hAnswers i exchange hExchange with ⟨req, -, hReq⟩
    rw [hReq.head_eq_stream_iff]
    simp only [mem_repliesTo_iff]
  · intro i opts state hExchange
    rcases hAlone i opts state hExchange with
      ⟨hRequest, hRunId, hConversation, results, -, hTasks⟩
    refine
      ⟨_, isComplete_of_opts hRequest hRunId hConversation,
        ?_, ?_⟩
    · intro req warpReq given hReq hTurn hGiven
      rcases hAnswers i _ hExchange with
        ⟨other, hOther, hStreams⟩
      rw [hReq, Option.some.injEq] at hOther
      subst hOther
      cases hStreams with
      | streaming _ hSame _ hEchoed =>
          rw [hTurn, Option.some.injEq] at hSame
          subst hSame
          rw [hEchoed given hGiven, Option.getD_some]
    · exact
        head?_of_prefix (accounted_of_run hTasks).received
          (UiAdapter.output_opens ctx.serde _ opts _)

theorem proxyServer_greetsClients_two_turns :
    serverAfterTurns.GreetsClients greetedServer
      interleavedTurns :=
  proxyServer_greetsClients Sdk.Builders.strict_requireFields
    run_interleavedTurns

end WarpByokProxy
