import WarpByokProxy.Prompt.Dispatch
import WarpByokProxy.Server.Isolation

/-
  What becomes of the requests of a run.

  Every request that arrives has one exchange, and every turn
  among them is sent to Bedrock once, as the call that stands
  for its conversation. Nothing else is sent, whatever the
  replies are and however the exchanges interleave.

  Key definitions include:
    * `arrivals`
    * `turnOf`
    * `repliesTo`
    * `Exchange.Answers`
    * `Server.Serves`

  Key theorems include:
    * `prepareCall_of_requireFields`
    * `Server.serves_step`
    * `Server.serves_run`
    * `proxyServer_serves`
-/

------------------------------------------------------------
-- Requests And Replies
------------------------------------------------------------

namespace WarpByokProxy

variable {F Chunk : Type}

namespace Http.Request

/- The request is for a turn. -/
def IsTurn
    (req : Request) : Prop :=
  req.method = .post ∧ req.path = "/ai/multi-agent"

/- The request is for the health of the server. -/
def IsHealth
    (req : Request) : Prop :=
  req.method = .get ∧ req.path = "/health"

instance (req : Request) : Decidable req.IsTurn :=
  inferInstanceAs (Decidable (_ ∧ _))

end Http.Request

/- The requests that arrive, in order. -/
def arrivals
    (events : List ServerEvent) : List Http.Request :=
  events.filterMap (fun event =>
    match event with
    | .arrive req => some req
    | _ => none)

/- The turn that a request asks for, if it can be decoded. -/
def turnOf
    (ctx : ServerContext F Chunk)
    (req : Http.Request) : Option Wmaa.DecodedRequest :=
  if req.IsTurn then
    match req.body with
    | .error _ => none
    | .ok bytes => (ctx.decodeRequest bytes).toOption
  else
    none

/- The replies of Bedrock to the call of an exchange. -/
def repliesTo
    (exchange : Nat)
    (events : List ServerEvent) :
    List
      (Except String
        (List
          (Except String
            (Option Sdk.ConverseStreamOutput)))) :=
  events.filterMap (fun event =>
    match event with
    | .reply other result =>
        if other = exchange then some result else none
    | _ => none)

/- The call that stands for a turn. -/
def ServerContext.callOf
    (ctx : ServerContext F Chunk)
    (warpReq : Wmaa.DecodedRequest) :
    Sdk.ConverseStreamInput F :=
  ctx.bedrock.dispatchedCall ctx.dynMsgToJson ctx.cfg
    warpReq.request

/-
  The exchange answers the request, given the replies to its
  call. Only turns wait for a reply, and only those that have
  a good one stream.
-/
inductive Exchange.Answers
    (ctx : ServerContext F Chunk)
    (req : Http.Request)
    (replies :
      List
        (Except String
          (List
            (Except String
              (Option Sdk.ConverseStreamOutput))))) :
    Exchange F Chunk → Prop where
  | health
      (hHealth : req.IsHealth)
      (hReplies : replies = []) :
      Answers ctx req replies (.answered healthResponse)
  | stub
      (hTurn : ¬ req.IsTurn)
      (hHealth : ¬ req.IsHealth)
      (hStub : ctx.stubWarpApi = true)
      (hPath : isWarpStubPath req.path = true)
      (hReplies : replies = []) :
      Answers ctx req replies (.answered warpStubResponse)
  | notFound
      (hTurn : ¬ req.IsTurn)
      (hHealth : ¬ req.IsHealth)
      (hStub :
        ctx.stubWarpApi = true →
          isWarpStubPath req.path = false)
      (hReplies : replies = []) :
      Answers ctx req replies (.answered notFoundResponse)
  | unread
      {e : String}
      (hTurn : req.IsTurn)
      (hBody : req.body = .error e)
      (hReplies : replies = []) :
      Answers ctx req replies
        (.answered (errorResponse ("read body: " ++ e)))
  | undecoded
      {bytes : List UInt8}
      {e : String}
      (hTurn : req.IsTurn)
      (hBody : req.body = .ok bytes)
      (hDecode : ctx.decodeRequest bytes = .error e)
      (hReplies : replies = []) :
      Answers ctx req replies
        (.answered
          (errorResponse ("decode protobuf Request: " ++ e)))
  | waiting
      {warpReq : Wmaa.DecodedRequest}
      (reqId : String)
      (hTurn : turnOf ctx req = some warpReq)
      (hReplies : replies = []) :
      Answers ctx req replies (.dispatched reqId warpReq)
  | refused
      {warpReq : Wmaa.DecodedRequest}
      {e : String}
      (hTurn : turnOf ctx req = some warpReq)
      (hReplies : replies = [.error e]) :
      Answers ctx req replies
        (.answered
          (errorResponse
            ("Bedrock ConverseStream dispatch failed: " ++
              e)))
  | streaming
      {warpReq : Wmaa.DecodedRequest}
      {opts : UiAdapterOpts}
      (state : StreamState F Chunk)
      (hTurn : turnOf ctx req = some warpReq)
      (hReplies : ∃ results, replies = [.ok results])
      (hConversation :
        ∀ given, givenConversationId warpReq = some given →
          opts.conversationId = some given) :
      Answers ctx req replies (.streaming opts state)

/-
  Every request has one exchange that answers it, and every
  turn was sent to Bedrock once, in the order of arrival.
-/
structure Server.Serves
    (ctx : ServerContext F Chunk)
    (events : List ServerEvent)
    (server : Server F Chunk) : Prop where
  sent :
    server.sent =
      ((arrivals events).filterMap (turnOf ctx)).map
        ctx.callOf
  exchanges :
    server.exchanges.length = (arrivals events).length
  answers :
    ∀ (i : Nat) req exchange,
      (arrivals events)[i]? = some req →
        server.exchanges[i]? = some exchange →
          exchange.Answers ctx req (repliesTo i events)
  unasked :
    ∀ i, server.exchanges.length ≤ i →
      repliesTo i events = []

end WarpByokProxy

------------------------------------------------------------
-- One Event
------------------------------------------------------------

namespace WarpByokProxy

variable {F Chunk : Type}

theorem arrivals_append
    (first second : List ServerEvent) :
    arrivals (first ++ second) =
      arrivals first ++ arrivals second :=
  List.filterMap_append

theorem repliesTo_append
    (exchange : Nat)
    (first second : List ServerEvent) :
    repliesTo exchange (first ++ second) =
      repliesTo exchange first ++ repliesTo exchange second :=
  List.filterMap_append

/- With complete builders, every body that decodes is sent. -/
theorem prepareCall_of_requireFields
    {ctx : ServerContext F Chunk}
    (hBuilders : ctx.builders.RequireFields)
    (bytes : List UInt8) :
    prepareCall ctx bytes =
      match ctx.decodeRequest bytes with
      | .error e => .error ("decode protobuf Request: " ++ e)
      | .ok warpReq => .ok (warpReq, ctx.callOf warpReq) := by
  rw [prepareCall]
  cases ctx.decodeRequest bytes with
  | error e => rfl
  | ok warpReq =>
      rcases exists_converseStreamInput hBuilders
          ctx.dynMsgToJson ctx.cfg ctx.bedrock
          warpReq.request with
        ⟨input, hInput, hCall⟩
      simp only [hInput, hCall]
      rfl

namespace Server

/-
  Adding an exchange for a request that arrives, along with
  its call when it is a turn, serves that request as well.
-/
theorem Serves.push
    {ctx : ServerContext F Chunk}
    {events : List ServerEvent}
    {server : Server F Chunk}
    (hServes : server.Serves ctx events)
    {req : Http.Request}
    {exchange : Exchange F Chunk}
    (hAnswers : exchange.Answers ctx req [])
    (minted : Nat) :
    ({ minted := minted
       sent :=
        server.sent ++
          ((turnOf ctx req).map ctx.callOf).toList
       exchanges := server.exchanges ++ [exchange] } :
      Server F Chunk).Serves ctx
        (events ++ [.arrive req]) := by
  have hReplies :
      ∀ i, repliesTo i (events ++ [.arrive req]) =
        repliesTo i events := by
    intro i
    rw [repliesTo_append]
    exact List.append_nil _
  have hArrivals :
      arrivals (events ++ [.arrive req]) =
        arrivals events ++ [req] :=
    arrivals_append events _
  refine
    { sent := ?_
      exchanges := ?_
      answers := ?_
      unasked := ?_ }
  · rw [hArrivals, List.filterMap_append, List.map_append,
      hServes.sent]
    cases hTurn : turnOf ctx req with
    | none => simp [hTurn]
    | some warpReq => simp [hTurn]
  · rw [hArrivals, List.length_append, List.length_append,
      hServes.exchanges]
    rfl
  · intro i other found hReq hFound
    rw [hReplies]
    rw [hArrivals] at hReq
    rcases Nat.lt_trichotomy i server.exchanges.length with
      hi | rfl | hi
    · rw [List.getElem?_append_left hi] at hFound
      rw [hServes.exchanges] at hi
      rw [List.getElem?_append_left hi] at hReq
      exact hServes.answers i other found hReq hFound
    · rw [List.getElem?_concat_length] at hFound
      rw [hServes.exchanges, List.getElem?_concat_length]
        at hReq
      rw [hServes.unasked _ (Nat.le_refl _),
        ← Option.some.inj hReq, ← Option.some.inj hFound]
      exact hAnswers
    · have hLength := (List.getElem?_eq_some_iff.mp hFound).1
      rw [List.length_append, List.length_singleton]
        at hLength
      omega
  · intro i hi
    rw [List.length_append, List.length_singleton] at hi
    rw [hReplies]
    exact hServes.unasked i (Nat.le_of_succ_le hi)

/- A request without a turn is answered; nothing is sent. -/
theorem Serves.answer
    {ctx : ServerContext F Chunk}
    {events : List ServerEvent}
    {server : Server F Chunk}
    (hServes : server.Serves ctx events)
    {req : Http.Request}
    (hNone : turnOf ctx req = none)
    {response : Http.Response}
    (hAnswers :
      Exchange.Answers ctx req []
        (.answered response : Exchange F Chunk))
    (minted : Nat) :
    ({ minted := minted
       sent := server.sent
       exchanges :=
        server.exchanges ++ [.answered response] } :
      Server F Chunk).Serves ctx
        (events ++ [.arrive req]) := by
  have hPush := hServes.push hAnswers minted
  rw [hNone, Option.map_none, Option.toList_none,
    List.append_nil] at hPush
  exact hPush

/-
  Replacing an exchange by one that answers its request, given
  the replies so far, serves that request still.
-/
theorem Serves.set
    {ctx : ServerContext F Chunk}
    {events : List ServerEvent}
    {server : Server F Chunk}
    (hServes : server.Serves ctx events)
    {i : Nat}
    (hLength : i < server.exchanges.length)
    {event : ServerEvent}
    (hArrivals :
      arrivals (events ++ [event]) = arrivals events)
    (hReplies :
      ∀ j, j ≠ i →
        repliesTo j (events ++ [event]) = repliesTo j events)
    {exchange : Exchange F Chunk}
    (hAnswers :
      ∀ req, (arrivals events)[i]? = some req →
        exchange.Answers ctx req
          (repliesTo i (events ++ [event])))
    (minted : Nat) :
    ({ minted := minted
       sent := server.sent
       exchanges := server.exchanges.set i exchange } :
      Server F Chunk).Serves ctx (events ++ [event]) := by
  refine
    { sent := ?_
      exchanges := ?_
      answers := ?_
      unasked := ?_ }
  · rw [hArrivals]
    exact hServes.sent
  · rw [List.length_set, hArrivals]
    exact hServes.exchanges
  · intro j req other hReq hOther
    rw [hArrivals] at hReq
    by_cases hSame : j = i
    · subst hSame
      rw [List.getElem?_set_self hLength] at hOther
      rw [← Option.some.inj hOther]
      exact hAnswers req hReq
    · rw [List.getElem?_set_ne (Ne.symm hSame)] at hOther
      rw [hReplies j hSame]
      exact hServes.answers j req other hReq hOther
  · intro j hj
    rw [List.length_set] at hj
    rw [hReplies j
      (Nat.ne_of_gt (Nat.lt_of_lt_of_le hLength hj))]
    exact hServes.unasked j hj

/- A turn is sent, or answered with what is wrong with it. -/
theorem Serves.handle
    {ctx : ServerContext F Chunk}
    (hBuilders : ctx.builders.RequireFields)
    {events : List ServerEvent}
    {server : Server F Chunk}
    (hServes : server.Serves ctx events)
    {req : Http.Request}
    (hTurn : req.IsTurn) :
    (server.handle ctx req.body).Serves ctx
      (events ++ [.arrive req]) := by
  generalize hBody : req.body = body
  cases body with
  | error e =>
      have hNone : turnOf ctx req = none := by
        rw [turnOf, if_pos hTurn, hBody]
      exact
        hServes.answer hNone (.unread hTurn hBody rfl)
          server.minted
  | ok bytes =>
      rw [Server.handle]
      simp only [prepareCall_of_requireFields hBuilders]
      cases hDecode : ctx.decodeRequest bytes with
      | error e =>
          have hNone : turnOf ctx req = none := by
            rw [turnOf, if_pos hTurn, hBody]
            simp only [hDecode]
            rfl
          exact
            hServes.answer hNone
              (.undecoded hTurn hBody hDecode rfl)
              (server.minted + 1)
      | ok warpReq =>
          have hSome : turnOf ctx req = some warpReq := by
            rw [turnOf, if_pos hTurn, hBody]
            simp only [hDecode]
            rfl
          have hPush :=
            hServes.push
              (Exchange.Answers.waiting
                (ctx.uuids server.minted) hSome rfl)
              (server.minted + 1)
          rw [hSome] at hPush
          exact hPush

/- Every request that arrives is served. -/
theorem Serves.arrive
    {ctx : ServerContext F Chunk}
    (hBuilders : ctx.builders.RequireFields)
    {events : List ServerEvent}
    {server : Server F Chunk}
    (hServes : server.Serves ctx events)
    (req : Http.Request) :
    (server.arrive ctx req).Serves ctx
      (events ++ [.arrive req]) := by
  unfold Server.arrive
  split
  · next hMethod hPath =>
      exact hServes.handle hBuilders ⟨hMethod, hPath⟩
  · next hMethod hPath =>
      have hTurn : ¬ req.IsTurn := by
        rintro ⟨hPost, -⟩
        rw [hMethod] at hPost
        contradiction
      exact
        hServes.answer (if_neg hTurn)
          (.health ⟨hMethod, hPath⟩ rfl) server.minted
  · next hNotTurn hNotHealth =>
      have hTurn : ¬ req.IsTurn :=
        fun hTurn => hNotTurn hTurn.1 hTurn.2
      have hHealth : ¬ req.IsHealth :=
        fun hHealth => hNotHealth hHealth.1 hHealth.2
      split
      · next hStub =>
          rw [Bool.and_eq_true] at hStub
          exact
            hServes.answer (if_neg hTurn)
              (.stub hTurn hHealth hStub.1 hStub.2 rfl)
              server.minted
      · next hStub =>
          refine
            hServes.answer (if_neg hTurn)
              (.notFound hTurn hHealth ?_ rfl) server.minted
          intro hOn
          rw [hOn, Bool.true_and, Bool.not_eq_true] at hStub
          exact hStub

/- A reply is to an exchange that had none so far. -/
theorem Serves.reply
    {ctx : ServerContext F Chunk}
    {events : List ServerEvent}
    {server next : Server F Chunk}
    (hServes : server.Serves ctx events)
    {i : Nat}
    {result :
      Except String
        (List
          (Except String
            (Option Sdk.ConverseStreamOutput)))}
    (hReply : server.reply ctx i result = some next) :
    next.Serves ctx (events ++ [.reply i result]) := by
  have hArrivals :
      arrivals (events ++ [.reply i result]) =
        arrivals events := by
    rw [arrivals_append]
    exact List.append_nil _
  have hOthers :
      ∀ j, j ≠ i →
        repliesTo j (events ++ [.reply i result]) =
          repliesTo j events := by
    intro j hNe
    rw [repliesTo_append]
    simp [repliesTo, Ne.symm hNe]
  have hOwn :
      repliesTo i (events ++ [.reply i result]) =
        repliesTo i events ++ [result] := by
    rw [repliesTo_append]
    simp [repliesTo]
  unfold Server.reply at hReply
  cases hExchange : server.exchanges[i]? with
  | none => simp [hExchange] at hReply
  | some exchange =>
      have hLength :=
        (List.getElem?_eq_some_iff.mp hExchange).1
      cases exchange with
      | answered response => simp [hExchange] at hReply
      | streaming opts state => simp [hExchange] at hReply
      | dispatched reqId warpReq =>
          have hWaiting :
              ∀ req, (arrivals events)[i]? = some req →
                turnOf ctx req = some warpReq ∧
                  repliesTo i events = [] := by
            intro req hReq
            cases hServes.answers i req _ hReq hExchange with
            | waiting _ hTurn hReplies =>
                exact ⟨hTurn, hReplies⟩
          cases result with
          | error e =>
              simp only [hExchange, Option.some.injEq]
                at hReply
              subst hReply
              refine
                hServes.set hLength hArrivals hOthers ?_ _
              intro req hReq
              rcases hWaiting req hReq with ⟨hTurn, hNone⟩
              rw [hOwn, hNone]
              exact .refused hTurn rfl
          | ok results =>
              simp only [hExchange, Option.some.injEq]
                at hReply
              subst hReply
              refine
                hServes.set hLength hArrivals hOthers ?_ _
              intro req hReq
              rcases hWaiting req hReq with ⟨hTurn, hNone⟩
              rw [hOwn, hNone]
              refine .streaming _ hTurn ⟨results, rfl⟩ ?_
              intro given hGiven
              rw [bindSession, hGiven]

/- A step of a response is part of the answer. -/
theorem Serves.act
    {ctx : ServerContext F Chunk}
    {events : List ServerEvent}
    {server next : Server F Chunk}
    (hServes : server.Serves ctx events)
    {i : Nat}
    {actor : StreamActor}
    (hAct : server.act ctx i actor = some next) :
    next.Serves ctx (events ++ [.act i actor]) := by
  have hArrivals :
      arrivals (events ++ [.act i actor]) =
        arrivals events := by
    rw [arrivals_append]
    exact List.append_nil _
  have hReplies :
      ∀ j, repliesTo j (events ++ [.act i actor]) =
        repliesTo j events := by
    intro j
    rw [repliesTo_append]
    exact List.append_nil _
  unfold Server.act at hAct
  cases hExchange : server.exchanges[i]? with
  | none => simp [hExchange] at hAct
  | some exchange =>
      have hLength :=
        (List.getElem?_eq_some_iff.mp hExchange).1
      cases exchange with
      | answered response => simp [hExchange] at hAct
      | dispatched reqId warpReq => simp [hExchange] at hAct
      | streaming opts state =>
          simp only [hExchange, Option.map_eq_some_iff]
            at hAct
          rcases hAct with ⟨stepped, -, rfl⟩
          refine
            hServes.set hLength hArrivals
              (fun j _ => hReplies j) ?_ _
          intro req hReq
          rw [hReplies]
          cases hServes.answers i req _ hReq hExchange with
          | streaming _ hTurn hGood hConversation =>
              exact .streaming _ hTurn hGood hConversation

/- Step rule: every event serves the requests so far. -/
theorem serves_step
    {ctx : ServerContext F Chunk}
    (hBuilders : ctx.builders.RequireFields)
    {events : List ServerEvent}
    {server next : Server F Chunk}
    (hServes : server.Serves ctx events)
    {event : ServerEvent}
    (hStep : (proxyServer ctx).step event server = some next) :
    next.Serves ctx (events ++ [event]) := by
  cases event with
  | arrive req =>
      obtain rfl := Option.some.inj hStep
      exact hServes.arrive hBuilders req
  | reply exchange result => exact hServes.reply hStep
  | act exchange actor => exact hServes.act hStep

/- Run rule: every run serves the requests that arrive. -/
theorem serves_run
    {ctx : ServerContext F Chunk}
    (hBuilders : ctx.builders.RequireFields)
    {events : List ServerEvent}
    {server : Server F Chunk}
    (hRun :
      (proxyServer ctx).run events Server.new =
        some server) :
    server.Serves ctx events := by
  refine
    Actors.run_invariant
      (I := fun events server => Server.Serves ctx events server)
      ?_
      (fun _ _ _ _ hServes hStep =>
        serves_step hBuilders hServes hStep)
      hRun
  exact
    { sent := rfl
      exchanges := rfl
      answers := by
        intro i req exchange hReq
        simp [arrivals] at hReq
      unasked := fun _ _ => rfl }

end Server

end WarpByokProxy

------------------------------------------------------------
-- Requests Of A Run
------------------------------------------------------------

namespace WarpByokProxy

variable {F Chunk : Type}

/-
  However the exchanges interleave, each request is answered
  as it asks, and each turn is sent once.
-/
theorem proxyServer_serves
    {ctx : ServerContext F Chunk}
    (hBuilders : ctx.builders.RequireFields)
    {events : List ServerEvent}
    {server : Server F Chunk}
    (hRun :
      (proxyServer ctx).run events Server.new =
        some server) :
    server.Serves ctx events :=
  Server.serves_run hBuilders hRun

theorem proxyServer_serves_two_turns :
    serverAfterTurns.Serves greetedServer interleavedTurns :=
  proxyServer_serves Sdk.Builders.strict_requireFields
    run_interleavedTurns

end WarpByokProxy
