import WarpByokProxy.Server.Draws

/-
  Who draws from the server's supply of UUIDs.

  Every draw has an owner, an exchange and the purpose of the
  draw in it, and no two draws have the same. An exchange
  keeps its draws and its part of the run, whatever the other
  exchanges draw and do.

  Key definitions include:
    * `actorsOf`
    * `Draw`
    * `Drawn`
    * `Exchange.Owns`
    * `Server.Owned`

  Key theorems include:
    * `Exchange.Owns.frame`
    * `Server.Owned.push`
    * `Server.Owned.set`
    * `Server.owned_step`
    * `Server.owned_run`
-/

------------------------------------------------------------
-- Owners Of Draws
------------------------------------------------------------

namespace WarpByokProxy

variable {F Chunk : Type}

/- The steps of one exchange among the server's events. -/
def actorsOf
    (exchange : Nat)
    (events : List ServerEvent) : List StreamActor :=
  events.filterMap (fun event =>
    match event with
    | .act other actor =>
        if other = exchange then some actor else none
    | _ => none)

/-
  The draws of an exchange: the UUIDs of the request, of the
  run, of a conversation that the client does not name, and
  those of its pump in order.
-/
inductive Draw where
  | request
  | run
  | conversation
  | pump (n : Nat)
deriving DecidableEq

/- The draws, numbered. -/
def Draw.code : Draw → Nat
  | .request => 0
  | .run => 1
  | .conversation => 2
  | .pump n => n + 3

theorem Draw.code_injective :
    Function.Injective Draw.code := by
  intro left right hEq
  cases left with
  | request => cases right <;> simp [code] at hEq ⊢
  | run => cases right <;> simp [code] at hEq ⊢
  | conversation => cases right <;> simp [code] at hEq ⊢
  | pump n =>
      cases right with
      | request => simp [code] at hEq
      | run => simp [code] at hEq
      | conversation => simp [code] at hEq
      | pump m =>
          have hSame : n = m := Nat.add_right_cancel hEq
          rw [hSame]

/- The text is the UUID of a draw of the exchange. -/
def Drawn
    (uuids : Nat → String)
    (owners : List (Nat × Draw))
    (exchange : Nat)
    (draw : Draw)
    (uuid : String) : Prop :=
  ∃ n, owners[n]? = some (exchange, draw) ∧ uuid = uuids n

/- The identifiers of a session are drawn for its exchange. -/
structure DrawnSession
    (uuids : Nat → String)
    (owners : List (Nat × Draw))
    (exchange : Nat)
    (opts : UiAdapterOpts) : Prop where
  requestId :
    ∃ uuid,
      Drawn uuids owners exchange .request uuid ∧
        opts.requestId = some ("req-" ++ uuid)
  runId :
    ∃ uuid,
      Drawn uuids owners exchange .run uuid ∧
        opts.runId = some ("run-" ++ uuid)
  conversationId :
    (∃ given ≠ "", opts.conversationId = some given) ∨
      ∃ uuid,
        Drawn uuids owners exchange .conversation uuid ∧
          opts.conversationId = some ("conv-" ++ uuid)

/-
  An exchange owns what it has drawn. Its response is a run
  of its tasks alone, on any supply that agrees with the
  draws of its pump.
-/
def Exchange.Owns
    (ctx : ServerContext F Chunk)
    (events : List ServerEvent)
    (owners : List (Nat × Draw))
    (exchange : Nat) :
    Exchange F Chunk → Prop
  | .answered _ => True
  | .dispatched reqId _ =>
      Drawn ctx.uuids owners exchange .request reqId ∧
        (∀ draw, (exchange, draw) ∈ owners →
          draw = .request) ∧
        actorsOf exchange events = []
  | .streaming opts state =>
      DrawnSession ctx.uuids owners exchange opts ∧
        (state.pump.isStopped = false →
          ∀ n, (exchange, .pump n) ∈ owners →
            n < state.minted) ∧
        ∃ results,
          .reply exchange (.ok results) ∈ events ∧
            ∀ own : Nat → String,
              (∀ n uuid,
                Drawn ctx.uuids owners exchange (.pump n)
                    uuid →
                  own n = uuid) →
                (streamTasks ctx.serde own
                    ctx.encodeSseEvent).run
                    (actorsOf exchange events)
                    (.initial own opts results) =
                  some state

namespace Server

/- Every UUID drawn has one owner, and exchanges own theirs. -/
structure Owned
    (ctx : ServerContext F Chunk)
    (events : List ServerEvent)
    (server : Server F Chunk)
    (owners : List (Nat × Draw)) : Prop where
  minted : owners.length = server.minted
  distinct : owners.Nodup
  known : ∀ owner ∈ owners, owner.1 < server.exchanges.length
  silent :
    ∀ exchange, server.exchanges.length ≤ exchange →
      actorsOf exchange events = []
  exchanges :
    ∀ i (exchange : Exchange F Chunk),
      server.exchanges[i]? = some exchange →
        exchange.Owns ctx events owners i

end Server

end WarpByokProxy

------------------------------------------------------------
-- Draws Of Others
------------------------------------------------------------

namespace WarpByokProxy

variable {F Chunk : Type}

/- Draws stay with their owners. -/
theorem Drawn.append
    {uuids : Nat → String}
    {owners : List (Nat × Draw)}
    {exchange : Nat}
    {draw : Draw}
    {uuid : String}
    (hDrawn : Drawn uuids owners exchange draw uuid)
    (added : List (Nat × Draw)) :
    Drawn uuids (owners ++ added) exchange draw uuid := by
  rcases hDrawn with ⟨n, hOwner, hUuid⟩
  refine ⟨n, ?_, hUuid⟩
  have hn := (List.getElem?_eq_some_iff.mp hOwner).1
  rw [List.getElem?_append_left hn]
  exact hOwner

/- The draws that are added come next in the supply. -/
theorem drawn_of_added
    {owners added : List (Nat × Draw)}
    {exchange n : Nat}
    {draw : Draw}
    (hAdded : added[n]? = some (exchange, draw))
    (uuids : Nat → String) :
    Drawn uuids (owners ++ added) exchange draw
      (uuids (owners.length + n)) := by
  refine ⟨owners.length + n, ?_, rfl⟩
  rw [List.getElem?_append_right (Nat.le_add_right _ _),
    Nat.add_sub_cancel_left]
  exact hAdded

theorem DrawnSession.append
    {uuids : Nat → String}
    {owners : List (Nat × Draw)}
    {exchange : Nat}
    {opts : UiAdapterOpts}
    (hSession : DrawnSession uuids owners exchange opts)
    (added : List (Nat × Draw)) :
    DrawnSession uuids (owners ++ added) exchange opts := by
  rcases hSession with
    ⟨⟨reqId, hReqId, hRequest⟩, ⟨runId, hRunId, hRun⟩,
      hConversation⟩
  refine
    { requestId := ⟨reqId, hReqId.append added, hRequest⟩
      runId := ⟨runId, hRunId.append added, hRun⟩
      conversationId := ?_ }
  rcases hConversation with hGiven | ⟨uuid, hUuid, hSome⟩
  · exact Or.inl hGiven
  · exact Or.inr ⟨uuid, hUuid.append added, hSome⟩

/- The steps of an exchange are extended by its own alone. -/
theorem actorsOf_append
    (exchange : Nat)
    (first second : List ServerEvent) :
    actorsOf exchange (first ++ second) =
      actorsOf exchange first ++ actorsOf exchange second :=
  List.filterMap_append

theorem actorsOf_append_act_of_ne
    {exchange other : Nat}
    (hNe : other ≠ exchange)
    (events : List ServerEvent)
    (actor : StreamActor) :
    actorsOf exchange (events ++ [.act other actor]) =
      actorsOf exchange events := by
  rw [actorsOf_append]
  simp [actorsOf, hNe]

/-
  Frame rule: an exchange owns what it owned, whatever others
  draw and do.
-/
theorem Exchange.Owns.frame
    {ctx : ServerContext F Chunk}
    {events : List ServerEvent}
    {owners : List (Nat × Draw)}
    {i : Nat}
    {exchange : Exchange F Chunk}
    (hOwns : exchange.Owns ctx events owners i)
    {event : ServerEvent}
    (hEvent :
      actorsOf i (events ++ [event]) = actorsOf i events)
    {added : List (Nat × Draw)}
    (hAdded : ∀ owner ∈ added, owner.1 ≠ i) :
    exchange.Owns ctx (events ++ [event]) (owners ++ added)
      i := by
  have hOther : ∀ draw, (i, draw) ∉ added :=
    fun draw hMem => hAdded _ hMem rfl
  have hOld :
      ∀ draw, (i, draw) ∈ owners ++ added →
        (i, draw) ∈ owners := by
    intro draw hMem
    rcases List.mem_append.mp hMem with hOwner | hNew
    · exact hOwner
    · exact absurd hNew (hOther draw)
  cases exchange with
  | answered response => trivial
  | dispatched reqId warpReq =>
      rcases hOwns with ⟨hReqId, hDraws, hActors⟩
      refine ⟨hReqId.append added, ?_, hEvent.trans hActors⟩
      intro draw hMem
      exact hDraws draw (hOld draw hMem)
  | streaming opts state =>
      rcases hOwns with
        ⟨hSession, hMinted, results, hReply, hRun⟩
      refine
        ⟨hSession.append added, ?_, results,
          List.mem_append_left _ hReply, ?_⟩
      · intro hRunning n hMem
        exact hMinted hRunning n (hOld _ hMem)
      · intro own hOwn
        rw [hEvent]
        apply hRun own
        intro n uuid hDrawn
        exact hOwn n uuid (hDrawn.append added)

end WarpByokProxy

------------------------------------------------------------
-- Steps Of The Server
------------------------------------------------------------

namespace WarpByokProxy

variable {F Chunk : Type}

namespace Server

/-
  Adding an exchange keeps the others. What is drawn at its
  arrival is its own.
-/
theorem Owned.push
    {ctx : ServerContext F Chunk}
    {events : List ServerEvent}
    {server : Server F Chunk}
    {owners : List (Nat × Draw)}
    (hOwned : server.Owned ctx events owners)
    {event : ServerEvent}
    (hEvent :
      ∀ i, actorsOf i (events ++ [event]) =
        actorsOf i events)
    {added : List (Nat × Draw)}
    (hAdded :
      added = [] ∨
        added = [(server.exchanges.length, .request)])
    {exchange : Exchange F Chunk}
    (hExchange :
      exchange.Owns ctx (events ++ [event])
        (owners ++ added) server.exchanges.length)
    (sent : List (Sdk.ConverseStreamInput F)) :
    ({ minted := server.minted + added.length
       sent := sent
       exchanges := server.exchanges ++ [exchange] } :
      Server F Chunk).Owned ctx (events ++ [event])
        (owners ++ added) := by
  have hOwner :
      ∀ owner ∈ added, owner.1 = server.exchanges.length := by
    intro owner hMem
    rcases hAdded with rfl | rfl
    · exact absurd hMem List.not_mem_nil
    · rw [List.mem_singleton.mp hMem]
  refine
    { minted := ?_
      distinct := ?_
      known := ?_
      silent := ?_
      exchanges := ?_ }
  · rw [List.length_append, hOwned.minted]
  · rw [List.nodup_append]
    refine ⟨hOwned.distinct, ?_, ?_⟩
    · rcases hAdded with rfl | rfl
      · exact List.nodup_nil
      · exact List.nodup_singleton _
    · intro old hOld new hNew hEq
      have hKnown := hOwned.known old hOld
      rw [hEq, hOwner new hNew] at hKnown
      exact Nat.lt_irrefl _ hKnown
  · intro owner hMem
    rw [List.length_append, List.length_singleton]
    rcases List.mem_append.mp hMem with hOld | hNew
    · exact Nat.lt_succ_of_lt (hOwned.known owner hOld)
    · rw [hOwner owner hNew]
      exact Nat.lt_succ_self _
  · intro i hi
    rw [List.length_append, List.length_singleton] at hi
    rw [hEvent]
    exact hOwned.silent i (Nat.le_of_succ_le hi)
  · intro i other hOther
    rcases Nat.lt_trichotomy i server.exchanges.length with
      hi | rfl | hi
    · rw [List.getElem?_append_left hi] at hOther
      apply (hOwned.exchanges i other hOther).frame (hEvent i)
      intro owner hMem hEq
      rw [hOwner owner hMem] at hEq
      omega
    · rw [List.getElem?_append_right (Nat.le_refl _),
        Nat.sub_self] at hOther
      obtain rfl := Option.some.inj hOther
      exact hExchange
    · have hLength := (List.getElem?_eq_some_iff.mp hOther).1
      rw [List.length_append, List.length_singleton]
        at hLength
      omega

/- An exchange that is answered at once draws nothing. -/
theorem Owned.answer
    {ctx : ServerContext F Chunk}
    {events : List ServerEvent}
    {server : Server F Chunk}
    {owners : List (Nat × Draw)}
    (hOwned : server.Owned ctx events owners)
    {event : ServerEvent}
    (hEvent :
      ∀ i, actorsOf i (events ++ [event]) =
        actorsOf i events)
    (response : Http.Response) :
    (server.answer response).Owned ctx (events ++ [event])
      (owners ++ []) :=
  hOwned.push hEvent (Or.inl rfl)
    (show Exchange.Owns ctx _ _ _ (.answered response) from
      trivial) server.sent

/- Handling a request draws at most its own UUID. -/
theorem Owned.handle
    {ctx : ServerContext F Chunk}
    {events : List ServerEvent}
    {server : Server F Chunk}
    {owners : List (Nat × Draw)}
    (hOwned : server.Owned ctx events owners)
    {event : ServerEvent}
    (hEvent :
      ∀ i, actorsOf i (events ++ [event]) =
        actorsOf i events)
    (body : Except String (List UInt8)) :
    ∃ next,
      (server.handle ctx body).Owned ctx (events ++ [event])
        next := by
  cases body with
  | error e => exact ⟨owners ++ [], hOwned.answer hEvent _⟩
  | ok bytes =>
      refine
        ⟨owners ++ [(server.exchanges.length, .request)],
          ?_⟩
      rw [Server.handle]
      cases prepareCall ctx bytes with
      | error e =>
          apply hOwned.push hEvent (Or.inr rfl)
          exact trivial
      | ok prepared =>
          apply hOwned.push hEvent (Or.inr rfl)
          refine ⟨?_, ?_, ?_⟩
          · rw [← hOwned.minted]
            exact drawn_of_added (n := 0) rfl ctx.uuids
          · intro draw hMem
            rcases List.mem_append.mp hMem with hOld | hNew
            · have hKnown := hOwned.known _ hOld
              exact absurd hKnown (Nat.lt_irrefl _)
            · exact
                (Prod.mk.inj (List.mem_singleton.mp hNew)).2
          · rw [hEvent]
            exact hOwned.silent _ (Nat.le_refl _)

/- Every arrival keeps the draws apart. -/
theorem Owned.arrive
    {ctx : ServerContext F Chunk}
    {events : List ServerEvent}
    {server : Server F Chunk}
    {owners : List (Nat × Draw)}
    (hOwned : server.Owned ctx events owners)
    (req : Http.Request) :
    ∃ next,
      (server.arrive ctx req).Owned ctx
        (events ++ [.arrive req]) next := by
  have hEvent :
      ∀ i, actorsOf i (events ++ [.arrive req]) =
        actorsOf i events := by
    intro i
    rw [actorsOf_append]
    exact List.append_nil _
  unfold Server.arrive
  split
  · exact hOwned.handle hEvent req.body
  · exact ⟨owners ++ [], hOwned.answer hEvent _⟩
  · split
    · exact ⟨owners ++ [], hOwned.answer hEvent _⟩
    · exact ⟨owners ++ [], hOwned.answer hEvent _⟩

/-
  Replacing an exchange keeps the others. What is drawn with
  it is its own.
-/
theorem Owned.set
    {ctx : ServerContext F Chunk}
    {events : List ServerEvent}
    {server : Server F Chunk}
    {owners : List (Nat × Draw)}
    (hOwned : server.Owned ctx events owners)
    {i : Nat}
    (hLength : i < server.exchanges.length)
    {event : ServerEvent}
    (hEvent :
      ∀ j, j ≠ i →
        actorsOf j (events ++ [event]) = actorsOf j events)
    {added : List (Nat × Draw)}
    (hOwner : ∀ owner ∈ added, owner.1 = i)
    (hDistinct : (owners ++ added).Nodup)
    {minted : Nat}
    (hMinted : (owners ++ added).length = minted)
    {exchange : Exchange F Chunk}
    (hExchange :
      exchange.Owns ctx (events ++ [event])
        (owners ++ added) i) :
    ({ minted := minted
       sent := server.sent
       exchanges := server.exchanges.set i exchange } :
      Server F Chunk).Owned ctx (events ++ [event])
        (owners ++ added) := by
  refine
    { minted := hMinted
      distinct := hDistinct
      known := ?_
      silent := ?_
      exchanges := ?_ }
  · intro owner hMem
    rw [List.length_set]
    rcases List.mem_append.mp hMem with hOld | hNew
    · exact hOwned.known owner hOld
    · rw [hOwner owner hNew]
      exact hLength
  · intro j hj
    rw [List.length_set] at hj
    have hNe :=
      Nat.ne_of_gt (Nat.lt_of_lt_of_le hLength hj)
    rw [hEvent j hNe]
    exact hOwned.silent j hj
  · intro j other hOther
    by_cases hSame : j = i
    · subst hSame
      rw [List.getElem?_set_self hLength] at hOther
      obtain rfl := Option.some.inj hOther
      exact hExchange
    · rw [List.getElem?_set_ne (Ne.symm hSame)] at hOther
      apply (hOwned.exchanges j other hOther).frame
        (hEvent j hSame)
      intro owner hMem hEq
      rw [hOwner owner hMem] at hEq
      exact hSame hEq.symm

end Server

/- Only the first two UUIDs matter to a pump that starts. -/
theorem StreamState.initial_congr
    {own uuids : Nat → String}
    (hTask : own 0 = uuids 0)
    (hMessage : own 1 = uuids 1)
    (opts : UiAdapterOpts)
    (results :
      List
        (Except String (Option Sdk.ConverseStreamOutput))) :
    (initial own opts results : StreamState F Chunk) =
      initial uuids opts results := by
  simp only [initial, UiAdapter.new, hTask, hMessage]

/- The draws of a session that is bound and starts to pump. -/
def sessionOwners
    (exchange : Nat)
    (draws : List Draw) : List (Nat × Draw) :=
  (draws ++ [Draw.pump 0, Draw.pump 1]).map (fun draw =>
    (exchange, draw))

theorem length_sessionOwners
    (exchange : Nat)
    (draws : List Draw) :
    (sessionOwners exchange draws).length =
      draws.length + 2 := by
  rw [sessionOwners, List.length_map, List.length_append]
  rfl

theorem eq_of_mem_sessionOwners
    {exchange : Nat}
    {draws : List Draw}
    {owner : Nat × Draw}
    (hOwner : owner ∈ sessionOwners exchange draws) :
    owner.1 = exchange := by
  rcases List.mem_map.mp hOwner with ⟨draw, -, rfl⟩
  rfl

/-
  A session that is bound owns its identifiers. The draws of
  the binding and of the pump's start come next in the supply.
-/
theorem exists_bindSession_draws
    {uuids : Nat → String}
    {owners : List (Nat × Draw)}
    {i : Nat}
    {reqId : String}
    (hReqId : Drawn uuids owners i .request reqId)
    (warpReq : Wmaa.DecodedRequest) :
    ∃ draws : List Draw,
      let bound :=
        bindSession uuids owners.length reqId warpReq
      bound.2 = owners.length + draws.length ∧
        (∀ draw ∈ draws,
          draw = .run ∨ draw = .conversation) ∧
        draws.Nodup ∧
        DrawnSession uuids
          (owners ++ sessionOwners i draws) i bound.1 := by
  unfold bindSession
  cases hGiven : givenConversationId warpReq with
  | some given =>
      refine ⟨[.run], rfl, by simp, by simp, ?_⟩
      refine
        { requestId := ⟨reqId, hReqId.append _, rfl⟩
          runId :=
            ⟨_, drawn_of_added (n := 0) rfl uuids, rfl⟩
          conversationId := Or.inl ⟨given, ?_, rfl⟩ }
      have hKept := Option.filter_eq_some_iff.mp hGiven
      simpa using hKept.2
  | none =>
      refine
        ⟨[.conversation, .run], rfl, by simp, by decide,
          ?_⟩
      exact
        { requestId := ⟨reqId, hReqId.append _, rfl⟩
          runId :=
            ⟨_, drawn_of_added (n := 1) rfl uuids, rfl⟩
          conversationId :=
            Or.inr
              ⟨_, drawn_of_added (n := 0) rfl uuids, rfl⟩ }

/- A session draws nothing twice. -/
theorem nodup_append_session
    {owners : List (Nat × Draw)}
    (hOwners : owners.Nodup)
    {i : Nat}
    (hDraws :
      ∀ draw, (i, draw) ∈ owners → draw = .request)
    {draws : List Draw}
    (hKinds :
      ∀ draw ∈ draws,
        draw = .run ∨ draw = .conversation)
    (hDistinct : draws.Nodup) :
    (owners ++ sessionOwners i draws).Nodup := by
  have hPump :
      (draws ++ [Draw.pump 0, Draw.pump 1]).Nodup := by
    rw [List.nodup_append]
    refine ⟨hDistinct, by decide, ?_⟩
    intro draw hMem other hOther hEq
    subst hEq
    rcases hKinds draw hMem with rfl | rfl
    · simp at hOther
    · simp at hOther
  rw [List.nodup_append]
  refine ⟨hOwners, ?_, ?_⟩
  · refine List.Nodup.map ?_ hPump
    intro left right hEq
    exact (Prod.mk.inj hEq).2
  · intro owner hOwner other hOther hEq
    rcases List.mem_map.mp hOther with ⟨draw, hDraw, rfl⟩
    subst hEq
    have hRequest := hDraws draw hOwner
    subst hRequest
    rcases List.mem_append.mp hDraw with hOld | hNew
    · rcases hKinds _ hOld with hRun | hConversation
      · contradiction
      · contradiction
    · simp at hNew

/- A response that starts owns the draws of its pump. -/
theorem owns_initial
    {ctx : ServerContext F Chunk}
    {events : List ServerEvent}
    {owners : List (Nat × Draw)}
    {i : Nat}
    {draws : List Draw}
    {opts : UiAdapterOpts}
    (hSession :
      DrawnSession ctx.uuids
        (owners ++ sessionOwners i draws) i opts)
    (hDraws :
      ∀ draw, (i, draw) ∈ owners → draw = .request)
    (hKinds :
      ∀ draw ∈ draws,
        draw = .run ∨ draw = .conversation)
    {bound : Nat}
    (hBound : bound = owners.length + draws.length)
    (hActors : actorsOf i events = [])
    {results :
      List
        (Except String (Option Sdk.ConverseStreamOutput))}
    (hReply : .reply i (.ok results) ∈ events) :
    (Exchange.streaming opts
      (.initial (fun n => ctx.uuids (bound + n)) opts
        results)).Owns ctx events
      (owners ++ sessionOwners i draws) i := by
  refine ⟨hSession, ?_, results, hReply, ?_⟩
  · intro _ n hMem
    have hTwo : n = 0 ∨ n = 1 := by
      rcases List.mem_append.mp hMem with hOld | hNew
      · have hRequest := hDraws _ hOld
        contradiction
      · rcases List.mem_map.mp hNew with ⟨draw, hDraw, hEq⟩
        obtain rfl := (Prod.mk.inj hEq).2
        rcases List.mem_append.mp hDraw with hKind | hPump
        · rcases hKinds _ hKind with hRun | hConversation
          · contradiction
          · contradiction
        · simpa using hPump
    show n < 2
    omega
  · intro own hOwn
    rw [hActors, Actors.run_nil]
    congr 1
    have hNext :
        ∀ n, [.pump 0, .pump 1][n]? =
            some (Draw.pump n) →
          own n = ctx.uuids (bound + n) := by
      intro n hDraw
      apply hOwn n
      rw [hBound, Nat.add_assoc]
      apply drawn_of_added
      rw [sessionOwners, List.getElem?_map,
        List.getElem?_append_right (Nat.le_add_right _ _),
        Nat.add_sub_cancel_left, hDraw]
      rfl
    exact
      StreamState.initial_congr (hNext 0 rfl) (hNext 1 rfl)
        opts results

/- What a step draws was not drawn before. -/
theorem nodup_append_replicate
    {ctx : ServerContext F Chunk}
    {actor : StreamActor}
    {state next : StreamState F Chunk}
    {uuids : Nat → String}
    {owners : List (Nat × Draw)}
    (hOwners : owners.Nodup)
    {drawn : Nat}
    (hDraws :
      StreamState.StepDraws ctx actor state next uuids drawn)
    {i : Nat}
    (hFresh :
      state.pump.isStopped = false →
        ∀ n, (i, .pump n) ∈ owners → n < state.minted) :
    (owners ++
      List.replicate drawn
        (i, Draw.pump state.minted)).Nodup := by
  cases drawn with
  | zero =>
      rw [List.replicate_zero, List.append_nil]
      exact hOwners
  | succ drawn =>
      have hOne : drawn = 0 :=
        Nat.le_zero.mp (Nat.le_of_succ_le_succ hDraws.atMost)
      subst hOne
      -- Only a pump that runs has draws to count.
      have hRunning : next.pump.isStopped = false := by
        have hMinted := hDraws.minted
        cases hPump : next.pump with
        | running => rfl
        | stopped =>
            simp [StreamState.minted, hPump] at hMinted
      rw [List.nodup_append]
      refine ⟨hOwners, List.nodup_singleton _, ?_⟩
      intro owner hOwner other hOther hEq
      rw [List.mem_singleton.mp hOther] at hEq
      subst hEq
      exact
        absurd
          (hFresh (hDraws.running hRunning).1 _ hOwner)
          (Nat.lt_irrefl _)

namespace Server

/- A reply of Bedrock keeps the draws apart. -/
theorem Owned.reply
    {ctx : ServerContext F Chunk}
    {events : List ServerEvent}
    {server next : Server F Chunk}
    {owners : List (Nat × Draw)}
    (hOwned : server.Owned ctx events owners)
    {i : Nat}
    {result :
      Except String
        (List
          (Except String
            (Option Sdk.ConverseStreamOutput)))}
    (hReply : server.reply ctx i result = some next) :
    ∃ owners,
      next.Owned ctx (events ++ [.reply i result])
        owners := by
  have hEvent :
      ∀ j, actorsOf j (events ++ [.reply i result]) =
        actorsOf j events := by
    intro j
    rw [actorsOf_append]
    exact List.append_nil _
  unfold Server.reply at hReply
  cases hExchange : server.exchanges[i]? with
  | none => simp [hExchange] at hReply
  | some exchange =>
      have hLength :=
        (List.getElem?_eq_some_iff.mp hExchange).1
      cases exchange with
      | answered response => simp [hExchange] at hReply
      | streaming opts state => simp [hExchange] at hReply
      | dispatched reqId warpReq =>
          rcases hOwned.exchanges i _ hExchange with
            ⟨hReqId, hDraws, hActors⟩
          cases result with
          | error e =>
              simp only [hExchange, Option.some.injEq]
                at hReply
              subst hReply
              refine ⟨owners ++ [], ?_⟩
              apply hOwned.set hLength (fun j _ => hEvent j)
              · intro owner hMem
                exact absurd hMem List.not_mem_nil
              · rw [List.append_nil]
                exact hOwned.distinct
              · rw [List.append_nil]
                exact hOwned.minted
              · trivial
          | ok results =>
              simp only [hExchange, Option.some.injEq]
                at hReply
              rw [← hOwned.minted] at hReply
              rcases exists_bindSession_draws hReqId warpReq
                with ⟨draws, hBound, hKinds, hDraw, hSession⟩
              subst hReply
              refine ⟨owners ++ sessionOwners i draws, ?_⟩
              apply hOwned.set hLength (fun j _ => hEvent j)
              · intro owner hMem
                exact eq_of_mem_sessionOwners hMem
              · exact
                  nodup_append_session hOwned.distinct hDraws
                    hKinds hDraw
              · rw [hBound, List.length_append,
                  length_sessionOwners, Nat.add_assoc]
              · apply owns_initial hSession hDraws hKinds
                  hBound ((hEvent i).trans hActors)
                exact
                  List.mem_append_right _
                    (List.mem_singleton_self _)

/- A step of a response keeps the draws apart. -/
theorem Owned.act
    {ctx : ServerContext F Chunk}
    {events : List ServerEvent}
    {server next : Server F Chunk}
    {owners : List (Nat × Draw)}
    (hOwned : server.Owned ctx events owners)
    {i : Nat}
    {actor : StreamActor}
    (hAct : server.act ctx i actor = some next) :
    ∃ owners,
      next.Owned ctx (events ++ [.act i actor]) owners := by
  unfold Server.act at hAct
  cases hExchange : server.exchanges[i]? with
  | none => simp [hExchange] at hAct
  | some exchange =>
      have hLength :=
        (List.getElem?_eq_some_iff.mp hExchange).1
      cases exchange with
      | answered response => simp [hExchange] at hAct
      | dispatched reqId warpReq => simp [hExchange] at hAct
      | streaming opts state =>
          simp only [hExchange, Option.map_eq_some_iff]
            at hAct
          rcases hAct with ⟨stepped, hStep, rfl⟩
          rcases hOwned.exchanges i _ hExchange with
            ⟨hSession, hFresh, results, hReply, hRun⟩
          rcases StreamState.step_draws hStep with
            ⟨drawn, hDraws⟩
          let added :=
            List.replicate drawn (i, Draw.pump state.minted)
          refine ⟨owners ++ added, ?_⟩
          apply hOwned.set hLength
          · intro j hNe
            exact
              actorsOf_append_act_of_ne (Ne.symm hNe) events
                actor
          · intro owner hMem
            rw [List.eq_of_mem_replicate hMem]
          · exact
              nodup_append_replicate hOwned.distinct hDraws
                hFresh
          · rw [List.length_append, List.length_replicate,
              hOwned.minted, hDraws.minted]
          · refine
              ⟨hSession.append added, ?_, results,
                List.mem_append_left _ hReply, ?_⟩
            · intro hRunning n hMem
              rcases hDraws.running hRunning with
                ⟨hBefore, hMinted⟩
              rw [hMinted]
              rcases List.mem_append.mp hMem with hOld | hNew
              · exact
                  Nat.lt_add_right drawn
                    (hFresh hBefore n hOld)
              · rcases List.mem_replicate.mp hNew with
                  ⟨hDrawn, hEq⟩
                obtain rfl := Draw.pump.inj (Prod.mk.inj hEq).2
                exact
                  Nat.lt_add_of_pos_right
                    (Nat.pos_of_ne_zero hDrawn)
            · intro own hOwn
              have hBefore :=
                hRun own (fun n uuid hDrawn =>
                  hOwn n uuid (hDrawn.append added))
              have hActors :
                  actorsOf i (events ++ [.act i actor]) =
                    actorsOf i events ++ [actor] := by
                rw [actorsOf_append]
                simp [actorsOf]
              rw [hActors, Actors.run_append_singleton,
                hBefore, Option.bind_some]
              apply hDraws.others own
              intro hDrawn
              -- The one UUID drawn is the next of the supply.
              have hNext :=
                hOwn state.minted _
                  (drawn_of_added (n := 0)
                    (show added[0]? =
                        some (i, .pump state.minted) by
                      simp only [added, hDrawn]
                      rfl)
                    ctx.uuids)
              rw [hNext, hOwned.minted, Nat.sub_self]

/- Step rule: every event keeps the draws apart. -/
theorem owned_step
    {ctx : ServerContext F Chunk}
    {events : List ServerEvent}
    {server next : Server F Chunk}
    (hOwned : ∃ owners, server.Owned ctx events owners)
    {event : ServerEvent}
    (hStep : (proxyServer ctx).step event server = some next) :
    ∃ owners, next.Owned ctx (events ++ [event]) owners := by
  rcases hOwned with ⟨owners, hOwned⟩
  cases event with
  | arrive req =>
      obtain rfl := Option.some.inj hStep
      exact hOwned.arrive req
  | reply exchange result => exact hOwned.reply hStep
  | act exchange actor => exact hOwned.act hStep

/- Run rule: the draws are apart after every run. -/
theorem owned_run
    {ctx : ServerContext F Chunk}
    {events : List ServerEvent}
    {server : Server F Chunk}
    (hRun :
      (proxyServer ctx).run events Server.new =
        some server) :
    ∃ owners, server.Owned ctx events owners := by
  refine
    Actors.run_invariant
      (I := fun events server =>
        ∃ owners, Server.Owned ctx events server owners)
      ⟨[], ?_⟩
      (fun _ _ _ _ hOwned hStep => owned_step hOwned hStep)
      hRun
  refine
    { minted := rfl
      distinct := List.nodup_nil
      known := ?_
      silent := fun _ _ => rfl
      exchanges := ?_ }
  · intro owner hMem
    exact absurd hMem List.not_mem_nil
  · intro i exchange hExchange
    simp [Server.new] at hExchange

end Server

end WarpByokProxy
