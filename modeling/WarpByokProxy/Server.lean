import WarpByokProxy.ConverseStream
import WarpByokProxy.StreamTasks

/-
  The server, translated from `handle_with_context` in
  `server.rs` and `handle` in `route_multi_agent.rs`: its
  exchanges with clients, and the tasks of the responses that
  stream, interleaved in any order.

  An exchange is suspended while its call of Bedrock is under
  way; then it is answered, or it streams. All exchanges draw
  from one supply of UUIDs. A pump draws its first two when
  it is spawned; in the source it does so when it first runs,
  which no other task can observe. TLS and the connections
  are left out.

  Key definitions include:
    * `Http.Request`
    * `ServerContext`
    * `Exchange`
    * `Exchange.head`
    * `Server`
    * `isWarpStubPath`
    * `Server.arrive`
    * `Server.reply`
    * `Server.act`
    * `proxyServer`
-/

------------------------------------------------------------
-- Requests And Responses
------------------------------------------------------------

namespace WarpByokProxy

namespace Http

inductive Method where
  | get
  | post
  | other (name : String)
deriving DecidableEq, Repr

/- A request, with what reading its body returns. -/
structure Request where
  method : Method
  path : String
  body : Except String (List UInt8)

structure Response where
  status : Nat
  headers : List (String × String)
  body : List UInt8
deriving DecidableEq

end Http

namespace Wmaa

/- The metadata of a request. -/
structure Metadata where
  conversationId : String
deriving DecidableEq

/- A decoded request, with the metadata beside it. -/
structure DecodedRequest where
  metadata : Option Metadata
  request : Request
deriving DecidableEq

end Wmaa

/- The bytes of a text. -/
def utf8Bytes
    (text : String) : List UInt8 :=
  text.toUTF8.data.toList

/- The paths that are answered with a stub, when asked for. -/
def isWarpStubPath
    (path : String) : Bool :=
  path = "/graphql" || StringParts.startsWith "/auth/" path

def healthResponse : Http.Response where
  status := 200
  headers := []
  body := utf8Bytes "ok"

def notFoundResponse : Http.Response where
  status := 404
  headers := []
  body := []

/- The stub, an envelope with nothing in it. -/
def warpStubResponse : Http.Response where
  status := 200
  headers := [("content-type", "application/json")]
  body := utf8Bytes "\x7b\"data\":null,\"errors\":[]\x7d"

/- A failure is answered with the text of its error. -/
def errorResponse
    (e : String) : Http.Response where
  status := 500
  headers := []
  body := utf8Bytes e

/- What is put in front of Bedrock's refusal. -/
def dispatchFailed : String :=
  "Bedrock ConverseStream dispatch failed: "

/- The status and the headers of a response that streams. -/
def streamStatus : Nat :=
  200

def streamHeaders : List (String × String) :=
  [("content-type", "text/event-stream"),
    ("cache-control", "no-cache")]

end WarpByokProxy

------------------------------------------------------------
-- State Of The Server
------------------------------------------------------------

namespace WarpByokProxy

variable {F Chunk : Type}

/-
  What the server is started with: the libraries, the supply
  of UUIDs, and the parts of the configuration that are read
  per request.
-/
structure ServerContext (F Chunk : Type) where
  serde : SerdeJson F
  dynMsgToJson : DynMsgToJson F
  builders : Sdk.Builders F
  decodeRequest :
    List UInt8 → Except String Wmaa.DecodedRequest
  encodeSseEvent : Wmaa.ResponseEvent → Chunk
  uuids : Nat → String
  cfg : Config
  stubWarpApi : Bool
  bedrock : RealBedrock F

/-
  An exchange: answered at once, waiting for Bedrock, or
  streaming under its session's identifiers.
-/
inductive Exchange (F Chunk : Type) where
  | answered (response : Http.Response)
  | dispatched
      (reqId : String)
      (warpReq : Wmaa.DecodedRequest)
  | streaming
      (opts : UiAdapterOpts)
      (state : StreamState F Chunk)

/- The status and the headers that the client has so far. -/
def Exchange.head :
    Exchange F Chunk →
      Option (Nat × List (String × String))
  | .answered response =>
      some (response.status, response.headers)
  | .dispatched _ _ => none
  | .streaming _ _ => some (streamStatus, streamHeaders)

/-
  The server: the UUIDs drawn so far, the calls sent to
  Bedrock, and the exchanges in the order of their arrival.
-/
structure Server (F Chunk : Type) where
  minted : Nat
  sent : List (Sdk.ConverseStreamInput F)
  exchanges : List (Exchange F Chunk)

/-
  What happens to the server: a request arrives, Bedrock
  replies to a call, or a task or the client of a response
  takes its step.
-/
inductive ServerEvent where
  | arrive (req : Http.Request)
  | reply
      (exchange : Nat)
      (result :
        Except String
          (List
            (Except String
              (Option Sdk.ConverseStreamOutput))))
  | act (exchange : Nat) (actor : StreamActor)

end WarpByokProxy

------------------------------------------------------------
-- Handling Requests
------------------------------------------------------------

namespace WarpByokProxy

variable {F Chunk : Type}

/- From the body of a request to the call of Bedrock. -/
def prepareCall
    (ctx : ServerContext F Chunk)
    (body : List UInt8) :
    Except String
      (Wmaa.DecodedRequest × Sdk.ConverseStreamInput F) :=
  match ctx.decodeRequest body with
  | .error e => .error ("decode protobuf Request: " ++ e)
  | .ok warpReq =>
      match translateWarpRequest ctx.dynMsgToJson
          warpReq.request ctx.cfg with
      | .error e => .error e
      | .ok input =>
          match ctx.bedrock.converseStreamInput ctx.builders
              input with
          | .error e => .error e
          | .ok call => .ok (warpReq, call)

/- The client's own identifier of the conversation. -/
def givenConversationId
    (warpReq : Wmaa.DecodedRequest) : Option String :=
  (warpReq.metadata.map
    Wmaa.Metadata.conversationId).filter (fun s => s ≠ "")

/-
  The identifiers of a session, and the number of UUIDs that
  are drawn by then.
-/
def bindSession
    (uuids : Nat → String)
    (minted : Nat)
    (reqId : String)
    (warpReq : Wmaa.DecodedRequest) : UiAdapterOpts × Nat :=
  match givenConversationId warpReq with
  | some conversationId =>
      ({ conversationId := some conversationId
         requestId := some ("req-" ++ reqId)
         runId := some ("run-" ++ uuids minted) },
        minted + 1)
  | none =>
      ({ conversationId := some ("conv-" ++ uuids minted)
         requestId := some ("req-" ++ reqId)
         runId := some ("run-" ++ uuids (minted + 1)) },
        minted + 2)

/- The UUIDs that the pump of a response has drawn. -/
def StreamState.minted
    (state : StreamState F Chunk) : Nat :=
  match state.pump with
  | .running _ adapter _ _ _ => adapter.minted
  | .stopped => 0

namespace Server

/- Nothing has happened yet. -/
def new : Server F Chunk where
  minted := 0
  sent := []
  exchanges := []

/- Add an exchange that is answered at once. -/
def answer
    (self : Server F Chunk)
    (response : Http.Response) : Server F Chunk :=
  { self with
    exchanges := self.exchanges ++ [.answered response] }

/- `POST /ai/multi-agent`, up to the call of Bedrock. -/
def handle
    (ctx : ServerContext F Chunk)
    (self : Server F Chunk)
    (body : Except String (List UInt8)) : Server F Chunk :=
  match body with
  | .error e => self.answer (errorResponse ("read body: " ++ e))
  | .ok bytes =>
      let reqId := ctx.uuids self.minted
      let self := { self with minted := self.minted + 1 }
      match prepareCall ctx bytes with
      | .error e => self.answer (errorResponse e)
      | .ok (warpReq, call) =>
          { self with
            sent := self.sent ++ [call]
            exchanges :=
              self.exchanges ++ [.dispatched reqId warpReq] }

/- Route a request by method and path. -/
def arrive
    (ctx : ServerContext F Chunk)
    (self : Server F Chunk)
    (req : Http.Request) : Server F Chunk :=
  match req.method, req.path with
  | .post, "/ai/multi-agent" => self.handle ctx req.body
  | .get, "/health" => self.answer healthResponse
  | _, path =>
      if ctx.stubWarpApi && isWarpStubPath path then
        self.answer warpStubResponse
      else
        self.answer notFoundResponse

/-
  Bedrock replies to the call of an exchange: with an error,
  or with the results that its stream will deliver.
-/
def reply
    (ctx : ServerContext F Chunk)
    (self : Server F Chunk)
    (exchange : Nat)
    (result :
      Except String
        (List
          (Except String
            (Option Sdk.ConverseStreamOutput)))) :
    Option (Server F Chunk) :=
  match self.exchanges[exchange]? with
  | some (.dispatched reqId warpReq) =>
      match result with
      | .error e =>
          some
            { self with
              exchanges :=
                self.exchanges.set exchange
                  (.answered (errorResponse
                    (dispatchFailed ++ e))) }
      | .ok results =>
          let bound :=
            bindSession ctx.uuids self.minted reqId warpReq
          let own := fun n => ctx.uuids (bound.2 + n)
          some
            { self with
              minted := bound.2 + 2
              exchanges :=
                self.exchanges.set exchange
                  (.streaming bound.1
                    (.initial own bound.1 results)) }
  | _ => none

/-
  A task or the client of a response takes its step. What a
  pump draws next comes next in the supply.
-/
def act
    (ctx : ServerContext F Chunk)
    (self : Server F Chunk)
    (exchange : Nat)
    (actor : StreamActor) : Option (Server F Chunk) :=
  match self.exchanges[exchange]? with
  | some (.streaming opts state) =>
      let own := fun n =>
        ctx.uuids (self.minted + (n - state.minted))
      ((streamTasks ctx.serde own ctx.encodeSseEvent).step
          actor state).map (fun next =>
        { self with
          minted :=
            self.minted + (next.minted - state.minted)
          exchanges :=
            self.exchanges.set exchange
              (.streaming opts next) })
  | _ => none

end Server

/- The server as a system whose actors are its events. -/
def proxyServer
    (ctx : ServerContext F Chunk) :
    Actors ServerEvent (Server F Chunk) where
  step
    | .arrive req, server => some (server.arrive ctx req)
    | .reply exchange result, server =>
        server.reply ctx exchange result
    | .act exchange actor, server =>
        server.act ctx exchange actor

end WarpByokProxy
