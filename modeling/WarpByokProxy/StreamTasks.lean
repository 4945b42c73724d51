import WarpByokProxy.Library.Actors
import WarpByokProxy.RouteMultiAgent

/-
  The tasks that serve one response, as actors: the task of
  `converse_stream` in `bedrock_client.rs` that drains the
  SDK's stream, the task that runs `pump_stream` in
  `route_multi_agent.rs`, and the client.

  The tasks are connected by two channels of capacity 32. A
  task suspends at each receive and at each send, so one step
  is what it does between two of these points. A receive on
  an empty channel fails once the sender has stopped, and a
  send fails once the receiver is gone.

  Key definitions include:
    * `DrainTask`
    * `PumpTask`
    * `StreamState`
    * `StreamState.drainStep`
    * `StreamState.pumpStep`
    * `streamTasks`
-/

------------------------------------------------------------
-- States Of The Tasks
------------------------------------------------------------

namespace WarpByokProxy

variable {F Chunk : Type}

/-
  The task that drains the SDK's stream, with what the calls
  of `recv` that are still to come will return.
-/
inductive DrainTask where
  | receiving
      (results :
        List
          (Except String (Option Sdk.ConverseStreamOutput)))
  | sending
      (item : Except String BedrockEvent)
      (results :
        List
          (Except String (Option Sdk.ConverseStreamOutput)))
  | stopped

/-
  The task of the pump. `frames` are still to be translated
  and `chunks` are still to be sent; the pump stops after
  them if the stream has failed.
-/
inductive PumpTask (F Chunk : Type) where
  | running
      (acc : StreamAccumulator)
      (adapter : UiAdapter)
      (frames : List (OzResponseFrame F))
      (chunks : List Chunk)
      (failed : Bool)
  | stopped

/- The client that reads the body of the response. -/
structure BodyReader (Chunk : Type) where
  received : List Chunk
  connected : Bool

/- All tasks and both channels. -/
structure StreamState (F Chunk : Type) where
  drain : DrainTask
  events : Channel (Except String BedrockEvent) 32
  pump : PumpTask F Chunk
  body : Channel Chunk 32
  reader : BodyReader Chunk

/- The parties that take steps, and the loss of the client. -/
inductive StreamActor where
  | drain
  | pump
  | reader
  | disconnect
deriving DecidableEq, Repr

/- The task has stopped, and its ends of channels are gone. -/
def DrainTask.isStopped : DrainTask → Bool
  | .stopped => true
  | _ => false

def PumpTask.isStopped : PumpTask F Chunk → Bool
  | .stopped => true
  | _ => false

end WarpByokProxy

------------------------------------------------------------
-- Steps
------------------------------------------------------------

namespace WarpByokProxy

variable {F Chunk : Type}

/- The task once an item is sent; an error is the last one. -/
def DrainTask.afterSend
    (item : Except String BedrockEvent)
    (results :
      List
        (Except String (Option Sdk.ConverseStreamOutput))) :
    DrainTask :=
  match item with
  | .ok _ => .receiving results
  | .error _ => .stopped

namespace StreamState

/- Drain one event of the SDK, or send what was drained. -/
def drainStep
    (serde : SerdeJson F)
    (state : StreamState F Chunk) :
    Option (StreamState F Chunk) :=
  match state.drain with
  | .stopped => none
  | .receiving [] => some { state with drain := .stopped }
  | .receiving (.ok none :: _) =>
      some { state with drain := .stopped }
  | .receiving (.ok (some sdkEvent) :: rest) =>
      match translateOutputEvent serde sdkEvent with
      | none => some { state with drain := .receiving rest }
      | some event =>
          some { state with drain := .sending (.ok event) rest }
  | .receiving (.error e :: rest) =>
      some
        { state with
          drain :=
            .sending (.error ("bedrock stream recv: " ++ e))
              rest }
  | .sending item rest =>
      if state.pump.isStopped then
        some { state with drain := .stopped }
      else
        (state.events.send? item).map (fun events =>
          { state with
            events := events
            drain := .afterSend item rest })

/-
  Send the next chunk, or translate the next frame, or
  handle the next event.
-/
def pumpStep
    (serde : SerdeJson F)
    (uuids : Nat → String)
    (encodeSseEvent : Wmaa.ResponseEvent → Chunk)
    (state : StreamState F Chunk) :
    Option (StreamState F Chunk) :=
  match state.pump with
  | .stopped => none
  | .running acc adapter frames (chunk :: chunks) failed =>
      if state.reader.connected then
        (state.body.send? chunk).map (fun body =>
          { state with
            body := body
            pump := .running acc adapter frames chunks failed })
      else
        some { state with pump := .stopped }
  | .running acc adapter (frame :: frames) [] failed =>
      let translated := adapter.translate serde uuids frame
      some
        { state with
          pump :=
            .running acc translated.1 frames
              (translated.2.map encodeSseEvent) failed }
  | .running _ _ [] [] true =>
      some { state with pump := .stopped }
  | .running acc adapter [] [] false =>
      match state.events.recv? with
      | some (.ok event, events) =>
          let handled := acc.handle serde event
          some
            { state with
              events := events
              pump :=
                .running handled.1 adapter handled.2 []
                  false }
      | some (.error _, events) =>
          let synth := acc.handle serde (.messageStop "error")
          some
            { state with
              events := events
              pump :=
                .running synth.1 adapter synth.2 [] true }
      | none =>
          if state.drain.isStopped then
            some { state with pump := .stopped }
          else
            none

/- Read the next chunk of the body. -/
def readStep
    (state : StreamState F Chunk) :
    Option (StreamState F Chunk) :=
  if state.reader.connected then
    state.body.recv?.map (fun (chunk, body) =>
      { state with
        body := body
        reader :=
          { received := state.reader.received ++ [chunk]
            connected := true } })
  else
    none

/- The client goes away. -/
def disconnectStep
    (state : StreamState F Chunk) :
    Option (StreamState F Chunk) :=
  if state.reader.connected then
    some
      { state with
        reader := { state.reader with connected := false } }
  else
    none

/- The state in which the tasks are spawned. -/
def initial
    (uuids : Nat → String)
    (opts : UiAdapterOpts)
    (results :
      List
        (Except String (Option Sdk.ConverseStreamOutput))) :
    StreamState F Chunk where
  drain := .receiving results
  events := .empty
  pump := .running .new (UiAdapter.new uuids opts) [] [] false
  body := .empty
  reader := { received := [], connected := true }

end StreamState

/- The tasks and the client as a system of actors. -/
def streamTasks
    (serde : SerdeJson F)
    (uuids : Nat → String)
    (encodeSseEvent : Wmaa.ResponseEvent → Chunk) :
    Actors StreamActor (StreamState F Chunk) where
  step
    | .drain => StreamState.drainStep serde
    | .pump =>
        StreamState.pumpStep serde uuids encodeSseEvent
    | .reader => StreamState.readStep
    | .disconnect => StreamState.disconnectStep

end WarpByokProxy
