import WarpByokProxy.BedrockClient
import WarpByokProxy.Library.Base64
import WarpByokProxy.Library.Sink
import WarpByokProxy.UiAdapter

/-
  The stream pump of the multi-agent route, translated from
  `pump_stream` and `flush_frames` in `route_multi_agent.rs`,
  and the task that feeds it, from `converse_stream` in
  `bedrock_client.rs`.

  The body channel is a sink whose reader is the client. The
  pump takes the encoding of an event as a parameter, of
  which `encodeSseEvent` is the instance; the protobuf codec
  in it belongs to `prost`. Counters that only serve the log
  are left out.

  Key definitions include:
    * `Prost`
    * `encodeSseEvent`
    * `drainStream`
    * `flushFrames`
    * `pumpLoop`
    * `pumpStream`
-/

------------------------------------------------------------
-- Events Of The Body
------------------------------------------------------------

namespace WarpByokProxy

variable {ResponseEvent : Type}

/-
  The protobuf codec of response events, over the whole of
  the generated type: the proxy builds few of its values.
-/
structure Prost (ResponseEvent : Type) where
  encode : ResponseEvent → List UInt8
  decode : List UInt8 → Option ResponseEvent

/- The bytes of an ASCII text. -/
def asciiBytes
    (text : String) : List UInt8 :=
  text.toList.map (fun c => UInt8.ofNat c.toNat)

/- The symbols of URL-safe base64. -/
def urlSafeSymbols : List UInt8 :=
  asciiBytes
    ("ABCDEFGHIJKLMNOPQRSTUVWXYZ" ++
      "abcdefghijklmnopqrstuvwxyz0123456789-_")

/- The symbol of six bits. -/
def urlSafeSymbol
    (i : Fin 64) : UInt8 :=
  urlSafeSymbols.getD i.val 0

/- The six bits of a symbol. -/
def urlSafeValue
    (c : UInt8) : Option (Fin 64) :=
  (urlSafeSymbols.idxOf? c).map Base64.sixBits

theorem urlSafeValue_urlSafeSymbol :
    ∀ i, urlSafeValue (urlSafeSymbol i) = some i := by
  decide +kernel

theorem urlSafeSymbol_ne_pad :
    ∀ i, urlSafeSymbol i ≠ UInt8.ofNat '='.toNat := by
  decide +kernel

/- `URL_SAFE`, the padded URL-safe base64. -/
def urlSafe : Base64.Alphabet UInt8 where
  symbol := urlSafeSymbol
  value := urlSafeValue
  pad := UInt8.ofNat '='.toNat
  value_symbol := urlSafeValue_urlSafeSymbol
  symbol_ne_pad := urlSafeSymbol_ne_pad

/- Encode an event as a single `data:` line. -/
def encodeSseEvent
    (prost : Prost ResponseEvent)
    (evt : ResponseEvent) : List UInt8 :=
  asciiBytes "data: " ++ urlSafe.encode (prost.encode evt) ++
    asciiBytes "\n\n"

end WarpByokProxy

------------------------------------------------------------
-- The Feeding Task
------------------------------------------------------------

namespace WarpByokProxy

variable {F : Type}

/-
  What the pump receives while the SDK's stream is drained,
  given what each `recv` returns: an event, the end of the
  stream, or an error.
-/
def drainStream
    (serde : SerdeJson F) :
    List (Except String (Option Sdk.ConverseStreamOutput)) →
      List (Except String BedrockEvent)
  | [] => []
  | .ok (some sdkEvent) :: rest =>
      match translateOutputEvent serde sdkEvent with
      | none => drainStream serde rest
      | some event => .ok event :: drainStream serde rest
  | .ok none :: _ => []
  | .error e :: _ =>
      [.error ("bedrock stream recv: " ++ e)]

end WarpByokProxy

------------------------------------------------------------
-- The Pump
------------------------------------------------------------

namespace WarpByokProxy

variable {E F Chunk : Type}

/-
  Translate a batch of frames and send the encoded events.
  The error is the channel of a client that hung up.
-/
def flushFrames
    (serde : SerdeJson F)
    (uuids : Nat → String)
    (encodeSseEvent : Wmaa.ResponseEvent → Chunk) :
    List (OzResponseFrame F) → UiAdapter → Sink Chunk →
      Except (Sink Chunk) (UiAdapter × Sink Chunk)
  | [], adapter, tx => .ok (adapter, tx)
  | frame :: frames, adapter, tx =>
      let translated := adapter.translate serde uuids frame
      match tx.sendAll (translated.2.map encodeSseEvent) with
      | .error closed => .error closed
      | .ok tx =>
          flushFrames serde uuids encodeSseEvent frames
            translated.1 tx

/- Consume the stream, up to its first error. -/
def pumpLoop
    (serde : SerdeJson F)
    (uuids : Nat → String)
    (encodeSseEvent : Wmaa.ResponseEvent → Chunk) :
    List (Except E BedrockEvent) →
      StreamAccumulator → UiAdapter → Sink Chunk → Sink Chunk
  | [], _, _, tx => tx
  | .error _ :: _, acc, adapter, tx =>
      let synth := acc.handle serde (.messageStop "error")
      match flushFrames serde uuids encodeSseEvent
          synth.2 adapter tx with
      | .error closed => closed
      | .ok (_, tx) => tx
  | .ok event :: rest, acc, adapter, tx =>
      let handled := acc.handle serde event
      match flushFrames serde uuids encodeSseEvent
          handled.2 adapter tx with
      | .error closed => closed
      | .ok (adapter, tx) =>
          pumpLoop serde uuids encodeSseEvent rest
            handled.1 adapter tx

/- Pump a stream into the body of a response. -/
def pumpStream
    (serde : SerdeJson F)
    (uuids : Nat → String)
    (encodeSseEvent : Wmaa.ResponseEvent → Chunk)
    (opts : UiAdapterOpts)
    (bedrockStream : List (Except E BedrockEvent))
    (tx : Sink Chunk) : Sink Chunk :=
  pumpLoop serde uuids encodeSseEvent bedrockStream .new
    (UiAdapter.new uuids opts) tx

end WarpByokProxy
