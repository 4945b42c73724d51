import WarpByokProxy.Library.Framing
import WarpByokProxy.Pump.Body
import WarpByokProxy.Pump.WireEvents

/-
  The body of a response as bytes. An encoded event is a
  frame whose payload has no newline in it, since base64 is
  written without one. A client that splits the body at
  double newlines therefore reads the events that were
  encoded, in whatever chunks the bytes arrive.

  Key definitions include:
    * `ssePayload`
    * `decodeFrames`
    * `decodeBody`

  Key theorems include:
    * `encodeSseEvent_eq_frame`
    * `newline_not_mem_ssePayload`
    * `decodeFrames_ssePayload`
    * `decodeBody_encodeSseEvent`
-/

------------------------------------------------------------
-- Frames Of Events
------------------------------------------------------------

namespace WarpByokProxy

variable {ResponseEvent : Type}

/- The byte that ends a line. -/
def newline : UInt8 :=
  UInt8.ofNat '\n'.toNat

/- The line of an event. -/
def ssePayload
    (prost : Prost ResponseEvent)
    (evt : ResponseEvent) : List UInt8 :=
  asciiBytes "data: " ++ urlSafe.encode (prost.encode evt)

/- An encoded event is the frame of its line. -/
theorem encodeSseEvent_eq_frame
    (prost : Prost ResponseEvent)
    (evt : ResponseEvent) :
    encodeSseEvent prost evt =
      Framing.frame newline (ssePayload prost evt) :=
  rfl

/- No line has a newline in it, whatever its event. -/
theorem newline_not_mem_ssePayload
    (prost : Prost ResponseEvent)
    (evt : ResponseEvent) :
    newline ∉ ssePayload prost evt := by
  have hStart : newline ∉ asciiBytes "data: " := by
    decide +kernel
  have hSymbol : ∀ i, newline ≠ urlSafe.symbol i := by
    decide +kernel
  have hPad : newline ≠ urlSafe.pad := by
    decide +kernel
  intro hMem
  rcases List.mem_append.mp hMem with hMem | hMem
  · exact hStart hMem
  · rcases urlSafe.mem_encode hMem with ⟨i, hEq⟩ | hEq
    · exact hSymbol i hEq
    · exact hPad hEq

/- The bytes of events are the frames of their lines. -/
theorem flatten_map_encodeSseEvent
    (prost : Prost ResponseEvent)
    (events : List ResponseEvent) :
    (events.map (encodeSseEvent prost)).flatten =
      (events.map (ssePayload prost)).flatMap
        (Framing.frame newline) := by
  rw [List.flatMap_def, List.map_map]
  refine congrArg List.flatten ?_
  refine List.map_congr_left (fun evt _ => ?_)
  exact encodeSseEvent_eq_frame prost evt

/- The bytes of events are cut into their lines. -/
theorem scan_encodeSseEvent
    (prost : Prost ResponseEvent)
    (events : List ResponseEvent) :
    Framing.scan newline
        (events.map (encodeSseEvent prost)).flatten =
      (events.map (ssePayload prost), []) := by
  rw [flatten_map_encodeSseEvent]
  refine Framing.scan_frames ?_
  intro payload hMem
  rcases List.mem_map.mp hMem with ⟨evt, -, rfl⟩
  exact newline_not_mem_ssePayload prost evt

end WarpByokProxy

------------------------------------------------------------
-- The Client
------------------------------------------------------------

namespace WarpByokProxy

variable {ResponseEvent : Type}

/- The event of the base64 text in a line. -/
def decodeLine
    (prost : Prost ResponseEvent)
    (b64 : List UInt8) : Option ResponseEvent :=
  (urlSafe.decode b64).bind prost.decode

/- The events of the data lines; each has to be valid. -/
def decodeFrames
    (prost : Prost ResponseEvent)
    (frames : List (List UInt8)) :
    Option (List ResponseEvent) :=
  (frames.filterMap
    (Framing.stripPrefix (asciiBytes "data: "))).mapM
      (decodeLine prost)

/- The events of a body that has arrived as a whole. -/
def decodeBody
    (prost : Prost ResponseEvent)
    (body : List UInt8) :
    Option (List ResponseEvent) :=
  decodeFrames prost (Framing.splitDouble newline body)

/- What stands behind the last frame is no data line. -/
theorem decodeFrames_append_nil
    (prost : Prost ResponseEvent)
    (frames : List (List UInt8)) :
    decodeFrames prost (frames ++ [[]]) =
      decodeFrames prost frames := by
  have hEmpty :
      Framing.stripPrefix (asciiBytes "data: ") [] =
        none := by
    decide +kernel
  rw [decodeFrames, List.filterMap_append,
    List.filterMap_cons, hEmpty, List.filterMap_nil,
    List.append_nil, decodeFrames]

/- Lines are decoded to the events they were made of. -/
theorem decodeFrames_ssePayload
    (prost : Prost ResponseEvent)
    {events : List ResponseEvent}
    (hProst :
      ∀ evt ∈ events,
        prost.decode (prost.encode evt) = some evt) :
    decodeFrames prost (events.map (ssePayload prost)) =
      some events := by
  induction events with
  | nil => rfl
  | cons evt events ih =>
      rw [List.forall_mem_cons] at hProst
      have hLine :
          decodeLine prost
              (urlSafe.encode (prost.encode evt)) =
            some evt := by
        rw [decodeLine, urlSafe.decode_encode,
          Option.bind_some, hProst.1]
      have hTail := ih hProst.2
      rw [decodeFrames] at hTail
      rw [decodeFrames, List.map_cons, List.filterMap_cons,
        ssePayload, Framing.stripPrefix_append]
      simp only [List.mapM_cons, hLine, hTail]
      rfl

/- The whole body is decoded to its events. -/
theorem decodeBody_flatten
    (prost : Prost ResponseEvent)
    {events : List ResponseEvent}
    (hProst :
      ∀ evt ∈ events,
        prost.decode (prost.encode evt) = some evt) :
    decodeBody prost
        (events.map (encodeSseEvent prost)).flatten =
      some events := by
  rw [decodeBody, Framing.splitDouble, scan_encodeSseEvent,
    decodeFrames_append_nil]
  exact decodeFrames_ssePayload prost hProst

/-
  Decoding gives the events that were encoded, however the
  bytes are cut into chunks on their way, both for a client
  that waits for the whole body and for one that reads each
  chunk as it comes.
-/
theorem decodeBody_encodeSseEvent
    (prost : Prost ResponseEvent)
    (events : List ResponseEvent)
    (chunks : List (List UInt8))
    (hProst :
      ∀ evt ∈ events,
        prost.decode (prost.encode evt) = some evt)
    (hChunks :
      chunks.flatten =
        (events.map (encodeSseEvent prost)).flatten) :
    decodeBody prost chunks.flatten = some events ∧
      decodeFrames prost
          ((Framing.reader newline).output [] chunks) =
        some events ∧
      (Framing.reader newline).final [] chunks = [] := by
  rcases Framing.output_reader newline chunks with
    ⟨hOutput, hFinal⟩
  rw [hChunks, scan_encodeSseEvent] at hOutput hFinal
  refine ⟨?_, ?_, hFinal⟩
  · rw [hChunks]
    exact decodeBody_flatten prost hProst
  · rw [hOutput]
    exact decodeFrames_ssePayload prost hProst

/- The events of a response without content. -/
def silentEvents : List Wmaa.ResponseEvent :=
  [{ type :=
      some (.init
        { conversationId := ""
          requestId := "req-0"
          runId := "" }) },
    { type :=
      some (.finished
        { reason := some .done
          tokenUsage := [] }) },
    { type := none }]

/- They arrive cut within payloads and between newlines. -/
theorem decodeBody_encodeSseEvent_silent :
    let chunks : List (List UInt8) :=
      [asciiBytes "data: CgcSBXJ", asciiBytes "lcS0w\n",
        asciiBytes "\ndata: GgIKAA=",
        asciiBytes "=\n\ndata: \n", asciiBytes "\n"]
    decodeBody wireProst chunks.flatten =
        some silentEvents ∧
      decodeFrames wireProst
          ((Framing.reader newline).output [] chunks) =
        some silentEvents ∧
      (Framing.reader newline).final [] chunks = [] :=
  decodeBody_encodeSseEvent _ _ _
    (fun evt _ => decode_encode_wireProst evt)
    (by decide +kernel)

end WarpByokProxy
