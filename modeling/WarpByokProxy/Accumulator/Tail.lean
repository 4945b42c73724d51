import WarpByokProxy.Accumulator.Deltas

/-
  Stops and usage reports pass through the accumulator: each
  yields its own frame, and nothing else yields such frames.

  Key definitions include:
    * `BedrockEvent.stopReason?`
    * `BedrockEvent.usageFrame?`
    * `BedrockEvent.isMetadata`
    * `OzResponseFrame.stopReason?`
    * `OzResponseFrame.isUsage`

  Key theorems include:
    * `StreamAccumulator.stopReasons_output`
    * `StreamAccumulator.usage_output`
-/

------------------------------------------------------------
-- Stops And Usage
------------------------------------------------------------

namespace WarpByokProxy

variable {F : Type}

/- The reason with which an event stops the message. -/
def BedrockEvent.stopReason? : BedrockEvent → Option String
  | .messageStop stopReason => some stopReason
  | _ => none

/- The usage frame that an event calls for. -/
def BedrockEvent.usageFrame? :
    BedrockEvent → Option (OzResponseFrame F)
  | .messageStreamMetadata
      inputTokens outputTokens cacheRead cacheWrite =>
      some (.usageUpdate
        inputTokens outputTokens cacheRead cacheWrite)
  | _ => none

/- The event reports metadata. -/
def BedrockEvent.isMetadata : BedrockEvent → Bool
  | .messageStreamMetadata _ _ _ _ => true
  | _ => false

/- The reason with which a frame ends the response. -/
def OzResponseFrame.stopReason? :
    OzResponseFrame F → Option String
  | .done stopReason => some stopReason
  | _ => none

/- The frame reports usage. -/
def OzResponseFrame.isUsage : OzResponseFrame F → Bool
  | .usageUpdate _ _ _ _ => true
  | _ => false

end WarpByokProxy

------------------------------------------------------------
-- Runs
------------------------------------------------------------

namespace WarpByokProxy

namespace StreamAccumulator

variable {F : Type}

/- Step rule: only a message stop ends the response. -/
theorem stopReasons_handle
    (serde : SerdeJson F)
    (self : StreamAccumulator)
    (event : BedrockEvent) :
    (self.handle serde event).2.filterMap
        OzResponseFrame.stopReason? =
      event.stopReason?.toList := by
  cases event with
  | messageStart => rfl
  | contentBlockStart => rfl
  | contentBlockDelta index deltaJson =>
      exact filterMap_handleDelta_eq_nil (fun _ => rfl)
        (fun _ _ => rfl) (fun _ _ => rfl) serde _ deltaJson
  | contentBlockStop index =>
      exact filterMap_handle_stop_eq_nil
        (fun _ _ _ => rfl) rfl serde self
  | messageStop => rfl
  | messageStreamMetadata => rfl

/- Step rule: only metadata reports usage. -/
theorem usage_handle
    (serde : SerdeJson F)
    (self : StreamAccumulator)
    (event : BedrockEvent) :
    (self.handle serde event).2.filter
        OzResponseFrame.isUsage =
      event.usageFrame?.toList := by
  cases event with
  | messageStart => rfl
  | contentBlockStart => rfl
  | contentBlockDelta index deltaJson =>
      rw [← List.filterMap_eq_filter]
      exact filterMap_handleDelta_eq_nil (fun _ => rfl)
        (fun _ _ => rfl) (fun _ _ => rfl) serde _ deltaJson
  | contentBlockStop index =>
      rw [← List.filterMap_eq_filter]
      exact filterMap_handle_stop_eq_nil
        (fun _ _ _ => rfl) rfl serde self
  | messageStop => rfl
  | messageStreamMetadata => rfl

/- The stop reasons of a run are those of its events. -/
theorem stopReasons_output
    (serde : SerdeJson F)
    (self : StreamAccumulator)
    (events : List BedrockEvent) :
    ((machine serde).output self events).filterMap
        OzResponseFrame.stopReason? =
      events.filterMap BedrockEvent.stopReason? := by
  apply
    Transducer.read_output
      (List.filterMap OzResponseFrame.stopReason?)
  · rfl
  · intro first second
    exact List.filterMap_append
  · exact stopReasons_handle serde

/- The usage frames of a run are those of its events. -/
theorem usage_output
    (serde : SerdeJson F)
    (self : StreamAccumulator)
    (events : List BedrockEvent) :
    ((machine serde).output self events).filter
        OzResponseFrame.isUsage =
      events.filterMap BedrockEvent.usageFrame? := by
  apply
    Transducer.read_output
      (List.filter OzResponseFrame.isUsage)
  · rfl
  · intro first second
    exact List.filter_append first second
  · exact usage_handle serde

/- A run on metadata alone yields its usage frames alone. -/
theorem output_of_forall_metadata
    (serde : SerdeJson F)
    (self : StreamAccumulator)
    {events : List BedrockEvent}
    (hEvents :
      ∀ event ∈ events, event.isMetadata = true) :
    ∀ frame ∈ (machine serde).output self events,
      frame.isUsage = true := by
  induction events generalizing self with
  | nil => simp
  | cons event events ih =>
      have hHead := hEvents event List.mem_cons_self
      intro frame hFrame
      rw [Transducer.output_cons, List.mem_append] at hFrame
      rcases hFrame with hFirst | hRest
      · cases event with
        | messageStreamMetadata =>
            have hEq := List.mem_singleton.mp hFirst
            rw [hEq]
            rfl
        | messageStart =>
            simp [BedrockEvent.isMetadata] at hHead
        | contentBlockStart =>
            simp [BedrockEvent.isMetadata] at hHead
        | contentBlockDelta =>
            simp [BedrockEvent.isMetadata] at hHead
        | contentBlockStop =>
            simp [BedrockEvent.isMetadata] at hHead
        | messageStop =>
            simp [BedrockEvent.isMetadata] at hHead
      · exact ih _ (fun other hOther =>
          hEvents other (List.mem_cons_of_mem _ hOther))
          frame hRest

end StreamAccumulator

end WarpByokProxy
