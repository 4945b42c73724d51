import WarpByokProxy.Frame
import WarpByokProxy.Library.Transducer
import WarpByokProxy.Serde
import WarpByokProxy.WarpApi

/-
  The UI adapter, translated from `ui_adapter.rs`: a state
  machine from response frames to protocol events.

  `Uuid::new_v4` draws from an infinite supply of rendered
  UUIDs. The field `minted` counts the draws made so far; it
  stands for the generator's own state and is not a field of
  the source.

  Key definitions include:
    * `UiAdapter`
    * `numberedUuids`
    * `UiAdapter.ensureKindMessage`
    * `UiAdapter.toolUseEvent`
    * `UiAdapter.streamFinishedEvent`
    * `UiAdapter.translate`
    * `UiAdapter.machine`
-/

------------------------------------------------------------
-- Adapter State
------------------------------------------------------------

namespace WarpByokProxy

/- The identifiers echoed at the start of a response. -/
structure UiAdapterOpts where
  conversationId : Option String
  requestId : Option String
  runId : Option String
deriving DecidableEq

/- The kind of content that the open message holds. -/
inductive ActiveKind where
  | agentOutput
  | agentReasoning
  | toolCall
deriving DecidableEq, Repr

/- The state of the adapter over one turn. -/
structure UiAdapter where
  opts : UiAdapterOpts
  sentInit : Bool
  taskId : String
  messageId : String
  activeKind : Option ActiveKind
  pendingUsage : Option Wmaa.TokenUsage
  minted : Nat
deriving DecidableEq

/- A supply that numbers the UUIDs it gives out. -/
def numberedUuids : Nat → String :=
  Nat.repr

/- A numbered supply never repeats a UUID. -/
theorem numberedUuids_injective :
    Function.Injective numberedUuids := by
  intro left right hEq
  have hDigits :
      Nat.toDigits 10 left = Nat.toDigits 10 right := by
    rw [← Nat.toList_repr, ← Nat.toList_repr]
    exact congrArg String.toList hEq
  have hValues :=
    congrArg (fun digits => Nat.ofDigitChars 10 digits 0)
      hDigits
  simpa [Nat.ofDigitChars_toDigits] using hValues

namespace UiAdapter

/- The message id rendered from a UUID. -/
def messageIdOf
    (uuid : String) : String :=
  "msg-" ++ uuid

/- A new adapter draws its task id and a first message id. -/
def new
    (uuids : Nat → String)
    (opts : UiAdapterOpts) : UiAdapter where
  opts := opts
  sentInit := false
  taskId := "task-" ++ uuids 0
  messageId := messageIdOf (uuids 1)
  activeKind := none
  pendingUsage := none
  minted := 2

end UiAdapter

/- `u32::try_from` on a `u64`. -/
def u32TryFromU64
    (value : UInt64) : Option UInt32 :=
  if value.toNat < UInt32.size then
    some (UInt32.ofNat value.toNat)
  else
    none

/- A token count for the client; large counts saturate. -/
def toU32
    (value : UInt64) : UInt32 :=
  (u32TryFromU64 value).getD 4294967295

/- A count that fits is narrowed without change. -/
theorem toNat_toU32
    {value : UInt64}
    (hFits : value.toNat < UInt32.size) :
    (toU32 value).toNat = value.toNat := by
  simp only [toU32, u32TryFromU64, hFits, if_true,
    Option.getD_some, UInt32.toNat_ofNat']
  exact Nat.mod_eq_of_lt hFits

end WarpByokProxy

------------------------------------------------------------
-- Event Constructors
------------------------------------------------------------

namespace WarpByokProxy

namespace UiAdapter

variable {F : Type}

/- Wrap client actions into an event. -/
def clientActionsEvent
    (actions : List Wmaa.ClientAction) :
    Wmaa.ResponseEvent where
  type := some (.clientActions actions)

/- The event that opens a response. -/
def streamInitEvent
    (self : UiAdapter) : Wmaa.ResponseEvent where
  type := some (.init
    { conversationId := self.opts.conversationId.getD ""
      requestId := self.opts.requestId.getD ""
      runId := self.opts.runId.getD "" })

/- The event that creates the adapter's task. -/
def createTaskEvent
    (self : UiAdapter) : Wmaa.ResponseEvent :=
  clientActionsEvent
    [{ action := some (.createTask
        (some { id := self.taskId, messages := [] })) }]

end UiAdapter

/- The empty content with which a message is registered. -/
def ActiveKind.emptyContent :
    ActiveKind → Wmaa.MessageContent
  | .agentOutput => .agentOutput { text := "" }
  | .agentReasoning =>
      .agentReasoning
        { reasoning := "", finishedDuration := none }
  | .toolCall =>
      .toolCall
        { toolCallId := ""
          tool := some (.server { payload := "" }) }

namespace UiAdapter

variable {F : Type}

/- The current message of the adapter's task. -/
def messageWith
    (self : UiAdapter)
    (content : Wmaa.MessageContent) : Wmaa.Message where
  id := self.messageId
  taskId := self.taskId
  message := some content

/- The event that registers an empty message of a kind. -/
def addMessagesToTaskEventFor
    (self : UiAdapter)
    (kind : ActiveKind) : Wmaa.ResponseEvent :=
  clientActionsEvent
    [{ action := some (.addMessagesToTask self.taskId
        [self.messageWith kind.emptyContent]) }]

/- The event that appends content under one mask path. -/
def appendMessageEvent
    (self : UiAdapter)
    (content : Wmaa.MessageContent)
    (path : String) : Wmaa.ResponseEvent :=
  clientActionsEvent
    [{ action := some (.appendToMessageContent self.taskId
        (some (self.messageWith content))
        (some { paths := [path] })) }]

/- Append text. -/
def appendTextEvent
    (self : UiAdapter)
    (text : String) : Wmaa.ResponseEvent :=
  self.appendMessageEvent (.agentOutput { text := text })
    "agent_output.text"

/- Append reasoning. -/
def appendThinkingEvent
    (self : UiAdapter)
    (text : String) : Wmaa.ResponseEvent :=
  self.appendMessageEvent
    (.agentReasoning
      { reasoning := text, finishedDuration := none })
    "agent_reasoning.reasoning"

/- The opaque payload that stands for a tool call. -/
def toolUsePayload
    (serde : SerdeJson F)
    (id name : String)
    (input : Json F) : String :=
  serde.toString (.object
    [("id", .string id),
      ("name", .string name),
      ("input", input)])

/- The message content that stands for a tool call. -/
def toolCallOf
    (serde : SerdeJson F)
    (id name : String)
    (input : Json F) : Wmaa.ToolCall where
  toolCallId := id
  tool := some (.server
    { payload := toolUsePayload serde id name input })

/- Append a tool call. -/
def toolUseEvent
    (serde : SerdeJson F)
    (self : UiAdapter)
    (id name : String)
    (input : Json F) : Wmaa.ResponseEvent :=
  self.appendMessageEvent
    (.toolCall (toolCallOf serde id name input))
    "tool_call.server.payload"

/- The client's reason for a stop reason. -/
def reasonVariant
    (reason : String) : Wmaa.Reason :=
  match reason with
  | "max_tokens" => .maxTokenLimit
  | "quota_limit" => .quotaLimit
  | "context_window_exceeded" => .contextWindowExceeded
  | "end_turn" => .done
  | "stop_sequence" => .done
  | "tool_use" => .done
  | "done" => .done
  | _ => .other

/- The event that ends a response. -/
def streamFinishedEvent
    (self : UiAdapter)
    (reason : String) : Wmaa.ResponseEvent where
  type := some (.finished
    { reason := some (reasonVariant reason)
      tokenUsage := self.pendingUsage.toList })

end UiAdapter

end WarpByokProxy

------------------------------------------------------------
-- Frame Translation
------------------------------------------------------------

namespace WarpByokProxy

/- The frames that open the response if nothing has yet. -/
def OzResponseFrame.needsPrelude {F : Type} :
    OzResponseFrame F → Bool
  | .textDelta _ _ => true
  | .thinkingDelta _ _ _ => true
  | .toolUse _ _ _ _ => true
  | .done _ => true
  | _ => false

namespace UiAdapter

variable {F : Type}

/- Emit the two-part prelude before the first event. -/
def sendPrelude
    (self : UiAdapter)
    (frame : OzResponseFrame F) :
    UiAdapter × List Wmaa.ResponseEvent :=
  if !self.sentInit && frame.needsPrelude then
    ({ self with sentInit := true },
      [self.streamInitEvent, self.createTaskEvent])
  else
    (self, [])

/-
  Make sure that the open message holds the given kind,
  registering a new message under a fresh id if it does not.
-/
def ensureKindMessage
    (uuids : Nat → String)
    (self : UiAdapter)
    (kind : ActiveKind) :
    UiAdapter × List Wmaa.ResponseEvent :=
  if self.activeKind = some kind then
    (self, [])
  else
    let rotated :=
      { self with
        messageId := messageIdOf (uuids self.minted)
        activeKind := some kind
        minted := self.minted + 1 }
    (rotated, [rotated.addMessagesToTaskEventFor kind])

/- The arms of the translation, after the prelude. -/
def translateFrame
    (serde : SerdeJson F)
    (uuids : Nat → String)
    (self : UiAdapter) :
    OzResponseFrame F →
      UiAdapter × List Wmaa.ResponseEvent
  | .textDelta _ text =>
      let ensured :=
        self.ensureKindMessage uuids .agentOutput
      (ensured.1,
        ensured.2 ++ [ensured.1.appendTextEvent text])
  | .thinkingDelta _ text _ =>
      let ensured :=
        self.ensureKindMessage uuids .agentReasoning
      (ensured.1,
        ensured.2 ++ [ensured.1.appendThinkingEvent text])
  | .toolUse _ id name input =>
      let ensured := self.ensureKindMessage uuids .toolCall
      (ensured.1,
        ensured.2 ++
          [ensured.1.toolUseEvent serde id name input])
  | .toolUseInputDelta _ _ _ => (self, [])
  | .blockStop _ => (self, [])
  | .usageUpdate
      inputTokens outputTokens cacheRead cacheWrite =>
      -- Kept until `done`; a later update replaces it.
      ({ self with
        pendingUsage := some
          { totalInput := toU32 inputTokens
            output := toU32 outputTokens
            inputCacheRead := toU32 cacheRead
            inputCacheWrite := toU32 cacheWrite } }, [])
  | .done stopReason =>
      (self, [self.streamFinishedEvent stopReason])

/- Translate one frame into the events for the client. -/
def translate
    (serde : SerdeJson F)
    (uuids : Nat → String)
    (self : UiAdapter)
    (frame : OzResponseFrame F) :
    UiAdapter × List Wmaa.ResponseEvent :=
  let opened := self.sendPrelude frame
  let translated :=
    opened.1.translateFrame serde uuids frame
  (translated.1, opened.2 ++ translated.2)

/- The adapter as a transducer. -/
def machine
    (serde : SerdeJson F)
    (uuids : Nat → String) :
    Transducer UiAdapter (OzResponseFrame F)
      Wmaa.ResponseEvent where
  step := translate serde uuids

@[simp] theorem machine_step
    (serde : SerdeJson F)
    (uuids : Nat → String)
    (self : UiAdapter)
    (frame : OzResponseFrame F) :
    (machine serde uuids).step self frame =
      self.translate serde uuids frame := rfl

end UiAdapter

end WarpByokProxy
