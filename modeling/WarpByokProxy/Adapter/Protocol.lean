import WarpByokProxy.Adapter.Appends
import Mathlib.Data.List.Nodup

/-
  The protocol that the adapter's events follow on every
  turn: a two-part prelude, registrations under fresh ids,
  and appends that target the last registered message.

  The proof carries `Conforms`, an invariant between the
  adapter's state and the trace emitted so far, through the
  parts of a translation: the prelude, the registration, the
  append, and the end of the response.

  Key definitions include:
    * `Wmaa.TargetsLastAdded`
    * `Wmaa.FollowsProtocol`
    * `UiAdapter.Conforms`

  Key theorems include:
    * `UiAdapter.conforms_translate`
    * `UiAdapter.conforms_output`
    * `UiAdapter.output_followsProtocol`
-/

------------------------------------------------------------
-- The Protocol
------------------------------------------------------------

namespace WarpByokProxy

namespace Wmaa

/-
  An append targets the message registered last, in that
  message's own variant, under mask paths that start with
  the variant's field.
-/
def TargetsLastAdded
    (before : List Action)
    (action : Action) : Prop :=
  ∀ taskId message mask,
    action = .appendToMessageContent taskId message mask →
      ∃ patch base content registered fieldMask,
        message = some patch ∧
          mask = some fieldMask ∧
          (addedMessages before).getLast? = some base ∧
          patch.id = base.id ∧
          base.message = some registered ∧
          patch.message = some content ∧
          registered.fieldName = content.fieldName ∧
          ∀ path ∈ fieldMask.paths,
            (MaskedFields.segments path).head? =
              some content.fieldName

/- An event that is no part of the prelude. -/
def ResponseEvent.AfterPrelude
    (event : ResponseEvent) : Prop :=
  event.isInit = false ∧
    ∀ action ∈ event.actions, action.isCreateTask = false

/- The trace opens with the prelude for a task. -/
def OpensWith
    (taskId : String)
    (trace : List ResponseEvent) : Prop :=
  ∃ init task rest,
    trace =
        { type := some (.init init) } ::
          UiAdapter.clientActionsEvent
            [{ action := some (.createTask (some task)) }] ::
          rest ∧
      task.id = taskId ∧
      ∀ event ∈ rest, event.AfterPrelude

/- The client event protocol for the events of one turn. -/
structure FollowsProtocol
    (taskId : String)
    (trace : List ResponseEvent) : Prop where
  opening : trace = [] ∨ OpensWith taskId trace
  tasks :
    ∀ action ∈ actionTrace trace,
      ∀ named ∈ action.namedTask?, named = taskId
  distinct :
    ((addedMessages (actionTrace trace)).map
      Message.id).Nodup
  targets :
    Trace.Always TargetsLastAdded (actionTrace trace)

/- Later events keep an opening. -/
theorem OpensWith.append
    {taskId : String}
    {trace events : List ResponseEvent}
    (hOpens : OpensWith taskId trace)
    (hAfter : ∀ event ∈ events, event.AfterPrelude) :
    OpensWith taskId (trace ++ events) := by
  rcases hOpens with ⟨init, task, rest, hTrace, hTask, hRest⟩
  refine ⟨init, task, rest ++ events, ?_, hTask, ?_⟩
  · simp [hTrace]
  · intro event hEvent
    rcases List.mem_append.mp hEvent with hOld | hNew
    · exact hRest event hOld
    · exact hAfter event hNew

end Wmaa

end WarpByokProxy

------------------------------------------------------------
-- The Invariant
------------------------------------------------------------

namespace WarpByokProxy

namespace UiAdapter

open Wmaa

variable {F : Type}

/- The ids minted for messages so far. -/
def mintedIds
    (uuids : Nat → String)
    (count : Nat) : List String :=
  (List.range count).map
    (fun n => messageIdOf (uuids (n + 2)))

theorem mintedIds_succ
    (uuids : Nat → String)
    (count : Nat) :
    mintedIds uuids (count + 1) =
      mintedIds uuids count ++
        [messageIdOf (uuids (count + 2))] := by
  simp [mintedIds, List.range_succ]

/- Distinct UUIDs give distinct message ids. -/
theorem messageIdOf_injective :
    Function.Injective messageIdOf := by
  intro left right hEq
  exact (String.append_right_inj "msg-").mp hEq

theorem mintedIds_nodup
    {uuids : Nat → String}
    (hUuids : Function.Injective uuids)
    (count : Nat) :
    (mintedIds uuids count).Nodup := by
  apply List.Nodup.map _ List.nodup_range
  intro left right hEq
  have hIndex := hUuids (messageIdOf_injective hEq)
  omega

/- What the trace emitted so far says about the state. -/
structure Conforms
    (uuids : Nat → String)
    (adapter : UiAdapter)
    (trace : List ResponseEvent) : Prop where
  opened :
    adapter.sentInit = true → OpensWith adapter.taskId trace
  silent :
    adapter.sentInit = false →
      trace = [] ∧ adapter.activeKind = none
  tasks :
    ∀ action ∈ actionTrace trace,
      ∀ named ∈ action.namedTask?, named = adapter.taskId
  minted :
    ∃ count, adapter.minted = count + 2 ∧
      (addedMessages (actionTrace trace)).map Message.id =
        mintedIds uuids count
  last :
    (addedMessages (actionTrace trace)).getLast? =
      adapter.activeKind.map
        (fun kind => adapter.messageWith kind.emptyContent)
  targets :
    Trace.Always TargetsLastAdded (actionTrace trace)

theorem conforms_new
    (uuids : Nat → String)
    (opts : UiAdapterOpts) :
    Conforms uuids (new uuids opts) [] where
  opened := by simp [new]
  silent := by simp [new]
  tasks := by simp
  minted := ⟨0, rfl, rfl⟩
  last := rfl
  targets := Trace.always_nil _

/- The pending usage is no concern of the trace. -/
theorem Conforms.setUsage
    {uuids : Nat → String}
    {self : UiAdapter}
    {trace : List ResponseEvent}
    (hConforms : Conforms uuids self trace)
    (usage : Option TokenUsage) :
    Conforms uuids { self with pendingUsage := usage }
      trace where
  opened := hConforms.opened
  silent := hConforms.silent
  tasks := hConforms.tasks
  minted := hConforms.minted
  last := hConforms.last
  targets := hConforms.targets

/- The prelude opens a silent trace. -/
theorem Conforms.sendPrelude
    {uuids : Nat → String}
    {self : UiAdapter}
    {trace : List ResponseEvent}
    (hConforms : Conforms uuids self trace)
    (frame : OzResponseFrame F) :
    Conforms uuids (self.sendPrelude frame).1
      (trace ++ (self.sendPrelude frame).2) := by
  unfold UiAdapter.sendPrelude
  by_cases hNeeds :
      (!self.sentInit && frame.needsPrelude) = true
  · simp only [hNeeds, if_true]
    have hSilent : self.sentInit = false := by
      simp only [Bool.and_eq_true, Bool.not_eq_true']
        at hNeeds
      exact hNeeds.1
    rcases hConforms.silent hSilent with ⟨rfl, hKind⟩
    have hActions :
        actionTrace
            [self.streamInitEvent, self.createTaskEvent] =
          [.createTask
            (some { id := self.taskId, messages := [] })] :=
      rfl
    rcases hConforms.minted with ⟨count, hCount, hIds⟩
    refine
      { opened := ?_, silent := ?_, tasks := ?_,
        minted := ?_, last := ?_, targets := ?_ }
    · intro _
      exact ⟨_, _, [], rfl, rfl, by simp⟩
    · simp
    · simp [hActions, Action.namedTask?]
    · refine ⟨count, hCount, ?_⟩
      rw [← hIds]
      rfl
    · rw [List.nil_append, hActions]
      simp [hKind, Action.added]
    · rw [List.nil_append, hActions, Trace.always_singleton]
      intro taskId message mask hAppend
      simp at hAppend
  · simp only [hNeeds]
    simpa using hConforms

/- A registration mints a fresh id for the open message. -/
theorem Conforms.ensureKindMessage
    {uuids : Nat → String}
    {self : UiAdapter}
    {trace : List ResponseEvent}
    (hConforms : Conforms uuids self trace)
    (hSent : self.sentInit = true)
    (kind : ActiveKind) :
    Conforms uuids (self.ensureKindMessage uuids kind).1
      (trace ++ (self.ensureKindMessage uuids kind).2) := by
  unfold UiAdapter.ensureKindMessage
  by_cases hOpen : self.activeKind = some kind
  · simpa [hOpen] using hConforms
  · simp only [hOpen, if_false]
    rcases hConforms.minted with ⟨count, hCount, hIds⟩
    refine
      { opened := ?_, silent := ?_, tasks := ?_,
        minted := ?_, last := ?_, targets := ?_ }
    · intro _
      apply (hConforms.opened hSent).append
      simp [addMessagesToTaskEventFor, clientActionsEvent,
        ResponseEvent.AfterPrelude, ResponseEvent.isInit,
        ResponseEvent.actions, Action.isCreateTask]
    · simp [hSent]
    · intro action hAction
      rw [actionTrace_append, List.mem_append] at hAction
      rcases hAction with hOld | hNew
      · exact hConforms.tasks action hOld
      · simp only [addMessagesToTaskEventFor,
          clientActionsEvent, actionTrace_cons,
          ResponseEvent.actions, actionTrace_nil,
          List.append_nil, List.filterMap_cons,
          List.filterMap_nil, List.mem_singleton] at hNew
        subst hNew
        simp [Action.namedTask?]
    · refine ⟨count + 1, by rw [hCount], ?_⟩
      rw [mintedIds_succ, ← hIds, actionTrace_append,
        addedMessages_append, List.map_append, hCount]
      rfl
    · rw [actionTrace_append, addedMessages_append]
      simp [addMessagesToTaskEventFor, clientActionsEvent,
        ResponseEvent.actions, Action.added]
    · rw [actionTrace_append, Trace.always_append]
      refine ⟨hConforms.targets, ?_⟩
      rw [show actionTrace
          [addMessagesToTaskEventFor _ kind] = [_] from rfl,
        Trace.always_singleton]
      intro taskId message mask hAppend
      simp at hAppend

/- Mask paths start with the field of their variant. -/
theorem head?_segments_maskPath
    (kind : ActiveKind) :
    (MaskedFields.segments kind.maskPath).head? =
      some kind.emptyContent.fieldName := by
  cases kind with
  | agentOutput => decide
  | agentReasoning => decide
  | toolCall => decide

/- An item has the variant of its registered message. -/
theorem fieldName_patch
    (item : ContentItem) :
    item.kind.emptyContent.fieldName =
      item.patch.fieldName := by
  rcases item with ⟨kind, callId, text⟩
  cases kind with
  | agentOutput => rfl
  | agentReasoning => rfl
  | toolCall => rfl

/- Appending an item targets the open message of its kind. -/
theorem Conforms.appendItem
    {uuids : Nat → String}
    {self : UiAdapter}
    {trace : List ResponseEvent}
    (hConforms : Conforms uuids self trace)
    (hSent : self.sentInit = true)
    {item : ContentItem}
    (hOpen : self.activeKind = some item.kind) :
    Conforms uuids self
      (trace ++
        [self.appendMessageEvent item.patch
          item.kind.maskPath]) := by
  have hActions :
      actionTrace
          [self.appendMessageEvent item.patch
            item.kind.maskPath] =
        [.appendToMessageContent self.taskId
          (some (self.messageWith item.patch))
          (some { paths := [item.kind.maskPath] })] :=
    rfl
  refine
    { opened := ?_, silent := ?_, tasks := ?_,
      minted := ?_, last := ?_, targets := ?_ }
  · intro _
    apply (hConforms.opened hSent).append
    simp [appendMessageEvent, clientActionsEvent,
      ResponseEvent.AfterPrelude, ResponseEvent.isInit,
      ResponseEvent.actions, Action.isCreateTask]
  · simp [hSent]
  · intro action hAction
    rw [actionTrace_append, hActions, List.mem_append]
      at hAction
    rcases hAction with hOld | hNew
    · exact hConforms.tasks action hOld
    · rw [List.mem_singleton] at hNew
      subst hNew
      simp [Action.namedTask?]
  · simpa [hActions, Action.added] using hConforms.minted
  · simpa [hActions, Action.added] using hConforms.last
  · rw [actionTrace_append, hActions, Trace.always_append]
    refine ⟨hConforms.targets, ?_⟩
    rw [Trace.always_singleton, List.append_nil]
    intro taskId message mask hAppend
    rcases Action.appendToMessageContent.inj hAppend with
      ⟨rfl, rfl, rfl⟩
    have hLast := hConforms.last
    rw [hOpen, Option.map_some] at hLast
    refine ⟨self.messageWith item.patch,
      self.messageWith item.kind.emptyContent, item.patch,
      item.kind.emptyContent, _, rfl, rfl, hLast, rfl, rfl,
      rfl, fieldName_patch item, ?_⟩
    intro path hPath
    rw [List.mem_singleton] at hPath
    rw [hPath, head?_segments_maskPath, fieldName_patch]

/- The end of the response carries no action. -/
theorem Conforms.finish
    {uuids : Nat → String}
    {self : UiAdapter}
    {trace : List ResponseEvent}
    (hConforms : Conforms uuids self trace)
    (hSent : self.sentInit = true)
    (finished : StreamFinished) :
    Conforms uuids self
      (trace ++ [{ type := some (.finished finished) }]) := by
  have hActions :
      actionTrace [{ type := some (.finished finished) }] =
        [] := rfl
  refine
    { opened := ?_, silent := ?_, tasks := ?_,
      minted := ?_, last := ?_, targets := ?_ }
  · intro _
    apply (hConforms.opened hSent).append
    simp [ResponseEvent.AfterPrelude, ResponseEvent.isInit,
      ResponseEvent.actions]
  · simp [hSent]
  · simpa [hActions] using hConforms.tasks
  · simpa [hActions] using hConforms.minted
  · simpa [hActions] using hConforms.last
  · simpa [hActions] using hConforms.targets

end UiAdapter

end WarpByokProxy

------------------------------------------------------------
-- Every Turn Follows The Protocol
------------------------------------------------------------

namespace WarpByokProxy

namespace UiAdapter

open Wmaa

variable {F : Type}

/- After its prelude part a frame that needs it is opened. -/
theorem sentInit_sendPrelude
    (self : UiAdapter)
    {frame : OzResponseFrame F}
    (hNeeds : frame.needsPrelude = true) :
    (self.sendPrelude frame).1.sentInit = true := by
  simp [sendPrelude_fst, hNeeds]

/- Making sure of a kind's message leaves that kind open. -/
theorem ensureKindMessage_activeKind
    (uuids : Nat → String)
    (self : UiAdapter)
    (kind : ActiveKind) :
    (self.ensureKindMessage uuids kind).1.activeKind =
      some kind := by
  unfold ensureKindMessage
  by_cases hOpen : self.activeKind = some kind
  · simp [hOpen]
  · simp [hOpen]

theorem ensureKindMessage_sentInit
    (uuids : Nat → String)
    (self : UiAdapter)
    (kind : ActiveKind) :
    (self.ensureKindMessage uuids kind).1.sentInit =
      self.sentInit := by
  unfold ensureKindMessage
  by_cases hOpen : self.activeKind = some kind
  · simp [hOpen]
  · simp [hOpen]

theorem ensureKindMessage_taskId
    (uuids : Nat → String)
    (self : UiAdapter)
    (kind : ActiveKind) :
    (self.ensureKindMessage uuids kind).1.taskId =
      self.taskId := by
  unfold ensureKindMessage
  by_cases hOpen : self.activeKind = some kind
  · simp [hOpen]
  · simp [hOpen]

/-
  A content frame ends its events with one append, to the
  message that is then registered last.
-/
theorem exists_actions_translate
    {uuids : Nat → String}
    {self : UiAdapter}
    {trace : List ResponseEvent}
    (hConforms : Conforms uuids self trace)
    {serde : SerdeJson F}
    {frame : OzResponseFrame F}
    {item : ContentItem}
    (hItem : contentItem serde frame = some item) :
    ∃ (opening : List Action) (next : UiAdapter),
      actionTrace (self.translate serde uuids frame).2 =
          opening ++
            [.appendToMessageContent next.taskId
              (some (next.messageWith item.patch))
              (some { paths := [item.kind.maskPath] })] ∧
        (∀ action ∈ opening, action.isAppend = false) ∧
        (addedMessages
            (actionTrace trace ++ opening)).getLast? =
          some (next.messageWith item.kind.emptyContent) := by
  have hSent := sentInit_sendPrelude self
    (needsPrelude_of_contentKind
      (contentKind_of_contentItem hItem))
  have hEnsured :=
    (hConforms.sendPrelude frame).ensureKindMessage hSent
      item.kind
  refine
    ⟨actionTrace (self.sendPrelude frame).2 ++
        actionTrace
          ((self.sendPrelude frame).1.ensureKindMessage
            uuids item.kind).2,
      ((self.sendPrelude frame).1.ensureKindMessage uuids
        item.kind).1,
      ?_, ?_, ?_⟩
  · simp only [translate]
    rw [translateFrame_of_contentItem hItem]
    simp only [actionTrace_append, List.append_assoc]
    rfl
  · intro action hAction
    rcases List.mem_append.mp hAction with
      hPrelude | hRegistered
    · exact isAppend_of_mem_sendPrelude hPrelude
    · exact isAppend_of_mem_ensureKindMessage hRegistered
  · have hLast := hEnsured.last
    rw [ensureKindMessage_activeKind, Option.map_some]
      at hLast
    rw [← hLast]
    simp only [actionTrace_append, List.append_assoc]

/- Step rule: a translated frame keeps the invariant. -/
theorem conforms_translate
    {uuids : Nat → String}
    {self : UiAdapter}
    {trace : List ResponseEvent}
    (hConforms : Conforms uuids self trace)
    (serde : SerdeJson F)
    (frame : OzResponseFrame F) :
    Conforms uuids (self.translate serde uuids frame).1
      (trace ++ (self.translate serde uuids frame).2) := by
  have hPrelude := hConforms.sendPrelude frame
  simp only [translate]
  rw [← List.append_assoc]
  cases hItem : contentItem serde frame with
  | none =>
      have hKind : frame.contentKind = none := by
        rw [← map_kind_contentItem serde frame, hItem]
        rfl
      rcases translateFrame_of_contentKind_none hKind serde
          uuids (self.sendPrelude frame).1 with
        ⟨hState, hEvents⟩
      rw [hState]
      apply Conforms.setUsage
      rcases hEvents with hNone | ⟨hNeeds, reason, hFinish⟩
      · simpa [hNone] using hPrelude
      · rw [hFinish]
        exact hPrelude.finish
          (sentInit_sendPrelude self hNeeds) _
  | some item =>
      have hSent := sentInit_sendPrelude self
        (needsPrelude_of_contentKind
          (contentKind_of_contentItem hItem))
      have hEnsured :=
        hPrelude.ensureKindMessage hSent item.kind
      rw [translateFrame_of_contentItem hItem]
      rw [← List.append_assoc]
      apply hEnsured.appendItem
      · rw [ensureKindMessage_sentInit]
        exact hSent
      · exact ensureKindMessage_activeKind _ _ _

/- Run rule: the invariant holds after every turn. -/
theorem conforms_output
    (serde : SerdeJson F)
    (uuids : Nat → String)
    (opts : UiAdapterOpts)
    (frames : List (OzResponseFrame F)) :
    Conforms uuids (stateAfter uuids opts frames)
      ((machine serde uuids).output (new uuids opts)
        frames) := by
  rw [← final_eq_stateAfter serde uuids opts frames]
  exact (machine serde uuids).run_invariant
    (I := fun _ state trace => Conforms uuids state trace)
    (conforms_new uuids opts)
    (fun _ _ _ frame hConforms =>
      conforms_translate hConforms serde frame)
    frames

/- The ids registered over a turn, in order. -/
theorem addedIds_output
    (serde : SerdeJson F)
    (uuids : Nat → String)
    (opts : UiAdapterOpts)
    (frames : List (OzResponseFrame F)) :
    (addedMessages (actionTrace
        ((machine serde uuids).output (new uuids opts)
          frames))).map Message.id =
      mintedIds uuids (messageCount frames) := by
  rcases (conforms_output serde uuids opts frames).minted with
    ⟨count, hCount, hIds⟩
  have hSame : messageCount frames = count := by
    simpa [stateAfter] using hCount
  rw [hIds, hSame]

/-
  The events of every turn follow the client protocol, when
  the generator never repeats a UUID.
-/
theorem output_followsProtocol
    (serde : SerdeJson F)
    {uuids : Nat → String}
    (hUuids : Function.Injective uuids)
    (opts : UiAdapterOpts)
    (frames : List (OzResponseFrame F)) :
    FollowsProtocol (new uuids opts).taskId
      ((machine serde uuids).output (new uuids opts)
        frames) := by
  have hConforms := conforms_output serde uuids opts frames
  refine
    { opening := ?_, tasks := hConforms.tasks,
      distinct := ?_, targets := hConforms.targets }
  · cases hSent : (stateAfter uuids opts frames).sentInit with
    | true => exact Or.inr (hConforms.opened hSent)
    | false => exact Or.inl (hConforms.silent hSent).1
  · rw [addedIds_output]
    exact mintedIds_nodup hUuids _

theorem output_followsProtocol_text_then_done :
    FollowsProtocol
      (new numberedUuids ⟨none, some "req_1", none⟩).taskId
      ((machine SerdeJson.integral numberedUuids).output
        (new numberedUuids ⟨none, some "req_1", none⟩)
        [.textDelta 0 "hello", .blockStop 0,
          .done "end_turn"]) :=
  output_followsProtocol SerdeJson.integral
    numberedUuids_injective ⟨none, some "req_1", none⟩ _

end UiAdapter

end WarpByokProxy
