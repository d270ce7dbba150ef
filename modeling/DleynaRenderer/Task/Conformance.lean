import DleynaRenderer.Task.Attended
import DleynaRenderer.Task.Conversation

/-!
# Runs follow their dialogues

Every step of a conversation keeps to the dialogue that its first steps have
settled.
-/

namespace DleynaRenderer.Task

open DleynaRenderer.Player EventSystem

section Steps

variable {lossy : Prop} {call : Call} {invocation : Nat}
  {script : Option Dialogue} {c : Conversation}

theorem Conversing.ready (h : Conversing lossy call invocation script c)
    (hstage : c.task.stage = .queued ∨ c.task.stage = .updatingProps)
    {cancellable : Option Bool}
    (hcancellable : c.task.task.invocation ≠ none → cancellable ≠ some true) :
    script = none ∧ Ready lossy call invocation (c.silently fun task =>
      { task with cancellable := cancellable, stage := .running }) := by
  obtain ⟨hscript, hdata, hpristine⟩ := h.early hstage
  have hsilent : c.sent = [] ∧ c.heard = [] ∧ c.task.action = none := by
    cases h.talks with
    | silent _ hsent hheard haction => exact ⟨hsent, hheard, haction⟩
    | waiting hsome => simp [hscript] at hsome
    | ended hsome => simp [hscript] at hsome
    | cut _ hsome => simp [hscript] at hsome
  obtain ⟨hsent, hheard, haction⟩ := hsilent
  refine ⟨hscript, h.isTask, hsent, hheard, haction, hdata,
    ⟨hpristine.error, hpristine.result, hpristine.relCnt, hpristine.idleSources,
      hpristine.handler, hpristine.proxy⟩, h.download, rfl, hcancellable, ?_⟩
  intro answer hmem
  cases h.justified answer hmem with
  | cancelled hlossy => exact ⟨hlossy, .inl rfl⟩
  | died hlossy => exact ⟨hlossy, .inr rfl⟩
  | outcome hsome => simp [hscript] at hsome

theorem Call.processed (call : Call) (invocation : Nat) :
    ((call.task invocation).type.ofServer || (call.task invocation).synchronous) =
      false := by
  cases call <;> rfl

theorem Call.not_of_manager (call : Call) (invocation : Nat) :
    decide ((call.task invocation).type ∈
      [DlrTaskType.managerGetProp, .managerGetAllProps, .managerSetProp]) =
        false := by
  cases call <;> rfl

theorem conversing_process (h : Conversing lossy call invocation script c)
    (hstage : c.task.stage = .queued) {around : Surroundings}
    (hproxied : ∀ device ∈ around.device, Proxied lossy device) :
    Conversing lossy call invocation
      (Dialogue.law call script (.process around))
      (c.prvProcessTask around) := by
  have hcancellable : c.task.task.invocation ≠ none → some false ≠ some true :=
    fun _ => by simp
  obtain ⟨rfl, hready⟩ := h.ready (.inl hstage) hcancellable
  have hserver : ¬(c.task.task.type.ofServer || c.task.task.synchronous) = true := by
    rw [h.isTask.type_eq, h.isTask.synchronous_eq, call.processed invocation]
    exact Bool.false_ne_true
  have hsynchronous : ¬c.task.task.synchronous = true := by
    simp only [Bool.or_eq_true, not_or] at hserver
    exact hserver.2
  unfold Conversation.prvProcessTask
  rw [if_neg hserver]
  simp only [Dialogue.law, Dialogue.opening]
  cases hdevice : around.device with
  | none =>
      have hmanager : c.task.task.type ∉
          [DlrTaskType.managerGetProp, .managerGetAllProps, .managerSetProp] := by
        rw [h.isTask.type_eq]
        exact of_decide_eq_false (call.not_of_manager invocation)
      have hnext : Task.prvProcessTask around c.task =
          scheduleComplete ((started c.task).fail .objectNotFound
            "Cannot locate a device for the specified object") := by
        simp only [Task.prvProcessTask, if_neg hsynchronous, prvProcessAsyncTask,
          if_neg hmanager, processUpnpTask, hdevice]
        rfl
      have hfailed : Conversing lossy call invocation
          (some (.done Dialogue.cannotLocateDevice))
          ((c.silently started).silently fun task =>
            scheduleComplete (task.fail .objectNotFound
              "Cannot locate a device for the specified object")) :=
        hready.finish rfl (.fail _ _ _) rfl
      simp only [Conversation.silently, hnext]
      exact hfailed
  | some device =>
      exact hready.processDeviceTask (hproxied device hdevice) around

theorem conversing_propsUpdated
    (h : Conversing lossy call invocation script c)
    (hstage : c.task.stage = .updatingProps) {device : Option DeviceView}
    (hproxied : ∀ device' ∈ device, Proxied lossy device') :
    Conversing lossy call invocation
      (Dialogue.law call script (.propsUpdated device))
      (c.propsUpdated device) := by
  obtain ⟨rfl, hready⟩ := h.ready (.inr hstage) fun hinvocation =>
    (h.live hinvocation).1
  have hreads := h.reads hstage
  cases device with
  | none =>
      have hfailed : Conversing lossy call invocation
          (some (Dialogue.resuming call none))
          ((c.silently fun task => { task with stage := .running }).silently
            fun task => scheduleComplete
              (task.fail .operationFailed "Lost Device")) :=
        hready.finish rfl (.fail _ _ _) rfl
      exact hfailed
  | some device =>
      have hproxied := hproxied device rfl
      have htype := h.isTask.type_eq
      unfold Conversation.propsUpdated
      simp only []
      cases call with
      | getProp interfaceName propName =>
          have htype : c.task.task.type = .getProp := htype
          have hasks : Dialogue.asksPosition (strip interfaceName)
              (strip propName) = false := by
            simpa [Dialogue.readsStored] using hreads
          rw [if_pos htype]
          have hdone := hready.getPropStored device hasks
          simp only [Conversation.silently, Task.propsUpdated, if_pos htype]
          exact hdone
      | getAllProps interfaceName =>
          have htype : c.task.task.type = .getAllProps := htype
          rw [if_neg (by rw [htype]; decide)]
          exact hready.getAllPropsSynced hproxied
      | _ => cases hreads

inductive Resumed (heard : Heard) (callback : ActionCallback)
    (error : Option GError) (c : Conversation) : Conversation → Prop where
  | finished {outcome : Outcome} {data : DlrAsyncTask}
      (hdone : continuation c.task.task c.data c.task.relCnt error callback
        heard = .done outcome)
      (hdata : SameButData c.task data)
      (htask : Task.callBack heard.1 heard.2 callback c.task = finish data) :
      Resumed heard callback error c { c with task := finish data }
  | chained {action : UpnpAction} {next : ActionCallback}
      {relCnt : Option String} {data : TaskData}
      (hask : continuation c.task.task c.data c.task.relCnt error callback
        heard = .ask action
          (continuation c.task.task data relCnt none next))
      (hcallback : callback ≠ .simpleCall) :
      Resumed heard callback error c
        { c with
          task := { c.task with relCnt := relCnt, action := some next }
          data := data
          sent := c.sent ++ [action] }

theorem beginAction_of_proxy {c : Conversation} (hproxy : c.task.proxy = true)
    (action : UpnpAction) (callback : ActionCallback) :
    c.beginAction action callback =
      { c with
        task := { c.task with action := some callback }
        sent := c.sent ++ [action] } := by
  simp only [Conversation.beginAction, Task.beginAction, hproxy, if_true]

theorem resumed_callBack (heard : Heard) (callback : ActionCallback)
    (error : Option GError) {c : Conversation} (hproxy : c.task.proxy = true) :
    Resumed heard callback error c
      (Conversation.callBack heard.1 heard.2 callback c) := by
  obtain ⟨⟨failure, result⟩, player⟩ := heard
  cases callback with
  | simpleCall =>
      cases failure with
      | none => exact .finished rfl (.refl _) rfl
      | some message => exact .finished rfl (.fail _ _ _) rfl
  | openUri =>
      cases failure with
      | none =>
          simp only [Conversation.callBack, Conversation.prvOpenUriCb]
          split_ifs with htype
          · rw [rateField_prvResetTransportSpeedProps,
              beginAction_of_proxy hproxy]
            refine .chained ?_ (by simp)
            simp only [continuation, if_pos htype]
            rfl
          · have hdone : continuation c.task.task c.data c.task.relCnt error
                .openUri (⟨none, result⟩, player) = .done (.ok none) :=
              if_neg htype
            exact .finished hdone (.refl _) (if_neg htype)
      | some message => exact .finished rfl (.fail _ _ _) rfl
  | getPositionInfo =>
      have hquery : Task.callBack ⟨failure, result⟩ player .getPositionInfo
          c.task = finish (if (ActionReply.mk failure result).succeeds then
            prvGetProp (Player.prvGetPositionInfoCb result player) c.task
          else queryFailed "GetPositionInfo" ⟨failure, result⟩ c.task) := by
        simp only [Task.callBack, prvGetPositionInfoCb]
        split_ifs <;> rfl
      simp only [Conversation.callBack, Conversation.silently, hquery]
      refine .finished rfl ?_ hquery
      split_ifs
      · exact sameButData_prvGetProp _ _
      · exact .fail _ _ _
  | getBytePositionInfo =>
      have hquery : Task.callBack ⟨failure, result⟩ player .getBytePositionInfo
          c.task = finish (if (ActionReply.mk failure result).succeeds then
            prvGetProp (Player.prvGetBytePositionInfoCb result player) c.task
          else queryFailed "X_DLNA_GetBytePositionInfo" ⟨failure, result⟩
            c.task) := by
        simp only [Task.callBack, prvGetBytePositionInfoCb]
        split_ifs <;> rfl
      simp only [Conversation.callBack, Conversation.silently, hquery]
      refine .finished rfl ?_ hquery
      split_ifs
      · exact sameButData_prvGetProp _ _
      · exact .fail _ _ _
  | getAllPositionInfo =>
      exact .finished rfl (sameButData_prvGetProps _ _) rfl
  | getAllBytePositionInfo =>
      simp only [Conversation.callBack, Conversation.prvGetAllBytePositionInfoCb]
      rw [beginAction_of_proxy]
      · exact .chained rfl (by simp)
      · exact hproxy
  | completeSeekGetPosition =>
      cases failure with
      | none =>
          cases result with
          | none => exact .finished rfl (.fail _ _ _) rfl
          | some result =>
              simp only [Conversation.callBack,
                Conversation.prvCompleteSeekGetPosition]
              rw [beginAction_of_proxy]
              · exact .chained rfl (by simp)
              · exact hproxy
      | some message => exact .finished rfl (.fail _ _ _) rfl

theorem Justified.of_waiting {answer : Answer} {callback : ActionCallback}
    (h : Justified lossy call invocation script c answer)
    (haction : c.task.action = some callback) (next : Conversation) :
    Justified lossy call invocation script next answer := by
  cases h with
  | cancelled hlossy => exact .cancelled hlossy
  | died hlossy => exact .died hlossy
  | outcome _ _ hnone => simp [haction] at hnone

theorem conversing_reply (h : Conversing lossy call invocation script c)
    {callback : ActionCallback} (haction : c.task.action = some callback)
    (heard : Heard) :
    Conversing lossy call invocation script
      (Conversation.callBack heard.1 heard.2 callback
        { c with
          task := { c.task with action := none }
          heard := c.heard ++ [heard] }) := by
  cases h.talks with
  | silent _ _ _ hnone => simp [haction] at hnone
  | ended _ hnone => simp [haction] at hnone
  | cut _ _ hnone => simp [haction] at hnone
  | @waiting dialogue error callback' hscript haction' hproxy hwaits hlive =>
      obtain rfl : callback = callback' :=
        Option.some.inj (haction.symm.trans haction')
      have hlate : ¬(c.task.stage = .queued ∨ c.task.stage = .updatingProps) := by
        intro hstage
        have hnone := (h.early hstage).1
        simp [hscript] at hnone
      have hidle (hinvocation : c.task.task.invocation ≠ none) :
          c.task.idleSources = 0 := by
        by_contra hidle
        obtain ⟨dialogue', hsome, hends⟩ := (h.live hinvocation).2 hidle
        obtain rfl := Option.some.inj (hscript.symm.trans hsome)
        exact hwaits.not_ends hends
      have hresumed := resumed_callBack heard callback error
        (c := { c with
          task := { c.task with action := none }
          heard := c.heard ++ [heard] }) hproxy
      generalize Conversation.callBack heard.1 heard.2 callback
        { c with
          task := { c.task with action := none }
          heard := c.heard ++ [heard] } = next at hresumed ⊢
      cases hresumed with
      | @finished outcome data hdone hdata htask =>
          have hends := hwaits.finish hdone
          have houtcome (hinvocation : c.task.task.invocation ≠ none) :
              outcome = (finish data).outcome := by
            obtain ⟨rfl, herror, hresult⟩ := hlive hinvocation
            rw [← htask]
            exact (outcome_callBack { c.task with action := none } hresult herror
              hdone).symm
          obtain ⟨error', result, relCnt, rfl⟩ := hdata
          refine ⟨h.isTask, ?_, fun hearly => absurd hearly hlate,
            fun hupdating => absurd (.inr hupdating) hlate, h.download, ?_,
            fun answer hmem => (h.justified answer hmem).of_waiting haction _⟩
          · exact .ended hscript rfl hends fun hinvocation =>
              ⟨houtcome hinvocation, Nat.succ_ne_zero _⟩
          · exact fun hinvocation => ⟨(h.live hinvocation).1, fun _ =>
              ⟨dialogue, hscript, houtcome hinvocation ▸ hends⟩⟩
      | chained hask hcallback =>
          refine ⟨h.isTask, ?_, fun hearly => absurd hearly hlate,
            fun hupdating => absurd (.inr hupdating) hlate, h.download, ?_,
            fun answer hmem => (h.justified answer hmem).of_waiting haction _⟩
          · refine .waiting hscript rfl hproxy (hwaits.go_on hask) ?_
            intro hinvocation
            obtain ⟨herror, hnone, hresult⟩ := hlive hinvocation
            exact ⟨(herror.symm.trans (hnone hcallback)).symm, fun _ => rfl,
              hresult⟩
          · exact fun hinvocation => ⟨(h.live hinvocation).1,
              fun hsome => absurd (hidle hinvocation) hsome⟩

/-! ## Without the renderer -/

theorem Justified.told {answer : Answer} {next : Conversation}
    (h : Justified lossy call invocation script c answer)
    (hsent : next.sent = c.sent) (hheard : next.heard = c.heard)
    (haction : c.task.action = none → next.task.action = none)
    (hstage : c.task.stage = .finished ∨ c.task.stage = .deleted →
      next.task.stage = .finished ∨ next.task.stage = .deleted) :
    Justified lossy call invocation script next answer := by
  cases h with
  | cancelled hlossy => exact .cancelled hlossy
  | died hlossy => exact .died hlossy
  | outcome hscript hends hnone hlate =>
      rw [← hheard, ← hsent] at hends
      exact .outcome hscript hends (haction hnone) (hstage hlate)

structure Muted (lossy : Prop) (task next : DlrAsyncTask) : Prop where
  same : next.task = { task.task with invocation := none }
  action : (next.action = task.action ∧ next.proxy = task.proxy ∧
    next.relCnt = task.relCnt) ∨ (lossy ∧ next.action = none)
  download : task.download = none → next.download = none

theorem Muted.action_none {task next : DlrAsyncTask}
    (h : Muted lossy task next) (haction : task.action = none) :
    next.action = none := by
  rcases h.action with ⟨hsame, -⟩ | ⟨-, hnone⟩
  · exact hsame.trans haction
  · exact hnone

theorem continuation_muted (task : DlrTask) (data : TaskData)
    (relCnt : Option String) (error : Option GError)
    (callback : ActionCallback) :
    continuation { task with invocation := none } data relCnt error callback =
      continuation task data relCnt error callback := by
  cases callback <;> rfl

theorem Talks.muted {next : DlrAsyncTask} (h : Talks lossy script c)
    (hmuted : Muted lossy c.task next) :
    Talks lossy script { c with task := next } := by
  have hnone : next.task.invocation = none := by rw [hmuted.same]
  cases h with
  | silent hscript hsent hheard haction =>
      exact .silent hscript hsent hheard (hmuted.action_none haction)
  | waiting hscript haction hproxy hwaits hlive =>
      rcases hmuted.action with ⟨hsame, hproxy', hrelCnt⟩ | ⟨hlossy, hcut⟩
      · rw [← continuation_muted, ← hmuted.same, ← hrelCnt] at hwaits
        exact .waiting hscript (hsame.trans haction) (hproxy'.trans hproxy) hwaits
          fun hinvocation => absurd hnone hinvocation
      · exact .cut hlossy hscript hcut hwaits.isPrefix
  | ended hscript haction hends hlive =>
      exact .ended hscript (hmuted.action_none haction) hends
        fun hinvocation => absurd hnone hinvocation
  | cut hlossy hscript haction hasked =>
      exact .cut hlossy hscript (hmuted.action_none haction) hasked

theorem Conversing.muted {next : DlrAsyncTask}
    (h : Conversing lossy call invocation script c)
    (hmuted : Muted lossy c.task next)
    (hearly : next.stage = .queued ∨ next.stage = .updatingProps →
      next.stage = c.task.stage ∧ (Pristine c.task → Pristine next))
    (hlate : c.task.stage = .finished ∨ c.task.stage = .deleted →
      next.stage = .finished ∨ next.stage = .deleted)
    (hreplies : ∀ answer, (invocation, answer) ∈ next.replies →
      (invocation, answer) ∈ c.task.replies ∨
        Justified lossy call invocation script { c with task := next } answer) :
    Conversing lossy call invocation script { c with task := next } where
  isTask := by
    have hsame := h.isTask
    simp only [IsTaskOf, hmuted.same] at hsame ⊢
    exact hsame
  talks := h.talks.muted hmuted
  early hstage := by
    obtain ⟨hsame, hpristine⟩ := hearly hstage
    simp only [hsame] at hstage
    obtain ⟨hscript, hdata, hfresh⟩ := h.early hstage
    exact ⟨hscript, hdata, hpristine hfresh⟩
  reads hstage := by
    have hsame := (hearly (.inr hstage)).1
    exact h.reads (hsame.symm.trans hstage)
  download := hmuted.download h.download
  live hinvocation := by
    rw [hmuted.same] at hinvocation
    exact absurd rfl hinvocation
  justified answer hmem := by
    rcases hreplies answer hmem with hbefore | hjustified
    · exact (h.justified answer hbefore).told rfl rfl hmuted.action_none hlate
    · exact hjustified

inductive Stopped (task : DlrAsyncTask) : DlrAsyncTask → Prop where
  | marked (cancellable : Option Bool) :
      Stopped task { task with cancellable := cancellable }
  | called {handler : CancelHandler} (hhandler : task.handler = some handler) :
      Stopped task (callHandler handler { task with cancellable := some true })

theorem stopped_gCancellableCancel (task : DlrAsyncTask) :
    Stopped task (gCancellableCancel task) := by
  unfold gCancellableCancel
  split
  · exact .marked (some true)
  · exact .called ‹_›
  · exact .marked task.cancellable

theorem task_answer (answer : Answer) (task : DlrAsyncTask) :
    (task.answer answer).task = { task.task with invocation := none } := by
  unfold DlrAsyncTask.answer
  cases hinvocation : task.task.invocation with
  | none =>
      obtain ⟨⟨type, format, result, invocation, _⟩, _⟩ := task
      obtain rfl : invocation = none := hinvocation
      rfl
  | some waiting => rfl

theorem mem_replies_answer {answer new : Answer} {task : DlrAsyncTask}
    (h : (invocation, answer) ∈ (task.answer new).replies) :
    (invocation, answer) ∈ task.replies ∨
      task.task.invocation ≠ none ∧ answer = new := by
  unfold DlrAsyncTask.answer at h
  cases hinvocation : task.task.invocation with
  | none =>
      rw [hinvocation] at h
      exact .inl h
  | some waiting =>
      rw [hinvocation] at h
      rcases List.mem_append.mp h with hbefore | hnew
      · exact .inl hbefore
      · simp only [List.mem_singleton, Prod.mk.injEq] at hnew
        exact .inr ⟨by simp, hnew.2⟩

theorem callHandler_eq (handler : CancelHandler) (task : DlrAsyncTask) :
    ∃ error idleSources completions download,
      (task.download = none → download = none) ∧
        callHandler handler task =
          { task with
            action := if task.proxy then none else task.action
            error := error
            idleSources := idleSources
            completions := completions
            download := download } := by
  cases handler with
  | asyncTaskCancelled =>
      rw [callHandler, dlrAsyncTaskCancelled_eq]
      exact ⟨_, _, _, _, id, rfl⟩
  | getIconCancelled =>
      rw [callHandler, prvGetIconCancelled, dlrAsyncTaskCancelled_eq]
      refine ⟨_, _, _, _, fun hnone => ?_, rfl⟩
      simp [hnone]

theorem conversing_dlrTaskCancel (hlossy : lossy)
    (h : Conversing lossy call invocation script c) :
    Conversing lossy call invocation script
      { c with task := dlrTaskCancel c.task } := by
  have hsynchronous : ¬(c.task.answer (.error cancelledError)).task.synchronous =
      true := by
    rw [task_answer]
    have hprocessed := call.processed invocation
    rw [← h.isTask.synchronous_eq] at hprocessed
    simp_all
  have hnext : dlrTaskCancel c.task =
      gCancellableCancel (c.task.answer (.error cancelledError)) :=
    if_neg hsynchronous
  have hreplies (answer : Answer) (hmem : (invocation, answer) ∈
      (c.task.answer (.error cancelledError)).replies) (next : Conversation) :
      (invocation, answer) ∈ c.task.replies ∨
        Justified lossy call invocation script next answer := by
    rcases mem_replies_answer hmem with hbefore | ⟨-, rfl⟩
    · exact .inl hbefore
    · exact .inr (.cancelled hlossy)
  have htask := task_answer (.error cancelledError) c.task
  obtain ⟨waiting, replies, heq⟩ := answer_eq (.error cancelledError) c.task
  rw [heq] at htask hreplies
  rw [hnext, heq]
  obtain rfl : waiting = none := congrArg DlrTask.invocation htask
  have hstopped := stopped_gCancellableCancel
    { c.task with
      task := { c.task.task with invocation := none }
      replies := replies }
  generalize gCancellableCancel _ = next at hstopped ⊢
  cases hstopped with
  | marked cancellable =>
      refine h.muted ⟨rfl, .inl ⟨rfl, rfl, rfl⟩, id⟩ (fun _ => ⟨rfl, ?_⟩) id
        fun answer hmem => hreplies answer hmem _
      exact fun hpristine => ⟨hpristine.error, hpristine.result, hpristine.relCnt,
        hpristine.idleSources, hpristine.handler, hpristine.proxy⟩
  | @called handler hhandler =>
      obtain ⟨error, idleSources, completions, download, hdownload, hcalled⟩ :=
        callHandler_eq handler
          { c.task with
            task := { c.task.task with invocation := none }
            replies := replies
            cancellable := some true }
      rw [hcalled]
      refine h.muted ⟨rfl, ?_, hdownload⟩ (fun _ => ⟨rfl, ?_⟩) id
        fun answer hmem => hreplies answer hmem _
      · cases hproxy : c.task.proxy with
        | true => exact .inr ⟨hlossy, rfl⟩
        | false => exact .inl ⟨rfl, rfl, rfl⟩
      · intro hpristine
        exact absurd (hpristine.handler.symm.trans hhandler) (by simp)

/-! ## Completion -/

theorem Talks.action_of_ends (h : Talks lossy script c) {dialogue : Dialogue}
    {outcome : Outcome} (hscript : script = some dialogue)
    (hends : dialogue.Ends c.heard c.sent outcome) : c.task.action = none := by
  cases h with
  | silent _ _ _ haction => exact haction
  | waiting hsome _ _ hwaits =>
      obtain rfl := Option.some.inj (hsome.symm.trans hscript)
      exact absurd hends hwaits.not_ends
  | ended _ haction => exact haction
  | cut _ _ haction => exact haction

theorem answer_of_live {task : DlrAsyncTask} (htask : IsTaskOf call invocation
    task.task) {outcome : Outcome} (houtcome : outcome = task.outcome) :
    answerTo call invocation outcome = match task.error with
      | none => task.task.success
      | some error => .error error := by
  subst houtcome
  unfold DlrAsyncTask.outcome answerTo
  cases task.error with
  | some error => rfl
  | none =>
      have hcall : { task.task with invocation := some invocation, result := none } =
          call.task invocation := htask
      rw [← hcall]
      rfl

theorem conversing_dlrAsyncTaskComplete
    (h : Conversing lossy call invocation script c)
    (hidle : 0 < c.task.idleSources) :
    Conversing lossy call invocation script
      { c with
        task := dlrAsyncTaskComplete
          { c.task with idleSources := c.task.idleSources - 1 } } := by
  have hcompleted : dlrAsyncTaskComplete
      { c.task with idleSources := c.task.idleSources - 1 } =
        taskCompleted (DlrAsyncTask.answer
          (match c.task.error with
            | none => c.task.task.success
            | some error => .error error)
          { c.task with idleSources := c.task.idleSources - 1 }) := by
    unfold dlrAsyncTaskComplete prvAsyncTaskComplete
    cases c.task.error <;> rfl
  have hjustified (hinvocation : c.task.task.invocation ≠ none)
      (next : Conversation) (hsent : next.sent = c.sent)
      (hheard : next.heard = c.heard) (haction : next.task.action = c.task.action)
      (hstage : next.task.stage = .finished ∨ next.task.stage = .deleted) :
      Justified lossy call invocation script next
        (match c.task.error with
          | none => c.task.task.success
          | some error => .error error) := by
    obtain ⟨dialogue, hscript, hends⟩ :=
      (h.live hinvocation).2 (Nat.ne_of_gt hidle)
    have hnone := haction.trans (h.talks.action_of_ends hscript hends)
    rw [← answer_of_live h.isTask rfl]
    rw [← hsent, ← hheard] at hends
    exact .outcome hscript hends hnone hstage
  generalize (match c.task.error with
    | none => c.task.task.success
    | some error => .error error) = answer at hcompleted hjustified
  rw [hcompleted]
  have hreplies (old : Answer) (hmem : (invocation, old) ∈ (DlrAsyncTask.answer
      answer { c.task with idleSources := c.task.idleSources - 1 }).replies) :=
    mem_replies_answer hmem
  have hsame := task_answer answer
    { c.task with idleSources := c.task.idleSources - 1 }
  obtain ⟨waiting, replies, heq⟩ := answer_eq answer
    { c.task with idleSources := c.task.idleSources - 1 }
  rw [heq] at hsame hreplies
  rw [heq]
  obtain rfl : waiting = none := congrArg DlrTask.invocation hsame
  have hlate := stage_taskCompleted
    { c.task with
      idleSources := c.task.idleSources - 1
      task := { c.task.task with invocation := none }
      replies := replies }
  obtain ⟨stage, hstage⟩ := taskCompleted_eq
    { c.task with
      idleSources := c.task.idleSources - 1
      task := { c.task.task with invocation := none }
      replies := replies }
  rw [hstage] at hlate ⊢
  refine h.muted ⟨rfl, .inl ⟨rfl, rfl, rfl⟩, id⟩ ?_ (fun _ => hlate) ?_
  · intro hearly
    simp only at hearly hlate
    rcases hlate with rfl | rfl <;> simp at hearly
  · intro old hmem
    rcases hreplies old hmem with hbefore | ⟨hinvocation, rfl⟩
    · exact .inl hbefore
    · exact .inr (hjustified hinvocation _ rfl rfl rfl hlate)

theorem conversing_proxyLost (hlossy : lossy)
    (h : Conversing lossy call invocation script c) :
    Conversing lossy call invocation script
      { c with task := { c.task with proxy := false, action := none } } where
  isTask := h.isTask
  talks := by
    cases h.talks with
    | silent hscript hsent hheard _ => exact .silent hscript hsent hheard rfl
    | waiting hscript _ _ hwaits => exact .cut hlossy hscript rfl hwaits.isPrefix
    | ended hscript _ hends hlive => exact .ended hscript rfl hends hlive
    | cut _ hscript _ hasked => exact .cut hlossy hscript rfl hasked
  early hstage := by
    obtain ⟨hscript, hdata, hpristine⟩ := h.early hstage
    exact ⟨hscript, hdata, hpristine.error, hpristine.result, hpristine.relCnt,
      hpristine.idleSources, hpristine.handler, rfl⟩
  reads := h.reads
  download := h.download
  live := h.live
  justified answer hmem :=
    (h.justified answer hmem).told rfl rfl (fun _ => rfl) id

theorem conversing_dlrTaskDelete
    (hlossy : c.task.stage = .queued → lossy)
    (hstage : c.task.stage = .queued ∨ c.task.stage = .finished)
    (hfinished : c.task.stage = .finished → c.task.task.invocation = none)
    (h : Conversing lossy call invocation script c) :
    Conversing lossy call invocation script
      { c with task := dlrTaskDelete c.task } where
  isTask := h.isTask
  talks := by
    cases h.talks with
    | silent hscript hsent hheard haction =>
        exact .silent hscript hsent hheard haction
    | waiting hscript haction hproxy hwaits hlive =>
        exact .waiting hscript haction hproxy hwaits hlive
    | ended hscript haction hends hlive => exact .ended hscript haction hends hlive
    | cut hlossy hscript haction hasked =>
        exact .cut hlossy hscript haction hasked
  early hstage := by simp [dlrTaskDelete] at hstage
  reads hstage := by simp [dlrTaskDelete] at hstage
  download := h.download
  live := h.live
  justified answer hmem := by
    have hreplies : (invocation, answer) ∈ c.task.replies ∨
        c.task.task.invocation ≠ none ∧ answer = .error diedError := by
      unfold dlrTaskDelete at hmem
      cases hinvocation : c.task.task.invocation with
      | none =>
          rw [hinvocation] at hmem
          exact .inl hmem
      | some waiting =>
          rw [hinvocation] at hmem
          rcases List.mem_append.mp hmem with hbefore | hnew
          · exact .inl hbefore
          · simp only [List.mem_singleton, Prod.mk.injEq] at hnew
            exact .inr ⟨by simp, hnew.2⟩
    rcases hreplies with hbefore | ⟨hinvocation, rfl⟩
    · exact (h.justified answer hbefore).told rfl rfl id fun _ => .inr rfl
    · rcases hstage with hqueued | hfin
      · exact .died (hlossy hqueued)
      · exact absurd (hfinished hfin) hinvocation

/-! ## Runs -/

/-- Nobody cancels, and nothing that the conversation needs is lost. -/
def Undisturbed (c : Conversation) : TaskEvent → Prop
  | .process around => ∀ device ∈ around.device, device.avProxy ∧ device.rcProxy
  | .propsUpdated device =>
      ∀ device' ∈ device, device'.avProxy ∧ device'.rcProxy
  | .cancel => False
  | .proxyLost => False
  | .delete => c.task.stage ≠ .queued
  | _ => True

theorem proxied_of_permitted {device : Option DeviceView}
    (h : lossy ∨ ∀ device' ∈ device, device'.avProxy ∧ device'.rcProxy) :
    ∀ device' ∈ device, Proxied lossy device' := by
  intro device' hmem
  rcases h with hlossy | hproxies
  · exact ⟨fun _ => hlossy, fun _ => hlossy⟩
  · obtain ⟨hav, hrc⟩ := hproxies device' hmem
    exact ⟨by simp [hav], by simp [hrc]⟩

def looks : TaskEvent → Bool
  | .process _ => true
  | .propsUpdated _ => true
  | _ => false

theorem law_of_not_looks (call : Call) (script : Option Dialogue)
    {event : TaskEvent} (h : looks event = false) :
    Dialogue.law call script event = script := by
  cases script with
  | some dialogue => rfl
  | none => cases event <;> first | rfl | cases h

theorem conversing_conversationStep {event : TaskEvent} {next : Conversation}
    (h : Conversing lossy call invocation script c)
    (hanswered : Answered invocation c.task)
    (hpermitted : lossy ∨ Undisturbed c event)
    (hstep : conversationStep c event = some next) :
    Conversing lossy call invocation (Dialogue.law call script event) next := by
  cases event with
  | process around =>
      obtain ⟨hstage, hnext⟩ := Option.ite_none_right_eq_some.mp hstep
      obtain rfl := Option.some.inj hnext
      exact conversing_process h hstage (proxied_of_permitted hpermitted)
  | propsUpdated device =>
      obtain ⟨hstage, hnext⟩ := Option.ite_none_right_eq_some.mp hstep
      obtain rfl := Option.some.inj hnext
      exact conversing_propsUpdated h hstage (proxied_of_permitted hpermitted)
  | reply reply player =>
      obtain ⟨callback, haction, rfl⟩ := Option.map_eq_some_iff.mp hstep
      rw [law_of_not_looks call script rfl]
      exact conversing_reply h haction (reply, player)
  | iconReply status bytes mimeType =>
      obtain ⟨task, htask, rfl⟩ := Option.map_eq_some_iff.mp hstep
      cases stepped_of_taskStep htask with
      | iconReply _ _ _ hdownload => simp [h.download] at hdownload
  | runIdle =>
      obtain ⟨task, htask, rfl⟩ := Option.map_eq_some_iff.mp hstep
      cases stepped_of_taskStep htask with
      | runIdle hidle =>
          rw [law_of_not_looks call script rfl]
          exact conversing_dlrAsyncTaskComplete h hidle
  | cancel =>
      obtain ⟨task, htask, rfl⟩ := Option.map_eq_some_iff.mp hstep
      cases stepped_of_taskStep htask with
      | cancel _ =>
          rw [law_of_not_looks call script rfl]
          exact conversing_dlrTaskCancel (hpermitted.resolve_right id) h
  | proxyLost =>
      obtain rfl := Option.some.inj hstep
      rw [law_of_not_looks call script rfl]
      exact conversing_proxyLost (hpermitted.resolve_right id) h
  | delete =>
      obtain ⟨task, htask, rfl⟩ := Option.map_eq_some_iff.mp hstep
      cases stepped_of_taskStep htask with
      | delete hstage =>
          rw [law_of_not_looks call script rfl]
          apply conversing_dlrTaskDelete _ hstage hanswered.finished h
          exact fun hqueued =>
            hpermitted.resolve_right fun hpresent => hpresent hqueued

end Steps

def dialogueAfter (call : Call) (events : List TaskEvent) : Option Dialogue :=
  events.foldl (Dialogue.law call) none

theorem conversing_exec {lossy : Prop} {call : Call} {invocation : Nat}
    {events : List TaskEvent} {c : Conversation}
    (hrun : exec conversationStep (conversationNew call invocation) events =
      some c)
    (hmeets : Meets conversationStep (fun c event => lossy ∨ Undisturbed c event)
      (conversationNew call invocation) events) :
    Conversing lossy call invocation (dialogueAfter call events) c ∧
      Answered invocation c.task := by
  have hinvocation : (call.task invocation).invocation = some invocation := by
    cases call <;> rfl
  refine exec_history (fun events c =>
      Conversing lossy call invocation (dialogueAfter call events) c ∧
        Answered invocation c.task) ?_
    ⟨conversing_conversationNew lossy call invocation,
      answered_queuedTask hinvocation⟩ hrun hmeets
  intro past c event next hinv hpermitted hstep
  obtain ⟨hconversing, hanswered⟩ := hinv
  have htask : taskStep c.task event = some next.task := by
    rw [← task_conversationStep, hstep]
    rfl
  refine ⟨?_, answered_taskStep hanswered htask⟩
  simp only [dialogueAfter, List.foldl_append, List.foldl_cons, List.foldl_nil]
  exact conversing_conversationStep hconversing hanswered hpermitted hstep

structure FollowsDialogue (call : Call) (invocation : Nat)
    (script : Option Dialogue) (c : Conversation) : Prop where
  sent : c.sent <+: (script.map fun dialogue => dialogue.asked c.heard).getD []
  answers : ∀ answer, (invocation, answer) ∈ c.task.replies →
    answer = .error cancelledError ∨ answer = .error diedError ∨
      ∃ dialogue outcome, script = some dialogue ∧
        dialogue.Ends c.heard c.sent outcome ∧
          answer = answerTo call invocation outcome

theorem conversation_follows_dialogue {call : Call} {invocation : Nat}
    {events : List TaskEvent} {c : Conversation}
    (hrun : exec conversationStep (conversationNew call invocation) events =
      some c) :
    FollowsDialogue call invocation (dialogueAfter call events) c := by
  obtain ⟨h, -⟩ := conversing_exec hrun
    (meets_of_forall_mem (fun _ _ _ => Or.inl True.intro) _)
  constructor
  · cases h.talks with
    | silent hscript hsent =>
        rw [hsent]
        exact List.nil_prefix
    | waiting hscript _ _ hwaits =>
        rw [hscript]
        exact hwaits.isPrefix
    | ended hscript _ hends =>
        rw [hscript]
        exact hends.isPrefix
    | cut _ hscript _ hasked =>
        rw [hscript]
        exact hasked
  · intro answer hmem
    cases h.justified answer hmem with
    | cancelled => exact .inl rfl
    | died => exact .inr (.inl rfl)
    | outcome hscript hends => exact .inr (.inr ⟨_, _, hscript, hends, rfl⟩)

def cancelledEvents : List TaskEvent :=
  [.process (surroundings (playerDevice playerNew)),
    .reply ⟨none, none⟩ playerNew, .cancel, .runIdle, .delete]

theorem conversation_follows_dialogue_cancelled :
    ∃ c, exec conversationStep (conversationNew (.openUri "http://a/b") 7)
        cancelledEvents = some c ∧
      c.sent = [openUriAction (openUriData "http://a/b"),
        playAction (.string "1")] ∧
      c.task.replies = [(7, .error cancelledError)] ∧
      FollowsDialogue (.openUri "http://a/b") 7
        (dialogueAfter (.openUri "http://a/b") cancelledEvents) c :=
  ⟨_, rfl, by decide, by decide, conversation_follows_dialogue rfl⟩

inductive InDialogue (call : Call) (invocation : Nat) (script : Option Dialogue)
    (c : Conversation) : Prop where
  | unopened (hscript : script = none) (hsent : c.sent = [])
      (hreplies : c.task.replies = [])
  | waiting {dialogue : Dialogue} {next : Heard → Dialogue}
      (hscript : script = some dialogue)
      (hwaits : dialogue.Waits c.heard c.sent next)
      (haction : c.task.action ≠ none) (hreplies : c.task.replies = [])
  | ended {dialogue : Dialogue} {outcome : Outcome}
      (hscript : script = some dialogue)
      (hends : dialogue.Ends c.heard c.sent outcome)
      (hanswer : (c.task.replies = [] ∧ 0 < c.task.idleSources) ∨
        c.task.replies = [(invocation, answerTo call invocation outcome)])

theorem undisturbed_conversation_is_dialogue {call : Call} {invocation : Nat}
    {events : List TaskEvent} {c : Conversation}
    (hrun : exec conversationStep (conversationNew call invocation) events =
      some c)
    (hundisturbed : Meets conversationStep Undisturbed
      (conversationNew call invocation) events) :
    InDialogue call invocation (dialogueAfter call events) c := by
  have hmeets : Meets conversationStep
      (fun c event => False ∨ Undisturbed c event)
      (conversationNew call invocation) events := by
    simpa only [false_or] using hundisturbed
  obtain ⟨h, hanswered⟩ := conversing_exec hrun hmeets
  have hreplied (answer : Answer)
      (hreplies : c.task.replies = [(invocation, answer)]) :
      InDialogue call invocation (dialogueAfter call events) c := by
    have hmem : (invocation, answer) ∈ c.task.replies := by simp [hreplies]
    cases h.justified answer hmem with
    | cancelled hlossy => exact hlossy.elim
    | died hlossy => exact hlossy.elim
    | outcome hscript hends => exact .ended hscript hends (.inr hreplies)
  by_cases hdeleted : c.task.stage = .deleted
  · obtain ⟨answer, hreplies⟩ := (hanswered.deleted hdeleted).1
    exact hreplied answer hreplies
  · have houtstanding := hanswered.present hdeleted
    unfold Outstanding at houtstanding
    cases hinvocation : c.task.task.invocation with
    | none =>
        rw [hinvocation] at houtstanding
        obtain ⟨answer, hreplies⟩ := houtstanding
        exact hreplied answer hreplies
    | some waiting =>
        rw [hinvocation] at houtstanding
        have hreplies := houtstanding.2
        cases h.talks with
        | silent hscript hsent => exact .unopened hscript hsent hreplies
        | waiting hscript haction _ hwaits =>
            exact .waiting hscript hwaits (by simp [haction]) hreplies
        | ended hscript _ hends hlive =>
            have hidle := (hlive (by simp [hinvocation])).2
            exact .ended hscript hends
              (.inl ⟨hreplies, Nat.pos_of_ne_zero hidle⟩)
        | cut hlossy => exact hlossy.elim

def seekEvents : List TaskEvent :=
  [.process (surroundings (playerDevice playerNew)),
    .reply ⟨none, some " 0:00:10 "⟩ playerNew,
    .reply ⟨none, none⟩ playerNew, .runIdle, .delete]

theorem undisturbed_seek_is_dialogue :
    ∃ c, exec conversationStep (conversationNew (.seek 5000000) 7) seekEvents =
        some c ∧
      c.sent = [simpleAction "GetPositionInfo",
        seekAction ⟨"REL_TIME", "00:00:15"⟩] ∧
      InDialogue (.seek 5000000) 7 (dialogueAfter (.seek 5000000) seekEvents)
        c := by
  have hdevice : ∀ device ∈ some (playerDevice playerNew),
      device.avProxy ∧ device.rcProxy := by
    rintro device ⟨⟩
    exact ⟨rfl, rfl⟩
  have hprocessed : Stage.finished ≠ .queued := by decide
  exact ⟨_, rfl, by decide, undisturbed_conversation_is_dialogue rfl
    ⟨hdevice, trivial, trivial, trivial, hprocessed, trivial⟩⟩

end DleynaRenderer.Task
