import DleynaRenderer.Task.Completion

/-!
# Attended tasks

A task that was processed and is not completed waits for its idle source, for
the reply to an action that its cancellable can stop, or for the icon.  Nothing
takes this away from it but the loss of the proxy that its action is on, and
an action is never begun on a proxy that is not there.
-/

namespace DleynaRenderer.Task

open DleynaRenderer.Player

def Unfinished (task : DlrAsyncTask) : Prop :=
  task.stage = .running ∨ task.stage = .updatingProps

instance (task : DlrAsyncTask) : Decidable (Unfinished task) :=
  inferInstanceAs (Decidable (_ ∨ _))

def AwaitsAction (task : DlrAsyncTask) : Prop :=
  task.stage = .running ∧ task.idleSources = 0 ∧ task.download = none

instance (task : DlrAsyncTask) : Decidable (AwaitsAction task) :=
  inferInstanceAs (Decidable (_ ∧ _ ∧ _))

def Connected (handler : CancelHandler) (task : DlrAsyncTask) : Prop :=
  task.cancellable = some false ∧ task.handler = some handler

/-- Something that is still to come completes the task. -/
inductive Attended (task : DlrAsyncTask) : Prop where
  | scheduled (hidle : 0 < task.idleSources)
  | acting (haction : task.action ≠ none) (hdownload : task.download = none)
      (hconnected : Connected .asyncTaskCancelled task)
  | downloading (hdownload : task.download = some false)
      (hconnected : Connected .getIconCancelled task)

structure Tended (task : DlrAsyncTask) : Prop where
  kind : task.task.synchronous = task.task.type.isSynchronous
  processed : Unfinished task → task.task.synchronous = false
  early : task.stage = .queued ∨ task.stage = .updatingProps →
    Untouched task ∧ task.proxy = false
  updating : task.stage = .updatingProps → task.cancellable ≠ none
  proxy : task.action ≠ none → task.proxy = true
  running : task.stage = .running → Attended task

theorem tended_queuedTask (interfaceName propName : String) (params : Variant)
    (type : DlrTaskType) (invocation : Nat) :
    Tended (queuedTask
      (dlrTaskNew interfaceName propName params type invocation)) where
  kind := by cases type <;> rfl
  processed h := by rcases h with h | h <;> cases h
  early _ := ⟨⟨rfl, rfl, rfl, rfl, rfl⟩, rfl⟩
  updating h := by cases h
  proxy h := absurd rfl h
  running h := by cases h

theorem Tended.attended {task : DlrAsyncTask} (h : Tended task)
    (hawaits : AwaitsAction task) :
    task.action ≠ none ∧ Connected .asyncTaskCancelled task := by
  obtain ⟨hstage, hidle, hdownload⟩ := hawaits
  cases h.running hstage with
  | scheduled hpending => omega
  | acting haction _ hconnected => exact ⟨haction, hconnected⟩
  | downloading hicon => simp [hdownload] at hicon

theorem tended_of_late {task : DlrAsyncTask}
    (hkind : task.task.synchronous = task.task.type.isSynchronous)
    (hlate : task.stage ≠ .queued ∧ task.stage ≠ .updatingProps)
    (hproxy : task.action ≠ none → task.proxy = true)
    (hrunning : task.stage = .running →
      task.task.synchronous = false ∧ Attended task) : Tended task where
  kind := hkind
  processed h := (hrunning (h.resolve_right hlate.2)).1
  early h := absurd h (not_or.mpr hlate)
  updating h := absurd h hlate.2
  proxy := hproxy
  running h := (hrunning h).2

theorem tended_of_running {task : DlrAsyncTask}
    (hkind : task.task.synchronous = task.task.type.isSynchronous)
    (hsynchronous : task.task.synchronous = false)
    (hstage : task.stage = .running)
    (hproxy : task.action ≠ none → task.proxy = true)
    (hattended : Attended task) : Tended task :=
  tended_of_late hkind (by simp [hstage]) hproxy
    fun _ => ⟨hsynchronous, hattended⟩

theorem tended_of_over {task : DlrAsyncTask}
    (hkind : task.task.synchronous = task.task.type.isSynchronous)
    (hstage : task.stage = .finished ∨ task.stage = .deleted)
    (hproxy : task.action ≠ none → task.proxy = true) : Tended task := by
  refine tended_of_late hkind ?_ hproxy ?_
  · rcases hstage with h | h <;> simp [h]
  · rcases hstage with h | h <;> simp [h]

theorem live_of_not_cancelled {cancellable : Option Bool}
    (hcancellable : cancellable ≠ none) (hlive : cancellable ≠ some true) :
    cancellable = some false := by
  obtain ⟨cancelled, rfl⟩ := Option.ne_none_iff_exists'.mp hcancellable
  cases cancelled with
  | false => rfl
  | true => exact absurd rfl hlive

/-- A cancelled task is scheduled before its action begins. -/
theorem tended_connectAndBegin {task : DlrAsyncTask} {proxy : Bool}
    (callback : ActionCallback) (huntouched : Untouched task)
    (hcancellable : task.cancellable ≠ none)
    (hkind : task.task.synchronous = task.task.type.isSynchronous)
    (hsynchronous : task.task.synchronous = false)
    (hstage : task.stage = .running)
    (hdemand : task.cancellable = some false → proxy = true) :
    Tended (connectAndBegin proxy callback task) := by
  unfold connectAndBegin gCancellableConnect beginAction
  by_cases hcancelled : task.cancellable = some true
  · simp only [if_pos hcancelled, callHandler, dlrAsyncTaskCancelled_eq]
    refine tended_of_running hkind hsynchronous hstage ?_ ?_
    · intro haction
      simpa using haction
    · exact .scheduled (Nat.succ_pos _)
  · have hlive := live_of_not_cancelled hcancellable hcancelled
    obtain rfl := hdemand hlive
    simp only [if_neg hcancelled]
    refine tended_of_running hkind hsynchronous hstage (fun _ => rfl) ?_
    exact .acting (by simp) huntouched.2.1 ⟨hlive, rfl⟩

theorem tended_of_fulfils {task next : DlrAsyncTask} {demand : Demand}
    (huntouched : Untouched task) (hproxy : task.proxy = false)
    (hcancellable : task.cancellable ≠ none)
    (hkind : task.task.synchronous = task.task.type.isSynchronous)
    (hsynchronous : task.task.synchronous = false)
    (hstage : task.stage = .running) (h : Fulfils task demand next)
    (hdemand : task.cancellable = some false → demand ≠ .action false) :
    Tended next := by
  cases h with
  | scheduled hdata =>
      obtain ⟨error, result, relCnt, rfl⟩ := hdata
      refine tended_of_running hkind hsynchronous hstage ?_ ?_
      · exact fun haction => absurd huntouched.1 haction
      · exact .scheduled (Nat.succ_pos _)
  | begun hdata proxy callback =>
      obtain ⟨error, result, relCnt, rfl⟩ := hdata
      refine tended_connectAndBegin callback huntouched hcancellable hkind
        hsynchronous hstage fun hlive => ?_
      cases proxy with
      | true => rfl
      | false => exact absurd rfl (hdemand hlive)
  | downloading =>
      unfold gCancellableConnect
      split_ifs with hcancelled
      · rw [callHandler, prvGetIconCancelled, dlrAsyncTaskCancelled_eq]
        refine tended_of_running hkind hsynchronous hstage ?_ ?_
        · intro haction
          simp [huntouched.1] at haction
        · exact .scheduled (Nat.succ_pos _)
      · have hlive := live_of_not_cancelled hcancellable hcancelled
        refine tended_of_running hkind hsynchronous hstage ?_ ?_
        · exact fun haction => absurd huntouched.1 haction
        · exact .downloading rfl ⟨hlive, rfl⟩
  | updating =>
      exact ⟨hkind, fun _ => hsynchronous, fun _ => ⟨huntouched, hproxy⟩,
        fun _ => hcancellable, fun haction => absurd huntouched.1 haction,
        by simp⟩

def Orphaned (task : DlrAsyncTask) : Prop :=
  AwaitsAction task ∧ task.action = none

instance (task : DlrAsyncTask) : Decidable (Orphaned task) :=
  inferInstanceAs (Decidable (_ ∧ _))

/-- An action that needs a missing proxy is not begun, and never calls back. -/
theorem orphaned_of_fulfils {task next : DlrAsyncTask}
    (huntouched : Untouched task) (hlive : task.cancellable = some false)
    (hstage : task.stage = .running)
    (h : Fulfils task (.action false) next) : Orphaned next := by
  obtain ⟨haction, hdownload, hhandler, hidle, hcompletions⟩ := huntouched
  cases h with
  | begun hdata proxy callback =>
      obtain ⟨error, result, relCnt, rfl⟩ := hdata
      simp [Orphaned, AwaitsAction, connectAndBegin, gCancellableConnect,
        beginAction, hlive, hstage, hidle, hdownload]

/-! ## Replies -/

theorem Tended.late_of_action {task : DlrAsyncTask} (h : Tended task)
    (haction : task.action ≠ none) :
    task.stage ≠ .queued ∧ task.stage ≠ .updatingProps := by
  refine ⟨fun hstage => haction ?_, fun hstage => haction ?_⟩
  · exact (h.early (.inl hstage)).1.1
  · exact (h.early (.inr hstage)).1.1

theorem Tended.late_of_handler {task : DlrAsyncTask} (h : Tended task)
    (hhandler : task.handler ≠ none) :
    task.stage ≠ .queued ∧ task.stage ≠ .updatingProps := by
  refine ⟨fun hstage => hhandler ?_, fun hstage => hhandler ?_⟩
  · exact (h.early (.inl hstage)).1.2.2.1
  · exact (h.early (.inr hstage)).1.2.2.1

theorem tended_of_replied {task next : DlrAsyncTask} {finishes : Bool}
    (h : Tended task) (haction : task.action ≠ none)
    (hreplied : Replied { task with action := none } finishes next) :
    Tended next := by
  have hlate := h.late_of_action haction
  have hpresent := h.proxy haction
  cases hreplied with
  | finished hdata =>
      obtain ⟨error, result, relCnt, rfl⟩ := hdata
      refine tended_of_late h.kind hlate (fun hnone => absurd rfl hnone) ?_
      exact fun hstage => ⟨h.processed (.inl hstage), .scheduled (Nat.succ_pos _)⟩
  | chained hdata callback =>
      obtain ⟨error, result, relCnt, rfl⟩ := hdata
      refine tended_of_late h.kind hlate (fun _ => hpresent) fun hstage =>
        ⟨h.processed (.inl hstage), ?_⟩
      -- the next action is on the same proxy, and the handler stays connected
      cases h.running hstage with
      | scheduled hidle => exact .scheduled hidle
      | acting _ hdownload hconnected =>
          exact .acting (by simp [beginAction, hpresent]) hdownload hconnected
      | downloading hdownload hconnected =>
          exact .downloading hdownload hconnected

theorem tended_prvGetIconSessionCb {task : DlrAsyncTask} {status : Nat}
    (bytes : List Nat) (mimeType : String) (h : Tended task)
    (hdownload : task.download =
      some (decide (status = soupStatusCancelled))) :
    Tended (prvGetIconSessionCb status bytes mimeType task) := by
  have hlate : task.stage ≠ .queued ∧ task.stage ≠ .updatingProps := by
    refine ⟨fun hstage => ?_, fun hstage => ?_⟩
    · simp [(h.early (.inl hstage)).1.2.1] at hdownload
    · simp [(h.early (.inr hstage)).1.2.1] at hdownload
  have hscheduled (data : DlrAsyncTask) (hdata : SameButData task data) :
      Tended (finish { data with download := none }) := by
    obtain ⟨error, result, relCnt, rfl⟩ := hdata
    refine tended_of_late h.kind hlate h.proxy ?_
    exact fun hstage => ⟨h.processed (.inl hstage), .scheduled (Nat.succ_pos _)⟩
  unfold prvGetIconSessionCb
  simp only []
  split_ifs with hcancelled
  · refine tended_of_late h.kind hlate h.proxy fun hstage =>
      ⟨h.processed (.inl hstage), ?_⟩
    -- the handler that cancelled the download has completed the task
    cases h.running hstage with
    | scheduled hidle => exact .scheduled hidle
    | acting _ hnone => simp [hdownload] at hnone
    | downloading hfalse => simp [hdownload, hcancelled] at hfalse
  · exact hscheduled _ ⟨_, _, _, rfl⟩
  · exact hscheduled _ ⟨_, _, _, rfl⟩

theorem Tended.answer {task : DlrAsyncTask} (h : Tended task)
    (answer : Answer) : Tended (task.answer answer) := by
  obtain ⟨invocation, replies, heq⟩ := answer_eq answer task
  rw [heq]
  refine ⟨h.kind, h.processed, h.early, h.updating, h.proxy, fun hstage => ?_⟩
  cases h.running hstage with
  | scheduled hidle => exact .scheduled hidle
  | acting haction hdownload hconnected =>
      exact .acting haction hdownload hconnected
  | downloading hdownload hconnected =>
      exact .downloading hdownload hconnected

theorem stage_taskCompleted (task : DlrAsyncTask) :
    (taskCompleted task).stage = .finished ∨
      (taskCompleted task).stage = .deleted := by
  unfold taskCompleted
  split_ifs with hdeleted
  · exact .inr hdeleted
  · exact .inl rfl

theorem tended_completed {task : DlrAsyncTask} (answer : Answer)
    (hkind : task.task.synchronous = task.task.type.isSynchronous)
    (hproxy : task.action ≠ none → task.proxy = true) :
    Tended (taskCompleted (task.answer answer)) := by
  have hover := stage_taskCompleted (task.answer answer)
  obtain ⟨stage, hcompleted⟩ := taskCompleted_eq (task.answer answer)
  obtain ⟨invocation, replies, hanswer⟩ := answer_eq answer task
  rw [hcompleted, hanswer] at hover ⊢
  exact tended_of_over hkind hover hproxy

theorem tended_dlrAsyncTaskComplete {task : DlrAsyncTask} (h : Tended task) :
    Tended (dlrAsyncTaskComplete
      { task with idleSources := task.idleSources - 1 }) := by
  unfold dlrAsyncTaskComplete prvAsyncTaskComplete
  split
  · exact tended_completed _ h.kind h.proxy
  · exact tended_completed _ h.kind h.proxy

theorem tended_callHandler {task : DlrAsyncTask} (h : Tended task)
    {handler : CancelHandler} (hhandler : task.handler = some handler) :
    Tended (callHandler handler { task with cancellable := some true }) := by
  have hlate := h.late_of_handler (by simp [hhandler])
  cases handler with
  | asyncTaskCancelled =>
      rw [callHandler, dlrAsyncTaskCancelled_eq]
      refine tended_of_late h.kind hlate ?_ ?_
      · exact fun haction => h.proxy fun hnone => haction (by simp [hnone])
      · exact fun hstage =>
          ⟨h.processed (.inl hstage), .scheduled (Nat.succ_pos _)⟩
  | getIconCancelled =>
      rw [callHandler, prvGetIconCancelled, dlrAsyncTaskCancelled_eq]
      refine tended_of_late h.kind hlate ?_ ?_
      · exact fun haction => h.proxy fun hnone => haction (by simp [hnone])
      · exact fun hstage =>
          ⟨h.processed (.inl hstage), .scheduled (Nat.succ_pos _)⟩

theorem tended_gCancellableCancel {task : DlrAsyncTask} (h : Tended task) :
    Tended (gCancellableCancel task) := by
  unfold gCancellableCancel
  split
  case h_1 hlive hhandler =>
    refine ⟨h.kind, h.processed, h.early, by simp, h.proxy, fun hstage => ?_⟩
    cases h.running hstage with
    | scheduled hidle => exact .scheduled hidle
    | acting _ _ hconnected =>
        rw [hconnected.2] at hhandler
        contradiction
    | downloading _ hconnected =>
        rw [hconnected.2] at hhandler
        contradiction
  case h_2 handler hlive hhandler => exact tended_callHandler h hhandler
  case h_3 => exact h

theorem tended_dlrTaskCancel {task : DlrAsyncTask} (h : Tended task) :
    Tended (dlrTaskCancel task) := by
  unfold dlrTaskCancel
  simp only []
  split_ifs
  · exact h.answer _
  · exact tended_gCancellableCancel (h.answer _)

theorem tended_prvProcessSyncTask (around : Surroundings)
    {task : DlrAsyncTask} (h : Tended task) :
    Tended (prvProcessSyncTask around task) := by
  unfold prvProcessSyncTask DlrAsyncTask.completeWith
  split
  · exact tended_completed _ h.kind h.proxy
  · exact tended_completed _ h.kind h.proxy
  · exact tended_completed _ h.kind h.proxy
  · exact tended_completed _ h.kind h.proxy
  · exact tended_completed _ h.kind h.proxy
  · exact h

def loseProxy (task : DlrAsyncTask) : DlrAsyncTask :=
  { task with proxy := false, action := none }

theorem tended_loseProxy {task : DlrAsyncTask} (h : Tended task)
    (hkept : ¬ AwaitsAction task) : Tended (loseProxy task) := by
  refine ⟨h.kind, h.processed, fun hearly => ?_, h.updating,
    fun haction => absurd rfl haction, fun hstage => ?_⟩
  · obtain ⟨⟨-, huntouched⟩, -⟩ := h.early hearly
    exact ⟨⟨rfl, huntouched⟩, rfl⟩
  · cases h.running hstage with
    | scheduled hidle => exact .scheduled hidle
    | acting _ hdownload _ =>
        refine .scheduled (Nat.pos_of_ne_zero fun hidle => ?_)
        exact hkept ⟨hstage, hidle, hdownload⟩
    | downloading hdownload hconnected =>
        exact .downloading hdownload hconnected

theorem tended_cancel_loseProxy {task : DlrAsyncTask} (h : Tended task) :
    Tended (dlrTaskCancel (loseProxy task)) := by
  by_cases hawaits : AwaitsAction task
  · obtain ⟨-, hlive, hhandler⟩ := h.attended hawaits
    have hstage := hawaits.1
    have hsynchronous := h.processed (.inl hstage)
    have hkind := h.kind
    rw [hsynchronous] at hkind
    obtain ⟨invocation, replies, hanswer⟩ :=
      answer_eq (.error cancelledError) (loseProxy task)
    unfold dlrTaskCancel dlrAsyncTaskCancel gCancellableCancel
    rw [hanswer]
    simp only [loseProxy, hlive, hhandler, hsynchronous, callHandler,
      dlrAsyncTaskCancelled_eq, Bool.false_eq_true, if_false]
    refine tended_of_running hkind rfl hstage ?_ ?_
    · exact fun haction => absurd rfl haction
    · exact .scheduled (Nat.succ_pos _)
  · exact tended_dlrTaskCancel (tended_loseProxy h hawaits)

/-! ## Steps -/

/--
The step takes away nothing that the task waits for: its action is on a proxy
that is there, and stays there, and a download that is reported as cancelled
was cancelled.
-/
def KeepsAttended (task : DlrAsyncTask) : TaskEvent → Prop
  | .process around =>
      processDemand around.device task.task ≠ .action false
  | .propsUpdated device => task.cancellable = some false →
      updatedDemand device task.task ≠ .action false
  | .iconReply status _ _ => task.download =
      some (decide (status = soupStatusCancelled))
  | .proxyLost => ¬ AwaitsAction task
  | _ => True

theorem tended_prvProcessTask (around : Surroundings) {task : DlrAsyncTask}
    (h : Tended task) (hstage : task.stage = .queued)
    (hdemand : processDemand around.device task.task ≠ .action false) :
    Tended (prvProcessTask around task) := by
  obtain ⟨huntouched, hproxy⟩ := h.early (.inl hstage)
  unfold prvProcessTask
  cases hsynchronous : task.task.synchronous with
  | true => exact tended_prvProcessSyncTask around h
  | false =>
      have hfulfils :=
        fulfils_prvProcessAsyncTask around (h.kind.symm.trans hsynchronous)
      have hstarted : Untouched (started task) := huntouched
      exact tended_of_fulfils hstarted hproxy (by simp [started]) h.kind
        hsynchronous rfl hfulfils fun _ => hdemand

theorem tended_propsUpdated (device : Option DeviceView) {task : DlrAsyncTask}
    (h : Tended task) (hstage : task.stage = .updatingProps)
    (hdemand : task.cancellable = some false →
      updatedDemand device task.task ≠ .action false) :
    Tended (propsUpdated device task) := by
  obtain ⟨huntouched, hproxy⟩ := h.early (.inr hstage)
  have hrunning : Untouched { task with stage := .running } := huntouched
  exact tended_of_fulfils hrunning hproxy (h.updating hstage) h.kind
    (h.processed (.inr hstage)) rfl (fulfils_propsUpdated device task) hdemand

theorem tended_taskStep {task next : DlrAsyncTask} {event : TaskEvent}
    (h : Tended task) (hkeeps : KeepsAttended task event)
    (hstep : taskStep task event = some next) : Tended next := by
  cases stepped_of_taskStep hstep with
  | process around hstage => exact tended_prvProcessTask around h hstage hkeeps
  | propsUpdated device hstage => exact tended_propsUpdated device h hstage hkeeps
  | reply reply player callback haction =>
      exact tended_of_replied h (by simp [haction]) (replied_callBack ..)
  | iconReply status bytes mimeType hdownload hstatus =>
      exact tended_prvGetIconSessionCb bytes mimeType h hkeeps
  | runIdle hidle => exact tended_dlrAsyncTaskComplete h
  | cancel hstage => exact tended_dlrTaskCancel h
  | proxyLost => exact tended_loseProxy h hkeeps
  | delete hstage => exact tended_of_over h.kind (.inr rfl) h.proxy

theorem proxy_taskCompleted_answer (answer : Answer) (task : DlrAsyncTask) :
    (taskCompleted (task.answer answer)).proxy = task.proxy := by
  obtain ⟨stage, hcompleted⟩ := taskCompleted_eq (task.answer answer)
  obtain ⟨invocation, replies, hanswer⟩ := answer_eq answer task
  rw [hcompleted, hanswer]

theorem proxy_of_fulfils {task next : DlrAsyncTask} {demand : Demand}
    (h : Fulfils task demand next) (hnext : next.proxy = true) :
    task.proxy = true ∨ demand = .action true := by
  cases h with
  | scheduled hdata =>
      obtain ⟨error, result, relCnt, rfl⟩ := hdata
      exact .inl hnext
  | begun hdata proxy callback =>
      obtain rfl : proxy = true := hnext
      exact .inr rfl
  | downloading =>
      unfold gCancellableConnect at hnext
      split_ifs at hnext
      · rw [callHandler, prvGetIconCancelled, dlrAsyncTaskCancelled_eq] at hnext
        exact .inl hnext
      · exact .inl hnext
  | updating => exact .inl hnext

theorem proxy_prvProcessSyncTask (around : Surroundings)
    (task : DlrAsyncTask) :
    (prvProcessSyncTask around task).proxy = task.proxy := by
  unfold prvProcessSyncTask DlrAsyncTask.completeWith
  split
  · exact proxy_taskCompleted_answer _ _
  · exact proxy_taskCompleted_answer _ _
  · exact proxy_taskCompleted_answer _ _
  · exact proxy_taskCompleted_answer _ _
  · exact proxy_taskCompleted_answer _ _
  · rfl

theorem device_of_proxy {around : Surroundings} {task : DlrAsyncTask}
    (h : Tended task) (hstage : task.stage = .queued)
    (hproxy : (prvProcessTask around task).proxy = true) :
    around.device ≠ none := by
  have hearly : task.proxy = false := (h.early (.inl hstage)).2
  intro hnone
  unfold prvProcessTask at hproxy
  cases hsynchronous : task.task.synchronous with
  | true =>
      simp [hsynchronous, proxy_prvProcessSyncTask, hearly] at hproxy
  | false =>
      rw [hsynchronous] at hproxy
      have hfulfils :=
        fulfils_prvProcessAsyncTask around (h.kind.symm.trans hsynchronous)
      rcases proxy_of_fulfils hfulfils hproxy with htask | hdemand
      · simp [started, hearly] at htask
      · simp [processDemand, hnone] at hdemand

theorem device_of_proxy_propsUpdated {device : Option DeviceView}
    {task : DlrAsyncTask} (h : Tended task)
    (hstage : task.stage = .updatingProps)
    (hproxy : (propsUpdated device task).proxy = true) : device ≠ none := by
  have hearly : task.proxy = false := (h.early (.inr hstage)).2
  rintro rfl
  simp [propsUpdated, scheduleComplete, DlrAsyncTask.fail, hearly] at hproxy

/--
The events that need no device.  A download is reported as cancelled exactly
when it was, and the proxies go with their context.
-/
def isOwnEvent (task : DlrAsyncTask) : TaskEvent → Bool
  | .process _ => false
  | .propsUpdated _ => false
  | .proxyLost => false
  | .iconReply status _ _ =>
      task.download = some (decide (status = soupStatusCancelled))
  | _ => true

theorem keepsAttended_of_isOwnEvent {task : DlrAsyncTask} {event : TaskEvent}
    (h : isOwnEvent task event = true) : KeepsAttended task event := by
  cases event with
  | process around => contradiction
  | propsUpdated device => contradiction
  | iconReply status bytes mimeType =>
      simpa [isOwnEvent, KeepsAttended] using h
  | proxyLost => contradiction
  | _ => trivial

theorem proxy_callHandler (handler : CancelHandler) (task : DlrAsyncTask) :
    (callHandler handler task).proxy = task.proxy := by
  cases handler with
  | asyncTaskCancelled => rw [callHandler, dlrAsyncTaskCancelled_eq]
  | getIconCancelled =>
      rw [callHandler, prvGetIconCancelled, dlrAsyncTaskCancelled_eq]

theorem proxy_dlrTaskCancel (task : DlrAsyncTask) :
    (dlrTaskCancel task).proxy = task.proxy := by
  obtain ⟨invocation, replies, hanswer⟩ :=
    answer_eq (.error cancelledError) task
  unfold dlrTaskCancel dlrAsyncTaskCancel gCancellableCancel
  rw [hanswer]
  simp only []
  split_ifs
  · rfl
  · split
    · rfl
    · exact proxy_callHandler _ _
    · rfl

theorem proxy_of_replied {task next : DlrAsyncTask} {finishes : Bool}
    (h : Replied task finishes next) : next.proxy = task.proxy := by
  cases h with
  | finished hdata =>
      obtain ⟨error, result, relCnt, rfl⟩ := hdata
      rfl
  | chained hdata callback =>
      obtain ⟨error, result, relCnt, rfl⟩ := hdata
      rfl

theorem proxy_of_isOwnEvent {task next : DlrAsyncTask} {event : TaskEvent}
    (hown : isOwnEvent task event = true)
    (hstep : taskStep task event = some next) : next.proxy = task.proxy := by
  cases stepped_of_taskStep hstep with
  | process around hstage => contradiction
  | propsUpdated device hstage => contradiction
  | reply reply player callback haction =>
      have hreplied :=
        replied_callBack reply player callback { task with action := none }
      exact (proxy_of_replied hreplied :)
  | iconReply status bytes mimeType hdownload hstatus =>
      unfold prvGetIconSessionCb
      simp only []
      split_ifs <;> rfl
  | runIdle hidle =>
      unfold dlrAsyncTaskComplete prvAsyncTaskComplete
      split
      · exact proxy_taskCompleted_answer _ _
      · exact proxy_taskCompleted_answer _ _
  | cancel hstage => exact proxy_dlrTaskCancel task
  | proxyLost => contradiction
  | delete hstage => rfl

/-! ## Steps that orphan the task -/

theorem demand_of_isSynchronous {type : DlrTaskType}
    (h : type.isSynchronous = true) (device : Option DeviceView)
    {task : DlrTask} (htype : task.type = type) :
    processDemand device task = .nothing := by
  cases device with
  | none => rfl
  | some device =>
      unfold processDemand demand
      rw [htype]
      cases type <;> first | rfl | contradiction

theorem orphaned_prvProcessTask {around : Surroundings} {task : DlrAsyncTask}
    (h : Tended task) (hstage : task.stage = .queued)
    (hdemand : processDemand around.device task.task = .action false) :
    Orphaned (prvProcessTask around task) := by
  have htype : task.task.type.isSynchronous = false := by
    by_contra hsynchronous
    rw [demand_of_isSynchronous (by simpa using hsynchronous) _ rfl] at hdemand
    contradiction
  have hfulfils := fulfils_prvProcessAsyncTask around htype
  rw [hdemand] at hfulfils
  have hstarted : Untouched (started task) := (h.early (.inl hstage)).1
  unfold prvProcessTask
  rw [if_neg (by simp [h.kind.trans htype])]
  exact orphaned_of_fulfils hstarted rfl rfl hfulfils

theorem orphaned_propsUpdated {device : Option DeviceView}
    {task : DlrAsyncTask} (h : Tended task)
    (hstage : task.stage = .updatingProps)
    (hlive : task.cancellable = some false)
    (hdemand : updatedDemand device task.task = .action false) :
    Orphaned (propsUpdated device task) := by
  have hfulfils := fulfils_propsUpdated device task
  rw [hdemand] at hfulfils
  have hrunning : Untouched { task with stage := .running } :=
    (h.early (.inr hstage)).1
  exact orphaned_of_fulfils hrunning hlive rfl hfulfils

theorem orphaned_loseProxy {task : DlrAsyncTask} (h : AwaitsAction task) :
    Orphaned (loseProxy task) := ⟨h, rfl⟩

def Plain (task : DlrAsyncTask) : Prop :=
  task.download = none ∧ task.stage ≠ .updatingProps

theorem plain_of_asked {task next : DlrAsyncTask} (h : Plain task)
    (hasked : Asked task next) : Plain next := by
  refine ⟨?_, by rw [(steady_of_asked hasked).stage]; exact h.2⟩
  cases hasked with
  | scheduled hdata =>
      obtain ⟨error, result, relCnt, rfl⟩ := hdata
      exact h.1
  | begun hdata proxy callback =>
      obtain ⟨error, result, relCnt, rfl⟩ := hdata
      unfold connectAndBegin gCancellableConnect beginAction
      split_ifs
      · rw [callHandler, dlrAsyncTaskCancelled_eq]
        exact h.1
      · exact h.1

theorem plain_taskCompleted_answer {task : DlrAsyncTask} (h : Plain task)
    (answer : Answer) : Plain (taskCompleted (task.answer answer)) := by
  have hover := stage_taskCompleted (task.answer answer)
  obtain ⟨stage, hcompleted⟩ := taskCompleted_eq (task.answer answer)
  obtain ⟨invocation, replies, hanswer⟩ := answer_eq answer task
  rw [hcompleted, hanswer] at hover ⊢
  refine ⟨h.1, fun hupdating => ?_⟩
  rcases hover with hstage | hstage <;> rw [hstage] at hupdating <;>
    contradiction

theorem plain_prvProcessSyncTask (around : Surroundings) {task : DlrAsyncTask}
    (h : Plain task) : Plain (prvProcessSyncTask around task) := by
  have hset (result : Option TaskResult) :
      Plain { task with task := { task.task with result := result } } := h
  unfold prvProcessSyncTask DlrAsyncTask.completeWith
  split
  · exact plain_taskCompleted_answer (hset _) _
  · exact plain_taskCompleted_answer (hset _) _
  · exact plain_taskCompleted_answer h _
  · exact plain_taskCompleted_answer h _
  · exact plain_taskCompleted_answer h _
  · exact h

theorem plain_prvProcessTask {around : Surroundings} {task : DlrAsyncTask}
    (htended : Tended task) (h : Plain task)
    (hicon : processDemand around.device task.task ≠ .icon)
    (hprops : processDemand around.device task.task ≠ .props) :
    Plain (prvProcessTask around task) := by
  unfold prvProcessTask
  cases hsynchronous : task.task.synchronous with
  | true => exact plain_prvProcessSyncTask around h
  | false =>
      have hfulfils := fulfils_prvProcessAsyncTask around
        (htended.kind.symm.trans hsynchronous)
      have hstarted : Plain (started task) := ⟨h.1, by simp [started]⟩
      exact plain_of_asked hstarted (hfulfils.asked hicon hprops)

theorem plain_of_replied {task next : DlrAsyncTask} {finishes : Bool}
    (h : Plain task) (hreplied : Replied task finishes next) : Plain next := by
  cases hreplied with
  | finished hdata =>
      obtain ⟨error, result, relCnt, rfl⟩ := hdata
      exact h
  | chained hdata callback =>
      obtain ⟨error, result, relCnt, rfl⟩ := hdata
      exact h

theorem plain_dlrTaskCancel {task : DlrAsyncTask} (h : Plain task) :
    Plain (dlrTaskCancel task) := by
  obtain ⟨invocation, replies, hanswer⟩ :=
    answer_eq (.error cancelledError) task
  unfold dlrTaskCancel dlrAsyncTaskCancel gCancellableCancel
  rw [hanswer]
  simp only []
  split_ifs
  · exact h
  · split
    · exact h
    · rename_i handler _ _
      cases handler with
      | asyncTaskCancelled =>
          rw [callHandler, dlrAsyncTaskCancelled_eq]
          exact h
      | getIconCancelled =>
          rw [callHandler, prvGetIconCancelled, dlrAsyncTaskCancelled_eq]
          exact ⟨by simp [h.1], h.2⟩
    · exact h

theorem plain_of_isOwnEvent {task next : DlrAsyncTask} {event : TaskEvent}
    (h : Plain task) (hown : isOwnEvent task event = true)
    (hstep : taskStep task event = some next) : Plain next := by
  cases stepped_of_taskStep hstep with
  | process around hstage => contradiction
  | propsUpdated device hstage => contradiction
  | reply reply player callback haction =>
      have hwaiting : Plain { task with action := none } := h
      exact plain_of_replied hwaiting (replied_callBack ..)
  | iconReply status bytes mimeType hdownload hstatus =>
      rw [h.1] at hdownload
      contradiction
  | runIdle hidle =>
      have hcalled :
          Plain { task with idleSources := task.idleSources - 1 } := h
      unfold dlrAsyncTaskComplete prvAsyncTaskComplete
      split
      · exact plain_taskCompleted_answer hcalled _
      · exact plain_taskCompleted_answer hcalled _
  | cancel hstage => exact plain_dlrTaskCancel h
  | proxyLost => contradiction
  | delete hstage => exact ⟨h.1, by simp [dlrTaskDelete]⟩

theorem idle_of_fulfils {task next : DlrAsyncTask} {demand : Demand}
    (huntouched : Untouched task) (hlive : task.cancellable = some false)
    (hstage : task.stage = .running) (h : Fulfils task demand next)
    (hdemand : demand = .icon ∨ demand = .props) :
    Unfinished next ∧ next.idleSources = 0 ∧ next.action = none := by
  obtain ⟨haction, hdownload, hhandler, hidle, hcompletions⟩ := huntouched
  cases h with
  | scheduled => simp at hdemand
  | begun => simp at hdemand
  | downloading =>
      unfold gCancellableConnect
      rw [if_neg (by simp [hlive])]
      exact ⟨.inl hstage, hidle, haction⟩
  | updating => exact ⟨.inr rfl, hidle, haction⟩

theorem idle_prvProcessTask (around : Surroundings) {task : DlrAsyncTask}
    (h : Tended task) (hstage : task.stage = .queued)
    (hdemand : processDemand around.device task.task = .icon ∨
      processDemand around.device task.task = .props) :
    Unfinished (prvProcessTask around task) ∧
      (prvProcessTask around task).idleSources = 0 ∧
      (prvProcessTask around task).action = none := by
  have htype : task.task.type.isSynchronous = false := by
    by_contra hsynchronous
    rw [demand_of_isSynchronous (by simpa using hsynchronous) _ rfl] at hdemand
    simp at hdemand
  have hfulfils := fulfils_prvProcessAsyncTask around htype
  have hstarted : Untouched (started task) := (h.early (.inl hstage)).1
  unfold prvProcessTask
  rw [if_neg (by simp [h.kind.trans htype])]
  exact idle_of_fulfils hstarted rfl rfl hfulfils hdemand

end DleynaRenderer.Task
