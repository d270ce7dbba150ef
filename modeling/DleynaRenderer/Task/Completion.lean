import DleynaRenderer.Task.Outcomes

/-!
# One completion

A pending action and a connected handler can both schedule the completion of a
task; whichever comes first puts an end to the other.  A task that is cancelled
before it connects its handler is completed by connecting it, and must not see
the reply to the action it begins all the same.
-/

namespace DleynaRenderer.Task

open DleynaRenderer.Player

/-- No reply that finishes the task comes after it was cancelled. -/
def InTime (task : DlrAsyncTask) : TaskEvent → Prop
  | .reply reply _ => task.cancellable = some true →
      task.action.any (ActionCallback.finishes task.task.type reply) = false
  | _ => True

instance (task : DlrAsyncTask) :
    (event : TaskEvent) → Decidable (InTime task event)
  | .reply .. => inferInstanceAs (Decidable (_ = _ → _ = _))
  | .process _ => isTrue trivial
  | .propsUpdated _ => isTrue trivial
  | .iconReply .. => isTrue trivial
  | .runIdle => isTrue trivial
  | .cancel => isTrue trivial
  | .proxyLost => isTrue trivial
  | .delete => isTrue trivial

def Armed (handler : CancelHandler) (task : DlrAsyncTask) : Prop :=
  task.cancellable = some false ∧ task.handler = some handler ∧
    task.completions = 0

def Untouched (task : DlrAsyncTask) : Prop :=
  task.action = none ∧ task.download = none ∧ task.handler = none ∧
    task.idleSources = 0 ∧ task.completions = 0

/-- Whatever can still complete the task has its completion left to do. -/
structure Accounted (task : DlrAsyncTask) : Prop where
  idle : task.idleSources ≤ task.completions
  once : task.completions ≤ 1
  action : task.action ≠ none → task.proxy = true ∧
    (Armed .asyncTaskCancelled task ∨
      task.cancellable = some true ∧ task.completions = 1)
  download : task.download = some false → Armed .getIconCancelled task
  handler : task.handler ≠ none → task.cancellable = some false →
    task.completions = 0
  updating : task.stage = .updatingProps → task.cancellable ≠ none
  early : task.stage = .queued ∨ task.stage = .updatingProps → Untouched task

theorem accounted_queuedTask (task : DlrTask) : Accounted (queuedTask task) where
  idle := Nat.le_refl 0
  once := Nat.zero_le 1
  action h := absurd rfl h
  download h := by cases h
  handler h := absurd rfl h
  updating h := by cases h
  early _ := ⟨rfl, rfl, rfl, rfl, rfl⟩

theorem accounted_quiet {task : DlrAsyncTask}
    (hidle : task.idleSources ≤ task.completions)
    (honce : task.completions ≤ 1) (haction : task.action = none)
    (hdownload : task.download ≠ some false)
    (hhandler : task.handler ≠ none → task.cancellable = some false →
      task.completions = 0)
    (hstage : task.stage ≠ .queued ∧ task.stage ≠ .updatingProps) :
    Accounted task where
  idle := hidle
  once := honce
  action h := absurd haction h
  download h := absurd h hdownload
  handler := hhandler
  updating h := absurd h hstage.2
  early h := absurd h (not_or.mpr hstage)

theorem accounted_scheduleComplete {task : DlrAsyncTask}
    (huntouched : Untouched task) (hstage : task.stage = .running) :
    Accounted (scheduleComplete task) := by
  obtain ⟨haction, hdownload, hhandler, hidle, hcompletions⟩ := huntouched
  refine accounted_quiet ?_ ?_ haction ?_ ?_ ?_
  · simp [scheduleComplete, hidle, hcompletions]
  · simp [scheduleComplete, hcompletions]
  · simp [scheduleComplete, hdownload]
  · exact fun h => absurd hhandler h
  · simp [scheduleComplete, hstage]

theorem accounted_connectAndBegin {task : DlrAsyncTask} (proxy : Bool)
    (callback : ActionCallback) (huntouched : Untouched task)
    (hcancellable : task.cancellable ≠ none)
    (hstage : task.stage = .running) :
    Accounted (connectAndBegin proxy callback task) := by
  obtain ⟨haction, hdownload, hhandler, hidle, hcompletions⟩ := huntouched
  unfold connectAndBegin gCancellableConnect beginAction
  by_cases hcancelled : task.cancellable = some true
  · simp only [if_pos hcancelled, callHandler, dlrAsyncTaskCancelled_eq]
    constructor <;> simp [hidle, hcompletions, hdownload, hhandler, hstage,
      hcancelled]
  · have hlive : task.cancellable = some false := by
      obtain ⟨cancelled, hsome⟩ := Option.ne_none_iff_exists'.mp hcancellable
      cases cancelled with
      | false => exact hsome
      | true => exact absurd hsome hcancelled
    simp only [if_neg hcancelled]
    constructor <;> simp [Armed, hidle, hcompletions, hdownload, hstage, hlive]

theorem accounted_of_asked {task next : DlrAsyncTask}
    (huntouched : Untouched task) (hcancellable : task.cancellable ≠ none)
    (hstage : task.stage = .running) (h : Asked task next) :
    Accounted next := by
  cases h with
  | scheduled hdata =>
      obtain ⟨error, result, relCnt, rfl⟩ := hdata
      exact accounted_scheduleComplete huntouched hstage
  | begun hdata proxy callback =>
      obtain ⟨error, result, relCnt, rfl⟩ := hdata
      exact accounted_connectAndBegin proxy callback huntouched hcancellable
        hstage

theorem accounted_of_requested {task next : DlrAsyncTask}
    (huntouched : Untouched task) (hlive : task.cancellable = some false)
    (hstage : task.stage = .running) (h : Requested task next) :
    Accounted next := by
  obtain ⟨haction, hdownload, hhandler, hidle, hcompletions⟩ := huntouched
  cases h with
  | asked hasked =>
      exact accounted_of_asked
        ⟨haction, hdownload, hhandler, hidle, hcompletions⟩ (by simp [hlive])
        hstage hasked
  | updating =>
      constructor <;> simp [Untouched, hidle, hcompletions, haction, hdownload,
        hhandler, hlive]
  | downloading =>
      constructor <;> simp [gCancellableConnect, Armed, hidle, hcompletions,
        haction, hlive, hstage]
  | nothing =>
      exact accounted_quiet (by omega) (by omega) haction (by simp [hdownload])
        (fun _ _ => hcompletions) (by simp [hstage])

theorem Accounted.answer {task : DlrAsyncTask} (h : Accounted task)
    (answer : Answer) : Accounted (task.answer answer) := by
  obtain ⟨invocation, replies, heq⟩ := answer_eq answer task
  rw [heq]
  exact ⟨h.idle, h.once, h.action, h.download, h.handler, h.updating, h.early⟩

theorem Accounted.taskCompleted {task : DlrAsyncTask} (h : Accounted task) :
    Accounted (taskCompleted task) := by
  unfold Task.taskCompleted
  split_ifs
  · exact h
  · exact ⟨h.idle, h.once, h.action, h.download, h.handler, by simp, by simp⟩

theorem Accounted.completeWith {task : DlrAsyncTask} (h : Accounted task)
    (result : Option TaskResult) : Accounted (task.completeWith result) := by
  refine Accounted.answer ?_ _
  exact ⟨h.idle, h.once, h.action, h.download, h.handler, h.updating, h.early⟩

theorem accounted_prvProcessTask (around : Surroundings) {task : DlrAsyncTask}
    (h : Accounted task) (hstage : task.stage = .queued) :
    Accounted (prvProcessTask around task) := by
  unfold prvProcessTask
  split_ifs
  · unfold prvProcessSyncTask
    split
    · exact (h.completeWith _).taskCompleted
    · exact (h.completeWith _).taskCompleted
    · exact (h.answer _).taskCompleted
    · exact (h.answer _).taskCompleted
    · exact (h.answer _).taskCompleted
    · exact h
  · have huntouched : Untouched (started task) := h.early (.inl hstage)
    exact accounted_of_requested huntouched rfl rfl
      (requested_prvProcessAsyncTask around task)

theorem accounted_propsUpdated (device : Option DeviceView)
    {task : DlrAsyncTask} (h : Accounted task)
    (hstage : task.stage = .updatingProps) :
    Accounted (propsUpdated device task) := by
  have huntouched : Untouched { task with stage := .running } :=
    h.early (.inr hstage)
  exact accounted_of_asked huntouched (h.updating hstage) rfl
    (asked_propsUpdated device task)

theorem Accounted.stage_of_action {task : DlrAsyncTask} (h : Accounted task)
    (haction : task.action ≠ none) :
    task.stage ≠ .queued ∧ task.stage ≠ .updatingProps := by
  refine ⟨fun hstage => haction ?_, fun hstage => haction ?_⟩
  · exact (h.early (.inl hstage)).1
  · exact (h.early (.inr hstage)).1

theorem accounted_finish {task : DlrAsyncTask}
    (hidle : task.idleSources ≤ task.completions)
    (hcompletions : task.completions = 0) (haction : task.action = none)
    (hdownload : task.download ≠ some false)
    (hstage : task.stage ≠ .queued ∧ task.stage ≠ .updatingProps) :
    Accounted (finish task) := by
  refine accounted_quiet ?_ ?_ haction hdownload ?_ hstage
  · simpa [finish, gCancellableDisconnect, scheduleComplete] using hidle
  · simp [finish, gCancellableDisconnect, scheduleComplete, hcompletions]
  · exact fun h => absurd rfl h

theorem accounted_callBack (reply : ActionReply) (player : PlayerState)
    {task : DlrAsyncTask} {callback : ActionCallback} (h : Accounted task)
    (haction : task.action = some callback)
    (hintime : task.cancellable = some true →
      callback.finishes task.task.type reply = false) :
    Accounted
      (callBack reply player callback { task with action := none }) := by
  have hpending : task.action ≠ none := by simp [haction]
  obtain ⟨hproxy, hwaits⟩ := h.action hpending
  have hstage := h.stage_of_action hpending
  have hdownload : task.download ≠ some false := by
    intro hfalse
    obtain ⟨hlive, hicon, hzero⟩ := h.download hfalse
    rcases hwaits with ⟨-, hhandler, -⟩ | ⟨-, hone⟩
    · rw [hicon] at hhandler
      cases hhandler
    · omega
  have hreplied :=
    replied_callBack reply player callback { task with action := none }
  generalize callback.finishes task.task.type reply = finishes at *
  generalize callBack reply player callback { task with action := none } =
    next at *
  cases hreplied with
  | finished hdata =>
      obtain ⟨error, result, relCnt, rfl⟩ := hdata
      rcases hwaits with ⟨-, -, hzero⟩ | ⟨hcancelled, -⟩
      · exact accounted_finish h.idle hzero rfl hdownload hstage
      · exact absurd (hintime hcancelled) (by decide)
  | chained hdata next =>
      obtain ⟨error, result, relCnt, rfl⟩ := hdata
      exact ⟨h.idle, h.once, fun _ => ⟨hproxy, hwaits⟩, h.download, h.handler,
        h.updating, fun hearly => absurd hearly (not_or.mpr hstage)⟩

theorem Accounted.handler_of_action {task : DlrAsyncTask} (h : Accounted task)
    (hlive : task.cancellable = some false) (haction : task.action ≠ none) :
    task.handler = some .asyncTaskCancelled := by
  obtain ⟨-, ⟨-, hhandler, -⟩ | ⟨hcancelled, -⟩⟩ := h.action haction
  · exact hhandler
  · rw [hlive] at hcancelled
    cases hcancelled

theorem accounted_callHandler {task : DlrAsyncTask} (h : Accounted task)
    {handler : CancelHandler} (hlive : task.cancellable = some false)
    (hhandler : task.handler = some handler) :
    Accounted (callHandler handler { task with cancellable := some true }) := by
  have hconnected : task.handler ≠ none := by simp [hhandler]
  have hzero := h.handler hconnected hlive
  have hidle := h.idle
  have hstage : task.stage ≠ .queued ∧ task.stage ≠ .updatingProps := by
    refine ⟨fun hstage => hconnected ?_, fun hstage => hconnected ?_⟩
    · exact (h.early (.inl hstage)).2.2.1
    · exact (h.early (.inr hstage)).2.2.1
  cases handler with
  | asyncTaskCancelled =>
      rw [callHandler, dlrAsyncTaskCancelled_eq]
      refine accounted_quiet (Nat.succ_le_succ hidle) ?_ ?_ ?_ ?_ hstage
      · simp [hzero]
      · by_cases haction : task.action = none
        · simp [haction]
        · simp [(h.action haction).1]
      · intro hfalse
        have hicon := (h.download hfalse).2.1
        rw [hhandler] at hicon
        cases hicon
      · simp
  | getIconCancelled =>
      -- an action that can still be cancelled has the other handler
      have hnone : task.action = none := by
        by_contra haction
        have hasync := h.handler_of_action hlive haction
        rw [hhandler] at hasync
        cases hasync
      rw [callHandler, prvGetIconCancelled, dlrAsyncTaskCancelled_eq]
      refine accounted_quiet (Nat.succ_le_succ hidle) ?_ ?_ ?_ ?_ hstage
      · simp [hzero]
      · simp [hnone]
      · simp
      · simp

theorem accounted_gCancellableCancel {task : DlrAsyncTask}
    (h : Accounted task) : Accounted (gCancellableCancel task) := by
  unfold gCancellableCancel
  split
  case h_1 hlive hhandler =>
    refine ⟨h.idle, h.once, ?_, ?_, fun hconnected => absurd hhandler hconnected,
      by simp, h.early⟩
    · intro haction
      have hasync := h.handler_of_action hlive haction
      rw [hhandler] at hasync
      cases hasync
    · intro hfalse
      have hicon := (h.download hfalse).2.1
      rw [hhandler] at hicon
      cases hicon
  case h_2 handler hlive hhandler => exact accounted_callHandler h hlive hhandler
  case h_3 => exact h

theorem accounted_dlrTaskCancel {task : DlrAsyncTask} (h : Accounted task) :
    Accounted (dlrTaskCancel task) := by
  unfold dlrTaskCancel
  simp only []
  split_ifs
  · exact h.answer _
  · exact accounted_gCancellableCancel (h.answer _)

theorem accounted_prvGetIconSessionCb {task : DlrAsyncTask} {cancelled : Bool}
    {status : Nat} (bytes : List Nat) (mimeType : String)
    (h : Accounted task) (hdownload : task.download = some cancelled)
    (hstatus : cancelled → status = soupStatusCancelled) :
    Accounted (prvGetIconSessionCb status bytes mimeType task) := by
  unfold prvGetIconSessionCb
  simp only []
  by_cases hsoup : status = soupStatusCancelled
  · rw [if_pos hsoup]
    exact ⟨h.idle, h.once, h.action, by simp, h.handler, h.updating,
      fun hearly => ⟨(h.early hearly).1, rfl, (h.early hearly).2.2⟩⟩
  · obtain rfl : cancelled = false := by
      cases cancelled with
      | false => rfl
      | true => exact absurd (hstatus rfl) hsoup
    obtain ⟨hlive, hhandler, hzero⟩ := h.download hdownload
    have haction : task.action = none := by
      by_contra haction
      have hasync := h.handler_of_action hlive haction
      rw [hhandler] at hasync
      cases hasync
    have hstage : task.stage ≠ .queued ∧ task.stage ≠ .updatingProps := by
      refine ⟨fun hstage => ?_, fun hstage => ?_⟩
      · simp [(h.early (.inl hstage)).2.1] at hdownload
      · simp [(h.early (.inr hstage)).2.1] at hdownload
    rw [if_neg hsoup]
    split_ifs
    · exact accounted_finish h.idle hzero haction (by simp [prvBuildIconResult])
        hstage
    · exact accounted_finish h.idle hzero haction (by simp [DlrAsyncTask.fail])
        hstage

theorem accounted_dlrAsyncTaskComplete {task : DlrAsyncTask}
    (h : Accounted task) : Accounted (dlrAsyncTaskComplete
      { task with idleSources := task.idleSources - 1 }) := by
  have hcalled : Accounted { task with idleSources := task.idleSources - 1 } :=
    ⟨(Nat.sub_le _ _).trans h.idle, h.once, h.action, h.download, h.handler,
      h.updating, fun hearly => by
        obtain ⟨haction, hdownload, hhandler, hidle, hcompletions⟩ :=
          h.early hearly
        exact ⟨haction, hdownload, hhandler, by simp [hidle], hcompletions⟩⟩
  unfold dlrAsyncTaskComplete prvAsyncTaskComplete
  split
  · exact (hcalled.answer _).taskCompleted
  · exact (hcalled.answer _).taskCompleted

theorem accounted_taskStep {task next : DlrAsyncTask} {event : TaskEvent}
    (h : Accounted task) (hintime : InTime task event)
    (hstep : taskStep task event = some next) : Accounted next := by
  cases stepped_of_taskStep hstep with
  | process around hstage => exact accounted_prvProcessTask around h hstage
  | propsUpdated device hstage => exact accounted_propsUpdated device h hstage
  | reply reply player callback haction =>
      apply accounted_callBack reply player h haction
      intro hcancelled
      simpa [haction] using hintime hcancelled
  | iconReply status bytes mimeType hdownload hstatus =>
      exact accounted_prvGetIconSessionCb bytes mimeType h hdownload hstatus
  | runIdle hidle => exact accounted_dlrAsyncTaskComplete h
  | cancel hstage => exact accounted_dlrTaskCancel h
  | proxyLost =>
      exact ⟨h.idle, h.once, fun haction => absurd rfl haction, h.download,
        h.handler, h.updating, fun hearly => ⟨rfl, (h.early hearly).2⟩⟩
  | delete hstage =>
      exact ⟨h.idle, h.once, h.action, h.download, h.handler,
        by simp [dlrTaskDelete], by simp [dlrTaskDelete]⟩

end DleynaRenderer.Task
