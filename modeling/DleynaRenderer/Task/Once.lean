import DleynaRenderer.Foundation.EventSystem
import DleynaRenderer.Task.Completion
import DleynaRenderer.Task.Replies

/-!
# Tasks complete once

In every order of replies, cancellations and losses a task answers its client
once.  It is completed once as well, unless it was cancelled while it waited
for the synchronisation of the properties and then asks for the position.
-/

namespace DleynaRenderer.Task

open DleynaRenderer.Player EventSystem

def CompletesOnce (task : DlrAsyncTask) : Prop := task.completions ≤ 1

/-- Whatever happens, a deleted task has answered its invocation once. -/
theorem task_answers_once (interfaceName propName : String) (params : Variant)
    (type : DlrTaskType) (invocation : Nat) (events : List TaskEvent) :
    Always taskStep (AnswersOnce invocation)
      (queuedTask (dlrTaskNew interfaceName propName params type invocation))
      events := by
  refine guarded_run_always (Answered invocation)
    (fun _ => Answered.answersOnce)
    (fun _ _ _ h (_ : True) hstep => answered_taskStep h hstep)
    (answered_queuedTask (dlrTaskNew_invocation ..)) ?_
  exact meets_of_forall_mem (fun _ _ _ => trivial) _

theorem completions_callBack (reply : ActionReply) (player : PlayerState)
    {callback : ActionCallback} {task : DlrAsyncTask}
    (hfinishes : callback.finishes task.task.type reply = true) :
    (callBack reply player callback task).completions =
      task.completions + 1 := by
  have hreplied := replied_callBack reply player callback task
  rw [hfinishes] at hreplied
  generalize callBack reply player callback task = next at *
  cases hreplied with
  | finished hdata =>
      obtain ⟨error, result, relCnt, rfl⟩ := hdata
      rfl

theorem inTime_of_completesOnce {task next : DlrAsyncTask} {event : TaskEvent}
    (h : Accounted task) (hstep : taskStep task event = some next)
    (honce : CompletesOnce next) : InTime task event := by
  cases stepped_of_taskStep hstep with
  | reply reply player callback haction =>
      intro hcancelled
      rw [haction, Option.any_some, ← Bool.not_eq_true]
      intro hfinishes
      have hcompletions : (callBack reply player callback
          { task with action := none }).completions = task.completions + 1 :=
        completions_callBack reply player hfinishes
      -- a cancelled task has had its completion from the handler
      have hone : task.completions = 1 := by
        obtain ⟨-, ⟨hlive, -⟩ | ⟨-, hone⟩⟩ := h.action (by simp [haction])
        · rw [hcancelled] at hlive
          cases hlive
        · exact hone
      unfold CompletesOnce at honce
      omega
  | _ => trivial

/--
A task is completed at most once, and has answered its invocation once when it
is deleted, exactly in the runs in which no reply that finishes it comes after
its cancellation.
-/
theorem task_completes_once_iff_in_time (interfaceName propName : String)
    (params : Variant) (type : DlrTaskType) (invocation : Nat)
    {events : List TaskEvent} {last : DlrAsyncTask}
    (hrun : exec taskStep
      (queuedTask (dlrTaskNew interfaceName propName params type invocation))
      events = some last) :
    Always taskStep
        (fun task => CompletesOnce task ∧ AnswersOnce invocation task)
        (queuedTask (dlrTaskNew interfaceName propName params type invocation))
        events ↔
      Meets taskStep InTime
        (queuedTask (dlrTaskNew interfaceName propName params type invocation))
        events := by
  refine guarded_run_always_iff
    (fun task => Accounted task ∧ Answered invocation task)
    ?_ ?_ ?_ ?_ hrun
  · exact fun _ h => ⟨h.1.once, h.2.answersOnce⟩
  · exact fun _ _ _ h hintime hstep =>
      ⟨accounted_taskStep h.1 hintime hstep, answered_taskStep h.2 hstep⟩
  · exact fun _ _ _ h hstep hgood => inTime_of_completesOnce h.1 hstep hgood.1
  · exact ⟨accounted_queuedTask _,
      answered_queuedTask (dlrTaskNew_invocation ..)⟩

def unsyncedGetAll : DlrAsyncTask :=
  queuedTask (dlrTaskNew playerInterface "" (.boolean false) .getAllProps 7)

def syncedPlayer : PlayerState := { playerNew with synced := true }

def getAllEvents (between : List TaskEvent) : List TaskEvent :=
  .process (surroundings (playerDevice playerNew)) :: between ++
    [.propsUpdated (some (playerDevice syncedPlayer)),
      .reply ⟨none, some "0:00:10"⟩ syncedPlayer, .runIdle, .delete]

theorem task_completes_once_getAll :
    ∃ last, exec taskStep unsyncedGetAll (getAllEvents []) = some last ∧
      last.completions = 1 ∧
      Always taskStep (fun task => CompletesOnce task ∧ AnswersOnce 7 task)
        unsyncedGetAll (getAllEvents []) := by
  refine ⟨_, rfl, by decide +kernel, ?_⟩
  exact (task_completes_once_iff_in_time playerInterface "" (.boolean false)
    .getAllProps 7 rfl).mpr (by decide +kernel)

/-- Cancelled during its synchronisation, the task asks for the position anyway. -/
theorem cancelled_getAll_completes_twice :
    ∃ last, exec taskStep unsyncedGetAll (getAllEvents [.cancel]) = some last ∧
      last.completions = 2 ∧ last.idleSources = 1 ∧ last.stage = .deleted :=
  ⟨_, rfl, by decide +kernel, by decide +kernel, by decide +kernel⟩

def AsksPosition (task : DlrAsyncTask) : Prop :=
  task.task.type ≠ .getProp ∧ (task.task.interfaceName = playerInterface ∨
    task.task.interfaceName = "")

/-- A task that goes on to ask for the position has not been cancelled. -/
def UncancelledSync (task : DlrAsyncTask) : TaskEvent → Prop
  | .propsUpdated (some _) => AsksPosition task → task.cancellable ≠ some true
  | _ => True

def Stoppable (task : DlrAsyncTask) : Prop :=
  task.action ≠ none → task.cancellable ≠ some true

theorem cancellable_of_requested {task next : DlrAsyncTask}
    (h : Requested task next) : next.cancellable = task.cancellable := by
  cases h with
  | asked hasked => exact (steady_of_asked hasked).cancellable
  | updating => rfl
  | downloading =>
      exact (steady_gCancellableConnect .getIconCancelled task).cancellable
  | nothing => rfl

theorem Stoppable.told {task : DlrAsyncTask} (h : Stoppable task)
    (answer : Answer) : Stoppable (taskCompleted (task.answer answer)) := by
  obtain ⟨stage, hcompleted⟩ := taskCompleted_eq (task.answer answer)
  obtain ⟨invocation, replies, hanswer⟩ := answer_eq answer task
  rw [hcompleted, hanswer]
  exact h

theorem stoppable_prvProcessTask (around : Surroundings) {task : DlrAsyncTask}
    (h : Stoppable task) : Stoppable (prvProcessTask around task) := by
  unfold prvProcessTask
  split_ifs
  · unfold prvProcessSyncTask DlrAsyncTask.completeWith
    have hset (result : Option TaskResult) :
        Stoppable { task with task := { task.task with result := result } } := h
    split
    · exact (hset _).told _
    · exact (hset _).told _
    · exact h.told _
    · exact h.told _
    · exact h.told _
    · exact h
  · intro _
    rw [cancellable_of_requested (requested_prvProcessAsyncTask around task)]
    exact fun hcancelled => by cases hcancelled

theorem action_propsUpdated {device : Option DeviceView} {task : DlrAsyncTask}
    (hasks : device ≠ none → ¬ AsksPosition task) :
    (propsUpdated device task).action = task.action := by
  have hscheduled {data : DlrAsyncTask}
      (h : SameButData { task with stage := .running } data) :
      (scheduleComplete data).action = task.action := by
    obtain ⟨error, result, relCnt, rfl⟩ := h
    rfl
  cases device with
  | none => exact hscheduled (.fail _ _ _)
  | some device =>
      have hnot := hasks (Option.some_ne_none device)
      unfold propsUpdated getPropSynced getAllPropsSynced
      simp only []
      split_ifs with htype hinterface
      · exact hscheduled (sameButData_prvGetProp device.player _)
      · exact absurd ⟨htype, hinterface⟩ hnot
      · exact absurd ⟨htype, hinterface⟩ hnot
      · exact hscheduled (sameButData_prvGetProps device.player _)

theorem stoppable_propsUpdated {device : Option DeviceView}
    {task : DlrAsyncTask} (huntouched : Untouched task)
    (hsync : UncancelledSync task (.propsUpdated device)) :
    Stoppable (propsUpdated device task) := by
  by_cases hcancelled : task.cancellable = some true
  · have hasks : device ≠ none → ¬ AsksPosition task := by
      intro hdevice hasks
      obtain ⟨device, rfl⟩ := Option.ne_none_iff_exists'.mp hdevice
      exact hsync hasks hcancelled
    intro haction
    rw [action_propsUpdated hasks] at haction
    exact absurd huntouched.1 haction
  · intro _
    rw [(steady_of_asked (asked_propsUpdated device task)).cancellable]
    exact hcancelled

theorem stoppable_gCancellableCancel {task : DlrAsyncTask} (h : Accounted task)
    (hstoppable : Stoppable task) : Stoppable (gCancellableCancel task) := by
  unfold gCancellableCancel
  split
  case h_1 hlive hhandler =>
    intro haction
    have hasync := h.handler_of_action hlive haction
    rw [hhandler] at hasync
    cases hasync
  case h_2 handler hlive hhandler =>
    intro haction
    cases handler with
    | asyncTaskCancelled =>
        rw [callHandler, dlrAsyncTaskCancelled_eq] at haction
        have hpending : task.action ≠ none := fun hnone => by
          simp [hnone] at haction
        simp [(h.action hpending).1] at haction
    | getIconCancelled =>
        rw [callHandler, prvGetIconCancelled, dlrAsyncTaskCancelled_eq]
          at haction
        have hpending : task.action ≠ none := fun hnone => by
          simp [hnone] at haction
        simp [(h.action hpending).1] at haction
  case h_3 => exact hstoppable

theorem stoppable_dlrTaskCancel {task : DlrAsyncTask} (h : Accounted task)
    (hstoppable : Stoppable task) : Stoppable (dlrTaskCancel task) := by
  have hanswered : Stoppable (task.answer (.error cancelledError)) := by
    obtain ⟨invocation, replies, hanswer⟩ :=
      answer_eq (.error cancelledError) task
    rw [hanswer]
    exact hstoppable
  unfold dlrTaskCancel
  simp only []
  split_ifs
  · exact hanswered
  · exact stoppable_gCancellableCancel (h.answer _) hanswered

theorem stoppable_prvGetIconSessionCb {task : DlrAsyncTask} (status : Nat)
    (bytes : List Nat) (mimeType : String) (h : Stoppable task) :
    Stoppable (prvGetIconSessionCb status bytes mimeType task) := by
  unfold prvGetIconSessionCb
  simp only []
  split_ifs
  · exact h
  · exact h
  · exact h

theorem stoppable_dlrAsyncTaskComplete {task : DlrAsyncTask}
    (h : Stoppable task) : Stoppable (dlrAsyncTaskComplete
      { task with idleSources := task.idleSources - 1 }) := by
  have hcalled : Stoppable
      { task with idleSources := task.idleSources - 1 } := h
  unfold dlrAsyncTaskComplete prvAsyncTaskComplete
  split
  · exact hcalled.told _
  · exact hcalled.told _

theorem stoppable_taskStep {task next : DlrAsyncTask} {event : TaskEvent}
    (haccounted : Accounted task) (h : Stoppable task)
    (hsync : UncancelledSync task event)
    (hstep : taskStep task event = some next) : Stoppable next := by
  cases stepped_of_taskStep hstep with
  | process around hstage => exact stoppable_prvProcessTask around h
  | propsUpdated device hstage =>
      exact stoppable_propsUpdated (haccounted.early (.inr hstage)) hsync
  | reply reply player callback haction =>
      have hreplied :=
        replied_callBack reply player callback { task with action := none }
      intro _
      rw [(steady_of_replied hreplied).cancellable]
      exact h (by simp [haction])
  | iconReply status bytes mimeType hdownload hstatus =>
      exact stoppable_prvGetIconSessionCb status bytes mimeType h
  | runIdle hidle => exact stoppable_dlrAsyncTaskComplete h
  | cancel hstage => exact stoppable_dlrTaskCancel haccounted h
  | proxyLost => exact fun haction => absurd rfl haction
  | delete hstage => exact h

theorem Stoppable.inTime {task : DlrAsyncTask} (h : Stoppable task)
    (event : TaskEvent) : InTime task event := by
  cases event with
  | reply reply player =>
      intro hcancelled
      by_cases haction : task.action = none
      · simp [haction]
      · exact absurd hcancelled (h haction)
  | _ => trivial

theorem inTime_of_uncancelledSync {task : DlrTask} {events : List TaskEvent}
    (hsync : Meets taskStep UncancelledSync (queuedTask task) events) :
    Meets taskStep InTime (queuedTask task) events := by
  refine hsync.of_invariant (fun task => Accounted task ∧ Stoppable task)
    ?_ ?_ ⟨accounted_queuedTask task, fun haction => absurd rfl haction⟩
  · exact fun _ event _ h hsync hstep =>
      ⟨accounted_taskStep h.1 (h.2.inTime event) hstep,
        stoppable_taskStep h.1 h.2 hsync hstep⟩
  · exact fun _ event h _ => h.2.inTime event

end DleynaRenderer.Task
