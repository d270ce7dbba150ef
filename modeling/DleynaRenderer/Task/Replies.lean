import DleynaRenderer.Task.Outcomes

/-!
# One reply

An invocation is forgotten when it is answered, and answered at the latest when
its task is deleted.  What calls the task after that finds it freed, but has
nobody to answer.
-/

namespace DleynaRenderer.Task

open DleynaRenderer.Player

def AnswersOnce (invocation : Nat) (task : DlrAsyncTask) : Prop :=
  task.stage = .deleted → ∃ answer, task.replies = [(invocation, answer)]

def Untold (task next : DlrAsyncTask) : Prop :=
  next.task.invocation = task.task.invocation ∧ next.replies = task.replies ∧
    next.stage = task.stage

theorem Steady.untold {task next : DlrAsyncTask} (h : Steady task next) :
    Untold task next :=
  ⟨h.invocation, h.replies, h.stage⟩

theorem untold_gCancellableCancel (task : DlrAsyncTask) :
    Untold task (gCancellableCancel task) := by
  unfold gCancellableCancel
  split
  · exact ⟨rfl, rfl, rfl⟩
  · exact (steady_callHandler _ { task with cancellable := some true }).untold
  · exact ⟨rfl, rfl, rfl⟩

def Outstanding (invocation : Nat) (task : DlrAsyncTask) : Prop :=
  match task.task.invocation with
  | some waiting => waiting = invocation ∧ task.replies = []
  | none => ∃ answer, task.replies = [(invocation, answer)]

theorem Outstanding.untold {invocation : Nat} {task next : DlrAsyncTask}
    (h : Outstanding invocation task) (hsame : Untold task next) :
    Outstanding invocation next := by
  unfold Outstanding at h ⊢
  rw [hsame.1, hsame.2.1]
  exact h

theorem Outstanding.answer {invocation : Nat} {task : DlrAsyncTask}
    (h : Outstanding invocation task) (answer : Answer) :
    (task.answer answer).task.invocation = none ∧
      ∃ answer', (task.answer answer).replies = [(invocation, answer')] := by
  unfold Outstanding at h
  unfold DlrAsyncTask.answer
  cases hwaiting : task.task.invocation with
  | none =>
      rw [hwaiting] at h
      exact ⟨hwaiting, h⟩
  | some waiting =>
      rw [hwaiting] at h
      obtain ⟨rfl, hreplies⟩ := h
      exact ⟨rfl, answer, by simp [hreplies]⟩

theorem outstanding_of_answered {invocation : Nat} {task : DlrAsyncTask}
    (hnone : task.task.invocation = none)
    (hreplies : ∃ answer, task.replies = [(invocation, answer)]) :
    Outstanding invocation task := by
  unfold Outstanding
  rw [hnone]
  exact hreplies

def Silent (task : DlrAsyncTask) : Prop :=
  task.action = none ∧ task.download = none ∧ task.handler = none ∧
    task.idleSources = 0

structure Answered (invocation : Nat) (task : DlrAsyncTask) : Prop where
  present : task.stage ≠ .deleted → Outstanding invocation task
  deleted : task.stage = .deleted →
    (∃ answer, task.replies = [(invocation, answer)]) ∧
      (Silent task ∨ task.task.invocation = none)
  finished : task.stage = .finished → task.task.invocation = none
  queued : task.stage = .queued → Silent task

theorem Answered.answersOnce {invocation : Nat} {task : DlrAsyncTask}
    (h : Answered invocation task) : AnswersOnce invocation task :=
  fun hdeleted => (h.deleted hdeleted).1

theorem answered_of_inProgress {invocation : Nat} {task : DlrAsyncTask}
    (h : Outstanding invocation task)
    (hstage : task.stage = .running ∨ task.stage = .updatingProps) :
    Answered invocation task := by
  constructor
  · exact fun _ => h
  all_goals
    intro hother
    rw [hother] at hstage
    simp at hstage

theorem Answered.untold {invocation : Nat} {task next : DlrAsyncTask}
    (h : Answered invocation task) (hsame : Untold task next)
    (hsilent : Silent task → Silent next) : Answered invocation next := by
  obtain ⟨hinvocation, hreplies, hstage⟩ := hsame
  refine ⟨fun hpresent => ?_, fun hdeleted => ?_, fun hfinished => ?_,
    fun hqueued => ?_⟩
  · rw [hstage] at hpresent
    exact (h.present hpresent).untold ⟨hinvocation, hreplies, hstage⟩
  · rw [hstage] at hdeleted
    obtain ⟨hanswer, hquiet⟩ := h.deleted hdeleted
    exact ⟨hreplies ▸ hanswer, hquiet.imp hsilent hinvocation.trans⟩
  · rw [hstage] at hfinished
    exact hinvocation.trans (h.finished hfinished)
  · rw [hstage] at hqueued
    exact hsilent (h.queued hqueued)

theorem answered_taskCompleted {invocation : Nat} {task : DlrAsyncTask}
    (h : Outstanding invocation task) (hstage : task.stage ≠ .deleted)
    (answer : Answer) :
    Answered invocation (taskCompleted (task.answer answer)) := by
  obtain ⟨hnone, hreplies⟩ := h.answer answer
  obtain ⟨waiting, replies, heq⟩ := answer_eq answer task
  have hcompleted : taskCompleted (task.answer answer) =
      { task.answer answer with stage := .finished } := by
    rw [taskCompleted, if_neg (by rw [heq]; exact hstage)]
  rw [hcompleted]
  refine ⟨fun _ => ?_, by simp, fun _ => hnone, by simp⟩
  exact outstanding_of_answered hnone hreplies

theorem answered_completeWith {invocation : Nat} {task : DlrAsyncTask}
    (h : Outstanding invocation task) (hstage : task.stage ≠ .deleted)
    (result : Option TaskResult) :
    Answered invocation (taskCompleted (task.completeWith result)) := by
  have hset : Outstanding invocation
      { task with task := { task.task with result := result } } := h
  exact answered_taskCompleted hset hstage _

theorem answered_of_requested {invocation : Nat} {task next : DlrAsyncTask}
    (hstage : task.stage = .running) (h : Outstanding invocation task)
    (hrequested : Requested task next) : Answered invocation next := by
  cases hrequested with
  | asked hasked =>
      have hsame := (steady_of_asked hasked).untold
      exact answered_of_inProgress (h.untold hsame)
        (.inl (hsame.2.2.trans hstage))
  | updating => exact answered_of_inProgress h (.inr rfl)
  | downloading =>
      have hsame := (steady_gCancellableConnect .getIconCancelled task).untold
      exact answered_of_inProgress (h.untold hsame)
        (.inl (hsame.2.2.trans hstage))
  | nothing => exact answered_of_inProgress h (.inl hstage)

theorem answered_prvProcessTask {invocation : Nat} (around : Surroundings)
    {task : DlrAsyncTask} (h : Answered invocation task)
    (hstage : task.stage = .queued) :
    Answered invocation (prvProcessTask around task) := by
  have hpresent : task.stage ≠ .deleted := by simp [hstage]
  have houtstanding := h.present hpresent
  unfold prvProcessTask
  split_ifs
  · unfold prvProcessSyncTask
    split
    · exact answered_completeWith houtstanding hpresent _
    · exact answered_completeWith houtstanding hpresent _
    · exact answered_taskCompleted houtstanding hpresent _
    · exact answered_taskCompleted houtstanding hpresent _
    · exact answered_taskCompleted houtstanding hpresent _
    · exact h
  · have hstarted : Outstanding invocation (started task) := houtstanding
    exact answered_of_requested rfl hstarted
      (requested_prvProcessAsyncTask around task)

theorem silent_gCancellableCancel {task : DlrAsyncTask} (h : Silent task) :
    Silent (gCancellableCancel task) := by
  unfold gCancellableCancel
  split
  · exact h
  · rename_i hhandler
    simp [h.2.2.1] at hhandler
  · exact h

theorem answered_dlrTaskCancel {invocation : Nat} {task : DlrAsyncTask}
    (h : Answered invocation task) (hstage : task.stage ≠ .deleted) :
    Answered invocation (dlrTaskCancel task) := by
  obtain ⟨hnone, hreplies⟩ :=
    (h.present hstage).answer (.error cancelledError)
  obtain ⟨waiting, replies, heq⟩ := answer_eq (.error cancelledError) task
  have hanswered :
      Answered invocation (task.answer (.error cancelledError)) := by
    refine ⟨fun _ => outstanding_of_answered hnone hreplies, ?_,
      fun _ => hnone, ?_⟩
    · rw [heq]
      exact fun hdeleted => absurd hdeleted hstage
    · rw [heq]
      exact h.queued
  unfold dlrTaskCancel
  simp only []
  split_ifs
  · exact hanswered
  · exact hanswered.untold (untold_gCancellableCancel _)
      silent_gCancellableCancel

theorem answered_dlrTaskDelete {invocation : Nat} {task : DlrAsyncTask}
    (h : Answered invocation task)
    (hstage : task.stage = .queued ∨ task.stage = .finished) :
    Answered invocation (dlrTaskDelete task) := by
  have houtstanding := h.present (by rcases hstage with h | h <;> simp [h])
  unfold Outstanding at houtstanding
  have hquiet : Silent task ∨ task.task.invocation = none :=
    hstage.imp h.queued h.finished
  refine ⟨fun hpresent => absurd rfl hpresent, fun _ => ⟨?_, hquiet⟩,
    by simp [dlrTaskDelete], by simp [dlrTaskDelete]⟩
  unfold dlrTaskDelete
  cases hwaiting : task.task.invocation with
  | none =>
      rw [hwaiting] at houtstanding
      exact houtstanding
  | some waiting =>
      rw [hwaiting] at houtstanding
      obtain ⟨rfl, hreplies⟩ := houtstanding
      exact ⟨.error ⟨.died, "Unable to complete command."⟩, by simp [hreplies]⟩

theorem answered_dlrAsyncTaskComplete {invocation : Nat} {task : DlrAsyncTask}
    (h : Answered invocation task) (hidle : 0 < task.idleSources) :
    Answered invocation (dlrAsyncTaskComplete
      { task with idleSources := task.idleSources - 1 }) := by
  have hnoisy : ¬ Silent task := fun hsilent => by
    have := hsilent.2.2.2
    omega
  unfold dlrAsyncTaskComplete prvAsyncTaskComplete
  by_cases hdeleted : task.stage = .deleted
  · have hnone : task.task.invocation = none :=
      (h.deleted hdeleted).2.resolve_left hnoisy
    have hcalled : Answered invocation
        { task with idleSources := task.idleSources - 1 } :=
      h.untold ⟨rfl, rfl, rfl⟩ fun hsilent => absurd hsilent hnoisy
    split
    · simpa [dlrTaskComplete, DlrAsyncTask.answer, hnone, taskCompleted,
        hdeleted] using hcalled
    · simpa [dlrTaskFail, DlrAsyncTask.answer, hnone, taskCompleted, hdeleted]
        using hcalled
  · have hcalled : Outstanding invocation
        { task with idleSources := task.idleSources - 1 } :=
      h.present hdeleted
    split
    · exact answered_taskCompleted hcalled hdeleted _
    · exact answered_taskCompleted hcalled hdeleted _

theorem answered_prvGetIconSessionCb {invocation : Nat} {task : DlrAsyncTask}
    (status : Nat) (bytes : List Nat) (mimeType : String)
    (h : Answered invocation task) (hdownload : task.download ≠ none) :
    Answered invocation (prvGetIconSessionCb status bytes mimeType task) := by
  refine h.untold ?_ fun hsilent => absurd hsilent.2.1 hdownload
  unfold prvGetIconSessionCb
  simp only []
  split_ifs
  · exact ⟨rfl, rfl, rfl⟩
  · exact ⟨rfl, rfl, rfl⟩
  · exact ⟨rfl, rfl, rfl⟩

theorem answered_taskStep {invocation : Nat} {task next : DlrAsyncTask}
    {event : TaskEvent} (h : Answered invocation task)
    (hstep : taskStep task event = some next) : Answered invocation next := by
  cases stepped_of_taskStep hstep with
  | process around hstage => exact answered_prvProcessTask around h hstage
  | propsUpdated device hstage =>
      have hresumed : Outstanding invocation { task with stage := .running } :=
        h.present (by simp [hstage])
      exact answered_of_requested rfl hresumed
        (.asked (asked_propsUpdated device task))
  | reply reply player callback haction =>
      have hreplied :=
        replied_callBack reply player callback { task with action := none }
      apply h.untold (steady_of_replied hreplied).untold
      intro hsilent
      simp [hsilent.1] at haction
  | iconReply status bytes mimeType hdownload hstatus =>
      exact answered_prvGetIconSessionCb status bytes mimeType h
        (by simp [hdownload])
  | runIdle hidle => exact answered_dlrAsyncTaskComplete h hidle
  | cancel hstage => exact answered_dlrTaskCancel h hstage
  | proxyLost =>
      exact h.untold ⟨rfl, rfl, rfl⟩ fun hsilent => ⟨rfl, hsilent.2⟩
  | delete hstage => exact answered_dlrTaskDelete h hstage

theorem answered_queuedTask {task : DlrTask} {invocation : Nat}
    (h : task.invocation = some invocation) :
    Answered invocation (queuedTask task) where
  present _ := by simp [Outstanding, queuedTask, h]
  deleted h := by cases h
  finished h := by cases h
  queued _ := ⟨rfl, rfl, rfl, rfl⟩

end DleynaRenderer.Task
