import DleynaRenderer.Foundation.EventSystem
import DleynaRenderer.Task.Attended
import DleynaRenderer.Task.Replies

/-!
# Calls are settled

A call never takes more than six steps of its own, whatever else happens to it,
and as long as its proxies are there it can take the next one until its client
has been answered.
-/

namespace DleynaRenderer.Task

open DleynaRenderer.Player EventSystem

def isWork : TaskEvent → Bool
  | .process _ => true
  | .propsUpdated _ => true
  | .reply .. => true
  | .iconReply .. => true
  | .runIdle => true
  | .cancel => false
  | .proxyLost => false
  | .delete => false

def stageWork : Stage → Nat
  | .queued => 6
  | .updatingProps => 5
  | .running => 0
  | .finished => 0
  | .deleted => 0

def ActionCallback.work : ActionCallback → Nat
  | .openUri => 3
  | .getAllBytePositionInfo => 3
  | .completeSeekGetPosition => 3
  | .simpleCall => 2
  | .getPositionInfo => 2
  | .getBytePositionInfo => 2
  | .getAllPositionInfo => 2

def actionWork : Option ActionCallback → Nat
  | none => 0
  | some callback => callback.work

/-- A download that is cancelled schedules no completion. -/
def downloadWork : Option Bool → Nat
  | none => 0
  | some false => 2
  | some true => 1

def handlerWork (cancellable : Option Bool) (handler : Option CancelHandler) :
    Nat :=
  if cancellable = some false ∧ handler ≠ none then 1 else 0

def work (task : DlrAsyncTask) : Nat :=
  stageWork task.stage + actionWork task.action + downloadWork task.download +
    handlerWork task.cancellable task.handler + task.idleSources

theorem handlerWork_le (cancellable : Option Bool)
    (handler : Option CancelHandler) : handlerWork cancellable handler ≤ 1 := by
  unfold handlerWork
  split <;> omega

@[simp] theorem handlerWork_none (cancellable : Option Bool) :
    handlerWork cancellable none = 0 := by
  simp [handlerWork]

theorem ActionCallback.work_bounds (callback : ActionCallback) :
    2 ≤ callback.work ∧ callback.work ≤ 3 := by
  cases callback <;> simp [ActionCallback.work]

theorem work_of_silent {task : DlrAsyncTask} (h : Silent task) :
    work task = stageWork task.stage := by
  obtain ⟨haction, hdownload, hhandler, hidle⟩ := h
  simp [work, haction, hdownload, hhandler, hidle, actionWork, downloadWork]

structure Workable (task : DlrAsyncTask) : Prop where
  kind : task.task.synchronous = task.task.type.isSynchronous
  early : task.stage = .queued ∨ task.stage = .updatingProps → Silent task
  proxy : task.action ≠ none → task.proxy = true

theorem workable_queuedTask (interfaceName propName : String) (params : Variant)
    (type : DlrTaskType) (invocation : Nat) :
    Workable (queuedTask
      (dlrTaskNew interfaceName propName params type invocation)) where
  kind := by cases type <;> rfl
  early _ := ⟨rfl, rfl, rfl, rfl⟩
  proxy h := absurd rfl h

structure Worked (task next : DlrAsyncTask) (used : Nat) : Prop where
  workable : Workable next
  work : work next + used ≤ work task

theorem completed_eq (answer : Answer) (task : DlrAsyncTask) :
    ∃ invocation replies stage, (stage = .finished ∨ stage = .deleted) ∧
      taskCompleted (task.answer answer) = { task with
        task := { task.task with invocation := invocation }
        replies := replies
        stage := stage } := by
  have hover := stage_taskCompleted (task.answer answer)
  obtain ⟨stage, hcompleted⟩ := taskCompleted_eq (task.answer answer)
  obtain ⟨invocation, replies, hanswer⟩ := answer_eq answer task
  rw [hcompleted, hanswer] at hover
  rw [hcompleted, hanswer]
  exact ⟨invocation, replies, stage, hover, rfl⟩

section

variable {task : DlrAsyncTask} (h : Workable task)

include h

theorem workable_of_late {next : DlrAsyncTask}
    (hkind : next.task.synchronous = task.task.synchronous ∧
      next.task.type = task.task.type)
    (hstage : next.stage ≠ .queued ∧ next.stage ≠ .updatingProps)
    (hproxy : next.action ≠ none → next.proxy = true) : Workable next where
  kind := by rw [hkind.1, hkind.2, h.kind]
  early hearly := absurd hearly (not_or.mpr hstage)
  proxy := hproxy

theorem worked_of_asked {next : DlrAsyncTask} (hsilent : Silent task)
    (hstage : task.stage = .running) (hasked : Asked task next) :
    Workable next ∧ work next ≤ 4 := by
  obtain ⟨haction, hdownload, hhandler, hidle⟩ := hsilent
  have hlate : task.stage ≠ .queued ∧ task.stage ≠ .updatingProps := by
    simp [hstage]
  cases hasked with
  | scheduled hdata =>
      obtain ⟨error, result, relCnt, rfl⟩ := hdata
      refine ⟨workable_of_late h ⟨rfl, rfl⟩ hlate h.proxy, ?_⟩
      simp [work, scheduleComplete, hstage, haction, hdownload, hhandler, hidle,
        stageWork, actionWork, downloadWork]
  | begun hdata proxy callback =>
      obtain ⟨error, result, relCnt, rfl⟩ := hdata
      have hbound := callback.work_bounds
      unfold connectAndBegin gCancellableConnect beginAction
      by_cases hcancelled : task.cancellable = some true
      · simp only [if_pos hcancelled, callHandler, dlrAsyncTaskCancelled_eq]
        refine ⟨workable_of_late h ⟨rfl, rfl⟩ hlate fun hbegun => ?_, ?_⟩
        · simpa using hbegun
        · cases proxy with
          | false =>
              simp [work, hstage, hdownload, hhandler, hidle, stageWork,
                actionWork, downloadWork]
          | true =>
              simp [work, hstage, hdownload, hhandler, hidle, stageWork,
                actionWork, downloadWork]
              omega
      · simp only [if_neg hcancelled]
        refine ⟨workable_of_late h ⟨rfl, rfl⟩ hlate fun hbegun => ?_, ?_⟩
        · simpa using hbegun
        · have hhandled := handlerWork_le task.cancellable
            (some .asyncTaskCancelled)
          cases proxy with
          | false =>
              simp [work, hstage, hdownload, hidle, stageWork, actionWork,
                downloadWork]
              omega
          | true =>
              simp [work, hstage, hdownload, hidle, stageWork, actionWork,
                downloadWork]
              omega

theorem worked_of_over {next : DlrAsyncTask}
    (hover : next.stage = .finished ∨ next.stage = .deleted)
    (hkind : next.task.synchronous = task.task.synchronous ∧
      next.task.type = task.task.type)
    (hproxy : next.action ≠ none → next.proxy = true) {used : Nat}
    (hrest : actionWork next.action + downloadWork next.download +
      handlerWork next.cancellable next.handler + next.idleSources + used ≤
        work task) : Worked task next used := by
  constructor
  · apply workable_of_late h hkind _ hproxy
    rcases hover with hstage | hstage <;> simp [hstage]
  · have hstage : stageWork next.stage = 0 := by
      rcases hover with hstage | hstage <;> rw [hstage] <;> rfl
    unfold work at hrest ⊢
    omega

theorem worked_completed (hidle : 0 < task.idleSources) (answer : Answer) :
    Worked task (taskCompleted
      ({ task with idleSources := task.idleSources - 1 }.answer answer)) 1 := by
  obtain ⟨invocation, replies, stage, hover, hcompleted⟩ :=
    completed_eq answer { task with idleSources := task.idleSources - 1 }
  rw [hcompleted]
  apply worked_of_over h
  · exact hover
  · exact ⟨rfl, rfl⟩
  · exact h.proxy
  · simp only [work]
    omega

theorem worked_prvProcessSyncTask (around : Surroundings)
    (hstage : task.stage = .queued)
    (hsynchronous : task.task.synchronous = true) :
    Worked task (prvProcessSyncTask around task) 1 := by
  have hcompleted (result : Option TaskResult) (answer : Answer) :
      Worked task (taskCompleted ({ task with
        task := { task.task with result := result } }.answer answer)) 1 := by
    obtain ⟨invocation, replies, stage, hover, hcompleted⟩ :=
      completed_eq answer
        { task with task := { task.task with result := result } }
    rw [hcompleted]
    have hqueued : stageWork task.stage = 6 := by
      rw [hstage]
      rfl
    apply worked_of_over h
    · exact hover
    · exact ⟨rfl, rfl⟩
    · exact h.proxy
    · simp only [work]
      omega
  have htype : task.task.type.isSynchronous = true := h.kind ▸ hsynchronous
  unfold prvProcessSyncTask DlrAsyncTask.completeWith dlrTaskComplete dlrTaskFail
  cases hcase : task.task.type with
  | getVersion => exact hcompleted _ _
  | getServers => exact hcompleted _ _
  | rescan => exact hcompleted task.task.result _
  | raise => exact hcompleted task.task.result _
  | quit => exact hcompleted task.task.result _
  | _ =>
      rw [hcase] at htype
      contradiction

theorem worked_of_requested {next : DlrAsyncTask} (hsilent : Silent task)
    (hstage : task.stage = .running) (hrequested : Requested task next) :
    Workable next ∧ work next ≤ 5 := by
  cases hrequested with
  | asked hasked =>
      obtain ⟨hworkable, hwork⟩ := worked_of_asked h hsilent hstage hasked
      exact ⟨hworkable, by omega⟩
  | updating =>
      have hquiet : Silent { task with stage := .updatingProps } := hsilent
      exact ⟨⟨h.kind, fun _ => hquiet, h.proxy⟩, (work_of_silent hquiet).le⟩
  | downloading =>
      obtain ⟨haction, hdownload, hhandler, hidle⟩ := hsilent
      unfold gCancellableConnect
      split_ifs with hcancelled
      · rw [callHandler, prvGetIconCancelled, dlrAsyncTaskCancelled_eq]
        constructor
        · apply workable_of_late h
          · exact ⟨rfl, rfl⟩
          · simp [hstage]
          · simp [haction]
        · simp [work, hstage, haction, hhandler, hidle, stageWork, actionWork,
            downloadWork]
      · constructor
        · apply workable_of_late h
          · exact ⟨rfl, rfl⟩
          · simp [hstage]
          · simp [haction]
        · have hhandled := handlerWork_le task.cancellable
            (some .getIconCancelled)
          simp [work, hstage, haction, hidle, stageWork, actionWork,
            downloadWork]
          omega
  | nothing =>
      refine ⟨h, ?_⟩
      rw [work_of_silent hsilent, hstage]
      decide

theorem worked_prvProcessTask (around : Surroundings)
    (hstage : task.stage = .queued) :
    Worked task (prvProcessTask around task) 1 := by
  have hsilent := h.early (.inl hstage)
  have hbefore : work task = 6 := by
    rw [work_of_silent hsilent, hstage]
    rfl
  unfold prvProcessTask
  cases hsynchronous : task.task.synchronous with
  | true => exact worked_prvProcessSyncTask h around hstage hsynchronous
  | false =>
      have hquiet : Silent (started task) := hsilent
      have hstarted : Workable (started task) :=
        ⟨h.kind, fun _ => hquiet, h.proxy⟩
      obtain ⟨hworkable, hwork⟩ := worked_of_requested hstarted hquiet rfl
        (requested_prvProcessAsyncTask around task)
      exact ⟨hworkable, by
        rw [hbefore, if_neg (by simp)]
        omega⟩

theorem worked_propsUpdated (device : Option DeviceView)
    (hstage : task.stage = .updatingProps) :
    Worked task (propsUpdated device task) 1 := by
  have hsilent := h.early (.inr hstage)
  have hbefore : work task = 5 := by
    rw [work_of_silent hsilent, hstage]
    rfl
  have hquiet : Silent { task with stage := .running } := hsilent
  have hrunning : Workable { task with stage := .running } :=
    ⟨h.kind, fun _ => hquiet, h.proxy⟩
  obtain ⟨hworkable, hwork⟩ := worked_of_asked hrunning hquiet rfl
    (asked_propsUpdated device task)
  exact ⟨hworkable, by omega⟩

end

/-! ## Replies -/

theorem callBack_chains {reply : ActionReply} {callback : ActionCallback}
    {task : DlrAsyncTask}
    (hchains : callback.finishes task.task.type reply = false)
    (player : PlayerState) :
    callback.work = 3 ∧ ∃ data following, SameButData task data ∧
      ActionCallback.work following = 2 ∧
      callBack reply player callback task = beginAction following data := by
  cases callback with
  | openUri =>
      simp only [ActionCallback.finishes, Bool.or_eq_false_iff,
        decide_eq_false_iff_not, not_not] at hchains
      refine ⟨rfl, task, .simpleCall, .refl task, rfl, ?_⟩
      obtain ⟨hfailure, htype⟩ := hchains
      have hnone : reply.failure = none := by simpa using hfailure
      simp [callBack, prvOpenUriCb, hnone, htype]
  | getAllBytePositionInfo =>
      exact ⟨rfl, _, .getAllPositionInfo, ⟨_, _, _, rfl⟩, rfl, rfl⟩
  | completeSeekGetPosition =>
      refine ⟨rfl, task, .simpleCall, .refl task, rfl, ?_⟩
      have hsucceeds : reply.succeeds = true := by
        simpa [ActionCallback.finishes] using hchains
      simp [callBack, prvCompleteSeekGetPosition, hsucceeds]
  | _ => contradiction

theorem work_callBack (reply : ActionReply) (player : PlayerState)
    (callback : ActionCallback) {task : DlrAsyncTask}
    (hnone : task.action = none) :
    work (callBack reply player callback task) + 1 ≤
      work task + callback.work := by
  have hbound := callback.work_bounds
  cases hfinishes : callback.finishes task.task.type reply with
  | true =>
      have hreplied := replied_callBack reply player callback task
      rw [hfinishes] at hreplied
      revert hreplied
      generalize callBack reply player callback task = next
      rintro (⟨⟨error, result, relCnt, rfl⟩⟩ | _)
      simp only [work, finish, gCancellableDisconnect, scheduleComplete, hnone,
        handlerWork_none]
      omega
  | false =>
      obtain ⟨hwork, data, following, hdata, hfollowing, heq⟩ :=
        callBack_chains hfinishes player
      obtain ⟨error, result, relCnt, rfl⟩ := hdata
      rw [heq]
      have haction : actionWork
          (if task.proxy then some following else none) ≤ 2 := by
        split
        · exact hfollowing.le
        · exact Nat.zero_le 2
      simp only [work, beginAction, hnone, actionWork] at haction ⊢
      omega

section

variable {task : DlrAsyncTask} (h : Workable task)

include h

theorem Workable.late (hbusy : ¬ Silent task) :
    task.stage ≠ .queued ∧ task.stage ≠ .updatingProps :=
  ⟨fun hstage => hbusy (h.early (.inl hstage)),
    fun hstage => hbusy (h.early (.inr hstage))⟩

theorem workable_of_replied {next : DlrAsyncTask} {finishes : Bool}
    (haction : task.action ≠ none)
    (hreplied : Replied { task with action := none } finishes next) :
    Workable next := by
  have hlate := h.late fun hsilent => haction hsilent.1
  cases hreplied with
  | finished hdata =>
      obtain ⟨error, result, relCnt, rfl⟩ := hdata
      apply workable_of_late h
      · exact ⟨rfl, rfl⟩
      · exact hlate
      · exact fun hbegun => absurd rfl hbegun
  | chained hdata following =>
      obtain ⟨error, result, relCnt, rfl⟩ := hdata
      apply workable_of_late h
      · exact ⟨rfl, rfl⟩
      · exact hlate
      · exact fun _ => h.proxy haction

theorem worked_reply (reply : ActionReply) (player : PlayerState)
    {callback : ActionCallback} (haction : task.action = some callback) :
    Worked task (callBack reply player callback { task with action := none })
      1 := by
  constructor
  · exact workable_of_replied h (by simp [haction]) (replied_callBack ..)
  · have hnone : { task with action := none }.action = none := rfl
    have hwork := work_callBack reply player callback hnone
    have hbefore : work { task with action := none } + callback.work =
        work task := by
      simp only [work, haction, actionWork]
      omega
    omega

theorem worked_prvGetIconSessionCb {status : Nat} {cancelled : Bool}
    (hdownload : task.download = some cancelled)
    (hstatus : cancelled → status = soupStatusCancelled) (bytes : List Nat)
    (mimeType : String) :
    Worked task (prvGetIconSessionCb status bytes mimeType task) 1 := by
  have hlate := h.late fun hsilent => by
    have hnone := hsilent.2.1
    rw [hdownload] at hnone
    contradiction
  have hfinish (data : DlrAsyncTask) (hcancelled : cancelled = false)
      (hdata : SameButData task data) :
      Worked task (finish { data with download := none }) 1 := by
    obtain ⟨error, result, relCnt, rfl⟩ := hdata
    constructor
    · apply workable_of_late h
      · exact ⟨rfl, rfl⟩
      · exact hlate
      · exact h.proxy
    · simp only [work, finish, gCancellableDisconnect, scheduleComplete,
        handlerWork_none, hdownload, hcancelled, downloadWork]
      omega
  unfold prvGetIconSessionCb
  simp only []
  split_ifs with hsilenced hsuccess
  · constructor
    · apply workable_of_late h
      · exact ⟨rfl, rfl⟩
      · exact hlate
      · exact h.proxy
    · cases cancelled with
      | false =>
          simp only [work, hdownload, downloadWork]
          omega
      | true =>
          simp only [work, hdownload, downloadWork]
          omega
  · have hlive : cancelled = false := by
      cases cancelled with
      | false => rfl
      | true => exact absurd (hstatus rfl) hsilenced
    exact hfinish _ hlive ⟨_, _, _, rfl⟩
  · have hlive : cancelled = false := by
      cases cancelled with
      | false => rfl
      | true => exact absurd (hstatus rfl) hsilenced
    exact hfinish _ hlive ⟨_, _, _, rfl⟩

theorem worked_answer (answer : Answer) : Worked task (task.answer answer) 0 := by
  obtain ⟨invocation, replies, heq⟩ := answer_eq answer task
  rw [heq]
  exact ⟨⟨h.kind, h.early, h.proxy⟩, Nat.le_refl _⟩

theorem worked_gCancellableCancel : Worked task (gCancellableCancel task) 0 := by
  unfold gCancellableCancel
  split
  case h_1 hlive hnone =>
    refine ⟨⟨h.kind, h.early, h.proxy⟩, ?_⟩
    simp only [work, hnone, handlerWork_none]
    omega
  case h_2 handler hlive hhandler =>
    have hlate := h.late fun hsilent => by
      have hnone := hsilent.2.2.1
      rw [hhandler] at hnone
      contradiction
    have harmed : handlerWork task.cancellable task.handler = 1 := by
      simp [handlerWork, hlive, hhandler]
    have hgone : (if task.proxy then none else task.action) = none := by
      split
      · rfl
      · rename_i hproxy
        by_contra haction
        exact hproxy (h.proxy haction)
    cases handler with
    | asyncTaskCancelled =>
        rw [callHandler, dlrAsyncTaskCancelled_eq]
        constructor
        · apply workable_of_late h
          · exact ⟨rfl, rfl⟩
          · exact hlate
          · exact fun haction => absurd hgone haction
        · have hfired : handlerWork (some true) task.handler = 0 := by
            simp [handlerWork]
          simp only [work, hgone, harmed, hfired, actionWork]
          omega
    | getIconCancelled =>
        have hmarked : downloadWork (task.download.map fun _ => true) ≤
            downloadWork task.download := by
          rcases task.download with _ | _ | _ <;> decide
        rw [callHandler, prvGetIconCancelled, dlrAsyncTaskCancelled_eq]
        constructor
        · apply workable_of_late h
          · exact ⟨rfl, rfl⟩
          · exact hlate
          · exact fun haction => absurd hgone haction
        · have hfired : handlerWork (some true) task.handler = 0 := by
            simp [handlerWork]
          simp only [work, hgone, harmed, hfired, actionWork]
          omega
  case h_3 => exact ⟨h, Nat.le_refl _⟩

theorem worked_dlrTaskCancel : Worked task (dlrTaskCancel task) 0 := by
  obtain ⟨hworkable, hwork⟩ := worked_answer h (.error cancelledError)
  unfold dlrTaskCancel dlrAsyncTaskCancel
  simp only []
  split_ifs
  · exact ⟨hworkable, hwork⟩
  · obtain ⟨hlater, hless⟩ := worked_gCancellableCancel hworkable
    exact ⟨hlater, by omega⟩

theorem worked_loseProxy : Worked task (loseProxy task) 0 := by
  constructor
  · refine ⟨h.kind, fun hearly => ?_, fun hbegun => absurd rfl hbegun⟩
    exact ⟨rfl, (h.early hearly).2⟩
  · simp only [work, loseProxy, actionWork]
    omega

theorem worked_dlrTaskDelete : Worked task (dlrTaskDelete task) 0 := by
  apply worked_of_over h
  · exact .inr rfl
  · exact ⟨rfl, rfl⟩
  · exact h.proxy
  · simp only [work, dlrTaskDelete]
    omega

/-- A step of the call uses up what no event gives back. -/
theorem worked_taskStep {next : DlrAsyncTask} {event : TaskEvent}
    (hstep : taskStep task event = some next) :
    Worked task next (if isWork event then 1 else 0) := by
  cases stepped_of_taskStep hstep with
  | process around hstage => exact worked_prvProcessTask h around hstage
  | propsUpdated device hstage => exact worked_propsUpdated h device hstage
  | reply reply player callback haction =>
      exact worked_reply h reply player haction
  | iconReply status bytes mimeType hdownload hstatus =>
      exact worked_prvGetIconSessionCb h hdownload hstatus bytes mimeType
  | runIdle hidle =>
      unfold dlrAsyncTaskComplete prvAsyncTaskComplete
      split
      · exact worked_completed h hidle _
      · exact worked_completed h hidle _
  | cancel hstage => exact worked_dlrTaskCancel h
  | proxyLost => exact worked_loseProxy h
  | delete hstage => exact worked_dlrTaskDelete h

end

/-! ## Progress -/

def IsSettled (invocation : Nat) (task : DlrAsyncTask) : Prop :=
  (task.stage = .finished ∨ task.stage = .deleted) ∧
    ∃ answer, task.replies = [(invocation, answer)]

def CanWork (task : DlrAsyncTask) : Prop :=
  ∃ event next, isWork event = true ∧ KeepsAttended task event ∧
    taskStep task event = some next

theorem isSettled_of_over {invocation : Nat} {task : DlrAsyncTask}
    (h : Answered invocation task)
    (hover : task.stage = .finished ∨ task.stage = .deleted) :
    IsSettled invocation task := by
  refine ⟨hover, ?_⟩
  rcases hover with hfinished | hdeleted
  · have houtstanding := h.present (by simp [hfinished])
    unfold Outstanding at houtstanding
    rwa [h.finished hfinished] at houtstanding
  · exact (h.deleted hdeleted).1

theorem canWork_of_attended {task : DlrAsyncTask} (h : Attended task) :
    CanWork task := by
  cases h with
  | scheduled hidle => exact ⟨.runIdle, _, rfl, trivial, if_pos hidle⟩
  | acting haction hdownload hconnected =>
      obtain ⟨callback, hcallback⟩ := Option.ne_none_iff_exists'.mp haction
      have hreply : (taskStep task (.reply ⟨none, none⟩ playerNew)).isSome := by
        simp [taskStep, hcallback]
      obtain ⟨next, hnext⟩ := Option.isSome_iff_exists.mp hreply
      exact ⟨.reply ⟨none, none⟩ playerNew, next, rfl, trivial, hnext⟩
  | downloading hdownload hconnected =>
      have hreply : (taskStep task (.iconReply 200 [] "")).isSome := by
        simp [taskStep, hdownload]
      obtain ⟨next, hnext⟩ := Option.isSome_iff_exists.mp hreply
      refine ⟨.iconReply 200 [] "", next, rfl, ?_, hnext⟩
      rw [KeepsAttended, hdownload]
      rfl

/-- A call that is not over has a step to take. -/
theorem settled_or_canWork {invocation : Nat} {task : DlrAsyncTask}
    (htended : Tended task) (hanswered : Answered invocation task) :
    IsSettled invocation task ∨ CanWork task := by
  cases hstage : task.stage with
  | queued =>
      let around : Surroundings := ⟨none, "", [], .ok "", true, .ok none⟩
      refine .inr ⟨.process around, _, rfl, ?_, if_pos hstage⟩
      simp [KeepsAttended, processDemand, around]
  | updatingProps =>
      refine .inr ⟨.propsUpdated none, _, rfl, ?_, if_pos hstage⟩
      simp [KeepsAttended, updatedDemand]
  | running => exact .inr (canWork_of_attended (htended.running hstage))
  | finished => exact .inl (isSettled_of_over hanswered (.inl hstage))
  | deleted => exact .inl (isSettled_of_over hanswered (.inr hstage))

/--
A call takes six steps at most, and has one to take until its client has been
answered, unless its proxies are lost.
-/
theorem calls_settle (interfaceName propName : String) (params : Variant)
    (type : DlrTaskType) (invocation : Nat) (events : List TaskEvent)
    (last : DlrAsyncTask)
    (hrun : exec taskStep (queuedTask
      (dlrTaskNew interfaceName propName params type invocation)) events =
        some last) :
    events.countP isWork + work last ≤ 6 ∧
      (Meets taskStep KeepsAttended (queuedTask
          (dlrTaskNew interfaceName propName params type invocation)) events →
        IsSettled invocation last ∨ CanWork last) := by
  constructor
  · exact exec_potential Workable isWork work
      (fun _ _ _ h hstep => (worked_taskStep h hstep).workable)
      (fun _ _ _ h hstep => (worked_taskStep h hstep).work)
      (workable_queuedTask ..) hrun
  · intro hkeeps
    have htended : Tended last := exec_guarded_invariant Tended
      (fun _ _ _ h hkept hstep => tended_taskStep h hkept hstep)
      (tended_queuedTask ..) hrun hkeeps
    have hanswered : Answered invocation last := exec_invariant
      (Answered invocation) (fun _ _ _ h hstep => answered_taskStep h hstep)
      (answered_queuedTask (dlrTaskNew_invocation ..)) hrun
    exact settled_or_canWork htended hanswered

instance (task : DlrAsyncTask) :
    (event : TaskEvent) → Decidable (KeepsAttended task event)
  | .process around =>
      inferInstanceAs (Decidable (processDemand around.device task.task ≠ _))
  | .propsUpdated _ => inferInstanceAs (Decidable (_ = _ → _ ≠ _))
  | .iconReply .. => inferInstanceAs (Decidable (_ = _))
  | .proxyLost => inferInstanceAs (Decidable (¬ AwaitsAction task))
  | .reply .. => isTrue trivial
  | .runIdle => isTrue trivial
  | .cancel => isTrue trivial
  | .delete => isTrue trivial

def bytePlayer : PlayerState :=
  { playerNew with synced := true, canGetBytePosition := true }

def cancelledGetAllEvents : List TaskEvent :=
  [.process (surroundings (playerDevice playerNew)), .cancel,
    .propsUpdated (some (playerDevice bytePlayer)),
    .reply ⟨none, some "3"⟩ bytePlayer,
    .reply ⟨none, some "0:00:10"⟩ bytePlayer, .runIdle, .runIdle]

/-- Cancelled while its properties are synchronised, a call takes all six. -/
theorem calls_settle_cancelled :
    cancelledGetAllEvents.countP isWork = 6 ∧
      ∃ last, exec taskStep (queuedTask
          (dlrTaskNew playerInterface "" (.boolean false) .getAllProps 7))
          cancelledGetAllEvents = some last ∧
        6 + work last ≤ 6 ∧ (IsSettled 7 last ∨ CanWork last) := by
  refine ⟨rfl, ?_⟩
  have hexec : (exec taskStep (queuedTask
      (dlrTaskNew playerInterface "" (.boolean false) .getAllProps 7))
      cancelledGetAllEvents).isSome := by decide +kernel
  obtain ⟨last, hlast⟩ := Option.isSome_iff_exists.mp hexec
  have hsettles := calls_settle playerInterface "" (.boolean false)
    .getAllProps 7 cancelledGetAllEvents last hlast
  exact ⟨last, hlast, hsettles.1, hsettles.2 (by decide +kernel)⟩

end DleynaRenderer.Task
