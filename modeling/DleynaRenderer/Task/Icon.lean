import DleynaRenderer.Foundation.EventSystem
import DleynaRenderer.Task.Attended
import DleynaRenderer.Task.Replies

/-!
# The icon of a device

A device keeps the icon that was downloaded last, together with the MIME type
that its description named last, and asks for none while it has one.  The task
processor has a queue for each client of a device and carries the requests of
one client out one at a time, those of several clients at once; a request that
is cancelled is over at once, and its download is called back later.
-/

namespace DleynaRenderer.Task

open EventSystem

/-- `device->icon`: there is one when its size is not zero. -/
structure DeviceIcon where
  bytes : List Nat
  mimeType : String
  deriving DecidableEq, Repr

/-- What `gupnp_device_info_get_icon_url` finds in the description. -/
structure IconInfo where
  url : String
  mimeType : String
  valid : Bool
  deriving DecidableEq, Repr

structure IconRequests where
  icon : DeviceIcon
  requests : List (String × DlrAsyncTask)

def DeviceIcon.cached (icon : DeviceIcon) : Option (List Nat × String) :=
  if icon.bytes = [] then none else some (icon.bytes, icon.mimeType)

def showIcon (icon : DeviceIcon) (info : Option IconInfo)
    (around : Surroundings) : Surroundings :=
  { around with device := around.device.map fun device =>
      { device with
        icon := icon.cached
        iconUrl := info.map (·.url)
        validIconUrl := info.any (·.valid) } }

/-- The description is asked when there is no icon, and tells the MIME type. -/
def askDescription (around : Surroundings) (info : Option IconInfo)
    (icon : DeviceIcon) : DeviceIcon :=
  if around.device.isSome ∧ icon.bytes = [] then
    match info with
    | some found => { icon with mimeType := found.mimeType }
    | none => icon
  else icon

/-- `SOUP_STATUS_IS_SUCCESSFUL` -/
def soupStatusIsSuccessful (status : Nat) : Bool := 200 ≤ status && status < 300

def keepIcon (status : Nat) (bytes : List Nat) (icon : DeviceIcon) :
    DeviceIcon :=
  if soupStatusIsSuccessful status then { icon with bytes := bytes } else icon

inductive IconEvent where
  | request (client : String) (invocation : Nat)
  | process (i : Nat) (around : Surroundings) (info : Option IconInfo)
  | response (i : Nat) (status : Nat) (bytes : List Nat)
  | other (i : Nat) (event : TaskEvent)

def TaskEvent.isOther : TaskEvent → Bool
  | .process _ => false
  | .iconReply .. => false
  | _ => true

def IconRequests.stepAt (s : IconRequests) (i : Nat) (icon : DeviceIcon)
    (event : TaskEvent) : Option IconRequests :=
  (s.requests[i]?).bind fun request =>
    (taskStep request.2 event).map fun next =>
      ⟨icon, s.requests.set i (request.1, next)⟩

/-- The client has no request that is carried out already. -/
def queueIdle (s : IconRequests) (i : Nat) : Prop :=
  ∀ request ∈ s.requests[i]?, ∀ other ∈ s.requests,
    other.1 = request.1 → other.2.stage ≠ .running

instance (s : IconRequests) (i : Nat) : Decidable (queueIdle s i) :=
  inferInstanceAs (Decidable (∀ request ∈ _, _))

def iconStep (s : IconRequests) : IconEvent → Option IconRequests
  | .request client invocation =>
      some { s with requests := s.requests ++
        [(client, queuedTask (dlrTaskGetIconNew invocation))] }
  | .process i around info =>
      if queueIdle s i then
        s.stepAt i (askDescription around info s.icon)
          (.process (showIcon s.icon info around))
      else none
  | .response i status bytes =>
      s.stepAt i (keepIcon status bytes s.icon)
        (.iconReply status bytes s.icon.mimeType)
  | .other i event => if event.isOther then s.stepAt i s.icon event else none

def iconNew : IconRequests := ⟨⟨[], ""⟩, []⟩

def Answer.icon : Answer → Option DeviceIcon
  | .values (.icon bytes mimeType) => some ⟨bytes, mimeType⟩
  | .formatted _ (.icon bytes mimeType) => some ⟨bytes, mimeType⟩
  | _ => none

def DlrAsyncTask.sentIcons (task : DlrAsyncTask) : List DeviceIcon :=
  task.replies.filterMap fun reply => reply.2.icon

def Promises (task : DlrAsyncTask) (icon : DeviceIcon) : Prop :=
  task.task.invocation ≠ none ∧
    task.task.result = some (.icon icon.bytes icon.mimeType)

def Gives (task : DlrAsyncTask) (icon : DeviceIcon) : Prop :=
  icon ∈ task.sentIcons ∨ Promises task icon

structure AsksForIcon (task : DlrAsyncTask) : Prop where
  type : task.task.type = .getIcon
  synchronous : task.task.synchronous = false
  action : task.action = none
  stage : task.stage ≠ .updatingProps
  queued : task.stage = .queued → task.task.result = none ∧
    task.download = none ∧ task.handler = none ∧ task.idleSources = 0
  loading : task.download = some false → task.stage = .running ∧
    task.idleSources = 0 ∧ task.cancellable = some false ∧
    task.handler = some .getIconCancelled
  promises : ∀ icon, Promises task icon → task.stage = .running

theorem asksForIcon_queuedTask (invocation : Nat) :
    AsksForIcon (queuedTask (dlrTaskGetIconNew invocation)) where
  type := rfl
  synchronous := rfl
  action := rfl
  stage h := by contradiction
  queued _ := ⟨rfl, rfl, rfl, rfl⟩
  loading h := by contradiction
  promises _ h := by cases h.2

theorem not_gives_queuedTask (invocation : Nat) (icon : DeviceIcon) :
    ¬Gives (queuedTask (dlrTaskGetIconNew invocation)) icon := by
  rintro (hsent | hpromise)
  · simp [DlrAsyncTask.sentIcons, queuedTask] at hsent
  · cases hpromise.2

section

variable {icon : DeviceIcon} {task : DlrAsyncTask}

inductive IconAsked (icon : DeviceIcon) (around : Surroundings)
    (info : Option IconInfo) (task : DlrAsyncTask) : DlrAsyncTask → Prop where
  | failed (error : GError) : IconAsked icon around info task
      (scheduleComplete { started task with error := some error })
  | cached (hcached : icon.bytes ≠ []) : IconAsked icon around info task
      (scheduleComplete
        (prvBuildIconResult icon.bytes icon.mimeType (started task)))
  | loading (found : IconInfo) (hempty : icon.bytes = [])
      (hdevice : around.device.isSome) (hinfo : info = some found) :
      IconAsked icon around info task
        { started task with
          handler := some .getIconCancelled
          download := some false }

theorem iconAsked_prvProcessTask (h : AsksForIcon task) (icon : DeviceIcon)
    (around : Surroundings) (info : Option IconInfo) :
    IconAsked icon around info task
      (prvProcessTask (showIcon icon info around) task) := by
  have hasync : prvProcessTask (showIcon icon info around) task =
      processUpnpTask (showIcon icon info around) (started task) := by
    simp [prvProcessTask, h.synchronous, prvProcessAsyncTask, started, h.type]
  rw [hasync]
  unfold processUpnpTask
  cases hdevice : around.device with
  | none =>
      simp only [showIcon, hdevice, Option.map_none]
      exact .failed _
  | some device =>
      simp only [showIcon, hdevice, Option.map_some, processDeviceTask,
        started, h.type, dlrDeviceGetIcon, DeviceIcon.cached]
      by_cases hempty : icon.bytes = []
      · simp only [hempty, if_true]
        cases hinfo : info with
        | none => exact .failed _
        | some found =>
            simp only [Option.map_some, Option.any_some]
            split
            · exact .loading found hempty (by simp [hdevice]) rfl
            · exact .failed _
      · simp only [hempty, if_false]
        exact .cached hempty

theorem mimeType_askDescription (around : Surroundings) (info : Option IconInfo)
    (icon : DeviceIcon) :
    (askDescription around info icon).mimeType = icon.mimeType ∨
      ∃ found, info = some found ∧
        (askDescription around info icon).mimeType = found.mimeType := by
  unfold askDescription
  split
  · cases info with
    | none => exact .inl rfl
    | some found => exact .inr ⟨found, rfl, rfl⟩
  · exact .inl rfl

theorem mimeType_askDescription_of_empty {around : Surroundings}
    {found : IconInfo} (hempty : icon.bytes = [])
    (hdevice : around.device.isSome) :
    (askDescription around (some found) icon).mimeType = found.mimeType := by
  simp [askDescription, hempty, hdevice]

theorem mimeType_keepIcon (status : Nat) (bytes : List Nat) (icon : DeviceIcon) :
    (keepIcon status bytes icon).mimeType = icon.mimeType := by
  unfold keepIcon
  split
  · rfl
  · rfl

theorem askDescription_of_cached (hcached : icon.bytes ≠ [])
    (around : Surroundings) (info : Option IconInfo) :
    askDescription around info icon = icon := by
  simp [askDescription, hcached]

theorem bytes_askDescription (around : Surroundings) (info : Option IconInfo)
    (icon : DeviceIcon) : (askDescription around info icon).bytes = icon.bytes := by
  unfold askDescription
  split
  · cases info with
    | none => rfl
    | some found => rfl
  · rfl

/-- A request downloads the icon, or answers with the one there is, if any. -/
theorem asksForIcon_of_iconAsked {around : Surroundings}
    {info : Option IconInfo} {next : DlrAsyncTask} (h : AsksForIcon task)
    (hstage : task.stage = .queued)
    (hasked : IconAsked icon around info task next) :
    AsksForIcon next ∧
      (next.download = some false → icon.bytes = [] ∧ around.device.isSome ∧
        info.isSome) ∧
      ∀ given, Gives next given →
        Gives task given ∨ icon.bytes ≠ [] ∧ given = icon := by
  obtain ⟨hresult, hdownload, hhandler, hidle⟩ := h.queued hstage
  have hnotLoading : task.download ≠ some false := by simp [hdownload]
  have hsame {given : DeviceIcon}
      (hgiven : given ∈ task.sentIcons ∨ Promises task given) :
      Gives task given ∨ icon.bytes ≠ [] ∧ given = icon := .inl hgiven
  cases hasked with
  | failed error =>
      refine ⟨⟨h.type, h.synchronous, h.action, nofun, nofun,
        fun hloading => absurd hloading hnotLoading, fun _ _ => rfl⟩,
        fun hloading => absurd hloading hnotLoading, fun given => hsame⟩
  | cached hcached =>
      refine ⟨⟨h.type, h.synchronous, h.action, nofun, nofun,
        fun hloading => absurd hloading hnotLoading, fun _ _ => rfl⟩,
        fun hloading => absurd hloading hnotLoading, ?_⟩
      rintro given (hsent | hpromise)
      · exact hsame (.inl hsent)
      · obtain ⟨hbytes, hmime⟩ := TaskResult.icon.inj
          (Option.some.inj hpromise.2)
        refine .inr ⟨hcached, ?_⟩
        cases given
        exact congrArg₂ DeviceIcon.mk hbytes.symm hmime.symm
  | loading found hempty hdevice hinfo =>
      exact ⟨⟨h.type, h.synchronous, h.action, nofun, nofun,
        fun _ => ⟨rfl, hidle, rfl, rfl⟩, fun _ _ => rfl⟩,
        fun _ => ⟨hempty, hdevice, by simp [hinfo]⟩, fun given => hsame⟩

theorem asksForIcon_prvGetIconSessionCb (h : AsksForIcon task)
    {status : Nat} {cancelled : Bool}
    (hdownload : task.download = some cancelled)
    (hstatus : cancelled = true → status = soupStatusCancelled)
    (bytes : List Nat) (icon : DeviceIcon) :
    let next := prvGetIconSessionCb status bytes icon.mimeType task
    AsksForIcon next ∧
      (keepIcon status bytes icon = icon ∧
          (∀ given, Gives next given → Gives task given) ∨
        task.download = some false ∧ soupStatusIsSuccessful status = true ∧
          ∀ given, Gives next given →
            Gives task given ∨ given = keepIcon status bytes icon) := by
  have hqueued : task.stage ≠ .queued := by
    intro hstage
    have hnone := (h.queued hstage).2.1
    rw [hdownload] at hnone
    contradiction
  unfold prvGetIconSessionCb keepIcon
  by_cases hcancelled : status = soupStatusCancelled
  · have hfailed : soupStatusIsSuccessful status = false := by
      rw [hcancelled]
      rfl
    simp only [hcancelled, if_true]
    rw [hcancelled] at hfailed
    simp only [hfailed, Bool.false_eq_true, if_false]
    exact ⟨{ h with
      queued := fun hstage => absurd hstage hqueued
      loading := fun hloading => by contradiction },
      .inl ⟨trivial, fun _ => id⟩⟩
  · obtain rfl : cancelled = false := by
      cases cancelled with
      | true => exact absurd (hstatus rfl) hcancelled
      | false => rfl
    have hrunning := (h.loading hdownload).1
    simp only [hcancelled, if_false]
    by_cases hsuccess : soupStatusIsSuccessful status = true
    · have hrange : 200 ≤ status ∧ status < 300 := by
        simpa [soupStatusIsSuccessful] using hsuccess
      simp only [hrange, and_self, if_true, hsuccess]
      refine ⟨⟨h.type, h.synchronous, h.action, h.stage,
        fun hstage => absurd hstage hqueued,
        fun hloading => by contradiction, fun _ _ => hrunning⟩,
        .inr ⟨hdownload, trivial, ?_⟩⟩
      rintro given (hsent | hpromise)
      · exact .inl (.inl hsent)
      · obtain ⟨hbytes, hmime⟩ := TaskResult.icon.inj
          (Option.some.inj hpromise.2)
        refine .inr ?_
        cases given
        exact congrArg₂ DeviceIcon.mk hbytes.symm hmime.symm
    · have hrange : ¬ (200 ≤ status ∧ status < 300) := by
        simpa [soupStatusIsSuccessful] using hsuccess
      simp only [hrange, if_false, hsuccess, Bool.false_eq_true]
      exact ⟨⟨h.type, h.synchronous, h.action, h.stage,
        fun hstage => absurd hstage hqueued,
        fun hloading => by contradiction, h.promises⟩,
        .inl ⟨trivial, fun _ => id⟩⟩

theorem prvGetIconSessionCb_keeps (status : Nat) (bytes : List Nat)
    (mimeType : String) (task : DlrAsyncTask) :
    let next := prvGetIconSessionCb status bytes mimeType task
    next.download = none ∧ next.stage = task.stage := by
  unfold prvGetIconSessionCb
  simp only
  split_ifs
  · exact ⟨rfl, rfl⟩
  · exact ⟨rfl, rfl⟩
  · exact ⟨rfl, rfl⟩

theorem sentIcons_answer (answer : Answer) {icon : DeviceIcon}
    (hsent : icon ∈ (task.answer answer).sentIcons) :
    icon ∈ task.sentIcons ∨
      task.task.invocation ≠ none ∧ answer.icon = some icon := by
  unfold DlrAsyncTask.answer at hsent
  split at hsent
  · exact .inl hsent
  · rename_i invocation hinvocation
    simp only [DlrAsyncTask.sentIcons, List.filterMap_append,
      List.mem_append] at hsent
    rcases hsent with hbefore | hnew
    · exact .inl hbefore
    · refine .inr ⟨by simp [hinvocation], ?_⟩
      simpa using hnew

theorem icon_success (h : task.task.success.icon = some icon) :
    task.task.result = some (.icon icon.bytes icon.mimeType) := by
  unfold DlrTask.success at h
  split at h
  · rename_i format result hformat hresult
    rw [hresult]
    cases result with
    | icon bytes mimeType =>
        split at h
        · obtain rfl := Option.some.inj h
          rfl
        · obtain rfl := Option.some.inj h
          rfl
    | _ => split at h <;> contradiction
  · contradiction

/-- The icon is left alone: what is promised may be sent, and nothing begins. -/
structure Carried (task next : DlrAsyncTask) : Prop where
  asks : AsksForIcon next
  running : next.stage = .running → task.stage = .running
  loading : next.download = some false → task.download = some false
  gives : ∀ icon, Gives next icon → Gives task icon

theorem invocation_answer (answer : Answer) (task : DlrAsyncTask) :
    (task.answer answer).task.invocation = none := by
  unfold DlrAsyncTask.answer
  split
  · assumption
  · rfl

theorem carried_of_answered {next : DlrAsyncTask} (h : AsksForIcon task)
    (hkind : next.task.type = task.task.type ∧
      next.task.synchronous = task.task.synchronous)
    (haction : next.action = none) (hinvocation : next.task.invocation = none)
    (hupdating : next.stage ≠ .updatingProps)
    (hqueued : next.stage = .queued → next.task.result = none ∧
      next.download = none ∧ next.handler = none ∧ next.idleSources = 0)
    (hrunning : next.stage = .running → task.stage = .running)
    (hdownload : next.download ≠ some false)
    (hsent : ∀ sent ∈ next.sentIcons, Gives task sent) : Carried task next where
  asks := {
    type := hkind.1.trans h.type
    synchronous := hkind.2.trans h.synchronous
    action := haction
    stage := hupdating
    queued := hqueued
    loading := fun hloading => absurd hloading hdownload
    promises := fun _ hpromise => absurd hinvocation hpromise.1 }
  running := hrunning
  loading hloading := absurd hloading hdownload
  gives := by
    rintro sent (hmem | hpromise)
    · exact hsent sent hmem
    · exact absurd hinvocation hpromise.1

theorem carried_completed (h : AsksForIcon task)
    (hidle : 0 < task.idleSources) {answer : Answer}
    (hanswer : ∀ sent, answer.icon = some sent →
      task.task.result = some (.icon sent.bytes sent.mimeType)) :
    Carried task (taskCompleted
      ({ task with idleSources := task.idleSources - 1 }.answer answer)) := by
  have hloading : task.download ≠ some false := by
    intro hdownload
    have hnone := (h.loading hdownload).2.1
    omega
  have hsent := @sentIcons_answer
    { task with idleSources := task.idleSources - 1 } answer
  have hnone := invocation_answer answer
    { task with idleSources := task.idleSources - 1 }
  have hstage := stage_taskCompleted
    ({ task with idleSources := task.idleSources - 1 }.answer answer)
  obtain ⟨stage, hcompleted⟩ := taskCompleted_eq
    ({ task with idleSources := task.idleSources - 1 }.answer answer)
  obtain ⟨invocation, replies, heq⟩ := answer_eq answer
    { task with idleSources := task.idleSources - 1 }
  rw [hcompleted] at hstage ⊢
  rw [heq] at hstage hsent hnone ⊢
  obtain rfl : invocation = none := hnone
  have hover : stage = .finished ∨ stage = .deleted := hstage
  apply carried_of_answered h
  · exact ⟨rfl, rfl⟩
  · exact h.action
  · rfl
  · rcases hover with rfl | rfl <;> simp
  · rcases hover with rfl | rfl <;> simp
  · rcases hover with rfl | rfl <;> simp
  · exact hloading
  · intro sent hmem
    rcases hsent hmem with hbefore | ⟨hinvocation, hnew⟩
    · exact .inl hbefore
    · exact .inr ⟨hinvocation, hanswer sent hnew⟩

theorem carried_gCancellableCancel (h : AsksForIcon task)
    (hinvocation : task.task.invocation = none) :
    Carried task (gCancellableCancel task) := by
  -- a download that is not cancelled yet has its handler connected
  unfold gCancellableCancel
  split
  case h_1 hlive hnone =>
    have hloading : task.download ≠ some false := by
      intro hdownload
      have hconnected := (h.loading hdownload).2.2.2
      rw [hnone] at hconnected
      contradiction
    exact carried_of_answered h ⟨rfl, rfl⟩ h.action hinvocation h.stage
      h.queued id hloading fun _ => .inl
  case h_2 handler hlive hhandler =>
    have hqueued : task.stage ≠ .queued := by
      intro hstage
      have hempty := (h.queued hstage).2.2.1
      rw [hhandler] at hempty
      contradiction
    cases handler with
    | asyncTaskCancelled =>
        have hloading : task.download ≠ some false := by
          intro hdownload
          have hicon := (h.loading hdownload).2.2.2
          rw [hhandler] at hicon
          contradiction
        rw [callHandler, dlrAsyncTaskCancelled_eq]
        exact carried_of_answered h ⟨rfl, rfl⟩ (by simp [h.action])
          hinvocation h.stage (fun hstage => absurd hstage hqueued) id
          hloading fun _ => .inl
    | getIconCancelled =>
        have hloading : task.download.map (fun _ => true) ≠ some false := by
          cases task.download <;> simp
        rw [callHandler, prvGetIconCancelled, dlrAsyncTaskCancelled_eq]
        exact carried_of_answered h ⟨rfl, rfl⟩ (by simp [h.action])
          hinvocation h.stage (fun hstage => absurd hstage hqueued) id
          hloading fun _ => .inl
  case h_3 hplain hhandled =>
    have hloading : task.download ≠ some false := by
      intro hdownload
      obtain ⟨-, -, hcancellable, hhandler⟩ := h.loading hdownload
      exact hhandled _ hcancellable hhandler
    exact carried_of_answered h ⟨rfl, rfl⟩ h.action hinvocation h.stage
      h.queued id hloading fun _ => .inl

theorem carried_dlrTaskCancel (h : AsksForIcon task) :
    Carried task (dlrTaskCancel task) := by
  have hsent := @sentIcons_answer task (.error cancelledError)
  have hnone := invocation_answer (.error cancelledError) task
  obtain ⟨invocation, replies, heq⟩ :=
    answer_eq (.error cancelledError) task
  rw [heq] at hsent hnone
  obtain rfl : invocation = none := hnone
  have hsame : dlrTaskCancel task = gCancellableCancel
      { task with
        task := { task.task with invocation := none }
        replies := replies } := by
    simp [dlrTaskCancel, heq, h.synchronous, dlrAsyncTaskCancel]
  have hanswered : AsksForIcon { task with
      task := { task.task with invocation := none }
      replies := replies } :=
    { h with promises := fun _ hpromise => absurd rfl hpromise.1 }
  rw [hsame]
  have hcarried := carried_gCancellableCancel hanswered rfl
  refine { hcarried with gives := fun sent hgives => ?_ }
  rcases hcarried.gives sent hgives with hbefore | hpromised
  · rcases hsent hbefore with hold | ⟨-, hnew⟩
    · exact .inl hold
    · contradiction
  · exact absurd rfl hpromised.1

theorem carried_dlrTaskDelete (h : AsksForIcon task)
    (hrunning : task.stage ≠ .running) :
    Carried task (dlrTaskDelete task) := by
  refine ⟨⟨h.type, h.synchronous, h.action, fun hstage => by contradiction,
    fun hstage => by contradiction,
    fun hdownload => absurd (h.loading hdownload).1 hrunning,
    fun promise hpromise => absurd (h.promises promise hpromise) hrunning⟩,
    fun hstage => by contradiction, id, ?_⟩
  rintro sent (hmem | hpromise)
  · refine .inl ?_
    simp only [dlrTaskDelete, DlrAsyncTask.sentIcons] at hmem
    split at hmem
    · exact hmem
    · simpa [DlrAsyncTask.sentIcons, Answer.icon] using hmem
  · exact .inr hpromise

theorem carried_of_other {event : TaskEvent} {next : DlrAsyncTask}
    (h : AsksForIcon task) (hother : event.isOther = true)
    (hstep : taskStep task event = some next) : Carried task next := by
  cases stepped_of_taskStep hstep with
  | process around hstage => contradiction
  | propsUpdated device hstage => exact absurd hstage h.stage
  | reply reply player callback haction =>
      rw [h.action] at haction
      contradiction
  | iconReply status bytes mimeType hdownload hstatus => contradiction
  | runIdle hidle =>
      unfold dlrAsyncTaskComplete prvAsyncTaskComplete
      split
      · exact carried_completed h hidle fun sent => icon_success
      · exact carried_completed h hidle fun sent hsent => by
          simp [Answer.icon] at hsent
  | cancel hstage => exact carried_dlrTaskCancel h
  | proxyLost =>
      exact ⟨{ h with action := rfl }, id, id, fun _ => id⟩
  | delete hstage =>
      have hrunning : task.stage ≠ .running := by
        intro hstage'
        rcases hstage with hqueued | hfinished
        · rw [hqueued] at hstage'
          contradiction
        · rw [hfinished] at hstage'
          contradiction
      exact carried_dlrTaskDelete h hrunning

end

/-! ## Where an icon comes from -/

def Begun (events : List IconEvent) (i : Nat) : Prop :=
  ∃ around info, IconEvent.process i around (some info) ∈ events

def Named (events : List IconEvent) (mimeType : String) : Prop :=
  ∃ i around info, IconEvent.process i around (some info) ∈ events ∧
    info.mimeType = mimeType

/-- The icon answered a request that was begun, and its MIME type was named. -/
def Downloaded (events : List IconEvent) (icon : DeviceIcon) : Prop :=
  ∃ i past status later,
    events = past ++ .response i status icon.bytes :: later ∧
      soupStatusIsSuccessful status = true ∧ Begun past i ∧
      Named past icon.mimeType

theorem Begun.concat {events : List IconEvent} {i : Nat} (h : Begun events i)
    (event : IconEvent) : Begun (events ++ [event]) i := by
  obtain ⟨around, info, hmem⟩ := h
  exact ⟨around, info, List.mem_append_left _ hmem⟩

theorem Named.concat {events : List IconEvent} {mimeType : String}
    (h : Named events mimeType) (event : IconEvent) :
    Named (events ++ [event]) mimeType := by
  obtain ⟨i, around, info, hmem, hmime⟩ := h
  exact ⟨i, around, info, List.mem_append_left _ hmem, hmime⟩

theorem Downloaded.concat {events : List IconEvent} {icon : DeviceIcon}
    (h : Downloaded events icon) (event : IconEvent) :
    Downloaded (events ++ [event]) icon := by
  obtain ⟨i, past, status, later, rfl, hrest⟩ := h
  exact ⟨i, past, status, later ++ [event], by simp, hrest⟩

/-- A download is under way that nobody has cancelled. -/
def Loading (s : IconRequests) : Prop :=
  ∃ request ∈ s.requests, request.2.download = some false

instance (s : IconRequests) : Decidable (Loading s) :=
  inferInstanceAs (Decidable (∃ request ∈ _, _))

def clients (s : IconRequests) : List String := s.requests.map Prod.fst

structure IconsKept (past : List IconEvent) (s : IconRequests) : Prop where
  asks : ∀ request ∈ s.requests, AsksForIcon request.2
  sender : ∀ client ∈ clients s, ∃ invocation, .request client invocation ∈ past
  single : ∀ (i j : Nat) (first second : String × DlrAsyncTask),
    s.requests[i]? = some first → s.requests[j]? = some second →
      first.1 = second.1 → first.2.stage = .running →
        second.2.stage = .running → i = j
  asked : ∀ (i : Nat) (request : String × DlrAsyncTask),
    s.requests[i]? = some request → request.2.download = some false →
      Begun past i
  named : Loading s → Named past s.icon.mimeType
  kept : s.icon.bytes ≠ [] → Downloaded past s.icon
  gives : ∀ request ∈ s.requests, ∀ icon, Gives request.2 icon →
    Downloaded past icon
  shared : s.icon.bytes ≠ [] → ∀ request ∈ s.requests,
    request.2.download = some false → ∃ other ∈ clients s, other ≠ request.1

theorem iconsKept_iconNew : IconsKept [] iconNew where
  asks _ hmem := by contradiction
  sender _ hmem := by contradiction
  single _ _ _ _ hfirst := by simp [iconNew] at hfirst
  asked _ _ hrequest := by simp [iconNew] at hrequest
  named h := by
    obtain ⟨_, hmem, -⟩ := h
    contradiction
  kept h := absurd rfl h
  gives _ hmem := by contradiction
  shared h := absurd rfl h

theorem getElem?_of_set {α : Type*} {requests : List α} {i j : Nat}
    {next other : α} (hother : (requests.set i next)[j]? = some other) :
    j = i ∧ other = next ∨ j ≠ i ∧ requests[j]? = some other := by
  rw [List.getElem?_set] at hother
  split at hother
  · rename_i hij
    split at hother
    · exact .inl ⟨hij.symm, (Option.some.inj hother).symm⟩
    · contradiction
  · rename_i hij
    exact .inr ⟨fun heq => hij heq.symm, hother⟩

theorem mem_set_cases {requests : List (String × DlrAsyncTask)} {i : Nat}
    {next other : String × DlrAsyncTask} (hother : other ∈ requests.set i next) :
    other = next ∨ ∃ j, j ≠ i ∧ requests[j]? = some other := by
  obtain ⟨j, hj⟩ := List.mem_iff_getElem?.mp hother
  rcases getElem?_of_set hj with ⟨-, heq⟩ | ⟨hne, hold⟩
  · exact .inl heq
  · exact .inr ⟨j, hne, hold⟩

section

variable {past : List IconEvent} {s : IconRequests} {i : Nat} {client : String}
  {task next : DlrAsyncTask} {icon : DeviceIcon}

theorem clients_set (hrequest : s.requests[i]? = some (client, task)) :
    clients ⟨icon, s.requests.set i (client, next)⟩ = clients s := by
  obtain ⟨hlt, heq⟩ := List.getElem?_eq_some_iff.mp hrequest
  have hself := @List.set_getElem_self _ (clients s) i (by simpa [clients] using hlt)
  simpa [clients, List.map_set, heq] using hself

theorem IconsKept.set (h : IconsKept past s) (event : IconEvent)
    (hrequest : s.requests[i]? = some (client, task)) (hasks : AsksForIcon next)
    (hrunning : next.stage = .running →
      ∀ (j : Nat) (other : String × DlrAsyncTask), s.requests[j]? = some other →
        other.1 = client → other.2.stage = .running → j = i)
    (hasked : next.download = some false → Begun (past ++ [event]) i)
    (hnamed : Loading ⟨icon, s.requests.set i (client, next)⟩ →
      Named (past ++ [event]) icon.mimeType)
    (hkept : icon.bytes ≠ [] → Downloaded (past ++ [event]) icon)
    (hgives : ∀ given, Gives next given →
      Gives task given ∨ Downloaded (past ++ [event]) given)
    (hshared : icon.bytes ≠ [] →
      ∀ request ∈ s.requests.set i (client, next),
        request.2.download = some false →
          ∃ other ∈ clients s, other ≠ request.1) :
    IconsKept (past ++ [event]) ⟨icon, s.requests.set i (client, next)⟩ := by
  have hclients : clients ⟨icon, s.requests.set i (client, next)⟩ = clients s :=
    clients_set hrequest
  constructor
  · intro request hmem
    rcases mem_set_cases hmem with rfl | ⟨j, -, hold⟩
    · exact hasks
    · exact h.asks request (List.mem_of_getElem? hold)
  · intro client hmem
    rw [hclients] at hmem
    obtain ⟨invocation, hsent⟩ := h.sender client hmem
    exact ⟨invocation, List.mem_append_left _ hsent⟩
  · intro j k first second hfirst hsecond hsame hfirstRuns hsecondRuns
    rcases getElem?_of_set hfirst with ⟨rfl, rfl⟩ | ⟨-, hold⟩
    · rcases getElem?_of_set hsecond with ⟨rfl, -⟩ | ⟨-, hother⟩
      · rfl
      · exact (hrunning hfirstRuns k second hother hsame.symm hsecondRuns).symm
    · rcases getElem?_of_set hsecond with ⟨rfl, rfl⟩ | ⟨-, hother⟩
      · exact hrunning hsecondRuns j first hold hsame hfirstRuns
      · exact h.single j k first second hold hother hsame hfirstRuns hsecondRuns
  · intro j request hj hloading
    rcases getElem?_of_set hj with ⟨rfl, rfl⟩ | ⟨-, hold⟩
    · exact hasked hloading
    · exact (h.asked j request hold hloading).concat event
  · exact hnamed
  · exact hkept
  · intro request hmem given hgiven
    rcases mem_set_cases hmem with rfl | ⟨j, -, hold⟩
    · rcases hgives given hgiven with hbefore | hnew
      · exact (h.gives _ (List.mem_of_getElem? hrequest) given hbefore).concat event
      · exact hnew
    · exact (h.gives request (List.mem_of_getElem? hold) given hgiven).concat event
  · rw [hclients]
    exact hshared

theorem iconsKept_request (h : IconsKept past s) (client : String)
    (invocation : Nat) :
    IconsKept (past ++ [.request client invocation]) { s with
      requests := s.requests ++
        [(client, queuedTask (dlrTaskGetIconNew invocation))] } := by
  have hget {j : Nat} {other : String × DlrAsyncTask} (hother : (s.requests ++
      [(client, queuedTask (dlrTaskGetIconNew invocation))])[j]? = some other) :
      s.requests[j]? = some other ∨
        other = (client, queuedTask (dlrTaskGetIconNew invocation)) := by
    rw [List.getElem?_append] at hother
    split at hother
    · exact .inl hother
    · exact .inr (List.mem_singleton.mp (List.mem_of_getElem? hother))
  constructor
  · intro request hmem
    rcases List.mem_append.mp hmem with hold | hnew
    · exact h.asks request hold
    · obtain rfl := List.mem_singleton.mp hnew
      exact asksForIcon_queuedTask invocation
  · intro other hmem
    simp only [clients, List.map_append, List.mem_append] at hmem
    rcases hmem with hold | hnew
    · obtain ⟨before, hsent⟩ := h.sender other hold
      exact ⟨before, List.mem_append_left _ hsent⟩
    · obtain rfl := List.mem_singleton.mp hnew
      exact ⟨invocation, by simp⟩
  · intro j k first second hfirst hsecond hsame hfirstRuns hsecondRuns
    rcases hget hfirst with hfirst | rfl
    · rcases hget hsecond with hsecond | rfl
      · exact h.single j k first second hfirst hsecond hsame hfirstRuns hsecondRuns
      · contradiction
    · contradiction
  · intro j request hrequest hloading
    rcases hget hrequest with hold | rfl
    · exact (h.asked j request hold hloading).concat _
    · contradiction
  · rintro ⟨request, hmem, hloading⟩
    rcases List.mem_append.mp hmem with hold | hnew
    · exact (h.named ⟨request, hold, hloading⟩).concat _
    · obtain rfl := List.mem_singleton.mp hnew
      contradiction
  · exact fun hcached => (h.kept hcached).concat _
  · intro request hmem icon hgives
    rcases List.mem_append.mp hmem with hold | hnew
    · exact (h.gives request hold icon hgives).concat _
    · obtain rfl := List.mem_singleton.mp hnew
      exact absurd hgives (not_gives_queuedTask invocation icon)
  · intro hcached request hmem hloading
    rcases List.mem_append.mp hmem with hold | hnew
    · obtain ⟨other, hother, hne⟩ := h.shared hcached request hold hloading
      exact ⟨other, by simp [clients] at hother ⊢; exact .inl hother, hne⟩
    · obtain rfl := List.mem_singleton.mp hnew
      contradiction

theorem iconsKept_process (h : IconsKept past s) (hidle : queueIdle s i)
    (hrequest : s.requests[i]? = some (client, task))
    (hstage : task.stage = .queued) {around : Surroundings}
    {info : Option IconInfo} (hasked : IconAsked s.icon around info task next) :
    IconsKept (past ++ [.process i around info])
      ⟨askDescription around info s.icon, s.requests.set i (client, next)⟩ := by
  have hasks := h.asks _ (List.mem_of_getElem? hrequest)
  obtain ⟨hnext, hloading, hgives⟩ :=
    asksForIcon_of_iconAsked hasks hstage hasked
  refine h.set _ hrequest hnext ?_ ?_ ?_ ?_ ?_ ?_
  · intro _ j other hother hsame hruns
    exact absurd hruns (hidle _ hrequest other (List.mem_of_getElem? hother) hsame)
  · intro hloads
    obtain ⟨found, hfound⟩ := Option.isSome_iff_exists.mp (hloading hloads).2.2
    exact ⟨around, found, by simp [hfound]⟩
  · rintro ⟨request, hmem, hloads⟩
    rcases mimeType_askDescription around info s.icon with hsame | ⟨found, rfl, hmime⟩
    · rcases mem_set_cases hmem with rfl | ⟨j, -, hold⟩
      · obtain ⟨hempty, hdevice, hinfo⟩ := hloading hloads
        obtain ⟨found, rfl⟩ := Option.isSome_iff_exists.mp hinfo
        exact ⟨i, around, found, by simp,
          (mimeType_askDescription_of_empty hempty hdevice).symm⟩
      · rw [hsame]
        exact (h.named ⟨request, List.mem_of_getElem? hold, hloads⟩).concat _
    · exact ⟨i, around, found, by simp, hmime.symm⟩
  · intro hcached
    rw [bytes_askDescription] at hcached
    rw [askDescription_of_cached hcached]
    exact (h.kept hcached).concat _
  · intro given hgiven
    rcases hgives given hgiven with hbefore | ⟨hcached, rfl⟩
    · exact .inl hbefore
    · exact .inr ((h.kept hcached).concat _)
  · intro hcached request hmem hloads
    rw [bytes_askDescription] at hcached
    rcases mem_set_cases hmem with rfl | ⟨j, -, hold⟩
    · exact absurd (hloading hloads).1 hcached
    · exact h.shared hcached request (List.mem_of_getElem? hold) hloads

theorem iconsKept_response (h : IconsKept past s)
    (hrequest : s.requests[i]? = some (client, task)) {status : Nat}
    {cancelled : Bool} (hdownload : task.download = some cancelled)
    (hstatus : cancelled = true → status = soupStatusCancelled)
    (bytes : List Nat) :
    IconsKept (past ++ [.response i status bytes])
      ⟨keepIcon status bytes s.icon, s.requests.set i
        (client, prvGetIconSessionCb status bytes s.icon.mimeType task)⟩ := by
  have hmem := List.mem_of_getElem? hrequest
  have hasks := h.asks _ hmem
  obtain ⟨hnext, hicon⟩ :=
    asksForIcon_prvGetIconSessionCb hasks hdownload hstatus bytes s.icon
  obtain ⟨hnone, hstage⟩ :=
    prvGetIconSessionCb_keeps status bytes s.icon.mimeType task
  have hnew (hloads : task.download = some false)
      (hsuccess : soupStatusIsSuccessful status = true) :
      Downloaded (past ++ [.response i status bytes])
        (keepIcon status bytes s.icon) := by
    refine ⟨i, past, status, [], ?_, hsuccess, h.asked i _ hrequest hloads, ?_⟩
    · simp [keepIcon, hsuccess]
    · rw [mimeType_keepIcon]
      exact h.named ⟨_, hmem, hloads⟩
  refine h.set _ hrequest hnext ?_ ?_ ?_ ?_ ?_ ?_
  · rw [hstage]
    intro hruns j other hother hsame hother'
    exact h.single j i other _ hother hrequest hsame hother' hruns
  · rw [hnone]
    exact fun hloads => by contradiction
  · rintro ⟨request, hmem, hloads⟩
    rw [mimeType_keepIcon]
    rcases mem_set_cases hmem with rfl | ⟨j, -, hold⟩
    · rw [hnone] at hloads
      contradiction
    · exact (h.named ⟨request, List.mem_of_getElem? hold, hloads⟩).concat _
  · intro hcached
    rcases hicon with ⟨hsame, -⟩ | ⟨hloads, hsuccess, -⟩
    · rw [hsame] at hcached ⊢
      exact (h.kept hcached).concat _
    · exact hnew hloads hsuccess
  · intro given hgiven
    rcases hicon with ⟨-, hbefore⟩ | ⟨hloads, hsuccess, hgives⟩
    · exact .inl (hbefore given hgiven)
    · rcases hgives given hgiven with hbefore | rfl
      · exact .inl hbefore
      · exact .inr (hnew hloads hsuccess)
  · intro hcached request hrequest' hloads
    rcases mem_set_cases hrequest' with rfl | ⟨j, hne, hold⟩
    · rw [hnone] at hloads
      contradiction
    · have hrequestMem := List.mem_of_getElem? hold
      rcases hicon with ⟨hsame, -⟩ | ⟨hloading, -⟩
      · rw [hsame] at hcached
        exact h.shared hcached request hrequestMem hloads
      · -- two downloads at once belong to two clients
        refine ⟨client, List.mem_map.mpr ⟨_, hmem, rfl⟩, fun hsame => hne ?_⟩
        exact h.single j i request _ hold hrequest hsame.symm
          ((h.asks request hrequestMem).loading hloads).1
          (hasks.loading hloading).1

theorem iconsKept_other (h : IconsKept past s)
    (hrequest : s.requests[i]? = some (client, task)) (event : TaskEvent)
    (hcarried : Carried task next) :
    IconsKept (past ++ [.other i event])
      { s with requests := s.requests.set i (client, next) } := by
  have hmem := List.mem_of_getElem? hrequest
  have hloads {request : String × DlrAsyncTask}
      (hrequest' : request ∈ s.requests.set i (client, next))
      (hloading : request.2.download = some false) :
      ∃ old ∈ s.requests, old.1 = request.1 ∧ old.2.download = some false := by
    rcases mem_set_cases hrequest' with rfl | ⟨j, -, hold⟩
    · exact ⟨_, hmem, rfl, hcarried.loading hloading⟩
    · exact ⟨request, List.mem_of_getElem? hold, rfl, hloading⟩
  refine h.set _ hrequest hcarried.asks ?_ ?_ ?_ ?_ ?_ ?_
  · intro hruns j other hother hsame hother'
    exact h.single j i other _ hother hrequest hsame hother'
      (hcarried.running hruns)
  · intro hloading
    exact (h.asked i _ hrequest (hcarried.loading hloading)).concat _
  · rintro ⟨request, hrequest', hloading⟩
    obtain ⟨old, hold, -, holdLoads⟩ := hloads hrequest' hloading
    exact (h.named ⟨old, hold, holdLoads⟩).concat _
  · exact fun hcached => (h.kept hcached).concat _
  · exact fun given hgiven => .inl (hcarried.gives given hgiven)
  · intro hcached request hrequest' hloading
    obtain ⟨old, hold, hclient, holdLoads⟩ := hloads hrequest' hloading
    rw [← hclient]
    exact h.shared hcached old hold holdLoads

end

/-! ## Runs -/

inductive IconStepped (s : IconRequests) : IconEvent → IconRequests → Prop where
  | request (client : String) (invocation : Nat) :
      IconStepped s (.request client invocation) { s with requests :=
        s.requests ++ [(client, queuedTask (dlrTaskGetIconNew invocation))] }
  | process {i : Nat} {client : String} {task : DlrAsyncTask}
      (around : Surroundings) (info : Option IconInfo) (hidle : queueIdle s i)
      (hrequest : s.requests[i]? = some (client, task))
      (hstage : task.stage = .queued) :
      IconStepped s (.process i around info)
        ⟨askDescription around info s.icon, s.requests.set i
          (client, prvProcessTask (showIcon s.icon info around) task)⟩
  | response {i : Nat} {client : String} {task : DlrAsyncTask}
      {cancelled : Bool} {status : Nat} (bytes : List Nat)
      (hrequest : s.requests[i]? = some (client, task))
      (hdownload : task.download = some cancelled)
      (hstatus : cancelled = true → status = soupStatusCancelled) :
      IconStepped s (.response i status bytes)
        ⟨keepIcon status bytes s.icon, s.requests.set i
          (client, prvGetIconSessionCb status bytes s.icon.mimeType task)⟩
  | other {i : Nat} {client : String} {task next : DlrAsyncTask}
      {event : TaskEvent} (hrequest : s.requests[i]? = some (client, task))
      (hother : event.isOther = true) (hstep : taskStep task event = some next) :
      IconStepped s (.other i event)
        { s with requests := s.requests.set i (client, next) }

theorem stepAt_eq_some {s next : IconRequests} {i : Nat} {icon : DeviceIcon}
    {event : TaskEvent} (h : s.stepAt i icon event = some next) :
    ∃ client task after, s.requests[i]? = some (client, task) ∧
      Stepped task event after ∧
      next = ⟨icon, s.requests.set i (client, after)⟩ := by
  obtain ⟨⟨client, task⟩, hrequest, h⟩ := Option.bind_eq_some_iff.mp h
  obtain ⟨after, hstep, rfl⟩ := Option.map_eq_some_iff.mp h
  exact ⟨client, task, after, hrequest, stepped_of_taskStep hstep, rfl⟩

theorem iconStepped_of_iconStep {s next : IconRequests} {event : IconEvent}
    (h : iconStep s event = some next) : IconStepped s event next := by
  cases event with
  | request client invocation =>
      obtain rfl := Option.some.inj h
      exact .request client invocation
  | process i around info =>
      obtain ⟨hidle, h⟩ := Option.ite_none_right_eq_some.mp h
      obtain ⟨client, task, after, hrequest, hstepped, rfl⟩ := stepAt_eq_some h
      cases hstepped with
      | process _ hstage => exact .process around info hidle hrequest hstage
  | response i status bytes =>
      obtain ⟨client, task, after, hrequest, hstepped, rfl⟩ := stepAt_eq_some h
      cases hstepped with
      | iconReply _ _ _ hdownload hstatus =>
          exact .response bytes hrequest hdownload hstatus
  | other i event =>
      obtain ⟨hother, h⟩ := Option.ite_none_right_eq_some.mp h
      obtain ⟨⟨client, task⟩, hrequest, h⟩ := Option.bind_eq_some_iff.mp h
      obtain ⟨after, hstep, rfl⟩ := Option.map_eq_some_iff.mp h
      exact .other hrequest hother hstep

theorem iconsKept_step {past : List IconEvent} {s next : IconRequests}
    {event : IconEvent} (h : IconsKept past s)
    (hstep : iconStep s event = some next) :
    IconsKept (past ++ [event]) next := by
  cases iconStepped_of_iconStep hstep with
  | request client invocation => exact iconsKept_request h client invocation
  | process around info hidle hrequest hstage =>
      exact iconsKept_process h hidle hrequest hstage (iconAsked_prvProcessTask
        (h.asks _ (List.mem_of_getElem? hrequest)) _ _ _)
  | response bytes hrequest hdownload hstatus =>
      exact iconsKept_response h hrequest hdownload hstatus bytes
  | other hrequest hother htaskStep =>
      exact iconsKept_other h hrequest _ (carried_of_other
        (h.asks _ (List.mem_of_getElem? hrequest)) hother htaskStep)

structure Settled (s now : IconRequests) : Prop where
  icon : now.icon = s.icon
  idle : ¬Loading now
  gives : ∀ (i : Nat) (request : String × DlrAsyncTask),
    now.requests[i]? = some request → ∀ given, Gives request.2 given →
      given = s.icon ∨ ∃ old, s.requests[i]? = some old ∧ Gives old.2 given

theorem Settled.set {s now : IconRequests} (h : Settled s now) {i : Nat}
    {client : String} {task next : DlrAsyncTask}
    (hrequest : now.requests[i]? = some (client, task))
    (hdownload : next.download ≠ some false)
    (hgives : ∀ given, Gives next given → Gives task given ∨ given = s.icon) :
    Settled s ⟨now.icon, now.requests.set i (client, next)⟩ where
  icon := h.icon
  idle := by
    rintro ⟨request, hmem, hloading⟩
    rcases mem_set_cases hmem with rfl | ⟨j, -, hold⟩
    · exact hdownload hloading
    · exact h.idle ⟨request, List.mem_of_getElem? hold, hloading⟩
  gives := by
    intro j request hj given hgiven
    rcases getElem?_of_set hj with ⟨rfl, rfl⟩ | ⟨-, hold⟩
    · rcases hgives given hgiven with hbefore | hicon
      · exact h.gives j _ hrequest given hbefore
      · exact .inl hicon
    · exact h.gives j request hold given hgiven

theorem settled_step {past : List IconEvent} {s now next : IconRequests}
    {event : IconEvent} (hkept : IconsKept past now) (h : Settled s now)
    (hcached : s.icon.bytes ≠ []) (hstep : iconStep now event = some next) :
    Settled s next := by
  cases iconStepped_of_iconStep hstep with
  | request client invocation =>
      refine ⟨h.icon, ?_, ?_⟩
      · rintro ⟨request, hmem, hloading⟩
        rcases List.mem_append.mp hmem with hold | hnew
        · exact h.idle ⟨request, hold, hloading⟩
        · obtain rfl := List.mem_singleton.mp hnew
          contradiction
      · intro j request hrequest given hgiven
        rw [List.getElem?_append] at hrequest
        split at hrequest
        · exact h.gives j request hrequest given hgiven
        · obtain rfl := List.mem_singleton.mp (List.mem_of_getElem? hrequest)
          exact absurd hgiven (not_gives_queuedTask invocation given)
  | process around info hidle hrequest hstage =>
      have hasks := hkept.asks _ (List.mem_of_getElem? hrequest)
      obtain ⟨-, hloading, hgives⟩ := asksForIcon_of_iconAsked hasks hstage
        (iconAsked_prvProcessTask hasks now.icon around info)
      rw [h.icon] at hloading hgives
      rw [askDescription_of_cached (h.icon ▸ hcached)]
      refine h.set hrequest (fun hloads => hcached (hloading ?_).1) ?_
      · rwa [← h.icon]
      · intro given hgiven
        rw [h.icon] at hgiven
        exact (hgives given hgiven).imp_right And.right
  | response bytes hrequest hdownload hstatus =>
      have hmem := List.mem_of_getElem? hrequest
      obtain ⟨-, hicon⟩ := asksForIcon_prvGetIconSessionCb (hkept.asks _ hmem)
        hdownload hstatus bytes now.icon
      rcases hicon with ⟨hsame, hbefore⟩ | ⟨hloads, -⟩
      · rw [hsame]
        refine h.set hrequest ?_ fun given hgiven => .inl (hbefore given hgiven)
        rw [(prvGetIconSessionCb_keeps _ bytes now.icon.mimeType _).1]
        nofun
      · exact absurd ⟨_, hmem, hloads⟩ h.idle
  | other hrequest hother htaskStep =>
      have hmem := List.mem_of_getElem? hrequest
      have hcarried := carried_of_other (hkept.asks _ hmem) hother htaskStep
      exact h.set hrequest
        (fun hloads => h.idle ⟨_, hmem, hcarried.loading hloads⟩)
        fun given hgiven => .inl (hcarried.gives given hgiven)

theorem iconsKept_exec {events : List IconEvent} {s : IconRequests}
    (hrun : exec iconStep iconNew events = some s) : IconsKept events s := by
  have hmeets : Meets iconStep (fun _ _ => True) iconNew events :=
    meets_of_forall_mem (fun _ _ _ => trivial) _
  exact exec_history IconsKept (fun _ _ _ _ h _ => iconsKept_step h)
    iconsKept_iconNew hrun hmeets

def OneClient (events : List IconEvent) : Prop :=
  ∃ client, ∀ other invocation,
    IconEvent.request other invocation ∈ events → other = client

/-- With one client there is one download at most, and none once there is an icon. -/
theorem IconsKept.not_loading {past : List IconEvent} {s : IconRequests}
    (h : IconsKept past s) (hone : OneClient past) (hcached : s.icon.bytes ≠ []) :
    ¬Loading s := by
  rintro ⟨request, hmem, hloading⟩
  obtain ⟨client, hclient⟩ := hone
  have honly {other : String} (hother : other ∈ clients s) : other = client := by
    obtain ⟨invocation, hsent⟩ := h.sender other hother
    exact hclient other invocation hsent
  obtain ⟨other, hother, hne⟩ := h.shared hcached request hmem hloading
  exact hne ((honly hother).trans (honly (List.mem_map_of_mem hmem)).symm)

/--
Every icon that a client is sent was downloaded.  When there is one and no
download is under way, as is the case as soon as there is one if one client
asks, it stays, no download begins, and it is what every request is answered
with that was not going to be answered with another.
-/
theorem icon_stays_unless_loading {events later : List IconEvent}
    {s next : IconRequests} (hrun : exec iconStep iconNew events = some s)
    (hlater : exec iconStep s later = some next) :
    (∀ request ∈ s.requests, ∀ icon ∈ request.2.sentIcons,
      Downloaded events icon) ∧
    (s.icon.bytes ≠ [] → OneClient events → ¬Loading s) ∧
    (s.icon.bytes ≠ [] → ¬Loading s →
      Downloaded events s.icon ∧ next.icon = s.icon ∧ ¬Loading next ∧
      ∀ (i : Nat) (request : String × DlrAsyncTask),
        next.requests[i]? = some request → ∀ icon ∈ request.2.sentIcons,
          icon = s.icon ∨ ∃ old, s.requests[i]? = some old ∧ Gives old.2 icon) := by
  have hkept := iconsKept_exec hrun
  refine ⟨fun request hmem icon hsent => hkept.gives request hmem icon (.inl hsent),
    fun hcached hone => hkept.not_loading hone hcached, fun hcached hidle => ?_⟩
  have hinv : (∃ past, IconsKept past next) ∧ Settled s next := by
    refine exec_invariant
      (fun now => (∃ past, IconsKept past now) ∧ Settled s now) ?_
      ⟨⟨events, hkept⟩, rfl, hidle,
        fun _ request hrequest _ hgiven => .inr ⟨request, hrequest, hgiven⟩⟩
      hlater
    rintro now event after ⟨⟨past, hnow⟩, hsettled⟩ hstep
    exact ⟨⟨past ++ [event], iconsKept_step hnow hstep⟩,
      settled_step hnow hsettled hcached hstep⟩
  obtain ⟨-, hsettled⟩ := hinv
  exact ⟨hkept.kept hcached, hsettled.icon, hsettled.idle,
    fun i request hrequest icon hsent =>
      hsettled.gives i request hrequest icon (.inl hsent)⟩

/-- Two clients load at once, a third one cancels, and the last response stays. -/
def iconRequests : List IconEvent :=
  let around := surroundings (playerDevice Player.playerNew)
  [.request ":1.1" 1, .request ":1.2" 2, .request ":1.3" 3,
   .process 0 around (some ⟨"/a.jpg", "image/jpeg", true⟩),
   .process 2 around (some ⟨"/a.jpg", "image/jpeg", true⟩),
   .process 1 around (some ⟨"/a.png", "image/png", true⟩),
   .other 2 .cancel, .response 0 200 [255, 216], .other 0 .runIdle,
   .response 2 soupStatusCancelled [], .response 1 200 [137, 80]]

def laterIconRequest : List IconEvent :=
  [.other 1 .runIdle, .request ":1.1" 4,
   .process 3 (surroundings (playerDevice Player.playerNew)) none,
   .other 3 .runIdle]

theorem icon_stays_unless_loading_two_clients :
    ∃ s next, exec iconStep iconNew iconRequests = some s ∧
      exec iconStep s laterIconRequest = some next ∧
      Downloaded iconRequests ⟨[137, 80], "image/png"⟩ ∧
      next.icon = ⟨[137, 80], "image/png"⟩ ∧
      next.requests.map (fun request => request.2.sentIcons) =
        [[⟨[255, 216], "image/png"⟩], [⟨[137, 80], "image/png"⟩], [],
          [⟨[137, 80], "image/png"⟩]] := by
  obtain ⟨-, -, hstays⟩ :=
    @icon_stays_unless_loading iconRequests laterIconRequest _ _ rfl rfl
  obtain ⟨hdownloaded, hicon, -, -⟩ := hstays (by decide) (by decide)
  exact ⟨_, _, rfl, rfl, hdownloaded, hicon, rfl⟩

end DleynaRenderer.Task
