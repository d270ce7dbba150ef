import DleynaRenderer.Task.Attended
import DleynaRenderer.Upnp.Mirror

/-!
# Tasks on contexts that come and go

The requests of the clients to one renderer run beside the discovery of its
contexts.  A task uses the proxies of the context that is preferred when it is
processed, and points to them weakly.  The loss of the context takes them away
from the task; only the loss of the last context cancels the tasks.
-/

namespace DleynaRenderer.Upnp

open DleynaRenderer.Device DleynaRenderer.Player DleynaRenderer.Task
open EventSystem

/-- `context` is the address of the context that the task uses, until it is lost. -/
structure DeviceTask where
  task : DlrAsyncTask
  context : Option String

structure Daemon where
  upnp : DlrUpnp
  tasks : List DeviceTask

def daemonNew (pushHostPort : Nat) : Daemon := ⟨dlrUpnpNew pushHostPort, []⟩

structure IconInfo where
  icon : Option (List Nat × String)
  iconUrl : Option String
  validIconUrl : Bool

def contextAddresses (udn : String) (upnp : DlrUpnp) : List String :=
  ((upnp.serverUdnMap.lookup udn).map addresses).getD []

def preferredContext (udn : String) (upnp : DlrUpnp) :
    Option (DlrDevice × DeviceContext) :=
  (upnp.serverUdnMap.lookup udn).bind fun device =>
    (dlrDeviceGetContext device).map fun context => (device, context)

def deviceView (icon : IconInfo) (found : DlrDevice × DeviceContext) :
    DeviceView where
  player := found.1.player.player
  avProxy := found.2.av.proxy.isSome
  rcProxy := found.2.rc.proxy.isSome
  icon := icon.icon
  iconUrl := icon.iconUrl
  validIconUrl := icon.validIconUrl

/-- `prv_dlr_context_delete` unrefs the proxies. -/
def dlrContextDelete (ipAddress : String) (task : DeviceTask) : DeviceTask :=
  if task.context = some ipAddress then ⟨loseProxy task.task, none⟩ else task

/-- `dleyna_task_processor_remove_queues_for_sink` -/
def removeQueue (task : DeviceTask) : DeviceTask :=
  match task.task.stage with
  | .queued => { task with task := dlrTaskDelete task.task }
  | .updatingProps | .running => { task with task := dlrTaskCancel task.task }
  | .finished | .deleted => task

/-- What the registry's events do to the tasks; the last context cancels them. -/
def tasksAfter (udn : String) (upnp : DlrUpnp) (tasks : List DeviceTask) :
    UpnpEvent → List DeviceTask
  | .unavailable lost ipAddress =>
      if lost = udn ∧ ipAddress ∈ contextAddresses udn upnp then
        let tasks := tasks.map (dlrContextDelete ipAddress)
        if (contextAddresses udn upnp).erase ipAddress = [] then
          tasks.map removeQueue
        else tasks
      else tasks
  | _ => tasks

inductive DaemonEvent where
  | upnp (event : UpnpEvent)
  | request (interfaceName propName : String) (params : Variant)
      (type : DlrTaskType) (invocation : Nat)
  | process (index : Nat) (icon : IconInfo) (around : Surroundings)
  | propsUpdated (index : Nat) (icon : IconInfo)
  | task (index : Nat) (event : TaskEvent)

def stepTask (event : TaskEvent) (context : Option String)
    (task : DeviceTask) : Option DeviceTask :=
  (taskStep task.task event).map fun next => ⟨next, context⟩

def Daemon.updateTask (index : Nat) (update : DeviceTask → Option DeviceTask)
    (daemon : Daemon) : Option Daemon :=
  (daemon.tasks[index]?.bind update).map fun next =>
    { daemon with tasks := daemon.tasks.set index next }

/-- `prv_props_update` finds its device lost when its context was. -/
def updatedContext (udn : String) (upnp : DlrUpnp) (task : DeviceTask) :
    Option (DlrDevice × DeviceContext) :=
  if task.context = none then none else preferredContext udn upnp

def addressOf (found : Option (DlrDevice × DeviceContext)) : Option String :=
  found.map fun found => found.2.ipAddress

def daemonStep (convertUdnToPath : String → String) (udn : String)
    (daemon : Daemon) : DaemonEvent → Option Daemon
  | .upnp event =>
      (upnpStep convertUdnToPath daemon.upnp event).map fun upnp =>
        ⟨upnp, tasksAfter udn daemon.upnp daemon.tasks event⟩
  | .request interfaceName propName params type invocation =>
      let task := dlrTaskNew interfaceName propName params type invocation
      some { daemon with tasks := daemon.tasks ++ [⟨queuedTask task, none⟩] }
  | .process index icon around =>
      let found := preferredContext udn daemon.upnp
      let around := { around with device := found.map (deviceView icon) }
      daemon.updateTask index (stepTask (.process around) (addressOf found))
  | .propsUpdated index icon =>
      daemon.updateTask index fun task =>
        let found := updatedContext udn daemon.upnp task
        stepTask (.propsUpdated (found.map (deviceView icon)))
          (addressOf found) task
  | .task index event =>
      daemon.updateTask index fun task =>
        if isOwnEvent task.task event then stepTask event task.context task
        else none

def CompletionScheduled (task : DeviceTask) : Prop := 0 < task.task.idleSources

def PendingOn (ipAddresses : List String) (task : DeviceTask) : Prop :=
  task.task.action ≠ none ∧
    ∃ ipAddress ∈ ipAddresses, task.context = some ipAddress

def TasksPending (udn : String) (daemon : Daemon) : Prop :=
  ∀ task ∈ daemon.tasks, Unfinished task.task →
    CompletionScheduled task ∨
      PendingOn (contextAddresses udn daemon.upnp) task

/-- A task may also wait for the icon or in `prv_props_update`. -/
def NoneOrphaned (udn : String) (daemon : Daemon) : Prop :=
  ∀ task ∈ daemon.tasks, Unfinished task.task →
    (CompletionScheduled task ∨
      PendingOn (contextAddresses udn daemon.upnp) task) ∨
    task.task.download ≠ none ∨ task.task.stage = .updatingProps

def LosesNoAction (udn ipAddress : String) (daemon : Daemon) : Prop :=
  (contextAddresses udn daemon.upnp).erase ipAddress ≠ [] →
    ∀ task ∈ daemon.tasks, AwaitsAction task.task →
      task.context ≠ some ipAddress

def processDemandAt (udn : String) (icon : IconInfo) (index : Nat)
    (daemon : Daemon) : Option Demand :=
  daemon.tasks[index]?.map fun task =>
    processDemand ((preferredContext udn daemon.upnp).map (deviceView icon))
      task.task.task

def updatedDemandAt (udn : String) (icon : IconInfo) (index : Nat)
    (daemon : Daemon) : Option Demand :=
  daemon.tasks[index]?.bind fun task =>
    if task.task.cancellable = some false then
      some (updatedDemand
        ((updatedContext udn daemon.upnp task).map (deviceView icon))
        task.task.task)
    else none

/--
Contexts are lost only when no task waits for its action on them, or when they
are the last, and an action is begun only where the context has the service.
-/
def KeepsActions (udn : String) (daemon : Daemon) : DaemonEvent → Prop
  | .upnp (.unavailable lost ipAddress) =>
      lost = udn → LosesNoAction udn ipAddress daemon
  | .process index icon _ =>
      processDemandAt udn icon index daemon ≠ some (.action false)
  | .propsUpdated index icon =>
      updatedDemandAt udn icon index daemon ≠ some (.action false)
  | _ => True

instance (udn ipAddress : String) (daemon : Daemon) :
    Decidable (LosesNoAction udn ipAddress daemon) :=
  inferInstanceAs (Decidable (_ ≠ _ → ∀ task ∈ daemon.tasks,
    AwaitsAction task.task → task.context ≠ some ipAddress))

instance (udn : String) (daemon : Daemon) :
    (event : DaemonEvent) → Decidable (KeepsActions udn daemon event)
  | .upnp (.unavailable lost ipAddress) =>
      inferInstanceAs (Decidable (lost = udn → LosesNoAction udn ipAddress daemon))
  | .upnp (.available ..) => isTrue trivial
  | .upnp (.runTask ..) => isTrue trivial
  | .upnp (.chainEnd _) => isTrue trivial
  | .upnp (.subscribeTimeout _) => isTrue trivial
  | .upnp (.subscriptionLost ..) => isTrue trivial
  | .upnp (.reEnable ..) => isTrue trivial
  | .upnp (.player ..) => isTrue trivial
  | .upnp (.hostFile ..) => isTrue trivial
  | .upnp (.removeFile ..) => isTrue trivial
  | .upnp (.lostClient _) => isTrue trivial
  | .request .. => isTrue trivial
  | .process index icon _ => inferInstanceAs
      (Decidable (processDemandAt udn icon index daemon ≠ some (.action false)))
  | .propsUpdated index icon => inferInstanceAs
      (Decidable (updatedDemandAt udn icon index daemon ≠ some (.action false)))
  | .task .. => isTrue trivial

def WaitsForActions (udn : String) (daemon : Daemon) : DaemonEvent → Prop
  | .process index icon _ =>
      processDemandAt udn icon index daemon ≠ some .icon ∧
        processDemandAt udn icon index daemon ≠ some .props
  | _ => True

instance (udn : String) (daemon : Daemon) :
    (event : DaemonEvent) → Decidable (WaitsForActions udn daemon event)
  | .upnp _ => isTrue trivial
  | .request .. => isTrue trivial
  | .process index icon _ => inferInstanceAs (Decidable
      (processDemandAt udn icon index daemon ≠ some .icon ∧
        processDemandAt udn icon index daemon ≠ some .props))
  | .propsUpdated .. => isTrue trivial
  | .task .. => isTrue trivial

/-! ## Contexts of the device -/

theorem loseContext_of_kept {device : DlrDevice} {ipAddress lost : String}
    (hin : ipAddress ∈ addresses device) (hne : lost ≠ ipAddress) :
    ∃ kept, loseContext lost ⟨device, none⟩ = some ⟨kept, none⟩ ∧
      ipAddress ∈ addresses kept := by
  unfold loseContext
  cases hremoved : removeContext lost device with
  | none => exact ⟨device, rfl, hin⟩
  | some removed =>
      obtain ⟨gone, kept⟩ := removed
      have hkept : ipAddress ∈ addresses kept := by
        rw [addresses_removeContext hremoved]
        exact (List.mem_erase_of_ne (Ne.symm hne)).mpr hin
      cases hcontext : dlrDeviceGetContext kept with
      | none =>
          have hnil := dlrDeviceGetContext_eq_none_iff.mp hcontext
          simp [addresses, hnil] at hkept
      | some context =>
          refine ⟨resubscribeLater gone kept, ?_, by simpa using hkept⟩
          simp [hcontext, keepEntry]

theorem entryChange_of_kept (fresh : String → (Service → Bool) → Entry)
    {udn ipAddress : String} {device : DlrDevice} {event : UpnpEvent}
    (htarget : target event = some udn)
    (hkept : isUnavailable udn ipAddress event = false)
    (hin : ipAddress ∈ addresses device) :
    ∃ changed, entryChange fresh (some ⟨device, none⟩) event =
        some ⟨changed, none⟩ ∧ ipAddress ∈ addresses changed := by
  cases event with
  | available other announced services =>
      refine ⟨_, rfl, ?_⟩
      rw [addresses_announceContext]
      split_ifs
      · exact hin
      · exact List.mem_append_left _ hin
  | unavailable other lost =>
      obtain rfl : other = udn := Option.some.inj htarget
      exact loseContext_of_kept hin (by simpa [isUnavailable] using hkept)
  | subscribeTimeout other =>
      refine ⟨_, rfl, ?_⟩
      exact (addresses_dlrDeviceSubscribeToServiceChanges
        { device with timeoutId := false }).symm ▸ hin
  | subscriptionLost other address service =>
      refine ⟨_, rfl, ?_⟩
      rwa [addresses_modifyContext (ipAddress_emitSubscriptionLost service)]
  | reEnable other address service =>
      refine ⟨_, rfl, ?_⟩
      rwa [addresses_modifyContext (ipAddress_reEnableCb service)]
  | player other info event =>
      simp only [entryChange]
      cases playerStep info device.player event with
      | none => exact ⟨device, rfl, hin⟩
      | some player => exact ⟨setPlayer player device, rfl, hin⟩
  | _ => exact ⟨device, rfl, hin⟩

theorem mem_contextAddresses_step {convertUdnToPath : String → String}
    {udn ipAddress : String} {upnp next : DlrUpnp} {event : UpnpEvent}
    (h : Apart upnp)
    (hstep : upnpStep convertUdnToPath upnp event = some next)
    (hkept : isUnavailable udn ipAddress event = false)
    (hmem : ipAddress ∈ contextAddresses udn upnp) :
    ipAddress ∈ contextAddresses udn next := by
  cases hdevice : upnp.serverUdnMap.lookup udn with
  | none => simp [contextAddresses, hdevice] at hmem
  | some device =>
      have hin : ipAddress ∈ addresses device := by
        simpa [contextAddresses, hdevice] using hmem
      have hentry := entry_step h hstep udn
      rw [lookup_constructed_iff.mp hdevice, entryLaw] at hentry
      have hfound : ∃ changed, entry next udn = some ⟨changed, none⟩ ∧
          ipAddress ∈ addresses changed := by
        rw [hentry]
        split_ifs with htarget
        · exact entryChange_of_kept _ htarget hkept hin
        · exact ⟨device, rfl, hin⟩
      obtain ⟨changed, hchanged, hstays⟩ := hfound
      simpa [contextAddresses, lookup_constructed_iff.mpr hchanged] using hstays

theorem mem_contextAddresses_of_preferred {udn : String} {upnp : DlrUpnp}
    {ipAddress : String}
    (h : addressOf (preferredContext udn upnp) = some ipAddress) :
    ipAddress ∈ contextAddresses udn upnp := by
  unfold addressOf preferredContext at h
  cases hdevice : upnp.serverUdnMap.lookup udn with
  | none => simp [hdevice] at h
  | some device =>
      cases hcontext : dlrDeviceGetContext device with
      | none => simp [hdevice, hcontext] at h
      | some context =>
          obtain rfl : context.ipAddress = ipAddress := by
            simpa [hdevice, hcontext] using h
          simpa [contextAddresses, hdevice] using
            mem_addresses_of_dlrDeviceGetContext hcontext

structure Placed (ipAddresses : List String) (task : DeviceTask) : Prop where
  tended : Tended task.task
  context : ∀ ipAddress, task.context = some ipAddress →
    ipAddress ∈ ipAddresses
  proxy : task.task.proxy = true → task.context ≠ none

def AllPlaced (udn : String) (daemon : Daemon) : Prop :=
  ∀ task ∈ daemon.tasks, Placed (contextAddresses udn daemon.upnp) task

structure DaemonInv (udn : String) (daemon : Daemon) : Prop where
  apart : Apart daemon.upnp
  placed : AllPlaced udn daemon

theorem daemonInv_new (udn : String) (pushHostPort : Nat) :
    DaemonInv udn (daemonNew pushHostPort) :=
  ⟨apart_dlrUpnpNew pushHostPort, fun _ hmem => by cases hmem⟩

theorem pendingOn_of_placed {ipAddresses : List String} {task : DeviceTask}
    (h : Placed ipAddresses task) (haction : task.task.action ≠ none) :
    PendingOn ipAddresses task := by
  obtain ⟨ipAddress, hcontext⟩ :=
    Option.ne_none_iff_exists'.mp (h.proxy (h.tended.proxy haction))
  exact ⟨haction, ipAddress, h.context ipAddress hcontext, hcontext⟩

theorem noneOrphaned_of_inv {udn : String} {daemon : Daemon}
    (h : DaemonInv udn daemon) : NoneOrphaned udn daemon := by
  intro task hmem hunfinished
  have hplaced := h.placed task hmem
  rcases hunfinished with hrunning | hupdating
  · cases hplaced.tended.running hrunning with
    | scheduled hidle => exact .inl (.inl hidle)
    | acting haction => exact .inl (.inr (pendingOn_of_placed hplaced haction))
    | downloading hdownload => exact .inr (.inl (by simp [hdownload]))
  · exact .inr (.inr hupdating)

theorem not_noneOrphaned {udn : String} {daemon : Daemon} {task : DeviceTask}
    (hmem : task ∈ daemon.tasks) (h : Orphaned task.task) :
    ¬ NoneOrphaned udn daemon := by
  obtain ⟨⟨hstage, hidle, hdownload⟩, haction⟩ := h
  intro hnone
  rcases hnone task hmem (.inl hstage) with
    (hscheduled | hpending) | hicon | hupdating
  · exact absurd hscheduled (by simp [CompletionScheduled, hidle])
  · exact hpending.1 haction
  · exact hicon hdownload
  · rw [hstage] at hupdating
    contradiction

theorem updateTask_eq_some {daemon next : Daemon} {index : Nat}
    {update : DeviceTask → Option DeviceTask}
    (h : daemon.updateTask index update = some next) :
    ∃ task updated, daemon.tasks[index]? = some task ∧
      update task = some updated ∧
      next = { daemon with tasks := daemon.tasks.set index updated } := by
  obtain ⟨updated, hbind, rfl⟩ := Option.map_eq_some_iff.mp h
  obtain ⟨task, htask, hupdate⟩ := Option.bind_eq_some_iff.mp hbind
  exact ⟨task, updated, htask, hupdate, rfl⟩

theorem forall_mem_set {good : DeviceTask → Prop} {tasks : List DeviceTask}
    {index : Nat} {updated : DeviceTask} (h : ∀ task ∈ tasks, good task)
    (hupdated : good updated) :
    ∀ task ∈ tasks.set index updated, good task := by
  intro task hmem
  rcases List.mem_or_eq_of_mem_set hmem with hold | rfl
  · exact h task hold
  · exact hupdated

theorem mem_set_of_getElem? {tasks : List DeviceTask} {index : Nat}
    {task : DeviceTask} (htask : tasks[index]? = some task)
    (updated : DeviceTask) : updated ∈ tasks.set index updated := by
  obtain ⟨hlength, -⟩ := List.getElem?_eq_some_iff.mp htask
  exact List.mem_set hlength updated

theorem placed_stepTask {ipAddresses : List String} {task updated : DeviceTask}
    {event : TaskEvent} {context : Option String}
    (h : Placed ipAddresses task)
    (hstep : stepTask event context task = some updated)
    (hkeeps : KeepsAttended task.task event)
    (hcontext : ∀ ipAddress, context = some ipAddress →
      ipAddress ∈ ipAddresses)
    (hproxy : ∀ next, taskStep task.task event = some next →
      next.proxy = true → context ≠ none) : Placed ipAddresses updated := by
  obtain ⟨next, hnext, rfl⟩ := Option.map_eq_some_iff.mp hstep
  exact ⟨tended_taskStep h.tended hkeeps hnext, hcontext, hproxy next hnext⟩

theorem placed_process {udn : String} {upnp : DlrUpnp} {icon : IconInfo}
    {around : Surroundings} {task updated : DeviceTask}
    (h : Placed (contextAddresses udn upnp) task)
    (hdemand : processDemand
      ((preferredContext udn upnp).map (deviceView icon)) task.task.task ≠
        .action false)
    (hstep : stepTask (.process { around with
        device := (preferredContext udn upnp).map (deviceView icon) })
      (addressOf (preferredContext udn upnp)) task = some updated) :
    Placed (contextAddresses udn upnp) updated := by
  refine placed_stepTask h hstep hdemand
    (fun _ => mem_contextAddresses_of_preferred) ?_
  intro next hnext hproxy hnone
  cases stepped_of_taskStep hnext with
  | process around hstage =>
      refine device_of_proxy h.tended hstage hproxy ?_
      simpa [addressOf] using hnone

theorem mem_contextAddresses_of_updated {udn : String} {upnp : DlrUpnp}
    {task : DeviceTask} {ipAddress : String}
    (h : addressOf (updatedContext udn upnp task) = some ipAddress) :
    ipAddress ∈ contextAddresses udn upnp := by
  unfold updatedContext at h
  split_ifs at h
  · contradiction
  · exact mem_contextAddresses_of_preferred h

theorem placed_propsUpdated {udn : String} {upnp : DlrUpnp} {icon : IconInfo}
    {task updated : DeviceTask}
    (h : Placed (contextAddresses udn upnp) task)
    (hdemand : task.task.cancellable = some false →
      updatedDemand ((updatedContext udn upnp task).map (deviceView icon))
        task.task.task ≠ .action false)
    (hstep : stepTask
      (.propsUpdated ((updatedContext udn upnp task).map (deviceView icon)))
      (addressOf (updatedContext udn upnp task)) task = some updated) :
    Placed (contextAddresses udn upnp) updated := by
  refine placed_stepTask h hstep hdemand
    (fun _ => mem_contextAddresses_of_updated) ?_
  intro next hnext hproxy hnone
  cases stepped_of_taskStep hnext with
  | propsUpdated device hstage =>
      refine device_of_proxy_propsUpdated h.tended hstage hproxy ?_
      simpa [addressOf] using hnone

theorem placed_ownEvent {ipAddresses : List String} {task updated : DeviceTask}
    {event : TaskEvent} (h : Placed ipAddresses task)
    (hown : isOwnEvent task.task event = true)
    (hstep : stepTask event task.context task = some updated) :
    Placed ipAddresses updated := by
  refine placed_stepTask h hstep (keepsAttended_of_isOwnEvent hown) h.context ?_
  intro next hnext hproxy
  exact h.proxy (proxy_of_isOwnEvent hown hnext ▸ hproxy)

/-! ## The loss of a context -/

theorem placed_dlrContextDelete {ipAddress : String}
    {ipAddresses others : List String} {task : DeviceTask}
    (h : Placed ipAddresses task)
    (hothers : ∀ other ∈ ipAddresses, other ≠ ipAddress → other ∈ others)
    (hkept : AwaitsAction task.task → task.context ≠ some ipAddress) :
    Placed others (dlrContextDelete ipAddress task) := by
  unfold dlrContextDelete
  split_ifs with hcontext
  · have hawaits : ¬ AwaitsAction task.task := fun hawaits =>
      hkept hawaits hcontext
    exact ⟨tended_loseProxy h.tended hawaits, by simp, by simp [loseProxy]⟩
  · refine ⟨h.tended, fun other hother => ?_, h.proxy⟩
    refine hothers other (h.context other hother) ?_
    rintro rfl
    exact hcontext hother

theorem placed_removeQueue {ipAddress : String} {ipAddresses : List String}
    {task : DeviceTask} (h : Placed ipAddresses task)
    (honly : ∀ other ∈ ipAddresses, other = ipAddress) :
    Placed [] (removeQueue (dlrContextDelete ipAddress task)) := by
  have hcontext : task.context = some ipAddress ∨ task.context = none := by
    cases hcase : task.context with
    | none => exact .inr rfl
    | some other => exact .inl (by rw [honly other (h.context other hcase)])
  obtain ⟨lost, hlost, hproxy, htended, hcancel⟩ : ∃ lost,
      dlrContextDelete ipAddress task = ⟨lost, none⟩ ∧ lost.proxy = false ∧
        (¬ AwaitsAction lost → Tended lost) ∧ Tended (dlrTaskCancel lost) := by
    unfold dlrContextDelete
    rcases hcontext with hsome | hnone
    · rw [if_pos hsome]
      exact ⟨_, rfl, rfl, fun hkept => tended_loseProxy h.tended hkept,
        tended_cancel_loseProxy h.tended⟩
    · have hproxy : task.task.proxy = false := by
        by_contra hproxy
        exact h.proxy (by simpa using hproxy) hnone
      rw [if_neg (by simp [hnone])]
      exact ⟨task.task, by rw [← hnone], hproxy, fun _ => h.tended,
        tended_dlrTaskCancel h.tended⟩
  rw [hlost]
  have hplaced {task : DlrAsyncTask} (htended : Tended task)
      (hproxy : task.proxy = false) : Placed [] ⟨task, none⟩ :=
    ⟨htended, by simp, by simp [hproxy]⟩
  have hcancelled := hplaced hcancel (by rw [proxy_dlrTaskCancel, hproxy])
  unfold removeQueue
  cases hstage : lost.stage with
  | queued =>
      have hqueued := htended fun hawaits => by simp [hawaits.1] at hstage
      exact hplaced (tended_of_over hqueued.kind (.inr rfl) hqueued.proxy) hproxy
  | updatingProps => simpa only [hstage] using hcancelled
  | running => simpa only [hstage] using hcancelled
  | finished =>
      have hfinished := htended fun hawaits => by simp [hawaits.1] at hstage
      simpa only [hstage] using hplaced hfinished hproxy
  | deleted =>
      have hdeleted := htended fun hawaits => by simp [hawaits.1] at hstage
      simpa only [hstage] using hplaced hdeleted hproxy

theorem Placed.mono {ipAddresses others : List String} {task : DeviceTask}
    (h : Placed ipAddresses task) (hsubset : ipAddresses ⊆ others) :
    Placed others task :=
  ⟨h.tended, fun ipAddress hcontext => hsubset (h.context ipAddress hcontext),
    h.proxy⟩

theorem allPlaced_unavailable {convertUdnToPath : String → String}
    {udn ipAddress : String} {daemon : Daemon} {next : DlrUpnp}
    (h : DaemonInv udn daemon) (hloses : LosesNoAction udn ipAddress daemon)
    (hstep : upnpStep convertUdnToPath daemon.upnp
      (.unavailable udn ipAddress) = some next) :
    AllPlaced udn ⟨next, tasksAfter udn daemon.upnp daemon.tasks
      (.unavailable udn ipAddress)⟩ := by
  have hothers : ∀ other ∈ contextAddresses udn daemon.upnp,
      other ≠ ipAddress → other ∈ contextAddresses udn next := by
    intro other hother hne
    refine mem_contextAddresses_step h.apart hstep ?_ hother
    simpa [isUnavailable] using Ne.symm hne
  intro task hmem
  simp only [tasksAfter, true_and] at hmem
  split_ifs at hmem with hin hlast
  · obtain ⟨deleted, hdeleted, rfl⟩ := List.mem_map.mp hmem
    obtain ⟨old, hold, rfl⟩ := List.mem_map.mp hdeleted
    refine (placed_removeQueue (h.placed old hold) ?_).mono
      (List.nil_subset _)
    intro other hother
    by_contra hne
    have hkept := (List.mem_erase_of_ne hne).mpr hother
    simp [hlast] at hkept
  · obtain ⟨old, hold, rfl⟩ := List.mem_map.mp hmem
    exact placed_dlrContextDelete (h.placed old hold) hothers
      (hloses hlast old hold)
  · refine (h.placed task hmem).mono fun other hother => ?_
    refine hothers other hother ?_
    rintro rfl
    exact hin hother

theorem allPlaced_upnp {convertUdnToPath : String → String} {udn : String}
    {daemon : Daemon} {event : UpnpEvent} {next : DlrUpnp}
    (h : DaemonInv udn daemon) (hkeeps : KeepsActions udn daemon (.upnp event))
    (hstep : upnpStep convertUdnToPath daemon.upnp event = some next) :
    AllPlaced udn ⟨next, tasksAfter udn daemon.upnp daemon.tasks event⟩ := by
  by_cases hown : ∃ ipAddress, event = .unavailable udn ipAddress
  · obtain ⟨ipAddress, rfl⟩ := hown
    exact allPlaced_unavailable h (hkeeps rfl) hstep
  · have hother (ipAddress : String) :
        isUnavailable udn ipAddress event = false := by
      cases event with
      | unavailable lost address =>
          have hne : lost ≠ udn := fun heq => hown ⟨address, by rw [heq]⟩
          simp [isUnavailable, hne]
      | _ => rfl
    have htasks : tasksAfter udn daemon.upnp daemon.tasks event =
        daemon.tasks := by
      cases event with
      | unavailable lost address =>
          have hne : lost ≠ udn := fun heq => hown ⟨address, by rw [heq]⟩
          simp [tasksAfter, hne]
      | _ => rfl
    rw [htasks]
    intro task hmem
    exact (h.placed task hmem).mono fun ipAddress =>
      mem_contextAddresses_step h.apart hstep (hother ipAddress)

theorem daemonInv_updateTask {udn : String} {daemon next : Daemon}
    {index : Nat} {update : DeviceTask → Option DeviceTask}
    (h : DaemonInv udn daemon)
    (hupdate : ∀ task updated, daemon.tasks[index]? = some task →
      update task = some updated →
      Placed (contextAddresses udn daemon.upnp) task →
      Placed (contextAddresses udn daemon.upnp) updated)
    (hstep : daemon.updateTask index update = some next) :
    DaemonInv udn next := by
  obtain ⟨task, updated, htask, hupdated, rfl⟩ := updateTask_eq_some hstep
  have hplaced := h.placed task (List.mem_of_getElem? htask)
  exact ⟨h.apart, forall_mem_set h.placed
    (hupdate task updated htask hupdated hplaced)⟩

theorem daemonInv_step {convertUdnToPath : String → String} {udn : String}
    {daemon next : Daemon} {event : DaemonEvent} (h : DaemonInv udn daemon)
    (hkeeps : KeepsActions udn daemon event)
    (hstep : daemonStep convertUdnToPath udn daemon event = some next) :
    DaemonInv udn next := by
  cases event with
  | upnp event =>
      obtain ⟨upnp, hupnp, rfl⟩ := Option.map_eq_some_iff.mp hstep
      exact ⟨apart_upnpStep h.apart hupnp, allPlaced_upnp h hkeeps hupnp⟩
  | request interfaceName propName params type invocation =>
      obtain rfl := Option.some.inj hstep
      refine ⟨h.apart, fun task hmem => ?_⟩
      rcases List.mem_append.mp hmem with hold | hnew
      · exact h.placed task hold
      · obtain rfl := List.mem_singleton.mp hnew
        exact ⟨tended_queuedTask .., by simp, by simp [queuedTask]⟩
  | process index icon around =>
      refine daemonInv_updateTask h ?_ hstep
      intro task updated htask hupdated hplaced
      refine placed_process hplaced ?_ hupdated
      simpa [KeepsActions, processDemandAt, htask] using hkeeps
  | propsUpdated index icon =>
      refine daemonInv_updateTask h ?_ hstep
      intro task updated htask hupdated hplaced
      refine placed_propsUpdated hplaced ?_ hupdated
      intro hlive
      simpa [KeepsActions, updatedDemandAt, htask, hlive] using hkeeps
  | task index event =>
      refine daemonInv_updateTask h ?_ hstep
      intro task updated htask hupdated hplaced
      obtain ⟨hown, hstepped⟩ := Option.ite_none_right_eq_some.mp hupdated
      exact placed_ownEvent hplaced hown hstepped

/-! ## Exactness -/

theorem losesNoAction_of_step {convertUdnToPath : String → String}
    {udn ipAddress : String} {daemon next : Daemon}
    (h : DaemonInv udn daemon)
    (hstep : daemonStep convertUdnToPath udn daemon
      (.upnp (.unavailable udn ipAddress)) = some next)
    (hgood : NoneOrphaned udn next) : LosesNoAction udn ipAddress daemon := by
  intro hothers task hmem hawaits hcontext
  rw [daemonStep] at hstep
  obtain ⟨upnp, hupnp, rfl⟩ := Option.map_eq_some_iff.mp hstep
  have hin := (h.placed task hmem).context ipAddress hcontext
  have hdeleted : dlrContextDelete ipAddress task ∈
      tasksAfter udn daemon.upnp daemon.tasks (.unavailable udn ipAddress) := by
    simp only [tasksAfter, true_and, if_pos hin, if_neg hothers]
    exact List.mem_map_of_mem hmem
  refine not_noneOrphaned hdeleted ?_ hgood
  simp only [dlrContextDelete, if_pos hcontext]
  exact orphaned_loseProxy hawaits

theorem keepsActions_of_step {convertUdnToPath : String → String}
    {udn : String} {daemon next : Daemon} {event : DaemonEvent}
    (h : DaemonInv udn daemon)
    (hstep : daemonStep convertUdnToPath udn daemon event = some next)
    (hgood : NoneOrphaned udn next) : KeepsActions udn daemon event := by
  cases event with
  | upnp event =>
      cases event with
      | unavailable lost ipAddress =>
          rintro rfl
          exact losesNoAction_of_step h hstep hgood
      | _ => trivial
  | process index icon around =>
      obtain ⟨task, updated, htask, hupdated, rfl⟩ := updateTask_eq_some hstep
      have hplaced := h.placed task (List.mem_of_getElem? htask)
      obtain ⟨processed, hprocessed, rfl⟩ := Option.map_eq_some_iff.mp hupdated
      cases stepped_of_taskStep hprocessed with
      | process around hstage =>
          intro hdemand
          rw [processDemandAt, htask, Option.map_some, Option.some_inj] at hdemand
          refine not_noneOrphaned (mem_set_of_getElem? htask _) ?_ hgood
          exact orphaned_prvProcessTask hplaced.tended hstage hdemand
  | propsUpdated index icon =>
      obtain ⟨task, updated, htask, hupdated, rfl⟩ := updateTask_eq_some hstep
      have hplaced := h.placed task (List.mem_of_getElem? htask)
      obtain ⟨processed, hprocessed, rfl⟩ := Option.map_eq_some_iff.mp hupdated
      cases stepped_of_taskStep hprocessed with
      | propsUpdated device hstage =>
          intro hdemand
          rw [updatedDemandAt, htask, Option.bind_some] at hdemand
          obtain ⟨hlive, hupdated⟩ :=
            Option.ite_none_right_eq_some.mp hdemand
          refine not_noneOrphaned (mem_set_of_getElem? htask _) ?_ hgood
          exact orphaned_propsUpdated hplaced.tended hstage hlive
            (Option.some.inj hupdated)
  | _ => trivial

def AllPlain (daemon : Daemon) : Prop := ∀ task ∈ daemon.tasks, Plain task.task

theorem plain_dlrContextDelete (ipAddress : String) {task : DeviceTask}
    (h : Plain task.task) : Plain (dlrContextDelete ipAddress task).task := by
  unfold dlrContextDelete
  split_ifs
  · exact h
  · exact h

theorem plain_removeQueue {task : DeviceTask} (h : Plain task.task) :
    Plain (removeQueue task).task := by
  unfold removeQueue
  split
  · exact ⟨h.1, by simp [dlrTaskDelete]⟩
  · exact plain_dlrTaskCancel h
  · exact plain_dlrTaskCancel h
  · exact h
  · exact h

theorem plain_tasksAfter {udn : String} {daemon : Daemon} (h : AllPlain daemon)
    (event : UpnpEvent) :
    ∀ task ∈ tasksAfter udn daemon.upnp daemon.tasks event,
      Plain task.task := by
  intro task hmem
  cases event with
  | unavailable lost ipAddress =>
      simp only [tasksAfter] at hmem
      split_ifs at hmem
      · obtain ⟨deleted, hdeleted, rfl⟩ := List.mem_map.mp hmem
        obtain ⟨old, hold, rfl⟩ := List.mem_map.mp hdeleted
        exact plain_removeQueue (plain_dlrContextDelete ipAddress (h old hold))
      · obtain ⟨old, hold, rfl⟩ := List.mem_map.mp hmem
        exact plain_dlrContextDelete ipAddress (h old hold)
      · exact h task hmem
  | _ => exact h task hmem

theorem allPlain_updateTask {daemon next : Daemon} {index : Nat}
    {update : DeviceTask → Option DeviceTask} (h : AllPlain daemon)
    (hupdate : ∀ task updated, daemon.tasks[index]? = some task →
      update task = some updated → Plain task.task → Plain updated.task)
    (hstep : daemon.updateTask index update = some next) : AllPlain next := by
  obtain ⟨task, updated, htask, hupdated, rfl⟩ := updateTask_eq_some hstep
  have hplain := h task (List.mem_of_getElem? htask)
  exact forall_mem_set h (hupdate task updated htask hupdated hplain)

theorem allPlain_step {convertUdnToPath : String → String} {udn : String}
    {daemon next : Daemon} {event : DaemonEvent} (hinv : DaemonInv udn daemon)
    (h : AllPlain daemon) (hwaits : WaitsForActions udn daemon event)
    (hstep : daemonStep convertUdnToPath udn daemon event = some next) :
    AllPlain next := by
  cases event with
  | upnp event =>
      obtain ⟨upnp, hupnp, rfl⟩ := Option.map_eq_some_iff.mp hstep
      exact plain_tasksAfter h event
  | request interfaceName propName params type invocation =>
      obtain rfl := Option.some.inj hstep
      intro task hmem
      rcases List.mem_append.mp hmem with hold | hnew
      · exact h task hold
      · obtain rfl := List.mem_singleton.mp hnew
        exact ⟨rfl, by simp [queuedTask]⟩
  | process index icon around =>
      refine allPlain_updateTask h ?_ hstep
      intro task updated htask hupdated hplain
      have hplaced := hinv.placed task (List.mem_of_getElem? htask)
      obtain ⟨processed, hprocessed, rfl⟩ := Option.map_eq_some_iff.mp hupdated
      simp only [WaitsForActions, processDemandAt, htask, Option.map_some,
        ne_eq, Option.some_inj] at hwaits
      cases stepped_of_taskStep hprocessed with
      | process around hstage =>
          exact plain_prvProcessTask hplaced.tended hplain hwaits.1 hwaits.2
  | propsUpdated index icon =>
      refine allPlain_updateTask h ?_ hstep
      intro task updated htask hupdated hplain
      obtain ⟨processed, hprocessed, rfl⟩ := Option.map_eq_some_iff.mp hupdated
      cases stepped_of_taskStep hprocessed with
      | propsUpdated device hstage => exact absurd hstage hplain.2
  | task index event =>
      refine allPlain_updateTask h ?_ hstep
      intro task updated htask hupdated hplain
      obtain ⟨hown, hstepped⟩ := Option.ite_none_right_eq_some.mp hupdated
      obtain ⟨processed, hprocessed, rfl⟩ := Option.map_eq_some_iff.mp hstepped
      exact plain_of_isOwnEvent hplain hown hprocessed

theorem tasksPending_of_inv {udn : String} {daemon : Daemon}
    (hinv : DaemonInv udn daemon) (h : AllPlain daemon) :
    TasksPending udn daemon := by
  intro task hmem hunfinished
  obtain ⟨hdownload, hstage⟩ := h task hmem
  rcases noneOrphaned_of_inv hinv task hmem hunfinished with
    hpending | hicon | hupdating
  · exact hpending
  · exact absurd hdownload hicon
  · exact absurd hupdating hstage

theorem TasksPending.noneOrphaned {udn : String} {daemon : Daemon}
    (h : TasksPending udn daemon) : NoneOrphaned udn daemon :=
  fun task hmem hunfinished => .inl (h task hmem hunfinished)

theorem waitsForActions_of_step {convertUdnToPath : String → String}
    {udn : String} {daemon next : Daemon} {event : DaemonEvent}
    (h : DaemonInv udn daemon)
    (hstep : daemonStep convertUdnToPath udn daemon event = some next)
    (hgood : TasksPending udn next) : WaitsForActions udn daemon event := by
  cases event with
  | process index icon around =>
      obtain ⟨task, updated, htask, hupdated, rfl⟩ := updateTask_eq_some hstep
      have hplaced := h.placed task (List.mem_of_getElem? htask)
      obtain ⟨processed, hprocessed, rfl⟩ := Option.map_eq_some_iff.mp hupdated
      cases stepped_of_taskStep hprocessed with
      | process around hstage =>
          by_contra hbusy
          simp only [WaitsForActions, processDemandAt, htask, Option.map_some,
            ne_eq, Option.some_inj, not_and_or, not_not] at hbusy
          obtain ⟨hunfinished, hidle, haction⟩ :=
            idle_prvProcessTask
              { around with
                device := (preferredContext udn daemon.upnp).map
                  (deviceView icon) }
              hplaced.tended hstage hbusy
          have hmem := mem_set_of_getElem? htask
          rcases hgood _ (hmem _) hunfinished with hscheduled | hpending
          · simp [CompletionScheduled, hidle] at hscheduled
          · exact hpending.1 haction
  | _ => trivial

/--
No task is orphaned exactly in the runs in which no context is lost beside
others while a task waits for its action on it, and no action is begun where
the context has no proxy for it.  If nothing but actions is waited for either,
every task that is not completed has its action pending on one of the contexts
or its completion scheduled.
-/
theorem tasks_pending_iff_keepsActions (convertUdnToPath : String → String)
    (udn : String) (pushHostPort : Nat) {events : List DaemonEvent}
    {last : Daemon}
    (hrun : exec (daemonStep convertUdnToPath udn) (daemonNew pushHostPort)
      events = some last) :
    (Always (daemonStep convertUdnToPath udn) (TasksPending udn)
        (daemonNew pushHostPort) events ↔
      Meets (daemonStep convertUdnToPath udn)
        (fun daemon event => KeepsActions udn daemon event ∧
          WaitsForActions udn daemon event)
        (daemonNew pushHostPort) events) ∧
    (Always (daemonStep convertUdnToPath udn) (NoneOrphaned udn)
        (daemonNew pushHostPort) events ↔
      Meets (daemonStep convertUdnToPath udn) (KeepsActions udn)
        (daemonNew pushHostPort) events) := by
  constructor
  · refine guarded_run_always_iff
      (fun daemon => DaemonInv udn daemon ∧ AllPlain daemon)
      ?_ ?_ ?_ ⟨daemonInv_new udn pushHostPort, fun _ h => by cases h⟩ hrun
    · exact fun _ h => tasksPending_of_inv h.1 h.2
    · exact fun _ _ _ h hguard hstep =>
        ⟨daemonInv_step h.1 hguard.1 hstep,
          allPlain_step h.1 h.2 hguard.2 hstep⟩
    · exact fun _ _ _ h hstep hgood =>
        ⟨keepsActions_of_step h.1 hstep hgood.noneOrphaned,
          waitsForActions_of_step h.1 hstep hgood⟩
  · exact guarded_run_always_iff (DaemonInv udn)
      (fun _ => noneOrphaned_of_inv) (fun _ _ _ => daemonInv_step)
      (fun _ _ _ => keepsActions_of_step) (daemonInv_new udn pushHostPort) hrun

def twoContexts : List DaemonEvent :=
  let answer : TaskAnswer := ⟨none, fun _ => 1⟩
  [.upnp (.available "uuid:1" "10.0.0.1" fun _ => true),
   .upnp (.runTask "uuid:1" answer), .upnp (.runTask "uuid:1" answer),
   .upnp (.runTask "uuid:1" answer), .upnp (.chainEnd "uuid:1"),
   .upnp (.available "uuid:1" "10.0.0.2" fun _ => true)]

def requested (index : Nat) (type : DlrTaskType) (invocation : Nat) :
    List DaemonEvent :=
  [.request "" "" (.boolean false) type invocation,
   .process index ⟨none, none, false⟩ ⟨none, "", [], .ok "", true, .ok none⟩]

/-- The context that plays is lost after the reply, the other one with its task. -/
def lostAfterReply : List DaemonEvent :=
  twoContexts ++ requested 0 .play 7 ++
    [.task 0 (.reply ⟨none, none⟩ playerNew), .task 0 .runIdle,
     .upnp (.unavailable "uuid:1" "10.0.0.1")] ++ requested 1 .pause 8 ++
    [.upnp (.unavailable "uuid:1" "10.0.0.2"), .task 1 .runIdle]

theorem tasks_pending_lost_after_reply :
    (Always (daemonStep id "uuid:1") (TasksPending "uuid:1") (daemonNew 0)
        lostAfterReply) ∧
      Always (daemonStep id "uuid:1") (NoneOrphaned "uuid:1") (daemonNew 0)
        lostAfterReply := by
  have hrun : (exec (daemonStep id "uuid:1") (daemonNew 0)
      lostAfterReply).isSome := by decide +kernel
  obtain ⟨last, hexec⟩ := Option.isSome_iff_exists.mp hrun
  obtain ⟨hpending, horphaned⟩ :=
    tasks_pending_iff_keepsActions id "uuid:1" 0 hexec
  exact ⟨hpending.mpr (by decide +kernel), horphaned.mpr (by decide +kernel)⟩

def lostBeforeReply : List DaemonEvent :=
  twoContexts ++ requested 0 .play 7 ++
    [.upnp (.unavailable "uuid:1" "10.0.0.1")]

theorem play_orphaned :
    (¬ Always (daemonStep id "uuid:1") (TasksPending "uuid:1") (daemonNew 0)
        lostBeforeReply) ∧
      ¬ Always (daemonStep id "uuid:1") (NoneOrphaned "uuid:1") (daemonNew 0)
        lostBeforeReply := by
  have hrun : ((exec (daemonStep id "uuid:1") (daemonNew 0)
      lostBeforeReply).bind fun last => last.tasks[0]?).any
        fun task => decide (Orphaned task.task) := by decide +kernel
  obtain ⟨task, htask, horphaned⟩ := (Option.any_eq_true _ _).mp hrun
  obtain ⟨last, hexec, hlast⟩ := Option.bind_eq_some_iff.mp htask
  have hnone : ¬ NoneOrphaned "uuid:1" last :=
    not_noneOrphaned (List.mem_of_getElem? hlast) (of_decide_eq_true horphaned)
  have hreached {good : Daemon → Prop}
      (halways : Always (daemonStep id "uuid:1") good (daemonNew 0)
        lostBeforeReply) : good last :=
    always_iff_prefix.mp halways lostBeforeReply (List.prefix_refl _) last hexec
  exact ⟨fun h => hnone (hreached h).noneOrphaned, fun h => hnone (hreached h)⟩

end DleynaRenderer.Upnp
