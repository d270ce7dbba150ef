import DleynaRenderer.Task.Device

/-!
# Outcomes of the task functions

Each function that works on an asynchronous task schedules its completion or
begins an action.  The relations below say which, and up to what data, and what
a step can do; the invariants of the tasks are proved from them.
-/

namespace DleynaRenderer.Task

open DleynaRenderer.Player

def SameButData (task next : DlrAsyncTask) : Prop :=
  ∃ error result relCnt, next =
    { task with
      error := error
      relCnt := relCnt
      task := { task.task with result := result } }

theorem SameButData.refl (task : DlrAsyncTask) : SameButData task task :=
  ⟨_, _, _, rfl⟩

theorem SameButData.fail (code : ErrorCode) (message : String)
    (task : DlrAsyncTask) : SameButData task (task.fail code message) :=
  ⟨_, _, _, rfl⟩

theorem sameButData_prvGetProp (player : PlayerState) (task : DlrAsyncTask) :
    SameButData task (prvGetProp player task) := by
  unfold prvGetProp
  split
  · exact ⟨_, _, _, rfl⟩
  · split_ifs
    · exact .fail _ _ task
    · exact .refl task
  · exact ⟨_, _, _, rfl⟩

theorem sameButData_prvGetProps (player : PlayerState) (task : DlrAsyncTask) :
    SameButData task (prvGetProps player task) := by
  unfold prvGetProps
  split_ifs
  · exact ⟨_, _, _, rfl⟩
  · exact ⟨_, _, _, rfl⟩
  · exact ⟨_, _, _, rfl⟩
  · exact ⟨_, _, _, rfl⟩
  · exact .fail _ _ task

inductive Asked (task : DlrAsyncTask) : DlrAsyncTask → Prop where
  | scheduled {data : DlrAsyncTask} (h : SameButData task data) :
      Asked task (scheduleComplete data)
  | begun {data : DlrAsyncTask} (h : SameButData task data) (proxy : Bool)
      (callback : ActionCallback) :
      Asked task (connectAndBegin proxy callback data)

inductive Requested (task : DlrAsyncTask) : DlrAsyncTask → Prop where
  | asked {next : DlrAsyncTask} (h : Asked task next) : Requested task next
  | updating : Requested task { task with stage := .updatingProps }
  | downloading : Requested task
      { gCancellableConnect .getIconCancelled task with download := some false }
  | nothing : Requested task task

/-- What a request waits for; `proxy` tells if its action can be begun. -/
inductive Demand where
  | nothing
  | action (proxy : Bool)
  | icon
  | props
  deriving DecidableEq, Repr

def getPropDemand (device : DeviceView) (task : DlrTask) : Demand :=
  if (task.interfaceName = playerInterface ∨ task.interfaceName = "") ∧
      (task.propName = "Position" ∨ task.propName = "BytePosition") then
    .action device.avProxy
  else if device.player.synced then .nothing
  else .props

def syncedDemand (device : DeviceView) (task : DlrTask) : Demand :=
  if task.interfaceName = playerInterface ∨ task.interfaceName = "" then
    .action device.avProxy
  else .nothing

def setPropDemand (device : DeviceView) (task : DlrTask) : Demand :=
  if task.interfaceName ≠ playerInterface ∧ task.interfaceName ≠ "" then
    .nothing
  else if task.propName = "Rate" then
    if isPlaying device.player then .action device.avProxy else .nothing
  else if task.propName ≠ "Volume" ∧ task.propName ≠ "Mute" then .nothing
  else .action device.rcProxy

def getIconDemand (device : DeviceView) : Demand :=
  if device.icon = none ∧ device.iconUrl ≠ none ∧ device.validIconUrl then
    .icon
  else .nothing

def demand (device : DeviceView) (task : DlrTask) : Demand :=
  match task.type with
  | .getProp => getPropDemand device task
  | .getAllProps =>
      if device.player.synced then syncedDemand device task else .props
  | .setProp => setPropDemand device task
  | .getIcon => getIconDemand device
  | .play | .pause | .stop | .next | .previous | .playPause
  | .openUri | .openNextUri | .setUri | .seek | .byteSeek
  | .setPosition | .setBytePosition | .gotoTrack => .action device.avProxy
  | _ => .nothing

inductive Fulfils (task : DlrAsyncTask) : Demand → DlrAsyncTask → Prop where
  | scheduled {data : DlrAsyncTask} (h : SameButData task data) :
      Fulfils task .nothing (scheduleComplete data)
  | begun {data : DlrAsyncTask} (h : SameButData task data) (proxy : Bool)
      (callback : ActionCallback) :
      Fulfils task (.action proxy) (connectAndBegin proxy callback data)
  | downloading : Fulfils task .icon
      { gCancellableConnect .getIconCancelled task with download := some false }
  | updating : Fulfils task .props { task with stage := .updatingProps }

theorem Fulfils.begin (proxy : Bool) (callback : ActionCallback)
    (task : DlrAsyncTask) :
    Fulfils task (.action proxy) (connectAndBegin proxy callback task) :=
  .begun (.refl task) proxy callback

theorem Fulfils.requested {task next : DlrAsyncTask} {demand : Demand}
    (h : Fulfils task demand next) : Requested task next := by
  cases h with
  | scheduled hdata => exact .asked (.scheduled hdata)
  | begun hdata proxy callback => exact .asked (.begun hdata proxy callback)
  | downloading => exact .downloading
  | updating => exact .updating

theorem Fulfils.asked {task next : DlrAsyncTask} {demand : Demand}
    (h : Fulfils task demand next) (hicon : demand ≠ .icon)
    (hprops : demand ≠ .props) : Asked task next := by
  cases h with
  | scheduled hdata => exact .scheduled hdata
  | begun hdata proxy callback => exact .begun hdata proxy callback
  | downloading => exact absurd rfl hicon
  | updating => exact absurd rfl hprops

theorem fulfils_dlrDeviceGetProp (device : DeviceView) (task : DlrAsyncTask) :
    Fulfils task (getPropDemand device task.task)
      (dlrDeviceGetProp device task) := by
  unfold dlrDeviceGetProp getPropDemand
  by_cases hinterface : task.task.interfaceName = playerInterface ∨
      task.task.interfaceName = ""
  · by_cases hposition : task.task.propName = "Position"
    · simpa only [hinterface, hposition, true_and, true_or, if_true] using
        .begin device.avProxy .getPositionInfo task
    · by_cases hbyte : task.task.propName = "BytePosition"
      · simpa only [hinterface, hbyte, hposition, true_and, or_true, if_true,
          if_false] using .begin device.avProxy .getBytePositionInfo task
      · simp only [hinterface, hposition, hbyte, and_false, or_false, if_false]
        split_ifs
        · exact .scheduled (sameButData_prvGetProp device.player task)
        · exact .updating
  · simp only [hinterface, false_and, if_false]
    split_ifs
    · exact .scheduled (sameButData_prvGetProp device.player task)
    · exact .updating

theorem fulfils_getAllPropsSynced (device : DeviceView) (task : DlrAsyncTask) :
    Fulfils task (syncedDemand device task.task)
      (getAllPropsSynced device task) := by
  unfold getAllPropsSynced syncedDemand
  split_ifs
  · exact .begin _ _ task
  · exact .begin _ _ task
  · exact .scheduled (sameButData_prvGetProps device.player task)

theorem fulfils_dlrDeviceGetAllProps (device : DeviceView)
    (task : DlrAsyncTask) :
    Fulfils task
      (if device.player.synced then syncedDemand device task.task else .props)
      (dlrDeviceGetAllProps device task) := by
  unfold dlrDeviceGetAllProps
  split_ifs
  · exact fulfils_getAllPropsSynced device task
  · exact .updating

theorem fulfils_dlrDeviceSetProp (device : DeviceView) (task : DlrAsyncTask) :
    Fulfils task (setPropDemand device task.task)
      (dlrDeviceSetProp device task) := by
  unfold dlrDeviceSetProp setPropDemand
  split_ifs
  · exact .scheduled (.fail _ _ task)
  · cases setRateError device.player task.task.params with
    | none => exact .begin _ _ task
    | some error => exact .begun ⟨_, _, _, rfl⟩ _ _
  · cases setRateError device.player task.task.params with
    | none => exact .scheduled (.refl task)
    | some error => exact .scheduled ⟨_, _, _, rfl⟩
  · exact .scheduled (.fail _ _ task)
  · exact .begin _ _ task

theorem fulfils_dlrDeviceGetIcon (device : DeviceView) (task : DlrAsyncTask) :
    Fulfils task (getIconDemand device) (dlrDeviceGetIcon device task) := by
  unfold dlrDeviceGetIcon getIconDemand
  cases hicon : device.icon with
  | some icon => exact .scheduled ⟨_, _, _, rfl⟩
  | none =>
      cases hurl : device.iconUrl with
      | none => exact .scheduled (.fail _ _ task)
      | some url =>
          by_cases hvalid : device.validIconUrl
          · simpa [hvalid] using .downloading
          · simpa [hvalid] using .scheduled (.fail _ _ task)

theorem fulfils_dlrDevicePlayPause (device : DeviceView) (task : DlrAsyncTask) :
    Fulfils task (.action device.avProxy) (dlrDevicePlayPause device task) := by
  unfold dlrDevicePlayPause
  split_ifs
  · exact .begin _ _ task
  · exact .begin _ _ task

theorem fulfils_dlrDeviceHostUri (hosted : Except GError String)
    (task : DlrAsyncTask) :
    Fulfils task .nothing (dlrDeviceHostUri hosted task) := by
  cases hosted with
  | ok url => exact .scheduled ⟨_, _, _, rfl⟩
  | error error => exact .scheduled ⟨_, _, _, rfl⟩

theorem fulfils_dlrDeviceRemoveUri (removed : Bool) (task : DlrAsyncTask) :
    Fulfils task .nothing (dlrDeviceRemoveUri removed task) := by
  unfold dlrDeviceRemoveUri
  split_ifs
  · exact .scheduled (.refl task)
  · exact .scheduled (.fail _ _ task)

def DlrTaskType.isSynchronous : DlrTaskType → Bool
  | .getVersion | .getServers | .rescan | .raise | .quit => true
  | _ => false

def DlrTaskType.ofServer : DlrTaskType → Bool
  | .managerGetAllProps | .managerGetProp | .managerSetProp => true
  | type => type.isSynchronous

theorem fulfils_processDeviceTask (device : DeviceView)
    (around : Surroundings) {task : DlrAsyncTask}
    (htype : task.task.type.ofServer = false) :
    Fulfils task (demand device task.task)
      (processDeviceTask device around task) := by
  unfold processDeviceTask demand
  cases htask : task.task.type with
  | getProp => exact fulfils_dlrDeviceGetProp device task
  | getAllProps => exact fulfils_dlrDeviceGetAllProps device task
  | setProp => exact fulfils_dlrDeviceSetProp device task
  | playPause => exact fulfils_dlrDevicePlayPause device task
  | hostUri => exact fulfils_dlrDeviceHostUri around.hosted task
  | removeUri => exact fulfils_dlrDeviceRemoveUri around.removed task
  | getIcon => exact fulfils_dlrDeviceGetIcon device task
  | getVersion | getServers | rescan | raise | quit =>
      rw [htask] at htype
      contradiction
  | managerGetAllProps | managerGetProp | managerSetProp =>
      rw [htask] at htype
      contradiction
  | _ => exact .begin _ _ task

theorem requested_processDeviceTask (device : DeviceView)
    (around : Surroundings) (task : DlrAsyncTask) :
    Requested task (processDeviceTask device around task) := by
  cases htype : task.task.type.ofServer with
  | false => exact (fulfils_processDeviceTask device around htype).requested
  | true =>
      have hsame : processDeviceTask device around task = task := by
        unfold processDeviceTask
        cases htask : task.task.type <;> rw [htask] at htype <;>
          first | rfl | contradiction
      rw [hsame]
      exact .nothing

def started (task : DlrAsyncTask) : DlrAsyncTask :=
  { task with cancellable := some false, stage := .running }

def processDemand (device : Option DeviceView) (task : DlrTask) : Demand :=
  match device with
  | none => .nothing
  | some device => demand device task

theorem fulfils_prvProcessAsyncTask (around : Surroundings)
    {task : DlrAsyncTask} (htype : task.task.type.isSynchronous = false) :
    Fulfils (started task) (processDemand around.device task.task)
      (prvProcessAsyncTask around task) := by
  unfold prvProcessAsyncTask processManagerTask processUpnpTask processDemand
  simp only []
  split_ifs with hmanager
  · have hnothing : (match around.device with
        | none => Demand.nothing
        | some device => demand device task.task) = .nothing := by
      cases around.device with
      | none => rfl
      | some device =>
          simp only [List.mem_cons, List.not_mem_nil, or_false] at hmanager
          rcases hmanager with h | h | h <;> simp [demand, h]
    rw [hnothing]
    cases around.managed with
    | ok result => exact .scheduled ⟨_, _, _, rfl⟩
    | error error => exact .scheduled ⟨_, _, _, rfl⟩
  · cases around.device with
    | none => exact .scheduled (.fail _ _ _)
    | some device =>
        have hserver : task.task.type.ofServer = false := by
          cases hcase : task.task.type <;> rw [hcase] at htype hmanager <;>
            first | rfl | contradiction
        have hstarted : (started task).task.type.ofServer = false := hserver
        exact fulfils_processDeviceTask device around hstarted

theorem requested_prvProcessAsyncTask (around : Surroundings)
    (task : DlrAsyncTask) :
    Requested (started task) (prvProcessAsyncTask around task) := by
  unfold prvProcessAsyncTask processManagerTask processUpnpTask
  simp only []
  split_ifs
  · cases around.managed with
    | ok result => exact .asked (.scheduled ⟨_, _, _, rfl⟩)
    | error error => exact .asked (.scheduled ⟨_, _, _, rfl⟩)
  · cases around.device with
    | none => exact .asked (.scheduled (.fail _ _ _))
    | some device => exact requested_processDeviceTask device around _

def updatedDemand (device : Option DeviceView) (task : DlrTask) : Demand :=
  match device with
  | none => .nothing
  | some device =>
      if task.type = .getProp then .nothing else syncedDemand device task

theorem fulfils_propsUpdated (device : Option DeviceView)
    (task : DlrAsyncTask) :
    Fulfils { task with stage := .running } (updatedDemand device task.task)
      (propsUpdated device task) := by
  cases device with
  | none => exact .scheduled (.fail _ _ _)
  | some device =>
      unfold propsUpdated updatedDemand
      simp only []
      split_ifs
      · exact .scheduled (sameButData_prvGetProp device.player _)
      · exact fulfils_getAllPropsSynced device { task with stage := .running }

theorem asked_propsUpdated (device : Option DeviceView) (task : DlrAsyncTask) :
    Asked { task with stage := .running } (propsUpdated device task) := by
  have hasked : updatedDemand device task.task ≠ .icon ∧
      updatedDemand device task.task ≠ .props := by
    unfold updatedDemand syncedDemand
    split
    · simp
    · split_ifs <;> simp
  exact (fulfils_propsUpdated device task).asked hasked.1 hasked.2

def ActionCallback.finishes (type : DlrTaskType) (reply : ActionReply) :
    ActionCallback → Bool
  | .simpleCall => true
  | .openUri => reply.failure.isSome || decide (type ≠ .openUri)
  | .getPositionInfo => true
  | .getBytePositionInfo => true
  | .getAllPositionInfo => true
  | .getAllBytePositionInfo => false
  | .completeSeekGetPosition => !reply.succeeds

inductive Replied (task : DlrAsyncTask) : Bool → DlrAsyncTask → Prop where
  | finished {data : DlrAsyncTask} (h : SameButData task data) :
      Replied task true (finish data)
  | chained {data : DlrAsyncTask} (h : SameButData task data)
      (callback : ActionCallback) :
      Replied task false (beginAction callback data)

theorem replied_callBack (reply : ActionReply) (player : PlayerState)
    (callback : ActionCallback) (task : DlrAsyncTask) :
    Replied task (callback.finishes task.task.type reply)
      (callBack reply player callback task) := by
  have hquery (action : String) :
      Replied task true (finish (queryFailed action reply task)) :=
    .finished (.fail _ _ task)
  cases callback with
  | simpleCall =>
      simp only [callBack, prvSimpleCallCb]
      cases reply.failure with
      | none => exact .finished (.refl task)
      | some message => exact .finished (.fail _ _ task)
  | openUri =>
      simp only [callBack, prvOpenUriCb, ActionCallback.finishes]
      cases reply.failure with
      | none =>
          by_cases htype : task.task.type = .openUri
          · simpa [htype] using .chained (.refl task) .simpleCall
          · simpa [htype] using .finished (.refl task)
      | some message => exact .finished (.fail _ _ task)
  | getPositionInfo =>
      simp only [callBack, prvGetPositionInfoCb]
      split_ifs
      · exact .finished (sameButData_prvGetProp _ task)
      · exact hquery _
  | getBytePositionInfo =>
      simp only [callBack, prvGetBytePositionInfoCb]
      split_ifs
      · exact .finished (sameButData_prvGetProp _ task)
      · exact hquery _
  | getAllPositionInfo => exact .finished (sameButData_prvGetProps _ task)
  | getAllBytePositionInfo => exact .chained ⟨_, _, _, rfl⟩ .getAllPositionInfo
  | completeSeekGetPosition =>
      simp only [callBack, prvCompleteSeekGetPosition, ActionCallback.finishes]
      cases reply.succeeds with
      | true => exact .chained (.refl task) .simpleCall
      | false => exact hquery _

/-! ## Cancellation and answers -/

theorem dlrAsyncTaskCancelled_eq (task : DlrAsyncTask) :
    dlrAsyncTaskCancelled task =
      { task with
        action := if task.proxy then none else task.action
        error := some (task.error.getD cancelledError)
        idleSources := task.idleSources + 1
        completions := task.completions + 1 } := by
  unfold dlrAsyncTaskCancelled scheduleComplete
  cases hproxy : task.proxy <;> cases herror : task.error <;>
    simp [hproxy, herror]

theorem answer_eq (answer : Answer) (task : DlrAsyncTask) :
    ∃ invocation replies, task.answer answer =
      { task with
        task := { task.task with invocation := invocation }
        replies := replies } := by
  unfold DlrAsyncTask.answer
  split
  · exact ⟨_, _, rfl⟩
  · exact ⟨_, _, rfl⟩

theorem taskCompleted_eq (task : DlrAsyncTask) :
    ∃ stage, taskCompleted task = { task with stage := stage } := by
  unfold taskCompleted
  split_ifs
  · exact ⟨_, rfl⟩
  · exact ⟨_, rfl⟩

structure Steady (task next : DlrAsyncTask) : Prop where
  invocation : next.task.invocation = task.task.invocation
  replies : next.replies = task.replies
  stage : next.stage = task.stage
  cancellable : next.cancellable = task.cancellable

theorem Steady.of_sameButData {task data : DlrAsyncTask}
    (h : SameButData task data) : Steady task data := by
  obtain ⟨error, result, relCnt, rfl⟩ := h
  exact ⟨rfl, rfl, rfl, rfl⟩

theorem steady_callHandler (handler : CancelHandler) (task : DlrAsyncTask) :
    Steady task (callHandler handler task) := by
  cases handler with
  | asyncTaskCancelled =>
      rw [callHandler, dlrAsyncTaskCancelled_eq]
      exact ⟨rfl, rfl, rfl, rfl⟩
  | getIconCancelled =>
      rw [callHandler, prvGetIconCancelled, dlrAsyncTaskCancelled_eq]
      exact ⟨rfl, rfl, rfl, rfl⟩

theorem steady_gCancellableConnect (handler : CancelHandler)
    (task : DlrAsyncTask) : Steady task (gCancellableConnect handler task) := by
  unfold gCancellableConnect
  split_ifs
  · exact steady_callHandler handler task
  · exact ⟨rfl, rfl, rfl, rfl⟩

theorem steady_of_asked {task next : DlrAsyncTask} (h : Asked task next) :
    Steady task next := by
  cases h with
  | scheduled hdata =>
      obtain ⟨hinvocation, hreplies, hstage, hcancellable⟩ :=
        Steady.of_sameButData hdata
      exact ⟨hinvocation, hreplies, hstage, hcancellable⟩
  | begun hdata proxy callback =>
      obtain ⟨error, result, relCnt, rfl⟩ := hdata
      obtain ⟨hinvocation, hreplies, hstage, hcancellable⟩ :=
        steady_gCancellableConnect .asyncTaskCancelled
          { task with
            error := error
            relCnt := relCnt
            task := { task.task with result := result } }
      exact ⟨hinvocation, hreplies, hstage, hcancellable⟩

theorem steady_of_replied {task next : DlrAsyncTask} {finishes : Bool}
    (h : Replied task finishes next) : Steady task next := by
  cases h with
  | finished hdata =>
      obtain ⟨error, result, relCnt, rfl⟩ := hdata
      exact ⟨rfl, rfl, rfl, rfl⟩
  | chained hdata callback =>
      obtain ⟨error, result, relCnt, rfl⟩ := hdata
      exact ⟨rfl, rfl, rfl, rfl⟩

inductive Stepped (task : DlrAsyncTask) : TaskEvent → DlrAsyncTask → Prop where
  | process (around : Surroundings) (hstage : task.stage = .queued) :
      Stepped task (.process around) (prvProcessTask around task)
  | propsUpdated (device : Option DeviceView)
      (hstage : task.stage = .updatingProps) :
      Stepped task (.propsUpdated device) (propsUpdated device task)
  | reply (reply : ActionReply) (player : PlayerState)
      (callback : ActionCallback) (haction : task.action = some callback) :
      Stepped task (.reply reply player)
        (callBack reply player callback { task with action := none })
  | iconReply (status : Nat) (bytes : List Nat) (mimeType : String)
      {cancelled : Bool} (hdownload : task.download = some cancelled)
      (hstatus : cancelled → status = soupStatusCancelled) :
      Stepped task (.iconReply status bytes mimeType)
        (prvGetIconSessionCb status bytes mimeType task)
  | runIdle (hidle : 0 < task.idleSources) :
      Stepped task .runIdle (dlrAsyncTaskComplete
        { task with idleSources := task.idleSources - 1 })
  | cancel (hstage : task.stage ≠ .deleted) :
      Stepped task .cancel (dlrTaskCancel task)
  | proxyLost :
      Stepped task .proxyLost { task with proxy := false, action := none }
  | delete (hstage : task.stage = .queued ∨ task.stage = .finished) :
      Stepped task .delete (dlrTaskDelete task)

theorem stepped_of_taskStep {task next : DlrAsyncTask} {event : TaskEvent}
    (h : taskStep task event = some next) : Stepped task event next := by
  cases event with
  | process around =>
      obtain ⟨hstage, hnext⟩ := Option.ite_none_right_eq_some.mp h
      obtain rfl := Option.some.inj hnext
      exact .process around hstage
  | propsUpdated device =>
      obtain ⟨hstage, hnext⟩ := Option.ite_none_right_eq_some.mp h
      obtain rfl := Option.some.inj hnext
      exact .propsUpdated device hstage
  | reply reply player =>
      obtain ⟨callback, haction, rfl⟩ := Option.map_eq_some_iff.mp h
      exact .reply reply player callback haction
  | iconReply status bytes mimeType =>
      simp only [taskStep] at h
      split at h
      · contradiction
      · rename_i cancelled hdownload
        obtain ⟨hstatus, hnext⟩ := Option.ite_none_right_eq_some.mp h
        obtain rfl := Option.some.inj hnext
        exact .iconReply status bytes mimeType hdownload hstatus
  | runIdle =>
      obtain ⟨hidle, hnext⟩ := Option.ite_none_right_eq_some.mp h
      obtain rfl := Option.some.inj hnext
      exact .runIdle hidle
  | cancel =>
      obtain ⟨hstage, hnext⟩ := Option.ite_none_left_eq_some.mp h
      obtain rfl := Option.some.inj hnext
      exact .cancel hstage
  | proxyLost =>
      obtain rfl := Option.some.inj h
      exact .proxyLost
  | delete =>
      obtain ⟨hstage, hnext⟩ := Option.ite_none_right_eq_some.mp h
      obtain rfl := Option.some.inj hnext
      exact .delete hstage

end DleynaRenderer.Task
