import DleynaRenderer.Player.Run
import DleynaRenderer.Task.State

/-!
# Processing of tasks

What each task asks the renderer, and what its replies are turned into.  A
request that finds the properties of the device not synchronised waits in
`prv_props_update`, which runs the main loop: it is processed in two steps.
-/

namespace DleynaRenderer.Task

open DleynaRenderer.Player

/-- `DLEYNA_SERVER_INTERFACE_RENDERER_DEVICE` -/
def rendererDeviceInterface : String :=
  "com.intel.dLeynaRenderer.RendererDevice"

/-- `DLR_INTERFACE_SERVER` -/
def serverInterface : String := "org.mpris.MediaPlayer2"

/-- `DLR_INTERFACE_PLAYER` -/
def playerInterface : String := "org.mpris.MediaPlayer2.Player"

/--
What a task finds of its device: the player, the proxies of the context that is
chosen, and the icon with the address to get it from.
-/
structure DeviceView where
  player : PlayerState
  avProxy : Bool
  rcProxy : Bool
  icon : Option (List Nat × String)
  iconUrl : Option String
  validIconUrl : Bool

structure Surroundings where
  device : Option DeviceView
  version : String
  serverIds : List String
  hosted : Except GError String
  removed : Bool
  managed : Except GError (Option TaskResult)

def playerDevice (player : PlayerState) : DeviceView :=
  ⟨player, true, true, none, none, false⟩

def surroundings (device : DeviceView) : Surroundings :=
  ⟨some device, "", [], .ok "", true, .ok none⟩

/-- `failure` is the message of an action that failed. -/
structure ActionReply where
  failure : Option String
  result : Option String
  deriving DecidableEq, Repr

def DlrAsyncTask.fail (code : ErrorCode) (message : String)
    (task : DlrAsyncTask) : DlrAsyncTask :=
  { task with error := some ⟨code, message⟩ }

def entries (props : Props) : List (String × Variant) :=
  props.entries.map fun entry => (entry.1, entry.2)

def lookUpProp (player : PlayerState) (interfaceName propName : String) :
    Except GError (Option Variant) :=
  if interfaceName = rendererDeviceInterface then
    .ok (player.deviceProps.lookup propName)
  else if interfaceName = serverInterface then
    .ok (player.rootProps.lookup propName)
  else if interfaceName = playerInterface then
    .ok (player.playerProps.lookup propName)
  else if interfaceName = "" then
    .ok (((player.rootProps.lookup propName).or
      (player.playerProps.lookup propName)).or
        (player.deviceProps.lookup propName))
  else .error ⟨.unknownInterface, "Unknown Interface"⟩

def prvGetProp (player : PlayerState) (task : DlrAsyncTask) : DlrAsyncTask :=
  match lookUpProp player task.task.interfaceName task.task.propName with
  | .ok (some value) =>
      { task with
        task := { task.task with result := some (.property value) } }
  | .ok none =>
      if task.error = none then
        task.fail .unknownProperty "Property not defined for object"
      else task
  | .error error => { task with error := some error }

def prvGetProps (player : PlayerState) (task : DlrAsyncTask) : DlrAsyncTask :=
  let result (values : List (String × Variant)) : DlrAsyncTask :=
    { task with
      task := { task.task with result := some (.properties values) } }
  if task.task.interfaceName = rendererDeviceInterface then
    result (entries player.deviceProps)
  else if task.task.interfaceName = serverInterface then
    result (entries player.rootProps ++ entries player.deviceProps)
  else if task.task.interfaceName = playerInterface then
    result (entries player.playerProps)
  else if task.task.interfaceName = "" then
    result (entries player.rootProps ++ entries player.playerProps ++
      entries player.deviceProps)
  else task.fail .unknownInterface "Unknown Interface"

def beginAction (callback : ActionCallback) (task : DlrAsyncTask) :
    DlrAsyncTask :=
  { task with action := if task.proxy then some callback else none }

/-- The handler comes first, the proxy with its weak pointer second. -/
def connectAndBegin (proxy : Bool) (callback : ActionCallback)
    (task : DlrAsyncTask) : DlrAsyncTask :=
  let task := gCancellableConnect .asyncTaskCancelled task
  beginAction callback { task with proxy := proxy }

def finish (task : DlrAsyncTask) : DlrAsyncTask :=
  gCancellableDisconnect (scheduleComplete task)

def prvSimpleCallCb (reply : ActionReply) (task : DlrAsyncTask) :
    DlrAsyncTask :=
  match reply.failure with
  | none => finish task
  | some message =>
      finish (task.fail .operationFailed ("Operation failed: " ++ message))

def prvOpenUriCb (reply : ActionReply) (task : DlrAsyncTask) : DlrAsyncTask :=
  match reply.failure with
  | none =>
      if task.task.type = .openUri then beginAction .simpleCall task
      else finish task
  | some message =>
      finish (task.fail .operationFailed ("Operation failed: " ++ message))

def queryFailed (action : String) (reply : ActionReply) (task : DlrAsyncTask) :
    DlrAsyncTask :=
  task.fail .operationFailed
    (action ++ " operation failed: " ++ reply.failure.getD "Invalid result")

def ActionReply.succeeds (reply : ActionReply) : Bool :=
  reply.failure.isNone && reply.result.isSome

def prvGetPositionInfoCb (reply : ActionReply) (player : PlayerState)
    (task : DlrAsyncTask) : DlrAsyncTask :=
  if reply.succeeds then
    finish (prvGetProp (Player.prvGetPositionInfoCb reply.result player) task)
  else finish (queryFailed "GetPositionInfo" reply task)

def prvGetBytePositionInfoCb (reply : ActionReply) (player : PlayerState)
    (task : DlrAsyncTask) : DlrAsyncTask :=
  if reply.succeeds then
    finish
      (prvGetProp (Player.prvGetBytePositionInfoCb reply.result player) task)
  else finish (queryFailed "X_DLNA_GetBytePositionInfo" reply task)

def prvGetAllPositionInfoCb (reply : ActionReply) (player : PlayerState)
    (task : DlrAsyncTask) : DlrAsyncTask :=
  finish (prvGetProps
    (Player.prvGetAllPositionInfoCb task.relCnt reply.result player) task)

def prvGetAllBytePositionInfoCb (reply : ActionReply) (task : DlrAsyncTask) :
    DlrAsyncTask :=
  beginAction .getAllPositionInfo { task with relCnt := reply.result }

def positionAction (type : DlrTaskType) : String :=
  if type = .seek then "GetPositionInfo" else "X_DLNA_GetBytePositionInfo"

/-- The handler of the query stays connected for the seek. -/
def prvCompleteSeekGetPosition (reply : ActionReply) (task : DlrAsyncTask) :
    DlrAsyncTask :=
  if reply.succeeds then beginAction .simpleCall task
  else finish (queryFailed (positionAction task.task.type) reply task)

def callBack (reply : ActionReply) (player : PlayerState) :
    ActionCallback → DlrAsyncTask → DlrAsyncTask
  | .simpleCall => prvSimpleCallCb reply
  | .openUri => prvOpenUriCb reply
  | .getPositionInfo => prvGetPositionInfoCb reply player
  | .getBytePositionInfo => prvGetBytePositionInfoCb reply player
  | .getAllPositionInfo => prvGetAllPositionInfoCb reply player
  | .getAllBytePositionInfo => prvGetAllBytePositionInfoCb reply
  | .completeSeekGetPosition => prvCompleteSeekGetPosition reply

/-! ## Requests -/

def prvGetPositionInfo (device : DeviceView) (callback : ActionCallback) :
    DlrAsyncTask → DlrAsyncTask :=
  connectAndBegin device.avProxy callback

def dlrDevicePlay (device : DeviceView) : DlrAsyncTask → DlrAsyncTask :=
  connectAndBegin device.avProxy .simpleCall

/-- `Pause`, `Stop`, `Next` and `Previous` -/
def prvSimpleCommand (device : DeviceView) : DlrAsyncTask → DlrAsyncTask :=
  connectAndBegin device.avProxy .simpleCall

def isPlaying (player : PlayerState) : Bool :=
  player.playerProps.lookup "PlaybackStatus" = some (.string "Playing")

def dlrDevicePlayPause (device : DeviceView) : DlrAsyncTask → DlrAsyncTask :=
  if isPlaying device.player then prvSimpleCommand device
  else dlrDevicePlay device

def dlrDeviceOpenUri (device : DeviceView) : DlrAsyncTask → DlrAsyncTask :=
  connectAndBegin device.avProxy .openUri

/-- `dlr_device_goto_track` as well. -/
def dlrDeviceSetPosition (device : DeviceView) : DlrAsyncTask → DlrAsyncTask :=
  connectAndBegin device.avProxy .simpleCall

def dlrDeviceSeek (device : DeviceView) : DlrAsyncTask → DlrAsyncTask :=
  prvGetPositionInfo device .completeSeekGetPosition

/-- The error `prv_set_rate` leaves with the task. -/
def setRateError (player : PlayerState) (params : Option Variant) :
    Option GError :=
  match params.map (prvSetRate player) with
  | some (.error error) => some error
  | _ => none

def dlrDeviceSetProp (device : DeviceView) (task : DlrAsyncTask) :
    DlrAsyncTask :=
  if task.task.interfaceName ≠ playerInterface ∧
      task.task.interfaceName ≠ "" then
    scheduleComplete (task.fail .unknownInterface
      s!"Interface {task.task.interfaceName} not managed for property setting")
  else if task.task.propName = "Rate" then
    let task :=
      match setRateError device.player task.task.params with
      | none => task
      | some error => { task with error := some error }
    if isPlaying device.player then dlrDevicePlay device task
    else scheduleComplete task
  else if task.task.propName ≠ "Volume" ∧ task.task.propName ≠ "Mute" then
    scheduleComplete (task.fail .unknownProperty
      s!"Property {task.task.propName} not managed for setting")
  else connectAndBegin device.rcProxy .simpleCall task

def getPropSynced (player : PlayerState) (task : DlrAsyncTask) :
    DlrAsyncTask :=
  scheduleComplete (prvGetProp player task)

def dlrDeviceGetProp (device : DeviceView) (task : DlrAsyncTask) :
    DlrAsyncTask :=
  if (task.task.interfaceName = playerInterface ∨
      task.task.interfaceName = "") ∧ task.task.propName = "Position" then
    prvGetPositionInfo device .getPositionInfo task
  else if (task.task.interfaceName = playerInterface ∨
      task.task.interfaceName = "") ∧ task.task.propName = "BytePosition" then
    prvGetPositionInfo device .getBytePositionInfo task
  else if device.player.synced then getPropSynced device.player task
  else { task with stage := .updatingProps }

def getAllPropsSynced (device : DeviceView) (task : DlrAsyncTask) :
    DlrAsyncTask :=
  if task.task.interfaceName = playerInterface ∨
      task.task.interfaceName = "" then
    if device.player.canGetBytePosition then
      prvGetPositionInfo device .getAllBytePositionInfo task
    else prvGetPositionInfo device .getAllPositionInfo task
  else scheduleComplete (prvGetProps device.player task)

def dlrDeviceGetAllProps (device : DeviceView) (task : DlrAsyncTask) :
    DlrAsyncTask :=
  if device.player.synced then getAllPropsSynced device task
  else { task with stage := .updatingProps }

/-- `prv_props_update` returns, with no device when it was lost. -/
def propsUpdated (device : Option DeviceView) (task : DlrAsyncTask) :
    DlrAsyncTask :=
  let task := { task with stage := .running }
  match device with
  | none => scheduleComplete (task.fail .operationFailed "Lost Device")
  | some device =>
      if task.task.type = .getProp then getPropSynced device.player task
      else getAllPropsSynced device task

def dlrDeviceHostUri (hosted : Except GError String) (task : DlrAsyncTask) :
    DlrAsyncTask :=
  match hosted with
  | .ok url => scheduleComplete
      { task with task := { task.task with result := some (.text url) } }
  | .error error => scheduleComplete { task with error := some error }

def dlrDeviceRemoveUri (removed : Bool) (task : DlrAsyncTask) : DlrAsyncTask :=
  if removed then scheduleComplete task
  else scheduleComplete
    (task.fail .objectNotFound "File not hosted for specified device")

def prvBuildIconResult (bytes : List Nat) (mimeType : String)
    (task : DlrAsyncTask) : DlrAsyncTask :=
  { task with task := { task.task with result := some (.icon bytes mimeType) } }

def dlrDeviceGetIcon (device : DeviceView) (task : DlrAsyncTask) :
    DlrAsyncTask :=
  match device.icon, device.iconUrl with
  | some (bytes, mimeType), _ =>
      scheduleComplete (prvBuildIconResult bytes mimeType task)
  | none, none =>
      scheduleComplete (task.fail .notSupported "No icon available")
  | none, some url =>
      if device.validIconUrl then
        { gCancellableConnect .getIconCancelled task with
          download := some false }
      else scheduleComplete (task.fail .badResult s!"Invalid URL {url}")

/-- `SOUP_STATUS_CANCELLED` -/
def soupStatusCancelled : Nat := 1

def prvGetIconSessionCb (status : Nat) (bytes : List Nat) (mimeType : String)
    (task : DlrAsyncTask) : DlrAsyncTask :=
  let task := { task with download := none }
  if status = soupStatusCancelled then task
  else if 200 ≤ status ∧ status < 300 then
    finish (prvBuildIconResult bytes mimeType task)
  else finish (task.fail .operationFailed "Failed to GET device icon")

def processDeviceTask (device : DeviceView) (around : Surroundings)
    (task : DlrAsyncTask) : DlrAsyncTask :=
  match task.task.type with
  | .getProp => dlrDeviceGetProp device task
  | .getAllProps => dlrDeviceGetAllProps device task
  | .setProp => dlrDeviceSetProp device task
  | .play => dlrDevicePlay device task
  | .pause | .stop | .next | .previous => prvSimpleCommand device task
  | .playPause => dlrDevicePlayPause device task
  | .openUri | .openNextUri | .setUri => dlrDeviceOpenUri device task
  | .seek | .byteSeek => dlrDeviceSeek device task
  | .setPosition | .setBytePosition | .gotoTrack =>
      dlrDeviceSetPosition device task
  | .hostUri => dlrDeviceHostUri around.hosted task
  | .removeUri => dlrDeviceRemoveUri around.removed task
  | .getIcon => dlrDeviceGetIcon device task
  | _ => task

def processUpnpTask (around : Surroundings) (task : DlrAsyncTask) :
    DlrAsyncTask :=
  match around.device with
  | none => scheduleComplete (task.fail .objectNotFound
      "Cannot locate a device for the specified object")
  | some device => processDeviceTask device around task

def processManagerTask (around : Surroundings) (task : DlrAsyncTask) :
    DlrAsyncTask :=
  match around.managed with
  | .ok result =>
      scheduleComplete { task with task := { task.task with result := result } }
  | .error error => scheduleComplete { task with error := some error }

def prvProcessAsyncTask (around : Surroundings) (task : DlrAsyncTask) :
    DlrAsyncTask :=
  let task := { task with cancellable := some false, stage := .running }
  if task.task.type ∈
      [.managerGetProp, .managerGetAllProps, .managerSetProp] then
    processManagerTask around task
  else processUpnpTask around task

def DlrAsyncTask.completeWith (result : Option TaskResult)
    (task : DlrAsyncTask) : DlrAsyncTask :=
  dlrTaskComplete { task with task := { task.task with result := result } }

def prvProcessSyncTask (around : Surroundings) (task : DlrAsyncTask) :
    DlrAsyncTask :=
  match task.task.type with
  | .getVersion =>
      taskCompleted (task.completeWith (some (.text around.version)))
  | .getServers =>
      taskCompleted (task.completeWith (some (.objectPaths around.serverIds)))
  | .rescan => taskCompleted (dlrTaskComplete task)
  | .raise | .quit => taskCompleted
      (dlrTaskFail ⟨.notSupported, "Command not supported."⟩ task)
  | _ => task

def prvProcessTask (around : Surroundings) (task : DlrAsyncTask) :
    DlrAsyncTask :=
  if task.task.synchronous then prvProcessSyncTask around task
  else prvProcessAsyncTask around task

/-! ## The system -/

inductive TaskEvent where
  | process (around : Surroundings)
  | propsUpdated (device : Option DeviceView)
  | reply (reply : ActionReply) (player : PlayerState)
  | iconReply (status : Nat) (bytes : List Nat) (mimeType : String)
  | runIdle
  | cancel
  | proxyLost
  | delete

/--
The task processor deletes a task before it is processed or after it has
completed.  The loss of a proxy takes the action along, and a download that was
cancelled is called back as such.
-/
def taskStep (task : DlrAsyncTask) : TaskEvent → Option DlrAsyncTask
  | .process around =>
      if task.stage = .queued then some (prvProcessTask around task) else none
  | .propsUpdated device =>
      if task.stage = .updatingProps then some (propsUpdated device task)
      else none
  | .reply reply player =>
      task.action.map fun callback =>
        callBack reply player callback { task with action := none }
  | .iconReply status bytes mimeType =>
      match task.download with
      | none => none
      | some cancelled =>
          if cancelled → status = soupStatusCancelled then
            some (prvGetIconSessionCb status bytes mimeType task)
          else none
  | .runIdle =>
      if 0 < task.idleSources then
        some (dlrAsyncTaskComplete
          { task with idleSources := task.idleSources - 1 })
      else none
  | .cancel =>
      if task.stage = .deleted then none else some (dlrTaskCancel task)
  | .proxyLost => some { task with proxy := false, action := none }
  | .delete =>
      if task.stage = .queued ∨ task.stage = .finished then
        some (dlrTaskDelete task)
      else none

end DleynaRenderer.Task
