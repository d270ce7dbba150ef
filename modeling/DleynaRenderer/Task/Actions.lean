import DleynaRenderer.Foundation.EventSystem
import DleynaRenderer.Player.OpenUri
import DleynaRenderer.Task.Outcomes
import DleynaRenderer.Task.Seek
import DleynaRenderer.Task.SetProp

/-!
# What a task says to its renderer

A conversation is a task together with the actions it has sent, with their
arguments, and the replies it has heard.  Its steps are those of the task, as
`task_conversationStep` says.
-/

namespace DleynaRenderer.Task

open DleynaRenderer.Player

/-- A value that the conversion of a double leaves undefined is `undefined`. -/
inductive Argument where
  | int (n : Int)
  | uint (n : Nat)
  | boolean (b : Bool)
  | string (s : String)
  | undefined
  deriving DecidableEq, Repr

structure UpnpAction where
  name : String
  arguments : List (String × Argument)
  deriving DecidableEq, Repr

/-- `dlr_task_open_uri_t` -/
structure DlrTaskOpenUri where
  uri : String
  metadata : Option String
  operation : String
  uriType : String
  metadataType : String
  deriving DecidableEq, Repr

/-- The union of the task, of which each type of task has one part. -/
structure TaskData where
  seek : Seek.DlrTaskSeek
  openUri : DlrTaskOpenUri
  deriving DecidableEq, Repr

/-- `heard` is the replies, each with the player it was heard in. -/
structure Conversation where
  task : DlrAsyncTask
  data : TaskData
  sent : List UpnpAction
  heard : List (ActionReply × PlayerState)

/-- The calls whose task can ask the renderer something, but for `GetIcon`. -/
inductive Call where
  | play
  | pause
  | playPause
  | stop
  | next
  | previous
  | openUri (uri : String)
  | openUriEx (uri metadata : String)
  | openNextUri (uri metadata : String)
  | setUri (uri metadata : String)
  | seek (offset : Int64)
  | byteSeek (offset : Int64)
  | setPosition (position : Int64)
  | setBytePosition (position : Int64)
  | gotoTrack (track : UInt32)
  | setProp (interfaceName propName : String) (params : Variant)
  | getProp (interfaceName propName : String)
  | getAllProps (interfaceName : String)

def prvOpenUriExGeneric (uri metadata operation uriType metadataType : String) :
    DlrTaskOpenUri :=
  ⟨strip uri, some (strip metadata), operation, uriType, metadataType⟩

def openUriData (uri : String) : DlrTaskOpenUri :=
  ⟨strip uri, none, "SetAVTransportURI", "CurrentURI", "CurrentURIMetaData"⟩

def setUriData (uri metadata : String) : DlrTaskOpenUri :=
  prvOpenUriExGeneric uri metadata "SetAVTransportURI" "CurrentURI"
    "CurrentURIMetaData"

def openNextUriData (uri metadata : String) : DlrTaskOpenUri :=
  prvOpenUriExGeneric uri metadata "SetNextAVTransportURI" "NextURI"
    "NextURIMetaData"

/-- `g_new0` -/
def noData : TaskData := ⟨⟨0, 0, 0⟩, ⟨"", none, "", "", ""⟩⟩

def Call.data : Call → TaskData
  | .openUri uri => { noData with openUri := openUriData uri }
  | .openUriEx uri metadata => { noData with openUri := setUriData uri metadata }
  | .openNextUri uri metadata =>
      { noData with openUri := openNextUriData uri metadata }
  | .setUri uri metadata => { noData with openUri := setUriData uri metadata }
  | .seek offset => { noData with seek := Seek.dlrTaskSeekNew .seek offset }
  | .byteSeek offset =>
      { noData with seek := Seek.dlrTaskSeekNew .byteSeek offset }
  | .setPosition position =>
      { noData with seek := Seek.dlrTaskSeekNew .setPosition position }
  | .setBytePosition position =>
      { noData with seek := Seek.dlrTaskSeekNew .setBytePosition position }
  | .gotoTrack track => { noData with seek := ⟨0, 0, track.toNat⟩ }
  | _ => noData

def Call.task (invocation : Nat) : Call → DlrTask
  | .play => dlrTaskPlayNew invocation
  | .pause => dlrTaskPauseNew invocation
  | .playPause => dlrTaskPlayPauseNew invocation
  | .stop => dlrTaskStopNew invocation
  | .next => dlrTaskNextNew invocation
  | .previous => dlrTaskPreviousNew invocation
  | .openUri _ => dlrTaskOpenUriNew invocation
  | .openUriEx _ _ => dlrTaskOpenUriNew invocation
  | .openNextUri _ _ => dlrTaskOpenNextUriNew invocation
  | .setUri _ _ => dlrTaskSetUriNew invocation
  | .seek _ => dlrTaskSeekNew invocation
  | .byteSeek _ => dlrTaskByteSeekNew invocation
  | .setPosition _ => dlrTaskSetPositionNew invocation
  | .setBytePosition _ => dlrTaskSetBytePositionNew invocation
  | .gotoTrack _ => dlrTaskGotoTrackNew invocation
  | .setProp interfaceName propName params =>
      dlrTaskSetPropNew interfaceName propName params invocation
  | .getProp interfaceName propName =>
      dlrTaskGetPropNew interfaceName propName invocation
  | .getAllProps interfaceName => dlrTaskGetPropsNew interfaceName invocation

def conversationNew (call : Call) (invocation : Nat) : Conversation :=
  ⟨queuedTask (call.task invocation), call.data, [], []⟩

def instanceId : String × Argument := ("InstanceID", .int 0)

def simpleAction (name : String) : UpnpAction := ⟨name, [instanceId]⟩

def playAction (speed : Argument) : UpnpAction :=
  ⟨"Play", [instanceId, ("Speed", speed)]⟩

def openUriAction (data : DlrTaskOpenUri) : UpnpAction :=
  ⟨data.operation,
    [instanceId, (data.uriType, .string data.uri),
      (data.metadataType, .string (data.metadata.getD ""))]⟩

def seekAction (seek : Seek.SeekAction) : UpnpAction :=
  ⟨"Seek",
    [instanceId, ("Unit", .string seek.unit), ("Target", .string seek.target)]⟩

def controlAction : ControlAction → UpnpAction
  | .setVolume desiredVolume =>
      ⟨"SetVolume",
        [instanceId, ("Channel", .string "Master"),
          ("DesiredVolume", (desiredVolume.map .uint).getD .undefined)]⟩
  | .setMute desiredMute =>
      ⟨"SetMute",
        [instanceId, ("Channel", .string "Master"),
          ("DesiredMute", .boolean desiredMute)]⟩
  | .play speed => playAction (.string speed)

/-- The rate that `prv_set_rate` leaves, which may be read outside its table. -/
def rateSent (player : PlayerState) (params : Option Variant) : Argument :=
  match params.map (prvSetRate player) with
  | some (.ok player) => .string player.rate
  | some .outOfRange => .undefined
  | _ => .string player.rate

def controlSent (player : PlayerState) (task : DlrTask) : ControlAction :=
  rcAction player task.propName (task.params.getD (.other ""))

def seekSent (type : DlrTaskType) (seek : Seek.DlrTaskSeek) :
    Seek.SeekAction :=
  if type = .seek then Seek.prvDeviceSeekSetPosition "REL_TIME" seek
  else Seek.prvDeviceSeekSetPosition "X_DLNA_REL_BYTE" seek

/-! ## Requests and replies -/

namespace Conversation

def silently (function : DlrAsyncTask → DlrAsyncTask) (c : Conversation) :
    Conversation :=
  { c with task := function c.task }

def beginAction (action : UpnpAction) (callback : ActionCallback)
    (c : Conversation) : Conversation :=
  { c with
    task := Task.beginAction callback c.task
    sent := if c.task.proxy then c.sent ++ [action] else c.sent }

def connectAndBegin (proxy : Bool) (action : UpnpAction)
    (callback : ActionCallback) (c : Conversation) : Conversation :=
  let task := gCancellableConnect .asyncTaskCancelled c.task
  beginAction action callback { c with task := { task with proxy := proxy } }

def playAt (device : DeviceView) (speed : Argument) :
    Conversation → Conversation :=
  connectAndBegin device.avProxy (playAction speed) .simpleCall

def dlrDevicePlay (device : DeviceView) : Conversation → Conversation :=
  playAt device (.string device.player.rate)

def prvSimpleCommand (device : DeviceView) (commandName : String) :
    Conversation → Conversation :=
  connectAndBegin device.avProxy (simpleAction commandName) .simpleCall

def dlrDevicePlayPause (device : DeviceView) : Conversation → Conversation :=
  if isPlaying device.player then prvSimpleCommand device "Pause"
  else dlrDevicePlay device

def dlrDeviceOpenUri (device : DeviceView) (c : Conversation) : Conversation :=
  connectAndBegin device.avProxy (openUriAction c.data.openUri) .openUri c

def dlrDeviceSetPosition (device : DeviceView) (c : Conversation) :
    Conversation :=
  connectAndBegin device.avProxy
    (seekAction (Seek.dlrDeviceSetPosition c.task.task.type c.data.seek))
    .simpleCall c

def dlrDeviceGotoTrack (device : DeviceView) (c : Conversation) :
    Conversation :=
  connectAndBegin device.avProxy
    (seekAction (Seek.prvDeviceSetPosition "TRACK_NR" c.data.seek))
    .simpleCall c

def prvGetPositionInfo (device : DeviceView) (actionName : String)
    (callback : ActionCallback) : Conversation → Conversation :=
  connectAndBegin device.avProxy (simpleAction actionName) callback

def dlrDeviceSeek (device : DeviceView) (c : Conversation) : Conversation :=
  prvGetPositionInfo device (positionAction c.task.task.type)
    .completeSeekGetPosition c

def dlrDeviceSetProp (device : DeviceView) (c : Conversation) :
    Conversation :=
  let task := c.task.task
  if task.interfaceName ≠ playerInterface ∧ task.interfaceName ≠ "" then
    c.silently (Task.dlrDeviceSetProp device)
  else if task.propName = "Rate" then
    if isPlaying device.player then
      playAt device (rateSent device.player task.params)
        (c.silently fun asyncTask => asyncTask.recordError
          (setRateError device.player task.params))
    else c.silently (Task.dlrDeviceSetProp device)
  else if task.propName ≠ "Volume" ∧ task.propName ≠ "Mute" then
    c.silently (Task.dlrDeviceSetProp device)
  else
    connectAndBegin device.rcProxy
      (controlAction (controlSent device.player task)) .simpleCall c

def dlrDeviceGetProp (device : DeviceView) (c : Conversation) :
    Conversation :=
  let task := c.task.task
  if (task.interfaceName = playerInterface ∨ task.interfaceName = "") ∧
      task.propName = "Position" then
    prvGetPositionInfo device "GetPositionInfo" .getPositionInfo c
  else if (task.interfaceName = playerInterface ∨ task.interfaceName = "") ∧
      task.propName = "BytePosition" then
    prvGetPositionInfo device "X_DLNA_GetBytePositionInfo" .getBytePositionInfo c
  else c.silently (Task.dlrDeviceGetProp device)

def getAllPropsSynced (device : DeviceView) (c : Conversation) :
    Conversation :=
  let task := c.task.task
  if task.interfaceName = playerInterface ∨ task.interfaceName = "" then
    if device.player.canGetBytePosition then
      prvGetPositionInfo device "X_DLNA_GetBytePositionInfo"
        .getAllBytePositionInfo c
    else prvGetPositionInfo device "GetPositionInfo" .getAllPositionInfo c
  else c.silently (Task.getAllPropsSynced device)

def dlrDeviceGetAllProps (device : DeviceView) (c : Conversation) :
    Conversation :=
  if device.player.synced then getAllPropsSynced device c
  else c.silently (Task.dlrDeviceGetAllProps device)

def propsUpdated (device : Option DeviceView) (c : Conversation) :
    Conversation :=
  match device with
  | none => c.silently (Task.propsUpdated none)
  | some device =>
      if c.task.task.type = .getProp then
        c.silently (Task.propsUpdated (some device))
      else
        getAllPropsSynced device
          (c.silently fun task => { task with stage := .running })

/-- The speeds are reset before the speed to play at is read. -/
def prvOpenUriCb (reply : ActionReply) (player : PlayerState)
    (c : Conversation) : Conversation :=
  match reply.failure with
  | none =>
      let player := prvResetTransportSpeedProps player
      if c.task.task.type = .openUri then
        c.beginAction (playAction (.string player.rate)) .simpleCall
      else c.silently finish
  | some _ => c.silently (Task.prvOpenUriCb reply)

def prvGetAllBytePositionInfoCb (reply : ActionReply) (c : Conversation) :
    Conversation :=
  beginAction (simpleAction "GetPositionInfo") .getAllPositionInfo
    (c.silently fun task => { task with relCnt := reply.result })

def prvCompleteSeekGetPosition (reply : ActionReply) (c : Conversation) :
    Conversation :=
  match reply.failure, reply.result with
  | none, some result =>
      let type := c.task.task.type
      let seek := Seek.addPosition type result c.data.seek
      beginAction (seekAction (seekSent type seek)) .simpleCall
        { c with data := { c.data with seek := seek } }
  | _, _ => c.silently (Task.prvCompleteSeekGetPosition reply)

def callBack (reply : ActionReply) (player : PlayerState) :
    ActionCallback → Conversation → Conversation
  | .openUri => prvOpenUriCb reply player
  | .getAllBytePositionInfo => prvGetAllBytePositionInfoCb reply
  | .completeSeekGetPosition => prvCompleteSeekGetPosition reply
  | callback => silently (Task.callBack reply player callback)

def processDeviceTask (device : DeviceView) (around : Surroundings)
    (c : Conversation) : Conversation :=
  match c.task.task.type with
  | .getProp => dlrDeviceGetProp device c
  | .getAllProps => dlrDeviceGetAllProps device c
  | .setProp => dlrDeviceSetProp device c
  | .play => dlrDevicePlay device c
  | .pause => prvSimpleCommand device "Pause" c
  | .stop => prvSimpleCommand device "Stop" c
  | .next => prvSimpleCommand device "Next" c
  | .previous => prvSimpleCommand device "Previous" c
  | .playPause => dlrDevicePlayPause device c
  | .openUri | .openNextUri | .setUri => dlrDeviceOpenUri device c
  | .seek | .byteSeek => dlrDeviceSeek device c
  | .setPosition | .setBytePosition => dlrDeviceSetPosition device c
  | .gotoTrack => dlrDeviceGotoTrack device c
  | _ => c.silently (Task.processDeviceTask device around)

def prvProcessTask (around : Surroundings) (c : Conversation) :
    Conversation :=
  if c.task.task.type.ofServer || c.task.task.synchronous then
    c.silently (Task.prvProcessTask around)
  else
    match around.device with
    | none => c.silently (Task.prvProcessTask around)
    | some device => processDeviceTask device around (c.silently started)

end Conversation

/-! ## The system -/

def conversationStep (c : Conversation) : TaskEvent → Option Conversation
  | .process around =>
      if c.task.stage = .queued then some (c.prvProcessTask around) else none
  | .propsUpdated device =>
      if c.task.stage = .updatingProps then some (c.propsUpdated device)
      else none
  | .reply reply player =>
      c.task.action.map fun callback => Conversation.callBack reply player
        callback { c with
          task := { c.task with action := none }
          heard := c.heard ++ [(reply, player)] }
  | event => (taskStep c.task event).map fun task => { c with task := task }

namespace Conversation

@[simp] theorem task_silently (function : DlrAsyncTask → DlrAsyncTask)
    (c : Conversation) : (c.silently function).task = function c.task := rfl

theorem task_dlrDeviceSetProp (device : DeviceView) (c : Conversation) :
    (dlrDeviceSetProp device c).task =
      Task.dlrDeviceSetProp device c.task := by
  unfold dlrDeviceSetProp
  simp only []
  split_ifs with hinterface hrate hplaying hprop
  · rfl
  · simp only [Task.dlrDeviceSetProp, if_neg hinterface, if_pos hrate,
      if_pos hplaying]
    cases setRateError device.player c.task.task.params <;> rfl
  · rfl
  · rfl
  · simp only [Task.dlrDeviceSetProp, if_neg hinterface, if_neg hrate,
      if_neg hprop]
    rfl

theorem task_getAllPropsSynced (device : DeviceView) (c : Conversation) :
    (getAllPropsSynced device c).task =
      Task.getAllPropsSynced device c.task := by
  unfold getAllPropsSynced
  simp only []
  split_ifs with hinterface hbyte
  · simp only [Task.getAllPropsSynced, if_pos hinterface, if_pos hbyte]
    rfl
  · simp only [Task.getAllPropsSynced, if_pos hinterface, if_neg hbyte]
    rfl
  · rfl

theorem task_dlrDeviceGetProp (device : DeviceView) (c : Conversation) :
    (dlrDeviceGetProp device c).task =
      Task.dlrDeviceGetProp device c.task := by
  unfold dlrDeviceGetProp
  simp only []
  split_ifs with hposition hbyte
  · simp only [Task.dlrDeviceGetProp, if_pos hposition]
    rfl
  · simp only [Task.dlrDeviceGetProp, if_neg hposition, if_pos hbyte]
    rfl
  · rfl

theorem task_processDeviceTask (device : DeviceView) (around : Surroundings)
    (c : Conversation) :
    (processDeviceTask device around c).task =
      Task.processDeviceTask device around c.task := by
  unfold processDeviceTask
  cases htype : c.task.task.type <;> simp only [Task.processDeviceTask, htype]
  case getProp => exact task_dlrDeviceGetProp device c
  case setProp => exact task_dlrDeviceSetProp device c
  case getAllProps =>
    unfold dlrDeviceGetAllProps
    split_ifs with hsynced
    · rw [task_getAllPropsSynced, Task.dlrDeviceGetAllProps, if_pos hsynced]
    · rfl
  case playPause =>
    unfold dlrDevicePlayPause Task.dlrDevicePlayPause
    split_ifs <;> rfl
  all_goals first | rfl | simp [Task.processDeviceTask, htype]

theorem task_callBack (reply : ActionReply) (player : PlayerState)
    (callback : ActionCallback) (c : Conversation) :
    (callBack reply player callback c).task =
      Task.callBack reply player callback c.task := by
  cases callback with
  | openUri =>
      simp only [callBack, Task.callBack, prvOpenUriCb]
      cases hfailure : reply.failure with
      | none =>
          simp only [Task.prvOpenUriCb, hfailure]
          split_ifs <;> rfl
      | some message => rfl
  | completeSeekGetPosition =>
      simp only [callBack, Task.callBack, prvCompleteSeekGetPosition]
      obtain ⟨_ | message, _ | result⟩ := reply
      · rfl
      · rfl
      · rfl
      · rfl
  | _ => rfl

theorem task_propsUpdated (device : Option DeviceView) (c : Conversation) :
    (propsUpdated device c).task = Task.propsUpdated device c.task := by
  cases device with
  | none => rfl
  | some device =>
      simp only [propsUpdated]
      split_ifs with htype
      · rfl
      · rw [task_getAllPropsSynced]
        simp [Task.propsUpdated, htype]

theorem task_prvProcessTask (around : Surroundings) (c : Conversation) :
    (prvProcessTask around c).task = Task.prvProcessTask around c.task := by
  unfold prvProcessTask
  split_ifs with hserver
  · rfl
  · simp only [Bool.or_eq_true, not_or, Bool.not_eq_true] at hserver
    have hmanager : c.task.task.type ∉
        [DlrTaskType.managerGetProp, .managerGetAllProps, .managerSetProp] := by
      intro hmem
      simp only [List.mem_cons, List.not_mem_nil, or_false] at hmem
      rcases hmem with h | h | h <;> simp [h, DlrTaskType.ofServer] at hserver
    cases hdevice : around.device with
    | none => rfl
    | some device =>
        simp only [task_processDeviceTask, Task.prvProcessTask, hserver.2,
          Bool.false_eq_true, if_false, prvProcessAsyncTask, if_neg hmanager,
          processUpnpTask, hdevice]
        rfl

end Conversation

/-- A conversation takes the steps of its task. -/
theorem task_conversationStep (c : Conversation) (event : TaskEvent) :
    (conversationStep c event).map Conversation.task =
      taskStep c.task event := by
  cases event with
  | process around =>
      simp only [conversationStep, taskStep]
      split_ifs
      · simp [Conversation.task_prvProcessTask]
      · rfl
  | propsUpdated device =>
      simp only [conversationStep, taskStep]
      split_ifs
      · simp [Conversation.task_propsUpdated]
      · rfl
  | reply reply player =>
      simp only [conversationStep, taskStep, Option.map_map]
      congr 1
      funext callback
      exact Conversation.task_callBack reply player callback _
  | _ =>
      simp only [conversationStep, Option.map_map]
      exact congrFun Option.map_id _

def Seek.Request.call : Seek.Request → Call
  | .seek offset _ => .seek offset
  | .byteSeek offset _ => .byteSeek offset
  | .setPosition position => .setPosition position
  | .setBytePosition position => .setBytePosition position

def Seek.Request.query : Seek.Request → Option (UpnpAction × String)
  | .seek _ relTime => some (simpleAction "GetPositionInfo", relTime)
  | .byteSeek _ relByte =>
      some (simpleAction "X_DLNA_GetBytePositionInfo", relByte)
  | .setPosition _ | .setBytePosition _ => none

theorem sent_prvCompleteSeekGetPosition {c : Conversation}
    (hproxy : c.task.proxy = true) (reply : ActionReply) :
    (c.prvCompleteSeekGetPosition reply).sent =
      c.sent ++ ((Seek.prvCompleteSeekGetPosition c.task.task.type reply
        c.data.seek).map seekAction).toList := by
  obtain ⟨_ | message, _ | result⟩ := reply
  case none.some =>
    simp only [Conversation.prvCompleteSeekGetPosition,
      Conversation.beginAction, hproxy, if_true,
      Seek.prvCompleteSeekGetPosition, seekSent]
    split <;> rfl
  all_goals exact (List.append_nil _).symm

section Sent

variable {invocation : Nat} {around : Surroundings} {device : DeviceView}
  (hdevice : around.device = some device) (hproxy : device.avProxy = true)

include hdevice

theorem conversationStep_process_call (call : Call)
    (hdevices : (call.task invocation).type.ofServer = false ∧
      (call.task invocation).synchronous = false) :
    conversationStep (conversationNew call invocation) (.process around) =
      some (Conversation.processDeviceTask device around
        ((conversationNew call invocation).silently started)) := by
  have hconversation : (conversationNew call invocation).task.task =
      call.task invocation := rfl
  simp [conversationStep, Conversation.prvProcessTask, hconversation, hdevices,
    hdevice]
  rfl

include hproxy

/-- The call of a request sends its query, and its action when that is answered. -/
theorem sent_request {request : Seek.Request} {player : PlayerState}
    {c : Conversation}
    (hrun : EventSystem.exec conversationStep
      (conversationNew request.call invocation)
      (.process around :: request.query.toList.map fun query =>
        .reply ⟨none, some query.2⟩ player) = some c) :
    c.sent = request.query.toList.map Prod.fst ++
      (request.action.map seekAction).toList := by
  have hdevices : (request.call.task invocation).type.ofServer = false ∧
      (request.call.task invocation).synchronous = false := by
    cases request <;> exact ⟨rfl, rfl⟩
  have hopened := conversationStep_process_call hdevice request.call hdevices
  simp only [EventSystem.exec, hopened, Option.bind_some] at hrun
  have hbegun (action : UpnpAction) (callback : ActionCallback)
      (c : Conversation) :
      Conversation.connectAndBegin device.avProxy action callback c =
        { c with
          task := { gCancellableConnect .asyncTaskCancelled c.task with
            proxy := true
            action := some callback }
          sent := c.sent ++ [action] } := by
    rw [hproxy]
    rfl
  have hasked {action : UpnpAction} {reply : ActionReply}
      (hreplied : conversationStep (Conversation.connectAndBegin device.avProxy
        action .completeSeekGetPosition
          ((conversationNew request.call invocation).silently started))
        (.reply reply player) = some c) :
      c.sent = [action] ++ ((Seek.prvCompleteSeekGetPosition
        (request.call.task invocation).type reply request.call.data.seek).map
          seekAction).toList := by
    rw [hbegun] at hreplied
    obtain rfl := Option.some.inj hreplied
    exact sent_prvCompleteSeekGetPosition rfl reply
  cases request with
  | setPosition position =>
      obtain rfl := Option.some.inj hrun
      exact congrArg Conversation.sent (hbegun _ _ _)
  | setBytePosition position =>
      obtain rfl := Option.some.inj hrun
      exact congrArg Conversation.sent (hbegun _ _ _)
  | seek offset relTime => exact hasked ((Option.bind_fun_some _).symm.trans hrun)
  | byteSeek offset relByte =>
      exact hasked ((Option.bind_fun_some _).symm.trans hrun)

end Sent

end DleynaRenderer.Task
