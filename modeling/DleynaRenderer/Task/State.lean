import DleynaRenderer.Player.State

/-!
# Tasks

A method call is carried out by a task, which answers the invocation of the
call.  A synchronous task is answered where it is processed.  An asynchronous
one asks the renderer first, and is completed by an idle source of the main
loop; a cancellable, to which a handler is connected while the renderer is
asked, can cut this short.
-/

namespace DleynaRenderer.Task

open DleynaRenderer.Player CString

inductive DlrTaskType where
  | getVersion
  | getServers
  | rescan
  | raise
  | quit
  | setProp
  | getAllProps
  | getProp
  | pause
  | play
  | playPause
  | stop
  | next
  | previous
  | openUri
  | openNextUri
  | setUri
  | seek
  | byteSeek
  | setPosition
  | setBytePosition
  | gotoTrack
  | hostUri
  | removeUri
  | getIcon
  | managerGetAllProps
  | managerGetProp
  | managerSetProp
  deriving DecidableEq, Repr

inductive TaskResult where
  | property (value : Variant)
  | properties (values : List (String × Variant))
  | text (s : String)
  | objectPaths (paths : List String)
  | icon (bytes : List Nat) (mimeType : String)
  deriving DecidableEq, Repr

inductive Answer where
  | empty
  | values (result : TaskResult)
  | formatted (format : String) (result : TaskResult)
  | error (error : GError)
  deriving DecidableEq, Repr

structure DlrTask where
  type : DlrTaskType
  resultFormat : Option String
  result : Option TaskResult
  invocation : Option Nat
  synchronous : Bool
  multipleRetvals : Bool
  interfaceName : String
  propName : String
  params : Option Variant
  deriving DecidableEq, Repr

inductive ActionCallback where
  | simpleCall
  | openUri
  | getPositionInfo
  | getBytePositionInfo
  | getAllPositionInfo
  | getAllBytePositionInfo
  | completeSeekGetPosition
  deriving DecidableEq, Repr

inductive CancelHandler where
  | asyncTaskCancelled
  | getIconCancelled
  deriving DecidableEq, Repr

inductive Stage where
  | queued
  | updatingProps
  | running
  | finished
  | deleted
  deriving DecidableEq, Repr

/--
A task with what waits for it outside.  `action` is the callback of the action
that the renderer has not replied to; `cancellable` and `download` tell, when
they are there, whether they were cancelled; `idleSources` counts the pending
calls of `dlr_async_task_complete` and `completions` those ever scheduled.
-/
structure DlrAsyncTask where
  task : DlrTask
  error : Option GError
  action : Option ActionCallback
  proxy : Bool
  cancellable : Option Bool
  handler : Option CancelHandler
  relCnt : Option String
  download : Option Bool
  idleSources : Nat
  completions : Nat
  replies : List (Nat × Answer)
  stage : Stage
  deriving DecidableEq, Repr

/-- `g_new0`, and the queue the task is put into. -/
def queuedTask (task : DlrTask) : DlrAsyncTask where
  task := task
  error := none
  action := none
  proxy := false
  cancellable := none
  handler := none
  relCnt := none
  download := none
  idleSources := 0
  completions := 0
  replies := []
  stage := .queued

def syncTaskNew (type : DlrTaskType) (resultFormat : Option String)
    (invocation : Nat) : DlrTask where
  type := type
  resultFormat := resultFormat
  result := none
  invocation := some invocation
  synchronous := true
  multipleRetvals := false
  interfaceName := ""
  propName := ""
  params := none

def dlrTaskRescanNew := syncTaskNew .rescan none

def dlrTaskGetVersionNew := syncTaskNew .getVersion (some "(@s)")

def dlrTaskGetServersNew := syncTaskNew .getServers (some "(@ao)")

def dlrTaskRaiseNew := syncTaskNew .raise none

def dlrTaskQuitNew := syncTaskNew .quit none

def prvDeviceTaskNew (type : DlrTaskType) (resultFormat : Option String)
    (invocation : Nat) : DlrTask :=
  { syncTaskNew type resultFormat invocation with synchronous := false }

def strip (s : String) : String := String.ofList (gStrstrip s.toList)

def propTaskNew (type : DlrTaskType) (resultFormat : Option String)
    (interfaceName propName : String) (params : Option Variant)
    (invocation : Nat) : DlrTask :=
  { prvDeviceTaskNew type resultFormat invocation with
    interfaceName := strip interfaceName
    propName := strip propName
    params := params }

def dlrTaskGetPropNew (interfaceName propName : String) :=
  propTaskNew .getProp (some "(v)") interfaceName propName none

def dlrTaskGetPropsNew (interfaceName : String) :=
  propTaskNew .getAllProps (some "(@a\x7bsv\x7d)") interfaceName "" none

def dlrTaskSetPropNew (interfaceName propName : String) (params : Variant) :=
  propTaskNew .setProp none interfaceName propName (some params)

def dlrTaskPlayNew := prvDeviceTaskNew .play none

def dlrTaskPauseNew := prvDeviceTaskNew .pause none

def dlrTaskPlayPauseNew := prvDeviceTaskNew .playPause none

def dlrTaskStopNew := prvDeviceTaskNew .stop none

def dlrTaskNextNew := prvDeviceTaskNew .next none

def dlrTaskPreviousNew := prvDeviceTaskNew .previous none

def dlrTaskSeekNew := prvDeviceTaskNew .seek none

def dlrTaskByteSeekNew := prvDeviceTaskNew .byteSeek none

def dlrTaskSetPositionNew := prvDeviceTaskNew .setPosition none

def dlrTaskSetBytePositionNew := prvDeviceTaskNew .setBytePosition none

def dlrTaskGotoTrackNew := prvDeviceTaskNew .gotoTrack none

/-- `dlr_task_open_uri_ex_new` as well. -/
def dlrTaskOpenUriNew := prvDeviceTaskNew .openUri none

def dlrTaskOpenNextUriNew := prvDeviceTaskNew .openNextUri none

def dlrTaskSetUriNew := prvDeviceTaskNew .setUri none

def dlrTaskHostUriNew := prvDeviceTaskNew .hostUri (some "(@s)")

def dlrTaskRemoveUriNew := prvDeviceTaskNew .removeUri none

def dlrTaskGetIconNew (invocation : Nat) : DlrTask :=
  { prvDeviceTaskNew .getIcon (some "(@ays)") invocation with
    multipleRetvals := true }

def dlrTaskManagerGetPropNew (interfaceName propName : String) :=
  propTaskNew .managerGetProp (some "(v)") interfaceName propName none

def dlrTaskManagerGetPropsNew (interfaceName : String) :=
  propTaskNew .managerGetAllProps (some "(@a\x7bsv\x7d)") interfaceName "" none

def dlrTaskManagerSetPropNew (interfaceName propName : String)
    (params : Variant) :=
  propTaskNew .managerSetProp none interfaceName propName (some params)

def dlrTaskNew (interfaceName propName : String) (params : Variant) :
    DlrTaskType → Nat → DlrTask
  | .getVersion => dlrTaskGetVersionNew
  | .getServers => dlrTaskGetServersNew
  | .rescan => dlrTaskRescanNew
  | .raise => dlrTaskRaiseNew
  | .quit => dlrTaskQuitNew
  | .setProp => dlrTaskSetPropNew interfaceName propName params
  | .getAllProps => dlrTaskGetPropsNew interfaceName
  | .getProp => dlrTaskGetPropNew interfaceName propName
  | .pause => dlrTaskPauseNew
  | .play => dlrTaskPlayNew
  | .playPause => dlrTaskPlayPauseNew
  | .stop => dlrTaskStopNew
  | .next => dlrTaskNextNew
  | .previous => dlrTaskPreviousNew
  | .openUri => dlrTaskOpenUriNew
  | .openNextUri => dlrTaskOpenNextUriNew
  | .setUri => dlrTaskSetUriNew
  | .seek => dlrTaskSeekNew
  | .byteSeek => dlrTaskByteSeekNew
  | .setPosition => dlrTaskSetPositionNew
  | .setBytePosition => dlrTaskSetBytePositionNew
  | .gotoTrack => dlrTaskGotoTrackNew
  | .hostUri => dlrTaskHostUriNew
  | .removeUri => dlrTaskRemoveUriNew
  | .getIcon => dlrTaskGetIconNew
  | .managerGetAllProps => dlrTaskManagerGetPropsNew interfaceName
  | .managerGetProp => dlrTaskManagerGetPropNew interfaceName propName
  | .managerSetProp => dlrTaskManagerSetPropNew interfaceName propName params

theorem dlrTaskNew_invocation (interfaceName propName : String)
    (params : Variant) (type : DlrTaskType) (invocation : Nat) :
    (dlrTaskNew interfaceName propName params type invocation).invocation =
      some invocation := by
  cases type <;> rfl

/-! ## Answers -/

/-- An invocation is forgotten when it is answered. -/
def DlrAsyncTask.answer (answer : Answer) (task : DlrAsyncTask) :
    DlrAsyncTask :=
  match task.task.invocation with
  | none => task
  | some invocation =>
      { task with
        task := { task.task with invocation := none }
        replies := task.replies ++ [(invocation, answer)] }

def DlrTask.success (task : DlrTask) : Answer :=
  match task.resultFormat, task.result with
  | some format, some result =>
      if task.multipleRetvals then .values result else .formatted format result
  | _, _ => .empty

def dlrTaskComplete (task : DlrAsyncTask) : DlrAsyncTask :=
  task.answer task.task.success

def dlrTaskFail (error : GError) (task : DlrAsyncTask) : DlrAsyncTask :=
  task.answer (.error error)

/-- `g_idle_add` of `dlr_async_task_complete` -/
def scheduleComplete (task : DlrAsyncTask) : DlrAsyncTask :=
  { task with
    idleSources := task.idleSources + 1
    completions := task.completions + 1 }

def cancelledError : GError := ⟨.cancelled, "Operation cancelled."⟩

/-- The action that is cancelled does not call back. -/
def dlrAsyncTaskCancelled (task : DlrAsyncTask) : DlrAsyncTask :=
  let task := if task.proxy then { task with action := none } else task
  let task :=
    if task.error = none then { task with error := some cancelledError }
    else task
  scheduleComplete task

def prvGetIconCancelled (task : DlrAsyncTask) : DlrAsyncTask :=
  let task := dlrAsyncTaskCancelled task
  { task with download := task.download.map fun _ => true }

def callHandler : CancelHandler → DlrAsyncTask → DlrAsyncTask
  | .asyncTaskCancelled => dlrAsyncTaskCancelled
  | .getIconCancelled => prvGetIconCancelled

/-- A handler that comes after the cancellation is called at once. -/
def gCancellableConnect (handler : CancelHandler) (task : DlrAsyncTask) :
    DlrAsyncTask :=
  if task.cancellable = some true then callHandler handler task
  else { task with handler := some handler }

def gCancellableDisconnect (task : DlrAsyncTask) : DlrAsyncTask :=
  { task with handler := none }

/-- A cancellable fires once. -/
def gCancellableCancel (task : DlrAsyncTask) : DlrAsyncTask :=
  match task.cancellable, task.handler with
  | some false, none => { task with cancellable := some true }
  | some false, some handler =>
      callHandler handler { task with cancellable := some true }
  | _, _ => task

def dlrAsyncTaskCancel : DlrAsyncTask → DlrAsyncTask := gCancellableCancel

def dlrTaskCancel (task : DlrAsyncTask) : DlrAsyncTask :=
  let task := task.answer (.error cancelledError)
  if task.task.synchronous then task else dlrAsyncTaskCancel task

def dlrTaskDelete (task : DlrAsyncTask) : DlrAsyncTask :=
  let replies :=
    match task.task.invocation with
    | none => task.replies
    | some invocation => task.replies ++
        [(invocation, .error ⟨.died, "Unable to complete command."⟩)]
  { task with replies := replies, stage := .deleted }

def taskCompleted (task : DlrAsyncTask) : DlrAsyncTask :=
  if task.stage = .deleted then task else { task with stage := .finished }

def prvAsyncTaskComplete (task : DlrAsyncTask) : DlrAsyncTask :=
  match task.error with
  | none => taskCompleted (dlrTaskComplete task)
  | some error => taskCompleted (dlrTaskFail error task)

def dlrAsyncTaskComplete : DlrAsyncTask → DlrAsyncTask := prvAsyncTaskComplete

end DleynaRenderer.Task
