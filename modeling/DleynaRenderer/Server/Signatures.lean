import DleynaRenderer.Foundation.EventSystem
import DleynaRenderer.Manager.SetProp
import DleynaRenderer.Server.Dispatch
import DleynaRenderer.Task.Outcomes

/-!
# The signatures of the methods

The introspection texts say what the arguments of each method are.  The
functions that make the tasks read the arguments by a format of their own, and
a reply is built by the format that the task keeps.  They agree: whatever
happens to a task, the reply to a call is an error or has the declared types.
-/

namespace DleynaRenderer.Server

open DleynaRenderer.Task EventSystem
open DleynaRenderer.Player (PlayerState Variant)
open DleynaRenderer.Manager (ManagerState dlrManagerGetProp
  dlrManagerGetAllProps dlrManagerSetProp)

structure DeclaredMethod where
  name : String
  inArgs : List String
  outArgs : List String
  deriving DecidableEq, Repr

inductive Interface where
  | manager
  | managerProperties
  | device (interface : DeviceInterface)
  deriving DecidableEq, Repr

def propertiesDeclared : List DeclaredMethod :=
  [⟨"Get", ["s", "s"], ["v"]⟩, ⟨"GetAll", ["s"], ["a\x7bsv\x7d"]⟩,
   ⟨"Set", ["s", "s", "v"], []⟩]

/-- `g_root_introspection` and `g_server_introspection` -/
def declaredMethods : Interface → List DeclaredMethod
  | .manager =>
      [⟨"GetVersion", [], ["s"]⟩, ⟨"Release", [], []⟩,
       ⟨"GetRenderers", [], ["ao"]⟩, ⟨"Rescan", [], []⟩]
  | .managerProperties => propertiesDeclared
  | .device .properties => propertiesDeclared
  | .device .server => [⟨"Raise", [], []⟩, ⟨"Quit", [], []⟩]
  | .device .player =>
      [⟨"Play", [], []⟩, ⟨"Pause", [], []⟩, ⟨"PlayPause", [], []⟩,
       ⟨"Stop", [], []⟩, ⟨"Next", [], []⟩, ⟨"Previous", [], []⟩,
       ⟨"OpenUri", ["s"], []⟩, ⟨"OpenUriEx", ["s", "s"], []⟩,
       ⟨"OpenNextUri", ["s", "s"], []⟩, ⟨"SetUri", ["s", "s"], []⟩,
       ⟨"Seek", ["x"], []⟩, ⟨"ByteSeek", ["x"], []⟩,
       ⟨"SetPosition", ["o", "x"], []⟩, ⟨"SetBytePosition", ["o", "x"], []⟩,
       ⟨"GotoTrack", ["u"], []⟩]
  | .device .pushHost => [⟨"HostFile", ["s"], ["s"]⟩, ⟨"RemoveFile", ["s"], []⟩]
  | .device .rendererDevice =>
      [⟨"Cancel", [], []⟩, ⟨"GetIcon", ["s", "s"], ["ay", "s"]⟩]

/-- The types are those of the format in which the arguments are read. -/
structure TaskMethod where
  method : String
  type : DlrTaskType
  reads : List String
  deriving DecidableEq, Repr

def taskMethods : Interface → List TaskMethod
  | .manager =>
      [⟨"GetVersion", .getVersion, []⟩, ⟨"GetRenderers", .getServers, []⟩,
       ⟨"Rescan", .rescan, []⟩]
  | .managerProperties =>
      [⟨"GetAll", .managerGetAllProps, ["s"]⟩,
       ⟨"Get", .managerGetProp, ["s", "s"]⟩,
       ⟨"Set", .managerSetProp, ["s", "s", "v"]⟩]
  | .device .properties =>
      [⟨"GetAll", .getAllProps, ["s"]⟩, ⟨"Get", .getProp, ["s", "s"]⟩,
       ⟨"Set", .setProp, ["s", "s", "v"]⟩]
  | .device .server => [⟨"Raise", .raise, []⟩, ⟨"Quit", .quit, []⟩]
  | .device .player =>
      [⟨"Play", .play, []⟩, ⟨"Pause", .pause, []⟩, ⟨"PlayPause", .playPause, []⟩,
       ⟨"Stop", .stop, []⟩, ⟨"Next", .next, []⟩, ⟨"Previous", .previous, []⟩,
       ⟨"OpenUri", .openUri, ["s"]⟩, ⟨"OpenUriEx", .openUri, ["s", "s"]⟩,
       ⟨"OpenNextUri", .openNextUri, ["s", "s"]⟩,
       ⟨"SetUri", .setUri, ["s", "s"]⟩, ⟨"Seek", .seek, ["x"]⟩,
       ⟨"ByteSeek", .byteSeek, ["x"]⟩, ⟨"SetPosition", .setPosition, ["o", "x"]⟩,
       ⟨"SetBytePosition", .setBytePosition, ["o", "x"]⟩,
       ⟨"GotoTrack", .gotoTrack, ["u"]⟩]
  | .device .pushHost =>
      [⟨"HostFile", .hostUri, ["s"]⟩, ⟨"RemoveFile", .removeUri, ["s"]⟩]
  | .device .rendererDevice => [⟨"GetIcon", .getIcon, ["s", "s"]⟩]

def answeredDirectly : Interface → List String
  | .manager => ["Release"]
  | .device .rendererDevice => ["Cancel"]
  | _ => []

def dispatched : Interface → List String
  | .manager => managerMethods
  | .managerProperties => propsMethods
  | .device .properties => propsMethods
  | .device .server => serverMethods
  | .device .player => playerMethods
  | .device .pushHost => pushHostMethods
  | .device .rendererDevice => ["GetIcon"]

theorem taskMethods_dispatched (interface : Interface) :
    (taskMethods interface).map TaskMethod.method = dispatched interface := by
  cases interface with
  | manager => rfl
  | managerProperties => rfl
  | device interface => cases interface <;> rfl

def methodCall {κ : Type} (connector : Connector κ) :
    Interface → String → String → String → Nat → DlrContext κ → DlrContext κ
  | .manager => fun sender _ method =>
      prvManagerRootMethodCall connector sender method
  | .managerProperties => fun sender object method _ =>
      prvManagerPropsMethodCall connector sender object method
  | .device interface => serverVtables connector interface

def ObjectFound {κ : Type} (context : DlrContext κ) (object : String) :
    Interface → Prop
  | .device _ => ∃ deviceId, prvGetDeviceId object context.upnp = .ok deviceId
  | _ => True

/-- The call is answered with success before the function returns. -/
def AnsweredAtOnce (interface : Interface) (method : String) : Prop :=
  ∀ {κ : Type} (connector : Connector κ) (sender object : String)
    (invocation : Nat) (context : DlrContext κ),
    ObjectFound context object interface →
      let next := methodCall connector interface sender object method
        invocation context
      next.replies = context.replies ++ [(invocation, .ok ())] ∧
        ∀ source sink, next.calls.count (.addTask source sink) =
          context.calls.count (.addTask source sink)

def QueuesTask (interface : Interface) (method : String) : Prop :=
  ∀ {κ : Type} (connector : Connector κ) (sender object : String)
    (invocation : Nat) (context : DlrContext κ),
    ObjectFound context object interface →
      let next := methodCall connector interface sender object method
        invocation context
      next.replies = context.replies ∧
        ∃ sink, next.calls = context.calls ++ [.addTask sender sink]

section Calls

variable {κ : Type}

theorem prvRemoveClient_asks (name : String) (context : DlrContext κ) :
    (prvRemoveClient name context).replies = context.replies ∧
      ∀ source sink, (prvRemoveClient name context).calls.count
        (.addTask source sink) = context.calls.count (.addTask source sink) := by
  unfold prvRemoveClient
  simp only []
  split_ifs
  all_goals exact ⟨rfl, fun source sink => by simp [DlrContext.call]⟩

theorem answeredAtOnce_of_mem {interface : Interface} {method : String}
    (h : method ∈ answeredDirectly interface) :
    AnsweredAtOnce interface method := by
  intro κ connector sender object invocation context hfound
  cases interface with
  | manager =>
      obtain rfl := List.mem_singleton.mp h
      have hremoved := prvRemoveClient_asks sender { context with
        connector := connector.unwatchClient sender context.connector }
      refine ⟨?_, hremoved.2⟩
      exact congrArg (· ++ [(invocation, .ok ())]) hremoved.1
  | managerProperties => contradiction
  | device interface =>
      cases interface with
      | rendererDevice =>
          obtain rfl := List.mem_singleton.mp h
          obtain ⟨deviceId, hdevice⟩ := hfound
          simp [methodCall, serverVtables, prvRendererDeviceMethodCall, hdevice,
            DlrContext.reply, DlrContext.call]
      | _ => contradiction

theorem taskMethodCall_queues (connector : Connector κ) {methods : List String}
    {object method : String} (hmethod : method ∈ methods)
    {context : DlrContext κ} {deviceId : String}
    (hdevice : prvGetDeviceId object context.upnp = .ok deviceId)
    (sender : String) (invocation : Nat) :
    taskMethodCall connector methods sender object method invocation context =
      prvAddTask connector sender deviceId context := by
  simp [taskMethodCall, hdevice, hmethod]

theorem queuesTask_of_mem {interface : Interface} {method : String}
    (h : method ∈ dispatched interface) : QueuesTask interface method := by
  intro κ connector sender object invocation context hfound
  cases interface with
  | manager =>
      have hother : method ≠ "Release" := by
        rintro rfl
        exact absurd h (by decide)
      have hmethod : method ∈ managerMethods := h
      simp [methodCall, prvManagerRootMethodCall, hother, hmethod, prvAddTask]
  | managerProperties =>
      have hmethod : method ∈ propsMethods := h
      simp [methodCall, prvManagerPropsMethodCall, hmethod, prvAddTask]
  | device interface =>
      obtain ⟨deviceId, hdevice⟩ := hfound
      have hqueued : methodCall connector (.device interface) sender object
          method invocation context =
            prvAddTask connector sender deviceId context := by
        cases interface with
        | rendererDevice =>
            obtain rfl := List.mem_singleton.mp h
            simp [methodCall, serverVtables, prvRendererDeviceMethodCall,
              hdevice]
        | _ => exact taskMethodCall_queues connector h hdevice sender invocation
      rw [hqueued]
      exact ⟨rfl, deviceId, rfl⟩

end Calls

/-! ## The types of a reply -/

def resultType : TaskResult → String
  | .property value => value.typeString
  | .properties _ => "a\x7bsv\x7d"
  | .text _ => "s"
  | .objectPaths _ => "ao"
  | .icon _ _ => "(ays)"

def answerTypes : Answer → Option (List String)
  | .empty => some []
  | .values (.icon _ _) => some ["ay", "s"]
  | .values _ => none
  | .formatted format result =>
      if format = "(v)" then some ["v"]
      else if format = "(@" ++ resultType result ++ ")" then
        some [resultType result]
      else none
  | .error _ => none

def isError : Answer → Bool
  | .error _ => true
  | _ => false

def replyTypes : DlrTaskType → List String
  | .getVersion | .hostUri => ["s"]
  | .getServers => ["ao"]
  | .getProp | .managerGetProp => ["v"]
  | .getAllProps | .managerGetAllProps => ["a\x7bsv\x7d"]
  | .getIcon => ["ay", "s"]
  | _ => []

theorem taskMethods_declared (interface : Interface) :
    (∀ method ∈ declaredMethods interface,
      method.name ∈ answeredDirectly interface ∨
        ∃ task ∈ taskMethods interface, task.method = method.name) ∧
    ∀ task ∈ taskMethods interface, ∀ method ∈ declaredMethods interface,
      method.name = task.method →
        task.reads = method.inArgs ∧ replyTypes task.type = method.outArgs := by
  cases interface with
  | manager => decide
  | managerProperties => decide
  | device interface => cases interface <;> decide

theorem outArgs_of_answeredDirectly {interface : Interface}
    {method : DeclaredMethod} (hdeclared : method ∈ declaredMethods interface)
    (hdirect : method.name ∈ answeredDirectly interface) :
    method.outArgs = [] := by
  revert method
  cases interface with
  | manager => decide
  | managerProperties => decide
  | device interface => cases interface <;> decide

def formatOf (type : DlrTaskType) : Option String :=
  (dlrTaskNew "" "" (.boolean false) type 0).resultFormat

/-- A result that the reply does not contain may be anything. -/
def fits : DlrTaskType → TaskResult → Bool
  | .getVersion, .text _ => true
  | .hostUri, .text _ => true
  | .getServers, .objectPaths _ => true
  | .getProp, .property _ => true
  | .managerGetProp, .property _ => true
  | .getAllProps, .properties _ => true
  | .managerGetAllProps, .properties _ => true
  | .getIcon, .icon _ _ => true
  | type, _ => (formatOf type).isNone

def suits : DlrTaskType → ActionCallback → Bool
  | .getProp, callback =>
      callback ∈ [.getPositionInfo, .getBytePositionInfo]
  | .getAllProps, callback =>
      callback ∈ [.getAllPositionInfo, .getAllBytePositionInfo]
  | type, callback => (formatOf type).isNone &&
      callback ∈ [.simpleCall, .openUri, .completeSeekGetPosition]

def Repliable (task : DlrAsyncTask) : Prop :=
  task.error ≠ none ∨ formatOf task.task.type = none ∨ task.task.result ≠ none

structure Sound (type : DlrTaskType) (task : DlrAsyncTask) : Prop where
  type_eq : task.task.type = type
  synchronous : task.task.synchronous = type.isSynchronous
  format : task.task.resultFormat = formatOf type
  multiple : task.task.multipleRetvals = decide (type = .getIcon)
  result : ∀ result, task.task.result = some result → fits type result = true
  action : ∀ callback, task.action = some callback → suits type callback = true
  download : task.download ≠ none → type = .getIcon
  updating : task.stage = .updatingProps → type = .getProp ∨ type = .getAllProps
  pending : 0 < task.idleSources → Repliable task
  replies : ∀ reply ∈ task.replies, isError reply.2 = true ∨
    answerTypes reply.2 = some (replyTypes type)

theorem sound_queuedTask (interfaceName propName : String) (params : Variant)
    (type : DlrTaskType) (invocation : Nat) :
    Sound type
      (queuedTask (dlrTaskNew interfaceName propName params type invocation)) where
  type_eq := by cases type <;> rfl
  synchronous := by cases type <;> rfl
  format := by cases type <;> rfl
  multiple := by cases type <;> rfl
  result result hresult := by
    have hnone : (dlrTaskNew interfaceName propName params type
        invocation).result = none := by cases type <;> rfl
    rw [queuedTask, hnone] at hresult
    contradiction
  action callback haction := by contradiction
  download hdownload := absurd rfl hdownload
  updating hstage := by contradiction
  pending hidle := absurd hidle (Nat.lt_irrefl 0)
  replies reply hreply := by contradiction

theorem answerTypes_success {type : DlrTaskType} {task : DlrAsyncTask}
    (h : Sound type task)
    (hready : formatOf type = none ∨ task.task.result ≠ none) :
    answerTypes task.task.success = some (replyTypes type) := by
  have hresult := h.result
  unfold DlrTask.success
  rw [h.format, h.multiple]
  cases htask : task.task.result with
  | none =>
      have hformat : formatOf type = none := by simpa [htask] using hready
      rw [hformat]
      cases type <;> first | rfl | contradiction
  | some result =>
      have hfits := hresult result htask
      cases type <;> cases result <;> first | rfl | contradiction

section Functions

variable {type : DlrTaskType} {task : DlrAsyncTask}

theorem repliable_error (error : GError) (task : DlrAsyncTask) :
    Repliable { task with error := some error } :=
  .inl (Option.some_ne_none error)

theorem repliable_result (result : TaskResult) (task : DlrAsyncTask) :
    Repliable { task with task := { task.task with result := some result } } :=
  .inr (.inr (Option.some_ne_none result))

theorem Sound.error (h : Sound type task) (error : GError) :
    Sound type { task with error := some error } :=
  { h with pending := fun _ => repliable_error error task }

theorem Sound.fail (h : Sound type task) (code : ErrorCode) (message : String) :
    Sound type (task.fail code message) :=
  h.error ⟨code, message⟩

theorem Sound.withResult (h : Sound type task) {result : TaskResult}
    (hfits : fits type result = true) :
    Sound type { task with task := { task.task with result := some result } } :=
  { h with
    result := fun _ hother => Option.some.inj hother ▸ hfits
    pending := fun _ => repliable_result result task }

theorem Sound.schedule (h : Sound type task) (hrepliable : Repliable task) :
    Sound type (scheduleComplete task) :=
  { h with pending := fun _ => hrepliable }

theorem Sound.cancelled (h : Sound type task) :
    Sound type (dlrAsyncTaskCancelled task) := by
  rw [dlrAsyncTaskCancelled_eq]
  refine { h with
    action := fun callback haction => ?_
    pending := fun _ => .inl (Option.some_ne_none _) }
  simp only at haction
  split at haction
  · contradiction
  · exact h.action callback haction

theorem Sound.handled (h : Sound type task) (handler : CancelHandler) :
    Sound type (callHandler handler task) := by
  cases handler with
  | asyncTaskCancelled => exact h.cancelled
  | getIconCancelled =>
      refine { h.cancelled with download := fun hdownload => h.download ?_ }
      intro hnone
      rw [callHandler, prvGetIconCancelled, dlrAsyncTaskCancelled_eq, hnone]
        at hdownload
      contradiction

theorem Sound.connect (h : Sound type task) (handler : CancelHandler) :
    Sound type (gCancellableConnect handler task) := by
  unfold gCancellableConnect
  split
  · exact h.handled handler
  · exact { h with }

theorem Sound.begin (h : Sound type task) {callback : ActionCallback}
    (hsuits : suits type callback = true) :
    Sound type (beginAction callback task) := by
  refine { h with action := fun other haction => ?_ }
  simp only [beginAction] at haction
  split at haction
  · exact Option.some.inj haction ▸ hsuits
  · contradiction

theorem Sound.connectAndBegin (h : Sound type task) (proxy : Bool)
    {callback : ActionCallback} (hsuits : suits type callback = true) :
    Sound type (connectAndBegin proxy callback task) := by
  have hproxy : Sound type
      { gCancellableConnect .asyncTaskCancelled task with proxy := proxy } :=
    { h.connect .asyncTaskCancelled with }
  exact hproxy.begin hsuits

theorem Sound.finish (h : Sound type task) (hrepliable : Repliable task) :
    Sound type (finish task) :=
  { h.schedule hrepliable with }

theorem sound_prvGetProp (h : Sound .getProp task) (player : PlayerState) :
    Sound .getProp (prvGetProp player task) ∧
      Repliable (prvGetProp player task) := by
  unfold prvGetProp
  split
  · exact ⟨h.withResult rfl, repliable_result _ _⟩
  · split
    · exact ⟨h.fail _ _, repliable_error _ _⟩
    · exact ⟨h, .inl ‹_›⟩
  · exact ⟨h.error _, repliable_error _ _⟩

theorem sound_prvGetProps (h : Sound .getAllProps task) (player : PlayerState) :
    Sound .getAllProps (prvGetProps player task) ∧
      Repliable (prvGetProps player task) := by
  have hresult (values : List (String × Variant)) :
      Sound .getAllProps { task with
        task := { task.task with result := some (.properties values) } } ∧
      Repliable { task with
        task := { task.task with result := some (.properties values) } } :=
    ⟨h.withResult rfl, repliable_result _ _⟩
  unfold prvGetProps
  split_ifs
  · exact hresult _
  · exact hresult _
  · exact hresult _
  · exact hresult _
  · exact ⟨h.fail _ _, repliable_error _ _⟩

theorem repliable_of_formatless (h : Sound type task)
    (hformat : formatOf type = none) : Repliable task :=
  .inr (.inl (h.type_eq ▸ hformat))

theorem formatOf_of_suits {callback : ActionCallback}
    (h : suits type callback = true)
    (hcallback : callback ∈ [.simpleCall, .openUri, .completeSeekGetPosition]) :
    formatOf type = none := by
  simp only [List.mem_cons, List.not_mem_nil, or_false] at hcallback
  rcases hcallback with rfl | rfl | rfl
  all_goals cases type <;> first | rfl | contradiction

theorem sound_callBack (h : Sound type task) (reply : ActionReply)
    (player : PlayerState) {callback : ActionCallback}
    (hsuits : suits type callback = true) :
    Sound type (callBack reply player callback task) := by
  have hfailed (code : ErrorCode) (message : String) :
      Sound type (finish (task.fail code message)) :=
    (h.fail code message).finish (repliable_error _ _)
  cases callback with
  | simpleCall =>
      have hformat := formatOf_of_suits hsuits (by decide)
      simp only [callBack, prvSimpleCallCb]
      split
      · exact h.finish (repliable_of_formatless h hformat)
      · exact hfailed _ _
  | openUri =>
      have hformat := formatOf_of_suits hsuits (by decide)
      simp only [callBack, prvOpenUriCb]
      split
      · split
        · exact h.begin (by cases type <;> first | rfl | contradiction)
        · exact h.finish (repliable_of_formatless h hformat)
      · exact hfailed _ _
  | completeSeekGetPosition =>
      simp only [callBack, prvCompleteSeekGetPosition]
      split
      · exact h.begin (by cases type <;> first | rfl | contradiction)
      · exact hfailed _ _
  | getPositionInfo =>
      obtain rfl : type = .getProp := by
        cases type <;> first | rfl | contradiction
      simp only [callBack, prvGetPositionInfoCb]
      split
      · have hread := sound_prvGetProp h
          (Player.prvGetPositionInfoCb reply.result player)
        exact hread.1.finish hread.2
      · exact hfailed _ _
  | getBytePositionInfo =>
      obtain rfl : type = .getProp := by
        cases type <;> first | rfl | contradiction
      simp only [callBack, prvGetBytePositionInfoCb]
      split
      · have hread := sound_prvGetProp h
          (Player.prvGetBytePositionInfoCb reply.result player)
        exact hread.1.finish hread.2
      · exact hfailed _ _
  | getAllPositionInfo =>
      obtain rfl : type = .getAllProps := by
        cases type <;> first | rfl | contradiction
      have hread := sound_prvGetProps h
        (Player.prvGetAllPositionInfoCb task.relCnt reply.result player)
      exact hread.1.finish hread.2
  | getAllBytePositionInfo =>
      obtain rfl : type = .getAllProps := by
        cases type <;> first | rfl | contradiction
      have hkept : Sound .getAllProps { task with relCnt := reply.result } :=
        { h with }
      exact hkept.begin rfl

theorem sound_dlrDeviceGetProp (h : Sound .getProp task)
    (device : DeviceView) : Sound .getProp (dlrDeviceGetProp device task) := by
  unfold dlrDeviceGetProp
  split_ifs
  · exact h.connectAndBegin _ rfl
  · exact h.connectAndBegin _ rfl
  · have hread := sound_prvGetProp h device.player
    exact hread.1.schedule hread.2
  · exact { h with updating := fun _ => .inl rfl }

theorem sound_getAllPropsSynced (h : Sound .getAllProps task)
    (device : DeviceView) :
    Sound .getAllProps (getAllPropsSynced device task) := by
  unfold getAllPropsSynced
  split_ifs
  · exact h.connectAndBegin _ rfl
  · exact h.connectAndBegin _ rfl
  · have hread := sound_prvGetProps h device.player
    exact hread.1.schedule hread.2

theorem sound_dlrDeviceGetAllProps (h : Sound .getAllProps task)
    (device : DeviceView) :
    Sound .getAllProps (dlrDeviceGetAllProps device task) := by
  unfold dlrDeviceGetAllProps
  split_ifs
  · exact sound_getAllPropsSynced h device
  · exact { h with updating := fun _ => .inr rfl }

theorem sound_dlrDeviceSetProp (h : Sound .setProp task)
    (device : DeviceView) : Sound .setProp (dlrDeviceSetProp device task) := by
  have hrepliable {task : DlrAsyncTask} (h : Sound .setProp task) :
      Repliable task := repliable_of_formatless h rfl
  have hfailed (code : ErrorCode) (message : String) :
      Sound .setProp (scheduleComplete (task.fail code message)) :=
    (h.fail code message).schedule (repliable_error _ _)
  unfold dlrDeviceSetProp
  split_ifs
  · exact hfailed _ _
  · cases setRateError device.player task.task.params with
    | none => exact h.connectAndBegin _ rfl
    | some error => exact (h.error error).connectAndBegin _ rfl
  · cases setRateError device.player task.task.params with
    | none => exact h.schedule (hrepliable h)
    | some error => exact (h.error error).schedule (repliable_error _ _)
  · exact hfailed _ _
  · exact h.connectAndBegin _ rfl

theorem sound_dlrDeviceHostUri (h : Sound .hostUri task)
    (hosted : Except GError String) :
    Sound .hostUri (dlrDeviceHostUri hosted task) := by
  cases hosted with
  | ok url => exact (h.withResult rfl).schedule (repliable_result _ _)
  | error error => exact (h.error error).schedule (repliable_error _ _)

theorem sound_dlrDeviceRemoveUri (h : Sound .removeUri task) (removed : Bool) :
    Sound .removeUri (dlrDeviceRemoveUri removed task) := by
  unfold dlrDeviceRemoveUri
  split
  · exact h.schedule (repliable_of_formatless h rfl)
  · exact (h.fail _ _).schedule (repliable_error _ _)

theorem sound_dlrDeviceGetIcon (h : Sound .getIcon task)
    (device : DeviceView) : Sound .getIcon (dlrDeviceGetIcon device task) := by
  unfold dlrDeviceGetIcon
  split
  · exact (h.withResult rfl).schedule (repliable_result _ _)
  · exact (h.fail _ _).schedule (repliable_error _ _)
  · split
    · exact { h.connect .getIconCancelled with download := fun _ => rfl }
    · exact (h.fail _ _).schedule (repliable_error _ _)

theorem sound_prvGetIconSessionCb (h : Sound .getIcon task) (status : Nat)
    (bytes : List Nat) (mimeType : String) :
    Sound .getIcon (prvGetIconSessionCb status bytes mimeType task) := by
  have hended : Sound .getIcon { task with download := none } :=
    { h with download := fun hdownload => absurd rfl hdownload }
  unfold prvGetIconSessionCb
  simp only
  split_ifs
  · exact hended
  · exact (hended.withResult rfl).finish (repliable_result _ _)
  · exact (hended.fail _ _).finish (repliable_error _ _)

theorem sound_processDeviceTask (h : Sound type task) (device : DeviceView)
    (around : Surroundings) :
    Sound type (processDeviceTask device around task) := by
  have hbegin (callback : ActionCallback) (hsuits : suits type callback = true) :
      Sound type (connectAndBegin device.avProxy callback task) :=
    h.connectAndBegin _ hsuits
  unfold processDeviceTask
  rw [h.type_eq]
  cases type with
  | getProp => exact sound_dlrDeviceGetProp h device
  | getAllProps => exact sound_dlrDeviceGetAllProps h device
  | setProp => exact sound_dlrDeviceSetProp h device
  | hostUri => exact sound_dlrDeviceHostUri h around.hosted
  | removeUri => exact sound_dlrDeviceRemoveUri h around.removed
  | getIcon => exact sound_dlrDeviceGetIcon h device
  | openUri | openNextUri | setUri => exact hbegin .openUri rfl
  | seek | byteSeek => exact hbegin .completeSeekGetPosition rfl
  | play | pause | stop | next | previous => exact hbegin .simpleCall rfl
  | setPosition | setBytePosition | gotoTrack => exact hbegin .simpleCall rfl
  | playPause =>
      simp only [dlrDevicePlayPause]
      split
      · exact hbegin .simpleCall rfl
      · exact hbegin .simpleCall rfl
  | _ => exact h

theorem sound_propsUpdated (h : Sound type task)
    (hstage : task.stage = .updatingProps) (device : Option DeviceView) :
    Sound type (propsUpdated device task) := by
  have hrunning : Sound type { task with stage := .running } :=
    { h with updating := fun hupdating => by contradiction }
  cases device with
  | none => exact (hrunning.fail _ _).schedule (repliable_error _ _)
  | some device =>
      unfold propsUpdated
      simp only [h.type_eq]
      rcases h.updating hstage with rfl | rfl
      · have hread := sound_prvGetProp hrunning device.player
        exact hread.1.schedule hread.2
      · exact sound_getAllPropsSynced hrunning device

/-! ## Answers -/

theorem Sound.answer (h : Sound type task) {answer : Answer}
    (hanswer : isError answer = true ∨
      answerTypes answer = some (replyTypes type)) :
    Sound type (task.answer answer) := by
  unfold DlrAsyncTask.answer
  split
  · exact h
  · refine { h with replies := fun reply hreply => ?_ }
    rcases List.mem_append.mp hreply with hbefore | hnew
    · exact h.replies reply hbefore
    · obtain rfl := List.mem_singleton.mp hnew
      exact hanswer

theorem Sound.completed (h : Sound type task) :
    Sound type (taskCompleted task) := by
  unfold taskCompleted
  split
  · exact h
  · exact { h with updating := fun hupdating => by contradiction }

theorem sound_dlrTaskComplete (h : Sound type task)
    (hready : formatOf type = none ∨ task.task.result ≠ none) :
    Sound type (dlrTaskComplete task) :=
  h.answer (.inr (answerTypes_success h hready))

theorem sound_dlrTaskFail (h : Sound type task) (error : GError) :
    Sound type (dlrTaskFail error task) :=
  h.answer (.inl rfl)

theorem sound_dlrAsyncTaskComplete (h : Sound type task)
    (hrepliable : Repliable task) : Sound type (dlrAsyncTaskComplete task) := by
  unfold dlrAsyncTaskComplete prvAsyncTaskComplete
  cases herror : task.error with
  | some error => exact (sound_dlrTaskFail h error).completed
  | none =>
      refine (sound_dlrTaskComplete h ?_).completed
      simpa [Repliable, herror, h.type_eq] using hrepliable

theorem sound_dlrTaskCancel (h : Sound type task) :
    Sound type (dlrTaskCancel task) := by
  have hanswered : Sound type (task.answer (.error cancelledError)) :=
    h.answer (.inl rfl)
  unfold dlrTaskCancel
  simp only
  split
  · exact hanswered
  · unfold dlrAsyncTaskCancel gCancellableCancel
    split
    · exact { hanswered with }
    · have hfired : Sound type { task.answer (.error cancelledError) with
          cancellable := some true } := { hanswered with }
      exact hfired.handled _
    · exact hanswered

theorem sound_dlrTaskDelete (h : Sound type task) :
    Sound type (dlrTaskDelete task) := by
  refine { h with
    updating := fun hupdating => by contradiction
    replies := fun reply hreply => ?_ }
  simp only [dlrTaskDelete] at hreply
  split at hreply
  · exact h.replies reply hreply
  · rcases List.mem_append.mp hreply with hbefore | hnew
    · exact h.replies reply hbefore
    · obtain rfl := List.mem_singleton.mp hnew
      exact .inl rfl

def managed (manager : ManagerState) (refused : Option GError)
    (task : DlrTask) : Except GError (Option TaskResult) :=
  match task.type with
  | .managerGetProp =>
      (dlrManagerGetProp manager.settings task.interfaceName
        task.propName).map fun value => some (.property value)
  | .managerGetAllProps =>
      (dlrManagerGetAllProps manager.settings task.interfaceName).map
        fun values => some (.properties values)
  | _ =>
      match task.params with
      | none => .ok none
      | some param =>
          match (dlrManagerSetProp ⟨task.interfaceName, task.propName, param,
            refused⟩ manager).1 with
          | none => .ok none
          | some error => .error error

/-- A task of the manager is answered by the manager. -/
def AsksManager (task : DlrAsyncTask) : TaskEvent → Prop
  | .process around =>
      task.task.type ∈ [.managerGetProp, .managerGetAllProps, .managerSetProp] →
        ∃ manager refused, around.managed = managed manager refused task.task
  | _ => True

theorem fits_managed (h : Sound type task) {manager : ManagerState}
    {refused : Option GError} {result : Option TaskResult}
    (hmanager : type ∈ [.managerGetProp, .managerGetAllProps, .managerSetProp])
    (hresult : managed manager refused task.task = .ok result) :
    (formatOf type = none ∧ result = none) ∨
      ∃ value, result = some value ∧ fits type value = true := by
  simp only [List.mem_cons, List.not_mem_nil, or_false] at hmanager
  unfold managed at hresult
  rw [h.type_eq] at hresult
  rcases hmanager with rfl | rfl | rfl
  · cases hread : dlrManagerGetProp manager.settings task.task.interfaceName
        task.task.propName with
    | error error => simp [hread, Except.map] at hresult
    | ok value =>
        simp only [hread, Except.map, Except.ok.injEq] at hresult
        exact .inr ⟨_, hresult.symm, rfl⟩
  · cases hread : dlrManagerGetAllProps manager.settings
        task.task.interfaceName with
    | error error => simp [hread, Except.map] at hresult
    | ok values =>
        simp only [hread, Except.map, Except.ok.injEq] at hresult
        exact .inr ⟨_, hresult.symm, rfl⟩
  · simp only at hresult
    split at hresult
    · exact .inl ⟨rfl, (Except.ok.inj hresult).symm⟩
    · split at hresult
      · exact .inl ⟨rfl, (Except.ok.inj hresult).symm⟩
      · contradiction

theorem sound_processManagerTask (h : Sound type task) {around : Surroundings}
    (hfits : ∀ result, around.managed = .ok result →
      (formatOf type = none ∧ result = none) ∨
        ∃ value, result = some value ∧ fits type value = true) :
    Sound type (processManagerTask around task) := by
  unfold processManagerTask
  cases hmanaged : around.managed with
  | error error => exact (h.error error).schedule (repliable_error _ _)
  | ok result =>
      rcases hfits result hmanaged with ⟨hformat, rfl⟩ | ⟨value, rfl, hvalue⟩
      · have hempty : Sound type
            { task with task := { task.task with result := none } } :=
          { h with
            result := fun _ hresult => by contradiction
            pending := fun _ => .inr (.inl (h.type_eq ▸ hformat)) }
        exact hempty.schedule (repliable_of_formatless hempty hformat)
      · exact (h.withResult hvalue).schedule (repliable_result _ _)

theorem sound_prvProcessAsyncTask (h : Sound type task)
    {around : Surroundings}
    (hmanaged : AsksManager task (.process around)) :
    Sound type (prvProcessAsyncTask around task) := by
  have hstarted : Sound type (started task) :=
    { h with updating := fun hupdating => by contradiction }
  unfold prvProcessAsyncTask
  simp only [h.type_eq]
  split
  case isTrue hmanager =>
    obtain ⟨manager, refused, haround⟩ := hmanaged (h.type_eq ▸ hmanager)
    refine sound_processManagerTask hstarted fun result hresult => ?_
    exact fits_managed hstarted hmanager (haround.symm.trans hresult)
  case isFalse =>
    unfold processUpnpTask
    split
    · exact (hstarted.fail _ _).schedule (repliable_error _ _)
    · exact sound_processDeviceTask hstarted _ around

theorem sound_prvProcessSyncTask (h : Sound type task)
    (around : Surroundings) : Sound type (prvProcessSyncTask around task) := by
  unfold prvProcessSyncTask
  rw [h.type_eq]
  cases type with
  | getVersion =>
      exact (sound_dlrTaskComplete (h.withResult rfl)
        (.inr (Option.some_ne_none _))).completed
  | getServers =>
      exact (sound_dlrTaskComplete (h.withResult rfl)
        (.inr (Option.some_ne_none _))).completed
  | rescan => exact (sound_dlrTaskComplete h (.inl rfl)).completed
  | raise | quit => exact (sound_dlrTaskFail h _).completed
  | _ => exact h

end Functions

/-! ## Runs -/

theorem sound_taskStep {type : DlrTaskType} {task next : DlrAsyncTask}
    {event : TaskEvent} (h : Sound type task) (hguard : AsksManager task event)
    (hstep : taskStep task event = some next) : Sound type next := by
  cases stepped_of_taskStep hstep with
  | process around hstage =>
      unfold prvProcessTask
      split
      · exact sound_prvProcessSyncTask h around
      · exact sound_prvProcessAsyncTask h hguard
  | propsUpdated device hstage => exact sound_propsUpdated h hstage device
  | reply reply player callback haction =>
      have hcalled : Sound type { task with action := none } :=
        { h with action := fun _ hnone => by contradiction }
      exact sound_callBack hcalled reply player (h.action callback haction)
  | iconReply status bytes mimeType hdownload hstatus =>
      obtain rfl := h.download (by simp [hdownload])
      exact sound_prvGetIconSessionCb h status bytes mimeType
  | runIdle hidle =>
      have hrun : Sound type { task with idleSources := task.idleSources - 1 } :=
        { h with pending := fun _ => h.pending hidle }
      exact sound_dlrAsyncTaskComplete hrun (h.pending hidle)
  | cancel hstage => exact sound_dlrTaskCancel h
  | proxyLost => exact { h with action := fun _ hnone => by contradiction }
  | delete hstage => exact sound_dlrTaskDelete h

/--
Each method that is published for an object is answered at once, and returns
nothing, or carried out by a task that reads the declared arguments, and every
reply to the call, after whatever happens to the task, is an error or has the
declared types.
-/
theorem replies_have_declared_types {interface : Interface}
    {method : DeclaredMethod} (hdeclared : method ∈ declaredMethods interface) :
    (method.name ∈ answeredDirectly interface ∧
      AnsweredAtOnce interface method.name ∧ method.outArgs = []) ∨
      QueuesTask interface method.name ∧
      ∃ made ∈ taskMethods interface, made.method = method.name ∧
        made.reads = method.inArgs ∧
        ∀ (interfaceName propName : String) (params : Variant)
          (invocation : Nat) (events : List TaskEvent) (last : DlrAsyncTask),
          exec taskStep (queuedTask (dlrTaskNew interfaceName propName params
            made.type invocation)) events = some last →
          Meets taskStep AsksManager (queuedTask (dlrTaskNew interfaceName
            propName params made.type invocation)) events →
          ∀ reply ∈ last.replies, isError reply.2 = true ∨
            answerTypes reply.2 = some method.outArgs := by
  obtain ⟨hmade, htypes⟩ := taskMethods_declared interface
  rcases hmade method hdeclared with hdirect | ⟨made, hmem, hname⟩
  · exact .inl ⟨hdirect, answeredAtOnce_of_mem hdirect,
      outArgs_of_answeredDirectly hdeclared hdirect⟩
  · obtain ⟨hreads, hreply⟩ := htypes made hmem method hdeclared hname.symm
    have hdispatched : method.name ∈ dispatched interface := by
      rw [← taskMethods_dispatched, ← hname]
      exact List.mem_map_of_mem hmem
    refine .inr ⟨queuesTask_of_mem hdispatched, made, hmem, hname, hreads, ?_⟩
    intro interfaceName propName params invocation events last hrun hmeets
    have hsound := exec_guarded_invariant (Sound made.type)
      (fun _ _ _ h hguard hstep => sound_taskStep h hguard hstep)
      (sound_queuedTask interfaceName propName params made.type invocation)
      hrun hmeets
    exact hreply ▸ hsound.replies

/-- The icon is downloaded, while the proxies of the device go. -/
def downloadIcon : List TaskEvent :=
  let device : DeviceView := ⟨Player.playerNew, true, true, none,
    some "http://10.0.0.1/icon.png", true⟩
  [.process (surroundings device), .proxyLost,
   .iconReply 200 [137, 80, 78, 71] "image/png", .runIdle]

theorem replies_have_declared_types_icon :
    ∃ last, exec taskStep (queuedTask (dlrTaskNew "" "" (.boolean false)
        .getIcon 5)) downloadIcon = some last ∧
      last.replies = [(5, .values (.icon [137, 80, 78, 71] "image/png"))] ∧
      ∀ reply ∈ last.replies, isError reply.2 = true ∨
        answerTypes reply.2 = some ["ay", "s"] := by
  have hdeclared : (⟨"GetIcon", ["s", "s"], ["ay", "s"]⟩ : DeclaredMethod) ∈
      declaredMethods (.device .rendererDevice) := by decide
  obtain ⟨last, hrun, hreplies⟩ := Option.map_eq_some_iff.mp
    (show (exec taskStep (queuedTask (dlrTaskNew "" "" (.boolean false)
        .getIcon 5)) downloadIcon).map DlrAsyncTask.replies =
      some [(5, .values (.icon [137, 80, 78, 71] "image/png"))] by
        decide +kernel)
  have hmeets : Meets taskStep AsksManager (queuedTask (dlrTaskNew "" ""
      (.boolean false) .getIcon 5)) downloadIcon := by
    refine ⟨fun hmanager => ?_, trivial, trivial, trivial, trivial⟩
    contradiction
  refine ⟨last, hrun, hreplies, ?_⟩
  rcases replies_have_declared_types hdeclared with
    ⟨hdirect, -⟩ | ⟨-, made, hmem, hname, -, htyped⟩
  · exact absurd hdirect (by decide)
  · obtain rfl : made = ⟨"GetIcon", .getIcon, ["s", "s"]⟩ := by
      simpa [taskMethods] using hmem
    exact htyped "" "" (.boolean false) 5 downloadIcon last hrun hmeets

end DleynaRenderer.Server
