import DleynaRenderer.Device.State
import DleynaRenderer.PushHost.Service

/-!
# The device registry

A device is under construction, with the chain of tasks that constructs it, or
constructed and announced.  Discovery callbacks, the tasks of the chains, the
timers and signals of the devices and the push host calls are the events of one
system.  A device is kept in the table that it is in; the source shares it by
pointer.  Cancelling a queue drops its tasks and ends its chain at once.
-/

namespace DleynaRenderer.Upnp

open DleynaRenderer.Device DleynaRenderer.Player DleynaRenderer.PushHost

inductive Signal where
  | foundServer (path : String)
  | lostServer (path : String)
  deriving DecidableEq, Repr

structure Construction where
  ipAddress : String
  device : DlrDevice
  tasks : List ConstructTask

structure DlrUpnp where
  serverUdnMap : HashTable String DlrDevice
  serverUcMap : HashTable String Construction
  signals : List Signal
  hostService : HostService

def dlrUpnpNew (pushHostPort : Nat) : DlrUpnp :=
  ⟨∅, ∅, [], dlrHostServiceNew pushHostPort⟩

def serverPath (convertUdnToPath : String → String) (udn : String) : String :=
  "/com/intel/dLeynaRenderer/server/" ++ convertUdnToPath udn

def findDevice (udn : String) (upnp : DlrUpnp) : Option DlrDevice :=
  match upnp.serverUdnMap.lookup udn with
  | some device => some device
  | none => (upnp.serverUcMap.lookup udn).map Construction.device

def storeConstructed (udn : String) (device : DlrDevice) (upnp : DlrUpnp) :
    DlrUpnp :=
  { upnp with serverUdnMap := upnp.serverUdnMap.insert udn device }

def storeConstructing (udn : String) (construction : Construction)
    (upnp : DlrUpnp) : DlrUpnp :=
  { upnp with serverUcMap := upnp.serverUcMap.insert udn construction }

def modifyDevice (udn : String) (update : DlrDevice → DlrDevice)
    (upnp : DlrUpnp) : DlrUpnp :=
  match upnp.serverUdnMap.lookup udn with
  | some device => storeConstructed udn (update device) upnp
  | none =>
      match upnp.serverUcMap.lookup udn with
      | some construction =>
          storeConstructing udn
            { construction with device := update construction.device } upnp
      | none => upnp

def dlrUpnpGetServerIds (upnp : DlrUpnp) : List String :=
  (HashTable.values upnp.serverUdnMap).map DlrDevice.path

def dlrDeviceFromPath (path : String) (upnp : DlrUpnp) : Option DlrDevice :=
  (HashTable.values upnp.serverUdnMap).find? fun device => device.path = path

def announceContext (ipAddress : String) (services : Service → Bool)
    (device : DlrDevice) : DlrDevice :=
  if device.contexts.any fun context => context.ipAddress = ipAddress then
    device
  else dlrDeviceAppendNewContext ipAddress services device

def newConstruction (convertUdnToPath : String → String)
    (udn ipAddress : String) (services : Service → Bool) : Construction :=
  let (device, tasks) :=
    dlrDeviceNew (serverPath convertUdnToPath udn) ipAddress services
  ⟨ipAddress, device, tasks⟩

def prvServerAvailableCb (convertUdnToPath : String → String)
    (udn ipAddress : String) (services : Service → Bool) (upnp : DlrUpnp) :
    DlrUpnp :=
  match findDevice udn upnp with
  | some _ => modifyDevice udn (announceContext ipAddress services) upnp
  | none =>
      storeConstructing udn
        (newConstruction convertUdnToPath udn ipAddress services) upnp

/-- The end of a chain that was not cancelled announces the device. -/
def prvDeviceChainEnd (cancelled : Bool) (udn : String)
    (construction : Construction) (upnp : DlrUpnp) : DlrUpnp :=
  if cancelled then
    { upnp with serverUcMap := upnp.serverUcMap.erase udn }
  else
    { upnp with
      serverUdnMap := upnp.serverUdnMap.insert udn construction.device
      serverUcMap := upnp.serverUcMap.erase udn
      signals := upnp.signals ++ [.foundServer construction.device.path] }

/-- A timer is started for the loss of a subscribed context. -/
def resubscribeLater (lost : DeviceContext) (device : DlrDevice) : DlrDevice :=
  if lost.av.subscribed || lost.cm.subscribed then
    { device with timeoutId := true }
  else device

def unavailableConstructed (udn ipAddress : String) (device : DlrDevice)
    (upnp : DlrUpnp) : DlrUpnp :=
  match removeContext ipAddress device with
  | none => upnp
  | some (lost, device) =>
      if device.contexts = [] then
        { upnp with
          signals := upnp.signals ++ [.lostServer device.path]
          serverUdnMap := upnp.serverUdnMap.erase udn }
      else storeConstructed udn (resubscribeLater lost device) upnp

/--
The chain is cancelled when no context is left, and starts again on another
context when its own is lost.
-/
def unavailableConstructing (udn ipAddress : String)
    (construction : Construction) (upnp : DlrUpnp) : DlrUpnp :=
  match removeContext ipAddress construction.device with
  | none => upnp
  | some (lost, device) =>
      match dlrDeviceGetContext device with
      | none => prvDeviceChainEnd true udn construction upnp
      | some context =>
          -- the chain is cancelled and built anew for another context
          if lost.ipAddress = construction.ipAddress then
            storeConstructing udn
              { ipAddress := context.ipAddress
                device := device
                tasks := dlrDeviceConstruct device context } upnp
          else
            storeConstructing udn
              { construction with device := resubscribeLater lost device } upnp

def prvServerUnavailableCb (udn ipAddress : String) (upnp : DlrUpnp) :
    DlrUpnp :=
  match upnp.serverUdnMap.lookup udn with
  | some device => unavailableConstructed udn ipAddress device upnp
  | none =>
      match upnp.serverUcMap.lookup udn with
      | some construction =>
          unavailableConstructing udn ipAddress construction upnp
      | none => upnp

structure TaskAnswer where
  sink : Option String
  ids : Fin interfaceInfoMax → Nat

def runConstructTask (answer : TaskAnswer) (device : DlrDevice) :
    ConstructTask → Bool × DlrDevice
  | .getProtocolInfo hasProxy =>
      (false, prvGetProtocolInfo hasProxy answer.sink device)
  | .subscribe => (false, prvSubscribe device)
  | .declare => prvDeclare answer.ids device

def runTask (udn : String) (answer : TaskAnswer) (upnp : DlrUpnp) :
    Option DlrUpnp :=
  match upnp.serverUcMap.lookup udn with
  | some ⟨ipAddress, device, task :: tasks⟩ =>
      match runConstructTask answer device task with
      | (true, device) =>
          some (prvDeviceChainEnd true udn ⟨ipAddress, device, tasks⟩ upnp)
      | (false, device) =>
          some (storeConstructing udn ⟨ipAddress, device, tasks⟩ upnp)
  | _ => none

def endChain (udn : String) (upnp : DlrUpnp) : Option DlrUpnp :=
  match upnp.serverUcMap.lookup udn with
  | some ⟨ipAddress, device, []⟩ =>
      some (prvDeviceChainEnd false udn ⟨ipAddress, device, []⟩ upnp)
  | _ => none

def prvSubscribeToServiceChanges (device : DlrDevice) : DlrDevice :=
  dlrDeviceSubscribeToServiceChanges { device with timeoutId := false }

def modifyContext (ipAddress : String)
    (update : DeviceContext → DeviceContext) (device : DlrDevice) : DlrDevice :=
  { device with contexts := device.contexts.map fun context =>
      if context.ipAddress = ipAddress then update context else context }

/-- A re-enable timeout can fire only while it is pending. -/
def timeoutPending (ipAddress : String) (service : Service)
    (device : DlrDevice) : Bool :=
  device.contexts.any fun context =>
    context.ipAddress = ipAddress && (context.get service).timeoutId

def cannotLocateDevice : GError :=
  ⟨.objectNotFound, "Cannot locate a device for the specified object"⟩

/-- The interface is that of the context preferred at the time of the call. -/
def dlrUpnpHostUri (client path file : String) (env : HostEnv)
    (upnp : DlrUpnp) : Except GError String × DlrUpnp :=
  match (dlrDeviceFromPath path upnp).bind dlrDeviceGetContext with
  | none => (.error cannotLocateDevice, upnp)
  | some context =>
      let (result, hostService) :=
        dlrHostServiceAdd upnp.hostService context.ipAddress client file env
      (result, { upnp with hostService := hostService })

def dlrUpnpRemoveUri (client path file : String) (upnp : DlrUpnp) :
    Except GError Unit × DlrUpnp :=
  match (dlrDeviceFromPath path upnp).bind dlrDeviceGetContext with
  | none => (.error cannotLocateDevice, upnp)
  | some context =>
      match dlrHostServiceRemove upnp.hostService context.ipAddress client file
      with
      | (false, _) =>
          (.error ⟨.objectNotFound, "File not hosted for specified device"⟩,
            upnp)
      | (true, hostService) => (.ok (), { upnp with hostService := hostService })

def dlrUpnpLostClient (client : String) (upnp : DlrUpnp) : DlrUpnp :=
  { upnp with
    hostService := dlrHostServiceLostClient upnp.hostService client }

inductive UpnpEvent where
  | available (udn ipAddress : String) (services : Service → Bool)
  | unavailable (udn ipAddress : String)
  | runTask (udn : String) (answer : TaskAnswer)
  | chainEnd (udn : String)
  | subscribeTimeout (udn : String)
  | subscriptionLost (udn ipAddress : String) (service : Service)
  | reEnable (udn ipAddress : String) (service : Service)
  | player (udn : String) (info : DeviceInfo) (event : PlayerEvent)
  | hostFile (client path file : String) (env : HostEnv)
  | removeFile (client path file : String)
  | lostClient (client : String)

def setPlayer (player : PlayerRun) (device : DlrDevice) : DlrDevice :=
  { device with player := player }

def upnpStep (convertUdnToPath : String → String) (upnp : DlrUpnp) :
    UpnpEvent → Option DlrUpnp
  | .available udn ipAddress services =>
      some (prvServerAvailableCb convertUdnToPath udn ipAddress services upnp)
  | .unavailable udn ipAddress =>
      some (prvServerUnavailableCb udn ipAddress upnp)
  | .runTask udn answer => runTask udn answer upnp
  | .chainEnd udn => endChain udn upnp
  | .subscribeTimeout udn =>
      match findDevice udn upnp with
      | none => none
      | some device =>
          if device.timeoutId then
            some (modifyDevice udn prvSubscribeToServiceChanges upnp)
          else none
  | .subscriptionLost udn ipAddress service =>
      some (modifyDevice udn
        (modifyContext ipAddress (emitSubscriptionLost service)) upnp)
  | .reEnable udn ipAddress service =>
      match findDevice udn upnp with
      | none => none
      | some device =>
          if timeoutPending ipAddress service device then
            some (modifyDevice udn
              (modifyContext ipAddress (reEnableCb service)) upnp)
          else none
  | .player udn info event =>
      match findDevice udn upnp with
      | none => none
      | some device =>
          (playerStep info device.player event).map fun player =>
            modifyDevice udn (setPlayer player) upnp
  | .hostFile client path file env =>
      some (dlrUpnpHostUri client path file env upnp).2
  | .removeFile client path file =>
      some (dlrUpnpRemoveUri client path file upnp).2
  | .lostClient client => some (dlrUpnpLostClient client upnp)

end DleynaRenderer.Upnp
