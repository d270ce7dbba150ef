import DleynaRenderer.Upnp.Registry
import Mathlib.Data.Finset.Basic

/-!
# Method calls

The calls of the clients are dispatched on the interface and the method.  Most
of them queue a task, for which the client is watched; `Release` and the loss
of a client end that.  Watching is done by the connector and queueing by the
task processor, which are not part of the daemon: the first is known by what it
promises, the second by the calls it gets.
-/

namespace DleynaRenderer.Server

open DleynaRenderer.Upnp

structure Connector (κ : Type) where
  watched : κ → Finset String
  watchClient : String → κ → Bool × κ
  unwatchClient : String → κ → κ
  clientLost : String → κ → κ
  watchClient_result : ∀ client k,
    (watchClient client k).1 = decide (client ∉ watched k)
  watched_watchClient : ∀ client k,
    watched (watchClient client k).2 = insert client (watched k)
  watched_unwatchClient : ∀ client k,
    watched (unwatchClient client k) = (watched k).erase client
  watched_clientLost : ∀ client k,
    watched (clientLost client k) = (watched k).erase client

inductive ProcessorCall where
  | addTask (source sink : String)
  | cancelQueue (source sink : String)
  | removeQueuesForSource (source : String)
  | removeQueuesForSink (sink : String)
  | setQuitting
  deriving DecidableEq, Repr

/-- `calls` and `replies` are what was sent to the outside, in order. -/
structure DlrContext (κ : Type) where
  watchers : Nat
  connector : κ
  neverQuit : Bool
  upnp : DlrUpnp
  calls : List ProcessorCall
  replies : List (Nat × Except GError Unit)

def prvControlPointInitialize {κ : Type} (connector : κ) (neverQuit : Bool)
    (pushHostPort : Nat) : DlrContext κ :=
  ⟨0, connector, neverQuit, dlrUpnpNew pushHostPort, [], []⟩

/-- `DLR_RENDERER_SINK` -/
def rendererSink : String := "dleyna-renderer"

def managerMethods : List String := ["GetVersion", "GetRenderers", "Rescan"]

def propsMethods : List String := ["GetAll", "Get", "Set"]

def serverMethods : List String := ["Raise", "Quit"]

def playerMethods : List String :=
  ["Play", "Pause", "PlayPause", "Stop", "Next", "Previous", "OpenUri",
   "OpenUriEx", "OpenNextUri", "SetUri", "Seek", "ByteSeek", "SetPosition",
   "SetBytePosition", "GotoTrack"]

def pushHostMethods : List String := ["HostFile", "RemoveFile"]

section Dispatch

variable {κ : Type} (connector : Connector κ)

def DlrContext.call (call : ProcessorCall) (context : DlrContext κ) :
    DlrContext κ :=
  { context with calls := context.calls ++ [call] }

def DlrContext.reply (invocation : Nat) (result : Except GError Unit)
    (context : DlrContext κ) : DlrContext κ :=
  { context with replies := context.replies ++ [(invocation, result)] }

def prvRemoveClient (name : String) (context : DlrContext κ) : DlrContext κ :=
  let context := context.call (.removeQueuesForSource name)
  let context := { context with
    upnp := dlrUpnpLostClient name context.upnp
    watchers :=
      if context.watchers > 0 then context.watchers - 1 else context.watchers }
  if context.watchers = 0 ∧ context.neverQuit = false then
    context.call .setQuitting
  else context

def prvLostClient : String → DlrContext κ → DlrContext κ := prvRemoveClient

/-- The client counter of the source has 32 bits. -/
def prvAddTask (source sink : String) (context : DlrContext κ) : DlrContext κ :=
  let (added, k) := connector.watchClient source context.connector
  { context with
    connector := k
    watchers :=
      if added then (context.watchers + 1) % 2 ^ 32 else context.watchers
    calls := context.calls ++ [.addTask source sink] }

def prvManagerRootMethodCall (sender method : String) (invocation : Nat)
    (context : DlrContext κ) : DlrContext κ :=
  if method = "Release" then
    -- whether the sender was watched is not asked
    (prvRemoveClient sender { context with
      connector := connector.unwatchClient sender context.connector }).reply
        invocation (.ok ())
  else if method ∈ managerMethods then
    prvAddTask connector sender rendererSink context
  else context

def prvManagerPropsMethodCall (sender object method : String)
    (context : DlrContext κ) : DlrContext κ :=
  if method ∈ propsMethods then
    prvAddTask connector sender object context
  else context

def prvGetDeviceId (object : String) (upnp : DlrUpnp) : Except GError String :=
  match dlrDeviceFromPath object upnp with
  | none => .error ⟨.objectNotFound,
      "Cannot locate device corresponding to the specified path"⟩
  | some device => .ok device.path

def taskMethodCall (methods : List String) (sender object method : String)
    (invocation : Nat) (context : DlrContext κ) : DlrContext κ :=
  match prvGetDeviceId object context.upnp with
  | .error error => context.reply invocation (.error error)
  | .ok deviceId =>
      if method ∈ methods then prvAddTask connector sender deviceId context
      else context

def prvPropsMethodCall := taskMethodCall connector propsMethods

def prvDlrDeviceMethodCall := taskMethodCall connector serverMethods

def prvDlrPlayerMethodCall := taskMethodCall connector playerMethods

def prvDlrPushHostMethodCall := taskMethodCall connector pushHostMethods

def prvRendererDeviceMethodCall (sender object method : String)
    (invocation : Nat) (context : DlrContext κ) : DlrContext κ :=
  match prvGetDeviceId object context.upnp with
  | .error error => context.reply invocation (.error error)
  | .ok deviceId =>
      if method = "Cancel" then
        (context.call (.cancelQueue sender deviceId)).reply invocation (.ok ())
      else if method = "GetIcon" then
        prvAddTask connector sender deviceId context
      else context

inductive DeviceInterface where
  | properties
  | server
  | player
  | pushHost
  | rendererDevice
  deriving DecidableEq, Repr

/-- `g_server_vtables` -/
def serverVtables :
    DeviceInterface → String → String → String → Nat → DlrContext κ →
      DlrContext κ
  | .properties => prvPropsMethodCall connector
  | .server => prvDlrDeviceMethodCall connector
  | .player => prvDlrPlayerMethodCall connector
  | .pushHost => prvDlrPushHostMethodCall connector
  | .rendererDevice => prvRendererDeviceMethodCall connector

def prvLostMediaServer (signals : List Signal) (context : DlrContext κ) :
    DlrContext κ :=
  signals.foldl
    (fun context signal =>
      match signal with
      | .lostServer path => context.call (.removeQueuesForSink path)
      | .foundServer _ => context) context

end Dispatch

inductive ServerEvent where
  | managerCall (sender method : String) (invocation : Nat)
  | managerPropsCall (sender object method : String)
  | deviceCall (interface : DeviceInterface) (sender object method : String)
      (invocation : Nat)
  | clientLost (name : String)
  | upnp (event : UpnpEvent)
  | setNeverQuit (neverQuit : Bool)

/-- The connector tells the loss of a client that it watches, and no other. -/
def serverStep {κ : Type} (connector : Connector κ)
    (convertUdnToPath : String → String) (context : DlrContext κ) :
    ServerEvent → Option (DlrContext κ)
  | .managerCall sender method invocation =>
      some (prvManagerRootMethodCall connector sender method invocation context)
  | .managerPropsCall sender object method =>
      some (prvManagerPropsMethodCall connector sender object method context)
  | .deviceCall interface sender object method invocation =>
      some (serverVtables connector interface sender object method invocation
        context)
  | .clientLost name =>
      if name ∈ connector.watched context.connector then
        some (prvLostClient name { context with
          connector := connector.clientLost name context.connector })
      else none
  | .upnp event =>
      (upnpStep convertUdnToPath context.upnp event).map fun upnp =>
        prvLostMediaServer (upnp.signals.drop context.upnp.signals.length)
          { context with upnp := upnp }
  | .setNeverQuit neverQuit => some { context with neverQuit := neverQuit }

end DleynaRenderer.Server
