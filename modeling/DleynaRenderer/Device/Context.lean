import DleynaRenderer.Foundation.EventSystem

/-!
# Device contexts and their subscriptions

A context is one network address at which a renderer is reachable, with the
proxies of its three services.  Every service has a subscribed flag, a timeout
that is pending for ten seconds after a lost subscription, and the state its
proxy holds: whether it is subscribed, the notify callbacks registered on it
and the handlers connected to its "subscription-lost" signal.
-/

namespace DleynaRenderer.Device

open EventSystem

inductive Service where
  | cm
  | av
  | rc
  deriving DecidableEq, Repr

inductive NotifyCallback where
  | prvSinkChangeCb
  | prvLastChangeCb
  | prvRcLastChangeCb
  deriving DecidableEq, Repr

/-- A lost-subscription handler is named by the service it works on. -/
structure ServiceProxy where
  subscribed : Bool
  notifies : List NotifyCallback
  lostHandlers : List Service
  deriving DecidableEq, Repr

structure ServiceState where
  proxy : Option ServiceProxy
  subscribed : Bool
  timeoutId : Bool
  deriving DecidableEq, Repr

structure DeviceContext where
  ipAddress : String
  cm : ServiceState
  av : ServiceState
  rc : ServiceState
  deriving DecidableEq, Repr

namespace DeviceContext

def get (context : DeviceContext) : Service → ServiceState
  | .cm => context.cm
  | .av => context.av
  | .rc => context.rc

def modify (context : DeviceContext) (service : Service)
    (update : ServiceState → ServiceState) : DeviceContext :=
  match service with
  | .cm => { context with cm := update context.cm }
  | .av => { context with av := update context.av }
  | .rc => { context with rc := update context.rc }

@[simp] theorem get_modify_self (context : DeviceContext) (service : Service)
    (update : ServiceState → ServiceState) :
    (context.modify service update).get service =
      update (context.get service) := by
  cases service <;> rfl

theorem get_modify_of_ne {service other : Service} (h : other ≠ service)
    (context : DeviceContext) (update : ServiceState → ServiceState) :
    (context.modify service update).get other = context.get other := by
  cases service <;> cases other <;> first | rfl | contradiction

@[simp] theorem modify_ipAddress (context : DeviceContext) (service : Service)
    (update : ServiceState → ServiceState) :
    (context.modify service update).ipAddress = context.ipAddress := by
  cases service <;> rfl

end DeviceContext

namespace ServiceProxy

def setSubscribed (value : Bool) (proxy : ServiceProxy) : ServiceProxy :=
  { proxy with subscribed := value }

def addNotify (callback : NotifyCallback) (proxy : ServiceProxy) : ServiceProxy :=
  { proxy with notifies := proxy.notifies ++ [callback] }

def removeNotify (callback : NotifyCallback) (proxy : ServiceProxy) :
    ServiceProxy :=
  { proxy with notifies := proxy.notifies.erase callback }

def connectLost (handler : Service) (proxy : ServiceProxy) : ServiceProxy :=
  { proxy with lostHandlers := proxy.lostHandlers ++ [handler] }

end ServiceProxy

def newProxy (present : Bool) : Option ServiceProxy :=
  if present then some ⟨false, [], []⟩ else none

/-- `services` tells which services the device description names. -/
def prvContextNew (ipAddress : String) (services : Service → Bool) :
    DeviceContext where
  ipAddress
  cm := ⟨newProxy (services .cm), false, false⟩
  av := ⟨newProxy (services .av), false, false⟩
  rc := ⟨newProxy (services .rc), false, false⟩

def notifyCallback : Service → NotifyCallback
  | .cm => .prvSinkChangeCb
  | .av => .prvLastChangeCb
  | .rc => .prvRcLastChangeCb

/--
Subscribe to `service` when it has a proxy, and connect its lost-subscription
handler to the proxy of `emitter`.
-/
def subscribeService (service emitter : Service) (context : DeviceContext) :
    DeviceContext :=
  match (context.get service).proxy with
  | none => context
  | some _ =>
      let subscribed := context.modify service fun state =>
        { state with
          proxy := state.proxy.map fun proxy =>
            (proxy.setSubscribed true).addNotify (notifyCallback service)
          subscribed := true }
      subscribed.modify emitter fun state =>
        { state with proxy := state.proxy.map (·.connectLost service) }

def subscribeCm : DeviceContext → DeviceContext := subscribeService .cm .cm

def subscribeAv : DeviceContext → DeviceContext := subscribeService .av .av

-- The rendering control handler is connected to the AV transport proxy.
def subscribeRc : DeviceContext → DeviceContext := subscribeService .rc .av

/-- `dlr_device_subscribe_to_service_changes` on the context it has chosen. -/
def subscribeContext (context : DeviceContext) : DeviceContext :=
  subscribeRc (subscribeAv (subscribeCm context))

def unsubscribeService (service : Service) (context : DeviceContext) :
    DeviceContext :=
  context.modify service fun state =>
    if state.subscribed then
      { proxy := state.proxy.map fun proxy =>
          (proxy.removeNotify (notifyCallback service)).setSubscribed false
        subscribed := false
        timeoutId := false }
    else { state with timeoutId := false }

/-- The handlers stay connected. -/
def prvContextUnsubscribe (context : DeviceContext) : DeviceContext :=
  unsubscribeService .rc (unsubscribeService .av (unsubscribeService .cm context))

def subscriptionLost (service : Service) (context : DeviceContext) :
    DeviceContext :=
  context.modify service fun state =>
    if state.timeoutId then
      { proxy := state.proxy.map (·.removeNotify (notifyCallback service))
        subscribed := false
        timeoutId := false }
    else
      { state with
        proxy := state.proxy.map (·.setSubscribed true)
        timeoutId := true }

def prvCmSubscriptionLostCb : DeviceContext → DeviceContext :=
  subscriptionLost .cm

def prvAvSubscriptionLostCb : DeviceContext → DeviceContext :=
  subscriptionLost .av

def prvRcSubscriptionLostCb : DeviceContext → DeviceContext :=
  subscriptionLost .rc

def subscriptionLostCb : Service → DeviceContext → DeviceContext
  | .cm => prvCmSubscriptionLostCb
  | .av => prvAvSubscriptionLostCb
  | .rc => prvRcSubscriptionLostCb

def reEnableSubscription (service : Service) (context : DeviceContext) :
    DeviceContext :=
  context.modify service fun state => { state with timeoutId := false }

def prvReEnableCmSubscription : DeviceContext → DeviceContext :=
  reEnableSubscription .cm

def prvReEnableAvSubscription : DeviceContext → DeviceContext :=
  reEnableSubscription .av

def prvReEnableRcSubscription : DeviceContext → DeviceContext :=
  reEnableSubscription .rc

def reEnableCb : Service → DeviceContext → DeviceContext
  | .cm => prvReEnableCmSubscription
  | .av => prvReEnableAvSubscription
  | .rc => prvReEnableRcSubscription

theorem subscriptionLostCb_eq (service : Service) :
    subscriptionLostCb service = subscriptionLost service := by
  cases service <;> rfl

theorem reEnableCb_eq (service : Service) :
    reEnableCb service = reEnableSubscription service := by
  cases service <;> rfl

def lostHandlers (service : Service) (context : DeviceContext) : List Service :=
  match (context.get service).proxy with
  | none => []
  | some proxy => proxy.lostHandlers

/-- The proxy emits "subscription-lost": its handlers run in connection order. -/
def emitSubscriptionLost (service : Service) (context : DeviceContext) :
    DeviceContext :=
  (lostHandlers service context).foldl
    (fun context handler => subscriptionLostCb handler context) context

end DleynaRenderer.Device
