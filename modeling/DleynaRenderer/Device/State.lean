import DleynaRenderer.Device.Context
import DleynaRenderer.Player.Run
import Mathlib.Data.Fintype.Basic

/-!
# Devices

A device is reachable through a list of contexts, of which the loopback one is
preferred, and else the first.  It subscribes on the preferred context, and it
is constructed by a chain of tasks that one counter keeps track of.
-/

namespace DleynaRenderer.Device

open DleynaRenderer.Player

/-- `DLR_INTERFACE_INFO_MAX` -/
def interfaceInfoMax : Nat := 5

/--
`ids` are the objects published for the device, zero for none.  `declares` is a
history variable: it counts the successful runs of `prv_declare`.
-/
structure DlrDevice where
  path : String
  contexts : List DeviceContext
  ids : Fin interfaceInfoMax → Nat
  timeoutId : Bool
  constructStep : Nat
  player : PlayerRun
  declares : Nat

def isLoopback (ipAddress : String) : Bool :=
  "127.0.0.".toList.isPrefixOf ipAddress.toList || ipAddress = "::1" ||
    ipAddress = "0:0:0:0:0:0:0:1"

def preferredIndex (contexts : List DeviceContext) : Nat :=
  (contexts.findIdx? fun context => isLoopback context.ipAddress).getD 0

def dlrDeviceGetContext (device : DlrDevice) : Option DeviceContext :=
  device.contexts[preferredIndex device.contexts]?

def DeviceContext.isSubscribed (context : DeviceContext) : Bool :=
  context.av.subscribed || context.cm.subscribed || context.rc.subscribed

def subscribedIndex (contexts : List DeviceContext) : Option Nat :=
  contexts.findIdx? DeviceContext.isSubscribed

def prvDeviceGetSubscribedContext (device : DlrDevice) : Option DeviceContext :=
  device.contexts.find? DeviceContext.isSubscribed

def dlrDeviceSubscribeToServiceChanges (device : DlrDevice) : DlrDevice :=
  { device with contexts :=
      device.contexts.modify (preferredIndex device.contexts) subscribeContext }

def unsubscribeIndex (index : Option Nat) (device : DlrDevice) : DlrDevice :=
  match index with
  | none => device
  | some index =>
      { device with
        contexts := device.contexts.modify index prvContextUnsubscribe }

/-- The subscription moves unless it is on the preferred context. -/
def prvDeviceSubscribeContext (device : DlrDevice) : DlrDevice :=
  let subscribed := subscribedIndex device.contexts
  if subscribed = some (preferredIndex device.contexts) then device
  else dlrDeviceSubscribeToServiceChanges (unsubscribeIndex subscribed device)

def dlrDeviceAppendNewContext (ipAddress : String) (services : Service → Bool)
    (device : DlrDevice) : DlrDevice :=
  prvDeviceSubscribeContext { device with
    contexts := device.contexts ++ [prvContextNew ipAddress services] }

def removeContext (ipAddress : String) (device : DlrDevice) :
    Option (DeviceContext × DlrDevice) :=
  (device.contexts.find? fun context => context.ipAddress = ipAddress).map
    fun context =>
      (context, { device with contexts :=
        device.contexts.eraseP fun context => context.ipAddress = ipAddress })

/-- `hasProxy` tells if there is a service to ask for its protocol info. -/
inductive ConstructTask where
  | getProtocolInfo (hasProxy : Bool)
  | subscribe
  | declare
  deriving DecidableEq, Repr

/-- The step counter of the source has 32 bits. -/
def countStep (device : DlrDevice) : DlrDevice :=
  { device with constructStep := (device.constructStep + 1) % 2 ^ 32 }

def prvGetProtocolInfoCb (result : Option String) (device : DlrDevice) : DlrDevice :=
  let device := countStep device
  match result with
  | none => device
  | some sink =>
      { device with player := { device.player with
          player := prvProcessProtocolInfo sink device.player.player } }

/-- Without a proxy no action is begun, and its callback never runs. -/
def prvGetProtocolInfo (hasProxy : Bool) (result : Option String)
    (device : DlrDevice) : DlrDevice :=
  if hasProxy then prvGetProtocolInfoCb result device else device

def prvSubscribe (device : DlrDevice) : DlrDevice :=
  prvDeviceSubscribeContext (countStep device)

/-- The ids before the first one that could not be published, and this one. -/
def publishedIds (answers ids : Fin interfaceInfoMax → Nat) :
    Fin interfaceInfoMax → Nat :=
  fun i => if ∀ j < i, answers j ≠ 0 then answers i else ids i

/-- `answers` are the results of publishing the interfaces; zero is a failure. -/
def prvDeclare (answers : Fin interfaceInfoMax → Nat) (device : DlrDevice) :
    Bool × DlrDevice :=
  let failed : Bool := ∃ i, answers i = 0
  let device := countStep device
  (failed, { device with
    ids := publishedIds answers device.ids
    declares := if failed then device.declares else device.declares + 1 })

def dlrDeviceConstruct (device : DlrDevice) (context : DeviceContext) :
    List ConstructTask :=
  (if device.constructStep < 1 then
    [.getProtocolInfo context.cm.proxy.isSome] else []) ++
  [.subscribe] ++
  (if device.constructStep < 3 then [.declare] else [])

def dlrDeviceNew (path ipAddress : String) (services : Service → Bool) :
    DlrDevice × List ConstructTask :=
  let context := prvContextNew ipAddress services
  let device :=
    { path, contexts := [context], ids := fun _ => 0, timeoutId := false
      constructStep := 0, player := playerRunNew, declares := 0 }
  (device, dlrDeviceConstruct device context)

def SameButContexts (device other : DlrDevice) : Prop :=
  { device with contexts := other.contexts } = other

theorem SameButContexts.trans {first second third : DlrDevice}
    (hfirst : SameButContexts first second)
    (hsecond : SameButContexts second third) :
    SameButContexts first third := by
  unfold SameButContexts at *
  rw [← hsecond, ← hfirst]

theorem sameButContexts_unsubscribeIndex (index : Option Nat)
    (device : DlrDevice) :
    SameButContexts device (unsubscribeIndex index device) := by
  cases index <;> rfl

theorem sameButContexts_prvDeviceSubscribeContext (device : DlrDevice) :
    SameButContexts device (prvDeviceSubscribeContext device) := by
  unfold prvDeviceSubscribeContext
  simp only
  split
  · rfl
  · exact (sameButContexts_unsubscribeIndex _ device).trans rfl

theorem sameButContexts_dlrDeviceAppendNewContext (ipAddress : String)
    (services : Service → Bool) (device : DlrDevice) :
    SameButContexts device
      (dlrDeviceAppendNewContext ipAddress services device) :=
  sameButContexts_prvDeviceSubscribeContext { device with
    contexts := device.contexts ++ [prvContextNew ipAddress services] }

def addresses (device : DlrDevice) : List String :=
  device.contexts.map DeviceContext.ipAddress

@[simp] theorem ipAddress_subscribeService (service emitter : Service)
    (context : DeviceContext) :
    (subscribeService service emitter context).ipAddress = context.ipAddress := by
  unfold subscribeService
  split <;> simp

@[simp] theorem ipAddress_subscribeContext (context : DeviceContext) :
    (subscribeContext context).ipAddress = context.ipAddress := by
  simp [subscribeContext, subscribeCm, subscribeAv, subscribeRc]

@[simp] theorem ipAddress_prvContextUnsubscribe (context : DeviceContext) :
    (prvContextUnsubscribe context).ipAddress = context.ipAddress := by
  simp [prvContextUnsubscribe, unsubscribeService]

theorem ipAddress_emitSubscriptionLost (service : Service)
    (context : DeviceContext) :
    (emitSubscriptionLost service context).ipAddress = context.ipAddress := by
  unfold emitSubscriptionLost
  induction lostHandlers service context generalizing context with
  | nil => rfl
  | cons handler handlers ih =>
      rw [List.foldl_cons, ih]
      cases handler <;> exact DeviceContext.modify_ipAddress context _ _

theorem ipAddress_reEnableCb (service : Service) (context : DeviceContext) :
    (reEnableCb service context).ipAddress = context.ipAddress := by
  cases service <;> exact DeviceContext.modify_ipAddress context _ _

theorem map_ipAddress_modify {update : DeviceContext → DeviceContext}
    (hupdate : ∀ context, (update context).ipAddress = context.ipAddress)
    (index : Nat) (contexts : List DeviceContext) :
    (contexts.modify index update).map DeviceContext.ipAddress =
      contexts.map DeviceContext.ipAddress := by
  induction contexts generalizing index with
  | nil => simp
  | cons context contexts ih => cases index <;> simp [hupdate, ih]

theorem addresses_unsubscribeIndex (index : Option Nat) (device : DlrDevice) :
    addresses (unsubscribeIndex index device) = addresses device := by
  cases index with
  | none => rfl
  | some index =>
      exact map_ipAddress_modify ipAddress_prvContextUnsubscribe index
        device.contexts

theorem addresses_dlrDeviceSubscribeToServiceChanges (device : DlrDevice) :
    addresses (dlrDeviceSubscribeToServiceChanges device) = addresses device :=
  map_ipAddress_modify ipAddress_subscribeContext _ device.contexts

@[simp] theorem addresses_prvDeviceSubscribeContext (device : DlrDevice) :
    addresses (prvDeviceSubscribeContext device) = addresses device := by
  unfold prvDeviceSubscribeContext
  simp only
  split
  · rfl
  · rw [addresses_dlrDeviceSubscribeToServiceChanges,
      addresses_unsubscribeIndex]

@[simp] theorem addresses_dlrDeviceAppendNewContext (ipAddress : String)
    (services : Service → Bool) (device : DlrDevice) :
    addresses (dlrDeviceAppendNewContext ipAddress services device) =
      addresses device ++ [ipAddress] := by
  unfold dlrDeviceAppendNewContext
  rw [addresses_prvDeviceSubscribeContext]
  simp [addresses, prvContextNew]

theorem dlrDeviceGetContext_eq_none_iff {device : DlrDevice} :
    dlrDeviceGetContext device = none ↔ device.contexts = [] := by
  unfold dlrDeviceGetContext preferredIndex
  rw [List.getElem?_eq_none_iff]
  constructor
  · intro hlength
    cases hindex : device.contexts.findIdx? fun context =>
        isLoopback context.ipAddress with
    | none =>
        rw [hindex] at hlength
        exact List.length_eq_zero_iff.mp (by simpa using hlength)
    | some index =>
        have hlt := (List.findIdx?_eq_some_iff_findIdx_eq.mp hindex).1
        rw [hindex] at hlength
        simp at hlength
        omega
  · rintro hnil
    simp [hnil]

theorem mem_addresses_of_dlrDeviceGetContext {device : DlrDevice}
    {context : DeviceContext} (h : dlrDeviceGetContext device = some context) :
    context.ipAddress ∈ addresses device :=
  List.mem_map_of_mem (List.mem_of_getElem? h)

theorem removeContext_eq_none_iff {ipAddress : String} {device : DlrDevice} :
    removeContext ipAddress device = none ↔ ipAddress ∉ addresses device := by
  simp [removeContext, addresses]

theorem removeContext_spec {ipAddress : String} {device kept : DlrDevice}
    {lost : DeviceContext}
    (h : removeContext ipAddress device = some (lost, kept)) :
    lost ∈ device.contexts ∧ lost.ipAddress = ipAddress ∧
      kept = { device with contexts :=
        device.contexts.eraseP fun context => context.ipAddress = ipAddress } := by
  obtain ⟨found, hfound, heq⟩ := Option.map_eq_some_iff.mp h
  obtain ⟨rfl, rfl⟩ := Prod.mk.inj heq
  exact ⟨List.mem_of_find?_eq_some hfound,
    by simpa using List.find?_some hfound, rfl⟩

theorem addresses_removeContext {ipAddress : String} {device kept : DlrDevice}
    {lost : DeviceContext}
    (h : removeContext ipAddress device = some (lost, kept)) :
    addresses kept = (addresses device).erase ipAddress := by
  rw [(removeContext_spec h).2.2]
  simp only [addresses, List.erase_eq_eraseP, List.eraseP_map]
  congr 2
  funext context
  exact decide_eq_decide.mpr eq_comm

end DleynaRenderer.Device
