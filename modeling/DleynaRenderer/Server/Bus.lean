import DleynaRenderer.Upnp.Declared
import Mathlib.Data.List.TakeWhile
import Mathlib.Data.Multiset.OrderedMonoid

/-!
# Objects on the bus

Each interface of a device, and of the manager, is an object that the connector
publishes under an id of its own.  What has been published and not unpublished
yet is what the devices hold, until the service is stopped: the devices that
are then under construction keep theirs.
-/

namespace DleynaRenderer.Server

open DleynaRenderer.Device DleynaRenderer.Upnp EventSystem

/-- `prv_declare` stops at the first interface that is not published. -/
def declaredIds (answers : Fin interfaceInfoMax → Nat) : List Nat :=
  (List.ofFn answers).takeWhile (· ≠ 0)

/-- What `dlr_device_delete` unpublishes, up to the first id that is zero. -/
def heldIds (device : DlrDevice) : List Nat :=
  (List.ofFn device.ids).takeWhile (· ≠ 0)

theorem takeWhile_publishedIds {n : Nat} (answers ids : Fin n → Nat) :
    (List.ofFn fun i => if ∀ j < i, answers j ≠ 0 then answers i else ids i).takeWhile
        (· ≠ 0) =
      (List.ofFn answers).takeWhile (· ≠ 0) := by
  induction n with
  | zero => rfl
  | succ n ih =>
      have hfirst : ∀ j < (0 : Fin (n + 1)), answers j ≠ 0 := by
        intro j hj
        exact absurd hj (Fin.not_lt_zero j)
      rw [List.ofFn_succ, List.ofFn_succ, if_pos hfirst]
      by_cases hzero : answers 0 = 0
      · simp [hzero]
      · have hrest (i : Fin n) : (∀ j < i.succ, answers j ≠ 0) ↔
            ∀ j < i, answers j.succ ≠ 0 := by
          constructor
          · intro h j hj
            exact h j.succ (Fin.succ_lt_succ_iff.mpr hj)
          · intro h j
            refine Fin.cases (fun _ => hzero) (fun j hj => ?_) j
            exact h j (Fin.succ_lt_succ_iff.mp hj)
        simp only [hrest]
        rw [List.takeWhile_cons_of_pos (by simpa using hzero),
          List.takeWhile_cons_of_pos (by simpa using hzero),
          ih (fun i => answers i.succ) (fun i => ids i.succ)]

theorem heldIds_prvDeclare (answers : Fin interfaceInfoMax → Nat)
    (device : DlrDevice) :
    heldIds (prvDeclare answers device).2 = declaredIds answers :=
  takeWhile_publishedIds answers device.ids

theorem heldIds_of_bare {device : DlrDevice} (h : ∀ i, device.ids i = 0) :
    heldIds device = [] := by
  have hids : device.ids = fun _ => 0 := funext h
  unfold heldIds
  rw [hids]
  rfl

/-- `DLR_MANAGER_INTERFACE_INFO_MAX` -/
abbrev managerInterfaceInfoMax : Nat := 2

/--
`upnp` is there once the service is started.  The objects on the bus are those
at the path of the server, and those of the devices of each UDN.
-/
structure BusContext where
  upnp : Option DlrUpnp
  dlrId : Fin managerInterfaceInfoMax → Nat
  serverObjects : Multiset Nat
  deviceObjects : String → Multiset Nat

def busContextNew : BusContext := ⟨none, fun _ => 0, 0, fun _ => 0⟩

def publish (udn : String) (ids : List Nat) (objects : String → Multiset Nat) :
    String → Multiset Nat :=
  Function.update objects udn (objects udn + (ids : Multiset Nat))

def unpublish (udn : String) (ids : List Nat)
    (objects : String → Multiset Nat) : String → Multiset Nat :=
  Function.update objects udn (objects udn - (ids : Multiset Nat))

/-- Both interfaces are tried; the manager has to be published. -/
def prvControlPointStartService
    (answers : Fin managerInterfaceInfoMax → Nat) (pushHostPort : Nat)
    (context : BusContext) : Bool × BusContext :=
  let published := (List.ofFn answers).filter (· ≠ 0)
  let context := { context with
    dlrId := answers
    serverObjects := context.serverObjects + (published : Multiset Nat) }
  if answers 0 ≠ 0 then
    (true, { context with upnp := some (dlrUpnpNew pushHostPort) })
  else (false, context)

def declareObjects (udn : String) (answer : TaskAnswer) (device : DlrDevice)
    (objects : String → Multiset Nat) : String → Multiset Nat :=
  let objects := publish udn (declaredIds answer.ids) objects
  let (failed, device) := prvDeclare answer.ids device
  if failed then unpublish udn (heldIds device) objects else objects

def objectsAfter (upnp : DlrUpnp) (event : UpnpEvent)
    (objects : String → Multiset Nat) : String → Multiset Nat :=
  match event with
  | .unavailable udn ipAddress =>
      match entry upnp udn with
      | none => objects
      | some entry =>
          if (loseContext ipAddress entry).isNone then
            unpublish udn (heldIds entry.device) objects
          else objects
  | .runTask udn answer =>
      match upnp.serverUcMap.lookup udn with
      | some ⟨_, device, .declare :: _⟩ =>
          declareObjects udn answer device objects
      | _ => objects
  | _ => objects

/-- Only the table of the constructed devices frees them. -/
def prvControlPointStopService (context : BusContext) : BusContext :=
  let objects :=
    match context.upnp with
    | none => context.deviceObjects
    | some upnp => fun udn =>
        match upnp.serverUdnMap.lookup udn with
        | none => context.deviceObjects udn
        | some device =>
            context.deviceObjects udn - (heldIds device : Multiset Nat)
  { context with
    upnp := none
    deviceObjects := objects
    serverObjects := context.serverObjects -
      (((List.ofFn context.dlrId).filter (· ≠ 0) : List Nat) : Multiset Nat) }

def busStep (convertUdnToPath : String → String) (context : BusContext)
    (event : UpnpEvent) : Option BusContext :=
  match context.upnp with
  | none => none
  | some upnp => (upnpStep convertUdnToPath upnp event).map fun next =>
      { context with
        upnp := some next
        deviceObjects := objectsAfter upnp event context.deviceObjects }

theorem sameDeclaration_loseContext {ipAddress : String} {before after : Entry}
    (h : loseContext ipAddress before = some after) :
    SameDeclaration before.device after.device := by
  unfold loseContext at h
  cases hremoved : removeContext ipAddress before.device with
  | none =>
      simp only [hremoved, Option.some.injEq] at h
      rw [h]
      exact .refl _
  | some removed =>
      obtain ⟨lost, kept⟩ := removed
      have hkept : SameDeclaration before.device kept := by
        rw [(removeContext_spec hremoved).2.2]
        exact ⟨rfl, rfl⟩
      simp only [hremoved, Option.map_eq_some_iff] at h
      obtain ⟨context, -, rfl⟩ := h
      have hlater := sameDeclaration_resubscribeLater lost kept
      have hsame : SameDeclaration kept
          (keepEntry lost kept context before.chain).device := by
        cases before.chain with
        | none => exact hlater
        | some chain =>
            unfold keepEntry
            simp only
            split
            · exact .refl kept
            · exact hlater
      exact ⟨hsame.1.trans hkept.1, hsame.2.trans hkept.2⟩

theorem sameDeclaration_entryChange
    {fresh : String → (Device.Service → Bool) → Entry} {before after : Entry}
    {event : UpnpEvent} (htask : ∀ udn answer, event ≠ .runTask udn answer)
    (h : entryChange fresh (some before) event = some after) :
    SameDeclaration before.device after.device := by
  cases event with
  | available udn ipAddress services =>
      obtain rfl := Option.some.inj h
      exact sameDeclaration_announceContext ipAddress services before.device
  | unavailable udn ipAddress => exact sameDeclaration_loseContext h
  | runTask udn answer => exact absurd rfl (htask udn answer)
  | chainEnd udn =>
      obtain rfl := Option.some.inj h
      unfold endEntryChain
      split
      · exact .refl _
      · exact .refl _
  | player udn info event =>
      obtain rfl := Option.some.inj h
      split
      · exact .refl _
      · exact ⟨rfl, rfl⟩
  | _ =>
      obtain rfl := Option.some.inj h
      exact ⟨rfl, rfl⟩

/-! ## The ledger -/

def held : Option Entry → Multiset Nat
  | none => 0
  | some entry => heldIds entry.device

def Bare (entry : Entry) : Prop :=
  entry.device.declares = 0 → ∀ i, entry.device.ids i = 0

theorem held_of_sameDeclaration {before after : Entry}
    (h : SameDeclaration before.device after.device) :
    held (some after) = held (some before) := by
  simp only [held, heldIds, h.2]

theorem bare_of_sameDeclaration {before after : Entry}
    (h : SameDeclaration before.device after.device) (hbare : Bare before) :
    Bare after := by
  unfold Bare
  rw [h.1, h.2]
  exact hbare

theorem bare_freshEntry (convertUdnToPath : String → String)
    (udn ipAddress : String) (services : Device.Service → Bool) :
    Bare (freshEntry convertUdnToPath udn ipAddress services) :=
  fun _ _ => rfl

theorem held_freshEntry (convertUdnToPath : String → String)
    (udn ipAddress : String) (services : Device.Service → Bool) :
    held (some (freshEntry convertUdnToPath udn ipAddress services)) = 0 := rfl

theorem bare_runEntryTask {answer : TaskAnswer} {before after : Entry}
    (h : runEntryTask answer before = some after) (hbare : Bare before) :
    Bare after := by
  obtain ⟨device, _ | ⟨ipAddress, _ | ⟨task, tasks⟩⟩⟩ := before
  · exact Option.some.inj h ▸ hbare
  · exact Option.some.inj h ▸ hbare
  · cases task with
    | getProtocolInfo hasProxy =>
        obtain rfl := Option.some.inj h
        exact bare_of_sameDeclaration
          (sameDeclaration_prvGetProtocolInfo hasProxy answer.sink device) hbare
    | subscribe =>
        obtain rfl := Option.some.inj h
        exact bare_of_sameDeclaration (sameDeclaration_prvSubscribe device) hbare
    | declare =>
        simp only [runEntryTask, runConstructTask, prvDeclare] at h
        split at h
        case h_1 => contradiction
        case h_2 declared hdeclare =>
          obtain rfl := Option.some.inj h
          simp only [Prod.mk.injEq, decide_eq_false_iff_not] at hdeclare
          obtain ⟨hok, rfl⟩ := hdeclare
          intro hzero
          simp [hok] at hzero

theorem declareObjects_eq {udn : String} {answer : TaskAnswer}
    {device : DlrDevice} {objects : String → Multiset Nat}
    (hempty : objects udn = 0) :
    declareObjects udn answer device objects udn =
      if (prvDeclare answer.ids device).1 then 0
      else (heldIds (prvDeclare answer.ids device).2 : Multiset Nat) := by
  have hheld := heldIds_prvDeclare answer.ids device
  unfold declareObjects
  simp only []
  split_ifs
  · rw [unpublish, Function.update_self, publish, Function.update_self, hempty,
      zero_add, hheld]
    exact tsub_self _
  · rw [publish, Function.update_self, hempty, zero_add, hheld]

theorem publish_of_ne {udn other : String} (h : udn ≠ other) (ids : List Nat)
    (objects : String → Multiset Nat) :
    publish other ids objects udn = objects udn :=
  Function.update_of_ne h _ _

theorem unpublish_of_ne {udn other : String} (h : udn ≠ other) (ids : List Nat)
    (objects : String → Multiset Nat) :
    unpublish other ids objects udn = objects udn :=
  Function.update_of_ne h _ _

theorem objectsAfter_of_other {upnp : DlrUpnp} {event : UpnpEvent} {udn : String}
    (h : target event ≠ some udn) (objects : String → Multiset Nat) :
    objectsAfter upnp event objects udn = objects udn := by
  cases event with
  | unavailable other ipAddress =>
      have hother : udn ≠ other := fun heq => h (heq ▸ rfl)
      simp only [objectsAfter]
      cases entry upnp other with
      | none => rfl
      | some before =>
          simp only []
          split_ifs
          · exact unpublish_of_ne hother _ _
          · rfl
  | runTask other answer =>
      have hother : udn ≠ other := fun heq => h (heq ▸ rfl)
      have hdeclare (device : DlrDevice) :
          declareObjects other answer device objects udn = objects udn := by
        unfold declareObjects
        simp only []
        split_ifs
        · rw [unpublish_of_ne hother, publish_of_ne hother]
        · exact publish_of_ne hother _ _
      simp only [objectsAfter]
      cases upnp.serverUcMap.lookup other with
      | none => rfl
      | some construction =>
          obtain ⟨ipAddress, device, _ | ⟨task, tasks⟩⟩ := construction
          · rfl
          · cases task with
            | getProtocolInfo hasProxy => rfl
            | subscribe => rfl
            | declare => exact hdeclare device
  | _ => rfl

theorem objectsAfter_runTask {upnp : DlrUpnp} (hapart : Apart upnp)
    {udn : String} {answer : TaskAnswer} {before : Entry}
    (hentry : entry upnp udn = some before) {objects : String → Multiset Nat}
    (hheld : objects udn = held (some before)) (hdeclare : DeclareInv before)
    (hbare : Bare before) :
    objectsAfter upnp (.runTask udn answer) objects udn =
      held (runEntryTask answer before) := by
  obtain ⟨device, _ | ⟨ipAddress, tasks⟩⟩ := before
  · have hnone := hapart.not_constructing (lookup_constructed_iff.mpr hentry)
    simp only [objectsAfter, hnone]
    exact hheld
  · have hlookup : upnp.serverUcMap.lookup udn =
        some ⟨ipAddress, device, tasks⟩ :=
      (lookup_constructing_iff hapart).mpr hentry
    simp only [objectsAfter, hlookup]
    cases tasks with
    | nil => exact hheld
    | cons task tasks =>
        cases task with
        | getProtocolInfo hasProxy =>
            exact hheld.trans (held_of_sameDeclaration
              (sameDeclaration_prvGetProtocolInfo hasProxy answer.sink
                device)).symm
        | subscribe =>
            exact hheld.trans (held_of_sameDeclaration
              (sameDeclaration_prvSubscribe device)).symm
        | declare =>
            -- the device is declared for the first time: it holds nothing yet
            have hzero : device.declares = 0 := by
              rcases hdeclare with ⟨hzero, -⟩ | ⟨-, hcount⟩
              · exact hzero
              · simp at hcount
            have hempty : objects udn = 0 := by
              rw [hheld, held, heldIds_of_bare (hbare hzero)]
              rfl
            simp only [declareObjects_eq hempty, runEntryTask, runConstructTask]
            cases hfailed : prvDeclare answer.ids device with
            | mk failed declared =>
                cases failed with
                | true => rfl
                | false => rfl

theorem objectsAfter_entry {upnp : DlrUpnp} (hapart : Apart upnp)
    {event : UpnpEvent} {udn : String} (htarget : target event = some udn)
    {fresh : String → (Device.Service → Bool) → Entry}
    (hfresh : ∀ ipAddress services, held (some (fresh ipAddress services)) = 0)
    {objects : String → Multiset Nat}
    (hheld : objects udn = held (entry upnp udn))
    (hinv : ∀ before, entry upnp udn = some before →
      DeclareInv before ∧ Bare before) :
    objectsAfter upnp event objects udn =
      held (entryChange fresh (entry upnp udn) event) := by
  cases hentry : entry upnp udn with
  | none =>
      rw [hentry] at hheld
      cases event with
      | available other ipAddress services =>
          exact hheld.trans (hfresh ipAddress services).symm
      | unavailable other ipAddress =>
          obtain rfl := Option.some.inj htarget
          simp only [objectsAfter, hentry]
          exact hheld
      | runTask other answer =>
          obtain rfl := Option.some.inj htarget
          have hlookup : upnp.serverUcMap.lookup other = none := by
            cases hlookup : upnp.serverUcMap.lookup other with
            | none => rfl
            | some construction =>
                have hsome := (lookup_constructing_iff hapart).mp hlookup
                simp [hentry] at hsome
          simp only [objectsAfter, hlookup]
          exact hheld
      | _ => exact hheld
  | some before =>
      obtain ⟨hdeclare, hbare⟩ := hinv before hentry
      rw [hentry] at hheld
      have hother (after : Entry)
          (htask : ∀ udn answer, event ≠ .runTask udn answer)
          (hafter : entryChange fresh (some before) event = some after) :
          objects udn = held (some after) :=
        hheld.trans (held_of_sameDeclaration
          (sameDeclaration_entryChange htask hafter)).symm
      cases event with
      | runTask other answer =>
          obtain rfl := Option.some.inj htarget
          exact objectsAfter_runTask hapart hentry hheld hdeclare hbare
      | unavailable other ipAddress =>
          obtain rfl := Option.some.inj htarget
          simp only [objectsAfter, hentry, entryChange]
          cases hlost : loseContext ipAddress before with
          | none =>
              simp only [Option.isNone_none, if_true, unpublish,
                Function.update_self, hheld]
              exact tsub_self _
          | some after => exact hother after (by simp) hlost
      | _ => exact hother _ (by simp) rfl

/-! ## Runs -/

def managerIds (answers : Fin managerInterfaceInfoMax → Nat) : Multiset Nat :=
  ((List.ofFn answers).filter (· ≠ 0) : List Nat)

def entryOf (context : BusContext) (udn : String) : Option Entry :=
  context.upnp.bind fun upnp => entry upnp udn

/-- A chain that is started again declares the device exactly if that is still to do. -/
def StepTells (context : BusContext) (event : UpnpEvent) : Prop :=
  ∀ upnp ∈ context.upnp, StepTellsDeclared upnp event

structure Balanced (context : BusContext) : Prop where
  server : context.serverObjects = managerIds context.dlrId
  devices : ∀ udn, context.deviceObjects udn = held (entryOf context udn)
  announced : ∀ udn device, entryOf context udn = some ⟨device, none⟩ →
    Multiset.card (context.deviceObjects udn) = interfaceInfoMax

structure FreedByStop (context : BusContext) : Prop where
  server : (prvControlPointStopService context).serverObjects = 0
  devices : ∀ udn, (prvControlPointStopService context).deviceObjects udn =
    held ((entryOf context udn).filter fun entry => entry.chain.isSome)

structure BusInv (context : BusContext) : Prop where
  server : context.serverObjects = managerIds context.dlrId
  devices : ∀ udn, context.deviceObjects udn = held (entryOf context udn)
  declared : ∀ upnp ∈ context.upnp, DeclareStateInv upnp
  bare : ∀ udn before, entryOf context udn = some before → Bare before

theorem busInv_start (answers : Fin managerInterfaceInfoMax → Nat)
    (pushHostPort : Nat) :
    BusInv (prvControlPointStartService answers pushHostPort
      busContextNew).2 := by
  have hnone (udn : String) : entryOf (prvControlPointStartService answers
      pushHostPort busContextNew).2 udn = none := by
    unfold prvControlPointStartService
    simp only []
    split_ifs <;> rfl
  refine ⟨?_, fun udn => ?_, ?_, fun udn before hbefore => ?_⟩
  · unfold prvControlPointStartService
    simp only []
    split_ifs
    · exact zero_add _
    · exact zero_add _
  · rw [hnone, prvControlPointStartService]
    simp only []
    split_ifs <;> rfl
  · unfold prvControlPointStartService
    simp only []
    split_ifs
    · intro upnp hupnp
      obtain rfl := Option.some.inj hupnp
      exact ⟨apart_dlrUpnpNew pushHostPort, fun udn before hentry =>
        absurd hentry (by simp [entry, dlrUpnpNew])⟩
    · intro upnp hupnp
      cases hupnp
  · simp [hnone] at hbefore

theorem bare_entryChange {convertUdnToPath : String → String} {udn : String}
    {event : UpnpEvent} {before : Option Entry} {after : Entry}
    (hbare : ∀ entry, before = some entry → Bare entry)
    (h : entryChange (freshEntry convertUdnToPath udn) before event =
      some after) : Bare after := by
  cases before with
  | none =>
      cases event with
      | available other ipAddress services =>
          obtain rfl := Option.some.inj h
          exact bare_freshEntry convertUdnToPath udn ipAddress services
      | _ => cases h
  | some before =>
      have hbefore := hbare before rfl
      cases event with
      | runTask other answer => exact bare_runEntryTask h hbefore
      | _ =>
          exact bare_of_sameDeclaration
            (sameDeclaration_entryChange (by simp) h) hbefore

theorem busInv_step {convertUdnToPath : String → String}
    {context next : BusContext} {event : UpnpEvent} (h : BusInv context)
    (hguard : StepTells context event)
    (hstep : busStep convertUdnToPath context event = some next) :
    BusInv next := by
  obtain ⟨upnp, dlrId, serverObjects, deviceObjects⟩ := context
  cases upnp with
  | none => cases hstep
  | some upnp =>
      obtain ⟨after, hafter, rfl⟩ := Option.map_eq_some_iff.mp hstep
      have hdeclared := h.declared upnp rfl
      have hentry (udn : String) := entry_step hdeclared.1 hafter udn
      refine ⟨h.server, fun udn => ?_, ?_, fun udn before hbefore => ?_⟩
      · by_cases htarget : target event = some udn
        · have hchanged := objectsAfter_entry hdeclared.1 htarget
            (held_freshEntry convertUdnToPath udn) (h.devices udn)
            fun before hbefore =>
              ⟨hdeclared.2 udn before hbefore, h.bare udn before hbefore⟩
          refine hchanged.trans ?_
          simp only [entryOf, Option.bind_some, hentry, entryLaw, htarget, if_true]
        · refine (objectsAfter_of_other htarget deviceObjects).trans
            ((h.devices udn).trans ?_)
          simp only [entryOf, Option.bind_some, hentry, entryLaw,
            if_neg htarget]
      · intro other hother
        obtain rfl := Option.some.inj hother
        exact declareStateInv_step hdeclared (hguard upnp rfl) hafter
      · simp only [entryOf, Option.bind_some, hentry, entryLaw] at hbefore
        split_ifs at hbefore
        · exact bare_entryChange (h.bare udn) hbefore
        · exact h.bare udn before hbefore

theorem card_heldIds_of_declared {device : DlrDevice} (h : Declared device) :
    (heldIds device).length = interfaceInfoMax := by
  have hall : heldIds device = List.ofFn device.ids := by
    apply List.takeWhile_eq_self_iff.mpr
    intro id hmem
    obtain ⟨i, rfl⟩ := (List.mem_ofFn' _ _).mp hmem
    simpa using h.2 i
  rw [hall]
  exact List.length_ofFn

theorem balanced_of_inv {context : BusContext} (h : BusInv context) :
    Balanced context where
  server := h.server
  devices := h.devices
  announced udn device hentry := by
    obtain ⟨upnp, hupnp, hfound⟩ := Option.bind_eq_some_iff.mp hentry
    have hdeclared : Declared device := (h.declared upnp hupnp).2 udn _ hfound
    rw [h.devices udn, hentry, held, Multiset.coe_card]
    exact card_heldIds_of_declared hdeclared

theorem freedByStop_of_inv {context : BusContext} (h : BusInv context) :
    FreedByStop context where
  server := by
    have hserver : (prvControlPointStopService context).serverObjects =
        context.serverObjects - managerIds context.dlrId := rfl
    rw [hserver, h.server]
    exact tsub_self _
  devices udn := by
    have hheld := h.devices udn
    unfold entryOf at hheld ⊢
    unfold prvControlPointStopService
    cases hupnp : context.upnp with
    | none =>
        rw [hupnp] at hheld
        exact hheld
    | some upnp =>
        rw [hupnp] at hheld
        simp only [Option.bind_some, entry] at hheld ⊢
        cases hlookup : upnp.serverUdnMap.lookup udn with
        | some device =>
            simp only [hlookup] at hheld
            simp only [hheld]
            exact tsub_self _
        | none =>
            simp only [hlookup] at hheld
            rw [hheld]
            cases upnp.serverUcMap.lookup udn <;> rfl

/--
In every run of the service in which the construction step tells, whenever a
chain is started again, whether the device is still to be declared, the objects
on the bus are those that the manager and the devices hold, all five interfaces
of each device that is announced; and stopping it then leaves none but those of
the devices under construction.
-/
theorem bus_objects_balanced (convertUdnToPath : String → String)
    (answers : Fin managerInterfaceInfoMax → Nat) (pushHostPort : Nat)
    (events : List UpnpEvent)
    (hcondition : Meets (busStep convertUdnToPath) StepTells
      (prvControlPointStartService answers pushHostPort busContextNew).2
      events) :
    Always (busStep convertUdnToPath)
      (fun context => Balanced context ∧ FreedByStop context)
      (prvControlPointStartService answers pushHostPort busContextNew).2
      events :=
  guarded_run_always BusInv
    (fun _ hinv => ⟨balanced_of_inv hinv, freedByStop_of_inv hinv⟩)
    (fun _ _ _ => busInv_step) (busInv_start answers pushHostPort) hcondition

/-- A device whose declaration fails half way takes what it has published back. -/
def failedDeclaration : List UpnpEvent :=
  [.available "uuid:1" "10.0.0.1" fun _ => true,
   .runTask "uuid:1" goodAnswer, .runTask "uuid:1" goodAnswer,
   .runTask "uuid:1" ⟨none, fun i => if i.val < 2 then 7 + i.val else 0⟩,
   .available "uuid:1" "10.0.0.1" fun _ => true,
   .runTask "uuid:1" goodAnswer, .runTask "uuid:1" goodAnswer,
   .runTask "uuid:1" ⟨none, fun i => 20 + i.val⟩]

theorem bus_objects_balanced_failed_declaration :
    let start := (prvControlPointStartService (fun i => 1 + i.val) 0
      busContextNew).2
    (∃ context, exec (busStep id) start failedDeclaration = some context ∧
      context.deviceObjects "uuid:1" = {20, 21, 22, 23, 24}) ∧
      Always (busStep id)
        (fun context => Balanced context ∧ FreedByStop context) start
        failedDeclaration := by
  intro start
  have hcondition : Meets (busStep id) StepTells start failedDeclaration := by
    refine meets_of_forall_mem (fun event hmem context upnp _ => ?_) start
    simp only [failedDeclaration, List.mem_cons, List.not_mem_nil, or_false]
      at hmem
    rcases hmem with rfl | rfl | rfl | rfl | rfl | rfl | rfl | rfl <;> trivial
  exact ⟨⟨_, rfl, by decide⟩, bus_objects_balanced id _ 0 _ hcondition⟩

end DleynaRenderer.Server
