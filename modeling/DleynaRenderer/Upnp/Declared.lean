import DleynaRenderer.Upnp.Entry

/-!
# Announced devices and their declaration

A device is announced when its chain ends, and its interfaces should then have
been published, once.  The chain that takes over on another context tells from
the construction step if `prv_declare` is still to run; this is right as long
as the step and the declaration agree whenever a chain changes its context.
-/

namespace DleynaRenderer.Upnp

open DleynaRenderer.Device DleynaRenderer.Player DleynaRenderer.PushHost
open EventSystem

/-- `prv_declare` has run once, and published every interface. -/
def Declared (device : DlrDevice) : Prop :=
  device.declares = 1 ∧ ∀ i, device.ids i ≠ 0

instance (device : DlrDevice) : Decidable (Declared device) :=
  inferInstanceAs (Decidable (_ ∧ _))

def AnnouncedDeclared (upnp : DlrUpnp) : Prop :=
  ∀ device ∈ HashTable.values upnp.serverUdnMap, Declared device

instance (upnp : DlrUpnp) : Decidable (AnnouncedDeclared upnp) :=
  inferInstanceAs (Decidable (∀ device ∈ _, _))

def switchesContext (ipAddress : String) (construction : Construction) : Bool :=
  match removeContext ipAddress construction.device with
  | none => false
  | some (lost, device) =>
      (dlrDeviceGetContext device).isSome &&
        lost.ipAddress = construction.ipAddress

/--
A device that switches its context has a construction step below three exactly
when it has not been declared.
-/
def StepTellsDeclared (upnp : DlrUpnp) : UpnpEvent → Prop
  | .unavailable udn ipAddress =>
      ∀ construction ∈ upnp.serverUcMap.lookup udn,
        switchesContext ipAddress construction →
        (construction.device.constructStep < 3 ↔
          construction.device.declares = 0)
  | _ => True

instance (upnp : DlrUpnp) (event : UpnpEvent) :
    Decidable (StepTellsDeclared upnp event) :=
  match event with
  | .unavailable _ _ => inferInstanceAs (Decidable (∀ construction ∈ _, _))
  | .available .. | .runTask .. | .chainEnd .. | .subscribeTimeout ..
  | .subscriptionLost .. | .reEnable .. | .player .. | .hostFile ..
  | .removeFile .. | .lostClient .. =>
      inferInstanceAs (Decidable True)

def DeclarePlanned (device : DlrDevice) (tasks : List ConstructTask) : Prop :=
  (device.declares = 0 ∧ tasks.count .declare = 1) ∨
    (Declared device ∧ tasks.count .declare = 0)

def DeclareInv (entry : Entry) : Prop :=
  match entry.chain with
  | none => Declared entry.device
  | some chain => DeclarePlanned entry.device chain.tasks

def SameDeclaration (device other : DlrDevice) : Prop :=
  other.declares = device.declares ∧ other.ids = device.ids

theorem SameDeclaration.declared {device other : DlrDevice}
    (h : SameDeclaration device other) : Declared other ↔ Declared device := by
  unfold Declared
  rw [h.1, h.2]

theorem SameDeclaration.planned {device other : DlrDevice}
    (h : SameDeclaration device other) (tasks : List ConstructTask) :
    DeclarePlanned other tasks ↔ DeclarePlanned device tasks := by
  unfold DeclarePlanned
  rw [h.declared, h.1]

theorem SameDeclaration.inv {device other : DlrDevice}
    (h : SameDeclaration device other) (chain : Option Chain) :
    DeclareInv ⟨other, chain⟩ ↔ DeclareInv ⟨device, chain⟩ := by
  cases chain with
  | none => exact h.declared
  | some chain => exact h.planned chain.tasks

theorem SameDeclaration.refl (device : DlrDevice) :
    SameDeclaration device device :=
  ⟨rfl, rfl⟩

theorem sameDeclaration_of_contexts {device other : DlrDevice}
    (h : SameButContexts device other) : SameDeclaration device other := by
  rw [← h]
  exact ⟨rfl, rfl⟩

theorem sameDeclaration_announceContext (ipAddress : String)
    (services : Service → Bool) (device : DlrDevice) :
    SameDeclaration device (announceContext ipAddress services device) := by
  unfold announceContext
  split
  · exact .refl device
  · exact sameDeclaration_of_contexts
      (sameButContexts_dlrDeviceAppendNewContext ipAddress services device)

theorem sameDeclaration_resubscribeLater (lost : DeviceContext)
    (device : DlrDevice) :
    SameDeclaration device (resubscribeLater lost device) := by
  unfold resubscribeLater
  split <;> exact ⟨rfl, rfl⟩

theorem sameDeclaration_prvGetProtocolInfo (hasProxy : Bool)
    (result : Option String) (device : DlrDevice) :
    SameDeclaration device (prvGetProtocolInfo hasProxy result device) := by
  unfold prvGetProtocolInfo prvGetProtocolInfoCb
  cases hasProxy <;> cases result <;> exact ⟨rfl, rfl⟩

theorem sameDeclaration_prvSubscribe (device : DlrDevice) :
    SameDeclaration device (prvSubscribe device) := by
  have hsame := sameDeclaration_of_contexts
    (sameButContexts_prvDeviceSubscribeContext (countStep device))
  exact ⟨hsame.1, hsame.2⟩

theorem count_dlrDeviceConstruct (device : DlrDevice)
    (context : DeviceContext) :
    (dlrDeviceConstruct device context).count .declare =
      if device.constructStep < 3 then 1 else 0 := by
  unfold dlrDeviceConstruct
  split_ifs <;> simp

theorem declareInv_freshEntry (convertUdnToPath : String → String)
    (udn ipAddress : String) (services : Service → Bool) :
    DeclareInv (freshEntry convertUdnToPath udn ipAddress services) :=
  .inl ⟨rfl, count_dlrDeviceConstruct _ _⟩

theorem declareInv_switched {device : DlrDevice} {tasks : List ConstructTask}
    (h : DeclarePlanned device tasks)
    (hstep : device.constructStep < 3 ↔ device.declares = 0)
    (context : DeviceContext) :
    DeclarePlanned device (dlrDeviceConstruct device context) := by
  unfold DeclarePlanned
  rw [count_dlrDeviceConstruct]
  rcases h with ⟨hzero, -⟩ | ⟨hdeclared, -⟩
  · exact .inl ⟨hzero, if_pos (hstep.mpr hzero)⟩
  · refine .inr ⟨hdeclared, if_neg ?_⟩
    rw [hstep, hdeclared.1]
    decide

theorem declareInv_loseContext {ipAddress : String} {entry result : Entry}
    (h : DeclareInv entry)
    (hstep : ∀ chain, entry.chain = some chain →
      switchesContext ipAddress ⟨chain.ipAddress, entry.device, chain.tasks⟩ →
      (entry.device.constructStep < 3 ↔ entry.device.declares = 0))
    (hresult : loseContext ipAddress entry = some result) :
    DeclareInv result := by
  obtain ⟨device, chain⟩ := entry
  unfold loseContext at hresult
  cases hremoved : removeContext ipAddress device with
  | none =>
      simp only [hremoved, Option.some.injEq] at hresult
      exact hresult ▸ h
  | some removed =>
      obtain ⟨lost, kept⟩ := removed
      have hkept := (removeContext_spec hremoved).2.2
      have hsame : SameDeclaration device kept := by
        rw [hkept]
        exact ⟨rfl, rfl⟩
      have hlater : SameDeclaration device (resubscribeLater lost kept) :=
        ⟨(sameDeclaration_resubscribeLater lost kept).1.trans hsame.1,
          (sameDeclaration_resubscribeLater lost kept).2.trans hsame.2⟩
      simp only [hremoved, Option.map_eq_some_iff] at hresult
      obtain ⟨context, hcontext, rfl⟩ := hresult
      cases chain with
      | none => exact (hlater.inv none).mpr h
      | some chain =>
          unfold keepEntry
          simp only
          split
          case isFalse hother => exact (hlater.inv (some chain)).mpr h
          -- the step alone decides whether the declaration is queued again
          case isTrue hchain =>
            have hswitch : switchesContext ipAddress
                ⟨chain.ipAddress, device, chain.tasks⟩ := by
              simp [switchesContext, hremoved, hcontext, hchain]
            have hsteps := hstep chain rfl hswitch
            refine declareInv_switched ((hsame.planned chain.tasks).mpr h) ?_
              context
            rw [hsame.1, hkept]
            exact hsteps

theorem declareInv_runEntryTask {answer : TaskAnswer} {entry result : Entry}
    (h : DeclareInv entry)
    (hresult : runEntryTask answer entry = some result) :
    DeclareInv result := by
  obtain ⟨device, _ | ⟨ipAddress, _ | ⟨task, tasks⟩⟩⟩ := entry
  · exact Option.some.inj hresult ▸ h
  · exact Option.some.inj hresult ▸ h
  · cases task with
    | getProtocolInfo hasProxy =>
        obtain rfl := Option.some.inj hresult
        have hsame := sameDeclaration_prvGetProtocolInfo hasProxy answer.sink
          device
        refine (hsame.planned tasks).mpr ?_
        simpa [DeclareInv, DeclarePlanned] using h
    | subscribe =>
        obtain rfl := Option.some.inj hresult
        refine ((sameDeclaration_prvSubscribe device).planned tasks).mpr ?_
        simpa [DeclareInv, DeclarePlanned] using h
    | declare =>
        simp only [runEntryTask, runConstructTask, prvDeclare] at hresult
        split at hresult
        case h_1 => contradiction
        case h_2 after hdeclare =>
          obtain rfl := Option.some.inj hresult
          simp only [Prod.mk.injEq, decide_eq_false_iff_not, not_exists] at hdeclare
          obtain ⟨hpublished, rfl⟩ := hdeclare
          rcases h with ⟨hzero, hcount⟩ | ⟨-, hcount⟩
          · refine .inr ⟨⟨?_, fun i => ?_⟩, ?_⟩
            · simpa [hpublished, countStep] using hzero
            · simp [publishedIds, hpublished]
            · simpa using hcount
          -- a declared device has no declaration queued
          · simp at hcount

theorem declareInv_entryChange {convertUdnToPath : String → String}
    {upnp : DlrUpnp} {event : UpnpEvent} {udn : String} {result : Entry}
    (hapart : Apart upnp) (hguard : StepTellsDeclared upnp event)
    (htarget : target event = some udn)
    (h : ∀ before, entry upnp udn = some before → DeclareInv before)
    (hresult : entryChange (freshEntry convertUdnToPath udn) (entry upnp udn)
      event = some result) : DeclareInv result := by
  cases hentry : entry upnp udn with
  | none =>
      rw [hentry] at hresult
      cases event with
      | available other ipAddress services =>
          obtain rfl := Option.some.inj hresult
          exact declareInv_freshEntry convertUdnToPath udn ipAddress services
      | _ => simp [entryChange] at hresult
  | some before =>
      have hinv := h before hentry
      rw [hentry] at hresult
      cases event with
      | available other ipAddress services =>
          obtain rfl := Option.some.inj hresult
          exact ((sameDeclaration_announceContext ipAddress services
            before.device).inv before.chain).mpr hinv
      | unavailable other ipAddress =>
          obtain rfl := Option.some.inj htarget
          refine declareInv_loseContext hinv ?_ hresult
          intro chain hchain hswitch
          obtain ⟨device, _⟩ := before
          obtain rfl := hchain
          exact hguard ⟨chain.ipAddress, device, chain.tasks⟩
            ((lookup_constructing_iff hapart).mpr hentry) hswitch
      | runTask other answer => exact declareInv_runEntryTask hinv hresult
      | chainEnd other =>
          obtain rfl := Option.some.inj hresult
          obtain ⟨device, _ | ⟨ipAddress, _ | ⟨task, tasks⟩⟩⟩ := before
          · exact hinv
          -- no task is left: what was planned has been done
          · rcases hinv with ⟨-, hcount⟩ | ⟨hdeclared, -⟩
            · simp at hcount
            · exact hdeclared
          · exact hinv
      | player other info event =>
          obtain rfl := Option.some.inj hresult
          split
          · exact hinv
          · exact hinv
      | _ => exact Option.some.inj hresult ▸ hinv

/-! ## The construction step -/

/-- The event runs a task that counts: one without a proxy to ask does not. -/
def countsStep (before : Entry) : UpnpEvent → Bool
  | .runTask _ _ =>
      match before.chain with
      | some ⟨_, task :: _⟩ => task ≠ .getProtocolInfo false
      | _ => false
  | _ => false

theorem constructStep_runConstructTask (answer : TaskAnswer)
    (device : DlrDevice) (task : ConstructTask) :
    (runConstructTask answer device task).2.constructStep =
      if task ≠ .getProtocolInfo false then (device.constructStep + 1) % 2 ^ 32
      else device.constructStep := by
  cases task with
  | getProtocolInfo hasProxy =>
      cases hasProxy with
      | false => rfl
      | true => cases hsink : answer.sink <;> simp [runConstructTask,
          prvGetProtocolInfo, prvGetProtocolInfoCb, countStep, hsink]
  | subscribe =>
      rw [if_pos (by simp)]
      have hsame := sameButContexts_prvDeviceSubscribeContext (countStep device)
      rw [runConstructTask, prvSubscribe, ← hsame]
      rfl
  | declare => rfl

theorem constructStep_of_contexts {device other : DlrDevice}
    (h : SameButContexts device other) :
    other.constructStep = device.constructStep := by
  rw [← h]

theorem constructStep_announceContext (ipAddress : String)
    (services : Service → Bool) (device : DlrDevice) :
    (announceContext ipAddress services device).constructStep =
      device.constructStep := by
  unfold announceContext
  split
  · rfl
  · exact constructStep_of_contexts
      (sameButContexts_dlrDeviceAppendNewContext ipAddress services device)

theorem constructStep_resubscribeLater (lost : DeviceContext)
    (device : DlrDevice) :
    (resubscribeLater lost device).constructStep = device.constructStep := by
  unfold resubscribeLater
  split <;> rfl

theorem constructStep_loseContext {ipAddress : String} {before after : Entry}
    (h : loseContext ipAddress before = some after) :
    after.device.constructStep = before.device.constructStep := by
  unfold loseContext at h
  cases hremoved : removeContext ipAddress before.device with
  | none =>
      simp only [hremoved, Option.some.injEq] at h
      rw [h]
  | some removed =>
      obtain ⟨lost, kept⟩ := removed
      have hkept : kept.constructStep = before.device.constructStep := by
        rw [(removeContext_spec hremoved).2.2]
      simp only [hremoved, Option.map_eq_some_iff] at h
      obtain ⟨context, -, rfl⟩ := h
      unfold keepEntry
      split
      · exact (constructStep_resubscribeLater lost kept).trans hkept
      · split
        · exact hkept
        · exact (constructStep_resubscribeLater lost kept).trans hkept

theorem constructStep_entryChange {fresh : String → (Service → Bool) → Entry}
    {event : UpnpEvent} {before after : Entry}
    (h : entryChange fresh (some before) event = some after) :
    after.device.constructStep =
      if countsStep before event then
        (before.device.constructStep + 1) % 2 ^ 32
      else before.device.constructStep := by
  cases event with
  | available udn ipAddress services =>
      obtain rfl := Option.some.inj h
      exact constructStep_announceContext ipAddress services before.device
  | unavailable udn ipAddress => exact constructStep_loseContext h
  | runTask udn answer =>
      obtain ⟨device, _ | ⟨ipAddress, _ | ⟨task, tasks⟩⟩⟩ := before
      · exact Option.some.inj h ▸ rfl
      · exact Option.some.inj h ▸ rfl
      · have hstep := constructStep_runConstructTask answer device task
        simp only [entryChange, runEntryTask] at h
        split at h
        case h_1 => contradiction
        case h_2 next hnext =>
          obtain rfl := Option.some.inj h
          rw [hnext] at hstep
          simpa [countsStep] using hstep
  | chainEnd udn =>
      obtain rfl := Option.some.inj h
      obtain ⟨device, _ | ⟨ipAddress, _ | ⟨task, tasks⟩⟩⟩ := before
      · rfl
      · rfl
      · rfl
  | subscribeTimeout udn =>
      obtain rfl := Option.some.inj h
      rfl
  | player udn info event =>
      obtain rfl := Option.some.inj h
      cases playerStep info before.device.player event with
      | none => rfl
      | some player => rfl
  | _ => exact Option.some.inj h ▸ rfl

def countsFor (udn : String) (entry : Option Entry) (event : UpnpEvent) : Bool :=
  target event = some udn ∧ entry.any (countsStep · event)

theorem constructStep_entryLaw {convertUdnToPath : String → String}
    {udn : String} {before : Option Entry} {event : UpnpEvent} {after : Entry}
    {n : Nat} (h : entryLaw convertUdnToPath udn before event = some after)
    (hstart : ∀ entry, before = some entry →
      entry.device.constructStep = n % 2 ^ 32)
    (hnone : before = none → n = 0) :
    after.device.constructStep =
      (if countsFor udn before event then n + 1 else n) % 2 ^ 32 := by
  unfold entryLaw at h
  cases before with
  | none =>
      obtain rfl := hnone rfl
      split at h
      · cases event with
        | available other ipAddress services =>
            obtain rfl := Option.some.inj h
            simp [countsFor, freshEntry, newConstruction, dlrDeviceNew,
              Construction.entry]
        | _ => simp [entryChange] at h
      · contradiction
  | some entry =>
      have hentry := hstart entry rfl
      split at h
      case isTrue htarget =>
        have hcounts : countsFor udn (some entry) event =
            countsStep entry event := by simp [countsFor, htarget]
        rw [constructStep_entryChange h, hentry, hcounts]
        split
        · omega
        · rfl
      case isFalse htarget =>
        obtain rfl := Option.some.inj h
        simpa [countsFor, htarget] using hentry

def tasksRun (convertUdnToPath : String → String) (udn : String) :
    Option Entry → Nat → List UpnpEvent → Nat
  | _, n, [] => n
  | entry, n, event :: events =>
      let next := entryLaw convertUdnToPath udn entry event
      let n := if countsFor udn entry event then n + 1 else n
      tasksRun convertUdnToPath udn next (if next.isNone then 0 else n) events

theorem constructStep_exec {convertUdnToPath : String → String}
    {udn : String} {upnp last : DlrUpnp} {events : List UpnpEvent} {n : Nat}
    (hapart : Apart upnp)
    (hstart : ∀ before, entry upnp udn = some before →
      before.device.constructStep = n % 2 ^ 32)
    (hnone : entry upnp udn = none → n = 0)
    (hrun : exec (upnpStep convertUdnToPath) upnp events = some last)
    {after : Entry} (hafter : entry last udn = some after) :
    after.device.constructStep =
      tasksRun convertUdnToPath udn (entry upnp udn) n events % 2 ^ 32 := by
  induction events generalizing upnp n with
  | nil =>
      obtain rfl : upnp = last := by simpa using hrun
      exact hstart after hafter
  | cons event events ih =>
      obtain ⟨next, hstep, hrest⟩ := exec_cons_eq_some.mp hrun
      have hentry := entry_step hapart hstep udn
      rw [tasksRun, ← hentry]
      refine ih (apart_upnpStep hapart hstep) ?_ ?_ hrest
      · intro before hbefore
        rw [constructStep_entryLaw (hbefore ▸ hentry.symm) hstart hnone, hbefore]
        simp
      · intro hgone
        simp [hgone]

/-- The condition on a lost context, read on the tasks run so far. -/
theorem stepTellsDeclared_iff_tasksRun {convertUdnToPath : String → String}
    {pushHostPort : Nat} {events : List UpnpEvent} {upnp : DlrUpnp}
    (hrun : exec (upnpStep convertUdnToPath) (dlrUpnpNew pushHostPort) events =
      some upnp) (udn ipAddress : String) :
    StepTellsDeclared upnp (.unavailable udn ipAddress) ↔
      ∀ construction ∈ upnp.serverUcMap.lookup udn,
        switchesContext ipAddress construction →
        (tasksRun convertUdnToPath udn none 0 events % 2 ^ 32 < 3 ↔
          construction.device.declares = 0) := by
  have hapart : Apart (dlrUpnpNew pushHostPort) := apart_dlrUpnpNew pushHostPort
  refine forall₂_congr fun construction hmem => imp_congr_right fun _ => ?_
  have hentry := (lookup_constructing_iff (apart_exec hrun)).mp hmem
  have hnone : entry (dlrUpnpNew pushHostPort) udn = none := rfl
  have hstep := constructStep_exec hapart (by simp [hnone]) (fun _ => rfl) hrun
    hentry
  rw [hnone] at hstep
  rw [← hstep]
  rfl

/-! ## Runs -/

def DeclareStateInv (upnp : DlrUpnp) : Prop :=
  Apart upnp ∧ ∀ udn before, entry upnp udn = some before → DeclareInv before

theorem declareStateInv_step {convertUdnToPath : String → String}
    {upnp next : DlrUpnp} {event : UpnpEvent} (h : DeclareStateInv upnp)
    (hguard : StepTellsDeclared upnp event)
    (hstep : upnpStep convertUdnToPath upnp event = some next) :
    DeclareStateInv next := by
  refine ⟨apart_upnpStep h.1 hstep, ?_⟩
  refine entries_step (fun _ => DeclareInv) h.1 hstep ?_ h.2
  intro udn result htarget hresult
  exact declareInv_entryChange h.1 hguard htarget (h.2 udn) hresult

theorem announcedDeclared_of_inv {upnp : DlrUpnp} (h : DeclareStateInv upnp) :
    AnnouncedDeclared upnp := by
  intro device hmem
  obtain ⟨udn, hlookup⟩ := HashTable.mem_values_iff.mp hmem
  exact h.2 udn _ (lookup_constructed_iff.mp hlookup)

/-- Every device is declared, once, when it is announced. -/
theorem announced_devices_declared (convertUdnToPath : String → String)
    (pushHostPort : Nat) (events : List UpnpEvent)
    (hcondition : Meets (upnpStep convertUdnToPath) StepTellsDeclared
      (dlrUpnpNew pushHostPort) events) :
    Always (upnpStep convertUdnToPath) AnnouncedDeclared
      (dlrUpnpNew pushHostPort) events := by
  have hinit : DeclareStateInv (dlrUpnpNew pushHostPort) :=
    ⟨apart_dlrUpnpNew pushHostPort, fun udn before hentry =>
      absurd hentry (by simp [entry, dlrUpnpNew])⟩
  exact guarded_run_always DeclareStateInv
    (fun _ => announcedDeclared_of_inv)
    (fun _ _ _ => declareStateInv_step) hinit hcondition

def goodAnswer : TaskAnswer := ⟨some "http-get:*:audio/mpeg:*", fun _ => 1⟩

/-- The chain changes its context twice, each time after `prv_subscribe`. -/
def twoSwitches : List UpnpEvent :=
  [.available "uuid:1" "10.0.0.1" fun _ => true,
   .available "uuid:1" "10.0.0.2" fun _ => true,
   .available "uuid:1" "10.0.0.3" fun _ => true,
   .runTask "uuid:1" goodAnswer, .runTask "uuid:1" goodAnswer,
   .unavailable "uuid:1" "10.0.0.1", .runTask "uuid:1" goodAnswer,
   .unavailable "uuid:1" "10.0.0.2", .runTask "uuid:1" goodAnswer,
   .chainEnd "uuid:1"]

theorem undeclared_device_announced :
    ¬ ∀ convertUdnToPath pushHostPort events,
      Always (upnpStep convertUdnToPath) AnnouncedDeclared
        (dlrUpnpNew pushHostPort) events := by
  intro h
  have hrun : (exec (upnpStep id) (dlrUpnpNew 0) twoSwitches).map
      (fun upnp => (upnp.signals, decide (AnnouncedDeclared upnp))) =
        some ([.foundServer "/com/intel/dLeynaRenderer/server/uuid:1"],
          false) := by decide +kernel
  obtain ⟨upnp, hexec, hdeclared⟩ := Option.map_eq_some_iff.mp hrun
  have hgood := always_iff_prefix.mp (h id 0 twoSwitches) twoSwitches
    (List.prefix_refl _) upnp hexec
  simp [hgood] at hdeclared

def oneSwitch : List UpnpEvent :=
  [.available "uuid:1" "10.0.0.1" fun _ => true,
   .available "uuid:1" "10.0.0.2" fun _ => true,
   .runTask "uuid:1" goodAnswer, .unavailable "uuid:1" "10.0.0.1",
   .runTask "uuid:1" goodAnswer, .runTask "uuid:1" goodAnswer,
   .chainEnd "uuid:1"]

theorem announced_devices_declared_one_switch :
    Meets (upnpStep id) StepTellsDeclared (dlrUpnpNew 0) oneSwitch ∧
      Always (upnpStep id) AnnouncedDeclared (dlrUpnpNew 0) oneSwitch := by
  have hcondition : Meets (upnpStep id) StepTellsDeclared (dlrUpnpNew 0)
      oneSwitch := by decide +kernel
  exact ⟨hcondition, announced_devices_declared id 0 oneSwitch hcondition⟩

end DleynaRenderer.Upnp
