import DleynaRenderer.Foundation.EventSystem
import DleynaRenderer.Upnp.Registry

/-!
# One device of the registry

The two tables of the registry amount to one entry for each UDN: a device, with
its chain while it is under construction.  An event changes the entry of its
own UDN, by `entryChange`, and leaves the others alone.  Statements about a
device are proved of this machine and carried to the registry by `entry_step`.
-/

namespace DleynaRenderer.Upnp

open DleynaRenderer.Device DleynaRenderer.Player DleynaRenderer.PushHost
open EventSystem

structure Chain where
  ipAddress : String
  tasks : List ConstructTask
  deriving DecidableEq

/-- A device, with the chain that constructs it until it is announced. -/
structure Entry where
  device : DlrDevice
  chain : Option Chain

def Entry.update (entry : Entry) (change : DlrDevice → DlrDevice) : Entry :=
  { entry with device := change entry.device }

def Construction.entry (construction : Construction) : Entry :=
  ⟨construction.device, some ⟨construction.ipAddress, construction.tasks⟩⟩

def entry (upnp : DlrUpnp) (udn : String) : Option Entry :=
  match upnp.serverUdnMap.lookup udn with
  | some device => some ⟨device, none⟩
  | none => (upnp.serverUcMap.lookup udn).map Construction.entry

def keepEntry (lost : DeviceContext) (device : DlrDevice)
    (context : DeviceContext) : Option Chain → Entry
  | none => ⟨resubscribeLater lost device, none⟩
  | some chain =>
      if lost.ipAddress = chain.ipAddress then
        ⟨device, some ⟨context.ipAddress, dlrDeviceConstruct device context⟩⟩
      else ⟨resubscribeLater lost device, some chain⟩

def loseContext (ipAddress : String) (entry : Entry) : Option Entry :=
  match removeContext ipAddress entry.device with
  | none => some entry
  | some (lost, device) =>
      (dlrDeviceGetContext device).map fun context =>
        keepEntry lost device context entry.chain

def runEntryTask (answer : TaskAnswer) (entry : Entry) : Option Entry :=
  match entry.chain with
  | some ⟨ipAddress, task :: tasks⟩ =>
      match runConstructTask answer entry.device task with
      | (true, _) => none
      | (false, device) => some ⟨device, some ⟨ipAddress, tasks⟩⟩
  | _ => some entry

def endEntryChain (entry : Entry) : Entry :=
  match entry.chain with
  | some ⟨_, []⟩ => { entry with chain := none }
  | _ => entry

def entryChange (fresh : String → (Service → Bool) → Entry) :
    Option Entry → UpnpEvent → Option Entry
  | none, .available _ ipAddress services => some (fresh ipAddress services)
  | none, _ => none
  | some entry, .available _ ipAddress services =>
      some (entry.update (announceContext ipAddress services))
  | some entry, .unavailable _ ipAddress => loseContext ipAddress entry
  | some entry, .runTask _ answer => runEntryTask answer entry
  | some entry, .chainEnd _ => some (endEntryChain entry)
  | some entry, .subscribeTimeout _ =>
      some (entry.update prvSubscribeToServiceChanges)
  | some entry, .subscriptionLost _ ipAddress service =>
      some (entry.update
        (modifyContext ipAddress (emitSubscriptionLost service)))
  | some entry, .reEnable _ ipAddress service =>
      some (entry.update (modifyContext ipAddress (reEnableCb service)))
  | some entry, .player _ info event =>
      some (match playerStep info entry.device.player event with
        | none => entry
        | some player => entry.update (setPlayer player))
  | some entry, .hostFile _ _ _ _ => some entry
  | some entry, .removeFile _ _ _ => some entry
  | some entry, .lostClient _ => some entry

/-- The UDN an event is about; the push host calls are about none. -/
def target : UpnpEvent → Option String
  | .available udn _ _ => some udn
  | .unavailable udn _ => some udn
  | .runTask udn _ => some udn
  | .chainEnd udn => some udn
  | .subscribeTimeout udn => some udn
  | .subscriptionLost udn _ _ => some udn
  | .reEnable udn _ _ => some udn
  | .player udn _ _ => some udn
  | .hostFile _ _ _ _ => none
  | .removeFile _ _ _ => none
  | .lostClient _ => none

def freshEntry (convertUdnToPath : String → String)
    (udn ipAddress : String) (services : Service → Bool) : Entry :=
  (newConstruction convertUdnToPath udn ipAddress services).entry

def entryLaw (convertUdnToPath : String → String) (udn : String)
    (entry : Option Entry) (event : UpnpEvent) : Option Entry :=
  if target event = some udn then
    entryChange (freshEntry convertUdnToPath udn) entry event
  else entry

def transition : Option Entry → Option Entry → List Signal
  | some ⟨device, none⟩, none => [.lostServer device.path]
  | some ⟨_, some _⟩, some ⟨device, none⟩ => [.foundServer device.path]
  | _, _ => []

def Apart (upnp : DlrUpnp) : Prop :=
  ∀ udn, upnp.serverUdnMap.lookup udn = none ∨
    upnp.serverUcMap.lookup udn = none

theorem findDevice_eq_entry (udn : String) (upnp : DlrUpnp) :
    findDevice udn upnp = (entry upnp udn).map Entry.device := by
  unfold findDevice entry
  cases upnp.serverUdnMap.lookup udn with
  | some device => rfl
  | none => simp [Function.comp_def, Construction.entry]

theorem lookup_constructed_iff {upnp : DlrUpnp} {udn : String}
    {device : DlrDevice} :
    upnp.serverUdnMap.lookup udn = some device ↔
      entry upnp udn = some ⟨device, none⟩ := by
  unfold entry
  cases upnp.serverUdnMap.lookup udn with
  | some other => simp
  | none => simp [Construction.entry]

theorem lookup_constructing_iff {upnp : DlrUpnp} (h : Apart upnp)
    {udn : String} {construction : Construction} :
    upnp.serverUcMap.lookup udn = some construction ↔
      entry upnp udn = some construction.entry := by
  unfold entry
  rcases h udn with hnone | hnone
  · rw [hnone]
    cases upnp.serverUcMap.lookup udn with
    | none => simp
    | some other =>
        cases other
        cases construction
        simp [Construction.entry, and_left_comm]
  · rw [hnone]
    cases upnp.serverUdnMap.lookup udn <;> simp [Construction.entry]

structure Changes (upnp : DlrUpnp) (udn : String) (result : Option Entry)
    (next : DlrUpnp) : Prop where
  entries : ∀ other,
    entry next other = if other = udn then result else entry upnp other
  apart : Apart next
  signals : next.signals = upnp.signals ++ transition (entry upnp udn) result
  hostService : next.hostService = upnp.hostService

section Store

variable {upnp : DlrUpnp} {udn : String} (h : Apart upnp)

include h

theorem Apart.not_constructing {device : DlrDevice}
    (hlookup : upnp.serverUdnMap.lookup udn = some device) :
    upnp.serverUcMap.lookup udn = none := by
  rcases h udn with hnone | hnone
  · rw [hnone] at hlookup
    contradiction
  · exact hnone

theorem Apart.not_constructed {construction : Construction}
    (hlookup : upnp.serverUcMap.lookup udn = some construction) :
    upnp.serverUdnMap.lookup udn = none := by
  rcases h udn with hnone | hnone
  · exact hnone
  · rw [hnone] at hlookup
    contradiction

theorem changes_none (udn : String) : Changes upnp udn (entry upnp udn) upnp where
  entries other := by
    split_ifs with heq
    · rw [heq]
    · rfl
  apart := h
  signals := by
    rcases entry upnp udn with _ | ⟨device, _ | chain⟩ <;> simp [transition]
  hostService := rfl

theorem changes_storeConstructed {old : DlrDevice}
    (hlookup : upnp.serverUdnMap.lookup udn = some old) (device : DlrDevice) :
    Changes upnp udn (some ⟨device, none⟩)
      (storeConstructed udn device upnp) where
  entries other := by
    simp only [entry, storeConstructed, HashTable.lookup_insert_eq]
    split_ifs <;> rfl
  apart other := by
    simp only [storeConstructed, HashTable.lookup_insert_eq]
    split_ifs with heq
    · exact .inr (heq ▸ h.not_constructing hlookup)
    · exact h other
  signals := by
    rw [lookup_constructed_iff.mp hlookup]
    exact (List.append_nil _).symm
  hostService := rfl

theorem changes_storeConstructing
    (hnone : upnp.serverUdnMap.lookup udn = none)
    (construction : Construction) :
    Changes upnp udn (some construction.entry)
      (storeConstructing udn construction upnp) where
  entries other := by
    simp only [entry, storeConstructing, HashTable.lookup_insert_eq]
    split_ifs with heq
    · subst heq
      simp [hnone]
    · rfl
  apart other := by
    simp only [storeConstructing, HashTable.lookup_insert_eq]
    split_ifs with heq
    · exact .inl (heq ▸ hnone)
    · exact h other
  signals := by
    simp only [entry, hnone]
    cases upnp.serverUcMap.lookup udn <;>
      simp [transition, Construction.entry, storeConstructing]
  hostService := rfl

theorem changes_modifyDevice (udn : String) (update : DlrDevice → DlrDevice) :
    Changes upnp udn ((entry upnp udn).map (·.update update))
      (modifyDevice udn update upnp) := by
  unfold modifyDevice
  cases hudn : upnp.serverUdnMap.lookup udn with
  | some device =>
      rw [lookup_constructed_iff.mp hudn]
      exact changes_storeConstructed h hudn (update device)
  | none =>
      cases huc : upnp.serverUcMap.lookup udn with
      | some construction =>
          rw [(lookup_constructing_iff h).mp huc]
          exact changes_storeConstructing h hudn
            { construction with device := update construction.device }
      | none =>
          have hentry : entry upnp udn = none := by simp [entry, hudn, huc]
          have hsame := changes_none h udn
          rw [hentry] at hsame ⊢
          exact hsame

theorem changes_of_update {fresh : String → (Service → Bool) → Entry}
    {event : UpnpEvent} {update : DlrDevice → DlrDevice}
    (hnone : entryChange fresh none event = none)
    (hsome : ∀ found,
      entryChange fresh (some found) event = some (found.update update)) :
    Changes upnp udn (entryChange fresh (entry upnp udn) event)
      (modifyDevice udn update upnp) := by
  have hchanges := changes_modifyDevice h udn update
  cases hentry : entry upnp udn with
  | none =>
      rw [hnone]
      rwa [hentry] at hchanges
  | some found =>
      rw [hsome]
      rwa [hentry] at hchanges

theorem changes_prvDeviceChainEnd (cancelled : Bool)
    {construction : Construction}
    (hlookup : upnp.serverUcMap.lookup udn = some construction)
    (ended : Construction) :
    Changes upnp udn (if cancelled then none else some ⟨ended.device, none⟩)
      (prvDeviceChainEnd cancelled udn ended upnp) := by
  have hnone := h.not_constructed hlookup
  cases cancelled with
  | true =>
      refine ⟨fun other => ?_, fun other => ?_, ?_, rfl⟩
      · simp only [entry, prvDeviceChainEnd, HashTable.lookup_erase_eq, if_true]
        split_ifs with heq
        · subst heq
          simp [hnone]
        · rfl
      · simp only [prvDeviceChainEnd, HashTable.lookup_erase_eq, if_true]
        split_ifs
        · exact .inr rfl
        · exact h other
      · rw [(lookup_constructing_iff h).mp hlookup]
        exact (List.append_nil _).symm
  | false =>
      refine ⟨fun other => ?_, fun other => ?_, ?_, rfl⟩
      · simp only [entry, prvDeviceChainEnd, HashTable.lookup_erase_eq,
          HashTable.lookup_insert_eq, Bool.false_eq_true, if_false]
        split_ifs <;> rfl
      · simp only [prvDeviceChainEnd, HashTable.lookup_erase_eq,
          HashTable.lookup_insert_eq, Bool.false_eq_true, if_false]
        split_ifs
        · exact .inr rfl
        · exact h other
      · rw [(lookup_constructing_iff h).mp hlookup]
        rfl

theorem changes_eraseConstructed {device : DlrDevice}
    (hlookup : upnp.serverUdnMap.lookup udn = some device) :
    Changes upnp udn none { upnp with
      signals := upnp.signals ++ [.lostServer device.path]
      serverUdnMap := upnp.serverUdnMap.erase udn } where
  entries other := by
    simp only [entry, HashTable.lookup_erase_eq]
    split_ifs with heq
    · subst heq
      simp [h.not_constructing hlookup]
    · rfl
  apart other := by
    simp only [HashTable.lookup_erase_eq]
    split_ifs
    · exact .inl rfl
    · exact h other
  signals := by
    rw [lookup_constructed_iff.mp hlookup]
    rfl
  hostService := rfl

/-! ## Steps -/

theorem changes_prvServerAvailableCb (convertUdnToPath : String → String)
    (ipAddress : String) (services : Service → Bool) :
    Changes upnp udn
      (entryChange (freshEntry convertUdnToPath udn) (entry upnp udn)
        (.available udn ipAddress services))
      (prvServerAvailableCb convertUdnToPath udn ipAddress services upnp) := by
  unfold prvServerAvailableCb
  rw [findDevice_eq_entry]
  cases hentry : entry upnp udn with
  | some found =>
      have hmodify := changes_modifyDevice h udn
        (announceContext ipAddress services)
      rw [hentry] at hmodify
      exact hmodify
  | none =>
      have hnone : upnp.serverUdnMap.lookup udn = none := by
        cases hudn : upnp.serverUdnMap.lookup udn with
        | none => rfl
        | some device =>
            rw [lookup_constructed_iff.mp hudn] at hentry
            contradiction
      exact changes_storeConstructing h hnone _

theorem changes_unavailableConstructed {device : DlrDevice}
    (hlookup : upnp.serverUdnMap.lookup udn = some device)
    (ipAddress : String) :
    Changes upnp udn (loseContext ipAddress ⟨device, none⟩)
      (unavailableConstructed udn ipAddress device upnp) := by
  unfold unavailableConstructed loseContext
  cases hremoved : removeContext ipAddress device with
  | none =>
      have hsame := changes_none h udn
      rw [lookup_constructed_iff.mp hlookup] at hsame
      exact hsame
  | some removed =>
      obtain ⟨lost, kept⟩ := removed
      have hpath : kept.path = device.path := by
        rw [(removeContext_spec hremoved).2.2]
      by_cases hnil : kept.contexts = []
      · simp only [hnil, if_true, hpath]
        rw [dlrDeviceGetContext_eq_none_iff.mpr hnil, Option.map_none]
        exact changes_eraseConstructed h hlookup
      · obtain ⟨context, hcontext⟩ := Option.ne_none_iff_exists'.mp
          fun hnone => hnil (dlrDeviceGetContext_eq_none_iff.mp hnone)
        simp only [hnil, if_false, hcontext, Option.map_some]
        exact changes_storeConstructed h hlookup _

theorem changes_unavailableConstructing {construction : Construction}
    (hlookup : upnp.serverUcMap.lookup udn = some construction)
    (ipAddress : String) :
    Changes upnp udn (loseContext ipAddress construction.entry)
      (unavailableConstructing udn ipAddress construction upnp) := by
  have hnone := h.not_constructed hlookup
  unfold unavailableConstructing loseContext
  cases hremoved : removeContext ipAddress construction.device with
  | none =>
      have hsame := changes_none h udn
      rw [(lookup_constructing_iff h).mp hlookup] at hsame
      simpa [Construction.entry, hremoved] using hsame
  | some removed =>
      obtain ⟨lost, kept⟩ := removed
      simp only [Construction.entry, hremoved]
      cases hcontext : dlrDeviceGetContext kept with
      | none => exact changes_prvDeviceChainEnd h true hlookup construction
      | some context =>
          simp only [Option.map_some, keepEntry]
          split_ifs
          · exact changes_storeConstructing h hnone
              ⟨context.ipAddress, kept, dlrDeviceConstruct kept context⟩
          · exact changes_storeConstructing h hnone
              { construction with device := resubscribeLater lost kept }

theorem changes_prvServerUnavailableCb (fresh : String → (Service → Bool) → Entry)
    (ipAddress : String) :
    Changes upnp udn
      (entryChange fresh (entry upnp udn) (.unavailable udn ipAddress))
      (prvServerUnavailableCb udn ipAddress upnp) := by
  unfold prvServerUnavailableCb
  cases hudn : upnp.serverUdnMap.lookup udn with
  | some device =>
      rw [lookup_constructed_iff.mp hudn]
      exact changes_unavailableConstructed h hudn ipAddress
  | none =>
      cases huc : upnp.serverUcMap.lookup udn with
      | some construction =>
          rw [(lookup_constructing_iff h).mp huc]
          exact changes_unavailableConstructing h huc ipAddress
      | none =>
          have hentry : entry upnp udn = none := by simp [entry, hudn, huc]
          have hsame := changes_none h udn
          rw [hentry] at hsame ⊢
          exact hsame

theorem changes_runTask {answer : TaskAnswer} {next : DlrUpnp}
    (hstep : runTask udn answer upnp = some next) :
    Changes upnp udn ((entry upnp udn).bind (runEntryTask answer)) next := by
  unfold runTask at hstep
  split at hstep
  case h_1 ipAddress device task tasks hlookup =>
    rw [(lookup_constructing_iff h).mp hlookup, Option.bind_some]
    simp only [runEntryTask, Construction.entry]
    rcases hrun : runConstructTask answer device task with ⟨_ | _, after⟩
    · simp only [hrun, Option.some.injEq] at hstep
      subst hstep
      exact changes_storeConstructing h (h.not_constructed hlookup)
        ⟨ipAddress, after, tasks⟩
    · simp only [hrun, Option.some.injEq] at hstep
      subst hstep
      exact changes_prvDeviceChainEnd h true hlookup ⟨ipAddress, after, tasks⟩
  case h_2 => contradiction

theorem changes_endChain {next : DlrUpnp}
    (hstep : endChain udn upnp = some next) :
    Changes upnp udn
      ((entry upnp udn).map endEntryChain) next := by
  unfold endChain at hstep
  split at hstep
  case h_1 ipAddress device hlookup =>
    obtain rfl := Option.some.inj hstep
    rw [(lookup_constructing_iff h).mp hlookup]
    exact changes_prvDeviceChainEnd h false hlookup ⟨ipAddress, device, []⟩
  case h_2 => contradiction

end Store

def SameDevices (upnp other : DlrUpnp) : Prop :=
  { upnp with hostService := other.hostService } = other

theorem sameDevices_dlrUpnpHostUri (client path file : String) (env : HostEnv)
    (upnp : DlrUpnp) :
    SameDevices upnp (dlrUpnpHostUri client path file env upnp).2 := by
  unfold dlrUpnpHostUri
  split <;> rfl

theorem sameDevices_dlrUpnpRemoveUri (client path file : String)
    (upnp : DlrUpnp) :
    SameDevices upnp (dlrUpnpRemoveUri client path file upnp).2 := by
  unfold dlrUpnpRemoveUri
  split
  · rfl
  · split <;> rfl

/-- Every step changes one entry by its law, or no device at all. -/
theorem upnpStep_cases {convertUdnToPath : String → String}
    {upnp next : DlrUpnp} {event : UpnpEvent} (h : Apart upnp)
    (hstep : upnpStep convertUdnToPath upnp event = some next) :
    (∃ udn, target event = some udn ∧
      Changes upnp udn
        (entryChange (freshEntry convertUdnToPath udn) (entry upnp udn) event)
        next) ∨
      (target event = none ∧ SameDevices upnp next) := by
  cases event with
  | available udn ipAddress services =>
      obtain rfl := Option.some.inj hstep
      exact .inl ⟨udn, rfl,
        changes_prvServerAvailableCb h convertUdnToPath ipAddress services⟩
  | unavailable udn ipAddress =>
      obtain rfl := Option.some.inj hstep
      exact .inl ⟨udn, rfl, changes_prvServerUnavailableCb h _ ipAddress⟩
  | runTask udn answer =>
      have hchanges := changes_runTask h hstep
      refine .inl ⟨udn, rfl, ?_⟩
      cases hentry : entry upnp udn <;> simpa [hentry, entryChange] using hchanges
  | chainEnd udn =>
      have hchanges := changes_endChain h hstep
      refine .inl ⟨udn, rfl, ?_⟩
      cases hentry : entry upnp udn <;> simpa [hentry, entryChange] using hchanges
  | subscribeTimeout udn =>
      simp only [upnpStep] at hstep
      split at hstep
      case h_1 => contradiction
      case h_2 =>
        obtain rfl := Option.some.inj (Option.ite_none_right_eq_some.mp hstep).2
        exact .inl ⟨udn, rfl, changes_of_update h rfl fun _ => rfl⟩
  | subscriptionLost udn ipAddress service =>
      obtain rfl := Option.some.inj hstep
      exact .inl ⟨udn, rfl, changes_of_update h rfl fun _ => rfl⟩
  | reEnable udn ipAddress service =>
      simp only [upnpStep] at hstep
      split at hstep
      case h_1 => contradiction
      case h_2 =>
        obtain rfl := Option.some.inj (Option.ite_none_right_eq_some.mp hstep).2
        exact .inl ⟨udn, rfl, changes_of_update h rfl fun _ => rfl⟩
  | player udn info event =>
      simp only [upnpStep, findDevice_eq_entry] at hstep
      cases hentry : entry upnp udn with
      | none => simp [hentry] at hstep
      | some found =>
          simp only [hentry, Option.map_some, Option.map_eq_some_iff] at hstep
          obtain ⟨player, hplayer, rfl⟩ := hstep
          have hchanges := changes_modifyDevice h udn (setPlayer player)
          refine .inl ⟨udn, rfl, ?_⟩
          simpa [hentry, entryChange, hplayer] using hchanges
  | hostFile client path file env =>
      obtain rfl := Option.some.inj hstep
      exact .inr ⟨rfl, sameDevices_dlrUpnpHostUri client path file env upnp⟩
  | removeFile client path file =>
      obtain rfl := Option.some.inj hstep
      exact .inr ⟨rfl, sameDevices_dlrUpnpRemoveUri client path file upnp⟩
  | lostClient client =>
      obtain rfl := Option.some.inj hstep
      exact .inr ⟨rfl, rfl⟩

theorem apart_dlrUpnpNew (pushHostPort : Nat) : Apart (dlrUpnpNew pushHostPort) :=
  fun _ => .inl rfl

theorem SameDevices.entry_eq {upnp other : DlrUpnp}
    (h : SameDevices upnp other) (udn : String) :
    entry other udn = entry upnp udn := by
  rw [← h]
  rfl

theorem apart_upnpStep {convertUdnToPath : String → String}
    {upnp next : DlrUpnp} {event : UpnpEvent} (h : Apart upnp)
    (hstep : upnpStep convertUdnToPath upnp event = some next) :
    Apart next := by
  rcases upnpStep_cases h hstep with ⟨udn, -, hchanges⟩ | ⟨-, hsame⟩
  · exact hchanges.apart
  · rw [← hsame]
    exact h

theorem apart_exec {convertUdnToPath : String → String} {pushHostPort : Nat}
    {events : List UpnpEvent} {upnp : DlrUpnp}
    (hrun : exec (upnpStep convertUdnToPath) (dlrUpnpNew pushHostPort) events =
      some upnp) : Apart upnp :=
  exec_invariant Apart (fun _ _ _ => apart_upnpStep)
    (apart_dlrUpnpNew pushHostPort) hrun

/-- The entry of every UDN follows its own law. -/
theorem entry_step {convertUdnToPath : String → String}
    {upnp next : DlrUpnp} {event : UpnpEvent} (h : Apart upnp)
    (hstep : upnpStep convertUdnToPath upnp event = some next) (udn : String) :
    entry next udn = entryLaw convertUdnToPath udn (entry upnp udn) event := by
  unfold entryLaw
  rcases upnpStep_cases h hstep with
    ⟨changed, htarget, hchanges⟩ | ⟨htarget, hsame⟩
  · rw [hchanges.entries udn, htarget]
    by_cases heq : udn = changed
    · subst heq
      simp
    · simp [heq, Ne.symm heq]
  · rw [htarget, hsame.entry_eq]
    simp

theorem entries_step {convertUdnToPath : String → String}
    (good : String → Entry → Prop) {upnp next : DlrUpnp} {event : UpnpEvent}
    (h : Apart upnp)
    (hstep : upnpStep convertUdnToPath upnp event = some next)
    (hkept : ∀ udn result, target event = some udn →
      entryChange (freshEntry convertUdnToPath udn) (entry upnp udn) event =
        some result → good udn result)
    (hgood : ∀ udn before, entry upnp udn = some before → good udn before) :
    ∀ udn after, entry next udn = some after → good udn after := by
  intro udn after hafter
  rw [entry_step h hstep, entryLaw] at hafter
  split_ifs at hafter with htarget
  · exact hkept udn after htarget hafter
  · exact hgood udn after hafter

end DleynaRenderer.Upnp
