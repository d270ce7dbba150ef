import DleynaRenderer.Upnp.Entry

/-!
# The end of a construction

A device under construction can always go on, whatever else happens, and each
step of its chain brings it nearer to being announced.  Only the network can
make a chain start again, so the steps of all chains of a UDN are bounded by
what the network reports about it.
-/

namespace DleynaRenderer.Upnp

open DleynaRenderer.Device EventSystem

def remaining (entry : Entry) : Nat :=
  match entry.chain with
  | none => 0
  | some chain => chain.tasks.length + 1

def isChainStep (udn : String) : UpnpEvent → Bool
  | .runTask other _ => other = udn
  | .chainEnd other => other = udn
  | _ => false

def isNetworkEvent (udn : String) : UpnpEvent → Bool
  | .available other _ _ => other = udn
  | .unavailable other _ => other = udn
  | _ => false

def chainSteps (udn : String) (events : List UpnpEvent) : Nat :=
  events.countP (isChainStep udn)

def networkEvents (udn : String) (events : List UpnpEvent) : Nat :=
  events.countP (isNetworkEvent udn)

/-- The UDN is not reported lost, and each of its interfaces is published. -/
def Calm (udn : String) : UpnpEvent → Prop
  | .unavailable other _ => other ≠ udn
  | .runTask other answer => other = udn → ∀ i, answer.ids i ≠ 0
  | _ => True

theorem entry_of_runTask {upnp next : DlrUpnp} (h : Apart upnp) {udn : String}
    {answer : TaskAnswer} (hstep : runTask udn answer upnp = some next) :
    ∃ device ipAddress task tasks,
      entry upnp udn = some ⟨device, some ⟨ipAddress, task :: tasks⟩⟩ := by
  unfold runTask at hstep
  cases hlookup : upnp.serverUcMap.lookup udn with
  | none => simp [hlookup] at hstep
  | some construction =>
      obtain ⟨ipAddress, device, _ | ⟨task, tasks⟩⟩ := construction
      · simp [hlookup] at hstep
      · exact ⟨device, ipAddress, task, tasks,
          (lookup_constructing_iff h).mp hlookup⟩

theorem entry_of_endChain {upnp next : DlrUpnp} (h : Apart upnp) {udn : String}
    (hstep : endChain udn upnp = some next) :
    ∃ device ipAddress, entry upnp udn = some ⟨device, some ⟨ipAddress, []⟩⟩ := by
  unfold endChain at hstep
  cases hlookup : upnp.serverUcMap.lookup udn with
  | none => simp [hlookup] at hstep
  | some construction =>
      obtain ⟨ipAddress, device, _ | ⟨task, tasks⟩⟩ := construction
      · exact ⟨device, ipAddress, (lookup_constructing_iff h).mp hlookup⟩
      · simp [hlookup] at hstep

theorem runEntryTask_of_published {answer : TaskAnswer}
    (hids : ∀ i, answer.ids i ≠ 0) (device : DlrDevice) (ipAddress : String)
    (task : ConstructTask) (tasks : List ConstructTask) :
    ∃ after, runEntryTask answer ⟨device, some ⟨ipAddress, task :: tasks⟩⟩ =
      some ⟨after, some ⟨ipAddress, tasks⟩⟩ := by
  cases task with
  | getProtocolInfo hasProxy => exact ⟨_, rfl⟩
  | subscribe => exact ⟨_, rfl⟩
  | declare =>
      have hfailed : (prvDeclare answer.ids device).1 = false := by
        simp [prvDeclare, hids]
      unfold runEntryTask runConstructTask
      cases hdeclare : prvDeclare answer.ids device with
      | mk failed declared =>
          obtain rfl : failed = false := by simpa [hdeclare] using hfailed
          exact ⟨declared, rfl⟩

theorem chain_entryLaw (convertUdnToPath : String → String) {udn : String}
    {event : UpnpEvent} (hchain : isChainStep udn event = false)
    (hcalm : Calm udn event) (before : Entry) :
    ∃ after, entryLaw convertUdnToPath udn (some before) event = some after ∧
      after.chain = before.chain := by
  unfold entryLaw
  split_ifs with htarget
  · cases event with
    | available other ipAddress services => exact ⟨_, rfl, rfl⟩
    | unavailable other ipAddress =>
        exact absurd (Option.some.inj htarget) hcalm
    | runTask other answer =>
        simp [isChainStep, Option.some.inj htarget] at hchain
    | chainEnd other => simp [isChainStep, Option.some.inj htarget] at hchain
    | player other info event =>
        simp only [entryChange]
        split
        · exact ⟨before, rfl, rfl⟩
        · exact ⟨_, rfl, rfl⟩
    | _ => exact ⟨_, rfl, rfl⟩
  · exact ⟨before, rfl, rfl⟩

theorem remaining_step {convertUdnToPath : String → String}
    {upnp next : DlrUpnp} {event : UpnpEvent} {udn : String} {before : Entry}
    (h : Apart upnp) (hcalm : Calm udn event)
    (hstep : upnpStep convertUdnToPath upnp event = some next)
    (hbefore : entry upnp udn = some before) :
    ∃ after, entry next udn = some after ∧
      remaining after + (if isChainStep udn event then 1 else 0) =
        remaining before := by
  have hafter := entry_step h hstep udn
  rw [hbefore] at hafter
  cases hchain : isChainStep udn event with
  | false =>
      obtain ⟨after, hlaw, hsame⟩ :=
        chain_entryLaw convertUdnToPath hchain hcalm before
      refine ⟨after, hafter.trans hlaw, ?_⟩
      simp [remaining, hsame]
  | true =>
      cases event with
      | runTask other answer =>
          obtain rfl : other = udn := by simpa [isChainStep] using hchain
          obtain ⟨device, ipAddress, task, tasks, hentry⟩ :=
            entry_of_runTask h hstep
          obtain rfl := Option.some.inj (hbefore.symm.trans hentry)
          obtain ⟨declared, hrun⟩ :=
            runEntryTask_of_published (hcalm rfl) device ipAddress task tasks
          exact ⟨_, hafter.trans ((if_pos rfl).trans hrun), rfl⟩
      | chainEnd other =>
          obtain rfl : other = udn := by simpa [isChainStep] using hchain
          obtain ⟨device, ipAddress, hentry⟩ := entry_of_endChain h hstep
          obtain rfl := Option.some.inj (hbefore.symm.trans hentry)
          exact ⟨_, hafter.trans (if_pos rfl), rfl⟩
      | _ => cases hchain

theorem chainSteps_concat (udn : String) (events : List UpnpEvent)
    (event : UpnpEvent) :
    chainSteps udn (events ++ [event]) =
      chainSteps udn events + if isChainStep udn event then 1 else 0 := by
  simp [chainSteps, List.countP_append, List.countP_singleton]

theorem networkEvents_concat (udn : String) (events : List UpnpEvent)
    (event : UpnpEvent) :
    networkEvents udn (events ++ [event]) =
      networkEvents udn events + if isNetworkEvent udn event then 1 else 0 := by
  simp [networkEvents, List.countP_append, List.countP_singleton]

theorem chain_goes_on (convertUdnToPath : String → String) {upnp : DlrUpnp}
    {udn : String} {device : DlrDevice} {chain : Chain} (h : Apart upnp)
    (hentry : entry upnp udn = some ⟨device, some chain⟩)
    (answer : TaskAnswer) :
    ∃ event next, (event = .runTask udn answer ∨ event = .chainEnd udn) ∧
      upnpStep convertUdnToPath upnp event = some next := by
  obtain ⟨ipAddress, tasks⟩ := chain
  have hlookup : upnp.serverUcMap.lookup udn =
      some ⟨ipAddress, device, tasks⟩ := (lookup_constructing_iff h).mpr hentry
  cases tasks with
  | nil =>
      refine ⟨.chainEnd udn, ?_⟩
      simp [upnpStep, endChain, hlookup]
  | cons task tasks =>
      cases hrun : runConstructTask answer device task with
      | mk failed after =>
          refine ⟨.runTask udn answer, ?_⟩
          cases failed <;> simp [upnpStep, runTask, hlookup, hrun]

/-! ## All chains -/

theorem length_dlrDeviceConstruct (device : DlrDevice)
    (context : DeviceContext) :
    (dlrDeviceConstruct device context).length ≤ 3 := by
  unfold dlrDeviceConstruct
  split_ifs <;> simp

def left (upnp : DlrUpnp) (udn : String) : Nat :=
  (entry upnp udn).elim 0 remaining

theorem left_of_entry {upnp : DlrUpnp} {udn : String} {before : Entry}
    (h : entry upnp udn = some before) : left upnp udn = remaining before := by
  simp [left, h]

theorem remaining_freshEntry (convertUdnToPath : String → String)
    (udn ipAddress : String) (services : Service → Bool) :
    remaining (freshEntry convertUdnToPath udn ipAddress services) ≤ 4 :=
  Nat.succ_le_succ (length_dlrDeviceConstruct _ _)

theorem remaining_loseContext {ipAddress : String} {before after : Entry}
    (h : loseContext ipAddress before = some after) :
    remaining after ≤ remaining before + 4 := by
  obtain ⟨device, chain⟩ := before
  unfold loseContext at h
  cases hremoved : removeContext ipAddress device with
  | none =>
      simp only [hremoved, Option.some.injEq] at h
      exact h ▸ Nat.le_add_right _ 4
  | some removed =>
      obtain ⟨lost, kept⟩ := removed
      simp only [hremoved, Option.map_eq_some_iff] at h
      obtain ⟨context, -, rfl⟩ := h
      cases chain with
      | none => simp [keepEntry, remaining]
      | some chain =>
          have hlength := length_dlrDeviceConstruct kept context
          simp only [keepEntry]
          split_ifs
          · simp only [remaining]
            omega
          · exact Nat.le_add_right _ 4

theorem left_entryChange (convertUdnToPath : String → String) {udn : String}
    {event : UpnpEvent} (hnetwork : isNetworkEvent udn event = true)
    (before : Option Entry) :
    (entryChange (freshEntry convertUdnToPath udn) before event).elim 0
      remaining ≤ before.elim 0 remaining + 4 := by
  cases event with
  | available other ipAddress services =>
      cases before with
      | none =>
          have hfresh :=
            remaining_freshEntry convertUdnToPath udn ipAddress services
          simpa [entryChange] using hfresh
      | some before => exact Nat.le_add_right _ 4
  | unavailable other ipAddress =>
      cases before with
      | none => exact Nat.zero_le _
      | some before =>
          cases hlose : loseContext ipAddress before with
          | none => simp [entryChange, hlose]
          | some after =>
              have hle := remaining_loseContext hlose
              simpa [entryChange, hlose] using hle
  | _ => cases hnetwork

theorem calm_of_quiet {udn : String} {event : UpnpEvent}
    (hchain : isChainStep udn event = false)
    (hnetwork : isNetworkEvent udn event = false) : Calm udn event := by
  cases event with
  | unavailable other ipAddress => exact of_decide_eq_false hnetwork
  | runTask other answer =>
      intro heq
      simp [isChainStep, heq] at hchain
  | _ => trivial

theorem entryLaw_none (convertUdnToPath : String → String) {udn : String}
    {event : UpnpEvent} (hnetwork : isNetworkEvent udn event = false) :
    entryLaw convertUdnToPath udn none event = none := by
  unfold entryLaw
  split_ifs with htarget
  · cases event with
    | available other ipAddress services =>
        simp [isNetworkEvent, Option.some.inj htarget] at hnetwork
    | _ => rfl
  · rfl

theorem left_chainStep {convertUdnToPath : String → String}
    {upnp next : DlrUpnp} {event : UpnpEvent} {udn : String} (h : Apart upnp)
    (hchain : isChainStep udn event = true)
    (hstep : upnpStep convertUdnToPath upnp event = some next) :
    left next udn + 1 ≤ left upnp udn := by
  have hafter := entry_step h hstep udn
  cases event with
  | runTask other answer =>
      obtain rfl : other = udn := of_decide_eq_true hchain
      obtain ⟨device, ipAddress, task, tasks, hbefore⟩ :=
        entry_of_runTask h hstep
      rw [hbefore] at hafter
      rw [left, left, hafter.trans (if_pos rfl), hbefore]
      cases hrun : runConstructTask answer device task with
      | mk failed after =>
          -- a task that fails takes the device with it
          cases failed <;> simp [entryChange, runEntryTask, hrun, remaining]
  | chainEnd other =>
      obtain rfl : other = udn := of_decide_eq_true hchain
      obtain ⟨device, ipAddress, hbefore⟩ := entry_of_endChain h hstep
      rw [hbefore] at hafter
      rw [left, left, hafter.trans (if_pos rfl), hbefore]
      simp [entryChange, endEntryChain, remaining]
  | _ => cases hchain

/-- A report of the network pays for four steps, and each step uses one. -/
theorem left_step {convertUdnToPath : String → String} {upnp next : DlrUpnp}
    {event : UpnpEvent} (h : Apart upnp)
    (hstep : upnpStep convertUdnToPath upnp event = some next) (udn : String) :
    left next udn + (if isChainStep udn event then 1 else 0) ≤
      left upnp udn + 4 * (if isNetworkEvent udn event then 1 else 0) := by
  have hafter := entry_step h hstep udn
  cases hnetwork : isNetworkEvent udn event with
  | true =>
      have hchain : isChainStep udn event = false := by
        cases event <;> first | rfl | cases hnetwork
      have htarget : target event = some udn := by
        cases event <;> simp_all [isNetworkEvent, target]
      have hle := left_entryChange convertUdnToPath hnetwork (entry upnp udn)
      rw [entryLaw, if_pos htarget] at hafter
      rw [← hafter] at hle
      simpa [hchain] using! hle
  | false =>
      cases hchain : isChainStep udn event with
      | false =>
          cases hbefore : entry upnp udn with
          | none =>
              rw [hbefore, entryLaw_none convertUdnToPath hnetwork] at hafter
              simp [left, hafter]
          | some before =>
              obtain ⟨after, hlaw, hsame⟩ := chain_entryLaw convertUdnToPath
                hchain (calm_of_quiet hchain hnetwork) before
              rw [hbefore, hlaw] at hafter
              simp [left, hafter, hbefore, remaining, hsame]
      | true =>
          have hless := left_chainStep h hchain hstep
          simpa using hless

/-! ## Runs -/

def Constructed (upnp : DlrUpnp) (udn : String) : Prop :=
  ∃ device, upnp.serverUdnMap.lookup udn = some device

def UnderConstruction (upnp : DlrUpnp) (udn : String) : Prop :=
  ∃ construction, upnp.serverUcMap.lookup udn = some construction

theorem chainSteps_exec {convertUdnToPath : String → String}
    {pushHostPort : Nat} {events : List UpnpEvent} {upnp : DlrUpnp}
    (hrun : exec (upnpStep convertUdnToPath) (dlrUpnpNew pushHostPort) events =
      some upnp) (udn : String) :
    chainSteps udn events + left upnp udn ≤ 4 * networkEvents udn events := by
  have hinv := exec_history
    (fun past now => Apart now ∧
      chainSteps udn past + left now udn ≤ 4 * networkEvents udn past) ?_
    ⟨apart_dlrUpnpNew pushHostPort, Nat.le_refl 0⟩ hrun
    (meets_of_forall_mem (fun _ _ _ => trivial) _)
  · exact hinv.2
  · intro past now event later ⟨hapart, hbound⟩ _ hstep
    have hone := left_step hapart hstep udn
    refine ⟨apart_upnpStep hapart hstep, ?_⟩
    rw [chainSteps_concat, networkEvents_concat]
    omega

theorem remaining_exec {convertUdnToPath : String → String}
    {upnp next : DlrUpnp} {events : List UpnpEvent} {udn : String}
    {before : Entry} (h : Apart upnp)
    (hrun : exec (upnpStep convertUdnToPath) upnp events = some next)
    (hcalm : ∀ event ∈ events, Calm udn event)
    (hbefore : entry upnp udn = some before) :
    ∃ after, entry next udn = some after ∧
      remaining after + chainSteps udn events = remaining before := by
  have hmeets : Meets (upnpStep convertUdnToPath) (fun _ => Calm udn) upnp
      events := meets_of_forall_mem (fun event hmem _ => hcalm event hmem) upnp
  have hinv := exec_history
    (fun past now => Apart now ∧ ∃ after, entry now udn = some after ∧
      remaining after + chainSteps udn past = remaining before) ?_
    ⟨h, before, hbefore, rfl⟩ hrun hmeets
  · exact hinv.2
  · intro past now event later ⟨hapart, middle, hmiddle, hcount⟩ hguard hstep
    obtain ⟨after, hafter, hone⟩ :=
      remaining_step hapart hguard hstep hmiddle
    refine ⟨apart_upnpStep hapart hstep, after, hafter, ?_⟩
    rw [chainSteps_concat]
    omega

/--
The steps of all chains of a UDN are paid for by the network's reports.  While
it is calm a chain is only counted down: the device is announced when the
count is reached, and the next step of its chain is possible until then.
-/
theorem construction_ends (convertUdnToPath : String → String)
    (pushHostPort : Nat) {udn : String} {past later : List UpnpEvent}
    {upnp next : DlrUpnp}
    (hpast : exec (upnpStep convertUdnToPath) (dlrUpnpNew pushHostPort) past =
      some upnp)
    (hlater : exec (upnpStep convertUdnToPath) upnp later = some next)
    (hcalm : ∀ event ∈ later, Calm udn event) :
    chainSteps udn past + left upnp udn ≤ 4 * networkEvents udn past ∧
      (UnderConstruction upnp udn →
        chainSteps udn later ≤ left upnp udn ∧
        (chainSteps udn later = left upnp udn → Constructed next udn) ∧
        (chainSteps udn later < left upnp udn → UnderConstruction next udn ∧
          ∀ answer, ∃ event,
            (event = .runTask udn answer ∨ event = .chainEnd udn) ∧
            (upnpStep convertUdnToPath next event).isSome)) := by
  refine ⟨chainSteps_exec hpast udn, fun hconstructing => ?_⟩
  have hapart := apart_exec hpast
  have hnext : Apart next :=
    exec_invariant Apart (fun _ _ _ => apart_upnpStep) hapart hlater
  obtain ⟨⟨ipAddress, device, tasks⟩, hlookup⟩ := hconstructing
  have hbefore := (lookup_constructing_iff hapart).mp hlookup
  obtain ⟨⟨last, chain⟩, hafter, hcount⟩ :=
    remaining_exec hapart hlater hcalm hbefore
  rw [← left_of_entry hbefore] at hcount
  refine ⟨by omega, ?_, ?_⟩
  · intro hreached
    cases chain with
    | none => exact ⟨last, lookup_constructed_iff.mpr hafter⟩
    | some chain =>
        simp only [remaining] at hcount
        omega
  · intro hless
    cases chain with
    | none =>
        simp only [remaining] at hcount
        omega
    | some chain =>
        refine ⟨⟨⟨chain.ipAddress, last, chain.tasks⟩,
          (lookup_constructing_iff hnext).mpr hafter⟩, fun answer => ?_⟩
        obtain ⟨event, final, hevent, hstep⟩ :=
          chain_goes_on convertUdnToPath hnext hafter answer
        exact ⟨event, hevent, by simp [hstep]⟩

def slowAnswer : TaskAnswer := ⟨none, fun _ => 7⟩

/-- The first context goes after the first task; another chain does the rest. -/
def restartedPast : List UpnpEvent :=
  [.available "uuid:1" "10.0.0.1" fun _ => true,
   .available "uuid:1" "10.0.0.2" fun _ => true,
   .runTask "uuid:1" slowAnswer, .unavailable "uuid:1" "10.0.0.1"]

def calmLater : List UpnpEvent :=
  [.available "uuid:2" "10.0.0.9" fun _ => false, .runTask "uuid:1" slowAnswer,
   .unavailable "uuid:2" "10.0.0.9", .lostClient ":1.7",
   .runTask "uuid:1" slowAnswer]

theorem construction_ends_restarted :
    ∃ upnp next,
      exec (upnpStep id) (dlrUpnpNew 0) restartedPast = some upnp ∧
      exec (upnpStep id) upnp calmLater = some next ∧
      chainSteps "uuid:1" restartedPast = 1 ∧ left upnp "uuid:1" = 3 ∧
      networkEvents "uuid:1" restartedPast = 3 ∧
      chainSteps "uuid:1" calmLater = 2 ∧ UnderConstruction next "uuid:1" := by
  have hpast : ((exec (upnpStep id) (dlrUpnpNew 0) restartedPast).map
      fun upnp => (left upnp "uuid:1",
        decide (upnp.serverUcMap.lookup "uuid:1").isSome,
        decide (exec (upnpStep id) upnp calmLater).isSome)) =
      some (3, true, true) := by decide +kernel
  obtain ⟨upnp, hrun, hstate⟩ := Option.map_eq_some_iff.mp hpast
  simp only [Prod.mk.injEq, decide_eq_true_eq] at hstate
  obtain ⟨hleft, hconstructing, hlater⟩ := hstate
  obtain ⟨next, hnext⟩ := Option.isSome_iff_exists.mp hlater
  have hcalm : ∀ event ∈ calmLater, Calm "uuid:1" event := by
    simp [calmLater, Calm, slowAnswer]
  have hends := (construction_ends id 0 hrun hnext hcalm).2
    (Option.isSome_iff_exists.mp hconstructing)
  have hless : chainSteps "uuid:1" calmLater < left upnp "uuid:1" := by
    rw [hleft]
    decide
  exact ⟨upnp, next, hrun, hnext, by decide, hleft, by decide, by decide,
    (hends.2.2 hless).1⟩

end DleynaRenderer.Upnp
