import DleynaRenderer.Device.Subscriptions
import DleynaRenderer.Upnp.Entry

/-!
# Subscriptions over the life of a device

Contexts come and go, chains and timers subscribe, and proxies lose their
subscriptions.  The timer subscribes without looking, and the loss of a context
is only made up for when its AV transport or its connection manager was
subscribed; a run is sound exactly when neither of the two matters.
-/

namespace DleynaRenderer.Upnp

open DleynaRenderer.Device DleynaRenderer.Player DleynaRenderer.PushHost
open EventSystem

def SubscriptionsSound (upnp : DlrUpnp) : Prop :=
  ∀ udn device, findDevice udn upnp = some device →
    AtMostOneSubscribed device.contexts ∧
      ∀ context ∈ device.contexts, NotifySound context

def Resubscribes (udn : String) (upnp : DlrUpnp) : Prop :=
  (∃ device ∈ findDevice udn upnp, device.timeoutId) ∨
    ∃ construction ∈ upnp.serverUcMap.lookup udn,
      .subscribe ∈ construction.tasks

def LossCovered (upnp : DlrUpnp) (event : UpnpEvent) (next : DlrUpnp) : Prop :=
  match event with
  | .unavailable udn ipAddress =>
      ∀ device ∈ findDevice udn upnp,
        ∀ removed ∈ removeContext ipAddress device,
          removed.1.isSubscribed → removed.2.contexts ≠ [] →
            Resubscribes udn next
  | _ => True

def SubscribesAnyway (udn ipAddress : String) (upnp : DlrUpnp) : Prop :=
  Resubscribes udn upnp ∨
    ∃ construction ∈ upnp.serverUcMap.lookup udn,
      construction.ipAddress = ipAddress

/--
The timer fires while no context is subscribed, and a context of which only
rendering control is subscribed is lost when there is another reason to
subscribe.
-/
def SubscriptionCondition (upnp : DlrUpnp) : UpnpEvent → Prop
  | .subscribeTimeout udn =>
      ∀ device ∈ findDevice udn upnp,
        prvDeviceGetSubscribedContext device = none
  | .unavailable udn ipAddress =>
      ∀ device ∈ findDevice udn upnp,
        ∀ removed ∈ removeContext ipAddress device,
          removed.1.rc.subscribed → removed.1.av.subscribed = false →
            removed.1.cm.subscribed = false → removed.2.contexts ≠ [] →
              SubscribesAnyway udn ipAddress upnp
  | _ => True

instance (udn : String) (upnp : DlrUpnp) : Decidable (Resubscribes udn upnp) :=
  inferInstanceAs (Decidable (_ ∨ _))

instance (udn ipAddress : String) (upnp : DlrUpnp) :
    Decidable (SubscribesAnyway udn ipAddress upnp) :=
  inferInstanceAs (Decidable (_ ∨ _))

instance (upnp : DlrUpnp) (event : UpnpEvent) (next : DlrUpnp) :
    Decidable (LossCovered upnp event next) :=
  match event with
  | .unavailable _ _ =>
      inferInstanceAs (Decidable (∀ device ∈ _, ∀ removed ∈ _, _))
  | .available .. | .runTask .. | .chainEnd .. | .subscribeTimeout ..
  | .subscriptionLost .. | .reEnable .. | .player .. | .hostFile ..
  | .removeFile .. | .lostClient .. =>
      inferInstanceAs (Decidable True)

instance (upnp : DlrUpnp) (event : UpnpEvent) :
    Decidable (SubscriptionCondition upnp event) :=
  match event with
  | .subscribeTimeout _ => inferInstanceAs (Decidable (∀ device ∈ _, _))
  | .unavailable _ _ =>
      inferInstanceAs (Decidable (∀ device ∈ _, ∀ removed ∈ _, _))
  | .available .. | .runTask .. | .chainEnd .. | .subscriptionLost ..
  | .reEnable .. | .player .. | .hostFile .. | .removeFile ..
  | .lostClient .. =>
      inferInstanceAs (Decidable True)

def Entry.Resubscribes (entry : Entry) : Prop :=
  entry.device.timeoutId ∨
    ∃ chain, entry.chain = some chain ∧ .subscribe ∈ chain.tasks

theorem resubscribes_iff {upnp : DlrUpnp} (h : Apart upnp) {udn : String}
    {found : Entry} (hentry : entry upnp udn = some found) :
    Resubscribes udn upnp ↔ found.Resubscribes := by
  unfold Resubscribes Entry.Resubscribes
  simp only [Option.mem_def, findDevice_eq_entry, lookup_constructing_iff h,
    hentry, Option.map_some, Option.some.injEq, exists_eq_left']
  obtain ⟨device, chain⟩ := found
  constructor
  · rintro (hpending | ⟨construction, heq, hmem⟩)
    · exact .inl hpending
    · cases heq
      exact .inr ⟨_, rfl, hmem⟩
  · rintro (hpending | ⟨chain, heq, hmem⟩)
    · exact .inl hpending
    · exact .inr ⟨⟨chain.ipAddress, device, chain.tasks⟩, by simp_all
        [Construction.entry], hmem⟩

theorem constructs_iff {upnp : DlrUpnp} (h : Apart upnp)
    {udn ipAddress : String} {found : Entry}
    (hentry : entry upnp udn = some found) :
    (∃ construction ∈ upnp.serverUcMap.lookup udn,
        construction.ipAddress = ipAddress) ↔
      ∃ chain, found.chain = some chain ∧ chain.ipAddress = ipAddress := by
  simp only [Option.mem_def, lookup_constructing_iff h, hentry,
    Option.some.injEq]
  obtain ⟨device, chain⟩ := found
  constructor
  · rintro ⟨construction, heq, rfl⟩
    cases heq
    exact ⟨_, rfl, rfl⟩
  · rintro ⟨chain, heq, rfl⟩
    exact ⟨⟨chain.ipAddress, device, chain.tasks⟩, by simp_all
      [Construction.entry], rfl⟩

theorem resubscribes_keepEntry (lost context : DeviceContext)
    (kept : DlrDevice) (chain : Option Chain) :
    (keepEntry lost kept context chain).Resubscribes ↔
      (lost.av.subscribed ∨ lost.cm.subscribed ∨
        Entry.Resubscribes ⟨kept, chain⟩ ∨
        ∃ old, chain = some old ∧ old.ipAddress = lost.ipAddress) := by
  have hlater : (resubscribeLater lost kept).timeoutId ↔
      (lost.av.subscribed ∨ lost.cm.subscribed ∨ kept.timeoutId) := by
    unfold resubscribeLater
    cases hav : lost.av.subscribed <;> cases hcm : lost.cm.subscribed <;> simp
  unfold Entry.Resubscribes
  cases chain with
  | none => simp [keepEntry, hlater]
  | some old =>
      by_cases hip : lost.ipAddress = old.ipAddress
      · simp [keepEntry, hip, dlrDeviceConstruct]
      · simp only [keepEntry, hip, if_false, hlater, Option.some.injEq,
          exists_eq_left', Ne.symm hip, or_false, or_assoc]

theorem lossCovered_iff {convertUdnToPath : String → String}
    {upnp next : DlrUpnp} {udn ipAddress : String} (h : Apart upnp)
    (hstep : upnpStep convertUdnToPath upnp (.unavailable udn ipAddress) =
      some next) :
    LossCovered upnp (.unavailable udn ipAddress) next ↔
      SubscriptionCondition upnp (.unavailable udn ipAddress) := by
  have hnext := entry_step h hstep udn
  have hapart := apart_upnpStep h hstep
  simp only [LossCovered, SubscriptionCondition, findDevice_eq_entry,
    Option.mem_def, Option.map_eq_some_iff]
  refine forall_congr' fun device => forall_congr' ?_
  rintro ⟨found, hentry, rfl⟩
  apply forall_congr'
  rintro ⟨lost, kept⟩
  apply forall_congr'
  intro hremoved
  by_cases hnil : kept.contexts = []
  · simp [hnil]
  · obtain ⟨context, hcontext⟩ := Option.ne_none_iff_exists'.mp
      fun hnone => hnil (dlrDeviceGetContext_eq_none_iff.mp hnone)
    have hafter : entry next udn =
        some (keepEntry lost kept context found.chain) := by
      simp [hnext, entryLaw, target, entryChange, hentry, loseContext,
        hremoved, hcontext]
    obtain ⟨-, hip, hkept⟩ := removeContext_spec hremoved
    have hsame : Entry.Resubscribes ⟨kept, found.chain⟩ ↔
        found.Resubscribes := by
      rw [hkept]
      rfl
    rw [resubscribes_iff hapart hafter, resubscribes_keepEntry, hsame, hip,
      SubscribesAnyway, resubscribes_iff h hentry, constructs_iff h hentry]
    simp only [DeviceContext.isSubscribed]
    -- a timer is started for the first two flags, and not for the third
    cases lost.av.subscribed <;> cases lost.cm.subscribed <;>
      cases lost.rc.subscribed <;> simp [hnil]

/-! ## The invariant -/

def EntrySubscriptionInv (entry : Entry) : Prop :=
  SubscriptionInv entry.device.contexts

theorem subscriptionInv_announceContext {device : DlrDevice}
    (h : SubscriptionInv device.contexts) (ipAddress : String)
    (services : Service → Bool) :
    SubscriptionInv (announceContext ipAddress services device).contexts := by
  unfold announceContext
  split
  · exact h
  · exact subscriptionInv_dlrDeviceAppendNewContext h ipAddress services

theorem contexts_keepEntry (lost context : DeviceContext) (kept : DlrDevice)
    (chain : Option Chain) :
    (keepEntry lost kept context chain).device.contexts = kept.contexts := by
  have hlater : (resubscribeLater lost kept).contexts = kept.contexts := by
    unfold resubscribeLater
    split <;> rfl
  cases chain with
  | none => exact hlater
  | some old =>
      unfold keepEntry
      simp only
      split
      · rfl
      · exact hlater

theorem subscriptionInv_loseContext {ipAddress : String} {entry result : Entry}
    (h : EntrySubscriptionInv entry)
    (hresult : loseContext ipAddress entry = some result) :
    EntrySubscriptionInv result := by
  unfold loseContext at hresult
  cases hremoved : removeContext ipAddress entry.device with
  | none =>
      simp only [hremoved, Option.some.injEq] at hresult
      exact hresult ▸ h
  | some removed =>
      obtain ⟨lost, kept⟩ := removed
      simp only [hremoved, Option.map_eq_some_iff] at hresult
      obtain ⟨context, -, rfl⟩ := hresult
      unfold EntrySubscriptionInv
      rw [contexts_keepEntry]
      exact subscriptionInv_removeContext h hremoved

theorem subscriptionInv_runEntryTask {answer : TaskAnswer}
    {entry result : Entry} (h : EntrySubscriptionInv entry)
    (hresult : runEntryTask answer entry = some result) :
    EntrySubscriptionInv result := by
  obtain ⟨device, _ | ⟨ipAddress, _ | ⟨task, tasks⟩⟩⟩ := entry
  · exact Option.some.inj hresult ▸ h
  · exact Option.some.inj hresult ▸ h
  · cases task with
    | getProtocolInfo hasProxy =>
        obtain rfl := Option.some.inj hresult
        unfold EntrySubscriptionInv
        have hcontexts :
            (prvGetProtocolInfo hasProxy answer.sink device).contexts =
              device.contexts := by
          cases hasProxy <;> cases answer.sink <;> rfl
        rw [hcontexts]
        exact h
    | subscribe =>
        obtain rfl := Option.some.inj hresult
        exact subscriptionInv_prvDeviceSubscribeContext h.sound h.atMostOne
    | declare =>
        simp only [runEntryTask, runConstructTask, prvDeclare] at hresult
        split at hresult
        case h_1 => contradiction
        case h_2 after hdeclare =>
          obtain rfl := Option.some.inj hresult
          obtain ⟨-, rfl⟩ := Prod.mk.inj hdeclare
          exact h

theorem subscriptionInv_modifyContext {ipAddress : String}
    {update : DeviceContext → DeviceContext} {device : DlrDevice}
    (h : SubscriptionInv device.contexts)
    (hupdate : ∀ context, (update context).ipAddress = context.ipAddress)
    (hkeeps : ∀ context, NotifySound context → NotifySound (update context) ∧
      ((update context).isSubscribed → context.isSubscribed)) :
    SubscriptionInv (modifyContext ipAddress update device).contexts := by
  refine subscriptionInv_map h (fun context => ?_) fun context hsound => ?_
  · split
    · exact hupdate context
    · rfl
  · split
    · exact hkeeps context hsound
    · exact ⟨hsound, id⟩

theorem subscriptionInv_prvSubscribeToServiceChanges {device : DlrDevice}
    (h : SubscriptionInv device.contexts)
    (hfree : prvDeviceGetSubscribedContext device = none) :
    SubscriptionInv (prvSubscribeToServiceChanges device).contexts := by
  apply subscriptionInv_subscribe h.sound
  intro context hmem
  simpa using List.find?_eq_none.mp hfree context hmem

theorem not_sound_prvSubscribeToServiceChanges {device : DlrDevice}
    (h : SubscriptionInv device.contexts)
    (hset : prvDeviceGetSubscribedContext device ≠ none) :
    ¬ ∀ context ∈ (prvSubscribeToServiceChanges device).contexts,
      NotifySound context := by
  intro hsound
  obtain ⟨context, hfind⟩ := Option.ne_none_iff_exists'.mp hset
  have hsubscribed := List.find?_some hfind
  have hmem := List.mem_of_find?_eq_some hfind
  obtain ⟨index, hindex⟩ := List.mem_iff_getElem?.mp hmem
  have hpreferred := h.preferred index context hindex hsubscribed
  have htwice : subscribeContext context ∈
      (prvSubscribeToServiceChanges device).contexts := by
    refine List.mem_of_getElem? (i := index) ?_
    rw [hpreferred] at hindex ⊢
    exact (List.getElem?_modify_eq _ _ _).trans (congrArg _ hindex)
  exact not_notifySound_subscribeContext (h.sound context hmem) hsubscribed
    (hsound _ htwice)

theorem subscriptionInv_entryChange {convertUdnToPath : String → String}
    {upnp : DlrUpnp} {event : UpnpEvent} {udn : String} {result : Entry}
    (hguard : SubscriptionCondition upnp event)
    (htarget : target event = some udn)
    (h : ∀ before, entry upnp udn = some before → EntrySubscriptionInv before)
    (hresult : entryChange (freshEntry convertUdnToPath udn) (entry upnp udn)
      event = some result) : EntrySubscriptionInv result := by
  cases hentry : entry upnp udn with
  | none =>
      rw [hentry] at hresult
      cases event with
      | available other ipAddress services =>
          obtain rfl := Option.some.inj hresult
          exact subscriptionInv_prvContextNew ipAddress services
      | _ => simp [entryChange] at hresult
  | some before =>
      have hinv := h before hentry
      rw [hentry] at hresult
      cases event with
      | available other ipAddress services =>
          obtain rfl := Option.some.inj hresult
          exact subscriptionInv_announceContext hinv ipAddress services
      | unavailable other ipAddress =>
          exact subscriptionInv_loseContext hinv hresult
      | runTask other answer => exact subscriptionInv_runEntryTask hinv hresult
      | chainEnd other =>
          obtain rfl := Option.some.inj hresult
          unfold endEntryChain
          split <;> exact hinv
      | subscribeTimeout other =>
          obtain rfl := Option.some.inj htarget
          obtain rfl := Option.some.inj hresult
          apply subscriptionInv_prvSubscribeToServiceChanges hinv
          exact hguard before.device (by simp [findDevice_eq_entry, hentry])
      | subscriptionLost other ipAddress service =>
          obtain rfl := Option.some.inj hresult
          exact subscriptionInv_modifyContext hinv
            (ipAddress_emitSubscriptionLost service)
            fun _ => emitSubscriptionLost_keeps service
      | reEnable other ipAddress service =>
          obtain rfl := Option.some.inj hresult
          exact subscriptionInv_modifyContext hinv
            (ipAddress_reEnableCb service) fun _ => reEnableCb_keeps service
      | player other info event =>
          obtain rfl := Option.some.inj hresult
          split <;> exact hinv
      | _ => exact Option.some.inj hresult ▸ hinv

/-! ## Runs -/

structure SubscriptionStateInv (upnp : DlrUpnp) : Prop where
  apart : Apart upnp
  entries : ∀ udn found, entry upnp udn = some found →
    EntrySubscriptionInv found

theorem subscriptionStateInv_new (pushHostPort : Nat) :
    SubscriptionStateInv (dlrUpnpNew pushHostPort) where
  apart := apart_dlrUpnpNew pushHostPort
  entries udn found hentry := absurd hentry (by simp [entry, dlrUpnpNew])

theorem subscriptionsSound_of_inv {upnp : DlrUpnp}
    (h : SubscriptionStateInv upnp) : SubscriptionsSound upnp := by
  intro udn device hdevice
  rw [findDevice_eq_entry] at hdevice
  obtain ⟨found, hentry, rfl⟩ := Option.map_eq_some_iff.mp hdevice
  have hinv := h.entries udn found hentry
  exact ⟨hinv.atMostOne, hinv.sound⟩

theorem subscriptionStateInv_step {convertUdnToPath : String → String}
    {upnp next : DlrUpnp} {event : UpnpEvent} (h : SubscriptionStateInv upnp)
    (hguard : SubscriptionCondition upnp event)
    (hstep : upnpStep convertUdnToPath upnp event = some next) :
    SubscriptionStateInv next ∧ LossCovered upnp event next := by
  constructor
  · refine ⟨apart_upnpStep h.apart hstep, ?_⟩
    refine entries_step (fun _ => EntrySubscriptionInv) h.apart hstep ?_
      h.entries
    intro udn result htarget hresult
    exact subscriptionInv_entryChange hguard htarget (h.entries udn) hresult
  · cases event with
    | unavailable udn ipAddress => exact (lossCovered_iff h.apart hstep).mpr hguard
    | _ => trivial

theorem subscriptionCondition_of_step {convertUdnToPath : String → String}
    {upnp next : DlrUpnp} {event : UpnpEvent} (h : SubscriptionStateInv upnp)
    (hstep : upnpStep convertUdnToPath upnp event = some next)
    (hsound : SubscriptionsSound next) (hcovered : LossCovered upnp event next) :
    SubscriptionCondition upnp event := by
  cases event with
  | unavailable udn ipAddress =>
      exact (lossCovered_iff h.apart hstep).mp hcovered
  | subscribeTimeout udn =>
      intro device hdevice
      by_contra hset
      rw [findDevice_eq_entry, Option.mem_def, Option.map_eq_some_iff] at hdevice
      obtain ⟨found, hentry, rfl⟩ := hdevice
      have hnext : findDevice udn next =
          some (prvSubscribeToServiceChanges found.device) := by
        rw [findDevice_eq_entry, entry_step h.apart hstep udn, hentry]
        simp [entryLaw, target, entryChange, Entry.update]
      exact not_sound_prvSubscribeToServiceChanges (h.entries udn found hentry)
        hset (hsound udn _ hnext).2
  | _ => trivial

/-- The subscriptions of a run are sound exactly under the condition. -/
theorem subscriptions_sound_iff (convertUdnToPath : String → String)
    (pushHostPort : Nat) (events : List UpnpEvent) (last : DlrUpnp)
    (hrun : exec (upnpStep convertUdnToPath) (dlrUpnpNew pushHostPort) events =
      some last) :
    (Always (upnpStep convertUdnToPath) SubscriptionsSound
        (dlrUpnpNew pushHostPort) events ∧
      EachStep (upnpStep convertUdnToPath) LossCovered
        (dlrUpnpNew pushHostPort) events) ↔
      Meets (upnpStep convertUdnToPath) SubscriptionCondition
        (dlrUpnpNew pushHostPort) events :=
  guarded_run_exact SubscriptionStateInv
    (fun _ => subscriptionsSound_of_inv)
    (fun _ _ _ => subscriptionStateInv_step)
    (fun _ _ _ => subscriptionCondition_of_step)
    (subscriptionStateInv_new pushHostPort) hrun

def announced (services : Service → Bool) : List UpnpEvent :=
  let answer : TaskAnswer := ⟨none, fun _ => 1⟩
  [.available "uuid:1" "10.0.0.1" services, .runTask "uuid:1" answer,
   .runTask "uuid:1" answer, .runTask "uuid:1" answer, .chainEnd "uuid:1",
   .available "uuid:1" "10.0.0.2" services]

/-- A new context subscribes the preferred one before the timer does. -/
def timerAfterContext : List UpnpEvent :=
  announced (fun _ => true) ++
    [.unavailable "uuid:1" "10.0.0.1",
     .available "uuid:1" "10.0.0.3" fun _ => true, .subscribeTimeout "uuid:1"]

def renderingControlLost : List UpnpEvent :=
  announced (fun service => service = .rc) ++
    [.unavailable "uuid:1" "10.0.0.1"]

theorem subscriptions_unsound :
    (¬ Always (upnpStep id) SubscriptionsSound (dlrUpnpNew 0)
      timerAfterContext) ∧
      ¬ EachStep (upnpStep id) LossCovered (dlrUpnpNew 0)
        renderingControlLost := by
  refine ⟨fun halways => ?_, by decide +kernel⟩
  have hrun : ((exec (upnpStep id) (dlrUpnpNew 0) timerAfterContext).bind
      (findDevice "uuid:1")).map (fun device =>
        device.contexts.map (registrations .av)) = some [2, 0] := by
    decide +kernel
  obtain ⟨device, hdevice, hcounts⟩ := Option.map_eq_some_iff.mp hrun
  obtain ⟨last, hexec, hfound⟩ := Option.bind_eq_some_iff.mp hdevice
  have hsound := always_iff_prefix.mp halways timerAfterContext
    (List.prefix_refl _) last hexec
  have htwo : 2 ∈ device.contexts.map (registrations .av) := by simp [hcounts]
  obtain ⟨context, hmem, hcount⟩ := List.mem_map.mp htwo
  have hone := (hsound "uuid:1" device hfound).2 context hmem .av
  rw [hcount] at hone
  split at hone
  · exact absurd hone (by decide)
  · exact absurd hone (by decide)

def timerBeforeContext : List UpnpEvent :=
  announced (fun _ => true) ++
    [.unavailable "uuid:1" "10.0.0.1", .subscribeTimeout "uuid:1",
     .available "uuid:1" "10.0.0.3" fun _ => true]

theorem subscriptions_sound_timer_first :
    Always (upnpStep id) SubscriptionsSound (dlrUpnpNew 0)
        timerBeforeContext ∧
      EachStep (upnpStep id) LossCovered (dlrUpnpNew 0)
        timerBeforeContext := by
  have hrun : (exec (upnpStep id) (dlrUpnpNew 0) timerBeforeContext).isSome := by
    decide +kernel
  obtain ⟨last, hexec⟩ := Option.isSome_iff_exists.mp hrun
  exact (subscriptions_sound_iff id 0 timerBeforeContext last hexec).mpr
    (by decide +kernel)

end DleynaRenderer.Upnp
