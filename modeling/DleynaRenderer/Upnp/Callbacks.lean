import DleynaRenderer.Upnp.Subscriptions

/-!
# Callbacks into a device

The notify callbacks and the timers of a context hold a pointer to their device.
They are taken away when the context is deleted, and when the service is
stopped; nothing may be left of them then, since the device is freed.
-/

namespace DleynaRenderer.Upnp

open DleynaRenderer.Device EventSystem

/-- What `prv_dlr_context_delete` leaves of the context's proxies and timers. -/
def prvDlrContextDelete : DeviceContext → DeviceContext := prvContextUnsubscribe

def dlrDeviceUnsubscribe (device : DlrDevice) : DlrDevice :=
  { device with contexts := device.contexts.map prvContextUnsubscribe }

/-- The devices under construction are not in the table. -/
def dlrUpnpUnsubscribe (upnp : DlrUpnp) : DlrUpnp :=
  let devices := HashTable.filterMap
    (fun _ device => some (dlrDeviceUnsubscribe device)) upnp.serverUdnMap
  { upnp with serverUdnMap := devices }

def Detached (context : DeviceContext) : Prop :=
  ∀ service, (context.get service).timeoutId = false ∧
    ∀ proxy, (context.get service).proxy = some proxy → proxy.notifies = []

/-- Nothing is left that calls back, of a context deleted or a device freed. -/
structure FreesCleanly (upnp : DlrUpnp) : Prop where
  deleted : ∀ udn device, findDevice udn upnp = some device →
    ∀ context ∈ device.contexts, Detached (prvDlrContextDelete context)
  stopped : ∀ udn device,
    (dlrUpnpUnsubscribe upnp).serverUdnMap.lookup udn = some device →
      ∀ context ∈ device.contexts, Detached context

def TimerFindsNone (upnp : DlrUpnp) : UpnpEvent → Prop
  | .subscribeTimeout udn =>
      ∀ device ∈ findDevice udn upnp,
        prvDeviceGetSubscribedContext device = none
  | _ => True

instance (upnp : DlrUpnp) (event : UpnpEvent) :
    Decidable (TimerFindsNone upnp event) :=
  match event with
  | .subscribeTimeout _ => inferInstanceAs (Decidable (∀ device ∈ _, _))
  | .available .. | .unavailable .. | .runTask .. | .chainEnd ..
  | .subscriptionLost .. | .reEnable .. | .player .. | .hostFile ..
  | .removeFile .. | .lostClient .. => inferInstanceAs (Decidable True)

def OwnNotifies (context : DeviceContext) : Prop :=
  ∀ service proxy, (context.get service).proxy = some proxy →
    ∀ callback ∈ proxy.notifies, callback = notifyCallback service

theorem ownNotifies_modify {context : DeviceContext} {service : Service}
    {update : ServiceState → ServiceState} (h : OwnNotifies context)
    (hself : ∀ proxy, (update (context.get service)).proxy = some proxy →
      ∀ callback ∈ proxy.notifies, callback = notifyCallback service) :
    OwnNotifies (context.modify service update) := by
  intro other proxy hproxy
  by_cases heq : other = service
  · subst heq
    rw [DeviceContext.get_modify_self] at hproxy
    exact hself proxy hproxy
  · rw [DeviceContext.get_modify_of_ne heq] at hproxy
    exact h other proxy hproxy

theorem ownNotifies_prvContextNew (ipAddress : String)
    (services : Service → Bool) :
    OwnNotifies (prvContextNew ipAddress services) := by
  intro service proxy hproxy callback hmem
  have hempty : proxy.notifies = [] := by
    have hnew (present : Bool) (h : newProxy present = some proxy) :
        proxy.notifies = [] := by
      cases present with
      | false => contradiction
      | true =>
          obtain rfl := Option.some.inj h
          rfl
    cases service with
    | cm => exact hnew _ hproxy
    | av => exact hnew _ hproxy
    | rc => exact hnew _ hproxy
  rw [hempty] at hmem
  contradiction

theorem ownNotifies_subscribeService (service emitter : Service)
    {context : DeviceContext} (h : OwnNotifies context) :
    OwnNotifies (subscribeService service emitter context) := by
  unfold subscribeService
  cases hproxy : (context.get service).proxy with
  | none => exact h
  | some old =>
      have hadded : OwnNotifies (context.modify service fun state =>
          { state with
            proxy := state.proxy.map fun proxy =>
              (proxy.setSubscribed true).addNotify (notifyCallback service)
            subscribed := true }) := by
        refine ownNotifies_modify h fun proxy hnew callback hmem => ?_
        simp only [hproxy, Option.map_some, Option.some.injEq] at hnew
        rw [← hnew] at hmem
        rcases List.mem_append.mp hmem with hold | hcallback
        · exact h service old hproxy callback hold
        · exact List.mem_singleton.mp hcallback
      refine ownNotifies_modify hadded fun proxy hnew callback hmem => ?_
      obtain ⟨before, hbefore, rfl⟩ := Option.map_eq_some_iff.mp hnew
      exact hadded emitter before hbefore callback hmem

theorem ownNotifies_subscribeContext {context : DeviceContext}
    (h : OwnNotifies context) : OwnNotifies (subscribeContext context) :=
  ownNotifies_subscribeService .rc .av (ownNotifies_subscribeService .av .av
    (ownNotifies_subscribeService .cm .cm h))

theorem ownNotifies_unsubscribeService (service : Service)
    {context : DeviceContext} (h : OwnNotifies context) :
    OwnNotifies (unsubscribeService service context) := by
  refine ownNotifies_modify h fun proxy hnew callback hmem => ?_
  split at hnew
  · obtain ⟨before, hbefore, rfl⟩ := Option.map_eq_some_iff.mp hnew
    exact h service before hbefore callback (List.mem_of_mem_erase hmem)
  · exact h service proxy hnew callback hmem

theorem ownNotifies_prvContextUnsubscribe {context : DeviceContext}
    (h : OwnNotifies context) : OwnNotifies (prvContextUnsubscribe context) :=
  ownNotifies_unsubscribeService .rc (ownNotifies_unsubscribeService .av
    (ownNotifies_unsubscribeService .cm h))

theorem ownNotifies_subscriptionLost (service : Service)
    {context : DeviceContext} (h : OwnNotifies context) :
    OwnNotifies (subscriptionLost service context) := by
  refine ownNotifies_modify h fun proxy hnew callback hmem => ?_
  split at hnew
  · obtain ⟨before, hbefore, rfl⟩ := Option.map_eq_some_iff.mp hnew
    exact h service before hbefore callback (List.mem_of_mem_erase hmem)
  · obtain ⟨before, hbefore, rfl⟩ := Option.map_eq_some_iff.mp hnew
    exact h service before hbefore callback hmem

theorem ownNotifies_emitSubscriptionLost (service : Service)
    {context : DeviceContext} (h : OwnNotifies context) :
    OwnNotifies (emitSubscriptionLost service context) := by
  unfold emitSubscriptionLost
  induction lostHandlers service context generalizing context with
  | nil => exact h
  | cons handler handlers ih =>
      rw [List.foldl_cons, subscriptionLostCb_eq]
      exact ih (ownNotifies_subscriptionLost handler h)

theorem ownNotifies_reEnableCb (service : Service) {context : DeviceContext}
    (h : OwnNotifies context) : OwnNotifies (reEnableCb service context) := by
  rw [reEnableCb_eq]
  exact ownNotifies_modify h fun proxy hnew => h service proxy hnew

theorem registrations_prvContextUnsubscribe (service : Service)
    (context : DeviceContext) :
    registrations service (prvContextUnsubscribe context) =
      registrations service context -
        (if (context.get service).subscribed then 1 else 0) := by
  have hother {other : Service} (hne : service ≠ other)
      (context : DeviceContext) :
      registrations service (unsubscribeService other context) =
          registrations service context ∧
        (unsubscribeService other context).get service =
          context.get service :=
    ⟨registrations_modify_of_ne hne context _,
      DeviceContext.get_modify_of_ne hne context _⟩
  unfold prvContextUnsubscribe
  cases service with
  | cm =>
      rw [(hother (by decide) _).1, (hother (by decide) _).1,
        registrations_unsubscribeService_self]
  | av =>
      rw [(hother (by decide) _).1, registrations_unsubscribeService_self,
        (hother (by decide) _).1, (hother (by decide) _).2]
  | rc =>
      rw [registrations_unsubscribeService_self, (hother (by decide) _).1,
        (hother (by decide) _).1, (hother (by decide) _).2,
        (hother (by decide) _).2]

theorem timeoutId_prvContextUnsubscribe (service : Service)
    (context : DeviceContext) :
    ((prvContextUnsubscribe context).get service).timeoutId = false := by
  have hself (service : Service) (context : DeviceContext) :
      ((unsubscribeService service context).get service).timeoutId =
        false := by
    unfold unsubscribeService
    rw [DeviceContext.get_modify_self]
    split <;> rfl
  have hother {other : Service} (hne : service ≠ other)
      (context : DeviceContext) :
      (unsubscribeService other context).get service = context.get service :=
    DeviceContext.get_modify_of_ne hne context _
  unfold prvContextUnsubscribe
  cases service with
  | cm => rw [hother (by decide), hother (by decide), hself]
  | av => rw [hother (by decide), hself]
  | rc => exact hself .rc _

theorem detached_iff {context : DeviceContext} (h : OwnNotifies context) :
    Detached context ↔ ∀ service, (context.get service).timeoutId = false ∧
      registrations service context = 0 := by
  refine forall_congr' fun service => and_congr_right fun _ => ?_
  unfold registrations
  cases hproxy : (context.get service).proxy with
  | none => simp
  | some proxy =>
      simp only [Option.some.injEq, forall_eq', List.count_eq_zero]
      constructor
      · intro hempty hmem
        rw [hempty] at hmem
        contradiction
      · intro hnone
        refine List.eq_nil_iff_forall_not_mem.mpr fun callback hmem => ?_
        exact hnone (h service proxy hproxy callback hmem ▸ hmem)

theorem detached_prvDlrContextDelete_iff {context : DeviceContext}
    (h : OwnNotifies context) :
    Detached (prvDlrContextDelete context) ↔ ∀ service,
      registrations service context ≤
        if (context.get service).subscribed then 1 else 0 := by
  unfold prvDlrContextDelete
  rw [detached_iff (ownNotifies_prvContextUnsubscribe h)]
  refine forall_congr' fun service => ?_
  rw [registrations_prvContextUnsubscribe, Nat.sub_eq_zero_iff_le]
  exact and_iff_right (timeoutId_prvContextUnsubscribe service context)

/-! ## Contexts of an entry -/

structure ContextInvariant (good : DeviceContext → Prop) : Prop where
  new : ∀ ipAddress services, good (prvContextNew ipAddress services)
  subscribe : ∀ context, good context → good (subscribeContext context)
  unsubscribe : ∀ context, good context → good (prvContextUnsubscribe context)
  lost : ∀ service context, good context →
    good (emitSubscriptionLost service context)
  reEnable : ∀ service context, good context → good (reEnableCb service context)

def EachContext (good : DeviceContext → Prop) (device : DlrDevice) : Prop :=
  ∀ context ∈ device.contexts, good context

section Contexts

variable {good : DeviceContext → Prop} (h : ContextInvariant good)

theorem eachContext_modify {device : DlrDevice}
    {update : DeviceContext → DeviceContext} (hdevice : EachContext good device)
    (hupdate : ∀ context, good context → good (update context)) (index : Nat) :
    EachContext good
      { device with contexts := device.contexts.modify index update } := by
  intro context hmem
  rcases mem_modify hmem with hold | ⟨old, hold, rfl⟩
  · exact hdevice context hold
  · exact hupdate old (hdevice old (List.mem_of_getElem? hold))

theorem eachContext_modifyContext {device : DlrDevice} {ipAddress : String}
    {update : DeviceContext → DeviceContext} (hdevice : EachContext good device)
    (hupdate : ∀ context, good context → good (update context)) :
    EachContext good (modifyContext ipAddress update device) := by
  intro context hmem
  obtain ⟨old, hold, rfl⟩ := List.mem_map.mp hmem
  split
  · exact hupdate old (hdevice old hold)
  · exact hdevice old hold

include h

theorem eachContext_prvDeviceSubscribeContext {device : DlrDevice}
    (hdevice : EachContext good device) :
    EachContext good (prvDeviceSubscribeContext device) := by
  have hfreed : EachContext good
      (unsubscribeIndex (subscribedIndex device.contexts) device) := by
    cases subscribedIndex device.contexts with
    | none => exact hdevice
    | some index => exact eachContext_modify hdevice h.unsubscribe index
  unfold prvDeviceSubscribeContext
  simp only
  split
  · exact hdevice
  · exact eachContext_modify hfreed h.subscribe _

theorem eachContext_announceContext {device : DlrDevice}
    (hdevice : EachContext good device) (ipAddress : String)
    (services : Service → Bool) :
    EachContext good (announceContext ipAddress services device) := by
  unfold announceContext
  split
  · exact hdevice
  · apply eachContext_prvDeviceSubscribeContext h
    intro context hmem
    rcases List.mem_append.mp hmem with hold | hnew
    · exact hdevice context hold
    · rw [List.mem_singleton.mp hnew]
      exact h.new ipAddress services

omit h in
theorem eachContext_loseContext {ipAddress : String} {entry result : Entry}
    (hentry : EachContext good entry.device)
    (hresult : loseContext ipAddress entry = some result) :
    EachContext good result.device := by
  unfold loseContext at hresult
  cases hremoved : removeContext ipAddress entry.device with
  | none =>
      simp only [hremoved, Option.some.injEq] at hresult
      exact hresult ▸ hentry
  | some removed =>
      obtain ⟨lost, kept⟩ := removed
      simp only [hremoved, Option.map_eq_some_iff] at hresult
      obtain ⟨context, -, rfl⟩ := hresult
      obtain ⟨-, -, rfl⟩ := removeContext_spec hremoved
      intro other hmem
      rw [contexts_keepEntry] at hmem
      exact hentry other (List.mem_of_mem_eraseP hmem)

theorem eachContext_runEntryTask {answer : TaskAnswer} {entry result : Entry}
    (hentry : EachContext good entry.device)
    (hresult : runEntryTask answer entry = some result) :
    EachContext good result.device := by
  obtain ⟨device, _ | ⟨ipAddress, _ | ⟨task, tasks⟩⟩⟩ := entry
  · exact Option.some.inj hresult ▸ hentry
  · exact Option.some.inj hresult ▸ hentry
  · cases task with
    | getProtocolInfo hasProxy =>
        obtain rfl := Option.some.inj hresult
        cases hasProxy <;> cases answer.sink <;> exact hentry
    | subscribe =>
        obtain rfl := Option.some.inj hresult
        exact eachContext_prvDeviceSubscribeContext h hentry
    | declare =>
        simp only [runEntryTask, runConstructTask, prvDeclare] at hresult
        split at hresult
        case h_1 => contradiction
        case h_2 after hdeclare =>
          obtain rfl := Option.some.inj hresult
          obtain ⟨-, rfl⟩ := Prod.mk.inj hdeclare
          exact hentry

theorem eachContext_entryChange {convertUdnToPath : String → String}
    {udn : String} {event : UpnpEvent} {before : Option Entry} {result : Entry}
    (hbefore : ∀ entry, before = some entry → EachContext good entry.device)
    (hresult : entryChange (freshEntry convertUdnToPath udn) before event =
      some result) : EachContext good result.device := by
  cases before with
  | none =>
      cases event with
      | available other ipAddress services =>
          obtain rfl := Option.some.inj hresult
          intro context hmem
          obtain rfl := List.mem_singleton.mp hmem
          exact h.new ipAddress services
      | _ => simp [entryChange] at hresult
  | some entry =>
      have hentry := hbefore entry rfl
      cases event with
      | available other ipAddress services =>
          obtain rfl := Option.some.inj hresult
          exact eachContext_announceContext h hentry ipAddress services
      | unavailable other ipAddress =>
          exact eachContext_loseContext hentry hresult
      | runTask other answer => exact eachContext_runEntryTask h hentry hresult
      | chainEnd other =>
          obtain rfl := Option.some.inj hresult
          unfold endEntryChain
          split <;> exact hentry
      | subscribeTimeout other =>
          obtain rfl := Option.some.inj hresult
          exact eachContext_modify hentry h.subscribe _
      | subscriptionLost other ipAddress service =>
          obtain rfl := Option.some.inj hresult
          exact eachContext_modifyContext hentry (h.lost service)
      | reEnable other ipAddress service =>
          obtain rfl := Option.some.inj hresult
          exact eachContext_modifyContext hentry (h.reEnable service)
      | player other info event =>
          obtain rfl := Option.some.inj hresult
          split <;> exact hentry
      | _ => exact Option.some.inj hresult ▸ hentry

end Contexts

theorem contextInvariant_ownNotifies : ContextInvariant OwnNotifies where
  new := ownNotifies_prvContextNew
  subscribe _ := ownNotifies_subscribeContext
  unsubscribe _ := ownNotifies_prvContextUnsubscribe
  lost service _ := ownNotifies_emitSubscriptionLost service
  reEnable service _ := ownNotifies_reEnableCb service

/-! ## Runs -/

structure CallbackInv (upnp : DlrUpnp) : Prop where
  apart : Apart upnp
  sound : ∀ udn found, entry upnp udn = some found → EntrySubscriptionInv found
  own : ∀ udn found, entry upnp udn = some found →
    EachContext OwnNotifies found.device

theorem callbackInv_new (pushHostPort : Nat) :
    CallbackInv (dlrUpnpNew pushHostPort) where
  apart := apart_dlrUpnpNew pushHostPort
  sound _ _ hentry := absurd hentry (by simp [entry, dlrUpnpNew])
  own _ _ hentry := absurd hentry (by simp [entry, dlrUpnpNew])

theorem callbackInv_step {convertUdnToPath : String → String}
    {upnp next : DlrUpnp} {event : UpnpEvent} (h : CallbackInv upnp)
    (hguard : TimerFindsNone upnp event)
    (hstep : upnpStep convertUdnToPath upnp event = some next) :
    CallbackInv next where
  apart := apart_upnpStep h.apart hstep
  sound := by
    refine entries_step (fun _ => EntrySubscriptionInv) h.apart hstep ?_ h.sound
    intro udn result htarget hresult
    have hsound := h.sound udn
    cases event with
    | unavailable other ipAddress =>
        -- whether anything subscribes again does not matter here
        cases hentry : entry upnp udn with
        | none => simp [hentry, entryChange] at hresult
        | some found =>
            rw [hentry] at hresult
            exact subscriptionInv_loseContext (hsound found hentry) hresult
    | subscribeTimeout other =>
        refine subscriptionInv_entryChange ?_ htarget hsound hresult
        exact hguard
    | _ =>
        refine subscriptionInv_entryChange ?_ htarget hsound hresult
        trivial
  own := by
    refine entries_step (fun _ entry => EachContext OwnNotifies entry.device)
      h.apart hstep ?_ h.own
    intro udn result _ hresult
    exact eachContext_entryChange contextInvariant_ownNotifies (h.own udn)
      hresult

theorem detached_of_notifySound {context : DeviceContext}
    (hown : OwnNotifies context) (hsound : NotifySound context) :
    Detached (prvDlrContextDelete context) :=
  (detached_prvDlrContextDelete_iff hown).mpr fun service =>
    (hsound service).le

theorem freesCleanly_of_inv {upnp : DlrUpnp} (h : CallbackInv upnp) :
    FreesCleanly upnp where
  deleted udn device hdevice context hmem := by
    rw [findDevice_eq_entry] at hdevice
    obtain ⟨found, hentry, rfl⟩ := Option.map_eq_some_iff.mp hdevice
    exact detached_of_notifySound (h.own udn found hentry context hmem)
      ((h.sound udn found hentry).sound context hmem)
  stopped udn device hdevice context hmem := by
    unfold dlrUpnpUnsubscribe at hdevice
    rw [HashTable.lookup_filterMap] at hdevice
    obtain ⟨before, hbefore, hafter⟩ := Option.bind_eq_some_iff.mp hdevice
    obtain rfl := Option.some.inj hafter
    obtain ⟨old, hold, rfl⟩ := List.mem_map.mp hmem
    have hentry := lookup_constructed_iff.mp hbefore
    exact detached_of_notifySound (h.own udn _ hentry old hold)
      ((h.sound udn _ hentry).sound old hold)

theorem not_detached_subscribeContext {context : DeviceContext}
    (hown : OwnNotifies context) (hsound : NotifySound context)
    (hset : context.isSubscribed) :
    ¬ Detached (prvDlrContextDelete (subscribeContext context)) := by
  rw [detached_prvDlrContextDelete_iff (ownNotifies_subscribeContext hown)]
  intro hdetached
  obtain ⟨service, hflag⟩ := isSubscribed_iff.mp hset
  obtain ⟨hcount, -⟩ := subscribeContext_spec service context
  have hone : registrations service context = 1 := by
    rw [hsound service, if_pos hflag]
  have hproxy : (context.get service).proxy.isSome :=
    hasProxy_of_registrations (by omega)
  have hle := hdetached service
  rw [hcount, hone, if_pos hproxy] at hle
  split at hle <;> omega

theorem timerFindsNone_of_step {convertUdnToPath : String → String}
    {upnp next : DlrUpnp} {event : UpnpEvent} (h : CallbackInv upnp)
    (hstep : upnpStep convertUdnToPath upnp event = some next)
    (hclean : FreesCleanly next) : TimerFindsNone upnp event := by
  cases event with
  | subscribeTimeout udn =>
      intro device hdevice
      by_contra hset
      rw [findDevice_eq_entry, Option.mem_def, Option.map_eq_some_iff] at hdevice
      obtain ⟨found, hentry, rfl⟩ := hdevice
      obtain ⟨context, hfind⟩ := Option.ne_none_iff_exists'.mp hset
      have hsubscribed := List.find?_some hfind
      have hmem := List.mem_of_find?_eq_some hfind
      obtain ⟨index, hindex⟩ := List.mem_iff_getElem?.mp hmem
      have hinv := h.sound udn found hentry
      have hpreferred := hinv.preferred index context hindex hsubscribed
      have hnext : findDevice udn next =
          some (prvSubscribeToServiceChanges found.device) := by
        rw [findDevice_eq_entry, entry_step h.apart hstep udn, hentry]
        simp [entryLaw, target, entryChange, Entry.update]
      -- the subscribed context is the preferred one, which the timer takes
      have htwice : subscribeContext context ∈
          (prvSubscribeToServiceChanges found.device).contexts := by
        refine List.mem_of_getElem? (i := index) ?_
        rw [hpreferred] at hindex ⊢
        exact (List.getElem?_modify_eq _ _ _).trans (congrArg _ hindex)
      exact not_detached_subscribeContext (h.own udn found hentry context hmem)
        (hinv.sound context hmem) hsubscribed
        (hclean.deleted udn _ hnext _ htwice)
  | _ => trivial

/--
Whatever is deleted, and whenever the service is stopped, no callback is left
behind, exactly in the runs whose timers find no context subscribed.
-/
theorem frees_cleanly_iff (convertUdnToPath : String → String)
    (pushHostPort : Nat) (events : List UpnpEvent) (last : DlrUpnp)
    (hrun : exec (upnpStep convertUdnToPath) (dlrUpnpNew pushHostPort) events =
      some last) :
    Always (upnpStep convertUdnToPath) FreesCleanly (dlrUpnpNew pushHostPort)
        events ↔
      Meets (upnpStep convertUdnToPath) TimerFindsNone
        (dlrUpnpNew pushHostPort) events :=
  guarded_run_always_iff CallbackInv (fun _ => freesCleanly_of_inv)
    (fun _ _ _ => callbackInv_step) (fun _ _ _ => timerFindsNone_of_step)
    (callbackInv_new pushHostPort) hrun

/-- The timer is late: the new context has been subscribed before. -/
theorem frees_cleanly_timer_late :
    ∃ last, exec (upnpStep id) (dlrUpnpNew 0) timerAfterContext = some last ∧
      ¬ Always (upnpStep id) FreesCleanly (dlrUpnpNew 0) timerAfterContext := by
  have hrun : (exec (upnpStep id) (dlrUpnpNew 0) timerAfterContext).isSome := by
    decide +kernel
  obtain ⟨last, hexec⟩ := Option.isSome_iff_exists.mp hrun
  refine ⟨last, hexec, fun halways => ?_⟩
  have hmeets :=
    (frees_cleanly_iff id 0 timerAfterContext last hexec).mp halways
  exact absurd hmeets (by decide +kernel)

end DleynaRenderer.Upnp
