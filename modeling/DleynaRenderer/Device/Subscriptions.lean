import DleynaRenderer.Device.State

/-!
# Subscribed contexts of a device

At most one context of a device is subscribed, the preferred one, and a service
has its notify callback registered once as long as its flag is set.  Whatever
subscribes through `prv_device_subscribe_context` keeps this.
-/

namespace DleynaRenderer.Device

def registrations (service : Service) (context : DeviceContext) : Nat :=
  match (context.get service).proxy with
  | none => 0
  | some proxy => proxy.notifies.count (notifyCallback service)

def NotifySound (context : DeviceContext) : Prop :=
  ∀ service, registrations service context =
    if (context.get service).subscribed then 1 else 0

theorem isSubscribed_iff {context : DeviceContext} :
    context.isSubscribed ↔ ∃ service, (context.get service).subscribed := by
  unfold DeviceContext.isSubscribed
  constructor
  · intro h
    simp only [Bool.or_eq_true] at h
    rcases h with (h | h) | h
    · exact ⟨.av, h⟩
    · exact ⟨.cm, h⟩
    · exact ⟨.rc, h⟩
  · rintro ⟨service, h⟩
    cases service <;> simp_all [DeviceContext.get]

theorem registrations_modify_of_ne {service other : Service}
    (h : other ≠ service) (context : DeviceContext)
    (update : ServiceState → ServiceState) :
    registrations other (context.modify service update) =
      registrations other context := by
  unfold registrations
  rw [DeviceContext.get_modify_of_ne h]

theorem hasProxy_of_registrations {service : Service} {context : DeviceContext}
    (h : registrations service context ≠ 0) :
    (context.get service).proxy.isSome := by
  unfold registrations at h
  split at h
  · contradiction
  case h_2 proxy hproxy => rw [hproxy]; rfl

theorem registrations_connectLost (service handler emitter : Service)
    (context : DeviceContext) :
    registrations service (context.modify emitter fun state =>
      { state with proxy := state.proxy.map (·.connectLost handler) }) =
        registrations service context := by
  by_cases h : service = emitter
  · subst h
    unfold registrations
    rw [DeviceContext.get_modify_self]
    cases (context.get service).proxy <;> rfl
  · exact registrations_modify_of_ne h context _

theorem subscribed_connectLost (service handler emitter : Service)
    (context : DeviceContext) :
    ((context.modify emitter fun state =>
      { state with proxy := state.proxy.map (·.connectLost handler) }).get
        service).subscribed = (context.get service).subscribed := by
  by_cases h : service = emitter
  · subst h
    rw [DeviceContext.get_modify_self]
  · rw [DeviceContext.get_modify_of_ne h]

theorem hasProxy_connectLost (service handler emitter : Service)
    (context : DeviceContext) :
    ((context.modify emitter fun state =>
      { state with proxy := state.proxy.map (·.connectLost handler) }).get
        service).proxy.isSome = (context.get service).proxy.isSome := by
  by_cases h : service = emitter
  · subst h
    rw [DeviceContext.get_modify_self]
    simp
  · rw [DeviceContext.get_modify_of_ne h]

theorem subscribeService_spec (service emitter other : Service)
    (context : DeviceContext) :
    let next := subscribeService service emitter context
    let added := other = service ∧ (context.get service).proxy.isSome
    registrations other next =
        registrations other context + (if added then 1 else 0) ∧
      (next.get other).subscribed =
        ((context.get other).subscribed || decide added) ∧
      (next.get other).proxy.isSome = (context.get other).proxy.isSome := by
  unfold subscribeService
  cases hproxy : (context.get service).proxy with
  | none => simp
  | some proxy =>
      simp only [registrations_connectLost, subscribed_connectLost,
        hasProxy_connectLost]
      by_cases h : other = service
      · subst h
        simp [registrations, hproxy, ServiceProxy.addNotify,
          ServiceProxy.setSubscribed]
      · simp [registrations_modify_of_ne h, DeviceContext.get_modify_of_ne h, h]

theorem subscribeContext_spec (service : Service) (context : DeviceContext) :
    registrations service (subscribeContext context) =
        registrations service context +
          (if (context.get service).proxy.isSome then 1 else 0) ∧
      ((subscribeContext context).get service).subscribed =
        ((context.get service).subscribed ||
          (context.get service).proxy.isSome) := by
  unfold subscribeContext subscribeCm subscribeAv subscribeRc
  cases service <;> simp [subscribeService_spec]

theorem notifySound_subscribeContext {context : DeviceContext}
    (h : NotifySound context) (hfree : context.isSubscribed = false) :
    NotifySound (subscribeContext context) := by
  intro service
  have hflag : (context.get service).subscribed = false := by
    rw [Bool.eq_false_iff]
    intro hset
    rw [isSubscribed_iff.mpr ⟨service, hset⟩] at hfree
    contradiction
  obtain ⟨hcount, hsubscribed⟩ := subscribeContext_spec service context
  rw [hcount, hsubscribed, h service, hflag]
  cases (context.get service).proxy <;> simp

theorem not_notifySound_subscribeContext {context : DeviceContext}
    (h : NotifySound context) (hset : context.isSubscribed) :
    ¬ NotifySound (subscribeContext context) := by
  intro hsound
  obtain ⟨service, hflag⟩ := isSubscribed_iff.mp hset
  obtain ⟨hcount, hsubscribed⟩ := subscribeContext_spec service context
  have hone := h service
  rw [hflag, if_pos rfl] at hone
  have hproxy : (context.get service).proxy.isSome :=
    hasProxy_of_registrations (by omega)
  have htwo := hsound service
  rw [hcount, hsubscribed, hone, hproxy, hflag] at htwo
  simp at htwo

theorem registrations_unsubscribeService_self (service : Service)
    (context : DeviceContext) :
    registrations service (unsubscribeService service context) =
      registrations service context -
        (if (context.get service).subscribed then 1 else 0) := by
  unfold registrations unsubscribeService
  rw [DeviceContext.get_modify_self]
  cases hflag : (context.get service).subscribed <;>
    cases hproxy : (context.get service).proxy <;>
    simp [ServiceProxy.removeNotify, ServiceProxy.setSubscribed]

theorem notifySound_modify {service : Service} {context : DeviceContext}
    {update : ServiceState → ServiceState} (h : NotifySound context)
    (hself : registrations service (context.modify service update) =
      if (update (context.get service)).subscribed then 1 else 0) :
    NotifySound (context.modify service update) := by
  intro other
  by_cases heq : other = service
  · subst heq
    rw [hself, DeviceContext.get_modify_self]
  · rw [registrations_modify_of_ne heq, DeviceContext.get_modify_of_ne heq,
      h other]

theorem subscribed_unsubscribe (service : Service) (state : ServiceState) :
    (if state.subscribed then
      { proxy := state.proxy.map fun proxy =>
          (proxy.removeNotify (notifyCallback service)).setSubscribed false
        subscribed := false
        timeoutId := false }
    else { state with timeoutId := false : ServiceState }).subscribed = false := by
  cases hflag : state.subscribed <;> simp

theorem notifySound_unsubscribeService (service : Service)
    {context : DeviceContext} (h : NotifySound context) :
    NotifySound (unsubscribeService service context) := by
  apply notifySound_modify h
  rw [subscribed_unsubscribe]
  refine (registrations_unsubscribeService_self service context).trans ?_
  rw [h service]
  simp

theorem notifySound_prvContextUnsubscribe {context : DeviceContext}
    (h : NotifySound context) : NotifySound (prvContextUnsubscribe context) :=
  notifySound_unsubscribeService .rc
    (notifySound_unsubscribeService .av (notifySound_unsubscribeService .cm h))

theorem isSubscribed_prvContextUnsubscribe (context : DeviceContext) :
    (prvContextUnsubscribe context).isSubscribed = false := by
  rw [Bool.eq_false_iff, Ne, isSubscribed_iff]
  rintro ⟨service, hset⟩
  have hclear : ((prvContextUnsubscribe context).get service).subscribed =
      false := by
    cases service <;> exact subscribed_unsubscribe _ _
  rw [hclear] at hset
  contradiction

theorem notifySound_subscriptionLost (service : Service)
    {context : DeviceContext} (h : NotifySound context) :
    NotifySound (subscriptionLost service context) := by
  have hcount := h service
  apply notifySound_modify h
  unfold registrations at hcount ⊢
  rw [DeviceContext.get_modify_self]
  cases hproxy : (context.get service).proxy <;>
    cases htimeout : (context.get service).timeoutId <;>
    cases hflag : (context.get service).subscribed <;>
    simp_all [ServiceProxy.removeNotify, ServiceProxy.setSubscribed]

theorem isSubscribed_subscriptionLost (service : Service)
    {context : DeviceContext}
    (h : (subscriptionLost service context).isSubscribed) :
    context.isSubscribed := by
  obtain ⟨other, hflag⟩ := isSubscribed_iff.mp h
  refine isSubscribed_iff.mpr ⟨other, ?_⟩
  unfold subscriptionLost at hflag
  by_cases heq : other = service
  · subst heq
    rw [DeviceContext.get_modify_self] at hflag
    split at hflag
    · contradiction
    · exact hflag
  · rwa [DeviceContext.get_modify_of_ne heq] at hflag

theorem emitSubscriptionLost_keeps (service : Service)
    {context : DeviceContext} (h : NotifySound context) :
    NotifySound (emitSubscriptionLost service context) ∧
      ((emitSubscriptionLost service context).isSubscribed →
        context.isSubscribed) := by
  unfold emitSubscriptionLost
  induction lostHandlers service context generalizing context with
  | nil => exact ⟨h, id⟩
  | cons handler handlers ih =>
      rw [List.foldl_cons, subscriptionLostCb_eq]
      obtain ⟨hsound, hset⟩ := ih (notifySound_subscriptionLost handler h)
      exact ⟨hsound, fun hlast => isSubscribed_subscriptionLost handler
        (hset hlast)⟩

theorem registrations_reEnable (service : Service) (context : DeviceContext) :
    registrations service (reEnableSubscription service context) =
      registrations service context := by
  cases service <;> rfl

theorem reEnableCb_keeps (service : Service) {context : DeviceContext}
    (h : NotifySound context) :
    NotifySound (reEnableCb service context) ∧
      ((reEnableCb service context).isSubscribed → context.isSubscribed) := by
  rw [reEnableCb_eq]
  constructor
  · exact notifySound_modify h ((registrations_reEnable service context).trans
      (h service))
  · cases service <;> exact id

/-! ## The subscribed context -/

structure SubscriptionInv (contexts : List DeviceContext) : Prop where
  sound : ∀ context ∈ contexts, NotifySound context
  preferred : ∀ index context, contexts[index]? = some context →
    context.isSubscribed → index = preferredIndex contexts

def AtMostOneSubscribed (contexts : List DeviceContext) : Prop :=
  ∀ (i j : Nat) (first second : DeviceContext),
    contexts[i]? = some first → contexts[j]? = some second →
    first.isSubscribed → second.isSubscribed → i = j

theorem SubscriptionInv.atMostOne {contexts : List DeviceContext}
    (h : SubscriptionInv contexts) : AtMostOneSubscribed contexts := by
  intro i j first second hfirst hsecond hset hset'
  rw [h.preferred i first hfirst hset, h.preferred j second hsecond hset']

theorem preferredIndex_congr {contexts others : List DeviceContext}
    (h : contexts.map DeviceContext.ipAddress =
      others.map DeviceContext.ipAddress) :
    preferredIndex contexts = preferredIndex others := by
  have hview (list : List DeviceContext) : preferredIndex list =
      ((list.map DeviceContext.ipAddress).findIdx? isLoopback).getD 0 := by
    rw [List.findIdx?_map]
    rfl
  rw [hview, hview, h]

theorem mem_modify {α : Type*} {list : List α} {update : α → α} {index : Nat}
    {value : α} (h : value ∈ list.modify index update) :
    value ∈ list ∨ ∃ old, list[index]? = some old ∧ value = update old := by
  obtain ⟨other, hother⟩ := List.mem_iff_getElem?.mp h
  by_cases heq : index = other
  · subst heq
    rw [List.getElem?_modify_eq] at hother
    obtain ⟨old, hold, rfl⟩ := Option.map_eq_some_iff.mp hother
    exact .inr ⟨old, hold, rfl⟩
  · rw [List.getElem?_modify_ne _ _ heq] at hother
    exact .inl (List.mem_of_getElem? hother)

theorem subscriptionInv_subscribe {contexts : List DeviceContext}
    (hsound : ∀ context ∈ contexts, NotifySound context)
    (hfree : ∀ context ∈ contexts, context.isSubscribed = false) :
    SubscriptionInv
      (contexts.modify (preferredIndex contexts) subscribeContext) := by
  have hindex := preferredIndex_congr (map_ipAddress_modify
    ipAddress_subscribeContext (preferredIndex contexts) contexts)
  constructor
  · intro context hmem
    rcases mem_modify hmem with hmem | ⟨old, hold, rfl⟩
    · exact hsound context hmem
    · have hold := List.mem_of_getElem? hold
      exact notifySound_subscribeContext (hsound old hold) (hfree old hold)
  · intro index context hcontext hset
    rw [hindex]
    by_contra hne
    rw [List.getElem?_modify_ne _ _ (Ne.symm hne)] at hcontext
    rw [hfree context (List.mem_of_getElem? hcontext)] at hset
    contradiction

theorem unsubscribeIndex_frees {device : DlrDevice}
    (hsound : ∀ context ∈ device.contexts, NotifySound context)
    (hone : AtMostOneSubscribed device.contexts) :
    let freed := unsubscribeIndex (subscribedIndex device.contexts) device
    (∀ context ∈ freed.contexts, NotifySound context) ∧
      ∀ context ∈ freed.contexts, context.isSubscribed = false := by
  unfold unsubscribeIndex subscribedIndex
  cases hindex : device.contexts.findIdx? DeviceContext.isSubscribed with
  | none => exact ⟨hsound, List.findIdx?_eq_none_iff.mp hindex⟩
  | some index =>
      obtain ⟨hlt, hset, -⟩ := List.findIdx?_eq_some_iff_getElem.mp hindex
      refine ⟨fun context hmem => ?_, fun context hmem => ?_⟩
      · rcases mem_modify hmem with hmem | ⟨old, hold, rfl⟩
        · exact hsound context hmem
        · exact notifySound_prvContextUnsubscribe
            (hsound old (List.mem_of_getElem? hold))
      · obtain ⟨other, hother⟩ := List.mem_iff_getElem?.mp hmem
        by_cases heq : index = other
        · subst heq
          rw [List.getElem?_modify_eq] at hother
          obtain ⟨old, -, rfl⟩ := Option.map_eq_some_iff.mp hother
          exact isSubscribed_prvContextUnsubscribe old
        · rw [List.getElem?_modify_ne _ _ heq] at hother
          by_contra hsubscribed
          exact heq (hone index other _ _ (List.getElem?_eq_getElem hlt) hother
            hset (by simpa using hsubscribed))

theorem subscriptionInv_prvDeviceSubscribeContext {device : DlrDevice}
    (hsound : ∀ context ∈ device.contexts, NotifySound context)
    (hone : AtMostOneSubscribed device.contexts) :
    SubscriptionInv (prvDeviceSubscribeContext device).contexts := by
  unfold prvDeviceSubscribeContext
  simp only
  split
  case isTrue hpreferred =>
    refine ⟨hsound, fun index context hcontext hset => ?_⟩
    obtain ⟨hlt, hfound, -⟩ := List.findIdx?_eq_some_iff_getElem.mp hpreferred
    exact hone index _ context _ hcontext (List.getElem?_eq_getElem hlt) hset
      hfound
  case isFalse =>
    obtain ⟨hfreedSound, hfree⟩ := unsubscribeIndex_frees hsound hone
    exact subscriptionInv_subscribe hfreedSound hfree

theorem notifySound_prvContextNew (ipAddress : String)
    (services : Service → Bool) :
    NotifySound (prvContextNew ipAddress services) := by
  intro service
  have hget : (prvContextNew ipAddress services).get service =
      ⟨newProxy (services service), false, false⟩ := by
    cases service <;> rfl
  unfold registrations
  rw [hget]
  cases services service <;> rfl

theorem subscriptionInv_prvContextNew (ipAddress : String)
    (services : Service → Bool) :
    SubscriptionInv [prvContextNew ipAddress services] := by
  constructor
  · intro context hmem
    rw [List.mem_singleton.mp hmem]
    exact notifySound_prvContextNew ipAddress services
  · intro index context hcontext hset
    rw [List.mem_singleton.mp (List.mem_of_getElem? hcontext)] at hset
    contradiction

theorem subscriptionInv_dlrDeviceAppendNewContext {device : DlrDevice}
    (h : SubscriptionInv device.contexts) (ipAddress : String)
    (services : Service → Bool) :
    SubscriptionInv
      (dlrDeviceAppendNewContext ipAddress services device).contexts := by
  refine subscriptionInv_prvDeviceSubscribeContext ?_ ?_
  · intro context hmem
    rcases List.mem_append.mp hmem with hmem | hmem
    · exact h.sound context hmem
    · rw [List.mem_singleton.mp hmem]
      exact notifySound_prvContextNew ipAddress services
  · have hold : ∀ index context,
        (device.contexts ++ [prvContextNew ipAddress services])[index]? =
          some context → context.isSubscribed →
        index = preferredIndex device.contexts := by
      intro index context hcontext hset
      rw [List.getElem?_append] at hcontext
      split at hcontext
      · exact h.preferred index context hcontext hset
      · have hnew := List.mem_singleton.mp (List.mem_of_getElem? hcontext)
        rw [hnew] at hset
        contradiction
    intro i j first second hfirst hsecond hset hset'
    rw [hold i first hfirst hset, hold j second hsecond hset']

theorem preferredIndex_append_cons {before after : List DeviceContext}
    {context : DeviceContext} :
    preferredIndex (before ++ context :: after) = before.length ↔
      (∀ other ∈ before, isLoopback other.ipAddress = false) ∧
        (isLoopback context.ipAddress ∨
          (before = [] ∧ ∀ other ∈ after, isLoopback other.ipAddress = false)) := by
  unfold preferredIndex
  rw [List.findIdx?_append, List.findIdx?_cons]
  cases hbefore : before.findIdx? fun context =>
      isLoopback context.ipAddress with
  | some index =>
      obtain ⟨hlt, hloopback, -⟩ := List.findIdx?_eq_some_iff_getElem.mp hbefore
      constructor
      · intro heq
        simp at heq
        omega
      · rintro ⟨hnone, -⟩
        rw [hnone _ (List.getElem_mem hlt)] at hloopback
        contradiction
  | none =>
      have hnone := List.findIdx?_eq_none_iff.mp hbefore
      cases hcontext : isLoopback context.ipAddress with
      | true => simpa using hnone
      | false =>
          cases hafter : after.findIdx? fun context =>
              isLoopback context.ipAddress with
          | some index =>
              obtain ⟨hlt, hloopback, -⟩ :=
                List.findIdx?_eq_some_iff_getElem.mp hafter
              constructor
              · intro heq
                simp at heq
              · rintro ⟨-, hcontra | ⟨-, hnone⟩⟩
                · contradiction
                · rw [hnone _ (List.getElem_mem hlt)] at hloopback
                  contradiction
          | none =>
              have hrest := List.findIdx?_eq_none_iff.mp hafter
              cases before with
              | nil => simpa using hrest
              | cons first before => simp

theorem subscriptionInv_sublist {contexts kept : List DeviceContext}
    (h : SubscriptionInv contexts) (hkept : kept.Sublist contexts) :
    SubscriptionInv kept := by
  refine ⟨fun context hmem => h.sound context (hkept.subset hmem), ?_⟩
  intro index context hcontext hset
  obtain ⟨before, after, rfl, rfl⟩ : ∃ before after,
      kept = before ++ context :: after ∧ index = before.length := by
    obtain ⟨hlt, rfl⟩ := List.getElem?_eq_some_iff.mp hcontext
    exact ⟨kept.take index, kept.drop (index + 1), by simp, by simp [hlt.le]⟩
  obtain ⟨front, rest, rfl, hfront, hrest⟩ := List.append_sublist_iff.mp hkept
  obtain ⟨middle, back, rfl, hmem, hback⟩ := List.cons_sublist_iff.mp hrest
  obtain ⟨first, second, rfl⟩ := List.append_of_mem hmem
  have hsplit : front ++ (first ++ context :: second ++ back) =
      (front ++ first) ++ context :: (second ++ back) := by simp
  rw [hsplit] at h
  have hpreferred := h.preferred (front ++ first).length context (by simp) hset
  obtain ⟨hbefore, hloopback⟩ := preferredIndex_append_cons.mp hpreferred.symm
  refine (preferredIndex_append_cons.mpr ⟨fun other hother => ?_, ?_⟩).symm
  · exact hbefore other (List.mem_append_left _ (hfront.subset hother))
  · rcases hloopback with hloopback | ⟨hnil, hnone⟩
    · exact .inl hloopback
    · obtain ⟨rfl, rfl⟩ := List.append_eq_nil_iff.mp hnil
      exact .inr ⟨List.sublist_nil.mp hfront, fun other hother =>
        hnone other (List.mem_append_right _ (hback.subset hother))⟩

theorem subscriptionInv_removeContext {ipAddress : String}
    {device kept : DlrDevice} {lost : DeviceContext}
    (h : SubscriptionInv device.contexts)
    (hremoved : removeContext ipAddress device = some (lost, kept)) :
    SubscriptionInv kept.contexts := by
  rw [(removeContext_spec hremoved).2.2]
  exact subscriptionInv_sublist h List.eraseP_sublist

theorem subscriptionInv_map {contexts : List DeviceContext}
    {update : DeviceContext → DeviceContext} (h : SubscriptionInv contexts)
    (hupdate : ∀ context, (update context).ipAddress = context.ipAddress)
    (hkeeps : ∀ context, NotifySound context → NotifySound (update context) ∧
      ((update context).isSubscribed → context.isSubscribed)) :
    SubscriptionInv (contexts.map update) := by
  constructor
  · intro context hmem
    obtain ⟨old, hold, rfl⟩ := List.mem_map.mp hmem
    exact (hkeeps old (h.sound old hold)).1
  · intro index context hcontext hset
    rw [List.getElem?_map, Option.map_eq_some_iff] at hcontext
    obtain ⟨old, hold, rfl⟩ := hcontext
    have hsound := h.sound old (List.mem_of_getElem? hold)
    rw [h.preferred index old hold ((hkeeps old hsound).2 hset)]
    apply preferredIndex_congr
    rw [List.map_map]
    exact List.map_congr_left fun context _ => (hupdate context).symm

end DleynaRenderer.Device
