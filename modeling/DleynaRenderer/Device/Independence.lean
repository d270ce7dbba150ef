import DleynaRenderer.Device.Context

/-!
# The three subscriptions of a context

Each service should be a two-state machine of its own: a lost subscription is
renewed once, and given up when it is lost again before its timeout has run
out.  `serviceLaw` states that machine.  The context follows it as long as a
signal runs the handler of its own service and no other, once; the wiring done
by `subscribeContext` gives that to the connection manager alone, and only
until the context is subscribed a second time.
-/

namespace DleynaRenderer.Device

open EventSystem

inductive ContextEvent where
  | subscribe
  | unsubscribe
  | lost (service : Service)
  | reEnable (service : Service)
  deriving DecidableEq, Repr

/-- A timeout fires only while it is pending. -/
def contextStep (context : DeviceContext) : ContextEvent → Option DeviceContext
  | .subscribe => some (subscribeContext context)
  | .unsubscribe => some (prvContextUnsubscribe context)
  | .lost service => some (emitSubscriptionLost service context)
  | .reEnable service =>
      if (context.get service).timeoutId then some (reEnableCb service context)
      else none

/-- What is observed of a service: all but the wiring of its signal. -/
structure ServiceView where
  subscribed : Bool
  timeoutId : Bool
  proxySubscribed : Bool
  notifies : List NotifyCallback
  deriving DecidableEq, Repr

def ServiceState.view (state : ServiceState) : Option ServiceView :=
  state.proxy.map fun proxy =>
    ⟨state.subscribed, state.timeoutId, proxy.subscribed, proxy.notifies⟩

def concerns (service : Service) : ContextEvent → Bool
  | .subscribe => true
  | .unsubscribe => true
  | .lost other => other = service
  | .reEnable other => other = service

/-- A loss is renewed, unless it is the second one before the timeout. -/
def lostLaw (service : Service) (view : ServiceView) : ServiceView :=
  if view.timeoutId then
    { view with
      subscribed := false
      timeoutId := false
      notifies := view.notifies.erase (notifyCallback service) }
  else { view with proxySubscribed := true, timeoutId := true }

def unsubscribeLaw (service : Service) (view : ServiceView) : ServiceView :=
  if view.subscribed then
    ⟨false, false, false, view.notifies.erase (notifyCallback service)⟩
  else { view with timeoutId := false }

def serviceLaw (service : Service) (view : ServiceView) (event : ContextEvent) :
    ServiceView :=
  if concerns service event then
    match event with
    | .subscribe =>
        { view with
          subscribed := true
          proxySubscribed := true
          notifies := view.notifies ++ [notifyCallback service] }
    | .unsubscribe => unsubscribeLaw service view
    | .lost _ => lostLaw service view
    | .reEnable _ => { view with timeoutId := false }
  else view

def OwnHandlerOnce (context : DeviceContext) : ContextEvent → Prop
  | .lost service => lostHandlers service context = [service]
  | _ => True

instance (context : DeviceContext) (event : ContextEvent) :
    Decidable (OwnHandlerOnce context event) := by
  cases event <;> unfold OwnHandlerOnce <;> infer_instance

theorem view_subscribeService (service emitter other : Service)
    (context : DeviceContext) :
    ((subscribeService service emitter context).get other).view =
      if other = service then
        (context.get other).view.map fun view =>
          serviceLaw service view .subscribe
      else (context.get other).view := by
  have hconnect : ∀ context : DeviceContext,
      ((context.modify emitter fun state =>
        { state with proxy := state.proxy.map (·.connectLost service) }).get
          other).view = (context.get other).view := by
    intro context
    by_cases h : other = emitter
    · subst h
      simp [ServiceState.view, Function.comp_def, ServiceProxy.connectLost]
    · rw [DeviceContext.get_modify_of_ne h]
  unfold subscribeService
  by_cases h : other = service
  · subst h
    cases hproxy : (context.get other).proxy with
    | none => simp [ServiceState.view, hproxy]
    | some proxy =>
        simp only [hconnect, DeviceContext.get_modify_self, if_true]
        simp [ServiceState.view, hproxy, serviceLaw, concerns,
          ServiceProxy.addNotify, ServiceProxy.setSubscribed]
  · cases (context.get service).proxy with
    | none => simp [h]
    | some proxy => simp [hconnect, DeviceContext.get_modify_of_ne h, h]

theorem view_subscribeContext (service : Service) (context : DeviceContext) :
    ((subscribeContext context).get service).view =
      (context.get service).view.map fun view =>
        serviceLaw service view .subscribe := by
  simp only [subscribeContext, subscribeRc, subscribeAv, subscribeCm,
    view_subscribeService]
  cases service <;> simp

theorem view_unsubscribeService (service other : Service)
    (context : DeviceContext) :
    ((unsubscribeService service context).get other).view =
      if other = service then
        (context.get other).view.map (unsubscribeLaw service)
      else (context.get other).view := by
  unfold unsubscribeService
  split
  case isTrue h =>
    subst h
    rw [DeviceContext.get_modify_self]
    cases hsubscribed : (context.get other).subscribed <;>
      simp [ServiceState.view, unsubscribeLaw, hsubscribed, Function.comp_def,
        ServiceProxy.removeNotify, ServiceProxy.setSubscribed]
  case isFalse h => rw [DeviceContext.get_modify_of_ne h]

theorem view_prvContextUnsubscribe (service : Service)
    (context : DeviceContext) :
    ((prvContextUnsubscribe context).get service).view =
      (context.get service).view.map (unsubscribeLaw service) := by
  simp only [prvContextUnsubscribe, view_unsubscribeService]
  cases service <;> simp

theorem view_subscriptionLost (service other : Service)
    (context : DeviceContext) :
    ((subscriptionLost service context).get other).view =
      if other = service then (context.get other).view.map (lostLaw service)
      else (context.get other).view := by
  unfold subscriptionLost
  split
  case isTrue h =>
    subst h
    rw [DeviceContext.get_modify_self]
    cases htimeout : (context.get other).timeoutId <;>
      simp [ServiceState.view, lostLaw, htimeout, Function.comp_def,
        ServiceProxy.removeNotify, ServiceProxy.setSubscribed]
  case isFalse h => rw [DeviceContext.get_modify_of_ne h]

theorem view_reEnableSubscription (service other : Service)
    (context : DeviceContext) :
    ((reEnableSubscription service context).get other).view =
      if other = service then
        (context.get other).view.map fun view => { view with timeoutId := false }
      else (context.get other).view := by
  unfold reEnableSubscription
  split
  case isTrue h =>
    subst h
    simp [ServiceState.view, Function.comp_def]
  case isFalse h => rw [DeviceContext.get_modify_of_ne h]

/-! ## Runs of a context -/

/-- A guarded step changes each service by its own law. -/
theorem view_contextStep {context next : DeviceContext} {event : ContextEvent}
    (service : Service) (hguard : OwnHandlerOnce context event)
    (hstep : contextStep context event = some next) :
    (next.get service).view =
      (context.get service).view.map fun view =>
        serviceLaw service view event := by
  cases event with
  | subscribe =>
      obtain rfl := Option.some.inj hstep
      exact view_subscribeContext service context
  | unsubscribe =>
      obtain rfl := Option.some.inj hstep
      simpa [serviceLaw, concerns] using view_prvContextUnsubscribe service context
  | lost lostService =>
      obtain rfl := Option.some.inj hstep
      have hhandlers : lostHandlers lostService context = [lostService] := hguard
      simp only [emitSubscriptionLost, hhandlers, List.foldl_cons, List.foldl_nil,
        subscriptionLostCb_eq, view_subscriptionLost, serviceLaw, concerns]
      by_cases h : service = lostService
      · subst h; simp
      · simp [h, Ne.symm h]
  | reEnable enabled =>
      simp only [contextStep, Option.ite_none_right_eq_some] at hstep
      obtain rfl := Option.some.inj hstep.2
      simp only [reEnableCb_eq, view_reEnableSubscription, serviceLaw, concerns]
      by_cases h : service = enabled
      · subst h; simp
      · simp [h, Ne.symm h]

def freshView : ServiceView := ⟨false, false, false, []⟩

theorem view_prvContextNew (ipAddress : String) (service : Service) :
    ((prvContextNew ipAddress fun _ => true).get service).view =
      some freshView := by
  cases service <;> rfl

/--
In every run whose lost signals run their own handler once, each service goes
through its own events only, by its own law.
-/
theorem services_independent (ipAddress : String) (events : List ContextEvent)
    (last : DeviceContext)
    (hrun : exec contextStep (prvContextNew ipAddress fun _ => true) events =
      some last)
    (hmeets : Meets contextStep OwnHandlerOnce
      (prvContextNew ipAddress fun _ => true) events)
    (service : Service) :
    (last.get service).view =
      some ((events.filter (concerns service)).foldl (serviceLaw service)
        freshView) := by
  have hprojected := exec_projection
    (fun context : DeviceContext => (context.get service).view)
    (fun view event => view.map fun view => serviceLaw service view event)
    (fun context event next hguard hstep =>
      view_contextStep service hguard hstep) hrun hmeets
  have hfold : ∀ (view : ServiceView) (events : List ContextEvent),
      events.foldl
        (fun view event => view.map fun view => serviceLaw service view event)
        (some view) = some (events.foldl (serviceLaw service) view) := by
    intro view events
    induction events generalizing view with
    | nil => rfl
    | cons event events ih => exact ih (serviceLaw service view event)
  rw [hprojected, view_prvContextNew, hfold,
    foldl_filter_of_ignored (concerns service)]
  intro view event hignored
  simp [serviceLaw, hignored]

theorem services_independent_twice_lost :
    let events : List ContextEvent := [.subscribe, .lost .cm, .lost .cm]
    ∃ last, exec contextStep (prvContextNew "10.0.0.1" fun _ => true) events =
        some last ∧
      (last.get .cm).view =
        some ((events.filter (concerns .cm)).foldl (serviceLaw .cm)
          freshView) :=
  ⟨_, rfl, services_independent "10.0.0.1" [.subscribe, .lost .cm, .lost .cm]
    _ rfl (by decide) .cm⟩

/--
A lost AV transport subscription changes rendering control, a lost rendering
control subscription changes nothing, and after a second subscription the first
loss is the last one.
-/
theorem services_entangled :
    let observed (events : List ContextEvent) (service : Service) :=
      (exec contextStep (prvContextNew "10.0.0.1" fun _ => true) events).bind
        fun context => (context.get service).view
    let expected (events : List ContextEvent) (service : Service) :=
      some ((events.filter (concerns service)).foldl (serviceLaw service)
        freshView)
    observed [.subscribe, .lost .av] .rc ≠ expected [.subscribe, .lost .av] .rc ∧
    observed [.subscribe, .lost .rc] .rc ≠ expected [.subscribe, .lost .rc] .rc ∧
    observed [.subscribe, .unsubscribe, .subscribe, .lost .cm] .cm ≠
      expected [.subscribe, .unsubscribe, .subscribe, .lost .cm] .cm := by
  decide

def wiring (service : Service) (context : DeviceContext) : Option (List Service) :=
  (context.get service).proxy.map (·.lostHandlers)

theorem lostHandlers_eq_wiring (service : Service) (context : DeviceContext) :
    lostHandlers service context = (wiring service context).getD [] := by
  unfold lostHandlers wiring
  cases (context.get service).proxy <;> rfl

theorem wiring_modify {update : ServiceState → ServiceState}
    (hkept : ∀ state : ServiceState,
      (update state).proxy.map (·.lostHandlers) =
        state.proxy.map (·.lostHandlers))
    (service other : Service) (context : DeviceContext) :
    wiring other (context.modify service update) = wiring other context := by
  unfold wiring
  by_cases h : other = service
  · subst h
    rw [DeviceContext.get_modify_self, hkept]
  · rw [DeviceContext.get_modify_of_ne h]

theorem wiring_unsubscribeService (service other : Service)
    (context : DeviceContext) :
    wiring other (unsubscribeService service context) = wiring other context := by
  refine wiring_modify (fun state => ?_) service other context
  cases state.subscribed <;>
    simp [Function.comp_def, ServiceProxy.setSubscribed, ServiceProxy.removeNotify]

theorem wiring_subscriptionLost (service other : Service)
    (context : DeviceContext) :
    wiring other (subscriptionLost service context) = wiring other context := by
  refine wiring_modify (fun state => ?_) service other context
  cases state.timeoutId <;>
    simp [Function.comp_def, ServiceProxy.setSubscribed, ServiceProxy.removeNotify]

theorem wiring_emitSubscriptionLost (service other : Service)
    (context : DeviceContext) :
    wiring other (emitSubscriptionLost service context) =
      wiring other context := by
  unfold emitSubscriptionLost
  induction lostHandlers service context generalizing context with
  | nil => rfl
  | cons handler handlers ih =>
      rw [List.foldl_cons, ih, subscriptionLostCb_eq, wiring_subscriptionLost]

theorem wiring_subscribeService {service : Service} {context : DeviceContext}
    (hproxy : (wiring service context).isSome) (emitter other : Service) :
    wiring other (subscribeService service emitter context) =
      if other = emitter then (wiring other context).map (· ++ [service])
      else wiring other context := by
  have hsubscribed : ∀ other, wiring other
      (context.modify service fun state =>
        { state with
          proxy := state.proxy.map fun proxy =>
            (proxy.setSubscribed true).addNotify (notifyCallback service)
          subscribed := true }) = wiring other context := fun other =>
    wiring_modify (fun state => by
      simp [Function.comp_def, ServiceProxy.setSubscribed,
        ServiceProxy.addNotify]) service other context
  unfold subscribeService
  cases hcase : (context.get service).proxy with
  | none => simp [wiring, hcase] at hproxy
  | some proxy =>
      simp only [← hsubscribed other]
      unfold wiring
      by_cases h : other = emitter
      · subst h
        simp [Function.comp_def, ServiceProxy.connectLost]
      · rw [DeviceContext.get_modify_of_ne h, if_neg h]

structure Wired (count : Nat) (context : DeviceContext) : Prop where
  cm : wiring .cm context = some (List.replicate count .cm)
  av : wiring .av context = some (List.replicate count [.av, .rc]).flatten
  rc : wiring .rc context = some []

theorem wired_subscribeContext {count : Nat} {context : DeviceContext}
    (h : Wired count context) : Wired (count + 1) (subscribeContext context) := by
  have hcm : (wiring .cm context).isSome := by simp [h.cm]
  have hav : (wiring .av (subscribeCm context)).isSome := by
    simp [subscribeCm, wiring_subscribeService hcm, h.av]
  have hrc : (wiring .rc (subscribeAv (subscribeCm context))).isSome := by
    rw [subscribeAv, wiring_subscribeService hav]
    simp [subscribeCm, wiring_subscribeService hcm, h.rc]
  have hwiring : ∀ service, wiring service (subscribeContext context) = _ :=
    wiring_subscribeService hrc .av
  constructor <;> rw [hwiring, subscribeAv, wiring_subscribeService hav,
    subscribeCm, wiring_subscribeService hcm]
  · simp [h.cm, List.replicate_succ']
  · simp [h.av, List.replicate_succ']
  · simp [h.rc]

theorem wired_contextStep {count : Nat} {context next : DeviceContext}
    {event : ContextEvent} (h : Wired count context)
    (hstep : contextStep context event = some next) :
    Wired (count + if event = .subscribe then 1 else 0) next := by
  have hkept : (∀ service, wiring service next = wiring service context) →
      Wired count next := fun hwiring =>
    ⟨hwiring .cm ▸ h.cm, hwiring .av ▸ h.av, hwiring .rc ▸ h.rc⟩
  cases event with
  | subscribe =>
      obtain rfl := Option.some.inj hstep
      exact wired_subscribeContext h
  | unsubscribe =>
      obtain rfl := Option.some.inj hstep
      exact hkept fun service => by
        simp only [prvContextUnsubscribe, wiring_unsubscribeService]
  | lost lostService =>
      obtain rfl := Option.some.inj hstep
      exact hkept fun service => wiring_emitSubscriptionLost lostService service _
  | reEnable enabled =>
      simp only [contextStep, Option.ite_none_right_eq_some] at hstep
      obtain rfl := Option.some.inj hstep.2
      exact hkept fun service => by
        rw [reEnableCb_eq]
        apply wiring_modify
        intro state
        rfl

theorem wired_of_exec {count : Nat} {context last : DeviceContext}
    {events : List ContextEvent} (h : Wired count context)
    (hrun : exec contextStep context events = some last) :
    Wired (count + events.count .subscribe) last := by
  induction events generalizing count context with
  | nil =>
      obtain rfl : context = last := by simpa using hrun
      exact h
  | cons event events ih =>
      obtain ⟨next, hstep, hrest⟩ := exec_cons_eq_some.mp hrun
      have hlast := ih (wired_contextStep h hstep) hrest
      rw [List.count_cons]
      convert hlast using 1
      simp only [beq_iff_eq]
      omega

theorem ownHandlerOnce_lost_iff {ipAddress : String} {last : DeviceContext}
    {events : List ContextEvent}
    (hrun : exec contextStep (prvContextNew ipAddress fun _ => true) events =
      some last) (service : Service) :
    OwnHandlerOnce last (.lost service) ↔
      service = .cm ∧ events.count .subscribe = 1 := by
  have hfresh : Wired 0 (prvContextNew ipAddress fun _ => true) :=
    ⟨rfl, rfl, rfl⟩
  have hwired := wired_of_exec hfresh hrun
  simp only [OwnHandlerOnce, lostHandlers_eq_wiring]
  generalize hcount : events.count .subscribe = count at hwired
  rw [Nat.zero_add] at hwired
  cases service with
  | cm =>
      rw [hwired.cm]
      constructor
      · intro h
        exact ⟨rfl, by simpa using congrArg List.length h⟩
      · rintro ⟨-, rfl⟩
        rfl
  | av =>
      rw [hwired.av]
      match count with
      | 0 => simp
      | count + 1 => simp [List.replicate_succ]
  | rc => simp [hwired.rc]

end DleynaRenderer.Device
