import DleynaRenderer.Server.Watchers
import DleynaRenderer.Upnp.Hosting

/-!
# The requests of the task processor

A request is outstanding from the time it is queued until the queues of its
client or of its object are removed.  The processor may have answered it long
before, so what is shown of the outstanding requests holds of the ones that are
still to be processed.
-/

namespace DleynaRenderer.Server

open DleynaRenderer.Device DleynaRenderer.PushHost DleynaRenderer.Upnp
open EventSystem

/-- `DLEYNA_SERVER_OBJECT` -/
def serverObject : String := "/com/intel/dLeynaRenderer"

structure Request where
  source : String
  sink : String
  deriving DecidableEq, Repr

def requestsAfter (requests : List Request) : ProcessorCall → List Request
  | .addTask source sink => requests ++ [⟨source, sink⟩]
  | .removeQueuesForSource source =>
      requests.filter fun request => request.source ≠ source
  | .removeQueuesForSink sink =>
      requests.filter fun request => request.sink ≠ sink
  | .cancelQueue _ _ => requests
  | .setQuitting => requests

def outstanding (calls : List ProcessorCall) : List Request :=
  calls.foldl requestsAfter []

variable {κ : Type} (connector : Connector κ)

def queuedRequest (context : DlrContext κ) : ServerEvent → Option Request
  | .managerCall sender method _ =>
      if method ∈ managerMethods then some ⟨sender, rendererSink⟩ else none
  | .managerPropsCall sender object method =>
      if method ∈ propsMethods then some ⟨sender, object⟩ else none
  | .deviceCall interface sender object method _ =>
      if (dlrDeviceFromPath object context.upnp).isSome ∧
          method ∈ queuedMethods interface then some ⟨sender, object⟩
      else none
  | .clientLost _ => none
  | .upnp _ => none
  | .setNeverQuit _ => none

def departing : ServerEvent → Option String
  | .managerCall sender method _ =>
      if method = "Release" then some sender else none
  | .clientLost name => some name
  | _ => none

def newSignals (upnp next : DlrUpnp) : List Signal :=
  next.signals.drop upnp.signals.length

/--
What a step does to the outstanding requests: those of a client that leaves and
those to a device that is lost go, and the one that is made is put last.
-/
def RequestsLaw (context : DlrContext κ) (event : ServerEvent)
    (next : DlrContext κ) : Prop :=
  outstanding next.calls =
    ((outstanding context.calls).filter fun request =>
      some request.source ≠ departing event ∧
        .lostServer request.sink ∉ newSignals context.upnp next.upnp) ++
      (queuedRequest context event).toList

def CanBeAsked (context : DlrContext κ) (sink : String) : Prop :=
  sink = rendererSink ∨ sink = serverObject ∨
    (dlrDeviceFromPath sink context.upnp).isSome

def Answerable (context : DlrContext κ) (request : Request) : Prop :=
  request.source ∈ connector.watched context.connector ∧
    CanBeAsked context request.sink

def RequestsAnswerable (context : DlrContext κ) : Prop :=
  ∀ request ∈ outstanding context.calls, Answerable connector context request

/-- The manager's interfaces are published at one object. -/
def AtServerObject (_ : DlrContext κ) : ServerEvent → Prop
  | .managerPropsCall _ object _ => object = serverObject
  | _ => True

instance (context : DlrContext κ) :
    (event : ServerEvent) → Decidable (AtServerObject context event)
  | .managerPropsCall _ _ _ => inferInstanceAs (Decidable (_ = _))
  | .managerCall _ _ _ | .deviceCall _ _ _ _ _ | .clientLost _ | .upnp _
  | .setNeverQuit _ => isTrue trivial

@[simp] theorem outstanding_nil : outstanding [] = [] := rfl

theorem outstanding_concat (calls : List ProcessorCall) (call : ProcessorCall) :
    outstanding (calls ++ [call]) = requestsAfter (outstanding calls) call := by
  simp [outstanding]

theorem outstanding_append_quitting (calls : List ProcessorCall)
    (quits : Prop) [Decidable quits] :
    outstanding (calls ++ if quits then [.setQuitting] else []) =
      outstanding calls := by
  split_ifs
  · rw [outstanding_concat]
    rfl
  · rw [List.append_nil]

theorem outstanding_prvRemoveClient (name : String) (context : DlrContext κ) :
    outstanding (prvRemoveClient name context).calls =
      (outstanding context.calls).filter fun request =>
        request.source ≠ name := by
  have hsplit : (prvRemoveClient name context).calls =
      (context.calls ++ [.removeQueuesForSource name]) ++
        if context.watchers ≤ 1 ∧ context.neverQuit = false then
          [.setQuitting] else [] := by
    rw [prvRemoveClient_eq, List.append_assoc, List.singleton_append]
  rw [hsplit, outstanding_append_quitting, outstanding_concat]
  rfl

theorem upnp_prvRemoveClient (name : String) (context : DlrContext κ) :
    (prvRemoveClient name context).upnp =
      dlrUpnpLostClient name context.upnp := by
  rw [prvRemoveClient_eq]

theorem outstanding_prvLostMediaServer (signals : List Signal)
    (context : DlrContext κ) :
    outstanding (prvLostMediaServer signals context).calls =
      (outstanding context.calls).filter fun request =>
        .lostServer request.sink ∉ signals := by
  -- from the end, as the calls are appended in the order of the signals
  induction signals using List.reverseRecOn with
  | nil => simp [prvLostMediaServer]
  | append_singleton signals signal ih =>
      have hconcat : prvLostMediaServer (signals ++ [signal]) context =
          prvLostMediaServer [signal] (prvLostMediaServer signals context) :=
        List.foldl_append ..
      rw [hconcat]
      cases signal with
      | foundServer path =>
          have hskip : prvLostMediaServer [.foundServer path]
              (prvLostMediaServer signals context) =
                prvLostMediaServer signals context := rfl
          rw [hskip, ih]
          simp
      | lostServer path =>
          have hcall : (prvLostMediaServer [.lostServer path]
              (prvLostMediaServer signals context)).calls =
                (prvLostMediaServer signals context).calls ++
                  [.removeQueuesForSink path] := rfl
          rw [hcall, outstanding_concat, ih, requestsAfter, List.filter_filter]
          apply List.filter_congr
          intro request _
          simp [and_comm]

theorem upnp_prvLostMediaServer (signals : List Signal)
    (context : DlrContext κ) :
    (prvLostMediaServer signals context).upnp = context.upnp := by
  induction signals generalizing context with
  | nil => rfl
  | cons signal signals ih =>
      cases signal <;> exact ih _

/-! ## The law of a step -/

theorem requestsLaw_same {context next : DlrContext κ} {event : ServerEvent}
    (hcalls : outstanding next.calls = outstanding context.calls)
    (hupnp : next.upnp = context.upnp) (hdeparting : departing event = none)
    (hqueued : queuedRequest context event = none) :
    RequestsLaw context event next := by
  simp [RequestsLaw, newSignals, hcalls, hupnp, hdeparting, hqueued]

theorem requestsLaw_prvAddTask {source sink : String} {context : DlrContext κ}
    {event : ServerEvent} (hdeparting : departing event = none)
    (hqueued : queuedRequest context event = some ⟨source, sink⟩) :
    RequestsLaw context event
      (prvAddTask connector source sink context) := by
  have hcalls : (prvAddTask connector source sink context).calls =
      context.calls ++ [.addTask source sink] := rfl
  have hupnp : (prvAddTask connector source sink context).upnp =
      context.upnp := rfl
  simp [RequestsLaw, newSignals, hcalls, hupnp, hdeparting, hqueued,
    outstanding_concat, requestsAfter]

theorem requestsLaw_prvRemoveClient {name : String} {context : DlrContext κ}
    {k : κ} {event : ServerEvent} (hdeparting : departing event = some name)
    (hqueued : queuedRequest context event = none) :
    RequestsLaw context event
      (prvRemoveClient name { context with connector := k }) := by
  simp [RequestsLaw, newSignals, outstanding_prvRemoveClient,
    upnp_prvRemoveClient, dlrUpnpLostClient, hdeparting, hqueued]

theorem path_of_dlrDeviceFromPath {path : String} {upnp : DlrUpnp}
    {device : DlrDevice} (h : dlrDeviceFromPath path upnp = some device) :
    device.path = path := by
  simpa using List.find?_some h

theorem requestsLaw_deviceCall (interface : DeviceInterface)
    (sender object method : String) (invocation : Nat)
    (context : DlrContext κ) :
    RequestsLaw context
      (.deviceCall interface sender object method invocation)
      (serverVtables connector interface sender object method invocation
        context) := by
  cases hdevice : dlrDeviceFromPath object context.upnp with
  | none =>
      have hnone : queuedRequest context (.deviceCall interface sender object
          method invocation) = none := by
        simp [queuedRequest, hdevice]
      have hrefused : serverVtables connector interface sender object method
          invocation context =
            context.reply invocation (.error ⟨.objectNotFound,
              "Cannot locate device corresponding to the specified path"⟩) := by
        cases interface <;>
          simp [serverVtables, prvPropsMethodCall, prvDlrDeviceMethodCall,
            prvDlrPlayerMethodCall, prvDlrPushHostMethodCall, taskMethodCall,
            prvRendererDeviceMethodCall, prvGetDeviceId, hdevice]
      rw [hrefused]
      exact requestsLaw_same rfl rfl rfl hnone
  | some device =>
      have hid : prvGetDeviceId object context.upnp = .ok object := by
        simp [prvGetDeviceId, hdevice, path_of_dlrDeviceFromPath hdevice]
      have hqueued (hmem : method ∈ queuedMethods interface) :
          RequestsLaw context
            (.deviceCall interface sender object method invocation)
            (prvAddTask connector sender object context) :=
        requestsLaw_prvAddTask connector rfl
          (by simp [queuedRequest, hdevice, hmem])
      have hignored (hmem : method ∉ queuedMethods interface) :
          RequestsLaw context
            (.deviceCall interface sender object method invocation) context :=
        requestsLaw_same rfl rfl rfl (by simp [queuedRequest, hmem])
      have htask : RequestsLaw context
          (.deviceCall interface sender object method invocation)
          (taskMethodCall connector (queuedMethods interface) sender object
            method invocation context) := by
        simp only [taskMethodCall, hid]
        split_ifs with hmem
        · exact hqueued hmem
        · exact hignored hmem
      cases interface with
      | properties => exact htask
      | server => exact htask
      | player => exact htask
      | pushHost => exact htask
      | rendererDevice =>
          simp only [serverVtables, prvRendererDeviceMethodCall, hid]
          split_ifs with hcancel hicon
          · have hmem : method ∉ queuedMethods .rendererDevice := by
              simp [queuedMethods, hcancel]
            exact requestsLaw_same (outstanding_concat context.calls _) rfl rfl
              (by simp [queuedRequest, hmem])
          · exact hqueued (by simp [queuedMethods, hicon])
          · exact hignored (by simpa [queuedMethods] using hicon)

theorem requestsLaw_serverStep {convertUdnToPath : String → String}
    {context next : DlrContext κ} {event : ServerEvent}
    (hstep : serverStep connector convertUdnToPath context event = some next) :
    RequestsLaw context event next := by
  cases event with
  | managerCall sender method invocation =>
      obtain rfl := Option.some.inj hstep
      simp only [prvManagerRootMethodCall]
      split_ifs with hrelease hmanager
      · subst hrelease
        exact requestsLaw_prvRemoveClient rfl rfl
      · exact requestsLaw_prvAddTask connector (by simp [departing, hrelease])
          (by simp [queuedRequest, hmanager])
      · exact requestsLaw_same rfl rfl (by simp [departing, hrelease])
          (by simp [queuedRequest, hmanager])
  | managerPropsCall sender object method =>
      obtain rfl := Option.some.inj hstep
      simp only [prvManagerPropsMethodCall]
      split_ifs with hprops
      · exact requestsLaw_prvAddTask connector rfl
          (by simp [queuedRequest, hprops])
      · exact requestsLaw_same rfl rfl rfl (by simp [queuedRequest, hprops])
  | deviceCall interface sender object method invocation =>
      obtain rfl := Option.some.inj hstep
      exact requestsLaw_deviceCall connector interface sender object method
        invocation context
  | clientLost name =>
      simp only [serverStep, Option.ite_none_right_eq_some] at hstep
      obtain rfl := Option.some.inj hstep.2
      exact requestsLaw_prvRemoveClient rfl rfl
  | upnp event =>
      obtain ⟨upnp, -, rfl⟩ := Option.map_eq_some_iff.mp hstep
      simp [RequestsLaw, newSignals, outstanding_prvLostMediaServer,
        upnp_prvLostMediaServer, departing, queuedRequest]
  | setNeverQuit neverQuit =>
      obtain rfl := Option.some.inj hstep
      exact requestsLaw_same rfl rfl rfl rfl

theorem isSome_dlrDeviceFromPath_iff {path : String} {upnp : DlrUpnp} :
    (dlrDeviceFromPath path upnp).isSome ↔
      ∃ udn device, entry upnp udn = some ⟨device, none⟩ ∧
        device.path = path := by
  simp only [dlrDeviceFromPath, List.find?_isSome, decide_eq_true_eq,
    HashTable.mem_values_iff, lookup_constructed_iff]
  constructor
  · rintro ⟨device, ⟨udn, hentry⟩, hpath⟩
    exact ⟨udn, device, hentry, hpath⟩
  · rintro ⟨udn, device, hentry, hpath⟩
    exact ⟨device, ⟨udn, hentry⟩, hpath⟩

theorem constructed_entryChange
    {fresh : String → (Service → Bool) → Entry} {event : UpnpEvent}
    {device : DlrDevice} {after : Entry}
    (h : entryChange fresh (some ⟨device, none⟩) event = some after) :
    after.chain = none := by
  cases event with
  | unavailable udn ipAddress =>
      simp only [entryChange, loseContext] at h
      split at h
      case h_1 => exact Option.some.inj h ▸ rfl
      case h_2 =>
        obtain ⟨context, -, rfl⟩ := Option.map_eq_some_iff.mp h
        rfl
  | player udn info event =>
      simp only [entryChange, Option.some.injEq] at h
      split at h <;> exact h ▸ rfl
  | _ => exact Option.some.inj h ▸ rfl

theorem isSome_dlrDeviceFromPath_upnpStep {convertUdnToPath : String → String}
    {upnp next : DlrUpnp} {event : UpnpEvent} {path : String}
    (hlocated : Located convertUdnToPath upnp)
    (hstep : upnpStep convertUdnToPath upnp event = some next)
    (hfound : (dlrDeviceFromPath path upnp).isSome)
    (hkept : .lostServer path ∉ newSignals upnp next) :
    (dlrDeviceFromPath path next).isSome := by
  rw [isSome_dlrDeviceFromPath_iff] at hfound ⊢
  obtain ⟨udn, device, hentry, hpath⟩ := hfound
  rcases upnpStep_cases hlocated.apart hstep with
    ⟨changed, htarget, hchanges⟩ | ⟨-, hsame⟩
  · by_cases heq : udn = changed
    · subst heq
      have hafter := hchanges.entries udn
      rw [if_pos rfl, hentry] at hafter
      have hsignals := hchanges.signals
      rw [hentry] at hsignals
      cases hresult : entryChange (freshEntry convertUdnToPath udn)
          (some ⟨device, none⟩) event with
      | none =>
          rw [hresult] at hsignals
          simp [newSignals, hsignals, transition, hpath] at hkept
      | some after =>
          have hchain := constructed_entryChange hresult
          have hmirrored := mirrored_entryChange convertUdnToPath htarget
            (fun found hfound => hlocated.mirrored udn found
              (hentry.trans hfound)) hresult
          have hsamePath : after.device.path = path := by
            rw [hmirrored.path, ← hpath]
            exact (hlocated.mirrored udn _ hentry).path.symm
          obtain ⟨device', chain'⟩ := after
          obtain rfl : chain' = none := hchain
          exact ⟨udn, device', hafter.trans hresult, hsamePath⟩
    · refine ⟨udn, device, ?_, hpath⟩
      rw [hchanges.entries udn, if_neg heq]
      exact hentry
  · exact ⟨udn, device, (hsame.entry_eq udn).trans hentry, hpath⟩

/-! ## Runs -/

theorem upnp_serverStep {convertUdnToPath : String → String}
    {context next : DlrContext κ} {event : ServerEvent}
    (hstep : serverStep connector convertUdnToPath context event = some next) :
    (∃ upnpEvent, event = .upnp upnpEvent ∧
      upnpStep convertUdnToPath context.upnp upnpEvent = some next.upnp) ∨
    (∃ client, departing event = some client ∧
      next.upnp = dlrUpnpLostClient client context.upnp) ∨
    (departing event = none ∧ next.upnp = context.upnp) := by
  cases event with
  | managerCall sender method invocation =>
      obtain rfl := Option.some.inj hstep
      right
      simp only [prvManagerRootMethodCall]
      split_ifs with hrelease hmanager
      · exact .inl ⟨sender, by simp [departing, hrelease],
          by simp [DlrContext.reply, upnp_prvRemoveClient]⟩
      · exact .inr ⟨by simp [departing, hrelease], rfl⟩
      · exact .inr ⟨by simp [departing, hrelease], rfl⟩
  | managerPropsCall sender object method =>
      obtain rfl := Option.some.inj hstep
      refine .inr (.inr ⟨rfl, ?_⟩)
      simp only [prvManagerPropsMethodCall]
      split_ifs <;> rfl
  | deviceCall interface sender object method invocation =>
      obtain rfl := Option.some.inj hstep
      refine .inr (.inr ⟨rfl, ?_⟩)
      have htask (methods : List String) :
          (taskMethodCall connector methods sender object method invocation
            context).upnp = context.upnp := by
        unfold taskMethodCall
        split
        · rfl
        · split_ifs <;> rfl
      cases interface with
      | rendererDevice =>
          simp only [serverVtables, prvRendererDeviceMethodCall]
          split
          · rfl
          · split_ifs <;> rfl
      | _ => exact htask _
  | clientLost name =>
      simp only [serverStep, Option.ite_none_right_eq_some] at hstep
      obtain rfl := Option.some.inj hstep.2
      exact .inr (.inl ⟨name, rfl, upnp_prvRemoveClient _ _⟩)
  | upnp event =>
      obtain ⟨upnp, hupnp, rfl⟩ := Option.map_eq_some_iff.mp hstep
      exact .inl ⟨event, rfl, by rw [upnp_prvLostMediaServer]; exact hupnp⟩
  | setNeverQuit neverQuit =>
      obtain rfl := Option.some.inj hstep
      exact .inr (.inr ⟨rfl, rfl⟩)

theorem departing_of_release_or_lost {context : DlrContext κ}
    {event : ServerEvent} {client : String}
    (h : clientAction context event = .release client ∨
      clientAction context event = .lost client) :
    departing event = some client := by
  cases event with
  | managerCall sender method invocation =>
      simp only [clientAction] at h
      split_ifs at h with hrelease hmanager <;> simp_all [departing]
  | managerPropsCall sender object method =>
      simp only [clientAction] at h
      split_ifs at h <;> simp at h
  | deviceCall interface sender object method invocation =>
      simp only [clientAction] at h
      split_ifs at h <;> simp at h
  | clientLost name => simpa [clientAction, departing] using h
  | upnp event => simp [clientAction] at h
  | setNeverQuit neverQuit => simp [clientAction] at h

theorem watch_of_queuedRequest {context : DlrContext κ} {event : ServerEvent}
    {request : Request} (h : queuedRequest context event = some request) :
    clientAction context event = .watch request.source := by
  cases event with
  | managerCall sender method invocation =>
      simp only [queuedRequest, Option.ite_none_right_eq_some] at h
      obtain ⟨hmem, hrequest⟩ := h
      obtain rfl := Option.some.inj hrequest
      have hrelease : method ≠ "Release" := by
        rintro rfl
        simp [managerMethods] at hmem
      simp [clientAction, hrelease, hmem]
  | managerPropsCall sender object method =>
      simp only [queuedRequest, Option.ite_none_right_eq_some] at h
      obtain rfl := Option.some.inj h.2
      simp [clientAction, h.1]
  | deviceCall interface sender object method invocation =>
      simp only [queuedRequest, Option.ite_none_right_eq_some] at h
      obtain rfl := Option.some.inj h.2
      simp [clientAction, h.1]
  | clientLost | upnp | setNeverQuit => simp [queuedRequest] at h

theorem watched_of_not_departing {convertUdnToPath : String → String}
    {context next : DlrContext κ} {event : ServerEvent} {client : String}
    (hstep : serverStep connector convertUdnToPath context event = some next)
    (hwatched : client ∈ connector.watched context.connector)
    (hstays : some client ≠ departing event) :
    client ∈ connector.watched next.connector := by
  rw [(counted_serverStep connector hstep).watched]
  cases haction : clientAction context event with
  | watch other => exact Finset.mem_insert_of_mem hwatched
  | release other =>
      rw [departing_of_release_or_lost (.inl haction)] at hstays
      exact Finset.mem_erase.mpr ⟨fun heq => hstays (congrArg some heq), hwatched⟩
  | lost other =>
      rw [departing_of_release_or_lost (.inr haction)] at hstays
      exact Finset.mem_erase.mpr ⟨fun heq => hstays (congrArg some heq), hwatched⟩
  | nothing => exact hwatched

theorem watched_of_queuedRequest {convertUdnToPath : String → String}
    {context next : DlrContext κ} {event : ServerEvent} {request : Request}
    (hstep : serverStep connector convertUdnToPath context event = some next)
    (hqueued : queuedRequest context event = some request) :
    request.source ∈ connector.watched next.connector := by
  rw [(counted_serverStep connector hstep).watched,
    watch_of_queuedRequest hqueued]
  exact Finset.mem_insert_self _ _

def SourcesWatched (context : DlrContext κ) : Prop :=
  ∀ request ∈ outstanding context.calls,
    request.source ∈ connector.watched context.connector

theorem sourcesWatched_serverStep {convertUdnToPath : String → String}
    {context next : DlrContext κ} {event : ServerEvent}
    (h : SourcesWatched connector context)
    (hstep : serverStep connector convertUdnToPath context event = some next) :
    SourcesWatched connector next := by
  intro request hmem
  rw [requestsLaw_serverStep connector hstep, List.mem_append,
    List.mem_filter] at hmem
  rcases hmem with ⟨hbefore, hstays⟩ | hnew
  · simp only [decide_eq_true_eq] at hstays
    exact watched_of_not_departing connector hstep (h request hbefore) hstays.1
  · exact watched_of_queuedRequest connector hstep (Option.mem_toList.mp hnew)

theorem located_serverStep {convertUdnToPath : String → String}
    {context next : DlrContext κ} {event : ServerEvent}
    (h : Located convertUdnToPath context.upnp)
    (hstep : serverStep connector convertUdnToPath context event = some next) :
    Located convertUdnToPath next.upnp := by
  rcases upnp_serverStep connector hstep with
    ⟨upnpEvent, -, hupnp⟩ | ⟨client, -, hlost⟩ | ⟨-, hsame⟩
  · exact located_upnpStep h hupnp
  · have hclient : upnpStep convertUdnToPath context.upnp (.lostClient client) =
        some next.upnp := congrArg some hlost.symm
    exact located_upnpStep h hclient
  · rw [hsame]
    exact h

theorem canBeAsked_serverStep {convertUdnToPath : String → String}
    {context next : DlrContext κ} {event : ServerEvent} {sink : String}
    (hlocated : Located convertUdnToPath context.upnp)
    (hstep : serverStep connector convertUdnToPath context event = some next)
    (hasked : CanBeAsked context sink)
    (hkept : .lostServer sink ∉ newSignals context.upnp next.upnp) :
    CanBeAsked next sink := by
  refine hasked.imp_right fun hobject => hobject.imp_right fun hfound => ?_
  rcases upnp_serverStep connector hstep with
    ⟨upnpEvent, -, hupnp⟩ | ⟨client, -, hlost⟩ | ⟨-, hsame⟩
  · exact isSome_dlrDeviceFromPath_upnpStep hlocated hupnp hfound hkept
  · rw [hlost]
    exact hfound
  · rw [hsame]
    exact hfound

theorem canBeAsked_of_queuedRequest {convertUdnToPath : String → String}
    {context next : DlrContext κ} {event : ServerEvent} {request : Request}
    (hstep : serverStep connector convertUdnToPath context event = some next)
    (hqueued : queuedRequest context event = some request)
    (hobject : AtServerObject context event) : CanBeAsked next request.sink := by
  have hdevice (hfound :
      (dlrDeviceFromPath request.sink context.upnp).isSome) :
      (dlrDeviceFromPath request.sink next.upnp).isSome := by
    rcases upnp_serverStep connector hstep with
      ⟨upnpEvent, rfl, -⟩ | ⟨client, -, hlost⟩ | ⟨-, hsame⟩
    · simp [queuedRequest] at hqueued
    · rw [hlost]
      exact hfound
    · rw [hsame]
      exact hfound
  cases event with
  | managerCall sender method invocation =>
      simp only [queuedRequest, Option.ite_none_right_eq_some] at hqueued
      obtain rfl := Option.some.inj hqueued.2
      exact .inl rfl
  | managerPropsCall sender object method =>
      simp only [queuedRequest, Option.ite_none_right_eq_some] at hqueued
      obtain rfl := Option.some.inj hqueued.2
      exact .inr (.inl hobject)
  | deviceCall interface sender object method invocation =>
      simp only [queuedRequest, Option.ite_none_right_eq_some] at hqueued
      obtain rfl := Option.some.inj hqueued.2
      exact .inr (.inr (hdevice hqueued.1.1))
  | clientLost | upnp | setNeverQuit => simp [queuedRequest] at hqueued

structure RequestInv (convertUdnToPath : String → String)
    (context : DlrContext κ) : Prop where
  located : Located convertUdnToPath context.upnp
  sources : SourcesWatched connector context
  sinks : ∀ request ∈ outstanding context.calls, CanBeAsked context request.sink

theorem requestInv_serverStep {convertUdnToPath : String → String}
    {context next : DlrContext κ} {event : ServerEvent}
    (h : RequestInv connector convertUdnToPath context)
    (hobject : AtServerObject context event)
    (hstep : serverStep connector convertUdnToPath context event = some next) :
    RequestInv connector convertUdnToPath next where
  located := located_serverStep connector h.located hstep
  sources := sourcesWatched_serverStep connector h.sources hstep
  sinks := by
    intro request hmem
    rw [requestsLaw_serverStep connector hstep, List.mem_append,
      List.mem_filter] at hmem
    rcases hmem with ⟨hbefore, hstays⟩ | hnew
    · simp only [decide_eq_true_eq] at hstays
      exact canBeAsked_serverStep connector h.located hstep
        (h.sinks request hbefore) hstays.2
    · exact canBeAsked_of_queuedRequest connector hstep
        (Option.mem_toList.mp hnew) hobject

/--
In every run every outstanding request has a client that is watched and an
object that exists, and requests leave only with their client or their object.
-/
theorem requests_answerable (convertUdnToPath : String → String)
    (neverQuit : Bool) (pushHostPort : Nat) (start : κ)
    (events : List ServerEvent)
    (hobject : Meets (serverStep connector convertUdnToPath) AtServerObject
      (prvControlPointInitialize start neverQuit pushHostPort) events) :
    Always (serverStep connector convertUdnToPath)
        (RequestsAnswerable connector)
        (prvControlPointInitialize start neverQuit pushHostPort) events ∧
      EachStep (serverStep connector convertUdnToPath) RequestsLaw
        (prvControlPointInitialize start neverQuit pushHostPort) events := by
  refine guarded_run_safe (RequestInv connector convertUdnToPath) ?_ ?_ ?_
    hobject
  · intro context h request hmem
    exact ⟨h.sources request hmem, h.sinks request hmem⟩
  · intro context event next h hobject hstep
    exact ⟨requestInv_serverStep connector h hobject hstep,
      requestsLaw_serverStep connector hstep⟩
  · exact ⟨located_dlrUpnpNew convertUdnToPath pushHostPort,
      by simp [SourcesWatched, prvControlPointInitialize],
      by simp [prvControlPointInitialize]⟩

def askAndLose : List ServerEvent :=
  (announcedOn "uuid:1" "10.0.0.1").map .upnp ++
    [.managerPropsCall ":1.1" serverObject "Get",
     .deviceCall .player ":1.1" (renderer "uuid:1") "Play" 1,
     .managerCall ":1.2" "GetVersion" 2,
     .upnp (.unavailable "uuid:1" "10.0.0.1")]

theorem requests_answerable_ask_and_lose :
    (exec (serverStep setConnector id) (prvControlPointInitialize ∅ false 0)
        askAndLose).map (fun last => outstanding last.calls) =
      some [⟨":1.1", serverObject⟩, ⟨":1.2", rendererSink⟩] ∧
    Always (serverStep setConnector id) (RequestsAnswerable setConnector)
        (prvControlPointInitialize ∅ false 0) askAndLose ∧
      EachStep (serverStep setConnector id) RequestsLaw
        (prvControlPointInitialize ∅ false 0) askAndLose :=
  ⟨by decide +kernel,
    requests_answerable setConnector id false 0 ∅ askAndLose
      (by decide +kernel)⟩

end DleynaRenderer.Server
