import DleynaRenderer.Foundation.EventSystem
import DleynaRenderer.Server.Dispatch
import Mathlib.Data.Finset.Card

/-!
# The count of the watched clients

The daemon counts the clients that the connector watches, and quits when the
count drops to zero.  A task counts a client when watching it is new, but a
`Release` counts off whoever sends it.
-/

namespace DleynaRenderer.Server

open DleynaRenderer.Upnp
open EventSystem

variable {κ : Type} (connector : Connector κ)

inductive ClientAction where
  | watch (client : String)
  | release (client : String)
  | lost (client : String)
  | nothing

def queuedMethods : DeviceInterface → List String
  | .properties => propsMethods
  | .server => serverMethods
  | .player => playerMethods
  | .pushHost => pushHostMethods
  | .rendererDevice => ["GetIcon"]

def clientAction (context : DlrContext κ) : ServerEvent → ClientAction
  | .managerCall sender method _ =>
      if method = "Release" then .release sender
      else if method ∈ managerMethods then .watch sender
      else .nothing
  | .managerPropsCall sender _ method =>
      if method ∈ propsMethods then .watch sender else .nothing
  | .deviceCall interface sender object method _ =>
      if (dlrDeviceFromPath object context.upnp).isSome ∧
          method ∈ queuedMethods interface then .watch sender
      else .nothing
  | .clientLost name => .lost name
  | .upnp _ => .nothing
  | .setNeverQuit _ => .nothing

def watchersAfter (watched : Finset String) (watchers : Nat) :
    ClientAction → Nat
  | .watch client =>
      if client ∈ watched then watchers else (watchers + 1) % 2 ^ 32
  | .release _ => watchers - 1
  | .lost _ => watchers - 1
  | .nothing => watchers

def watchedAfter (watched : Finset String) : ClientAction → Finset String
  | .watch client => insert client watched
  | .release client => watched.erase client
  | .lost client => watched.erase client
  | .nothing => watched

/-- The count is the number of the watched clients. -/
def WatchersExact (context : DlrContext κ) : Prop :=
  context.watchers = (connector.watched context.connector).card

/-- The daemon is told to quit only when no watched client is left. -/
def QuitsAlone (context : DlrContext κ) (_ : ServerEvent)
    (next : DlrContext κ) : Prop :=
  ∀ added, next.calls = context.calls ++ added →
    .setQuitting ∈ added → connector.watched next.connector = ∅

/--
A `Release` comes from a watched client or when there is none, and the count
does not run over.
-/
def Admitted (watched : Finset String) : ClientAction → Prop
  | .watch client => client ∉ watched → watched.card + 1 < 2 ^ 32
  | .release client => client ∈ watched ∨ watched = ∅
  | .lost _ => True
  | .nothing => True

instance (watched : Finset String) :
    (action : ClientAction) → Decidable (Admitted watched action)
  | .watch client =>
      inferInstanceAs (Decidable (client ∉ watched → _ < _))
  | .release client =>
      inferInstanceAs (Decidable (client ∈ watched ∨ watched = ∅))
  | .lost _ => isTrue trivial
  | .nothing => isTrue trivial

def ReleaseCondition (context : DlrContext κ) (event : ServerEvent) : Prop :=
  Admitted (connector.watched context.connector) (clientAction context event)

instance (context : DlrContext κ) (event : ServerEvent) :
    Decidable (ReleaseCondition connector context event) :=
  inferInstanceAs (Decidable (Admitted _ _))

structure Counted (context next : DlrContext κ) (action : ClientAction) :
    Prop where
  watchers : next.watchers = watchersAfter
    (connector.watched context.connector) context.watchers action
  watched : connector.watched next.connector =
    watchedAfter (connector.watched context.connector) action
  quitting : ∃ added, next.calls = context.calls ++ added ∧
    (.setQuitting ∈ added → next.watchers = 0)

theorem counted_nothing (context : DlrContext κ) :
    Counted connector context context .nothing :=
  ⟨rfl, rfl, [], by simp, by simp⟩

theorem counted_prvAddTask (source sink : String) (context : DlrContext κ) :
    Counted connector context (prvAddTask connector source sink context)
      (.watch source) := by
  refine ⟨?_, ?_, [.addTask source sink], rfl, by simp⟩
  · simp [prvAddTask, connector.watchClient_result, watchersAfter, ite_not]
  · exact connector.watched_watchClient source context.connector

theorem prvRemoveClient_eq (name : String) (context : DlrContext κ) :
    prvRemoveClient name context =
      { context with
        upnp := dlrUpnpLostClient name context.upnp
        watchers := context.watchers - 1
        calls := context.calls ++ .removeQueuesForSource name ::
          (if context.watchers ≤ 1 ∧ context.neverQuit = false then
            [.setQuitting] else []) } := by
  have hlast : context.watchers - 1 = 0 ↔ context.watchers ≤ 1 := by omega
  unfold prvRemoveClient DlrContext.call
  rcases Nat.eq_zero_or_pos context.watchers with hzero | hpos
  · cases context.neverQuit <;> simp [hzero]
  · by_cases hquit : context.watchers ≤ 1 ∧ context.neverQuit = false
    · simp [hpos, hquit]
    · simp [hpos, hlast, hquit]

theorem counted_prvRemoveClient {name : String} {context : DlrContext κ}
    {k : κ} {action : ClientAction}
    (hwatched : connector.watched k =
      watchedAfter (connector.watched context.connector) action)
    (haction : ∀ watched watchers, watchersAfter watched watchers action =
      watchers - 1) :
    Counted connector context
      (prvRemoveClient name { context with connector := k }) action := by
  rw [prvRemoveClient_eq]
  refine ⟨(haction _ _).symm, hwatched, _, rfl, ?_⟩
  intro hquitting
  show context.watchers - 1 = 0
  split_ifs at hquitting with hlast
  · exact Nat.sub_eq_zero_of_le hlast.1
  · simp at hquitting

theorem Counted.reply {context next : DlrContext κ} {action : ClientAction}
    (h : Counted connector context next action) (invocation : Nat)
    (result : Except GError Unit) :
    Counted connector context (next.reply invocation result) action :=
  ⟨h.watchers, h.watched, h.quitting⟩

theorem prvGetDeviceId_cases (object : String) (upnp : DlrUpnp) :
    ((dlrDeviceFromPath object upnp).isSome ∧
      ∃ deviceId, prvGetDeviceId object upnp = .ok deviceId) ∨
    ((dlrDeviceFromPath object upnp).isSome = false ∧
      ∃ error, prvGetDeviceId object upnp = .error error) := by
  unfold prvGetDeviceId
  cases dlrDeviceFromPath object upnp with
  | none => exact .inr ⟨rfl, _, rfl⟩
  | some device => exact .inl ⟨rfl, _, rfl⟩

theorem counted_serverVtables (interface : DeviceInterface)
    (sender object method : String) (invocation : Nat)
    (context : DlrContext κ) :
    Counted connector context
      (serverVtables connector interface sender object method invocation
        context)
      (clientAction context
        (.deviceCall interface sender object method invocation)) := by
  have htask (methods : List String) :
      Counted connector context
        (taskMethodCall connector methods sender object method invocation
          context)
        (if (dlrDeviceFromPath object context.upnp).isSome ∧ method ∈ methods
          then .watch sender else .nothing) := by
    unfold taskMethodCall
    rcases prvGetDeviceId_cases object context.upnp with
      ⟨hsome, deviceId, hdevice⟩ | ⟨hnone, error, hdevice⟩
    · simp only [hdevice, hsome, true_and]
      split_ifs
      · exact counted_prvAddTask connector sender deviceId context
      · exact counted_nothing connector context
    · simp only [hdevice, hnone, Bool.false_eq_true, false_and, if_false]
      exact (counted_nothing connector context).reply connector _ _
  cases interface with
  | properties => exact htask propsMethods
  | server => exact htask serverMethods
  | player => exact htask playerMethods
  | pushHost => exact htask pushHostMethods
  | rendererDevice =>
      simp only [serverVtables, prvRendererDeviceMethodCall, clientAction,
        queuedMethods, List.mem_singleton]
      rcases prvGetDeviceId_cases object context.upnp with
        ⟨hsome, deviceId, hdevice⟩ | ⟨hnone, error, hdevice⟩
      · simp only [hdevice, hsome, true_and]
        -- `Cancel` makes no client watched
        by_cases hcancel : method = "Cancel"
        · subst hcancel
          refine ⟨rfl, rfl, [.cancelQueue sender deviceId], rfl, by simp⟩
        · simp only [hcancel, if_false]
          split_ifs
          · exact counted_prvAddTask connector sender deviceId context
          · exact counted_nothing connector context
      · simp only [hdevice, hnone, Bool.false_eq_true, false_and, if_false]
        exact (counted_nothing connector context).reply connector _ _

theorem counted_prvLostMediaServer (signals : List Signal)
    (context : DlrContext κ) :
    Counted connector context (prvLostMediaServer signals context)
      .nothing := by
  -- from the end, as the calls are appended in the order of the signals
  induction signals using List.reverseRecOn with
  | nil => exact counted_nothing connector context
  | append_singleton signals signal ih =>
      cases signal with
      | foundServer path =>
          have hskip : prvLostMediaServer (signals ++ [.foundServer path])
              context = prvLostMediaServer signals context :=
            List.foldl_concat ..
          rw [hskip]
          exact ih
      | lostServer path =>
          obtain ⟨hwatchers, hwatched, added, hcalls, hquit⟩ := ih
          have hcall : prvLostMediaServer (signals ++ [.lostServer path])
              context = (prvLostMediaServer signals context).call
                (.removeQueuesForSink path) :=
            List.foldl_concat ..
          rw [hcall]
          refine ⟨hwatchers, hwatched, added ++ [.removeQueuesForSink path],
            ?_, ?_⟩
          · simp [DlrContext.call, hcalls]
          · intro hquitting
            exact hquit (by simpa using hquitting)

theorem counted_serverStep {convertUdnToPath : String → String}
    {context next : DlrContext κ} {event : ServerEvent}
    (hstep : serverStep connector convertUdnToPath context event = some next) :
    Counted connector context next (clientAction context event) := by
  cases event with
  | managerCall sender method invocation =>
      obtain rfl := Option.some.inj hstep
      simp only [prvManagerRootMethodCall, clientAction]
      split_ifs
      · exact (counted_prvRemoveClient connector
          (connector.watched_unwatchClient sender context.connector)
          fun _ _ => rfl).reply connector _ _
      · exact counted_prvAddTask connector sender rendererSink context
      · exact counted_nothing connector context
  | managerPropsCall sender object method =>
      obtain rfl := Option.some.inj hstep
      simp only [prvManagerPropsMethodCall, clientAction]
      split_ifs
      · exact counted_prvAddTask connector sender object context
      · exact counted_nothing connector context
  | deviceCall interface sender object method invocation =>
      obtain rfl := Option.some.inj hstep
      exact counted_serverVtables connector interface sender object method
        invocation context
  | clientLost name =>
      simp only [serverStep, Option.ite_none_right_eq_some] at hstep
      obtain rfl := Option.some.inj hstep.2
      exact counted_prvRemoveClient connector
        (connector.watched_clientLost name context.connector) fun _ _ => rfl
  | upnp event =>
      obtain ⟨upnp, -, rfl⟩ := Option.map_eq_some_iff.mp hstep
      obtain ⟨hwatchers, hwatched, hquit⟩ :=
        counted_prvLostMediaServer connector
          (upnp.signals.drop context.upnp.signals.length)
          { context with upnp := upnp }
      exact ⟨hwatchers, hwatched, hquit⟩
  | setNeverQuit neverQuit =>
      obtain rfl := Option.some.inj hstep
      exact ⟨rfl, rfl, [], (List.append_nil _).symm, by simp⟩

theorem lost_watched {convertUdnToPath : String → String}
    {context next : DlrContext κ} {event : ServerEvent} {client : String}
    (hstep : serverStep connector convertUdnToPath context event = some next)
    (haction : clientAction context event = .lost client) :
    client ∈ connector.watched context.connector := by
  cases event with
  | clientLost name =>
      obtain rfl : name = client := ClientAction.lost.inj haction
      exact (Option.ite_none_right_eq_some.mp hstep).1
  | managerCall | managerPropsCall | deviceCall =>
      simp only [clientAction] at haction
      split_ifs at haction
  | upnp | setNeverQuit => cases haction

/-! ## Runs -/

theorem watchersExact_serverStep {convertUdnToPath : String → String}
    {context next : DlrContext κ} {event : ServerEvent}
    (hexact : WatchersExact connector context)
    (hguard : ReleaseCondition connector context event)
    (hstep : serverStep connector convertUdnToPath context event = some next) :
    WatchersExact connector next := by
  obtain ⟨hwatchers, hwatched, -⟩ := counted_serverStep connector hstep
  unfold WatchersExact at hexact ⊢
  rw [hwatchers, hwatched, hexact]
  unfold ReleaseCondition at hguard
  cases haction : clientAction context event with
  | watch client =>
      rw [haction] at hguard
      by_cases hmem : client ∈ connector.watched context.connector
      · simp [watchersAfter, watchedAfter, hmem]
      · rw [watchersAfter, watchedAfter, if_neg hmem,
          Finset.card_insert_of_notMem hmem, Nat.mod_eq_of_lt (hguard hmem)]
  | release client =>
      rw [haction] at hguard
      rcases hguard with hmem | hempty
      · exact (Finset.card_erase_of_mem hmem).symm
      · simp [watchersAfter, watchedAfter, hempty]
  | lost client =>
      have hmem := lost_watched connector hstep haction
      exact (Finset.card_erase_of_mem hmem).symm
  | nothing => rfl

theorem releaseCondition_of_watchersExact {convertUdnToPath : String → String}
    {context next : DlrContext κ} {event : ServerEvent}
    (hexact : WatchersExact connector context)
    (hstep : serverStep connector convertUdnToPath context event = some next)
    (hnext : WatchersExact connector next) :
    ReleaseCondition connector context event := by
  obtain ⟨hwatchers, hwatched, -⟩ := counted_serverStep connector hstep
  unfold WatchersExact at hexact hnext
  rw [hwatchers, hwatched, hexact] at hnext
  unfold ReleaseCondition
  cases haction : clientAction context event with
  | watch client =>
      intro hmem
      rw [haction, watchersAfter, watchedAfter, if_neg hmem,
        Finset.card_insert_of_notMem hmem] at hnext
      rw [← hnext]
      exact Nat.mod_lt _ (by decide)
  | release client =>
      by_contra hunwatched
      obtain ⟨hmem, hsome⟩ := not_or.mp hunwatched
      have hpos := Finset.card_pos.mpr (Finset.nonempty_of_ne_empty hsome)
      rw [haction, watchersAfter, watchedAfter,
        Finset.erase_eq_of_notMem hmem] at hnext
      omega
  | lost client => trivial
  | nothing => trivial

theorem quitsAlone_serverStep {convertUdnToPath : String → String}
    {context next : DlrContext κ} {event : ServerEvent}
    (hstep : serverStep connector convertUdnToPath context event = some next)
    (hnext : WatchersExact connector next) :
    QuitsAlone connector context event next := by
  obtain ⟨-, -, called, hcalled, hquit⟩ := counted_serverStep connector hstep
  intro added hadded hquitting
  obtain rfl : added = called :=
    List.append_cancel_left (hadded.symm.trans hcalled)
  have hzero : (connector.watched next.connector).card = 0 :=
    hnext.symm.trans (hquit hquitting)
  exact Finset.card_eq_zero.mp hzero

/--
The count is the number of the watched clients, and only their departure makes
the daemon quit, exactly in the runs in which no `Release` comes from a client
that is not watched while others are.
-/
theorem watchers_count_iff_release_condition
    (convertUdnToPath : String → String) (neverQuit : Bool)
    (pushHostPort : Nat) {start : κ} {events : List ServerEvent}
    {last : DlrContext κ} (hstart : connector.watched start = ∅)
    (hrun : exec (serverStep connector convertUdnToPath)
      (prvControlPointInitialize start neverQuit pushHostPort) events =
        some last) :
    (Always (serverStep connector convertUdnToPath) (WatchersExact connector)
        (prvControlPointInitialize start neverQuit pushHostPort) events ∧
      EachStep (serverStep connector convertUdnToPath) (QuitsAlone connector)
        (prvControlPointInitialize start neverQuit pushHostPort) events) ↔
      Meets (serverStep connector convertUdnToPath)
        (ReleaseCondition connector)
        (prvControlPointInitialize start neverQuit pushHostPort) events := by
  refine guarded_run_exact (WatchersExact connector) (fun _ hexact => hexact)
    ?_ ?_ ?_ hrun
  · intro context event next hexact hguard hstep
    have hnext := watchersExact_serverStep connector hexact hguard hstep
    exact ⟨hnext, quitsAlone_serverStep connector hstep hnext⟩
  · intro context event next hexact hstep hnext _
    exact releaseCondition_of_watchersExact connector hexact hstep hnext
  · simp [WatchersExact, prvControlPointInitialize, hstart]

def setConnector : Connector (Finset String) where
  watched := id
  watchClient client watched := (decide (client ∉ watched), insert client watched)
  unwatchClient client watched := watched.erase client
  clientLost client watched := watched.erase client
  watchClient_result _ _ := rfl
  watched_watchClient _ _ := rfl
  watched_unwatchClient _ _ := rfl
  watched_clientLost _ _ := rfl

def callAndRelease (caller releaser : String) : List ServerEvent :=
  [.managerCall caller "GetVersion" 1, .managerCall releaser "Release" 2]

/-- Of two clients one releases the daemon and the other disappears. -/
def releasedAndLost : List ServerEvent :=
  [.managerCall ":1.1" "GetVersion" 1, .managerCall ":1.2" "GetRenderers" 2,
    .managerCall ":1.1" "Release" 3, .clientLost ":1.2"]

theorem watchers_count_call_and_release :
    ∃ last, exec (serverStep setConnector id)
        (prvControlPointInitialize ∅ false 0) releasedAndLost = some last ∧
      last.calls = [.addTask ":1.1" rendererSink, .addTask ":1.2" rendererSink,
        .removeQueuesForSource ":1.1", .removeQueuesForSource ":1.2",
        .setQuitting] ∧
      last.watchers = 0 ∧
      (Always (serverStep setConnector id) (WatchersExact setConnector)
          (prvControlPointInitialize ∅ false 0) releasedAndLost ∧
        EachStep (serverStep setConnector id) (QuitsAlone setConnector)
          (prvControlPointInitialize ∅ false 0) releasedAndLost) := by
  refine ⟨_, rfl, by decide, by decide, ?_⟩
  exact (watchers_count_iff_release_condition setConnector id false 0 rfl
    rfl).mpr (by decide +kernel)

/-- A stranger's `Release` ends the daemon under a client that is watched. -/
theorem stranger_release_quits :
    ∃ last, exec (serverStep setConnector id)
        (prvControlPointInitialize ∅ false 0) (callAndRelease ":1.1" ":1.2") =
          some last ∧
      last.calls = [.addTask ":1.1" rendererSink,
        .removeQueuesForSource ":1.2", .setQuitting] ∧
      last.watchers = 0 ∧ setConnector.watched last.connector = {":1.1"} :=
  ⟨_, rfl, by decide, by decide, by decide⟩

end DleynaRenderer.Server
