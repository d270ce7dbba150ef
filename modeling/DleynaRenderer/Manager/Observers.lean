import DleynaRenderer.Foundation.Publication
import DleynaRenderer.Manager.SetProp

/-!
# Clients that observe the manager

A client reads the properties of the manager with GetAll and is told of each
change by a signal.  The reply to GetAll is computed first and sent from an idle
callback: a change in between is announced before a reply that does not have it.
-/

namespace DleynaRenderer.Manager

open EventSystem Player
open Publication (Source Had Undisturbed answered)

def dlrManagerNew (settings : Settings) : ManagerState :=
  ⟨settings, ⟨false, []⟩, []⟩

def prvWhiteListInit (manager : ManagerState) : ManagerState :=
  let enabled := manager.settings.whiteListEnabled
  let entries := manager.settings.whiteListEntries.getD []
  dleynaWhiteListAddEntries entries (dleynaWhiteListEnable enabled manager)

theorem coherent_prvWhiteListInit (settings : Settings) :
    Coherent (prvWhiteListInit (dlrManagerNew settings)) := rfl

abbrev Known := List (String × Variant)

def setKnown (known : Known) (entry : String × Variant) : Known :=
  known.map fun old => if old.1 = entry.1 then entry else old

def applyChanged (known : Known) (signal : PropertiesChanged) : Known :=
  if signal.interfaceName = dleynaServerInterfaceManager then
    signal.changed.foldl setKnown known
  else known

def properties : Source ManagerState SetCall Known PropertiesChanged where
  step := managerStep
  view manager := prvAddAllProps manager.settings
  log := ManagerState.signals
  apply := applyChanged

theorem prvAddAllProps_eq (settings : Settings) :
    prvAddAllProps settings =
      ["NeverQuit", "WhiteListEnabled", "WhiteListEntries"].filterMap
        fun name => (prvGetProp settings name).map fun value => (name, value) :=
  rfl

theorem setKnown_filterMap {old new : String → Option Variant} {name : String}
    {value : Variant} (hold : (old name).isSome = true)
    (hnew : new name = some value)
    (hothers : ∀ other, other ≠ name → new other = old other)
    (names : List String) :
    setKnown (names.filterMap fun name => (old name).map fun v => (name, v))
        (name, value) =
      names.filterMap fun name => (new name).map fun v => (name, v) := by
  induction names with
  | nil => rfl
  | cons other names ih =>
      rw [List.filterMap_cons, List.filterMap_cons]
      by_cases hother : other = name
      · subst hother
        obtain ⟨present, hpresent⟩ := Option.isSome_iff_exists.mp hold
        rw [hpresent, hnew]
        exact congrArg₂ List.cons (if_pos rfl) ih
      · rw [hothers other hother]
        cases old other with
        | none => exact ih
        | some present => exact congrArg₂ List.cons (if_neg hother) ih

theorem isSome_prvGetProp {old new : Settings} {name : String}
    (h : (prvGetProp new name).isSome = true) :
    (prvGetProp old name).isSome = true := by
  unfold prvGetProp at h ⊢
  split_ifs at h ⊢
  · rfl
  · rfl
  · rfl
  · exact h

theorem setKnown_prvAddAllProps {old new : Settings} {name : String}
    {value : Variant} (hvalue : prvGetProp new name = some value)
    (hothers : ∀ other, other ≠ name →
      prvGetProp new other = prvGetProp old other) :
    setKnown (prvAddAllProps old) (name, value) = prvAddAllProps new := by
  have hold : (prvGetProp old name).isSome = true :=
    isSome_prvGetProp (Option.isSome_iff_exists.mpr ⟨value, hvalue⟩)
  rw [prvAddAllProps_eq, prvAddAllProps_eq]
  exact setKnown_filterMap hold hvalue hothers _

theorem announces_properties : properties.Announces fun _ => True := by
  intro manager call next _ hstep
  obtain rfl := Option.some.inj hstep
  have houtcome := dlrManagerSetProp_outcome call manager
  generalize dlrManagerSetProp call manager = result at houtcome ⊢
  refine ⟨trivial, ?_⟩
  cases houtcome with
  | refused error => exact ⟨[], (List.append_nil _).symm, Nat.zero_le 1, rfl⟩
  | unchanged => exact ⟨[], (List.append_nil _).symm, Nat.zero_le 1, rfl⟩
  | stored hannounces _ =>
      obtain ⟨value, hvalue, hsignal⟩ := hannounces.signal
      exact ⟨_, hsignal, Nat.le_refl 1,
        setKnown_prvAddAllProps hvalue hannounces.others⟩

/--
If no property changes while a reply to GetAll waits to be sent, a client that
has been answered has the properties of the manager once its messages have been
delivered, and what it has before are properties that the manager has had.
-/
theorem clients_know_properties {ι : Type*} [DecidableEq ι]
    (settings : Settings) {events : List (Publication.Event SetCall ι)}
    {state : Publication.State ManagerState Known PropertiesChanged ι}
    (hrun : exec (Publication.step properties)
      (Publication.start (prvWhiteListInit (dlrManagerNew settings))) events =
        some state)
    (hguard : Meets (Publication.step properties) (Undisturbed properties)
      (Publication.start (prvWhiteListInit (dlrManagerNew settings))) events)
    (client : ι) :
    (∃ next, exec (Publication.step properties) state
        (List.replicate (state.clients client).inbox.length (.deliver client)) =
          some next ∧
      next.source = state.source ∧
      (next.clients client).copy =
        if answered client events then
          some (prvAddAllProps next.source.settings) else none) ∧
    ∀ known, (state.clients client).copy = some known →
      Had properties
        (Publication.start (prvWhiteListInit (dlrManagerNew settings))) events
        known := by
  have hinStep := Publication.inStep_exec announces_properties trivial hrun
    hguard
  refine ⟨?_, fun known hknown =>
    hinStep.faithful client [] List.nil_prefix known hknown⟩
  obtain ⟨next, hdelivered, hcopy, -, hsource⟩ :=
    Publication.delivered properties state client
  refine ⟨next, hdelivered, hsource, ?_⟩
  rw [hcopy, hinStep.settled client, hsource]
  rfl

def observedCalls : List (Publication.Event SetCall Bool) :=
  [.compute true, .reply true,
   .work ⟨"", "WhiteListEnabled", .boolean true, none⟩, .compute false,
   .work ⟨"", "WhiteListEnabled", .boolean true, none⟩, .reply false,
   .deliver true]

theorem clients_know_properties_two :
    ∃ state next, exec (Publication.step properties)
        (Publication.start (prvWhiteListInit
          (dlrManagerNew ⟨false, false, none⟩))) observedCalls = some state ∧
      (state.clients true).copy = some (prvAddAllProps ⟨false, false, none⟩) ∧
      exec (Publication.step properties) state [.deliver true] = some next ∧
      (next.clients true).copy =
        some (prvAddAllProps ⟨false, true, none⟩) := by
  have hrun : ((exec (Publication.step properties)
      (Publication.start (prvWhiteListInit
        (dlrManagerNew ⟨false, false, none⟩))) observedCalls).map fun state =>
        ((state.clients true).copy, (state.clients true).inbox.length,
          state.source.settings)) =
      some (some (prvAddAllProps ⟨false, false, none⟩), 1,
        ⟨false, true, none⟩) := by decide +kernel
  obtain ⟨state, hexec, hstate⟩ := Option.map_eq_some_iff.mp hrun
  simp only [Prod.mk.injEq] at hstate
  obtain ⟨hcopy, hlength, hsettings⟩ := hstate
  have hguard : Meets (Publication.step properties) (Undisturbed properties)
      (Publication.start (prvWhiteListInit
        (dlrManagerNew ⟨false, false, none⟩))) observedCalls := by
    decide +kernel
  obtain ⟨⟨next, hdelivered, hsource, hknown⟩, -⟩ :=
    clients_know_properties ⟨false, false, none⟩ hexec hguard true
  rw [hlength] at hdelivered
  refine ⟨state, next, hexec, hcopy, hdelivered, hknown.trans ?_⟩
  rw [hsource, hsettings]
  rfl

/-- A change that is announced before the reply is lost to the client. -/
example : ((exec (Publication.step properties)
    (Publication.start (prvWhiteListInit (dlrManagerNew ⟨false, false, none⟩)))
      [.compute true, .work ⟨"", "NeverQuit", .boolean true, none⟩,
        .reply true, .deliver true, .deliver true]).map fun state =>
      (decide ((state.clients true).copy =
        some (prvAddAllProps state.source.settings)),
          (state.clients true).inbox.length)) = some (false, 0) := by
  decide +kernel

end DleynaRenderer.Manager
