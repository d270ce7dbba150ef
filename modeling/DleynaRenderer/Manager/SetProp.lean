import DleynaRenderer.Foundation.EventSystem
import DleynaRenderer.Manager
import DleynaRenderer.Task.SetProp

/-!
# Setting a property of the manager

The settings, the white list that filters the networks and the signals to the
clients are brought up to date one after the other.  They agree after every
call, and a call that fails changes none of them.  A value that is no boolean
is taken for false, though, and so turns off what it was meant for.
-/

namespace DleynaRenderer.Manager

open EventSystem Player
open DleynaRenderer.Task (gVariantGetBoolean)

structure WhiteList where
  enabled : Bool
  entries : List String
  deriving DecidableEq, Repr

structure PropertiesChanged where
  interfaceName : String
  changed : List (String × Variant)
  deriving DecidableEq

structure ManagerState where
  settings : Settings
  whiteList : WhiteList
  signals : List PropertiesChanged
  deriving DecidableEq

/-- `refused` is the error of the settings library, where it stores nothing. -/
structure SetCall where
  interfaceName : String
  name : String
  param : Variant
  refused : Option GError
  deriving DecidableEq

def prvWlNotifyProp (propName : String) (propVal : Variant)
    (manager : ManagerState) : ManagerState :=
  { manager with signals := manager.signals ++
      [⟨dleynaServerInterfaceManager, [(propName, propVal)]⟩] }

def dleynaWhiteListEnable (enabled : Bool) (manager : ManagerState) :
    ManagerState :=
  { manager with whiteList := { manager.whiteList with enabled := enabled } }

def dleynaWhiteListClear (manager : ManagerState) : ManagerState :=
  { manager with whiteList := { manager.whiteList with entries := [] } }

def dleynaWhiteListAddEntries (entries : List String)
    (manager : ManagerState) : ManagerState :=
  { manager with whiteList := { manager.whiteList with
      entries := manager.whiteList.entries ++ entries } }

abbrev SetResult := Option GError × ManagerState

def prvSetPropNeverQuit (neverQuit : Bool) (refused : Option GError)
    (manager : ManagerState) : SetResult :=
  if manager.settings.neverQuit = neverQuit then (none, manager)
  else
    match refused with
    | some error => (some error, manager)
    | none =>
        let manager := { manager with settings :=
          { manager.settings with neverQuit := neverQuit } }
        (none, prvWlNotifyProp "NeverQuit" (.boolean neverQuit) manager)

def prvSetPropWlEnabled (enabled : Bool) (refused : Option GError)
    (manager : ManagerState) : SetResult :=
  if manager.settings.whiteListEnabled = enabled then (none, manager)
  else
    match refused with
    | some error => (some error, manager)
    | none =>
        let manager := { manager with settings :=
          { manager.settings with whiteListEnabled := enabled } }
        (none, prvWlNotifyProp "WhiteListEnabled" (.boolean enabled)
          (dleynaWhiteListEnable enabled manager))

def invalidEntries : GError :=
  ⟨.badQuery, "Invalid parameter type. 'as' expected."⟩

/-- Unlike the two others, this one does not look at the present value. -/
def prvSetPropWlEntries (entries : Variant) (refused : Option GError)
    (manager : ManagerState) : SetResult :=
  match entries with
  | .strings entries =>
      match refused with
      | some error => (some error, manager)
      | none =>
          let manager := { manager with settings :=
            { manager.settings with whiteListEntries := some entries } }
          (none, prvWlNotifyProp "WhiteListEntries" (.strings entries)
            (dleynaWhiteListAddEntries entries (dleynaWhiteListClear manager)))
  | _ => (some invalidEntries, manager)

def dlrManagerSetProp (call : SetCall) (manager : ManagerState) : SetResult :=
  if namesManager call.interfaceName then
    if call.name = "NeverQuit" then
      prvSetPropNeverQuit (gVariantGetBoolean call.param) call.refused manager
    else if call.name = "WhiteListEnabled" then
      prvSetPropWlEnabled (gVariantGetBoolean call.param) call.refused manager
    else if call.name = "WhiteListEntries" then
      prvSetPropWlEntries call.param call.refused manager
    else (some unknownProperty, manager)
  else (some unknownInterface, manager)

def managerStep (manager : ManagerState) (call : SetCall) :
    Option ManagerState :=
  some (dlrManagerSetProp call manager).2

def Coherent (manager : ManagerState) : Prop :=
  manager.whiteList = ⟨manager.settings.whiteListEnabled,
    manager.settings.whiteListEntries.getD []⟩

structure Announces (name : String) (old new : ManagerState) : Prop where
  signal : ∃ value, prvGetProp new.settings name = some value ∧
    new.signals = old.signals ++
      [⟨dleynaServerInterfaceManager, [(name, value)]⟩]
  others : ∀ other, other ≠ name →
    prvGetProp new.settings other = prvGetProp old.settings other

inductive SetOutcome (name : String) (manager : ManagerState) :
    SetResult → Prop where
  | refused (error : GError) : SetOutcome name manager (some error, manager)
  | unchanged : SetOutcome name manager (none, manager)
  | stored {next : ManagerState} (hannounces : Announces name manager next)
      (hcoherent : Coherent manager → Coherent next) :
      SetOutcome name manager (none, next)

theorem prvSetPropNeverQuit_outcome (neverQuit : Bool)
    (refused : Option GError) (manager : ManagerState) :
    SetOutcome "NeverQuit" manager
      (prvSetPropNeverQuit neverQuit refused manager) := by
  unfold prvSetPropNeverQuit
  split
  case isTrue => exact .unchanged
  case isFalse =>
    cases refused with
    | some error => exact .refused error
    | none =>
        refine .stored ⟨⟨_, rfl, rfl⟩, fun other hother => ?_⟩ id
        simp [prvGetProp, prvWlNotifyProp, prvBuildWlEntries, hother]

theorem prvSetPropWlEnabled_outcome (enabled : Bool)
    (refused : Option GError) (manager : ManagerState) :
    SetOutcome "WhiteListEnabled" manager
      (prvSetPropWlEnabled enabled refused manager) := by
  unfold prvSetPropWlEnabled
  split
  case isTrue => exact .unchanged
  case isFalse =>
    cases refused with
    | some error => exact .refused error
    | none =>
        refine .stored ⟨⟨_, rfl, rfl⟩, fun other hother => ?_⟩ fun h => ?_
        · simp [prvGetProp, prvWlNotifyProp, dleynaWhiteListEnable,
            prvBuildWlEntries, hother]
        · simp only [Coherent] at h
          simp [Coherent, prvWlNotifyProp, dleynaWhiteListEnable, h]

theorem prvSetPropWlEntries_outcome (entries : Variant)
    (refused : Option GError) (manager : ManagerState) :
    SetOutcome "WhiteListEntries" manager
      (prvSetPropWlEntries entries refused manager) := by
  unfold prvSetPropWlEntries
  split
  case h_1 entries =>
    cases refused with
    | some error => exact .refused error
    | none =>
        refine .stored ⟨⟨_, rfl, rfl⟩, fun other hother => ?_⟩ fun h => ?_
        · simp [prvGetProp, prvWlNotifyProp, dleynaWhiteListAddEntries,
            dleynaWhiteListClear, hother]
        · simp only [Coherent] at h
          simp [Coherent, prvWlNotifyProp, dleynaWhiteListAddEntries,
            dleynaWhiteListClear, h]
  case h_2 => exact .refused invalidEntries

theorem dlrManagerSetProp_outcome (call : SetCall) (manager : ManagerState) :
    SetOutcome call.name manager (dlrManagerSetProp call manager) := by
  unfold dlrManagerSetProp
  split_ifs with hinterface hquit henabled hentries
  · rw [hquit]
    exact prvSetPropNeverQuit_outcome _ _ manager
  · rw [henabled]
    exact prvSetPropWlEnabled_outcome _ _ manager
  · rw [hentries]
    exact prvSetPropWlEntries_outcome _ _ manager
  · exact .refused unknownProperty
  · exact .refused unknownInterface

/-! ## Values of another type -/

/-- The type of a property, in the documentation of the interface. -/
def documentedType (name : String) : Option String :=
  if name = "NeverQuit" ∨ name = "WhiteListEnabled" then some "b"
  else if name = "WhiteListEntries" then some "as"
  else none

def Mistyped (call : SetCall) : Prop :=
  ∃ type, documentedType call.name = some type ∧ call.param.typeString ≠ type

def presentBoolean (manager : ManagerState) (name : String) : Bool :=
  if name = "NeverQuit" then manager.settings.neverQuit
  else manager.settings.whiteListEnabled

/--
What is no boolean is not set as one, save where the settings library refuses
to turn the property off.
-/
def BooleanOrRefused (manager : ManagerState) (call : SetCall) : Prop :=
  namesManager call.interfaceName = true →
    documentedType call.name = some "b" → call.param.typeString ≠ "b" →
      presentBoolean manager call.name = true ∧ call.refused.isSome = true

theorem gVariantGetBoolean_of_mistyped {value : Variant}
    (h : value.typeString ≠ "b") : gVariantGetBoolean value = false := by
  cases value with
  | boolean b => exact absurd rfl h
  | _ => rfl

theorem prvSetPropNeverQuit_false_fails_iff (refused : Option GError)
    (manager : ManagerState) :
    (prvSetPropNeverQuit false refused manager).1.isSome = true ↔
      manager.settings.neverQuit = true ∧ refused.isSome = true := by
  unfold prvSetPropNeverQuit
  cases hpresent : manager.settings.neverQuit with
  | false => simp
  | true => cases refused <;> simp

theorem prvSetPropWlEnabled_false_fails_iff (refused : Option GError)
    (manager : ManagerState) :
    (prvSetPropWlEnabled false refused manager).1.isSome = true ↔
      manager.settings.whiteListEnabled = true ∧ refused.isSome = true := by
  unfold prvSetPropWlEnabled
  cases hpresent : manager.settings.whiteListEnabled with
  | false => simp
  | true => cases refused <;> simp

theorem prvSetPropWlEntries_of_mistyped {value : Variant}
    (h : value.typeString ≠ "as") (refused : Option GError)
    (manager : ManagerState) :
    prvSetPropWlEntries value refused manager =
      (some invalidEntries, manager) := by
  cases value with
  | strings entries => exact absurd rfl h
  | _ => rfl

theorem not_boolean_fails_iff {call : SetCall} {manager : ManagerState}
    (hinterface : namesManager call.interfaceName = true)
    (htype : documentedType call.name = some "b")
    (hparam : call.param.typeString ≠ "b") :
    (dlrManagerSetProp call manager).1.isSome = true ↔
      presentBoolean manager call.name = true ∧ call.refused.isSome = true := by
  have hfalse := gVariantGetBoolean_of_mistyped hparam
  unfold dlrManagerSetProp presentBoolean
  rw [if_pos hinterface, hfalse]
  by_cases hquit : call.name = "NeverQuit"
  · simp only [hquit, if_true]
    exact prvSetPropNeverQuit_false_fails_iff call.refused manager
  · have henabled : call.name = "WhiteListEnabled" := by
      unfold documentedType at htype
      split_ifs at htype with hname hentries
      · exact hname.resolve_left hquit
      · simp at htype
    simp only [henabled, if_true]
    exact prvSetPropWlEnabled_false_fails_iff call.refused manager

theorem not_strings_fails {call : SetCall} (hmistyped : Mistyped call)
    (htype : documentedType call.name ≠ some "b") (manager : ManagerState) :
    (dlrManagerSetProp call manager).1.isSome = true := by
  obtain ⟨type, hname, hparam⟩ := hmistyped
  unfold documentedType at hname htype
  split_ifs at hname htype with hboolean hentries
  · exact absurd rfl htype
  · obtain rfl := Option.some.inj hname
    obtain ⟨hquit, henabled⟩ := not_or.mp hboolean
    unfold dlrManagerSetProp
    rw [if_neg hquit, if_neg henabled, if_pos hentries,
      prvSetPropWlEntries_of_mistyped hparam]
    split <;> rfl

theorem mistyped_rejected_iff (call : SetCall) (manager : ManagerState) :
    (Mistyped call → (dlrManagerSetProp call manager).1.isSome = true) ↔
      BooleanOrRefused manager call := by
  constructor
  · intro h hinterface htype hparam
    have hrejected := h ⟨"b", htype, hparam⟩
    exact (not_boolean_fails_iff hinterface htype hparam).mp hrejected
  · intro h hmistyped
    by_cases htype : documentedType call.name = some "b"
    · by_cases hinterface : namesManager call.interfaceName = true
      · obtain ⟨type, hname, hparam⟩ := hmistyped
        obtain rfl := Option.some.inj (hname.symm.trans htype)
        exact (not_boolean_fails_iff hinterface htype hparam).mpr
          (h hinterface htype hparam)
      · unfold dlrManagerSetProp
        rw [if_neg hinterface]
        rfl
    · exact not_strings_fails hmistyped htype manager

/-! ## Runs -/

/--
A call that fails changes nothing, a value of another type fails, and a change
is announced once.
-/
structure CallSound (manager : ManagerState) (call : SetCall)
    (next : ManagerState) : Prop where
  failed : (dlrManagerSetProp call manager).1.isSome = true → next = manager
  mistyped : Mistyped call → (dlrManagerSetProp call manager).1.isSome = true
  announced : next.settings ≠ manager.settings →
    Announces call.name manager next

theorem managerStep_coherent {manager next : ManagerState} {call : SetCall}
    (h : Coherent manager) (hstep : managerStep manager call = some next) :
    Coherent next := by
  obtain rfl := Option.some.inj hstep
  have houtcome := dlrManagerSetProp_outcome call manager
  generalize dlrManagerSetProp call manager = result at houtcome ⊢
  cases houtcome with
  | refused error => exact h
  | unchanged => exact h
  | stored _ hcoherent => exact hcoherent h

theorem callSound_iff {manager next : ManagerState} {call : SetCall}
    (hstep : managerStep manager call = some next) :
    CallSound manager call next ↔ BooleanOrRefused manager call := by
  rw [← mistyped_rejected_iff]
  refine ⟨CallSound.mistyped, fun hmistyped => ⟨?_, hmistyped, ?_⟩⟩
  all_goals
    obtain rfl := Option.some.inj hstep
    have houtcome := dlrManagerSetProp_outcome call manager
    generalize dlrManagerSetProp call manager = result at houtcome ⊢
    cases houtcome with
    | refused error => simp
    | unchanged => simp
    | stored hannounces _ => simp [hannounces]

/-- Whatever the calls are, the white list follows the settings. -/
theorem always_coherent {manager : ManagerState} (h : Coherent manager)
    (calls : List SetCall) : Always managerStep Coherent manager calls := by
  have hmeets : Meets managerStep (fun _ _ => True) manager calls :=
    meets_of_forall_mem (fun _ _ _ => trivial) manager
  exact guarded_run_always Coherent (fun _ => id)
    (fun _ _ _ hcoherent _ hstep => managerStep_coherent hcoherent hstep) h
    hmeets

/--
Over a sequence of calls the white list follows the settings, calls that fail
change nothing, values of another type fail and changes are announced, exactly
if no call is made with a value for a boolean property that is no boolean, save
where the settings library refuses to turn it off.
-/
theorem settings_run_iff {manager : ManagerState} (h : Coherent manager)
    (calls : List SetCall) :
    (Always managerStep Coherent manager calls ∧
        EachStep managerStep CallSound manager calls) ↔
      Meets managerStep BooleanOrRefused manager calls := by
  have htotal (manager : ManagerState) (call : SetCall) :
      ∃ next, managerStep manager call = some next := ⟨_, rfl⟩
  obtain ⟨last, hrun⟩ := exec_total htotal manager calls
  refine guarded_run_exact Coherent (fun _ => id) ?_ ?_ h hrun
  · intro manager call next hcoherent hguard hstep
    exact ⟨managerStep_coherent hcoherent hstep, (callSound_iff hstep).mpr hguard⟩
  · intro manager call next _ hstep _ hsound
    exact (callSound_iff hstep).mp hsound

/-- The list is replaced, another change is refused, and filtering turned off. -/
theorem settings_run_three :
    let manager : ManagerState :=
      ⟨⟨false, true, some ["eth0"]⟩, ⟨true, ["eth0"]⟩, []⟩
    let calls : List SetCall :=
      [⟨"", "WhiteListEntries", .strings ["wlan0", "10.0.0.7"], none⟩,
        ⟨"", "NeverQuit", .boolean true,
          some ⟨.operationFailed, "Settings file is read only"⟩⟩,
        ⟨dleynaServerInterfaceManager, "WhiteListEnabled", .boolean false, none⟩]
    Always managerStep Coherent manager calls ∧
      EachStep managerStep CallSound manager calls := by
  intro manager calls
  have hcoherent : Coherent manager := rfl
  refine (settings_run_iff hcoherent calls).mpr ?_
  refine meets_of_forall_mem (fun call hmem manager _ htype hparam => ?_) manager
  simp only [calls, List.mem_cons, List.not_mem_nil, or_false] at hmem
  rcases hmem with rfl | rfl | rfl
  · simp [documentedType] at htype
  · exact absurd rfl hparam
  · exact absurd rfl hparam

/-- A string is taken for false, and turns the filtering off without an error. -/
theorem string_turns_filter_off :
    let manager : ManagerState :=
      ⟨⟨false, true, some ["eth0"]⟩, ⟨true, ["eth0"]⟩, []⟩
    let call : SetCall := ⟨"", "WhiteListEnabled", .string "true", none⟩
    Coherent manager ∧ Mistyped call ∧
      (dlrManagerSetProp call manager).1 = none ∧
      (dlrManagerSetProp call manager).2.whiteList = ⟨false, ["eth0"]⟩ ∧
      ¬EachStep managerStep CallSound manager [call] := by
  intro manager call
  have hmistyped : Mistyped call := ⟨"b", rfl, by decide⟩
  refine ⟨rfl, hmistyped, rfl, rfl, fun heach => ?_⟩
  have hrejected := heach.1.mistyped hmistyped
  contradiction

end DleynaRenderer.Manager
