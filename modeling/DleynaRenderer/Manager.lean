import DleynaRenderer.Error
import DleynaRenderer.Introspection

/-!
# Manager properties

The properties of the manager are read from the settings and written to them.
The settings library keeps each of the three values; whether it can save a new
one is its answer.
-/

namespace DleynaRenderer.Manager

open Player

/-- `whiteListEntries` is `none` where the settings have no list. -/
structure Settings where
  neverQuit : Bool
  whiteListEnabled : Bool
  whiteListEntries : Option (List String)
  deriving DecidableEq, Repr

def prvBuildWlEntries (settings : Settings) : Variant :=
  match settings.whiteListEntries with
  | some entries => .strings entries
  | none => .strings []

def prvAddAllProps (settings : Settings) : List (String × Variant) :=
  [("NeverQuit", .boolean settings.neverQuit),
   ("WhiteListEnabled", .boolean settings.whiteListEnabled),
   ("WhiteListEntries", prvBuildWlEntries settings)]

def prvGetProp (settings : Settings) (prop : String) : Option Variant :=
  if prop = "NeverQuit" then some (.boolean settings.neverQuit)
  else if prop = "WhiteListEnabled" then
    some (.boolean settings.whiteListEnabled)
  else if prop = "WhiteListEntries" then some (prvBuildWlEntries settings)
  else none

def unknownInterface : GError := ⟨.unknownInterface, "Interface is unknown."⟩

def unknownProperty : GError := ⟨.unknownProperty, "Unknown property"⟩

def namesManager (interfaceName : String) : Bool :=
  interfaceName = dleynaServerInterfaceManager || interfaceName = ""

def dlrManagerGetAllProps (settings : Settings) (interfaceName : String) :
    Except GError (List (String × Variant)) :=
  if namesManager interfaceName then .ok (prvAddAllProps settings)
  else .error unknownInterface

def dlrManagerGetProp (settings : Settings) (interfaceName name : String) :
    Except GError Variant :=
  if namesManager interfaceName then
    match prvGetProp settings name with
    | some value => .ok value
    | none => .error unknownProperty
  else .error unknownInterface

theorem typed_prvGetProp_iff {settings : Settings} {prop : String}
    {value : Variant} (hvalue : prvGetProp settings prop = some value) :
    Typed managerProperties (prop, value) ↔ prop ≠ "NeverQuit" := by
  have hentries : (prvBuildWlEntries settings).typeString = "as" := by
    unfold prvBuildWlEntries
    split <;> rfl
  unfold prvGetProp at hvalue
  split_ifs at hvalue with hquit henabled hentry
  · obtain rfl := Option.some.inj hvalue
    subst hquit
    simp [Typed, managerProperties, Variant.typeString]
  · obtain rfl := Option.some.inj hvalue
    subst henabled
    simp [Typed, managerProperties, Variant.typeString]
  · obtain rfl := Option.some.inj hvalue
    subst hentry
    simp [Typed, managerProperties, hentries]

theorem typed_dlrManagerGetProp_iff {settings : Settings}
    {interfaceName prop : String} {value : Variant}
    (hvalue : dlrManagerGetProp settings interfaceName prop = .ok value) :
    Typed managerProperties (prop, value) ↔ prop ≠ "NeverQuit" := by
  unfold dlrManagerGetProp at hvalue
  split at hvalue
  · cases hfound : prvGetProp settings prop with
    | none => simp [hfound] at hvalue
    | some found =>
        simp only [hfound, Except.ok.injEq] at hvalue
        exact hvalue ▸ typed_prvGetProp_iff hfound
  · contradiction

theorem dlrManagerGetAllProps_mistyped {settings : Settings}
    {interfaceName : String} {props : List (String × Variant)}
    (hprops : dlrManagerGetAllProps settings interfaceName = .ok props) :
    ¬ ∀ entry ∈ props, Typed managerProperties entry := by
  unfold dlrManagerGetAllProps at hprops
  split at hprops
  · obtain rfl := Except.ok.inj hprops
    intro htyped
    have hquit := htyped ("NeverQuit", .boolean settings.neverQuit)
      List.mem_cons_self
    have hfound : prvGetProp settings "NeverQuit" =
        some (.boolean settings.neverQuit) := rfl
    exact (typed_prvGetProp_iff hfound).mp hquit rfl
  · contradiction

end DleynaRenderer.Manager
