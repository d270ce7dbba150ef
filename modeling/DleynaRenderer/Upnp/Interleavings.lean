import DleynaRenderer.Foundation.Product
import DleynaRenderer.Upnp.Mirror

/-!
# Interleavings of renderers

The registry is the product of its renderers.  What happens to a renderer, and
what is signalled of it, depends on its own events and their order alone: not
on other renderers, nor on what is hosted.
-/

namespace DleynaRenderer.Upnp

open DleynaRenderer.Device DleynaRenderer.Player DleynaRenderer.PushHost
open EventSystem

structure Renderer where
  entry : Option Entry
  signals : List Signal

def isEnabled : Option Entry → UpnpEvent → Bool
  | some ⟨_, some ⟨_, _ :: _⟩⟩, .runTask .. => true
  | _, .runTask .. => false
  | some ⟨_, some ⟨_, []⟩⟩, .chainEnd _ => true
  | _, .chainEnd _ => false
  | some entry, .subscribeTimeout _ => entry.device.timeoutId
  | none, .subscribeTimeout _ => false
  | some entry, .reEnable _ ipAddress service =>
      timeoutPending ipAddress service entry.device
  | none, .reEnable .. => false
  | some entry, .player _ info event =>
      (playerStep info entry.device.player event).isSome
  | none, .player .. => false
  | _, _ => true

def rendererStep (convertUdnToPath : String → String) (udn : String)
    (renderer : Renderer) (event : UpnpEvent) : Option Renderer :=
  if isEnabled renderer.entry event then
    let next := entryChange (freshEntry convertUdnToPath udn) renderer.entry event
    some ⟨next, renderer.signals ++ transition renderer.entry next⟩
  else none

def rendererOf (convertUdnToPath : String → String) (udn : String)
    (upnp : DlrUpnp) : Renderer :=
  ⟨entry upnp udn, signalsOf (serverPath convertUdnToPath udn) upnp.signals⟩

theorem isSome_runTask_iff {upnp : DlrUpnp} (h : Apart upnp) (udn : String)
    (answer : TaskAnswer) :
    (runTask udn answer upnp).isSome ↔
      isEnabled (entry upnp udn) (.runTask udn answer) := by
  constructor
  · intro hsome
    obtain ⟨next, hstep⟩ := Option.isSome_iff_exists.mp hsome
    unfold runTask at hstep
    split at hstep
    case h_1 hlookup =>
      rw [(lookup_constructing_iff h).mp hlookup]
      rfl
    case h_2 => contradiction
  · intro henabled
    obtain ⟨device, ipAddress, task, tasks, hentry⟩ :
        ∃ device ipAddress task tasks, entry upnp udn =
          some ⟨device, some ⟨ipAddress, task :: tasks⟩⟩ := by
      rcases hentry : entry upnp udn with
        _ | ⟨device, _ | ⟨ipAddress, _ | ⟨task, tasks⟩⟩⟩
      · simp [hentry, isEnabled] at henabled
      · simp [hentry, isEnabled] at henabled
      · simp [hentry, isEnabled] at henabled
      · exact ⟨device, ipAddress, task, tasks, rfl⟩
    have hlookup : upnp.serverUcMap.lookup udn =
        some ⟨ipAddress, device, task :: tasks⟩ :=
      (lookup_constructing_iff h).mpr hentry
    unfold runTask
    rw [hlookup]
    simp only
    split <;> rfl

theorem isSome_endChain_iff {upnp : DlrUpnp} (h : Apart upnp) (udn : String) :
    (endChain udn upnp).isSome ↔
      isEnabled (entry upnp udn) (.chainEnd udn) := by
  constructor
  · intro hsome
    obtain ⟨next, hstep⟩ := Option.isSome_iff_exists.mp hsome
    unfold endChain at hstep
    split at hstep
    case h_1 hlookup =>
      rw [(lookup_constructing_iff h).mp hlookup]
      rfl
    case h_2 => contradiction
  · intro henabled
    obtain ⟨device, ipAddress, hentry⟩ : ∃ device ipAddress,
        entry upnp udn = some ⟨device, some ⟨ipAddress, []⟩⟩ := by
      rcases hentry : entry upnp udn with
        _ | ⟨device, _ | ⟨ipAddress, _ | ⟨task, tasks⟩⟩⟩
      · simp [hentry, isEnabled] at henabled
      · simp [hentry, isEnabled] at henabled
      · exact ⟨device, ipAddress, rfl⟩
      · simp [hentry, isEnabled] at henabled
    have hlookup : upnp.serverUcMap.lookup udn =
        some ⟨ipAddress, device, []⟩ :=
      (lookup_constructing_iff h).mpr hentry
    unfold endChain
    rw [hlookup]
    rfl

theorem isSome_upnpStep_iff (convertUdnToPath : String → String)
    {upnp : DlrUpnp} (h : Apart upnp) {event : UpnpEvent} {udn : String}
    (htarget : target event = some udn) :
    (upnpStep convertUdnToPath upnp event).isSome ↔
      isEnabled (entry upnp udn) event := by
  cases event with
  | runTask other answer =>
      obtain rfl := Option.some.inj htarget
      exact isSome_runTask_iff h other answer
  | chainEnd other =>
      obtain rfl := Option.some.inj htarget
      exact isSome_endChain_iff h other
  | subscribeTimeout other =>
      obtain rfl := Option.some.inj htarget
      simp only [upnpStep, findDevice_eq_entry]
      cases entry upnp other with
      | none => simp [isEnabled]
      | some found => cases found.device.timeoutId <;> simp [isEnabled]
  | reEnable other ipAddress service =>
      obtain rfl := Option.some.inj htarget
      simp only [upnpStep, findDevice_eq_entry]
      cases entry upnp other with
      | none => simp [isEnabled]
      | some found =>
          cases hpending : timeoutPending ipAddress service found.device <;>
            simp [isEnabled, hpending]
  | player other info event =>
      obtain rfl := Option.some.inj htarget
      simp only [upnpStep, findDevice_eq_entry]
      cases entry upnp other <;> simp [isEnabled]
  | hostFile client path file env => contradiction
  | removeFile client path file => contradiction
  | lostClient client => contradiction
  | _ => simp [upnpStep, isEnabled]

theorem signalsOf_append (path : String) (signals added : List Signal) :
    signalsOf path (signals ++ added) =
      signalsOf path signals ++ signalsOf path added :=
  List.filter_append _ _

theorem path_of_transition {path : String} {before after : Option Entry}
    (hbefore : ∀ entry, before = some entry → Mirrored path entry)
    (hafter : ∀ entry, after = some entry → Mirrored path entry) :
    ∀ signal ∈ transition before after, signal.path = path := by
  intro signal hmem
  rcases before with _ | ⟨device, _ | chain⟩
  · simp [transition] at hmem
  · cases after with
    | none =>
        obtain rfl := List.mem_singleton.mp hmem
        exact (hbefore _ rfl).path
    | some entry => simp [transition] at hmem
  · rcases after with _ | ⟨device', _ | chain'⟩
    · simp [transition] at hmem
    · obtain rfl := List.mem_singleton.mp hmem
      exact (hafter _ rfl).path
    · simp [transition] at hmem

theorem signalsOf_self {path : String} {signals : List Signal}
    (h : ∀ signal ∈ signals, signal.path = path) :
    signalsOf path signals = signals :=
  List.filter_eq_self.mpr fun signal hmem => decide_eq_true (h signal hmem)

theorem signalsOf_other {path other : String} {signals : List Signal}
    (h : ∀ signal ∈ signals, signal.path = other) (hne : other ≠ path) :
    signalsOf path signals = [] :=
  List.filter_eq_nil_iff.mpr fun signal hmem => by simp [h signal hmem, hne]

section Convert

variable {convertUdnToPath : String → String}

theorem mirrored_of_changes {upnp next : DlrUpnp} {udn : String}
    {result : Option Entry} (hchanges : Changes upnp udn result next)
    (hnext : Located convertUdnToPath next) :
    ∀ entry, result = some entry →
      Mirrored (serverPath convertUdnToPath udn) entry := by
  intro found hfound
  refine hnext.mirrored udn found ?_
  rw [hchanges.entries udn, if_pos rfl, hfound]

theorem renderer_step_self {upnp : DlrUpnp} {event : UpnpEvent} {udn : String}
    (h : Located convertUdnToPath upnp) (htarget : target event = some udn) :
    (upnpStep convertUdnToPath upnp event).map
        (rendererOf convertUdnToPath udn) =
      rendererStep convertUdnToPath udn (rendererOf convertUdnToPath udn upnp)
        event := by
  have henabled := isSome_upnpStep_iff convertUdnToPath h.apart htarget
  unfold rendererStep
  cases hstep : upnpStep convertUdnToPath upnp event with
  | none =>
      have hdisabled : isEnabled (entry upnp udn) event = false := by
        simpa [hstep] using henabled
      exact (if_neg (by simp [rendererOf, hdisabled])).symm
  | some next =>
      have hset : isEnabled (entry upnp udn) event = true :=
        henabled.mp (by simp [hstep])
      rcases upnpStep_cases h.apart hstep with
        ⟨other, hother, hchanges⟩ | ⟨hnone, -⟩
      · obtain rfl : other = udn :=
          Option.some.inj (hother.symm.trans htarget)
        have hafter := mirrored_of_changes hchanges (located_upnpStep h hstep)
        rw [if_pos (by exact hset)]
        simp only [Option.map_some, rendererOf, hchanges.entries other, if_true,
          hchanges.signals, signalsOf_append]
        rw [signalsOf_self (path_of_transition (h.mirrored other) hafter)]
      · rw [hnone] at htarget
        contradiction

theorem renderer_step_other (hconvert : Function.Injective convertUdnToPath)
    {upnp next : DlrUpnp} {event : UpnpEvent} {udn : String}
    (h : Located convertUdnToPath upnp)
    (hstep : upnpStep convertUdnToPath upnp event = some next)
    (htarget : target event ≠ some udn) :
    rendererOf convertUdnToPath udn next =
      rendererOf convertUdnToPath udn upnp := by
  rcases upnpStep_cases h.apart hstep with
    ⟨other, hother, hchanges⟩ | ⟨-, hsame⟩
  · have hne : other ≠ udn := by
      rintro rfl
      exact htarget hother
    have hafter := mirrored_of_changes hchanges (located_upnpStep h hstep)
    have hpaths :
        serverPath convertUdnToPath other ≠ serverPath convertUdnToPath udn :=
      fun heq => hne (serverPath_injective hconvert heq)
    simp only [rendererOf, hchanges.entries udn, Ne.symm hne, if_false,
      hchanges.signals, signalsOf_append]
    rw [signalsOf_other (path_of_transition (h.mirrored other) hafter) hpaths,
      List.append_nil]
  · unfold rendererOf
    rw [hsame.entry_eq, ← hsame]

theorem isSome_upnpStep_of_free (upnp : DlrUpnp) {event : UpnpEvent}
    (htarget : target event = none) :
    (upnpStep convertUdnToPath upnp event).isSome := by
  cases event with
  | hostFile client path file env => rfl
  | removeFile client path file => rfl
  | lostClient client => rfl
  | _ => contradiction

/-- The registry is the product of its renderers. -/
theorem isProduct_upnpStep (hconvert : Function.Injective convertUdnToPath) :
    IsProduct (upnpStep convertUdnToPath) (Located convertUdnToPath) target
      (rendererStep convertUdnToPath) (rendererOf convertUdnToPath) where
  kept _ _ _ := located_upnpStep
  own _ _ _ h htarget := renderer_step_self h htarget
  other _ _ _ _ h hstep htarget := renderer_step_other hconvert h hstep htarget
  free upnp _ _ htarget := isSome_upnpStep_of_free upnp htarget

end Convert

/--
Each renderer goes its own way: whatever the order between the renderers, and
whichever of them are there, it can do what it did, and it is where it was.
-/
theorem renderers_independent (convertUdnToPath : String → String)
    (hconvert : Function.Injective convertUdnToPath) (pushHostPort : Nat)
    (events others : List UpnpEvent) (last : DlrUpnp)
    (hrun : exec (upnpStep convertUdnToPath) (dlrUpnpNew pushHostPort) events =
      some last)
    (hothers : ∀ udn,
      eventsOf target udn others <+: eventsOf target udn events) :
    ∃ other, exec (upnpStep convertUdnToPath) (dlrUpnpNew pushHostPort) others =
        some other ∧
      ∀ udn, eventsOf target udn others = eventsOf target udn events →
        entry other udn = entry last udn ∧
          signalsOf (serverPath convertUdnToPath udn) other.signals =
            signalsOf (serverPath convertUdnToPath udn) last.signals := by
  obtain ⟨other, hother, hsame⟩ :=
    (isProduct_upnpStep hconvert).exec_interleaved
      (located_dlrUpnpNew convertUdnToPath pushHostPort) hrun hothers
  refine ⟨other, hother, fun udn heq => ?_⟩
  obtain ⟨hentry, hsignals⟩ := Renderer.mk.inj (hsame udn heq)
  exact ⟨hentry, hsignals⟩

def oneAfterTheOther : List UpnpEvent :=
  let answer : TaskAnswer := ⟨none, fun _ => 1⟩
  [.available "uuid:1" "10.0.0.1" fun _ => false, .runTask "uuid:1" answer,
   .runTask "uuid:1" answer, .runTask "uuid:1" answer, .chainEnd "uuid:1",
   .available "uuid:2" "10.0.0.2" fun _ => false, .runTask "uuid:2" answer,
   .runTask "uuid:2" answer]

def inTurns : List UpnpEvent :=
  let answer : TaskAnswer := ⟨none, fun _ => 1⟩
  [.available "uuid:2" "10.0.0.2" fun _ => false,
   .available "uuid:1" "10.0.0.1" fun _ => false, .runTask "uuid:1" answer,
   .runTask "uuid:2" answer, .runTask "uuid:1" answer, .lostClient ":1.1",
   .runTask "uuid:1" answer, .chainEnd "uuid:1"]

theorem renderers_independent_in_turns :
    ∃ last other,
      exec (upnpStep id) (dlrUpnpNew 0) oneAfterTheOther = some last ∧
      exec (upnpStep id) (dlrUpnpNew 0) inTurns = some other ∧
      entry other "uuid:1" = entry last "uuid:1" := by
  have hrun : (exec (upnpStep id) (dlrUpnpNew 0) oneAfterTheOther).isSome := by
    decide +kernel
  obtain ⟨last, hexec⟩ := Option.isSome_iff_exists.mp hrun
  have hothers (udn : String) :
      eventsOf target udn inTurns <+: eventsOf target udn oneAfterTheOther := by
    by_cases hone : udn = "uuid:1"
    · subst hone
      exact ⟨[], rfl⟩
    · by_cases htwo : udn = "uuid:2"
      · subst htwo
        exact ⟨_, rfl⟩
      · have hnone : eventsOf target udn inTurns = [] := by
          simp [eventsOf, inTurns, target, Ne.symm hone, Ne.symm htwo]
        rw [hnone]
        exact List.nil_prefix
  obtain ⟨other, hother, hsame⟩ := renderers_independent id
    Function.injective_id 0 oneAfterTheOther inTurns last hexec hothers
  exact ⟨last, other, hexec, hother, (hsame "uuid:1" rfl).1⟩

end DleynaRenderer.Upnp
