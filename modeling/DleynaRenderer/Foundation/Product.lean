import DleynaRenderer.Foundation.EventSystem

/-!
# Products of event systems

A system is a product when each event is about one component at most, is
enabled when this component lets it happen, and leaves the others alone.  A run
of such a system is a run of each component on the events about it, and runs of
the components make a run of the system in whatever order they are interleaved.
-/

namespace EventSystem

variable {σ ε κ τ : Type*} [DecidableEq κ]

def eventsOf (target : ε → Option κ) (component : κ) (events : List ε) :
    List ε :=
  events.filter fun event => target event = some component

/-- The states with `inv` are products of what is in `view` of each component. -/
structure IsProduct (step : σ → ε → Option σ) (inv : σ → Prop)
    (target : ε → Option κ) (law : κ → τ → ε → Option τ)
    (view : κ → σ → τ) : Prop where
  kept : ∀ s event next, inv s → step s event = some next → inv next
  own : ∀ s event component, inv s → target event = some component →
    (step s event).map (view component) =
      law component (view component s) event
  other : ∀ s event next component, inv s → step s event = some next →
    target event ≠ some component → view component next = view component s
  free : ∀ s event, inv s → target event = none → (step s event).isSome

section Target

variable {target : ε → Option κ} {component : κ}

theorem eventsOf_cons_self {event : ε} (h : target event = some component)
    (events : List ε) :
    eventsOf target component (event :: events) =
      event :: eventsOf target component events := by
  simp [eventsOf, h]

theorem eventsOf_cons_of_ne {event : ε} (h : target event ≠ some component)
    (events : List ε) :
    eventsOf target component (event :: events) =
      eventsOf target component events := by
  simp [eventsOf, h]

end Target

variable {step : σ → ε → Option σ} {inv : σ → Prop} {target : ε → Option κ}
  {law : κ → τ → ε → Option τ} {view : κ → σ → τ}

theorem isSome_exec_of_prefix {s : σ} {first events : List ε}
    (hfirst : first <+: events) (h : (exec step s events).isSome) :
    (exec step s first).isSome := by
  obtain ⟨rest, rfl⟩ := hfirst
  rw [exec_append] at h
  exact Option.isSome_of_isSome_bind h

namespace IsProduct

variable (h : IsProduct step inv target law view)

include h

theorem exec_component {s t : σ} {events : List ε} (hinit : inv s)
    (hrun : exec step s events = some t) (component : κ) :
    exec (law component) (view component s)
      (eventsOf target component events) = some (view component t) := by
  induction events generalizing s with
  | nil =>
      obtain rfl : s = t := by simpa using hrun
      rfl
  | cons event events ih =>
      obtain ⟨next, hstep, hrest⟩ := exec_cons_eq_some.mp hrun
      have hafter := ih (h.kept s event next hinit hstep) hrest
      by_cases htarget : target event = some component
      · have hown := h.own s event component hinit htarget
        rw [hstep, Option.map_some] at hown
        rw [eventsOf_cons_self htarget]
        exact exec_cons_eq_some.mpr ⟨_, hown.symm, hafter⟩
      · rw [eventsOf_cons_of_ne htarget,
          ← h.other s event next component hinit hstep htarget]
        exact hafter

theorem isSome_exec {s : σ} {events : List ε} (hinit : inv s)
    (hcomponents : ∀ component, (exec (law component) (view component s)
      (eventsOf target component events)).isSome) :
    (exec step s events).isSome := by
  induction events generalizing s with
  | nil => rfl
  | cons event events ih =>
      have henabled : (step s event).isSome := by
        cases htarget : target event with
        | none => exact h.free s event hinit htarget
        | some component =>
            have hrun := hcomponents component
            rw [eventsOf_cons_self htarget, exec_cons,
              ← h.own s event component hinit htarget] at hrun
            have hmap := Option.isSome_of_isSome_bind hrun
            rwa [Option.isSome_map] at hmap
      obtain ⟨next, hstep⟩ := Option.isSome_iff_exists.mp henabled
      rw [exec_cons, hstep, Option.bind_some]
      refine ih (h.kept s event next hinit hstep) fun component => ?_
      have hrun := hcomponents component
      by_cases htarget : target event = some component
      · have hown := h.own s event component hinit htarget
        rw [hstep, Option.map_some] at hown
        rwa [eventsOf_cons_self htarget, exec_cons, ← hown,
          Option.bind_some] at hrun
      · rw [eventsOf_cons_of_ne htarget] at hrun
        rwa [h.other s event next component hinit hstep htarget]

/-- Each component may have got less far, and the order between them is free. -/
theorem exec_interleaved {s t : σ} {events others : List ε} (hinit : inv s)
    (hrun : exec step s events = some t)
    (hothers : ∀ component,
      eventsOf target component others <+: eventsOf target component events) :
    ∃ u, exec step s others = some u ∧ ∀ component,
      eventsOf target component others = eventsOf target component events →
        view component u = view component t := by
  have hsome : (exec step s others).isSome := by
    refine h.isSome_exec hinit fun component => ?_
    refine isSome_exec_of_prefix (hothers component) ?_
    rw [h.exec_component hinit hrun component]
    rfl
  obtain ⟨u, hu⟩ := Option.isSome_iff_exists.mp hsome
  refine ⟨u, hu, fun component hsame => ?_⟩
  have hother := h.exec_component hinit hu component
  rw [hsame, h.exec_component hinit hrun component] at hother
  exact (Option.some.inj hother).symm

end IsProduct

end EventSystem
