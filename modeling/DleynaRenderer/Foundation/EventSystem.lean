import Mathlib.Data.List.Basic
import Mathlib.Data.List.Induction

/-!
# Runs of partial event systems

A system is a partial step function: `step s event` is `none` when the event
is not enabled in `s`.  A run is a list of events, executed in order.  The
lemmas below package the inductions over runs, so that a safety result is a
statement about one step and the initial state.
-/

namespace EventSystem

variable {σ ε : Type*}

/-- Execute the events in order; `none` when one of them is not enabled. -/
def exec (step : σ → ε → Option σ) : σ → List ε → Option σ
  | s, [] => some s
  | s, event :: events => (step s event).bind fun next => exec step next events

/-- Every step taken by the run meets `guard`, a condition on the state before. -/
def Meets (step : σ → ε → Option σ) (guard : σ → ε → Prop) :
    σ → List ε → Prop
  | _, [] => True
  | s, event :: events =>
      guard s event ∧
        match step s event with
        | none => True
        | some next => Meets step guard next events

/-- Every state the run goes through, the first one included, satisfies `good`. -/
def Always (step : σ → ε → Option σ) (good : σ → Prop) : σ → List ε → Prop
  | s, [] => good s
  | s, event :: events =>
      good s ∧
        match step s event with
        | none => True
        | some next => Always step good next events

/-- Every step taken by the run obeys `law`, a relation of state, event and state. -/
def EachStep (step : σ → ε → Option σ) (law : σ → ε → σ → Prop) :
    σ → List ε → Prop
  | _, [] => True
  | s, event :: events =>
      match step s event with
      | none => True
      | some next => law s event next ∧ EachStep step law next events

instance decidableMeets (step : σ → ε → Option σ) (guard : σ → ε → Prop)
    [∀ s event, Decidable (guard s event)] (s : σ) (events : List ε) :
    Decidable (Meets step guard s events) :=
  match events with
  | [] => inferInstanceAs (Decidable True)
  | event :: events =>
      match h : step s event with
      | none => decidable_of_iff (guard s event) (by simp [Meets, h])
      | some next =>
          have := decidableMeets step guard next events
          decidable_of_iff (guard s event ∧ Meets step guard next events)
            (by simp [Meets, h])

instance decidableEachStep (step : σ → ε → Option σ) (law : σ → ε → σ → Prop)
    [∀ s event next, Decidable (law s event next)] (s : σ) (events : List ε) :
    Decidable (EachStep step law s events) :=
  match events with
  | [] => inferInstanceAs (Decidable True)
  | event :: events =>
      match h : step s event with
      | none => isTrue (by simp [EachStep, h])
      | some next =>
          have := decidableEachStep step law next events
          decidable_of_iff (law s event next ∧ EachStep step law next events)
            (by simp [EachStep, h])

section Runs

variable {step : σ → ε → Option σ} {guard : σ → ε → Prop} {good : σ → Prop}

@[simp] theorem exec_nil (s : σ) : exec step s [] = some s := rfl

theorem exec_cons (s : σ) (event : ε) (events : List ε) :
    exec step s (event :: events) =
      (step s event).bind fun next => exec step next events := rfl

theorem exec_cons_eq_some {s t : σ} {event : ε} {events : List ε} :
    exec step s (event :: events) = some t ↔
      ∃ next, step s event = some next ∧ exec step next events = some t := by
  simp [exec_cons, Option.bind_eq_some_iff]

theorem exec_append (s : σ) (first second : List ε) :
    exec step s (first ++ second) =
      (exec step s first).bind fun next => exec step next second := by
  induction first generalizing s with
  | nil => rfl
  | cons event first ih =>
      simp only [List.cons_append, exec_cons]
      cases step s event with
      | none => rfl
      | some next => exact ih next

theorem exec_concat_eq_some {s t : σ} {events : List ε} {event : ε} :
    exec step s (events ++ [event]) = some t ↔
      ∃ last, exec step s events = some last ∧ step last event = some t := by
  simp [exec_append, exec_cons, Option.bind_eq_some_iff]

theorem exec_total (htotal : ∀ s event, ∃ next, step s event = some next)
    (s : σ) (events : List ε) : ∃ t, exec step s events = some t := by
  induction events generalizing s with
  | nil => exact ⟨s, rfl⟩
  | cons event events ih =>
      obtain ⟨next, hstep⟩ := htotal s event
      obtain ⟨t, hrest⟩ := ih next
      exact ⟨t, exec_cons_eq_some.mpr ⟨next, hstep, hrest⟩⟩

@[simp] theorem meets_nil (s : σ) : Meets step guard s [] := trivial

theorem meets_cons_of_step {s next : σ} {event : ε} {events : List ε}
    (hstep : step s event = some next) :
    Meets step guard s (event :: events) ↔
      guard s event ∧ Meets step guard next events := by
  simp [Meets, hstep]

theorem meets_append {s last : σ} {first second : List ε}
    (hrun : exec step s first = some last) :
    Meets step guard s (first ++ second) ↔
      Meets step guard s first ∧ Meets step guard last second := by
  induction first generalizing s with
  | nil =>
      obtain rfl : s = last := by simpa using hrun
      simp
  | cons event first ih =>
      obtain ⟨next, hstep, hrest⟩ := exec_cons_eq_some.mp hrun
      rw [List.cons_append, meets_cons_of_step hstep, meets_cons_of_step hstep,
        ih hrest, and_assoc]

theorem meets_concat {s last : σ} {events : List ε} {event : ε}
    (hrun : exec step s events = some last) :
    Meets step guard s (events ++ [event]) ↔
      Meets step guard s events ∧ guard last event := by
  rw [meets_append hrun]
  cases hstep : step last event <;> simp [Meets, hstep]

/--
History: a relation of the events so far and the state, which every guarded
step carries over, holds at the end of every run whose steps meet the guard.
-/
theorem exec_history (inv : List ε → σ → Prop) {s t : σ} {events : List ε}
    (hpreserved : ∀ past s event next, inv past s → guard s event →
      step s event = some next → inv (past ++ [event]) next)
    (hinit : inv [] s) (hrun : exec step s events = some t)
    (hmeets : Meets step guard s events) : inv events t := by
  induction events using List.reverseRecOn generalizing t with
  | nil =>
      obtain rfl : s = t := by simpa using hrun
      exact hinit
  | append_singleton events event ih =>
      obtain ⟨last, hbefore, hstep⟩ := exec_concat_eq_some.mp hrun
      obtain ⟨hmeets, hguard⟩ := (meets_concat hbefore).mp hmeets
      exact hpreserved events last event t (ih hbefore hmeets) hguard hstep

/--
Invariance under a guard: what the first state satisfies and every guarded step
preserves holds at the end of every run whose steps all meet the guard.
-/
theorem exec_guarded_invariant (inv : σ → Prop) {s t : σ} {events : List ε}
    (hpreserved : ∀ s event next, inv s → guard s event →
      step s event = some next → inv next)
    (hinit : inv s) (hrun : exec step s events = some t)
    (hmeets : Meets step guard s events) : inv t :=
  exec_history (fun _ => inv) (fun _ => hpreserved) hinit hrun hmeets

theorem meets_of_forall_mem {events : List ε}
    (h : ∀ event ∈ events, ∀ s, guard s event) (s : σ) :
    Meets step guard s events := by
  induction events generalizing s with
  | nil => trivial
  | cons event events ih =>
      have hhead := h event List.mem_cons_self s
      have htail := ih fun later hlater => h later (List.mem_cons_of_mem _ hlater)
      cases hstep : step s event with
      | none => simp [Meets, hstep, hhead]
      | some next => exact (meets_cons_of_step hstep).mpr ⟨hhead, htail next⟩

theorem Meets.of_invariant {guard' : σ → ε → Prop} (inv : σ → Prop) {s : σ}
    {events : List ε}
    (hpreserved : ∀ s event next, inv s → guard s event →
      step s event = some next → inv next)
    (hguard : ∀ s event, inv s → guard s event → guard' s event)
    (hinit : inv s) (hmeets : Meets step guard s events) :
    Meets step guard' s events := by
  induction events generalizing s with
  | nil => trivial
  | cons event events ih =>
      have hhead := hguard s event hinit hmeets.1
      cases hstep : step s event with
      | none => simp [Meets, hstep, hhead]
      | some next =>
          obtain ⟨hmet, htail⟩ := (meets_cons_of_step hstep).mp hmeets
          exact (meets_cons_of_step hstep).mpr
            ⟨hhead, ih (hpreserved s event next hinit hmet hstep) htail⟩

theorem exec_invariant (inv : σ → Prop) {s t : σ} {events : List ε}
    (hpreserved : ∀ s event next, inv s → step s event = some next → inv next)
    (hinit : inv s) (hrun : exec step s events = some t) : inv t :=
  exec_guarded_invariant inv
    (fun s event next hinv _ hstep => hpreserved s event next hinv hstep)
    hinit hrun (meets_of_forall_mem (fun _ _ _ => trivial) s)

/--
Projection: a part of the state that every guarded step changes by `law` is,
at the end of the run, the fold of the law over the events.
-/
theorem exec_projection {τ : Type*} (view : σ → τ) (law : τ → ε → τ) {s t : σ}
    {events : List ε}
    (hview : ∀ s event next, guard s event → step s event = some next →
      view next = law (view s) event)
    (hrun : exec step s events = some t) (hmeets : Meets step guard s events) :
    view t = events.foldl law (view s) := by
  induction events generalizing s with
  | nil =>
      obtain rfl : s = t := by simpa using hrun
      rfl
  | cons event events ih =>
      obtain ⟨next, hstep, hrest⟩ := exec_cons_eq_some.mp hrun
      obtain ⟨hguard, hmeets⟩ := (meets_cons_of_step hstep).mp hmeets
      rw [List.foldl_cons, ih hrest hmeets, hview s event next hguard hstep]

theorem foldl_filter_of_ignored {τ : Type*} {law : τ → ε → τ}
    (concerns : ε → Bool)
    (hignored : ∀ value event, concerns event = false → law value event = value)
    (value : τ) (events : List ε) :
    events.foldl law value = (events.filter concerns).foldl law value := by
  rw [List.foldl_filter]
  congr 1
  funext value event
  cases hconcerns : concerns event with
  | false => simpa using hignored value event hconcerns
  | true => simp

theorem always_head {s : σ} {events : List ε}
    (h : Always step good s events) : good s := by
  cases events with
  | nil => exact h
  | cons event events => exact h.1

theorem always_cons_of_step {s next : σ} {event : ε} {events : List ε}
    (hstep : step s event = some next) :
    Always step good s (event :: events) ↔
      good s ∧ Always step good next events := by
  simp [Always, hstep]

theorem always_iff_prefix {s : σ} {events : List ε} :
    Always step good s events ↔
      ∀ before, before <+: events →
        ∀ t, exec step s before = some t → good t := by
  induction events generalizing s with
  | nil => simp [Always]
  | cons event events ih =>
      constructor
      · intro halways before hprefix t hrun
        cases before with
        | nil =>
            obtain rfl : s = t := by simpa using hrun
            exact always_head halways
        | cons event' before =>
            obtain ⟨rfl, htail⟩ := List.cons_prefix_cons.mp hprefix
            obtain ⟨next, hstep, hrest⟩ := exec_cons_eq_some.mp hrun
            exact ih.mp ((always_cons_of_step hstep).mp halways).2 before
              htail t hrest
      · intro hgood
        have hhead : good s := hgood [] (List.nil_prefix) s rfl
        cases hstep : step s event with
        | none => simp [Always, hstep, hhead]
        | some next =>
            refine (always_cons_of_step hstep).mpr ⟨hhead, ih.mpr ?_⟩
            intro before hprefix t hrest
            exact hgood (event :: before)
              (List.cons_prefix_cons.mpr ⟨rfl, hprefix⟩) t
              (exec_cons_eq_some.mpr ⟨next, hstep, hrest⟩)

/--
Exact guards: when a step from a good state ends in a good state precisely if
it meets the guard, a run stays good precisely if all its steps meet the guard.
-/
theorem always_iff_meets {s t : σ} {events : List ε}
    (hexact : ∀ s event next, good s → step s event = some next →
      (good next ↔ guard s event))
    (hinit : good s) (hrun : exec step s events = some t) :
    Always step good s events ↔ Meets step guard s events := by
  induction events generalizing s with
  | nil => simpa [Always] using hinit
  | cons event events ih =>
      obtain ⟨next, hstep, hrest⟩ := exec_cons_eq_some.mp hrun
      rw [always_cons_of_step hstep, meets_cons_of_step hstep]
      have hiff := hexact s event next hinit hstep
      constructor
      · rintro ⟨-, halways⟩
        have hnext := always_head halways
        exact ⟨hiff.mp hnext, (ih hnext hrest).mp halways⟩
      · rintro ⟨hguard, hmeets⟩
        have hnext := hiff.mpr hguard
        exact ⟨hinit, (ih hnext hrest).mpr hmeets⟩

theorem eachStep_cons_of_step {law : σ → ε → σ → Prop} {s next : σ}
    {event : ε} {events : List ε} (hstep : step s event = some next) :
    EachStep step law s (event :: events) ↔
      law s event next ∧ EachStep step law next events := by
  simp [EachStep, hstep]

theorem eachStep_concat {law : σ → ε → σ → Prop} {s last : σ}
    {events : List ε} {event : ε} (hrun : exec step s events = some last) :
    EachStep step law s (events ++ [event]) ↔
      EachStep step law s events ∧
        ∀ next, step last event = some next → law last event next := by
  induction events generalizing s with
  | nil =>
      obtain rfl : s = last := by simpa using hrun
      cases hstep : step s event <;> simp [EachStep, hstep]
  | cons first events ih =>
      obtain ⟨next, hstep, hrest⟩ := exec_cons_eq_some.mp hrun
      rw [List.cons_append, eachStep_cons_of_step hstep,
        eachStep_cons_of_step hstep, ih hrest, and_assoc]

theorem eachStep_of_always {law : σ → ε → σ → Prop} {s t : σ} {events : List ε}
    (hlaw : ∀ s event next, good s → step s event = some next → good next →
      law s event next)
    (halways : Always step good s events)
    (hrun : exec step s events = some t) : EachStep step law s events := by
  induction events generalizing s with
  | nil => trivial
  | cons event events ih =>
      obtain ⟨next, hstep, hrest⟩ := exec_cons_eq_some.mp hrun
      obtain ⟨hgood, halways⟩ := (always_cons_of_step hstep).mp halways
      exact (eachStep_cons_of_step hstep).mpr
        ⟨hlaw s event next hgood hstep (always_head halways),
          ih halways hrest⟩

/--
Safety under a guard: an invariant that guarded steps preserve while they obey
the law gives the property of every state and the law of every step.
-/
theorem guarded_run_safe (inv : σ → Prop) {law : σ → ε → σ → Prop} {s : σ}
    {events : List ε} (hgood : ∀ s, inv s → good s)
    (hstep : ∀ s event next, inv s → guard s event →
      step s event = some next → inv next ∧ law s event next)
    (hinit : inv s) (hmeets : Meets step guard s events) :
    Always step good s events ∧ EachStep step law s events := by
  induction events generalizing s with
  | nil => exact ⟨hgood s hinit, trivial⟩
  | cons event events ih =>
      cases hnext : step s event with
      | none => simp [Always, EachStep, hnext, hgood s hinit]
      | some next =>
          obtain ⟨hguard, hmeets⟩ := (meets_cons_of_step hnext).mp hmeets
          obtain ⟨hinv, hlaw⟩ := hstep s event next hinit hguard hnext
          obtain ⟨halways, heach⟩ := ih hinv hmeets
          exact ⟨(always_cons_of_step hnext).mpr ⟨hgood s hinit, halways⟩,
            (eachStep_cons_of_step hnext).mpr ⟨hlaw, heach⟩⟩

theorem guarded_run_always (inv : σ → Prop) {s : σ} {events : List ε}
    (hgood : ∀ s, inv s → good s)
    (hstep : ∀ s event next, inv s → guard s event →
      step s event = some next → inv next)
    (hinit : inv s) (hmeets : Meets step guard s events) :
    Always step good s events := by
  have hsafe : Always step good s events ∧
      EachStep step (fun _ _ _ => True) s events :=
    guarded_run_safe inv hgood
      (fun s event next hinv hguard hnext =>
        ⟨hstep s event next hinv hguard hnext, trivial⟩) hinit hmeets
  exact hsafe.1

/--
Exactness: when a step between good states that obeys the law must have met
the guard, a run is safe precisely if all its steps meet the guard.
-/
theorem guarded_run_exact (inv : σ → Prop) {law : σ → ε → σ → Prop} {s t : σ}
    {events : List ε} (hgood : ∀ s, inv s → good s)
    (hstep : ∀ s event next, inv s → guard s event →
      step s event = some next → inv next ∧ law s event next)
    (hexact : ∀ s event next, inv s → step s event = some next →
      good next → law s event next → guard s event)
    (hinit : inv s) (hrun : exec step s events = some t) :
    (Always step good s events ∧ EachStep step law s events) ↔
      Meets step guard s events := by
  refine ⟨?_, guarded_run_safe inv hgood hstep hinit⟩
  induction events generalizing s with
  | nil => exact fun _ => trivial
  | cons event events ih =>
      rintro ⟨halways, heach⟩
      obtain ⟨next, hnext, hrest⟩ := exec_cons_eq_some.mp hrun
      obtain ⟨-, halways⟩ := (always_cons_of_step hnext).mp halways
      obtain ⟨hlaw, heach⟩ := (eachStep_cons_of_step hnext).mp heach
      have hguard := hexact s event next hinit hnext (always_head halways) hlaw
      obtain ⟨hinv, -⟩ := hstep s event next hinit hguard hnext
      exact (meets_cons_of_step hnext).mpr
        ⟨hguard, ih hinv hrest ⟨halways, heach⟩⟩

theorem guarded_run_always_iff (inv : σ → Prop) {s t : σ} {events : List ε}
    (hgood : ∀ s, inv s → good s)
    (hstep : ∀ s event next, inv s → guard s event →
      step s event = some next → inv next)
    (hexact : ∀ s event next, inv s → step s event = some next →
      good next → guard s event)
    (hinit : inv s) (hrun : exec step s events = some t) :
    Always step good s events ↔ Meets step guard s events := by
  have hiff : (Always step good s events ∧
      EachStep step (fun _ _ _ => True) s events) ↔
        Meets step guard s events :=
    guarded_run_exact inv hgood
      (fun s event next hinv hguard hnext =>
        ⟨hstep s event next hinv hguard hnext, trivial⟩)
      (fun s event next hinv hnext hgood _ =>
        hexact s event next hinv hnext hgood) hinit hrun
  refine ⟨fun halways => hiff.mp ⟨halways, ?_⟩, fun hmeets =>
    (hiff.mpr hmeets).1⟩
  exact eachStep_of_always (fun _ _ _ _ _ _ => trivial) halways hrun

/-- What every counted event uses up, and no event gives back, bounds their number. -/
theorem exec_potential (inv : σ → Prop) (counts : ε → Bool)
    (potential : σ → Nat) {s t : σ} {events : List ε}
    (hkept : ∀ s event next, inv s → step s event = some next → inv next)
    (hused : ∀ s event next, inv s → step s event = some next →
      potential next + (if counts event then 1 else 0) ≤ potential s)
    (hinit : inv s) (hrun : exec step s events = some t) :
    events.countP counts + potential t ≤ potential s := by
  induction events generalizing s with
  | nil =>
      obtain rfl : s = t := by simpa using hrun
      simp
  | cons event events ih =>
      obtain ⟨next, hstep, hrest⟩ := exec_cons_eq_some.mp hrun
      have hlater := ih (hkept s event next hinit hstep) hrest
      have hfirst := hused s event next hinit hstep
      rw [List.countP_cons]
      omega

end Runs

end EventSystem
