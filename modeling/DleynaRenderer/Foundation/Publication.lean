import DleynaRenderer.Foundation.EventSystem
import Mathlib.Logic.Function.Basic

/-!
# Copies of a published view

A source has a view that its clients keep copies of.  A client is sent the whole
view when it asks for it, and each change of the view is announced to all of
them.  What is sent to a client reaches it later, in the order of sending.
-/

namespace Publication

open EventSystem

variable {σ ε ν δ ι : Type*}

/-- `log` is what has been announced, `apply` what a client makes of it. -/
structure Source (σ ε ν δ : Type*) where
  step : σ → ε → Option σ
  view : σ → ν
  log : σ → List δ
  apply : ν → δ → ν

inductive Message (ν δ : Type*) where
  | all (view : ν)
  | change (delta : δ)

structure Client (ν δ : Type*) where
  copy : Option ν
  inbox : List (Message ν δ)

/-- `answers` have been computed and are not sent yet. -/
structure State (σ ν δ ι : Type*) where
  source : σ
  answers : ι → Option ν
  clients : ι → Client ν δ

inductive Event (ε ι : Type*) where
  | work (event : ε)
  | compute (client : ι)
  | reply (client : ι)
  | answer (client : ι)
  | deliver (client : ι)

def start (source : σ) : State σ ν δ ι :=
  ⟨source, fun _ => none, fun _ => ⟨none, []⟩⟩

def Client.send (messages : List (Message ν δ)) (client : Client ν δ) :
    Client ν δ :=
  { client with inbox := client.inbox ++ messages }

/-- A client that has never asked for the view makes nothing of a change. -/
def Source.receive (source : Source σ ε ν δ) (copy : Option ν) :
    Message ν δ → Option ν
  | .all view => some view
  | .change delta => copy.map fun copy => source.apply copy delta

def Source.added (source : Source σ ε ν δ) (old new : σ) :
    List (Message ν δ) :=
  ((source.log new).drop (source.log old).length).map .change

def step [DecidableEq ι] (source : Source σ ε ν δ) (state : State σ ν δ ι) :
    Event ε ι → Option (State σ ν δ ι)
  | .work event => (source.step state.source event).map fun next =>
      { state with
        source := next
        clients := fun client =>
          (state.clients client).send (source.added state.source next) }
  | .compute client =>
      match state.answers client with
      | some _ => none
      | none => some { state with
          answers := Function.update state.answers client
            (some (source.view state.source)) }
  | .reply client =>
      (state.answers client).map fun view => { state with
        answers := Function.update state.answers client none
        clients := Function.update state.clients client
          ((state.clients client).send [.all view]) }
  | .answer client => some { state with
      clients := Function.update state.clients client
        ((state.clients client).send [.all (source.view state.source)]) }
  | .deliver client =>
      match state.clients client with
      | ⟨_, []⟩ => none
      | ⟨copy, message :: inbox⟩ => some { state with
          clients := Function.update state.clients client
            ⟨source.receive copy message, inbox⟩ }

def Source.settled (source : Source σ ε ν δ) (client : Client ν δ) : Option ν :=
  client.inbox.foldl source.receive client.copy

def sends [DecidableEq ι] (client : ι) : Event ε ι → Bool
  | .reply other => other = client
  | .answer other => other = client
  | _ => false

def answered [DecidableEq ι] (client : ι) (events : List (Event ε ι)) : Bool :=
  events.any (sends client)

/-- The view does not change while an answer waits to be sent. -/
def Undisturbed (source : Source σ ε ν δ) (state : State σ ν δ ι) :
    Event ε ι → Prop
  | .work event => ∀ next, source.step state.source event = some next →
      source.view next = source.view state.source ∨
        ∀ client, state.answers client = none
  | _ => True

theorem undisturbed_of_disabled {source : Source σ ε ν δ}
    {state : State σ ν δ ι} {event : ε}
    (h : source.step state.source event = none) :
    Undisturbed source state (.work event) := by
  simp [Undisturbed, h]

theorem undisturbed_work_iff {source : Source σ ε ν δ} {state : State σ ν δ ι}
    {event : ε} {next : σ} (h : source.step state.source event = some next) :
    (source.view next = source.view state.source ∨
      ∀ client, state.answers client = none) ↔
    Undisturbed source state (.work event) := by
  simp [Undisturbed, h]

instance [DecidableEq ν] (source : Source σ ε ν δ) (state : State σ ν δ ι)
    (event : Event ε ι) [Decidable (∀ client, state.answers client = none)] :
    Decidable (Undisturbed source state event) :=
  match event with
  | .work event =>
      match h : source.step state.source event with
      | none => isTrue (undisturbed_of_disabled h)
      | some _ => decidable_of_iff _ (undisturbed_work_iff h)
  | .compute _ => isTrue trivial
  | .reply _ => isTrue trivial
  | .answer _ => isTrue trivial
  | .deliver _ => isTrue trivial

def Source.Announces (source : Source σ ε ν δ) (good : σ → Prop) : Prop :=
  ∀ s event next, good s → source.step s event = some next →
    good next ∧ ∃ added, source.log next = source.log s ++ added ∧
      added.length ≤ 1 ∧ added.foldl source.apply (source.view s) =
        source.view next

def Had [DecidableEq ι] (source : Source σ ε ν δ) (first : State σ ν δ ι)
    (events : List (Event ε ι)) (view : ν) : Prop :=
  ∃ earlier state, earlier <+: events ∧
    exec (step source) first earlier = some state ∧
    source.view state.source = view

section Receiving

variable (source : Source σ ε ν δ)

@[simp] theorem settled_send (messages : List (Message ν δ))
    (client : Client ν δ) :
    source.settled (client.send messages) =
      messages.foldl source.receive (source.settled client) :=
  List.foldl_append

theorem foldl_receive_change (copy : Option ν) (deltas : List δ) :
    (deltas.map Message.change).foldl source.receive copy =
      copy.map fun copy => deltas.foldl source.apply copy := by
  induction deltas generalizing copy with
  | nil => simp
  | cons delta deltas ih =>
      rw [List.map_cons, List.foldl_cons, ih]
      cases copy <;> rfl

theorem added_eq {old new : σ} {added : List δ}
    (h : source.log new = source.log old ++ added) :
    source.added old new = added.map .change := by
  simp [Source.added, h]

end Receiving

/-! ## Copies -/

section Copies

variable [DecidableEq ι] {source : Source σ ε ν δ}
  {first : State σ ν δ ι} {past : List (Event ε ι)} {event : Event ε ι}

theorem Had.mono {view : ν} (h : Had source first past view) :
    Had source first (past ++ [event]) view := by
  obtain ⟨earlier, state, hprefix, hrun, hview⟩ := h
  exact ⟨earlier, state, hprefix.trans (List.prefix_append past [event]), hrun,
    hview⟩

def Faithful (source : Source σ ε ν δ) (first : State σ ν δ ι)
    (past : List (Event ε ι)) (client : Client ν δ) : Prop :=
  ∀ received, received <+: client.inbox → ∀ view,
    received.foldl source.receive client.copy = some view →
      Had source first past view

theorem Faithful.mono {client : Client ν δ}
    (h : Faithful source first past client) :
    Faithful source first (past ++ [event]) client :=
  fun received hprefix view hview => (h received hprefix view hview).mono

theorem Faithful.send {client : Client ν δ} {message : Message ν δ}
    (h : Faithful source first past client)
    (hsettled : ∀ view,
      source.settled (client.send [message]) = some view →
        Had source first past view) :
    Faithful source first past (client.send [message]) := by
  intro received hprefix view hview
  rcases List.prefix_concat_iff.mp hprefix with rfl | hbefore
  · exact hsettled view hview
  · exact h received hbefore view hview

theorem Faithful.deliver {copy : Option ν} {message : Message ν δ}
    {inbox : List (Message ν δ)}
    (h : Faithful source first past ⟨copy, message :: inbox⟩) :
    Faithful source first past ⟨source.receive copy message, inbox⟩ :=
  fun received hprefix view hview =>
    h (message :: received) (List.cons_prefix_cons.mpr ⟨rfl, hprefix⟩) view
      hview

theorem answered_concat (client : ι) :
    answered client (past ++ [event]) =
      (answered client past || sends client event) := by
  simp [answered]

/-- What the source, the answers and the clients are after the events. -/
structure InStep (source : Source σ ε ν δ) (good : σ → Prop)
    (first : State σ ν δ ι) (past : List (Event ε ι))
    (state : State σ ν δ ι) : Prop where
  run : exec (step source) first past = some state
  good : good state.source
  answers : ∀ client view, state.answers client = some view →
    view = source.view state.source
  settled : ∀ client, source.settled (state.clients client) =
    if answered client past then some (source.view state.source) else none
  faithful : ∀ client, Faithful source first past (state.clients client)

variable {good : σ → Prop} {state next : State σ ν δ ι}

theorem had_now (h : exec (step source) first past = some state) :
    Had source first past (source.view state.source) :=
  ⟨past, state, List.prefix_refl past, h, rfl⟩

theorem run_concat (h : exec (step source) first past = some state)
    (hstep : step source state event = some next) :
    exec (step source) first (past ++ [event]) = some next :=
  exec_concat_eq_some.mpr ⟨state, h, hstep⟩

theorem settled_kept (h : InStep source good first past state)
    (hsource : next.source = state.source) {client : ι}
    (hsends : sends client event = false)
    (hsame : source.settled (next.clients client) =
      source.settled (state.clients client)) :
    source.settled (next.clients client) =
      if answered client (past ++ [event]) then
        some (source.view next.source) else none := by
  rw [hsame, h.settled client, answered_concat, hsends, Bool.or_false, hsource]

theorem inStep_send (h : InStep source good first past state) {asker : ι}
    (hstep : step source state event = some next)
    (hsource : next.source = state.source)
    (hsends : ∀ client, sends client event = decide (asker = client))
    (hclients : next.clients = Function.update state.clients asker
      ((state.clients asker).send [.all (source.view state.source)]))
    (hanswers : ∀ client view, next.answers client = some view →
      view = source.view state.source) :
    InStep source good first (past ++ [event]) next := by
  have hrun := run_concat h.run hstep
  have hnow := had_now hrun
  rw [hsource] at hnow
  have hsettled : source.settled ((state.clients asker).send
      [.all (source.view state.source)]) =
        some (source.view state.source) := settled_send source _ _
  refine ⟨hrun, hsource ▸ h.good, hsource ▸ hanswers, fun client => ?_,
    fun client => ?_⟩
  · by_cases hclient : client = asker
    · subst hclient
      rw [hclients, Function.update_self, hsettled, answered_concat,
        hsends client, hsource]
      simp
    · have hquiet : sends client event = false := by
        rw [hsends client]
        exact decide_eq_false (Ne.symm hclient)
      refine settled_kept h hsource hquiet ?_
      rw [hclients, Function.update_of_ne hclient]
  · rw [hclients]
    by_cases hclient : client = asker
    · subst hclient
      rw [Function.update_self]
      refine (h.faithful client).mono.send fun view hview => ?_
      rw [hsettled] at hview
      exact Option.some.inj hview ▸ hnow
    · rw [Function.update_of_ne hclient]
      exact (h.faithful client).mono

theorem inStep_work (hannounces : source.Announces good)
    (h : InStep source good first past state) {event : ε}
    (hguard : Undisturbed source state (.work event))
    (hstep : step source state (.work event) = some next) :
    InStep source good first (past ++ [.work event]) next := by
  have hrun := run_concat h.run hstep
  have hnow := had_now hrun
  obtain ⟨after, hafter, rfl⟩ := Option.map_eq_some_iff.mp hstep
  obtain ⟨hgood, added, hlog, hlength, hview⟩ :=
    hannounces state.source event after h.good hafter
  have hadded := added_eq source hlog
  have hsettled (client : ι) : source.settled ((state.clients client).send
      (source.added state.source after)) =
        if answered client (past ++ [.work event]) then
          some (source.view after) else none := by
    rw [settled_send, hadded, foldl_receive_change, h.settled client,
      answered_concat]
    cases answered client past with
    | false => rfl
    | true => simp [hview]
  refine ⟨hrun, hgood, fun client view hanswer => ?_, hsettled, fun client => ?_⟩
  · have hcurrent := h.answers client view hanswer
    rcases hguard after hafter with hsame | hnone
    · rw [hcurrent, hsame]
    · rw [hnone client] at hanswer
      contradiction
  · have hkept : Faithful source first (past ++ [.work event])
        (state.clients client) := (h.faithful client).mono
    have hlast := hsettled client
    cases added with
    | nil => simpa [hadded, Client.send] using hkept
    | cons delta deltas =>
        obtain rfl : deltas = [] := by simpa using hlength
        simp only [hadded, List.map_cons, List.map_nil] at hlast ⊢
        refine hkept.send fun view hview => ?_
        rw [hlast] at hview
        split at hview
        · exact Option.some.inj hview ▸ hnow
        · contradiction

theorem inStep_step (hannounces : source.Announces good)
    (h : InStep source good first past state)
    (hguard : Undisturbed source state event)
    (hstep : step source state event = some next) :
    InStep source good first (past ++ [event]) next := by
  cases event with
  | work event => exact inStep_work hannounces h hguard hstep
  | compute asker =>
      have hrun := run_concat h.run hstep
      simp only [step] at hstep
      split at hstep
      · contradiction
      · obtain rfl := Option.some.inj hstep
        refine ⟨hrun, h.good, fun client view hanswer => ?_, fun client => ?_,
          fun client => (h.faithful client).mono⟩
        · by_cases hclient : client = asker
          · subst hclient
            simp only [Function.update_self] at hanswer
            exact (Option.some.inj hanswer).symm
          · simp only [Function.update_of_ne hclient] at hanswer
            exact h.answers client view hanswer
        · exact settled_kept h rfl rfl rfl
  | reply asker =>
      have hanswer := hstep
      simp only [step, Option.map_eq_some_iff] at hanswer
      obtain ⟨view, hview, rfl⟩ := hanswer
      have hcurrent := h.answers asker view hview
      subst hcurrent
      refine inStep_send h hstep rfl (fun _ => rfl) rfl fun client other hother => ?_
      by_cases hclient : client = asker
      · subst hclient
        simp at hother
      · simp only [Function.update_of_ne hclient] at hother
        exact h.answers client other hother
  | answer asker =>
      have hnext := Option.some.inj hstep
      subst hnext
      exact inStep_send h hstep rfl (fun _ => rfl) rfl h.answers
  | deliver reader =>
      have hrun := run_concat h.run hstep
      simp only [step] at hstep
      split at hstep
      · contradiction
      case h_2 copy message inbox hreader =>
        obtain rfl := Option.some.inj hstep
        refine ⟨hrun, h.good, h.answers, fun client => ?_, fun client => ?_⟩
        · refine settled_kept h ?_ ?_ ?_
          · rfl
          · rfl
          · by_cases hclient : client = reader
            · subst hclient
              simp [Source.settled, hreader]
            · simp only [Function.update_of_ne hclient]
        · by_cases hclient : client = reader
          · subst hclient
            have hkept : Faithful source first (past ++ [.deliver client])
                (state.clients client) := (h.faithful client).mono
            rw [hreader] at hkept
            simpa using hkept.deliver
          · simp only [Function.update_of_ne hclient]
            exact (h.faithful client).mono

/--
Every client that has been answered has, when it has received all that is sent
to it, the view of the source; before that, a view that the source has had.
-/
theorem inStep_exec (hannounces : source.Announces good) {begin : σ}
    (hgood : good begin) {events : List (Event ε ι)}
    (hrun : exec (step source) (start begin) events = some state)
    (hguard : Meets (step source) (Undisturbed source) (start begin) events) :
    InStep source good (start begin) events state := by
  refine exec_history (InStep source good (start begin))
    (fun _ _ _ _ h hmeets hstep => inStep_step hannounces h hmeets hstep) ?_
    hrun hguard
  refine ⟨rfl, hgood, by simp [start], fun client => rfl, ?_⟩
  intro client received hprefix view hview
  have hnil : received = [] := List.prefix_nil.mp hprefix
  subst hnil
  contradiction

theorem undisturbed_of_answers {begin : σ} {events : List (Event ε ι)}
    (h : ∀ event ∈ events, ∀ client, event ≠ .compute client) :
    Meets (step source) (Undisturbed source) (start begin) events := by
  have hno : Meets (step source) (fun _ event => ∀ client,
      event ≠ .compute client) (start begin) events :=
    meets_of_forall_mem (fun event hmem _ => h event hmem) _
  refine Meets.of_invariant (fun state => ∀ client, state.answers client = none)
    ?_ ?_ (fun _ => rfl) hno
  · intro state event next hnone hguard hstep client
    cases event with
    | work event =>
        obtain ⟨after, -, rfl⟩ := Option.map_eq_some_iff.mp hstep
        exact hnone client
    | compute asker => exact absurd rfl (hguard asker)
    | reply asker => simp [step, hnone asker] at hstep
    | answer asker =>
        obtain rfl := Option.some.inj hstep
        exact hnone client
    | deliver reader =>
        simp only [step] at hstep
        split at hstep
        · contradiction
        · obtain rfl := Option.some.inj hstep
          exact hnone client
  · intro state event hnone _
    cases event with
    | work event => exact fun _ _ => .inr hnone
    | _ => trivial

theorem delivered (source : Source σ ε ν δ) (state : State σ ν δ ι)
    (client : ι) :
    ∃ next, exec (step source) state (List.replicate
        (state.clients client).inbox.length (.deliver client)) = some next ∧
      (next.clients client).copy = source.settled (state.clients client) ∧
      (next.clients client).inbox = [] ∧ next.source = state.source := by
  generalize hinbox : (state.clients client).inbox = inbox
  induction inbox generalizing state with
  | nil => exact ⟨state, rfl, by simp [Source.settled, hinbox], hinbox, rfl⟩
  | cons message inbox ih =>
      have hclient : state.clients client =
          ⟨(state.clients client).copy, message :: inbox⟩ := by
        rw [← hinbox]
      have hstep : step source state (.deliver client) = some { state with
          clients := Function.update state.clients client
            ⟨source.receive (state.clients client).copy message, inbox⟩ } := by
        simp only [step]
        rw [hclient]
      obtain ⟨next, hrun, hcopy, hempty, hsource⟩ := ih { state with
          clients := Function.update state.clients client
            ⟨source.receive (state.clients client).copy message, inbox⟩ }
        (by simp)
      refine ⟨next, exec_cons_eq_some.mpr ⟨_, hstep, hrun⟩, ?_, hempty, hsource⟩
      rw [hcopy, hclient]
      simp [Source.settled]

end Copies

end Publication
