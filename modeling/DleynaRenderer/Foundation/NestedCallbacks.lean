import Mathlib.Data.List.Basic

/-!
# Nested callbacks

Callbacks wait in a queue and start in the order of their arrival.  One that
runs the main loop in its middle waits on a stack while others start and end,
so an older callback can end after a newer one.  Each callback may carry a
value of some field; `Tracks` says that the latest value received is either
still to come or has been put into effect.
-/

namespace NestedCallbacks

variable {α β : Type*}

/-- The innermost call is first; `none` is a call that no callback has made. -/
structure Callbacks (α : Type*) where
  queue : List α
  waiting : List (Option α)
  deriving DecidableEq

/-- A move with the callback that ends in it. -/
inductive Moves : Callbacks α → Option α → Callbacks α → Prop where
  | stay (c : Callbacks α) : Moves c none c
  | call (queue : List α) (waiting : List (Option α)) :
      Moves ⟨queue, waiting⟩ none ⟨queue, none :: waiting⟩
  | start (x : α) (queue : List α) (waiting : List (Option α)) :
      Moves ⟨x :: queue, waiting⟩ none ⟨queue, some x :: waiting⟩
  | run (x : α) (queue : List α) (waiting : List (Option α)) :
      Moves ⟨x :: queue, waiting⟩ (some x) ⟨queue, waiting⟩
  | leave (ended : Option α) (queue : List α) (waiting : List (Option α)) :
      Moves ⟨queue, ended :: waiting⟩ ended ⟨queue, waiting⟩

/--
The latest value received, and how many of the outermost calls wait for a value
that is older than one of a callback that has ended.
-/
structure Track (β : Type*) where
  latest : Option β
  stale : Nat
  deriving DecidableEq

namespace Track

def new : Track β := ⟨none, 0⟩

def receive (field : α → Option β) (x : α) (track : Track β) : Track β :=
  { track with latest := (field x).or track.latest }

/-- `depth` is the number of calls that wait after the move. -/
def advance (field : α → Option β) (ended : Option α) (depth : Nat)
    (track : Track β) : Track β :=
  { track with
    stale := if (ended.bind field).isSome then depth
      else min track.stale depth }

end Track

/-- The value of the newest callback that is still to end and is not stale. -/
def upcoming (field : α → Option β) (stale : Nat) (c : Callbacks α) :
    Option β :=
  (c.queue.reverse.findSome? field).or
    ((c.waiting.take (c.waiting.length - stale)).findSome? fun trigger =>
      trigger.bind field)

def Superseded (stale : Nat) (c next : Callbacks α) : Prop :=
  next.waiting.length < c.waiting.length ∧ c.waiting.length ≤ stale

/-- The latest value is still to come or has been put into effect. -/
structure Tracks (field : α → Option β) (effective : β → Prop)
    (c : Callbacks α) (track : Track β) : Prop where
  stale_le : track.stale ≤ c.waiting.length
  latest : ∀ value, track.latest = some value →
    upcoming field track.stale c = some value ∨
      upcoming field track.stale c = none ∧ effective value

variable {field : α → Option β} {effective : β → Prop} {c next : Callbacks α}
  {track : Track β} {ended : Option α}

theorem tracks_new : Tracks field effective ⟨[], []⟩ (Track.new : Track β) where
  stale_le := Nat.le_refl _
  latest := by simp [Track.new]

theorem Tracks.receive (h : Tracks field effective c track) (x : α) :
    Tracks field effective ⟨c.queue ++ [x], c.waiting⟩
      (track.receive field x) where
  stale_le := h.stale_le
  latest := by
    have hupcoming : upcoming field track.stale ⟨c.queue ++ [x], c.waiting⟩ =
        (field x).or (upcoming field track.stale c) := by
      cases hvalue : field x <;> simp [upcoming, hvalue]
    intro value hlatest
    simp only [Track.receive] at hlatest ⊢
    rw [hupcoming]
    cases hvalue : field x with
    | none => simpa using h.latest value (by simpa [hvalue] using hlatest)
    | some received =>
        left
        simpa [hvalue] using hlatest

theorem upcoming_of_settled {stale : Nat} (hqueue : c.queue = [])
    (hwaiting : ∀ trigger ∈ c.waiting, trigger = none) :
    upcoming field stale c = none := by
  have hcalls : (c.waiting.take (c.waiting.length - stale)).findSome?
      (fun trigger => trigger.bind field) = none := by
    refine List.findSome?_eq_none_iff.mpr fun trigger hmem => ?_
    simp [hwaiting trigger (List.mem_of_mem_take hmem)]
  simp [upcoming, hqueue, hcalls]

theorem Tracks.effective_of_settled (h : Tracks field effective c track)
    (hqueue : c.queue = []) (hwaiting : ∀ trigger ∈ c.waiting, trigger = none)
    {value : β} (hlatest : track.latest = some value) : effective value := by
  have hnone : upcoming field track.stale c = none :=
    upcoming_of_settled hqueue hwaiting
  rcases h.latest value hlatest with hsome | ⟨-, heffective⟩
  · rw [hnone] at hsome
    contradiction
  · exact heffective

theorem upcoming_cons {queue : List α} {waiting : List (Option α)} {stale : Nat}
    (hfresh : stale ≤ waiting.length) (trigger : Option α) :
    upcoming field stale ⟨queue, trigger :: waiting⟩ =
      (queue.reverse.findSome? field).or
        ((trigger.bind field).or
          ((waiting.take (waiting.length - stale)).findSome? fun trigger =>
            trigger.bind field)) := by
  have hdepth : waiting.length + 1 - stale = (waiting.length - stale) + 1 := by
    omega
  unfold upcoming
  rw [List.length_cons, hdepth, List.take_succ_cons, List.findSome?_cons]
  cases trigger.bind field <;> rfl

theorem upcoming_cons_of_stale {queue : List α} {waiting : List (Option α)}
    {stale : Nat} (hstale : ¬stale ≤ waiting.length) (trigger : Option α) :
    upcoming field stale ⟨queue, trigger :: waiting⟩ =
      queue.reverse.findSome? field := by
  have hnone : waiting.length + 1 - stale = 0 := by omega
  unfold upcoming
  rw [List.length_cons, hnone, List.take_zero, List.findSome?_nil, Option.or_none]

/-- What is to come changes only when its own callback ends. -/
theorem upcoming_advance (field : α → Option β) (hmove : Moves c ended next)
    (hstale : track.stale ≤ c.waiting.length) :
    upcoming field (track.advance field ended next.waiting.length).stale next =
        upcoming field track.stale c ∨
      ∃ x value, ended = some x ∧ field x = some value ∧
        ¬ Superseded track.stale c next ∧
        upcoming field track.stale c = some value ∧
        upcoming field (track.advance field ended next.waiting.length).stale
          next = none := by
  cases hmove with
  | stay => exact .inl (by simp [Track.advance, Nat.min_eq_left hstale])
  | call queue waiting =>
      have hmin := Nat.min_eq_left (Nat.le_succ_of_le hstale)
      left
      simp only [Track.advance, Option.bind_none, Option.isSome_none,
        Bool.false_eq_true, if_false, List.length_cons, hmin,
        upcoming_cons hstale, Option.none_or]
      rfl
  | start x queue waiting =>
      have hmin := Nat.min_eq_left (Nat.le_succ_of_le hstale)
      left
      simp only [Track.advance, Option.bind_none, Option.isSome_none,
        Bool.false_eq_true, if_false, List.length_cons, hmin,
        upcoming_cons hstale]
      cases hvalue : field x <;> simp [upcoming, hvalue]
  | run x queue waiting =>
      cases hvalue : field x with
      | none =>
          have hmin : min track.stale waiting.length = track.stale :=
            Nat.min_eq_left hstale
          exact .inl (by simp [Track.advance, upcoming, hvalue, hmin])
      | some value =>
          cases hnewer : queue.reverse.findSome? field with
          | some later =>
              exact .inl (by simp [Track.advance, upcoming, hvalue, hnewer])
          | none =>
              refine .inr ⟨x, value, rfl, hvalue, ?_, ?_, ?_⟩
              · simp [Superseded]
              · simp [upcoming, hvalue, hnewer]
              · simp [Track.advance, upcoming, hvalue, hnewer]
  | leave ended queue waiting =>
      cases hvalue : ended.bind field with
      | none =>
          left
          by_cases hfresh : track.stale ≤ waiting.length
          · rw [upcoming_cons hfresh]
            simp [Track.advance, upcoming, hvalue, Nat.min_eq_left hfresh]
          · have hmin := Nat.min_eq_right (Nat.le_of_not_le hfresh)
            rw [upcoming_cons_of_stale hfresh]
            simp [Track.advance, upcoming, hvalue, hmin]
      | some value =>
          obtain ⟨x, rfl, hx⟩ := Option.bind_eq_some_iff.mp hvalue
          by_cases hfresh : track.stale ≤ waiting.length
          · rw [upcoming_cons hfresh]
            cases hnewer : queue.reverse.findSome? field with
            | some later =>
                exact .inl (by simp [Track.advance, upcoming, hx, hnewer])
            | none =>
                refine .inr ⟨x, value, rfl, hx, ?_, ?_, ?_⟩
                · simp only [Superseded, List.length_cons, not_and]
                  omega
                · simp [hx]
                · simp [Track.advance, upcoming, hx, hnewer]
          · left
            rw [upcoming_cons_of_stale hfresh]
            simp [Track.advance, upcoming, hx]

theorem upcoming_ne_none_of_ends {x : α} {value : β}
    (hmove : Moves c (some x) next) (hvalue : field x = some value)
    {stale : Nat} (hfresh : ¬ Superseded stale c next) :
    upcoming field stale c ≠ none := by
  cases hmove with
  | run _ queue waiting => simp [upcoming, hvalue]
  | leave _ queue waiting =>
      have hdepth : waiting.length + 1 - stale =
          (waiting.length - stale) + 1 := by
        simp only [Superseded, List.length_cons, not_and] at hfresh
        omega
      simp [upcoming, hvalue, hdepth]

/-- What a move has to do about the value that it puts into effect, and about
the one that is in effect. -/
theorem Tracks.advance {effective' : β → Prop}
    (h : Tracks field effective c track) (hmove : Moves c ended next)
    (hends : ∀ x value, ended = some x → field x = some value →
      ¬ Superseded track.stale c next → effective' value)
    (hkeeps : ∀ value, track.latest = some value →
      upcoming field track.stale c = none →
      (∀ x ending, ended = some x → field x = some ending →
        Superseded track.stale c next) →
      effective value → effective' value) :
    Tracks field effective' next
      (track.advance field ended next.waiting.length) where
  stale_le := by
    simp only [Track.advance]
    split
    · exact Nat.le_refl _
    · exact Nat.min_le_right _ _
  latest := by
    intro value hlatest
    have hold := h.latest value hlatest
    rcases upcoming_advance field hmove h.stale_le with
      hsame | ⟨x, ending, rfl, hx, hfresh, hupcoming, hnone⟩
    · rw [hsame]
      refine hold.imp id fun ⟨hnone, heffective⟩ =>
        ⟨hnone, hkeeps value hlatest hnone ?_ heffective⟩
      rintro x ending rfl hx
      by_contra hfresh
      exact upcoming_ne_none_of_ends hmove hx hfresh hnone
    · rcases hold with hsome | ⟨hnothing, -⟩
      · obtain rfl : ending = value := by
          rw [hupcoming] at hsome
          exact Option.some.inj hsome
        exact .inr ⟨hnone, hends x ending rfl hx hfresh⟩
      · rw [hnothing] at hupcoming
        contradiction

end NestedCallbacks
