import Mathlib.Data.List.Infix

/-!
# Scripts of questions

A script either has its result or asks a question and goes on with the answer.
What a program that is made of callbacks asks, one question at a time, is
compared with a script: the questions so far are those of the script, and it
waits for the answer to the last one, or has come to the result.
-/

inductive Script (α ρ β : Type) where
  | done (result : β)
  | ask (question : α) (next : ρ → Script α ρ β)

namespace Script

variable {α ρ β : Type}

def after : Script α ρ β → List ρ → Script α ρ β
  | done result, _ => done result
  | ask question next, [] => ask question next
  | ask _ next, answer :: answers => (next answer).after answers

def asked : Script α ρ β → List ρ → List α
  | done _, _ => []
  | ask question _, [] => [question]
  | ask question next, answer :: answers =>
      question :: (next answer).asked answers

@[simp] theorem after_nil (script : Script α ρ β) : script.after [] = script := by
  cases script <;> rfl

theorem after_concat {script : Script α ρ β} {answers : List ρ} {question : α}
    {next : ρ → Script α ρ β} (h : script.after answers = ask question next)
    (answer : ρ) : script.after (answers ++ [answer]) = next answer := by
  induction answers generalizing script with
  | nil =>
      rw [after_nil] at h
      subst h
      exact after_nil _
  | cons first answers ih =>
      cases script with
      | done result => cases h
      | ask question' next' => exact ih h

theorem asked_concat {script : Script α ρ β} {answers : List ρ} {question : α}
    {next : ρ → Script α ρ β} (h : script.after answers = ask question next)
    (answer : ρ) :
    script.asked (answers ++ [answer]) =
      script.asked answers ++ (next answer).asked [] := by
  induction answers generalizing script with
  | nil =>
      rw [after_nil] at h
      subst h
      rfl
  | cons first answers ih =>
      cases script with
      | done result => cases h
      | ask question' next' =>
          simp only [List.cons_append, asked]
          rw [ih h]

structure Waits (script : Script α ρ β) (answers : List ρ) (questions : List α)
    (next : ρ → Script α ρ β) : Prop where
  left : ∃ question, script.after answers = ask question next
  questions : questions = script.asked answers

structure Ends (script : Script α ρ β) (answers : List ρ) (questions : List α)
    (result : β) : Prop where
  left : script.after answers = done result
  questions : questions = script.asked answers

variable {script : Script α ρ β} {answers : List ρ} {questions : List α}
  {next : ρ → Script α ρ β}

theorem waits_start (question : α) (next : ρ → Script α ρ β) :
    (ask question next).Waits [] [question] next :=
  ⟨⟨question, rfl⟩, rfl⟩

theorem ends_start (result : β) :
    (done result : Script α ρ β).Ends [] [] result :=
  ⟨rfl, rfl⟩

theorem Waits.go_on (h : script.Waits answers questions next) {answer : ρ}
    {question : α} {next' : ρ → Script α ρ β}
    (hnext : next answer = ask question next') :
    script.Waits (answers ++ [answer]) (questions ++ [question]) next' := by
  obtain ⟨last, hleft⟩ := h.left
  refine ⟨⟨question, ?_⟩, ?_⟩
  · rw [after_concat hleft, hnext]
  · rw [asked_concat hleft, hnext, h.questions]
    rfl

theorem Waits.finish (h : script.Waits answers questions next) {answer : ρ}
    {result : β} (hnext : next answer = done result) :
    script.Ends (answers ++ [answer]) questions result := by
  obtain ⟨last, hleft⟩ := h.left
  refine ⟨?_, ?_⟩
  · rw [after_concat hleft, hnext]
  · rw [asked_concat hleft, hnext, h.questions]
    exact (List.append_nil _).symm

theorem Waits.isPrefix (h : script.Waits answers questions next) :
    questions <+: script.asked answers := by
  rw [h.questions]

theorem Ends.isPrefix {result : β} (h : script.Ends answers questions result) :
    questions <+: script.asked answers := by
  rw [h.questions]

theorem Waits.not_ends (h : script.Waits answers questions next)
    {questions' : List α} {result : β} :
    ¬ script.Ends answers questions' result := by
  intro hends
  obtain ⟨question, hleft⟩ := h.left
  rw [hends.left] at hleft
  cases hleft

end Script
