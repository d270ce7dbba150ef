import DleynaRenderer.Foundation.CString
import Mathlib.Data.List.Chain
import Mathlib.Data.List.Sort
import Mathlib.Logic.Relation

/-!
# Merge sort with any comparison

What a merge sort makes of a list when the comparison need not be an order.
Neighbours in the result do not compare as greater, so that whatever follows in
it can be reached by such steps; and wherever one element can be reached from
another, some list is sorted into one that has them in this order.
-/

namespace CString

open Relation

variable {α : Type*} {compare : α → α → Int}

def NotAbove (compare : α → α → Int) (a b : α) : Prop := compare a b ≤ 0

/-- What is greater one way round is not greater the other way. -/
def Oriented (compare : α → α → Int) : Prop :=
  ∀ a b, 0 < compare a b → NotAbove compare b a

theorem merge_cons (x y : α) (xs ys : List α) :
    merge compare (x :: xs) (y :: ys) =
      if compare x y ≤ 0 then x :: merge compare xs (y :: ys)
      else y :: merge compare (x :: xs) ys := rfl

theorem merge_nil (xs : List α) : merge compare xs [] = xs := by
  induction xs with
  | nil => rfl
  | cons x xs ih =>
      change x :: merge compare xs [] = x :: xs
      rw [ih]

theorem isChain_cons_merge (horiented : Oriented compare) {z : α}
    {xs ys : List α} (hxs : (z :: xs).IsChain (NotAbove compare))
    (hys : (z :: ys).IsChain (NotAbove compare)) :
    (z :: merge compare xs ys).IsChain (NotAbove compare) := by
  induction xs generalizing z ys with
  | nil => exact hys
  | cons x xs ih =>
      induction ys generalizing z with
      | nil =>
          rw [merge_nil]
          exact hxs
      | cons y ys ih' =>
          rw [List.isChain_cons_cons] at hxs hys
          rw [merge_cons]
          split
          case isTrue hle =>
            have hrest : (x :: y :: ys).IsChain (NotAbove compare) :=
              List.isChain_cons_cons.mpr ⟨hle, hys.2⟩
            exact List.isChain_cons_cons.mpr ⟨hxs.1, ih hxs.2 hrest⟩
          case isFalse hgt =>
            have hrest : (y :: x :: xs).IsChain (NotAbove compare) :=
              List.isChain_cons_cons.mpr
                ⟨horiented x y (not_le.mp hgt), hxs.2⟩
            exact List.isChain_cons_cons.mpr ⟨hys.1, ih' hrest hys.2⟩

theorem isChain_merge (horiented : Oriented compare) {xs ys : List α}
    (hxs : xs.IsChain (NotAbove compare))
    (hys : ys.IsChain (NotAbove compare)) :
    (merge compare xs ys).IsChain (NotAbove compare) := by
  cases xs with
  | nil => exact hys
  | cons x xs =>
      cases ys with
      | nil =>
          rw [merge_nil]
          exact hxs
      | cons y ys =>
          rw [merge_cons]
          split
          case isTrue hle =>
            exact isChain_cons_merge horiented hxs
              (List.isChain_cons_cons.mpr ⟨hle, hys⟩)
          case isFalse hgt =>
            exact isChain_cons_merge horiented
              (List.isChain_cons_cons.mpr
                ⟨horiented x y (not_le.mp hgt), hxs⟩) hys

theorem isChain_mergeSort (horiented : Oriented compare) {fuel : Nat}
    {xs : List α} (hfuel : xs.length ≤ fuel) :
    (mergeSort compare fuel xs).IsChain (NotAbove compare) := by
  induction fuel generalizing xs with
  | zero =>
      obtain rfl := List.length_eq_zero_iff.mp (Nat.le_zero.mp hfuel)
      exact .nil
  | succ fuel ih =>
      rw [mergeSort]
      split
      case isTrue hshort =>
        cases xs with
        | nil => exact .nil
        | cons x rest =>
            cases rest with
            | nil => exact .singleton x
            | cons y rest => simp at hshort
      case isFalse hlong =>
        have hfirst := List.length_take_le (xs.length / 2) xs
        have hsecond := List.length_drop (i := xs.length / 2) (l := xs)
        exact isChain_merge horiented (ih (by omega)) (ih (by omega))

variable {pool : Set α}

def Leads (compare : α → α → Int) (pool : Set α) (a b : α) : Prop :=
  a ∈ pool ∧ b ∈ pool ∧ NotAbove compare a b

/-- Whatever follows in the sorted list is reached from what it follows. -/
theorem pairwise_gListSort (horiented : Oriented compare) {xs : List α}
    (hpool : ∀ x ∈ xs, x ∈ pool) :
    (gListSort compare xs).Pairwise (TransGen (Leads compare pool)) := by
  have hmem {x : α} (h : x ∈ gListSort compare xs) : x ∈ pool :=
    hpool x ((gListSort_perm xs).mem_iff.mp h)
  have hchain : (gListSort compare xs).IsChain (NotAbove compare) :=
    isChain_mergeSort horiented le_rfl
  have hleads : (gListSort compare xs).IsChain (TransGen (Leads compare pool)) :=
    hchain.imp_of_mem_imp fun a b ha hb hle =>
      .single ⟨hmem ha, hmem hb, hle⟩
  exact hleads.pairwise

/-- No way through the pool leads from one of these elements to a lesser one. -/
def OrderKept (compare : α → α → Int) (pool : Set α) (valid : α → Bool)
    (ordered : α → α → Prop) : Prop :=
  ∀ a b, valid a = true → valid b = true →
    TransGen (Leads compare pool) a b → ordered a b

variable {valid : α → Bool} {ordered : α → α → Prop}

theorem OrderKept.pairwise (h : OrderKept compare pool valid ordered)
    (horiented : Oriented compare) {xs : List α} (hpool : ∀ x ∈ xs, x ∈ pool) :
    ((gListSort compare xs).filter valid).Pairwise ordered := by
  have hreached := (pairwise_gListSort horiented hpool).filter valid
  refine hreached.imp_of_mem fun ha hb hleads => ?_
  exact h _ _ (List.mem_filter.mp ha).2 (List.mem_filter.mp hb).2 hleads

end CString
