import DleynaRenderer.Foundation.CString
import DleynaRenderer.Foundation.Url
import Mathlib.Tactic.IntervalCases

/-!
# Texts made of named fields

A field is a name, an equals sign and a value; fields are parted by semicolons.
Numbers in a value are hexadecimal, with zeros in front up to a width.
-/

namespace Fields

open CString

/-- `printf` with `%.wx`, for a width of at least one. -/
def formatHex (width n : Nat) : List Char :=
  let digits := Nat.toDigits 16 n
  List.replicate (width - digits.length) '0' ++ digits

def ofHex (s : List Char) : Nat :=
  s.foldl (fun n c => 16 * n + hexValue c) 0

theorem ofHex_concat (s : List Char) (c : Char) :
    ofHex (s ++ [c]) = 16 * ofHex s + hexValue c := by
  simp [ofHex]

theorem hexValue_digitChar {d : Nat} (h : d < 16) :
    hexValue (Nat.digitChar d) = d := by
  interval_cases d <;> rfl

theorem isxdigit_digitChar {d : Nat} (h : d < 16) :
    isxdigit (Nat.digitChar d) = true := by
  interval_cases d <;> rfl

theorem ofHex_toDigits (n : Nat) : ofHex (Nat.toDigits 16 n) = n := by
  induction n using Nat.strongRecOn with
  | ind n ih =>
      by_cases hsmall : n < 16
      · rw [Nat.toDigits_of_lt_base hsmall]
        simpa [ofHex] using hexValue_digitChar hsmall
      · have hdiv : n / 16 < n := Nat.div_lt_self (by omega) (by decide)
        rw [Nat.toDigits_of_base_le (by decide) (by omega), ofHex_concat,
          ih (n / 16) hdiv, hexValue_digitChar (Nat.mod_lt n (by decide))]
        omega

theorem isxdigit_of_mem_toDigits {n : Nat} {c : Char}
    (h : c ∈ Nat.toDigits 16 n) : isxdigit c = true := by
  induction n using Nat.strongRecOn with
  | ind n ih =>
      by_cases hsmall : n < 16
      · rw [Nat.toDigits_of_lt_base hsmall, List.mem_singleton] at h
        exact h ▸ isxdigit_digitChar hsmall
      · rw [Nat.toDigits_of_base_le (by decide) (by omega)] at h
        rcases List.mem_append.mp h with hfront | hlast
        · exact ih (n / 16) (Nat.div_lt_self (by omega) (by decide)) hfront
        · rw [List.mem_singleton] at hlast
          exact hlast ▸ isxdigit_digitChar (Nat.mod_lt n (by decide))

@[simp] theorem ofHex_formatHex (width n : Nat) :
    ofHex (formatHex width n) = n := by
  have hzeros (k : Nat) (s : List Char) :
      ofHex (List.replicate k '0' ++ s) = ofHex s := by
    induction k with
    | zero => rfl
    | succ k ih => exact ih
  unfold formatHex
  rw [hzeros, ofHex_toDigits]

theorem length_formatHex {width n : Nat} (hwidth : 0 < width)
    (h : n < 16 ^ width) : (formatHex width n).length = width := by
  have hle := (Nat.length_toDigits_le_iff (by decide) hwidth).mpr h
  simp only [formatHex, List.length_append, List.length_replicate]
  omega

theorem isxdigit_of_mem_formatHex {width n : Nat} {c : Char}
    (h : c ∈ formatHex width n) : isxdigit c = true := by
  rcases List.mem_append.mp h with hzero | hdigit
  · exact (List.mem_replicate.mp hzero).2 ▸ rfl
  · exact isxdigit_of_mem_toDigits hdigit

structure Field where
  name : List Char
  value : List Char
  deriving DecidableEq, Repr

def printField (field : Field) : List Char := field.name ++ '=' :: field.value

def readField (s : List Char) : Field :=
  ⟨s.takeWhile (· ≠ '='), (s.dropWhile (· ≠ '=')).drop 1⟩

/-- Empty pieces, as behind a last semicolon, are no fields. -/
def readFields (s : List Char) : List Field :=
  ((gStrsplit s ';').filter (· ≠ [])).map readField

def Plain (field : Field) : Prop :=
  '=' ∉ field.name ∧ ';' ∉ field.name ∧ ';' ∉ field.value

instance (field : Field) : Decidable (Plain field) :=
  inferInstanceAs (Decidable (_ ∧ _))

theorem readField_printField {field : Field} (h : '=' ∉ field.name) :
    readField (printField field) = field := by
  have hname : ∀ c ∈ field.name, decide (c ≠ '=') = true := by
    intro c hmem
    refine decide_eq_true fun heq => h ?_
    exact heq ▸ hmem
  unfold readField printField
  rw [List.takeWhile_append_of_pos hname, List.dropWhile_append_of_pos hname]
  simp

theorem not_mem_printField {field : Field} (h : Plain field) :
    ';' ∉ printField field := by
  simp [printField, h.2.1, h.2.2]

theorem printField_ne_nil (field : Field) : printField field ≠ [] := by
  simp [printField]

@[simp] theorem readFields_nil : readFields [] = [] := rfl

theorem readFields_printField {field : Field} (h : Plain field) :
    readFields (printField field) = [field] := by
  unfold readFields gStrsplit
  rw [if_neg (printField_ne_nil field),
    List.splitOn_eq_singleton (not_mem_printField h),
    List.filter_cons_of_pos (by simpa using printField_ne_nil field)]
  simp [readField_printField h.1]

theorem readFields_cons {field : Field} (h : Plain field) (rest : List Char) :
    readFields (printField field ++ ';' :: rest) = field :: readFields rest := by
  have hsplit : (rest.splitOn ';').filter (· ≠ []) =
      (gStrsplit rest ';').filter (· ≠ []) := by
    unfold gStrsplit
    split
    case isTrue hempty => simp [hempty]
    case isFalse => rfl
  unfold readFields
  rw [gStrsplit, if_neg (by simp),
    List.splitOn_append_cons_self_of_not_mem (not_mem_printField h),
    List.filter_cons_of_pos (by simpa using printField_ne_nil field),
    List.map_cons, readField_printField h.1, hsplit]

end Fields
