import DleynaRenderer.Foundation.BinaryFloat

/-!
# C strings

The library routines the code calls on its strings, on lists of characters,
and on lists of them.  A `long` has 64 bits and an `int` has 32; a `double` is
taken as the exact rational it stands for, a `float` is rounded.
-/

namespace CString

/-- `strrchr`: the end of the string that starts at the last `c`. -/
def strrchr (s : List Char) (c : Char) : Option (List Char) :=
  if c ∈ s then some (c :: (s.reverse.takeWhile (· ≠ c)).reverse) else none

/-- `strstr`: the end of the string that starts at the first occurrence. -/
def strstr (needle : List Char) : List Char → Option (List Char)
  | [] => if needle = [] then some [] else none
  | c :: s => if needle.isPrefixOf (c :: s) then some (c :: s) else strstr needle s

/-- `g_strrstr`: the end of the string that starts at the last occurrence. -/
def gStrrstr (needle : List Char) : List Char → Option (List Char)
  | [] => if needle = [] then some [] else none
  | c :: s =>
      match gStrrstr needle s with
      | some rest => some rest
      | none => if needle.isPrefixOf (c :: s) then some (c :: s) else none

theorem gStrrstr_eq_none {needle s : List Char} :
    gStrrstr needle s = none ↔ ¬needle <:+: s := by
  induction s with
  | nil =>
      rw [gStrrstr, List.infix_nil]
      by_cases hneedle : needle = []
      · simp [hneedle]
      · simp [hneedle]
  | cons c s ih =>
      rw [gStrrstr, List.infix_cons_iff, not_or]
      cases hrest : gStrrstr needle s with
      | some rest =>
          have hoccurs : needle <:+: s := by
            by_contra hnot
            rw [ih.mpr hnot] at hrest
            contradiction
          simp [hoccurs]
      | none =>
          simp [ih.mp hrest]

theorem gStrrstr_eq_some {c : Char} {needle s rest : List Char} :
    gStrrstr (c :: needle) s = some rest ↔
      ∃ before tail, s = before ++ rest ∧ rest = c :: tail ∧ needle <+: tail ∧
        ¬(c :: needle) <:+: tail := by
  induction s with
  | nil =>
      constructor
      · simp [gStrrstr]
      · rintro ⟨before, tail, heq, rfl, -⟩
        simp at heq
  | cons d s ih =>
      rw [gStrrstr]
      constructor
      · intro h
        cases hrest : gStrrstr (c :: needle) s with
        | some rest' =>
            simp only [hrest] at h
            obtain rfl := Option.some.inj h
            obtain ⟨before, tail, rfl, hspec⟩ := ih.mp hrest
            exact ⟨d :: before, tail, rfl, hspec⟩
        | none =>
            simp only [hrest, Option.ite_none_right_eq_some,
              List.isPrefixOf_iff_prefix] at h
            obtain ⟨hstarts, hvalue⟩ := h
            obtain rfl := Option.some.inj hvalue
            obtain ⟨rfl, htail⟩ := List.cons_prefix_cons.mp hstarts
            exact ⟨[], s, rfl, rfl, htail, gStrrstr_eq_none.mp hrest⟩
      · rintro ⟨before, tail, heq, rfl, hstarts, hlast⟩
        cases before with
        | nil =>
            obtain ⟨rfl, rfl⟩ := List.cons.inj heq
            simp [gStrrstr_eq_none.mpr hlast, hstarts]
        | cons e before =>
            obtain ⟨rfl, rfl⟩ := List.cons.inj heq
            rw [ih.mpr ⟨before, tail, rfl, rfl, hstarts, hlast⟩]

/-- `g_strsplit` at one character; the empty string has no pieces. -/
def gStrsplit (s : List Char) (c : Char) : List (List Char) :=
  if s = [] then [] else s.splitOn c

def isspace (c : Char) : Bool :=
  c = ' ' || (9 ≤ c.toNat && c.toNat ≤ 13)

/-- `g_ascii_isspace` leaves out the vertical tab. -/
def gAsciiIsspace (c : Char) : Bool := isspace c && c.toNat ≠ 11

def gStrchug (s : List Char) : List Char := s.dropWhile gAsciiIsspace

def gStrchomp (s : List Char) : List Char :=
  (s.reverse.dropWhile gAsciiIsspace).reverse

def gStrstrip (s : List Char) : List Char := gStrchomp (gStrchug s)

/-- `printf` with `%d` of an unsigned 32-bit value. -/
def formatInt (n : Nat) : String := toString (Int.bmod n (2 ^ 32))

theorem isdigit_of_mem_repr {n : Nat} {c : Char} (h : c ∈ n.repr.toList) :
    c.isDigit = true := by
  rw [Nat.toList_repr] at h
  exact Nat.isDigit_of_mem_toDigits (by decide) (by decide) h

theorem repr_injective {m n : Nat} (h : m.repr.toList = n.repr.toList) :
    m = n := by
  have hparsed := congrArg (fun digits => Nat.ofDigitChars 10 digits 0) h
  simpa [Nat.toList_repr, Nat.ofDigitChars_ten_toDigits] using hparsed

theorem minus_repr_ne {m n : Nat} : '-' :: m.repr.toList ≠ n.repr.toList := by
  intro h
  have hmem : '-' ∈ n.repr.toList := h ▸ List.mem_cons_self
  have hdigit := isdigit_of_mem_repr hmem
  contradiction

theorem toString_injective {m n : Int}
    (h : (toString m).toList = (toString n).toList) : m = n := by
  rw [Int.toString_eq_repr, Int.toString_eq_repr] at h
  cases m with
  | ofNat m =>
      cases n with
      | ofNat n => exact congrArg Int.ofNat (repr_injective h)
      | negSucc n =>
          simp only [Int.repr, String.toList_append] at h
          exact absurd h.symm minus_repr_ne
  | negSucc m =>
      cases n with
      | ofNat n =>
          simp only [Int.repr, String.toList_append] at h
          exact absurd h minus_repr_ne
      | negSucc n =>
          simp only [Int.repr, String.toList_append] at h
          have hdigits := List.append_cancel_left h
          rw [Nat.succ_injective (repr_injective hdigits)]

theorem dot_not_mem_toString (n : Int) : '.' ∉ (toString n).toList := by
  rw [Int.toString_eq_repr]
  intro hdot
  have hrepr {m : Nat} : '.' ∉ m.repr.toList := by
    intro hmem
    have hdigit := isdigit_of_mem_repr hmem
    contradiction
  cases n with
  | ofNat n => exact hrepr hdot
  | negSucc n =>
      simp only [Int.repr, String.toList_append, List.mem_append] at hdot
      rcases hdot with hminus | hdigits
      · simp at hminus
      · exact hrepr hdigits

theorem formatInt_injective {m n : Nat} (hm : m < 2 ^ 32) (hn : n < 2 ^ 32)
    (h : (formatInt m).toList = (formatInt n).toList) : m = n := by
  have hbmod : Int.bmod m (2 ^ 32) = Int.bmod n (2 ^ 32) := toString_injective h
  have hmod : (m : Int) % (2 ^ 32 : Nat) = n % (2 ^ 32 : Nat) := by
    rw [← Int.bmod_emod, hbmod, Int.bmod_emod]
  omega

def isdigit (c : Char) : Bool := 48 ≤ c.toNat && c.toNat ≤ 57

def ofDigits (s : List Char) : Nat :=
  s.foldl (fun n c => 10 * n + (c.toNat - 48)) 0

def takeSign : List Char → Bool × List Char
  | '-' :: s => (true, s)
  | '+' :: s => (false, s)
  | s => (false, s)

/-- `strtol` in base ten stays at the ends of the range of `long`. -/
def strtol (s : List Char) : Int :=
  let (negative, s) := takeSign (s.dropWhile isspace)
  let n : Int := ofDigits (s.takeWhile isdigit)
  max (-2 ^ 63) (min (2 ^ 63 - 1) (if negative then -n else n))

/-- `atoi` keeps the low half of the `long` it reads. -/
def atoi (s : List Char) : Int := Int.bmod (strtol s) (2 ^ 32)

def isxdigit (c : Char) : Bool :=
  isdigit c || (65 ≤ c.toNat && c.toNat ≤ 70) || (97 ≤ c.toNat && c.toNat ≤ 102)

def hexValue (c : Char) : Nat :=
  if c.toNat ≤ 57 then c.toNat - 48
  else if c.toNat ≤ 70 then c.toNat - 55
  else c.toNat - 87

/-- What a marker and a number behind it say, and zero without them. -/
def readExponent (marker : Char) : List Char → Int
  | [] => 0
  | c :: s =>
      if c.toLower = marker then
        let (negative, s) := takeSign s
        let n : Int := ofDigits (s.takeWhile isdigit)
        if negative then -n else n
      else 0

/-- The digits of a base around a radix point, scaled by an exponent. -/
def readDigits (base : Nat) (isDigit : Char → Bool) (marker : Char) (scale : ℚ)
    (s : List Char) : ℚ :=
  let whole := s.takeWhile isDigit
  let (fraction, rest) :=
    match s.dropWhile isDigit with
    | '.' :: s => (s.takeWhile isDigit, s.dropWhile isDigit)
    | s => ([], s)
  let digits := (whole ++ fraction).foldl (fun n c => base * n + hexValue c) 0
  digits / base ^ fraction.length * scale ^ readExponent marker rest

/-- The number a text starts with, in the four notations of the C standard. -/
def readReal (s : List Char) : BinaryFloat.Value :=
  let (negative, s) := takeSign (s.dropWhile isspace)
  let lower := s.map Char.toLower
  if "inf".toList.isPrefixOf lower then .infinite negative
  else if "nan".toList.isPrefixOf lower then .nan
  else
    let value :=
      -- a prefix without digits behind it is the zero it starts with
      if "0x".toList.isPrefixOf lower then
        readDigits 16 isxdigit 'p' 2 (lower.drop 2)
      else readDigits 10 isdigit 'e' 10 lower
    .finite (if negative then -value else value)

def strtof (s : List Char) : BinaryFloat.Value :=
  BinaryFloat.single.round (readReal s)

/-- `round`: to the nearest integer, halves away from zero. -/
def round (r : ℚ) : Int :=
  if 0 ≤ r then ⌊r + 1 / 2⌋ else -⌊-r + 1 / 2⌋

def mergeInto {α : Type*} (compare : α → α → Int) (x : α)
    (rest : List α → List α) : List α → List α
  | [] => x :: rest []
  | y :: ys =>
      if compare x y ≤ 0 then x :: rest (y :: ys)
      else y :: mergeInto compare x rest ys

def merge {α : Type*} (compare : α → α → Int) : List α → List α → List α
  | [] => fun ys => ys
  | x :: xs => mergeInto compare x (merge compare xs)

/-- Merge sort, the first half rounded down; the fuel bounds the depth. -/
def mergeSort {α : Type*} (compare : α → α → Int) : Nat → List α → List α
  | 0, xs => xs
  | fuel + 1, xs =>
      if xs.length ≤ 1 then xs
      else
        let half := xs.length / 2
        merge compare (mergeSort compare fuel (xs.take half))
          (mergeSort compare fuel (xs.drop half))

def gListSort {α : Type*} (compare : α → α → Int) (xs : List α) : List α :=
  mergeSort compare xs.length xs

section Sorting

variable {α : Type*} {compare : α → α → Int}

theorem merge_perm (xs ys : List α) : (merge compare xs ys).Perm (xs ++ ys) := by
  induction xs generalizing ys with
  | nil => exact .refl ys
  | cons x xs ih =>
      rw [merge]
      induction ys with
      | nil => exact (ih []).cons x
      | cons y ys ih' =>
          rw [mergeInto]
          split
          · exact (ih (y :: ys)).cons x
          · exact (ih'.cons y).trans List.perm_middle.symm

theorem mergeSort_perm (fuel : Nat) (xs : List α) :
    (mergeSort compare fuel xs).Perm xs := by
  induction fuel generalizing xs with
  | zero => exact .refl xs
  | succ fuel ih =>
      rw [mergeSort]
      split
      · exact .refl xs
      · have hhalves := (ih (xs.take (xs.length / 2))).append
          (ih (xs.drop (xs.length / 2)))
        rw [List.take_append_drop] at hhalves
        exact (merge_perm _ _).trans hhalves

theorem gListSort_perm (xs : List α) : (gListSort compare xs).Perm xs :=
  mergeSort_perm xs.length xs

end Sorting

end CString
