import DleynaRenderer.Foundation.CString
import Mathlib.Data.List.Induction
import Mathlib.Data.List.TakeWhile

/-!
# Decimal numbers

Numbers that are printed into a text and read back from one.  What is read is
the run of digits the text starts with, behind blanks and a sign.
-/

namespace CString

def isNumber (s : List Char) : Bool := s ≠ [] && s.all isdigit

theorem isNumber_iff {s : List Char} :
    isNumber s = true ↔ s ≠ [] ∧ ∀ c ∈ s, isdigit c = true := by
  simp [isNumber]

theorem isspace_of_isdigit {c : Char} (h : isdigit c = true) :
    isspace c = false := by
  have hblank : c ≠ ' ' := by
    rintro rfl
    contradiction
  simp only [isdigit, Bool.and_eq_true, decide_eq_true_eq] at h
  simp only [isspace, hblank, decide_false, Bool.false_or, Bool.and_eq_false_imp,
    decide_eq_true_eq, decide_eq_false_iff_not]
  omega

theorem gAsciiIsspace_of_isdigit {c : Char} (h : isdigit c = true) :
    gAsciiIsspace c = false := by
  simp [gAsciiIsspace, isspace_of_isdigit h]

theorem ne_of_isdigit {c d : Char} (h : isdigit c = true)
    (hd : isdigit d = false) : c ≠ d := by
  rintro rfl
  rw [h] at hd
  contradiction

theorem isNumber_repr (n : Nat) : isNumber n.repr.toList = true := by
  refine isNumber_iff.mpr ⟨?_, fun c hmem => ?_⟩
  · rw [Nat.toList_repr]
    exact Nat.toDigits_ne_nil
  · have hdigit := isdigit_of_mem_repr hmem
    simp only [Char.isDigit, Bool.and_eq_true, decide_eq_true_eq] at hdigit
    simp only [isdigit, Bool.and_eq_true, decide_eq_true_eq]
    exact hdigit

theorem ofDigits_eq (s : List Char) : ofDigits s = Nat.ofDigitChars 10 s 0 := by
  rw [Nat.ofDigitChars_eq_foldl]
  rfl

@[simp] theorem ofDigits_repr (n : Nat) : ofDigits n.repr.toList = n := by
  rw [ofDigits_eq, Nat.toList_repr, Nat.ofDigitChars_ten_toDigits]

theorem ofDigits_lt {s : List Char} (h : ∀ c ∈ s, isdigit c = true) :
    ofDigits s < 10 ^ s.length := by
  induction s using List.reverseRecOn with
  | nil => decide
  | append_singleton s c ih =>
      have hlast := h c (by simp)
      simp only [isdigit, Bool.and_eq_true, decide_eq_true_eq] at hlast
      have hrest := ih fun c hmem => h c (by simp [hmem])
      rw [ofDigits, List.foldl_append, ← ofDigits, List.length_append,
        List.length_singleton, pow_succ]
      simp only [List.foldl_cons, List.foldl_nil]
      omega

def EndsNumber (rest : List Char) : Prop := rest.takeWhile isdigit = []

theorem endsNumber_nil : EndsNumber [] := rfl

theorem takeWhile_isNumber {s rest : List Char} (hs : isNumber s = true)
    (hrest : EndsNumber rest) : (s ++ rest).takeWhile isdigit = s := by
  rw [List.takeWhile_append_of_pos (isNumber_iff.mp hs).2, hrest, List.append_nil]

theorem dropWhile_isspace_isNumber {s : List Char} (rest : List Char)
    (hs : isNumber s = true) :
    (s ++ rest).dropWhile isspace = s ++ rest := by
  obtain ⟨hne, hdigits⟩ := isNumber_iff.mp hs
  cases s with
  | nil => contradiction
  | cons c s =>
      have hspace := isspace_of_isdigit (hdigits c List.mem_cons_self)
      simp [hspace]

theorem takeSign_isNumber {s : List Char} (rest : List Char)
    (hs : isNumber s = true) : takeSign (s ++ rest) = (false, s ++ rest) := by
  obtain ⟨hne, hdigits⟩ := isNumber_iff.mp hs
  cases s with
  | nil => contradiction
  | cons c s =>
      have hdigit := hdigits c List.mem_cons_self
      have hminus : c ≠ '-' := ne_of_isdigit hdigit rfl
      have hplus : c ≠ '+' := ne_of_isdigit hdigit rfl
      rw [List.cons_append]
      unfold takeSign
      split
      · next heq => exact absurd (List.cons.inj heq).1 hminus
      · next heq => exact absurd (List.cons.inj heq).1 hplus
      · rfl

theorem strtol_of_takeSign {text s rest : List Char} {negative : Bool}
    (hs : isNumber s = true) (hrest : EndsNumber rest)
    (hsign : takeSign (text.dropWhile isspace) = (negative, s ++ rest)) :
    strtol text =
      if negative then max (-2 ^ 63) (-(ofDigits s : Int))
      else min (2 ^ 63 - 1) (ofDigits s : Int) := by
  unfold strtol
  rw [hsign]
  simp only [takeWhile_isNumber hs hrest]
  split <;> omega

theorem strtol_isNumber {s rest : List Char} (hs : isNumber s = true)
    (hrest : EndsNumber rest) :
    strtol (s ++ rest) = min (2 ^ 63 - 1) (ofDigits s : Int) := by
  have hsign : takeSign ((s ++ rest).dropWhile isspace) = (false, s ++ rest) := by
    rw [dropWhile_isspace_isNumber rest hs, takeSign_isNumber rest hs]
  exact strtol_of_takeSign hs hrest hsign

theorem strtol_minus_isNumber {s rest : List Char} (hs : isNumber s = true)
    (hrest : EndsNumber rest) :
    strtol ('-' :: (s ++ rest)) = max (-2 ^ 63) (-(ofDigits s : Int)) := by
  have hsign : takeSign (('-' :: (s ++ rest)).dropWhile isspace) =
      (true, s ++ rest) := rfl
  exact strtol_of_takeSign hs hrest hsign

theorem strtol_plus_isNumber {s rest : List Char} (hs : isNumber s = true)
    (hrest : EndsNumber rest) :
    strtol ('+' :: (s ++ rest)) = min (2 ^ 63 - 1) (ofDigits s : Int) := by
  have hsign : takeSign (('+' :: (s ++ rest)).dropWhile isspace) =
      (false, s ++ rest) := rfl
  exact strtol_of_takeSign hs hrest hsign

/-- `strtoull` in base ten; a negative number is taken modulo the range. -/
def strtoull (s : List Char) : Nat :=
  let (negative, s) := takeSign (s.dropWhile isspace)
  let n := ofDigits (s.takeWhile isdigit)
  if 2 ^ 64 ≤ n then 2 ^ 64 - 1
  else if negative then (2 ^ 64 - n) % 2 ^ 64 else n

theorem strtoull_isNumber {s rest : List Char} (hs : isNumber s = true)
    (hrest : EndsNumber rest) :
    strtoull (s ++ rest) = min (2 ^ 64 - 1) (ofDigits s) := by
  unfold strtoull
  rw [dropWhile_isspace_isNumber rest hs, takeSign_isNumber rest hs]
  simp only [takeWhile_isNumber hs hrest, Bool.false_eq_true, if_false]
  split <;> omega

theorem strstr_singleton (c : Char) (s : List Char) :
    strstr [c] s = if c ∈ s then some (s.dropWhile (· ≠ c)) else none := by
  induction s with
  | nil => rfl
  | cons d s ih =>
      rw [strstr]
      by_cases hd : c = d
      · subst hd
        simp
      · simp [hd, Ne.symm hd, ih]

theorem isdigit_of_blank {c : Char} (h : isspace c = true) :
    isdigit c = false := by
  by_contra hdigit
  rw [Bool.not_eq_false] at hdigit
  rw [isspace_of_isdigit hdigit] at h
  contradiction

theorem isspace_of_gAsciiIsspace {c : Char} (h : gAsciiIsspace c = true) :
    isspace c = true := by
  simp only [gAsciiIsspace, Bool.and_eq_true] at h
  exact h.1

theorem takeSign_append {s : List Char} (hs : s ≠ []) (rest : List Char) :
    takeSign (s ++ rest) = ((takeSign s).1, (takeSign s).2 ++ rest) := by
  cases s with
  | nil => contradiction
  | cons c s =>
      by_cases hminus : c = '-'
      · subst hminus
        rfl
      · by_cases hplus : c = '+'
        · subst hplus
          rfl
        · simp [takeSign, hminus, hplus]

theorem strtol_append_blanks (s : List Char) {blanks : List Char}
    (h : ∀ c ∈ blanks, isspace c = true) : strtol (s ++ blanks) = strtol s := by
  have hends (t : List Char) :
      (t ++ blanks).takeWhile isdigit = t.takeWhile isdigit := by
    have hnone : blanks.takeWhile isdigit = [] := by
      cases blanks with
      | nil => rfl
      | cons c blanks =>
          simp [isdigit_of_blank (h c List.mem_cons_self)]
    by_cases hall : ∀ c ∈ t, isdigit c = true
    · rw [List.takeWhile_append_of_pos hall, hnone, List.append_nil,
        List.takeWhile_eq_self_iff.mpr hall]
    · rw [List.takeWhile_append, if_neg]
      intro hlength
      have hself := (List.takeWhile_sublist isdigit).eq_of_length hlength
      exact hall (List.takeWhile_eq_self_iff.mp hself)
  unfold strtol
  by_cases hblank : ∀ c ∈ s, isspace c = true
  · have hall : ∀ c ∈ s ++ blanks, isspace c = true := by
      intro c hmem
      rcases List.mem_append.mp hmem with hs | hb
      · exact hblank c hs
      · exact h c hb
    rw [List.dropWhile_eq_nil_iff.mpr hall, List.dropWhile_eq_nil_iff.mpr hblank]
  · have hne : s.dropWhile isspace ≠ [] := fun heq =>
      hblank (List.dropWhile_eq_nil_iff.mp heq)
    have hdrop : (s ++ blanks).dropWhile isspace =
        s.dropWhile isspace ++ blanks := by
      rw [List.dropWhile_append, if_neg (by simpa using hne)]
    rw [hdrop, takeSign_append hne]
    simp only [hends]

theorem count_gStrchug {c : Char} (hc : gAsciiIsspace c = false) (s : List Char) :
    (gStrchug s).count c = s.count c := by
  have hblanks : (s.takeWhile gAsciiIsspace).count c = 0 := by
    refine List.count_eq_zero.mpr fun hmem => ?_
    rw [List.mem_takeWhile_imp hmem] at hc
    contradiction
  have hsplit := congrArg (List.count c)
    (List.takeWhile_append_dropWhile (p := gAsciiIsspace) (l := s))
  rw [List.count_append, hblanks, Nat.zero_add] at hsplit
  exact hsplit

theorem count_gStrchomp {c : Char} (hc : gAsciiIsspace c = false)
    (s : List Char) : (gStrchomp s).count c = s.count c := by
  have hcount := count_gStrchug hc s.reverse
  rwa [gStrchug, ← List.count_reverse, List.count_reverse (l := s)] at hcount

theorem gStrchug_append {c : Char} (hc : gAsciiIsspace c = false)
    (s rest : List Char) :
    gStrchug (s ++ c :: rest) = gStrchug s ++ c :: rest := by
  unfold gStrchug
  rw [List.dropWhile_append]
  split
  case isTrue hnil =>
    rw [List.isEmpty_iff.mp hnil, List.dropWhile_cons_of_neg (by simp [hc])]
    rfl
  case isFalse => rfl

theorem gStrchomp_append {c : Char} (hc : gAsciiIsspace c = false)
    (s rest : List Char) :
    gStrchomp (s ++ c :: rest) = s ++ c :: gStrchomp rest := by
  have hchug := congrArg List.reverse
    (gStrchug_append hc rest.reverse s.reverse)
  simpa [gStrchomp, gStrchug] using hchug

theorem gStrstrip_spec (s : List Char) :
    ∃ before after, s = before ++ (gStrstrip s ++ after) ∧
      (∀ c ∈ before, isspace c = true) ∧ ∀ c ∈ after, isspace c = true := by
  have hblank {t : List Char} {c : Char}
      (hmem : c ∈ t.takeWhile gAsciiIsspace) : isspace c = true :=
    isspace_of_gAsciiIsspace (List.mem_takeWhile_imp hmem)
  refine ⟨s.takeWhile gAsciiIsspace,
    ((s.dropWhile gAsciiIsspace).reverse.takeWhile gAsciiIsspace).reverse,
    ?_, fun c hmem => hblank hmem, fun c hmem => hblank (List.mem_reverse.mp hmem)⟩
  rw [gStrstrip, gStrchomp, gStrchug, ← List.reverse_append, List.takeWhile_append_dropWhile,
    List.reverse_reverse, List.takeWhile_append_dropWhile]

theorem strtol_blanks_append {blanks : List Char}
    (h : ∀ c ∈ blanks, isspace c = true) (s : List Char) :
    strtol (blanks ++ s) = strtol s := by
  rw [strtol, List.dropWhile_append_of_pos h]
  rfl

theorem strtol_gStrstrip (s : List Char) : strtol (gStrstrip s) = strtol s := by
  obtain ⟨before, after, heq, hbefore, hafter⟩ := gStrstrip_spec s
  conv_rhs => rw [heq]
  rw [strtol_blanks_append hbefore, strtol_append_blanks _ hafter]

theorem gStrstrip_eq_self {s : List Char}
    (h : ∀ c ∈ s, gAsciiIsspace c = false) : gStrstrip s = s := by
  have hkeep {s : List Char} (hs : ∀ c ∈ s, gAsciiIsspace c = false) :
      s.dropWhile gAsciiIsspace = s := by
    cases s with
    | nil => rfl
    | cons c s => simp [hs c List.mem_cons_self]
  rw [gStrstrip, gStrchomp, gStrchug, hkeep h, hkeep (by simpa using h), List.reverse_reverse]

theorem gStrstrip_isNumber {s : List Char} (hs : isNumber s = true) :
    gStrstrip s = s :=
  gStrstrip_eq_self fun c hmem =>
    gAsciiIsspace_of_isdigit ((isNumber_iff.mp hs).2 c hmem)

theorem not_mem_isNumber {s : List Char} {c : Char} (hs : isNumber s = true)
    (hc : isdigit c = false) : c ∉ s := fun hmem =>
  ne_of_isdigit ((isNumber_iff.mp hs).2 c hmem) hc rfl

theorem gStrsplit_two {c : Char} {first second : List Char}
    (hfirst : c ∉ first) (hsecond : c ∉ second) :
    gStrsplit (first ++ c :: second) c = [first, second] := by
  rw [gStrsplit, if_neg (by simp),
    List.splitOn_append_cons_self_of_not_mem hfirst,
    List.splitOn_eq_singleton hsecond]

theorem gStrsplit_three {c : Char} {first second third : List Char}
    (hfirst : c ∉ first) (hsecond : c ∉ second) (hthird : c ∉ third) :
    gStrsplit (first ++ c :: (second ++ c :: third)) c =
      [first, second, third] := by
  rw [gStrsplit, if_neg (by simp),
    List.splitOn_append_cons_self_of_not_mem hfirst,
    List.splitOn_append_cons_self_of_not_mem hsecond,
    List.splitOn_eq_singleton hthird]

theorem length_splitOn (s : List Char) (c : Char) :
    (s.splitOn c).length = s.count c + 1 := by
  induction s with
  | nil => simp
  | cons d s ih =>
      rw [List.splitOn_cons_eq_if_modifyHead, List.count_cons]
      split
      · rw [List.length_cons, ih]
      · rw [List.length_modifyHead, ih, Nat.add_zero]

theorem not_mem_of_mem_splitOn {s piece : List Char} {c : Char}
    (h : piece ∈ s.splitOn c) : c ∉ piece := by
  induction s generalizing piece with
  | nil => simp_all
  | cons d s ih =>
      rw [List.splitOn_cons_eq_if_modifyHead] at h
      cases hsplit : s.splitOn c with
      | nil => exact absurd hsplit (List.splitOn_ne_nil c s)
      | cons first rest =>
          rw [hsplit] at h ih
          split at h
          case isTrue =>
            rcases List.mem_cons.mp h with rfl | hmem
            · simp
            · exact ih hmem
          case isFalse hne =>
            rw [List.modifyHead_cons] at h
            rcases List.mem_cons.mp h with rfl | hmem
            · have hd : c ≠ d := fun heq => hne (by simp [heq])
              simp [hd, ih List.mem_cons_self]
            · exact ih (List.mem_cons_of_mem _ hmem)

theorem length_gStrsplit (s : List Char) (c : Char) :
    (gStrsplit s c).length = if s = [] then 0 else s.count c + 1 := by
  unfold gStrsplit
  split
  · rfl
  · exact length_splitOn s c

/-- `printf` with `%02u`. -/
def formatTwo (n : Nat) : String :=
  (if n < 10 then "0" else "") ++ toString n

theorem toList_formatTwo (n : Nat) :
    (formatTwo n).toList = (if n < 10 then ['0'] else []) ++ n.repr.toList := by
  unfold formatTwo
  split <;> rw [String.toList_append] <;> rfl

theorem isNumber_formatTwo (n : Nat) : isNumber (formatTwo n).toList = true := by
  have hdigits := (isNumber_iff.mp (isNumber_repr n)).2
  rw [toList_formatTwo]
  refine isNumber_iff.mpr ⟨by simp, fun c hmem => ?_⟩
  rcases List.mem_append.mp hmem with hzero | hrepr
  · split at hzero
    · rw [List.mem_singleton.mp hzero]
      rfl
    · contradiction
  · exact hdigits c hrepr

@[simp] theorem ofDigits_formatTwo (n : Nat) :
    ofDigits (formatTwo n).toList = n := by
  rw [toList_formatTwo]
  split
  · exact ofDigits_repr n
  · exact ofDigits_repr n

def IsInteger (s : List Char) (n : Int) : Prop :=
  ∃ before sign digits after,
    s = before ++ (sign ++ (digits ++ after)) ∧
      (∀ c ∈ before, isspace c = true) ∧ (∀ c ∈ after, isspace c = true) ∧
      isNumber digits = true ∧
      (sign = ['-'] ∧ n = -ofDigits digits ∨
        (sign = ['+'] ∨ sign = []) ∧ n = ofDigits digits)

theorem isInteger_of_all {s : List Char} {n : Int}
    (before sign digits after : List Char)
    (h : s = before ++ (sign ++ (digits ++ after)) ∧
      before.all isspace = true ∧ after.all isspace = true ∧
      isNumber digits = true ∧
      (sign = ['-'] ∧ n = -ofDigits digits ∨
        (sign = ['+'] ∨ sign = []) ∧ n = ofDigits digits)) : IsInteger s n := by
  obtain ⟨hs, hbefore, hafter, hdigits, hsign⟩ := h
  exact ⟨before, sign, digits, after, hs, List.all_eq_true.mp hbefore,
    List.all_eq_true.mp hafter, hdigits, hsign⟩

theorem endsNumber_append {blanks rest : List Char}
    (hblanks : ∀ c ∈ blanks, isspace c = true) (hrest : EndsNumber rest) :
    EndsNumber (blanks ++ rest) := by
  cases blanks with
  | nil => exact hrest
  | cons c blanks =>
      have hdigit := isdigit_of_blank (hblanks c List.mem_cons_self)
      simp [EndsNumber, hdigit]

theorem strtol_of_isInteger {s rest : List Char} {n : Int}
    (h : IsInteger s n) (hrest : EndsNumber rest) :
    strtol (s ++ rest) = max (-2 ^ 63) (min (2 ^ 63 - 1) n) := by
  obtain ⟨before, sign, digits, after, rfl, hbefore, hafter, hdigits, hsign⟩ := h
  have hends := endsNumber_append hafter hrest
  simp only [List.append_assoc]
  rw [strtol_blanks_append hbefore]
  rcases hsign with ⟨rfl, rfl⟩ | ⟨rfl | rfl, rfl⟩
  · rw [List.singleton_append, strtol_minus_isNumber hdigits hends]
    omega
  · rw [List.singleton_append, strtol_plus_isNumber hdigits hends]
    omega
  · rw [List.nil_append, strtol_isNumber hdigits hends]
    omega

theorem strtol_isInteger {s : List Char} {n : Int} (h : IsInteger s n)
    (hrange : -2 ^ 63 ≤ n ∧ n < 2 ^ 63) : strtol s = n := by
  have hread := strtol_of_isInteger h endsNumber_nil
  rw [List.append_nil] at hread
  omega

theorem isInteger_ne_nil {s : List Char} {n : Int} (h : IsInteger s n) :
    s ≠ [] := by
  obtain ⟨before, sign, digits, after, rfl, -, -, hdigits, -⟩ := h
  have hne := (isNumber_iff.mp hdigits).1
  simp [hne]

theorem not_mem_isInteger {s : List Char} {n : Int} {c : Char}
    (h : IsInteger s n) (hdigit : isdigit c = false)
    (hspace : isspace c = false) (hminus : c ≠ '-') (hplus : c ≠ '+') :
    c ∉ s := by
  obtain ⟨before, sign, digits, after, rfl, hbefore, hafter, hdigits, hsign⟩ := h
  have hblank {blanks : List Char} (hblanks : ∀ c ∈ blanks, isspace c = true) :
      c ∉ blanks := by
    intro hmem
    rw [hblanks c hmem] at hspace
    contradiction
  have hnosign : c ∉ sign := by
    rcases hsign with ⟨rfl, -⟩ | ⟨rfl | rfl, -⟩
    · simpa using hminus
    · simpa using hplus
    · simp
  simp [hblank hbefore, hnosign, not_mem_isNumber hdigits hdigit,
    hblank hafter]

end CString
