import DleynaRenderer.Foundation.CString
import Mathlib.Data.List.TakeWhile

/-!
# The path of a URL

What a client requests of a URL: the fragment and the query are dropped, the
path begins behind the authority, and the server decodes it.  A path is left as
it is exactly if nothing in it is taken for a delimiter or an escape.  The
characters stand for the bytes of the text.
-/

namespace Url

open CString

/-- A per cent sign without two hexadecimal digits stands for itself. -/
def percentDecode : List Char → List Char
  | '%' :: a :: b :: s =>
      if isxdigit a && isxdigit b then
        Char.ofNat (16 * hexValue a + hexValue b) :: percentDecode s
      else '%' :: percentDecode (a :: b :: s)
  | c :: s => c :: percentDecode s
  | [] => []

def hasEscape : List Char → Bool
  | '%' :: a :: b :: s => (isxdigit a && isxdigit b) || hasEscape (a :: b :: s)
  | _ :: s => hasEscape s
  | [] => false

theorem length_percentDecode_le (s : List Char) :
    (percentDecode s).length ≤ s.length := by
  fun_induction percentDecode s with
  | case1 a b s hescape ih =>
      simp only [List.length_cons]
      omega
  | case2 a b s hplain ih => simpa using ih
  | case3 c s hother ih => simpa using ih
  | case4 => exact le_rfl

theorem percentDecode_eq_self_iff {s : List Char} :
    percentDecode s = s ↔ hasEscape s = false := by
  fun_induction percentDecode s with
  | case1 a b s hescape ih =>
      have hlength := length_percentDecode_le s
      simp only [hasEscape, hescape, Bool.true_or, Bool.true_eq_false, iff_false]
      intro heq
      have hshort := congrArg List.length heq
      simp only [List.length_cons] at hshort
      omega
  | case2 a b s hplain ih => simp [hasEscape, hplain, ih]
  | case3 c s hother ih =>
      have hrest : hasEscape (c :: s) = hasEscape s := by
        rw [hasEscape]
        exact hother
      simp [hrest, ih]
  | case4 => simp [hasEscape]

theorem hasEscape_append {s : List Char} (h : '%' ∉ s) (rest : List Char) :
    hasEscape (s ++ rest) = hasEscape rest := by
  induction s with
  | nil => rfl
  | cons c s ih =>
      rw [List.mem_cons, not_or] at h
      have hstep : hasEscape (c :: (s ++ rest)) = hasEscape (s ++ rest) := by
        rw [hasEscape]
        exact fun _ _ _ hpercent _ => h.1 hpercent.symm
      rw [List.cons_append, hstep, ih h.2]

def dropFragment (url : List Char) : List Char := url.takeWhile (· ≠ '#')

def dropQuery (url : List Char) : List Char := url.takeWhile (· ≠ '?')

theorem dropFragment_sublist (url : List Char) :
    (dropFragment url).Sublist url := List.takeWhile_sublist _

theorem dropQuery_sublist (url : List Char) : (dropQuery url).Sublist url :=
  List.takeWhile_sublist _

def requestPath (url : List Char) : List Char :=
  let rest := (dropQuery (dropFragment url)).drop "http://".toList.length
  percentDecode (rest.dropWhile (· ≠ '/'))

def IsAuthority (s : List Char) : Prop :=
  ∀ c ∈ s, c ≠ '/' ∧ c ≠ '?' ∧ c ≠ '#'

instance (s : List Char) : Decidable (IsAuthority s) :=
  List.decidableBAll _ s

def IsPlain (path : List Char) : Prop :=
  '#' ∉ path ∧ '?' ∉ path ∧ hasEscape path = false

instance (path : List Char) : Decidable (IsPlain path) :=
  inferInstanceAs (Decidable (_ ∧ _ ∧ _))

theorem takeWhile_ne_eq_self_iff {s : List Char} {c : Char} :
    s.takeWhile (· ≠ c) = s ↔ c ∉ s := by
  rw [List.takeWhile_eq_self_iff]
  constructor
  · intro h hmem
    have hne := h c hmem
    simp at hne
  · intro h d hmem
    have hne : d ≠ c := fun heq => h (heq ▸ hmem)
    simpa using hne

theorem requestPath_eq {authority path : List Char}
    (h : IsAuthority authority) :
    requestPath ("http://".toList ++ (authority ++ '/' :: path)) =
      percentDecode (dropQuery (dropFragment ('/' :: path))) := by
  have hkept {c : Char} (hc : c ≠ '/') (hscheme : c ∉ "http://".toList)
      (hnone : c ∉ authority) (rest : List Char) :
      ("http://".toList ++ (authority ++ '/' :: rest)).takeWhile (· ≠ c) =
        "http://".toList ++ (authority ++
          '/' :: rest.takeWhile (· ≠ c)) := by
    have hpass {s : List Char} (hs : c ∉ s) : ∀ d ∈ s, decide (d ≠ c) = true :=
      List.takeWhile_eq_self_iff.mp (takeWhile_ne_eq_self_iff.mpr hs)
    rw [List.takeWhile_append_of_pos (hpass hscheme),
      List.takeWhile_append_of_pos (hpass hnone),
      List.takeWhile_cons_of_pos (by simpa using hc.symm)]
  have hhash : '#' ∉ authority := fun hmem => (h '#' hmem).2.2 rfl
  have hquery : '?' ∉ authority := fun hmem => (h '?' hmem).2.1 rfl
  have hslash : ∀ d ∈ authority, decide (d ≠ '/') = true := fun d hmem => by
    simpa using (h d hmem).1
  unfold requestPath dropQuery dropFragment
  rw [hkept (by decide) (by decide) hhash, hkept (by decide) (by decide) hquery,
    List.drop_left]
  simp only
  rw [List.dropWhile_append_of_pos hslash, List.dropWhile_cons_of_neg (by simp),
    List.takeWhile_cons_of_pos (by decide),
    List.takeWhile_cons_of_pos (by decide)]

theorem requestPath_eq_self_iff {authority path : List Char}
    (h : IsAuthority authority) :
    requestPath ("http://".toList ++ (authority ++ '/' :: path)) = '/' :: path ↔
      IsPlain ('/' :: path) := by
  rw [requestPath_eq h, IsPlain, ← takeWhile_ne_eq_self_iff,
    ← takeWhile_ne_eq_self_iff, ← percentDecode_eq_self_iff]
  constructor
  · intro heq
    -- every stage can only shorten the path, so none of them does
    have hlength := congrArg List.length heq
    have hdecoded :=
      length_percentDecode_le (dropQuery (dropFragment ('/' :: path)))
    have hquery := (dropQuery_sublist (dropFragment ('/' :: path))).length_le
    have hfragment := (dropFragment_sublist ('/' :: path)).length_le
    have hwhole : dropFragment ('/' :: path) = '/' :: path :=
      (dropFragment_sublist _).eq_of_length (by omega)
    rw [hwhole] at heq hlength hdecoded hquery
    have hwhole' : dropQuery ('/' :: path) = '/' :: path :=
      (dropQuery_sublist _).eq_of_length (by omega)
    rw [hwhole'] at heq
    exact ⟨hwhole, hwhole', heq⟩
  · rintro ⟨hhash, hquery, hescape⟩
    rw [dropFragment, hhash, dropQuery, hquery, hescape]

end Url
