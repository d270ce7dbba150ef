import DleynaRenderer.Foundation.Decimal
import DleynaRenderer.Player.State

/-!
# Protocol information

What is published of the protocol information of a renderer is the set of the
schemes and the set of the types that occur in its entries.  Their order and
their repetition do not matter.  Blanks beside a comma do: they become part of
the scheme behind it, or of a type that ends in front of it.
-/

namespace DleynaRenderer.Player

open CString

def commaEntries (sink : String) : List (List Char) := sink.toList.splitOn ','

/-- An entry with its first and its third field, and whether a fourth follows. -/
inductive Fields : List Char → List Char → List Char → Bool → Prop where
  | three {scheme second mime : List Char} (hscheme : ':' ∉ scheme)
      (hsecond : ':' ∉ second) (hmime : ':' ∉ mime) :
      Fields (scheme ++ ':' :: (second ++ ':' :: mime)) scheme mime false
  | more {scheme second mime : List Char} (rest : List Char)
      (hscheme : ':' ∉ scheme) (hsecond : ':' ∉ second) (hmime : ':' ∉ mime) :
      Fields (scheme ++ ':' :: (second ++ ':' :: (mime ++ ':' :: rest)))
        scheme mime true

def schemeName (scheme : List Char) : String :=
  if "http-".toList <+: scheme.map Char.toLower then "http"
  else asciiDown scheme

theorem splitOn_of_fields {entry scheme mime : List Char} {more : Bool}
    (h : Fields entry scheme mime more) :
    ∃ second rest, entry.splitOn ':' = scheme :: second :: mime :: rest ∧
      (more = true ↔ rest ≠ []) := by
  cases h with
  | @three scheme second mime hscheme hsecond hmime =>
      refine ⟨second, [], ?_, by simp⟩
      rw [List.splitOn_append_cons_self_of_not_mem hscheme,
        List.splitOn_append_cons_self_of_not_mem hsecond,
        List.splitOn_eq_singleton hmime]
  | @more scheme second mime rest hscheme hsecond hmime =>
      refine ⟨second, rest.splitOn ':', ?_, by simp [List.splitOn_ne_nil]⟩
      rw [List.splitOn_append_cons_self_of_not_mem hscheme,
        List.splitOn_append_cons_self_of_not_mem hsecond,
        List.splitOn_append_cons_self_of_not_mem hmime]

theorem Fields.count {entry scheme mime : List Char} {more : Bool}
    (h : Fields entry scheme mime more) :
    2 ≤ entry.count ':' ∧ (more = true ↔ entry.count ':' ≠ 2) := by
  obtain ⟨second, rest, hsplit, hmore⟩ := splitOn_of_fields h
  have hlength := length_splitOn entry ':'
  rw [hsplit] at hlength
  simp only [List.length_cons] at hlength
  refine ⟨by omega, hmore.trans ?_⟩
  rw [← List.length_pos_iff]
  omega

theorem exists_fields {entry : List Char} (h : 2 ≤ entry.count ':') :
    ∃ scheme mime more, Fields entry scheme mime more := by
  have hmem : ':' ∈ entry := List.count_pos_iff.mp (by omega)
  obtain ⟨scheme, tail, rfl, hscheme⟩ := List.eq_append_cons_of_mem hmem
  have hnone := List.count_eq_zero.mpr hscheme
  rw [List.count_append, List.count_cons_self, hnone] at h
  have hmem : ':' ∈ tail := List.count_pos_iff.mp (by omega)
  obtain ⟨second, mime, rfl, hsecond⟩ := List.eq_append_cons_of_mem hmem
  by_cases hmime : ':' ∈ mime
  · obtain ⟨type, rest, rfl, htype⟩ := List.eq_append_cons_of_mem hmime
    exact ⟨scheme, type, true, .more rest hscheme hsecond htype⟩
  · exact ⟨scheme, mime, false, .three hscheme hsecond hmime⟩

theorem asciiDown_protocolScheme (scheme : List Char) :
    asciiDown (protocolScheme scheme) = schemeName scheme := by
  have hstarts : (scheme.take 5).map Char.toLower = ['h', 't', 't', 'p', '-'] ↔
      "http-".toList <+: scheme.map Char.toLower := by
    rw [List.prefix_iff_eq_take, ← List.map_take]
    exact eq_comm
  unfold protocolScheme schemeName
  simp only [hstarts]
  split
  case isTrue hhttp =>
    have htake := congrArg (List.take 4) (hstarts.mpr hhttp)
    rw [← List.map_take, List.take_take] at htake
    rw [asciiDown]
    exact congrArg String.ofList htake
  case isFalse => rfl

theorem protocolEntry_of_fields {entry scheme mime : List Char} {more : Bool}
    (h : Fields entry scheme mime more) :
    protocolEntry entry = some (schemeName scheme, asciiDown mime) := by
  have hcount := h.count.1
  have hne : entry ≠ [] := by
    rintro rfl
    simp at hcount
  obtain ⟨second, rest, hsplit, -⟩ := splitOn_of_fields h
  rw [protocolEntry, gStrsplit, if_neg hne, hsplit, ← asciiDown_protocolScheme]

theorem protocolEntry_eq_none {entry : List Char} (h : entry.count ':' < 2) :
    protocolEntry entry = none := by
  have hlength := length_gStrsplit entry ':'
  unfold protocolEntry
  split
  case h_1 scheme second mime rest hsplit =>
    rw [hsplit] at hlength
    split at hlength
    · simp at hlength
    · simp only [List.length_cons] at hlength
      omega
  case h_2 => rfl

theorem protocolEntry_eq_some {entry : List Char} {name type : String} :
    protocolEntry entry = some (name, type) ↔
      ∃ scheme mime more, Fields entry scheme mime more ∧
        name = schemeName scheme ∧ type = asciiDown mime := by
  constructor
  · intro h
    rcases Nat.lt_or_ge (entry.count ':') 2 with hfew | hmany
    · rw [protocolEntry_eq_none hfew] at h
      contradiction
    · obtain ⟨scheme, mime, more, hfields⟩ := exists_fields hmany
      rw [protocolEntry_of_fields hfields] at h
      obtain ⟨rfl, rfl⟩ := Prod.mk.inj (Option.some.inj h)
      exact ⟨scheme, mime, more, hfields, rfl, rfl⟩
  · rintro ⟨scheme, mime, more, hfields, rfl, rfl⟩
    exact protocolEntry_of_fields hfields

def IsScheme (entries : List (List Char)) (name : String) : Prop :=
  ∃ entry ∈ entries, ∃ scheme mime more,
    Fields entry scheme mime more ∧ name = schemeName scheme

def IsMimeType (entries : List (List Char)) (type : String) : Prop :=
  ∃ entry ∈ entries, ∃ scheme mime more,
    Fields entry scheme mime more ∧ type = asciiDown mime

def ListsEachOnce (values : List String) (p : String → Prop) : Prop :=
  values.Nodup ∧ ∀ value, value ∈ values ↔ p value

theorem mem_keys_stringSet (values : List String) (value : String) :
    value ∈ (stringSet values).keys ↔ value ∈ values := by
  have hfold (table : HashTable String Unit) :
      value ∈ values.foldl (fun table value => table.insert value ()) table ↔
        value ∈ values ∨ value ∈ table := by
    induction values generalizing table with
    | nil => simp
    | cons first values ih =>
        rw [List.foldl_cons, ih, AList.mem_insert, List.mem_cons]
        tauto
  rw [← AList.mem_keys, stringSet, hfold]
  simp

theorem listsEachOnce_stringSet {values : List String} {p : String → Prop}
    (h : ∀ value, value ∈ values ↔ p value) :
    ListsEachOnce (stringSet values).keys p :=
  ⟨AList.keys_nodup _, fun value =>
    (mem_keys_stringSet values value).trans (h value)⟩

def protocolEntries (sink : String) : List (String × String) :=
  (gStrsplit sink.toList ',').filterMap protocolEntry

theorem protocolEntries_eq (sink : String) :
    protocolEntries sink = (commaEntries sink).filterMap protocolEntry := by
  unfold protocolEntries commaEntries gStrsplit
  split
  case isTrue hempty =>
    rw [hempty]
    rfl
  case isFalse => rfl

theorem mem_map_protocolEntries {sink value : String}
    (field : String × String → String) :
    value ∈ (protocolEntries sink).map field ↔
      ∃ entry ∈ commaEntries sink, ∃ scheme mime more,
        Fields entry scheme mime more ∧
          value = field (schemeName scheme, asciiDown mime) := by
  rw [protocolEntries_eq]
  simp only [List.mem_map, List.mem_filterMap]
  constructor
  · rintro ⟨⟨name, type⟩, ⟨entry, hmem, hentry⟩, rfl⟩
    obtain ⟨scheme, mime, more, hfields, rfl, rfl⟩ := protocolEntry_eq_some.mp hentry
    exact ⟨entry, hmem, scheme, mime, more, hfields, rfl⟩
  · rintro ⟨entry, hmem, scheme, mime, more, hfields, rfl⟩
    exact ⟨_, ⟨entry, hmem, protocolEntry_of_fields hfields⟩, rfl⟩

/-! ## What is published -/

def published (key : String) (player : PlayerState) : List String :=
  match player.rootProps.lookup key with
  | some (.strings values) => values
  | _ => []

def supportedUriSchemes (sink : String) (player : PlayerState) : List String :=
  published "SupportedUriSchemes" (prvProcessProtocolInfo sink player)

def supportedMimeTypes (sink : String) (player : PlayerState) : List String :=
  published "SupportedMimeTypes" (prvProcessProtocolInfo sink player)

theorem supportedUriSchemes_eq (sink : String) (player : PlayerState) :
    supportedUriSchemes sink player =
      (stringSet ((protocolEntries sink).map Prod.fst)).keys := by
  unfold supportedUriSchemes published prvProcessProtocolInfo
  simp only [AList.lookup_insert_ne (show "SupportedUriSchemes" ≠
    "SupportedMimeTypes" by decide), AList.lookup_insert]
  rfl

theorem supportedMimeTypes_eq (sink : String) (player : PlayerState) :
    supportedMimeTypes sink player =
      (stringSet ((protocolEntries sink).map Prod.snd)).keys := by
  unfold supportedMimeTypes published prvProcessProtocolInfo
  simp only [AList.lookup_insert]
  rfl

theorem supportedUriSchemes_exact (sink : String) (player : PlayerState) :
    ListsEachOnce (supportedUriSchemes sink player)
      (IsScheme (commaEntries sink)) := by
  rw [supportedUriSchemes_eq]
  exact listsEachOnce_stringSet fun _ => mem_map_protocolEntries Prod.fst

theorem supportedMimeTypes_exact (sink : String) (player : PlayerState) :
    ListsEachOnce (supportedMimeTypes sink player)
      (IsMimeType (commaEntries sink)) := by
  rw [supportedMimeTypes_eq]
  exact listsEachOnce_stringSet fun _ => mem_map_protocolEntries Prod.snd

def SameSupport (sink other : String) : Prop :=
  ∀ player,
    (∀ name, name ∈ supportedUriSchemes other player ↔
      name ∈ supportedUriSchemes sink player) ∧
    ∀ type, type ∈ supportedMimeTypes other player ↔
      type ∈ supportedMimeTypes sink player

theorem sameSupport_of_same_entries {sink other : String}
    (h : ∀ entry, entry ∈ commaEntries other ↔ entry ∈ commaEntries sink) :
    SameSupport sink other := by
  intro player
  simp only [(supportedUriSchemes_exact _ _).2, (supportedMimeTypes_exact _ _).2,
    IsScheme, IsMimeType, h, implies_true, and_self]

theorem sameSupport_of_protocolEntries {sink other : String}
    (h : protocolEntries other = protocolEntries sink) : SameSupport sink other := by
  intro player
  simp only [supportedUriSchemes_eq, supportedMimeTypes_eq, h, implies_true,
    and_self]

/-- The entries without the blanks beside a comma; one may precede the first. -/
def closeUp (preceded : Bool) : List (List Char) → List (List Char)
  | [] => []
  | [last] => [if preceded then gStrchug last else last]
  | entry :: rest =>
      gStrchomp (if preceded then gStrchug entry else entry) :: closeUp true rest

/-- The strings differ in blanks beside their commas only. -/
def Respaced (sink other : String) : Prop :=
  closeUp false (commaEntries other) = closeUp false (commaEntries sink)

/--
The protocol information is read as a set of entries: neither their order and
their repetition nor the blanks beside the commas make a difference.
-/
structure DecodedAsSet (sink : String) : Prop where
  schemes : ∀ player, ListsEachOnce (supportedUriSchemes sink player)
    (IsScheme (commaEntries sink))
  types : ∀ player, ListsEachOnce (supportedMimeTypes sink player)
    (IsMimeType (commaEntries sink))
  reordered : ∀ other, (∀ entry, entry ∈ commaEntries other ↔
    entry ∈ commaEntries sink) → SameSupport sink other
  respaced : ∀ other, Respaced sink other → SameSupport sink other

/-- No field that is read stands beside a comma. -/
def SpacingHarmless : List (List Char) → Prop
  | [] => True
  | first :: rest => (∀ entry ∈ rest, entry.count ':' < 2) ∧
      (rest ≠ [] → first.count ':' ≠ 2)

theorem count_closeUp (preceded : Bool) (entries : List (List Char)) :
    (closeUp preceded entries).map (List.count ':') =
      entries.map (List.count ':') := by
  have hcolon : gAsciiIsspace ':' = false := rfl
  fun_induction closeUp preceded entries with
  | case1 => rfl
  | case2 preceded last => cases preceded <;> simp [count_gStrchug hcolon]
  | case3 preceded entry rest hrest ih =>
      cases preceded <;> simp [count_gStrchug hcolon, count_gStrchomp hcolon, ih]

theorem protocolEntry_gStrchomp {entry : List Char} (h : entry.count ':' ≠ 2) :
    protocolEntry (gStrchomp entry) = protocolEntry entry := by
  have hcolon : gAsciiIsspace ':' = false := rfl
  rcases Nat.lt_or_ge (entry.count ':') 2 with hfew | hmany
  · rw [protocolEntry_eq_none hfew,
      protocolEntry_eq_none (by rwa [count_gStrchomp hcolon])]
  · obtain ⟨scheme, mime, more, hfields⟩ := exists_fields hmany
    obtain rfl := hfields.count.2.mpr h
    have hchomp : Fields (gStrchomp entry) scheme mime true := by
      cases hfields with
      | more rest hscheme hsecond hmime =>
          rw [gStrchomp_append hcolon, gStrchomp_append hcolon,
            gStrchomp_append hcolon]
          exact .more _ hscheme hsecond hmime
    rw [protocolEntry_of_fields hfields, protocolEntry_of_fields hchomp]

theorem filterMap_protocolEntry {first : List Char} {rest : List (List Char)}
    (h : ∀ entry ∈ rest, entry.count ':' < 2) :
    (first :: rest).filterMap protocolEntry = (protocolEntry first).toList := by
  have hnone : rest.filterMap protocolEntry = [] :=
    List.filterMap_eq_nil_iff.mpr fun entry hmem => protocolEntry_eq_none (h entry hmem)
  cases hentry : protocolEntry first <;> simp [hentry, hnone]

/-- The first entry alone counts, and the blanks behind it are not read. -/
theorem sameSupport_of_respaced {sink other : String}
    (h : SpacingHarmless (commaEntries sink)) (hother : Respaced sink other) :
    SameSupport sink other := by
  apply sameSupport_of_protocolEntries
  rw [protocolEntries_eq, protocolEntries_eq]
  have hcounts := congrArg (List.map (List.count ':')) hother
  rw [count_closeUp, count_closeUp] at hcounts
  unfold Respaced at hother
  generalize commaEntries sink = entries at h hother hcounts ⊢
  generalize commaEntries other = others at hother hcounts ⊢
  cases entries with
  | nil => rw [List.map_eq_nil_iff.mp hcounts]
  | cons first rest =>
      cases others with
      | nil => contradiction
      | cons first' rest' =>
          obtain ⟨hfew, hthree⟩ := h
          obtain ⟨hfirst, hrest⟩ := List.cons.inj hcounts
          have hfew' : ∀ entry ∈ rest', entry.count ':' < 2 := by
            intro entry hmem
            have hcount := hrest ▸ List.mem_map_of_mem (f := List.count ':') hmem
            obtain ⟨entry', hmem', heq⟩ := List.mem_map.mp hcount
            rw [← heq]
            exact hfew entry' hmem'
          rw [filterMap_protocolEntry hfew, filterMap_protocolEntry hfew']
          cases rest with
          | nil =>
              obtain rfl := List.map_eq_nil_iff.mp hrest
              obtain rfl := (List.cons.inj hother).1
              rfl
          | cons entry rest =>
              cases rest' with
              | nil => contradiction
              | cons entry' rest' =>
                  have hchomp : gStrchomp first' = gStrchomp first :=
                    (List.cons.inj hother).1
                  have hthree := hthree (List.cons_ne_nil _ _)
                  rw [← protocolEntry_gStrchomp hthree, ← hchomp,
                    protocolEntry_gStrchomp (hfirst.trans_ne hthree)]

theorem comma_not_mem {sink : String} {entry : List Char}
    (h : entry ∈ commaEntries sink) : ',' ∉ entry := not_mem_of_mem_splitOn h

theorem exists_commaEntries {entries : List (List Char)} (hne : entries ≠ [])
    (h : ∀ entry ∈ entries, ',' ∉ entry) :
    ∃ other, commaEntries other = entries := by
  refine ⟨String.ofList ([','].intercalate entries), ?_⟩
  rw [commaEntries, String.toList_ofList]
  exact List.splitOn_intercalate ',' h hne

theorem exists_longer (values : List String) :
    ∃ k, ∀ value ∈ values, value.toList.length < k := by
  induction values with
  | nil => exact ⟨0, nofun⟩
  | cons value values ih =>
      obtain ⟨k, hk⟩ := ih
      refine ⟨max k (value.toList.length + 1), fun other hmem => ?_⟩
      rcases List.mem_cons.mp hmem with rfl | hrest
      · omega
      · have hlt := hk other hrest
        omega

theorem colon_comma_not_mem_blanks (k : Nat) :
    ':' ∉ List.replicate k ' ' ∧ ',' ∉ List.replicate k ' ' := by
  simp [List.mem_replicate]

theorem gStrchug_blanks (k : Nat) (s : List Char) :
    gStrchug (List.replicate k ' ' ++ s) = gStrchug s :=
  List.dropWhile_append_of_pos fun _ hmem => List.eq_of_mem_replicate hmem ▸ rfl

theorem closeUp_blanks (k : Nat) (entries : List (List Char)) :
    closeUp true (entries.map (List.replicate k ' ' ++ ·)) =
      closeUp true entries := by
  induction entries with
  | nil => rfl
  | cons entry entries ih =>
      cases entries with
      | nil => simp [closeUp, gStrchug_blanks]
      | cons next entries =>
          rw [List.map_cons] at ih
          simp [closeUp, gStrchug_blanks, ih]

theorem no_fields_after_comma {sink : String} (h : DecodedAsSet sink)
    {first : List Char} {rest : List (List Char)}
    (hentries : commaEntries sink = first :: rest) :
    ∀ entry ∈ rest, entry.count ':' < 2 := by
  intro entry hmem
  by_contra hmany
  obtain ⟨k, hk⟩ := exists_longer (supportedUriSchemes sink playerNew)
  obtain ⟨hcolon, hcomma⟩ := colon_comma_not_mem_blanks (k + 1)
  obtain ⟨other, hother⟩ := @exists_commaEntries
    (first :: rest.map (List.replicate (k + 1) ' ' ++ ·))
    (List.cons_ne_nil _ _) (by
      intro padded hpadded
      rcases List.mem_cons.mp hpadded with rfl | hpadded
      · exact comma_not_mem (hentries ▸ List.mem_cons_self)
      · obtain ⟨entry, hentry, rfl⟩ := List.mem_map.mp hpadded
        have hnone := comma_not_mem (hentries ▸ List.mem_cons_of_mem _ hentry)
        simp only [List.mem_append, hcomma, hnone, or_self, not_false_iff])
  have hrespaced : Respaced sink other := by
    rw [Respaced, hother, hentries]
    cases rest with
    | nil => rfl
    | cons next rest =>
        exact congrArg (gStrchomp first :: ·) (closeUp_blanks (k + 1) (next :: rest))
  obtain ⟨scheme, mime, more, hfields⟩ := exists_fields (Nat.le_of_not_lt hmany)
  have hspaced : Fields (List.replicate (k + 1) ' ' ++ entry)
      (List.replicate (k + 1) ' ' ++ scheme) mime more := by
    have hcolon' (s : List Char) (hs : ':' ∉ s) :
        ':' ∉ List.replicate (k + 1) ' ' ++ s := by
      simp only [List.mem_append, hcolon, hs, or_self, not_false_iff]
    cases hfields with
    | three hscheme hsecond hmime =>
        rw [← List.append_assoc]
        exact .three (hcolon' _ hscheme) hsecond hmime
    | more rest hscheme hsecond hmime =>
        rw [← List.append_assoc]
        exact .more rest (hcolon' _ hscheme) hsecond hmime
  have hfound : schemeName (List.replicate (k + 1) ' ' ++ scheme) ∈
      supportedUriSchemes other playerNew := by
    refine ((supportedUriSchemes_exact other playerNew).2 _).mpr
      ⟨_, ?_, _, _, _, hspaced, rfl⟩
    rw [hother]
    exact List.mem_cons_of_mem _ (List.mem_map_of_mem hmem)
  have hshort := hk _ (((h.respaced other hrespaced playerNew).1 _).mp hfound)
  have hname : schemeName (List.replicate (k + 1) ' ' ++ scheme) =
      asciiDown (List.replicate (k + 1) ' ' ++ scheme) := by
    rw [schemeName, if_neg]
    rw [List.replicate_succ]
    exact fun hhttp => absurd (List.cons_prefix_cons.mp hhttp).1 (by decide)
  rw [hname, asciiDown, String.toList_ofList, List.length_map,
    List.length_append, List.length_replicate] at hshort
  omega

theorem not_three_fields_before_comma {sink : String} (h : DecodedAsSet sink)
    {first : List Char} {rest : List (List Char)}
    (hentries : commaEntries sink = first :: rest) (hrest : rest ≠ []) :
    first.count ':' ≠ 2 := by
  intro hthree
  obtain ⟨k, hk⟩ := exists_longer (supportedMimeTypes sink playerNew)
  obtain ⟨hcolon, hcomma⟩ := colon_comma_not_mem_blanks k
  obtain ⟨other, hother⟩ := @exists_commaEntries
    ((first ++ List.replicate k ' ') :: rest)
    (List.cons_ne_nil _ _) (by
      intro padded hpadded
      rcases List.mem_cons.mp hpadded with rfl | hpadded
      · have hnone := comma_not_mem (hentries ▸ List.mem_cons_self)
        simp only [List.mem_append, hcomma, hnone, or_self, not_false_iff]
      · exact comma_not_mem (hentries ▸ List.mem_cons_of_mem _ hpadded))
  have hrespaced : Respaced sink other := by
    rw [Respaced, hother, hentries]
    have hchomp : gStrchomp (first ++ List.replicate k ' ') = gStrchomp first := by
      have hchug := gStrchug_blanks k first.reverse
      simpa [gStrchomp, gStrchug] using hchug
    cases rest with
    | nil => contradiction
    | cons next rest => exact congrArg (· :: closeUp true (next :: rest)) hchomp
  obtain ⟨scheme, mime, more, hfields⟩ := exists_fields hthree.ge
  have hmore : more = false := by
    rw [← Bool.not_eq_true, hfields.count.2]
    exact not_not.mpr hthree
  subst hmore
  have hspaced : Fields (first ++ List.replicate k ' ') scheme
      (mime ++ List.replicate k ' ') false := by
    cases hfields with
    | three hscheme hsecond hmime =>
        rw [List.append_assoc, List.cons_append, List.append_assoc, List.cons_append]
        exact .three hscheme hsecond (by simp [hmime, hcolon])
  have hfound : asciiDown (mime ++ List.replicate k ' ') ∈
      supportedMimeTypes other playerNew := by
    refine ((supportedMimeTypes_exact other playerNew).2 _).mpr
      ⟨_, ?_, _, _, _, hspaced, rfl⟩
    rw [hother]
    exact List.mem_cons_self
  have hshort := hk _ (((h.respaced other hrespaced playerNew).2 _).mp hfound)
  rw [asciiDown, String.toList_ofList, List.length_map, List.length_append,
    List.length_replicate] at hshort
  omega

/-- What is read is the same set exactly if no comma stands beside a field of it. -/
theorem decodedAsSet_iff (sink : String) :
    DecodedAsSet sink ↔ SpacingHarmless (commaEntries sink) := by
  constructor
  · intro h
    cases hentries : commaEntries sink with
    | nil => trivial
    | cons first rest =>
        exact ⟨no_fields_after_comma h hentries,
          not_three_fields_before_comma h hentries⟩
  · intro h
    exact ⟨supportedUriSchemes_exact sink, supportedMimeTypes_exact sink,
      fun _ => sameSupport_of_same_entries, fun _ => sameSupport_of_respaced h⟩

/-- The list of the documentation, which goes on in a new line. -/
def documentedSink : String :=
  "http-get:*:audio/mp4:DLNA.ORG_PN=AMR_WBplus,\nhttp-get:*:image/jpeg:DLNA.ORG_PN=JPEG_MED"

theorem documented_sink_spaced :
    supportedUriSchemes documentedSink playerNew = ["\nhttp-get", "http"] ∧
      ¬DecodedAsSet documentedSink := by
  refine ⟨by decide +kernel, fun h => ?_⟩
  have hentries : commaEntries documentedSink =
      ["http-get:*:audio/mp4:DLNA.ORG_PN=AMR_WBplus".toList,
        "\nhttp-get:*:image/jpeg:DLNA.ORG_PN=JPEG_MED".toList] := by
    decide +kernel
  have hfew := no_fields_after_comma h hentries _ (List.mem_singleton_self _)
  exact absurd hfew (by decide)

end DleynaRenderer.Player
