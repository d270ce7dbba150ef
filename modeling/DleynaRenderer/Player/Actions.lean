import DleynaRenderer.Foundation.Decimal
import DleynaRenderer.Player.Rates
import Mathlib.Data.List.DropRight

/-!
# The grammar of the transport actions

The actions are separated by commas, those of a list of speeds by commas behind
a backslash.  The code rewrites the latter to stars and splits twice; what it
publishes is compared here with the tokens of the text itself.
-/

namespace DleynaRenderer.Player

open CString BinaryFloat

/-- The pieces between the commas that no backslash precedes. -/
def commaPieces (escaped : Bool) : List Char → List (List Char)
  | [] => [[]]
  | c :: s =>
      if c = ',' ∧ escaped = false then [] :: commaPieces false s
      else (commaPieces (c = '\\') s).modifyHead (c :: ·)

def actionTokens (actions : String) : List (List Char) :=
  (commaPieces false actions.toList).map gStrstrip

def escapedPieces : List Char → List (List Char)
  | [] => [[]]
  | [c] => [[c]]
  | c :: d :: s =>
      if c = '\\' ∧ d = ',' then [] :: escapedPieces s
      else (escapedPieces (d :: s)).modifyHead (c :: ·)

theorem commaPieces_ne_nil (escaped : Bool) (s : List Char) :
    commaPieces escaped s ≠ [] := by
  induction s generalizing escaped with
  | nil => simp [commaPieces]
  | cons c s ih =>
      rw [commaPieces]
      split
      · simp
      · simpa using ih _

theorem commaPieces_cons (escaped : Bool) {c : Char} (hc : c ≠ ',')
    (s : List Char) :
    ∃ piece rest, commaPieces escaped (c :: s) = (c :: piece) :: rest ∧
      commaPieces (c = '\\') s = piece :: rest := by
  cases hrest : commaPieces (c = '\\') s with
  | nil => exact absurd hrest (commaPieces_ne_nil _ _)
  | cons piece rest =>
      refine ⟨piece, rest, ?_, rfl⟩
      rw [commaPieces, if_neg fun h => hc h.1, hrest, List.modifyHead_cons]

theorem commaPieces_of_ne {escaped : Bool} {c : Char} (hc : c ≠ ',')
    (s : List Char) : commaPieces escaped (c :: s) = commaPieces false (c :: s) := by
  rw [commaPieces, commaPieces, if_neg fun h => hc h.1, if_neg fun h => hc h.1]

theorem replaceEscapedCommas_cons {c : Char} {s : List Char}
    (h : c = '\\' → s.head? ≠ some ',') :
    replaceEscapedCommas (c :: s) = c :: replaceEscapedCommas s := by
  cases s with
  | nil => rfl
  | cons d s =>
      rw [replaceEscapedCommas, if_neg]
      rintro ⟨hc, rfl⟩
      exact h hc rfl

theorem splitOn_replaceEscapedCommas (s : List Char) :
    (replaceEscapedCommas s).splitOn ',' =
      (commaPieces false s).map replaceEscapedCommas := by
  induction s using replaceEscapedCommas.induct with
  | case1 => rfl
  | case2 c =>
      by_cases hc : c = ','
      · subst hc
        rfl
      · simp [replaceEscapedCommas, commaPieces, hc,
          List.splitOn_eq_singleton (show ',' ∉ [c] by simpa [eq_comm] using hc)]
  | case3 c d s hescaped ih =>
      obtain ⟨rfl, rfl⟩ := hescaped
      cases hpieces : commaPieces false s with
      | nil => exact absurd hpieces (commaPieces_ne_nil _ _)
      | cons piece rest =>
          rw [hpieces] at ih
          simp [replaceEscapedCommas, commaPieces, hpieces,
            List.splitOn_cons_eq_if_modifyHead, ih]
  | case4 c d s hplain ih =>
      rw [replaceEscapedCommas, if_neg hplain, List.splitOn_cons_eq_if_modifyHead,
        ih]
      by_cases hc : c = ','
      · subst hc
        simp [commaPieces, replaceEscapedCommas]
      · rw [if_neg (by simpa using hc)]
        obtain ⟨piece, rest, hcons, hrest⟩ := commaPieces_cons false hc (d :: s)
        have hfalse : commaPieces false (d :: s) = piece :: rest := by
          by_cases hd : d = ','
          · have hbackslash : c ≠ '\\' := fun heq => hplain ⟨heq, hd⟩
            simpa [hbackslash] using hrest
          · rw [← commaPieces_of_ne hd]
            exact hrest
        have hhead : c = '\\' → piece.head? ≠ some ',' := by
          intro hbackslash hcomma
          have hd : d ≠ ',' := fun heq => hplain ⟨hbackslash, heq⟩
          obtain ⟨tail, others, hpiece, -⟩ := commaPieces_cons false hd s
          rw [hpiece] at hfalse
          obtain ⟨rfl, -⟩ := List.cons.inj hfalse
          exact hd (by simpa using hcomma)
        rw [hcons, hfalse]
        simp [replaceEscapedCommas_cons hhead]

theorem splitOn_star_replaceEscapedCommas {s : List Char} (h : '*' ∉ s) :
    (replaceEscapedCommas s).splitOn '*' = escapedPieces s := by
  induction s using replaceEscapedCommas.induct with
  | case1 => rfl
  | case2 c => exact List.splitOn_eq_singleton h
  | case3 c d s hescaped ih =>
      rw [replaceEscapedCommas, escapedPieces, if_pos hescaped, if_pos hescaped,
        List.splitOn_cons_eq_if_modifyHead, if_pos (by simp),
        ih (fun hmem => h (by simp [hmem]))]
  | case4 c d s hplain ih =>
      have hc : c ≠ '*' := by
        rintro rfl
        exact h List.mem_cons_self
      rw [replaceEscapedCommas, escapedPieces, if_neg hplain, if_neg hplain,
        List.splitOn_cons_eq_if_modifyHead, if_neg (by simpa using hc),
        ih (fun hmem => h (List.mem_cons_of_mem c hmem))]

theorem ne_of_gAsciiIsspace {c d : Char} (h : gAsciiIsspace c = true)
    (hd : gAsciiIsspace d = false) : c ≠ d := by
  rintro rfl
  rw [h] at hd
  contradiction

theorem dropWhile_replaceEscapedCommas (s : List Char) :
    (replaceEscapedCommas s).dropWhile gAsciiIsspace =
      replaceEscapedCommas (s.dropWhile gAsciiIsspace) := by
  induction s using replaceEscapedCommas.induct with
  | case1 => rfl
  | case2 c =>
      by_cases hblank : gAsciiIsspace c = true <;>
        simp [replaceEscapedCommas, hblank]
  | case3 c d s hescaped ih =>
      obtain ⟨rfl, rfl⟩ := hescaped
      rfl
  | case4 c d s hplain ih =>
      rw [replaceEscapedCommas, if_neg hplain]
      by_cases hblank : gAsciiIsspace c = true
      · rw [List.dropWhile_cons_of_pos hblank, List.dropWhile_cons_of_pos hblank,
          ih]
      · rw [List.dropWhile_cons_of_neg hblank, List.dropWhile_cons_of_neg hblank,
          replaceEscapedCommas, if_neg hplain]

theorem replaceEscapedCommas_concat {c : Char} (hc : c ≠ ',') (s : List Char) :
    replaceEscapedCommas (s ++ [c]) = replaceEscapedCommas s ++ [c] := by
  induction s using replaceEscapedCommas.induct with
  | case1 => rfl
  | case2 d => simp [replaceEscapedCommas, hc]
  | case3 d e s hescaped ih =>
      simp only [List.cons_append, replaceEscapedCommas, if_pos hescaped, ih]
  | case4 d e s hplain ih =>
      simp only [List.cons_append, replaceEscapedCommas, if_neg hplain] at ih ⊢
      rw [ih]

theorem last_replaceEscapedCommas (s : List Char) (c : Char) :
    ∃ front last, replaceEscapedCommas (s ++ [c]) = front ++ [last] ∧
      (last = c ∨ last = '*') := by
  induction s using replaceEscapedCommas.induct with
  | case1 => exact ⟨[], c, rfl, .inl rfl⟩
  | case2 d =>
      by_cases hescaped : d = '\\' ∧ c = ','
      · exact ⟨[], '*', by simp [replaceEscapedCommas, hescaped], .inr rfl⟩
      · exact ⟨[d], c, by simp [replaceEscapedCommas, hescaped], .inl rfl⟩
  | case3 d e s hescaped ih =>
      obtain ⟨front, last, heq, hlast⟩ := ih
      refine ⟨'*' :: front, last, ?_, hlast⟩
      simp only [List.cons_append, replaceEscapedCommas, if_pos hescaped, heq]
  | case4 d e s hplain ih =>
      obtain ⟨front, last, heq, hlast⟩ := ih
      refine ⟨d :: front, last, ?_, hlast⟩
      simp only [List.cons_append] at heq
      simp only [List.cons_append, replaceEscapedCommas, if_neg hplain, heq]

theorem rdropWhile_replaceEscapedCommas (s : List Char) :
    (replaceEscapedCommas s).rdropWhile gAsciiIsspace =
      replaceEscapedCommas (s.rdropWhile gAsciiIsspace) := by
  induction s using List.reverseRecOn with
  | nil => rfl
  | append_singleton s c ih =>
      by_cases hblank : gAsciiIsspace c = true
      · have hcomma : c ≠ ',' := ne_of_gAsciiIsspace hblank rfl
        rw [replaceEscapedCommas_concat hcomma,
          List.rdropWhile_concat_pos _ _ _ hblank,
          List.rdropWhile_concat_pos _ _ _ hblank, ih]
      · obtain ⟨front, last, heq, hlast⟩ := last_replaceEscapedCommas s c
        have hkept : ¬gAsciiIsspace last = true := by
          rcases hlast with rfl | rfl
          · exact hblank
          · decide
        rw [List.rdropWhile_concat_neg _ _ _ hblank, heq,
          List.rdropWhile_concat_neg _ _ _ hkept]

theorem gStrstrip_replaceEscapedCommas (s : List Char) :
    gStrstrip (replaceEscapedCommas s) = replaceEscapedCommas (gStrstrip s) := by
  have hstrip (s : List Char) : gStrstrip s =
      (s.dropWhile gAsciiIsspace).rdropWhile gAsciiIsspace := rfl
  rw [hstrip, hstrip, dropWhile_replaceEscapedCommas,
    rdropWhile_replaceEscapedCommas]

theorem actionParts_eq (actions : String) :
    actionParts actions =
      if actions.toList = [] then []
      else (actionTokens actions).map replaceEscapedCommas := by
  unfold actionParts actionTokens
  split_ifs with hempty
  · rw [hempty]
    rfl
  · have hrewritten : replaceEscapedCommas actions.toList ≠ [] := by
      obtain ⟨front, last, hrewritten, -⟩ := last_replaceEscapedCommas
        actions.toList.dropLast (actions.toList.getLast hempty)
      rw [List.dropLast_append_getLast] at hrewritten
      simp [hrewritten]
    rw [gStrsplit, if_neg hrewritten, splitOn_replaceEscapedCommas, List.map_map,
      List.map_map]
    exact List.map_congr_left fun piece _ => gStrstrip_replaceEscapedCommas piece

/-! ## Names -/

theorem replaceEscapedCommas_eq_self {s : List Char}
    (h : '*' ∉ replaceEscapedCommas s) : replaceEscapedCommas s = s := by
  induction s using replaceEscapedCommas.induct with
  | case1 => rfl
  | case2 c => rfl
  | case3 c d s hescaped ih =>
      rw [replaceEscapedCommas, if_pos hescaped] at h
      exact absurd List.mem_cons_self h
  | case4 c d s hplain ih =>
      rw [replaceEscapedCommas, if_neg hplain] at h ⊢
      rw [ih fun hmem => h (List.mem_cons_of_mem c hmem)]

theorem replaceEscapedCommas_append {s : List Char} (h : '\\' ∉ s)
    (rest : List Char) :
    replaceEscapedCommas (s ++ rest) = s ++ replaceEscapedCommas rest := by
  induction s with
  | nil => rfl
  | cons c s ih =>
      simp only [List.mem_cons, not_or] at h
      rw [List.cons_append, replaceEscapedCommas_cons fun hc => absurd hc.symm h.1,
        ih h.2, List.cons_append]

theorem exists_of_replaceEscapedCommas_eq_cons {s rest : List Char} {c : Char}
    (hc : c ≠ '*') (h : replaceEscapedCommas s = c :: rest) :
    ∃ tail, s = c :: tail ∧ replaceEscapedCommas tail = rest := by
  cases s using replaceEscapedCommas.fun_cases with
  | case1 => contradiction
  | case2 d =>
      obtain ⟨rfl, rfl⟩ := List.cons.inj h
      exact ⟨[], rfl, rfl⟩
  | case3 d e s hescaped =>
      rw [replaceEscapedCommas, if_pos hescaped] at h
      exact absurd (List.cons.inj h).1.symm hc
  | case4 d e s hplain =>
      rw [replaceEscapedCommas, if_neg hplain] at h
      obtain ⟨rfl, rfl⟩ := List.cons.inj h
      exact ⟨e :: s, rfl, rfl⟩

theorem exists_of_replaceEscapedCommas_eq_append {name s rest : List Char}
    (hstar : '*' ∉ name) (h : replaceEscapedCommas s = name ++ rest) :
    ∃ tail, s = name ++ tail ∧ replaceEscapedCommas tail = rest := by
  induction name generalizing s with
  | nil => exact ⟨s, rfl, h⟩
  | cons c name ih =>
      simp only [List.mem_cons, not_or] at hstar
      obtain ⟨tail, rfl, htail⟩ :=
        exists_of_replaceEscapedCommas_eq_cons (Ne.symm hstar.1) h
      obtain ⟨last, rfl, hlast⟩ := ih hstar.2 htail
      exact ⟨last, rfl, hlast⟩

theorem actionTokens_of_empty {actions : String} (h : actions.toList = []) :
    actionTokens actions = [[]] := by
  rw [actionTokens, h]
  rfl

structure PlainName (name : List Char) : Prop where
  ne_nil : name ≠ []
  no_star : '*' ∉ name
  no_backslash : '\\' ∉ name

theorem mem_actionParts_iff {name : List Char} (hname : PlainName name)
    (actions : String) :
    name ∈ actionParts actions ↔ name ∈ actionTokens actions := by
  rw [actionParts_eq]
  split_ifs with hempty
  · simp [actionTokens_of_empty hempty, hname.ne_nil]
  · constructor
    · intro hmem
      obtain ⟨token, htoken, heq⟩ := List.mem_map.mp hmem
      have hself := replaceEscapedCommas_eq_self (s := token) (by
        rw [heq]
        exact hname.no_star)
      rwa [← heq, hself]
    · intro hmem
      refine List.mem_map.mpr ⟨name, hmem, ?_⟩
      simpa [replaceEscapedCommas] using
        replaceEscapedCommas_append hname.no_backslash []

theorem readAction_eq (actions : Actions) (part : List Char) :
    readAction actions part =
      { play := actions.play || decide ("Play".toList = part)
        ppause := actions.ppause || decide ("Pause".toList = part)
        seek := actions.seek || decide ("Seek".toList = part)
        timeseekMissing := actions.timeseekMissing &&
          !decide ("X_DLNA_SeekTime".toList = part)
        byteseek := actions.byteseek || decide ("X_DLNA_SeekByte".toList = part)
        next := actions.next || decide ("Next".toList = part)
        previous := actions.previous || decide ("Previous".toList = part) } := by
  unfold readAction
  split_ifs with hplay hpause hseek hnext hprevious htime hbyte
  case neg =>
    simp only [Ne.symm hplay, Ne.symm hpause, Ne.symm hseek, Ne.symm hnext,
      Ne.symm hprevious, Ne.symm htime, Ne.symm hbyte, decide_false,
      Bool.or_false, Bool.not_false, Bool.and_true]
  all_goals
    subst part
    simp

theorem foldl_readAction (actions : Actions) (parts : List (List Char)) :
    parts.foldl readAction actions =
      { play := actions.play || decide ("Play".toList ∈ parts)
        ppause := actions.ppause || decide ("Pause".toList ∈ parts)
        seek := actions.seek || decide ("Seek".toList ∈ parts)
        timeseekMissing := actions.timeseekMissing &&
          !decide ("X_DLNA_SeekTime".toList ∈ parts)
        byteseek := actions.byteseek ||
          decide ("X_DLNA_SeekByte".toList ∈ parts)
        next := actions.next || decide ("Next".toList ∈ parts)
        previous := actions.previous ||
          decide ("Previous".toList ∈ parts) } := by
  induction parts generalizing actions with
  | nil =>
      simp only [List.foldl_nil, List.not_mem_nil, decide_false, Bool.or_false,
        Bool.not_false, Bool.and_true]
  | cons part parts ih =>
      rw [List.foldl_cons, ih, readAction_eq]
      simp only [List.mem_cons, Bool.decide_or, Bool.or_assoc, Bool.not_or,
        Bool.and_assoc]

/-- The number behind the last `DMR-` of the class. -/
def CarriesVersion (version : Value) (dlnaDeviceClass : String) : Prop :=
  ∃ before text, dlnaDeviceClass.toList = before ++ ("DMR-".toList ++ text) ∧
    ¬"DMR-".toList <:+: text ∧ readReal text = version

def AtLeastVersion (least : ℚ) (dlnaDeviceClass : String) : Prop :=
  ∃ version, CarriesVersion version dlnaDeviceClass ∧ version.AtLeast least

/-- The version is no number, or below 1.5 by no more than rounding makes up. -/
def VersionMisread (dlnaDeviceClass : String) : Prop :=
  CarriesVersion .nan dlnaDeviceClass ∨
    ∃ version : ℚ, CarriesVersion (.finite version) dlnaDeviceClass ∧
      3 / 2 - 1 / 2 ^ 24 ≤ version ∧ version < 3 / 2

theorem carriesVersion_iff {version : Value} {dlnaDeviceClass : String} :
    CarriesVersion version dlnaDeviceClass ↔
      ∃ text, gStrrstr "DMR-".toList dlnaDeviceClass.toList =
          some ("DMR-".toList ++ text) ∧ readReal text = version := by
  have hlater (text : List Char) :
      "DMR-".toList <:+: 'M' :: 'R' :: '-' :: text ↔ "DMR-".toList <:+: text := by
    simp [List.infix_cons_iff]
  constructor
  · rintro ⟨before, text, heq, hlast, hread⟩
    exact ⟨text, gStrrstr_eq_some.mpr ⟨before, 'M' :: 'R' :: '-' :: text, heq, rfl,
      ⟨text, rfl⟩, (hlater text).not.mpr hlast⟩, hread⟩
  · rintro ⟨text, hpos, hread⟩
    obtain ⟨before, tail, heq, hrest, -, hlast⟩ := gStrrstr_eq_some.mp hpos
    have htail : tail = 'M' :: 'R' :: '-' :: text := (List.cons.inj hrest).2.symm
    exact ⟨before, text, heq, (hlater text).not.mp (htail ▸ hlast), hread⟩

theorem announcesSeekTime_iff_version (dlnaDeviceClass : String) :
    announcesSeekTime dlnaDeviceClass = true ↔
      ∃ version, CarriesVersion version dlnaDeviceClass ∧
        (single.round version).lt (.finite (3 / 2)) = false := by
  unfold announcesSeekTime
  constructor
  · intro h
    cases hpos : gStrrstr ['D', 'M', 'R', '-'] dlnaDeviceClass.toList with
    | none => simp [hpos] at h
    | some pos =>
        obtain ⟨before, tail, heq, rfl, ⟨text, rfl⟩, hlast⟩ :=
          gStrrstr_eq_some.mp hpos
        rw [hpos] at h
        exact ⟨_, carriesVersion_iff.mpr ⟨text, hpos, rfl⟩, by simpa [strtof] using h⟩
  · rintro ⟨version, hcarries, hreach⟩
    obtain ⟨text, hpos, rfl⟩ := carriesVersion_iff.mp hcarries
    have hpos' : gStrrstr ['D', 'M', 'R', '-'] dlnaDeviceClass.toList =
        some ('D' :: 'M' :: 'R' :: '-' :: text) := hpos
    simpa [hpos', strtof] using hreach

/-- The value before 1.5 is odd, so that the midpoint between them is read as 1.5. -/
theorem single_round_lt (x : ℚ) :
    (single.round (.finite x)).lt (.finite (3 / 2)) =
      decide (x < 3 / 2 - 1 / 2 ^ 24) := by
  have hlt := @Format.round_finite_lt single x 12582912 0 (by decide)
    (by norm_num [single]) (by norm_num [single]) (by decide) (by decide)
  norm_num [single] at hlt ⊢
  exact hlt

theorem announcesSeekTime_iff (dlnaDeviceClass : String) :
    announcesSeekTime dlnaDeviceClass = true ↔
      AtLeastVersion (3 / 2) dlnaDeviceClass ∨ VersionMisread dlnaDeviceClass := by
  rw [announcesSeekTime_iff_version]
  constructor
  · rintro ⟨version, hcarries, hreach⟩
    cases version with
    | finite version =>
        rw [single_round_lt, decide_eq_false_iff_not, not_lt] at hreach
        rcases le_or_gt (3 / 2) version with hleast | hbelow
        · exact .inl ⟨_, hcarries, hleast⟩
        · exact .inr (.inr ⟨version, hcarries, hreach, hbelow⟩)
    | infinite negative => exact .inl ⟨_, hcarries, hreach⟩
    | nan => exact .inr (.inl hcarries)
  · rintro (⟨version, hcarries, hleast⟩ | hnan | ⟨version, hcarries, hmidpoint, -⟩)
    · refine ⟨version, hcarries, ?_⟩
      cases version with
      | finite version =>
          rw [single_round_lt, decide_eq_false_iff_not, not_lt]
          have hversion : 3 / 2 ≤ version := hleast
          linarith
      | infinite negative => exact hleast
      | nan => exact hleast.elim
    · exact ⟨_, hnan, rfl⟩
    · refine ⟨_, hcarries, ?_⟩
      rw [single_round_lt, decide_eq_false_iff_not, not_lt]
      exact hmidpoint

def deviceClasses (info : DeviceInfo) (player : PlayerState) : List String :=
  match player.deviceProps.lookup "DeviceClasses" with
  | some (.strings classes) => classes
  | _ => info.dlnaClasses

theorem lookUpDlnaClasses_missing (info : DeviceInfo) (update : Update) :
    (lookUpDlnaClasses info update).1 = true ↔
      ∃ dlnaDeviceClass ∈ deviceClasses info update.player,
        announcesSeekTime dlnaDeviceClass = true := by
  have hclasses : (prvUpdatePropDlnaDeviceClasses info
      update.player.deviceProps).1.getD [] = deviceClasses info update.player := by
    unfold prvUpdatePropDlnaDeviceClasses deviceClasses
    by_cases hnone : info.dlnaClasses = []
    all_goals
      cases hvalue : update.player.deviceProps.lookup "DeviceClasses" with
      | none => simp [hnone]
      | some value => cases value <;> simp [hnone]
  simp only [lookUpDlnaClasses, hclasses, List.any_eq_true]

def FlagSays (player : PlayerState) (key : String) (condition : Prop) : Prop :=
  ∃ flag : Bool, player.prop key = some (.boolean flag) ∧
    (flag = true ↔ condition)

theorem FlagSays.congr {player : PlayerState} {key : String}
    {condition other : Prop} (h : FlagSays player key condition) :
    FlagSays player key other ↔ (condition ↔ other) := by
  obtain ⟨flag, hprop, hflag⟩ := h
  constructor
  · rintro ⟨flag', hprop', hflag'⟩
    have hsame : flag = flag' := by simpa [hprop] using hprop'
    rw [← hflag, hsame, hflag']
  · intro hiff
    exact ⟨flag, hprop, hflag.trans hiff⟩

theorem FlagSays.prop_eq {player other : PlayerState} {key : String}
    {condition other' : Prop} (h : FlagSays player key condition)
    (hother : FlagSays other key other') (hiff : condition ↔ other') :
    player.prop key = other.prop key := by
  obtain ⟨flag, hprop, hflag⟩ := h
  obtain ⟨flag', hprop', hflag'⟩ := hother
  have hsame : flag = flag' := by
    rw [Bool.eq_iff_iff, hflag, hflag', hiff]
  rw [hprop, hprop', hsame]

structure FlagsSay (player : PlayerState) (has : String → Prop)
    (announced : Prop) : Prop where
  canPlay : FlagSays player "CanPlay" (has "Play")
  canPause : FlagSays player "CanPause" (has "Pause")
  canGoNext : FlagSays player "CanGoNext" (has "Next")
  canGoPrevious : FlagSays player "CanGoPrevious" (has "Previous")
  canByteSeek : FlagSays player "CanByteSeek"
    (has "Seek" ∧ has "X_DLNA_SeekByte")
  canSeek : FlagSays player "CanSeek"
    (has "Seek" ∧ (announced → has "X_DLNA_SeekTime"))

theorem prop_changeBooleans_actionProps (actions : Actions) (update : Update) :
    let player := (changeBooleans (actionProps actions) update).player
    player.prop "CanPlay" = some (.boolean actions.play) ∧
      player.prop "CanPause" = some (.boolean actions.ppause) ∧
      player.prop "CanGoNext" = some (.boolean actions.next) ∧
      player.prop "CanGoPrevious" = some (.boolean actions.previous) ∧
      player.prop "CanByteSeek" =
        some (.boolean (actions.seek && actions.byteseek)) ∧
      player.prop "CanSeek" =
        some (.boolean (actions.seek && !actions.timeseekMissing)) := by
  simp [changeBooleans, actionProps]

theorem prvAddActions_eq (info : DeviceInfo) (actions : String)
    (update : Update) :
    prvAddActions info actions update =
      changeBooleans
        (actionProps (readActions (lookUpDlnaClasses info update).1
          (actionParts actions)))
        ((actionParts actions).foldl addSpeedsAction
          (lookUpDlnaClasses info update).2) := rfl

theorem flagsSay_prvAddActions (info : DeviceInfo) (actions : String)
    (update : Update) :
    FlagsSay (prvAddActions info actions update).player
      (fun name => name.toList ∈ actionTokens actions)
      (∃ dlnaDeviceClass ∈ deviceClasses info update.player,
        announcesSeekTime dlnaDeviceClass = true) := by
  have hmem (name : String) (hname : PlainName name.toList) :
      name.toList ∈ actionParts actions ↔ name.toList ∈ actionTokens actions :=
    mem_actionParts_iff hname actions
  have hseek := hmem "Seek" ⟨by decide, by decide, by decide⟩
  have htime := hmem "X_DLNA_SeekTime" ⟨by decide, by decide, by decide⟩
  have hbyte := hmem "X_DLNA_SeekByte" ⟨by decide, by decide, by decide⟩
  have hmissing := lookUpDlnaClasses_missing info update
  have hflags := foldl_readAction
    ⟨false, false, false, (lookUpDlnaClasses info update).1, false, false, false⟩
    (actionParts actions)
  simp only [Bool.false_or] at hflags
  rw [prvAddActions_eq, readActions]
  generalize (actionParts actions).foldl readAction _ = flags at hflags ⊢
  generalize (actionParts actions).foldl addSpeedsAction _ = update
  obtain ⟨hplay, hpause, hnext, hprevious, hbyteSeek, hcanSeek⟩ :=
    prop_changeBooleans_actionProps flags update
  refine ⟨⟨_, hplay, ?_⟩, ⟨_, hpause, ?_⟩, ⟨_, hnext, ?_⟩, ⟨_, hprevious, ?_⟩,
    ⟨_, hbyteSeek, ?_⟩, ⟨_, hcanSeek, ?_⟩⟩
  all_goals rw [hflags]
  · rw [decide_eq_true_iff]
    exact hmem "Play" ⟨by decide, by decide, by decide⟩
  · rw [decide_eq_true_iff]
    exact hmem "Pause" ⟨by decide, by decide, by decide⟩
  · rw [decide_eq_true_iff]
    exact hmem "Next" ⟨by decide, by decide, by decide⟩
  · rw [decide_eq_true_iff]
    exact hmem "Previous" ⟨by decide, by decide, by decide⟩
  · rw [Bool.and_eq_true, decide_eq_true_iff, decide_eq_true_iff, hseek, hbyte]
  · simp only [Bool.and_eq_true, Bool.not_and, Bool.not_not, Bool.or_eq_true,
      decide_eq_true_iff, hseek, htime]
    rw [← hmissing, imp_iff_not_or, Bool.not_eq_true', Bool.not_eq_true]

/-! ## Lists of speeds -/

def LastSpeeds (tokens : List (List Char)) (value : List Char) : Prop :=
  ∃ before after, tokens = before ++ (speedsAction ++ value) :: after ∧
    ∀ token ∈ after, ¬speedsAction <+: token

theorem dlnaSpeeds_replaceEscapedCommas (value : List Char) :
    dlnaSpeeds (replaceEscapedCommas (speedsAction ++ value)) =
      some (gStrsplit (replaceEscapedCommas value) '*') := by
  rw [replaceEscapedCommas_append (by decide), dlnaSpeeds,
    if_pos (List.isPrefixOf_iff_prefix.mpr (List.prefix_append _ _)),
    List.drop_left]

theorem dlnaSpeeds_eq_none {token : List Char} (h : ¬speedsAction <+: token) :
    dlnaSpeeds (replaceEscapedCommas token) = none := by
  rw [dlnaSpeeds, if_neg]
  intro hstarts
  obtain ⟨rest, heq⟩ := List.isPrefixOf_iff_prefix.mp hstarts
  obtain ⟨tail, rfl, -⟩ :=
    exists_of_replaceEscapedCommas_eq_append (by decide) heq.symm
  exact h (List.prefix_append _ _)

theorem foldl_addSpeedsAction_of_none {parts : List (List Char)}
    (h : ∀ part ∈ parts, dlnaSpeeds part = none) (update : Update) :
    parts.foldl addSpeedsAction update = update := by
  induction parts generalizing update with
  | nil => rfl
  | cons part parts ih =>
      have hfirst : addSpeedsAction update part = update := by
        rw [addSpeedsAction, h part List.mem_cons_self]
      rw [List.foldl_cons, hfirst, ih fun part hmem =>
        h part (List.mem_cons_of_mem _ hmem)]

theorem speeds_prvAddDlnaSpeeds (speeds : List (List Char)) (update : Update) :
    (prvAddDlnaSpeeds speeds update).player.prop "TransportPlaySpeeds" =
      some (.doubles ((validSpeeds (sortSpeeds (announcedSpeeds speeds))).map
        speedValue)) := by
  obtain ⟨rates, hrates, heq⟩ := prvAddDlnaSpeeds_eq speeds update
  rw [heq, speeds_prvAddPlayerSpeedProps, mprisTpSpeeds_eq hrates]
  rfl

theorem speeds_prvAddActions {info : DeviceInfo} {actions : String}
    {update : Update} {value : List Char}
    (h : LastSpeeds (actionTokens actions) value) :
    (prvAddActions info actions update).player.prop "TransportPlaySpeeds" =
      some (.doubles ((validSpeeds (sortSpeeds (announcedSpeeds
        (gStrsplit (replaceEscapedCommas value) '*')))).map speedValue)) := by
  obtain ⟨before, after, htokens, hlast⟩ := h
  have hempty : actions.toList ≠ [] := by
    intro hempty
    have hmem : speedsAction ++ value ∈ actionTokens actions := by
      rw [htokens]
      exact List.mem_append_right _ List.mem_cons_self
    rw [actionTokens_of_empty hempty, List.mem_singleton] at hmem
    have hne : speedsAction ≠ [] := by decide
    exact hne (List.append_eq_nil_iff.mp hmem).1
  have hnone : ∀ part ∈ after.map replaceEscapedCommas, dlnaSpeeds part = none := by
    intro part hmem
    obtain ⟨token, htoken, rfl⟩ := List.mem_map.mp hmem
    exact dlnaSpeeds_eq_none (hlast token htoken)
  have hparts : actionParts actions = before.map replaceEscapedCommas ++
      replaceEscapedCommas (speedsAction ++ value) ::
        after.map replaceEscapedCommas := by
    rw [actionParts_eq, if_neg hempty, htokens, List.map_append, List.map_cons]
  have hflags (flags : Actions) (update : Update) :
      (changeBooleans (actionProps flags) update).player.prop
          "TransportPlaySpeeds" = update.player.prop "TransportPlaySpeeds" :=
    (changesOnly_changeBooleans (actionProps flags) update).props
      "TransportPlaySpeeds" (by simp [actionProps])
  rw [prvAddActions_eq, hflags, hparts, List.foldl_append, List.foldl_cons,
    foldl_addSpeedsAction_of_none hnone, addSpeedsAction,
    dlnaSpeeds_replaceEscapedCommas]
  exact speeds_prvAddDlnaSpeeds _ _

theorem numerator_gStrstrip (s : List Char) :
    prvRationalGetNumerator (String.ofList (gStrstrip s)) =
      prvRationalGetNumerator (String.ofList s) := by
  simp only [prvRationalGetNumerator, String.toList_ofList, strtol_gStrstrip]

theorem denominator_gStrstrip (s : List Char) :
    prvRationalGetDenominator (String.ofList (gStrstrip s)) =
      prvRationalGetDenominator (String.ofList s) := by
  obtain ⟨before, after, heq, hbefore, hafter⟩ := gStrstrip_spec s
  have hslash {blanks : List Char} (h : ∀ c ∈ blanks, isspace c = true) :
      '/' ∉ blanks := by
    intro hmem
    have hblank := h '/' hmem
    contradiction
  have hbefore_ne : ∀ c ∈ before, decide (c ≠ '/') = true := by
    intro c hmem
    have hne : c ≠ '/' := fun hc => hslash hbefore (hc ▸ hmem)
    simpa using hne
  unfold prvRationalGetDenominator
  simp only [String.toList_ofList, strstr_singleton]
  by_cases hmem : '/' ∈ gStrstrip s
  · have hall : '/' ∈ s := by
      rw [heq]
      simp [hmem]
    have hrest : (gStrstrip s).dropWhile (· ≠ '/') ≠ [] := by
      intro hnil
      have hnone := List.dropWhile_eq_nil_iff.mp hnil '/' hmem
      simp at hnone
    have hdrop : s.dropWhile (· ≠ '/') =
        (gStrstrip s).dropWhile (· ≠ '/') ++ after := by
      conv_lhs => rw [heq]
      rw [List.dropWhile_append_of_pos hbefore_ne, List.dropWhile_append,
        if_neg (by simpa using hrest)]
    rw [if_pos hmem, if_pos hall]
    simp only
    rw [hdrop, List.tail_append_of_ne_nil hrest, strtol_append_blanks _ hafter]
  · have hall : '/' ∉ s := by
      rw [heq]
      simp [hmem, hslash hbefore, hslash hafter]
    rw [if_neg hmem, if_neg hall]

theorem invalid_gStrstrip (s : List Char) :
    prvRationalIsInvalid (String.ofList (gStrstrip s)) =
      prvRationalIsInvalid (String.ofList s) := by
  rw [prvRationalIsInvalid, numerator_gStrstrip, denominator_gStrstrip]
  rfl

theorem speedValue_gStrstrip (s : List Char) :
    speedValue (String.ofList (gStrstrip s)) = speedValue (String.ofList s) := by
  unfold speedValue prvRationalToDouble
  rw [numerator_gStrstrip, denominator_gStrstrip]

def speedValues (pieces : List (List Char)) : List ℚ :=
  (validSpeeds ("1" :: pieces.map String.ofList)).map speedValue

theorem announced_perm (speeds : List (List Char)) :
    ((validSpeeds (sortSpeeds (announcedSpeeds speeds))).map speedValue).Perm
      (speedValues speeds) := by
  have hannounced : (announcedSpeeds speeds).Perm
      ("1" :: speeds.map fun speed => String.ofList (gStrstrip speed)) :=
    (List.perm_append_singleton _ _).trans ((List.reverse_perm _).cons _)
  have hsorted : (sortSpeeds (announcedSpeeds speeds)).Perm
      ("1" :: speeds.map fun speed => String.ofList (gStrstrip speed)) :=
    (gListSort_perm _).trans hannounced
  have hvalid := hsorted.filter fun speed => !prvRationalIsInvalid speed
  refine (hvalid.map speedValue).trans (List.Perm.of_eq ?_)
  unfold speedValues validSpeeds
  rw [List.filter_cons, List.filter_cons, List.filter_map, List.filter_map]
  simp only [Function.comp_def, invalid_gStrstrip]
  split <;> simp [speedValue_gStrstrip]

theorem speedValues_gStrsplit {value : List Char} (h : '*' ∉ value) :
    speedValues (gStrsplit (replaceEscapedCommas value) '*') =
      speedValues (escapedPieces value) := by
  rw [gStrsplit]
  split_ifs with hempty
  · cases value using replaceEscapedCommas.fun_cases with
    | case1 => decide +kernel
    | case2 c => contradiction
    | case3 c d s hescaped => simp [replaceEscapedCommas, hescaped] at hempty
    | case4 c d s hplain => simp [replaceEscapedCommas, hplain] at hempty
  · rw [splitOn_star_replaceEscapedCommas h]

def flagKeys : List String :=
  ["CanPlay", "CanPause", "CanGoNext", "CanGoPrevious", "CanByteSeek", "CanSeek"]

theorem flags_of_same_tokens (info : DeviceInfo) {actions other : String}
    (update : Update)
    (h : ∀ token, token ∈ actionTokens other ↔ token ∈ actionTokens actions) :
    ∀ key ∈ flagKeys,
      (prvAddActions info other update).player.prop key =
        (prvAddActions info actions update).player.prop key := by
  have hflags := flagsSay_prvAddActions info actions update
  have hother := flagsSay_prvAddActions info other update
  have hname (name : String) : name.toList ∈ actionTokens other ↔
      name.toList ∈ actionTokens actions := h name.toList
  intro key hkey
  simp only [flagKeys, List.mem_cons, List.not_mem_nil, or_false] at hkey
  rcases hkey with rfl | rfl | rfl | rfl | rfl | rfl
  · exact hother.canPlay.prop_eq hflags.canPlay (hname _)
  · exact hother.canPause.prop_eq hflags.canPause (hname _)
  · exact hother.canGoNext.prop_eq hflags.canGoNext (hname _)
  · exact hother.canGoPrevious.prop_eq hflags.canGoPrevious (hname _)
  · exact hother.canByteSeek.prop_eq hflags.canByteSeek
      (and_congr (hname _) (hname _))
  · exact hother.canSeek.prop_eq hflags.canSeek
      (and_congr (hname _) (imp_congr_right fun _ => hname _))

/-- What the tokens of the actions and the versions of the classes say. -/
structure FollowsGrammar (info : DeviceInfo) (actions : String)
    (update : Update) : Prop where
  flags : FlagsSay (prvAddActions info actions update).player
    (fun name => name.toList ∈ actionTokens actions)
    (∃ dlnaDeviceClass ∈ deviceClasses info update.player,
      AtLeastVersion (3 / 2) dlnaDeviceClass)
  order : ∀ other,
    (∀ token, token ∈ actionTokens other ↔ token ∈ actionTokens actions) →
    ∀ key ∈ flagKeys,
      (prvAddActions info other update).player.prop key =
        (prvAddActions info actions update).player.prop key
  speeds : ∀ value, LastSpeeds (actionTokens actions) value → '*' ∉ value →
    ∃ values : List ℚ,
      (prvAddActions info actions update).player.prop
        "TransportPlaySpeeds" = some (.doubles values) ∧
      values.Perm (speedValues (escapedPieces value))

/-- Every flag but the one for seeking is published as the tokens say. -/
theorem followsGrammar_iff_canSeek (info : DeviceInfo) (actions : String)
    (update : Update) :
    FollowsGrammar info actions update ↔
      FlagSays (prvAddActions info actions update).player "CanSeek"
        ("Seek".toList ∈ actionTokens actions ∧
          ((∃ dlnaDeviceClass ∈ deviceClasses info update.player,
            AtLeastVersion (3 / 2) dlnaDeviceClass) →
            "X_DLNA_SeekTime".toList ∈ actionTokens actions)) := by
  have hflags := flagsSay_prvAddActions info actions update
  constructor
  · intro h
    exact h.flags.canSeek
  · intro hcanSeek
    refine ⟨{ hflags with canSeek := hcanSeek },
      fun other h => flags_of_same_tokens info update h, ?_⟩
    intro value hlast hstar
    refine ⟨_, speeds_prvAddActions hlast, ?_⟩
    rw [← speedValues_gStrsplit hstar]
    exact announced_perm _

/--
A misread version shows only where seeking needs to be announced by its time,
and is not, and no other class asks for that.
-/
theorem actions_follow_grammar_iff (info : DeviceInfo) (actions : String)
    (update : Update) :
    FollowsGrammar info actions update ↔
      ("Seek".toList ∈ actionTokens actions →
        "X_DLNA_SeekTime".toList ∉ actionTokens actions →
        (∃ dlnaDeviceClass ∈ deviceClasses info update.player,
          VersionMisread dlnaDeviceClass) →
        ∃ dlnaDeviceClass ∈ deviceClasses info update.player,
          AtLeastVersion (3 / 2) dlnaDeviceClass) := by
  have hcode := (flagsSay_prvAddActions info actions update).canSeek
  rw [followsGrammar_iff_canSeek, hcode.congr]
  simp only [announcesSeekTime_iff, and_or_left, exists_or]
  constructor
  · intro hsame hseek htime hmisread
    by_contra hnone
    exact htime ((hsame.mpr ⟨hseek, fun h => absurd h hnone⟩).2 (.inr hmisread))
  · intro hcondition
    refine and_congr_right fun hseek => ⟨fun h hexact => h (.inl hexact), ?_⟩
    rintro hexact (h | hmisread)
    · exact hexact h
    · by_contra htime
      exact htime (hexact (hcondition hseek htime hmisread))

theorem carriesVersion_of_text {text : List Char} {dlnaDeviceClass : String}
    (h : gStrrstr "DMR-".toList dlnaDeviceClass.toList =
      some ("DMR-".toList ++ text)) (version : Value) :
    CarriesVersion version dlnaDeviceClass ↔ readReal text = version := by
  rw [carriesVersion_iff]
  constructor
  · rintro ⟨text', htext, hread⟩
    rw [h, Option.some_inj] at htext
    rw [List.append_cancel_left htext, hread]
  · exact fun hread => ⟨text, h, hread⟩

/-- A version below 1.5 that is read as 1.5. -/
theorem version_below_announced :
    let info := { bareDescription with dlnaClasses := ["DMR-1.49999999"] }
    FlagSays (prvAddActions info "Seek" (.start playerNew)).player "CanSeek" False ∧
      ¬FollowsGrammar info "Seek" (.start playerNew) := by
  intro info
  have hcarries := @carriesVersion_of_text "1.49999999".toList
    "DMR-1.49999999" (by decide)
  have hread : readReal "1.49999999".toList = .finite (149999999 / 100000000) := by
    decide +kernel
  have hannounced : announcesSeekTime "DMR-1.49999999" = true :=
    (announcesSeekTime_iff _).mpr
      (.inr (.inr ⟨_, (hcarries _).mpr hread, by norm_num, by norm_num⟩))
  have hbelow : ¬AtLeastVersion (3 / 2) "DMR-1.49999999" := by
    rintro ⟨version, hversion, hleast⟩
    rw [hcarries, hread] at hversion
    subst hversion
    revert hleast
    norm_num [Value.AtLeast]
  have hclasses : deviceClasses info (Update.start playerNew).player =
      ["DMR-1.49999999"] := rfl
  have htime : "X_DLNA_SeekTime".toList ∉ actionTokens "Seek" := by decide
  have hcode := (flagsSay_prvAddActions info "Seek" (.start playerNew)).canSeek
  rw [hclasses] at hcode
  have hfalse : FlagSays (prvAddActions info "Seek" (.start playerNew)).player
      "CanSeek" False := by
    refine hcode.congr.mpr (iff_of_false ?_ not_false)
    rintro ⟨-, h⟩
    exact htime (h ⟨_, List.mem_singleton_self _, hannounced⟩)
  refine ⟨hfalse, fun h => hfalse.congr.mp h.flags.canSeek |>.mpr ⟨by decide, ?_⟩⟩
  rw [hclasses]
  rintro ⟨dlnaDeviceClass, hmem, hleast⟩
  rw [List.mem_singleton.mp hmem] at hleast
  exact absurd hleast hbelow

theorem actions_follow_grammar_classes :
    let info := { bareDescription with dlnaClasses := ["DMS-1.50", "M-DMR-1.50"] }
    let player (actions : String) :=
      (prvAddActions info actions (.start playerNew)).player
    let actions := "X_DLNA_SeekTime ,Seek,X_DLNA_PS=-1\\, 1/2"
    FlagSays (player "Seek, Play") "CanSeek" False ∧
      FlagSays (player actions) "CanSeek" True ∧
      ∃ values : List ℚ,
        (player actions).prop "TransportPlaySpeeds" = some (.doubles values) ∧
        values.Perm [1, -1, 1 / 2] := by
  intro info player actions
  have hcarries := @carriesVersion_of_text "1.50".toList "M-DMR-1.50" (by decide)
  have hread : readReal "1.50".toList = .finite (3 / 2) := by decide +kernel
  have hleast : ∃ dlnaDeviceClass ∈ deviceClasses info (Update.start playerNew).player,
      AtLeastVersion (3 / 2) dlnaDeviceClass :=
    ⟨"M-DMR-1.50", by decide, _, (hcarries _).mpr hread, le_refl _⟩
  have hplain := (actions_follow_grammar_iff info "Seek, Play"
    (.start playerNew)).mpr fun _ _ _ => hleast
  have htimed := (actions_follow_grammar_iff info actions
    (.start playerNew)).mpr fun _ _ _ => hleast
  have htime : "X_DLNA_SeekTime".toList ∉ actionTokens "Seek, Play" := by decide
  refine ⟨hplain.flags.canSeek.congr.mpr (iff_of_false ?_ not_false),
    htimed.flags.canSeek.congr.mpr (iff_of_true ⟨?_, fun _ => ?_⟩ trivial), ?_⟩
  · exact fun h => htime (h.2 hleast)
  · decide
  · decide
  obtain ⟨values, hvalues, hperm⟩ := htimed.speeds "-1\\, 1/2".toList
    ⟨["X_DLNA_SeekTime".toList, "Seek".toList], [], by decide, by decide⟩ (by decide)
  refine ⟨values, hvalues, hperm.trans (List.Perm.of_eq ?_)⟩
  decide +kernel

end DleynaRenderer.Player
