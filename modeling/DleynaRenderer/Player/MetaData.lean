import DleynaRenderer.Player.Controls
import DleynaRenderer.Player.Signals

/-!
# Metadata of the current track

The metadata is a list of entries that is built by appending: anew from the
objects of a DIDL-Lite text, or from the present entries when an event carries
a duration or a URI alone.  As a map from keys to values it does not depend on
the way in which it was put together; that no key occurs twice does depend on
the text.
-/

namespace DleynaRenderer.Player

open CString EventSystem

def valuesOf (key : String) (entries : MetaData) : List MetaValue :=
  (entries.filter fun entry => entry.1 = key).map Prod.snd

def metaKeys (entries : MetaData) : List String := entries.map Prod.fst

@[simp] theorem valuesOf_nil (key : String) : valuesOf key [] = [] := rfl

@[simp] theorem valuesOf_cons (key : String) (entry : String × MetaValue)
    (entries : MetaData) :
    valuesOf key (entry :: entries) =
      if entry.1 = key then entry.2 :: valuesOf key entries
      else valuesOf key entries := by
  unfold valuesOf
  by_cases hkey : entry.1 = key <;> simp [hkey]

theorem metaKeys_append (entries more : MetaData) :
    metaKeys (entries ++ more) = metaKeys entries ++ metaKeys more :=
  List.map_append

theorem valuesOf_append (key : String) (entries more : MetaData) :
    valuesOf key (entries ++ more) = valuesOf key entries ++ valuesOf key more := by
  simp [valuesOf]

theorem valuesOf_of_not_mem {key : String} {entries : MetaData}
    (hkey : key ∉ metaKeys entries) : valuesOf key entries = [] := by
  induction entries with
  | nil => rfl
  | cons entry entries ih =>
      simp only [metaKeys, List.map_cons, List.mem_cons, not_or] at hkey
      rw [valuesOf_cons, if_neg (Ne.symm hkey.1)]
      exact ih hkey.2

def replaceValue (key : String) (value : MetaValue) (entries : MetaData) :
    MetaData :=
  entries.map fun entry => if key = entry.1 then (entry.1, value) else entry

theorem metaKeys_replaceValue (key : String) (value : MetaValue)
    (entries : MetaData) :
    metaKeys (replaceValue key value entries) = metaKeys entries := by
  induction entries with
  | nil => rfl
  | cons entry entries ih =>
      simp only [replaceValue, metaKeys, List.map_cons] at ih ⊢
      rw [ih]
      split <;> rfl

theorem valuesOf_replaceValue_ne {key other : String} (hne : other ≠ key)
    (value : MetaValue) (entries : MetaData) :
    valuesOf other (replaceValue key value entries) = valuesOf other entries := by
  induction entries with
  | nil => rfl
  | cons entry entries ih =>
      rw [replaceValue, List.map_cons, ← replaceValue, valuesOf_cons,
        valuesOf_cons, ih]
      by_cases hkey : key = entry.1
      · subst hkey
        simp [Ne.symm hne]
      · simp [hkey]

theorem mem_valuesOf_replaceValue {key : String} {value found : MetaValue}
    {entries : MetaData}
    (hmem : found ∈ valuesOf key (replaceValue key value entries)) :
    found = value := by
  induction entries with
  | nil => contradiction
  | cons entry entries ih =>
      rw [replaceValue, List.map_cons, ← replaceValue, valuesOf_cons] at hmem
      by_cases hkey : key = entry.1
      · rw [if_pos hkey, if_pos hkey.symm] at hmem
        rcases List.mem_cons.mp hmem with rfl | hrest
        · rfl
        · exact ih hrest
      · rw [if_neg hkey, if_neg (Ne.symm hkey)] at hmem
        exact ih hmem

theorem mergeEntry_eq (key : String) (value : MetaValue) (entries : MetaData) :
    mergeEntry key value entries =
      if key ∈ metaKeys entries then replaceValue key value entries
      else replaceValue key value entries ++ [(key, value)] := rfl

theorem metaKeys_mergeEntry (key : String) (value : MetaValue)
    (entries : MetaData) :
    metaKeys (mergeEntry key value entries) =
      if key ∈ metaKeys entries then metaKeys entries
      else metaKeys entries ++ [key] := by
  have hkeys := metaKeys_replaceValue key value entries
  rw [mergeEntry_eq]
  split
  · exact hkeys
  · rw [metaKeys_append, hkeys]
    rfl

theorem valuesOf_mergeEntry_ne {key other : String} (hne : other ≠ key)
    (value : MetaValue) (entries : MetaData) :
    valuesOf other (mergeEntry key value entries) = valuesOf other entries := by
  have hreplaced := valuesOf_replaceValue_ne hne value entries
  rw [mergeEntry_eq]
  split
  · exact hreplaced
  · rw [valuesOf_append, hreplaced]
    simp [Ne.symm hne]

def OnlyValue (key : String) (value : MetaValue) (entries : MetaData) : Prop :=
  valuesOf key entries ≠ [] ∧ ∀ found ∈ valuesOf key entries, found = value

theorem onlyValue_mergeEntry (key : String) (value : MetaValue)
    (entries : MetaData) : OnlyValue key value (mergeEntry key value entries) := by
  rw [OnlyValue, mergeEntry_eq]
  split
  case isTrue hmem =>
    refine ⟨?_, fun found => mem_valuesOf_replaceValue⟩
    intro hnil
    rw [← metaKeys_replaceValue key value entries] at hmem
    obtain ⟨entry, hentry, hkey⟩ := List.mem_map.mp hmem
    have hvalue : entry.2 ∈ valuesOf key (replaceValue key value entries) :=
      List.mem_map_of_mem (List.mem_filter.mpr ⟨hentry, by simpa using hkey⟩)
    rw [hnil] at hvalue
    contradiction
  case isFalse =>
    rw [valuesOf_append]
    refine ⟨by simp, ?_⟩
    intro found hfound
    rcases List.mem_append.mp hfound with hold | hnew
    · exact mem_valuesOf_replaceValue hold
    · simpa using hnew

theorem valuesOf_mergeEntry_new {key : String} {entries : MetaData}
    (hkey : key ∉ metaKeys entries) (value : MetaValue) :
    valuesOf key (mergeEntry key value entries) = [value] := by
  have hreplaced : key ∉ metaKeys (replaceValue key value entries) := by
    rwa [metaKeys_replaceValue]
  rw [mergeEntry_eq, if_neg hkey, valuesOf_append,
    valuesOf_of_not_mem hreplaced]
  simp

theorem nodup_metaKeys_mergeEntry {entries : MetaData}
    (h : (metaKeys entries).Nodup) (key : String) (value : MetaValue) :
    (metaKeys (mergeEntry key value entries)).Nodup := by
  rw [metaKeys_mergeEntry]
  split
  case isTrue => exact h
  case isFalse hkey =>
    apply List.nodup_append.mpr
    refine ⟨h, by simp, ?_⟩
    intro other hother found hfound
    obtain rfl := List.mem_singleton.mp hfound
    rintro rfl
    exact hkey hother

/-! ## The objects of a DIDL-Lite text -/

def itemKeys : List String :=
  ["mpris:trackid", "mpris:trackNumber", "xesam:title", "mpris:artUrl",
    "xesam:album", "xesam:genre", "xesam:artist", "xesam:albumArtist"]

theorem metaKeys_textEntry_sublist (key : String) (value : Option String) :
    (metaKeys (textEntry key value)).Sublist [key] := by
  cases value with
  | none => exact List.nil_sublist _
  | some value => exact .refl _

theorem metaKeys_prvFoundItem_sublist (object : DidlObject) :
    (metaKeys (prvFoundItem object)).Sublist itemKeys := by
  have hnumber {entries : MetaData} (hentries : entries = [] ∨
      ∃ number, entries = [("mpris:trackNumber", .int32 number)]) :
      (metaKeys entries).Sublist ["mpris:trackNumber"] := by
    rcases hentries with rfl | ⟨number, rfl⟩
    · exact List.nil_sublist _
    · exact .refl _
  have hartists (first second : MetaValue) : (metaKeys
      (if object.artists = [] then [] else
        [("xesam:artist", first), ("xesam:albumArtist", second)])).Sublist
      ["xesam:artist", "xesam:albumArtist"] := by
    split
    · exact List.nil_sublist _
    · exact .refl _
  unfold prvFoundItem
  simp only [metaKeys_append]
  refine ((((((List.Sublist.refl ["mpris:trackid"]).append (hnumber ?_)).append
    (metaKeys_textEntry_sublist _ _)).append
      (metaKeys_textEntry_sublist _ _)).append
        (metaKeys_textEntry_sublist _ _)).append
          (metaKeys_textEntry_sublist _ _)).append (hartists _ _)
  cases object.trackNumber with
  | none => exact .inl rfl
  | some number => exact .inr ⟨number, rfl⟩

theorem trackid_mem_prvFoundItem (object : DidlObject) :
    "mpris:trackid" ∈ metaKeys (prvFoundItem object) := by
  simp [prvFoundItem, metaKeys]

theorem metaKeys_items_subset (objects : List DidlObject) :
    metaKeys (objects.flatMap prvFoundItem) ⊆ itemKeys := by
  intro key hmem
  obtain ⟨entry, hentry, rfl⟩ := List.mem_map.mp hmem
  obtain ⟨object, -, hobject⟩ := List.mem_flatMap.mp hentry
  exact (metaKeys_prvFoundItem_sublist object).subset
    (List.mem_map_of_mem hobject)

theorem nodup_metaKeys_items_iff (objects : List DidlObject) :
    (metaKeys (objects.flatMap prvFoundItem)).Nodup ↔ objects.length ≤ 1 := by
  match objects with
  | [] => simp [metaKeys]
  | [object] =>
      have hitem := (metaKeys_prvFoundItem_sublist object).nodup (by decide)
      simpa using hitem
  | first :: second :: rest =>
      refine iff_of_false ?_ (by simp)
      intro hnodup
      rw [List.flatMap_cons, metaKeys_append, List.flatMap_cons,
        metaKeys_append] at hnodup
      have hdisjoint := (List.nodup_append.mp hnodup).2.2
      exact hdisjoint _ (trackid_mem_prvFoundItem first) _
        (List.mem_append_left _ (trackid_mem_prvFoundItem second)) rfl

theorem metadata_not_mem_reports (event : LastChange) :
    "Metadata" ∉ actionKeys event ++ stateKeys event := by
  intro hmem
  have hsubset := lastChangeTail_subset (List.subset_append_left
    (speedKeys ++ actionPropKeys)
    ["Rate", "PlaybackStatus", "NumberOfTracks", "CurrentTrack"])
    (List.subset_append_right _ _) event
  exact absurd (hsubset hmem) (by decide)

theorem metadata_prvLastChangeCb (info : DeviceInfo) (event : LastChange)
    (player : PlayerState) :
    (prvLastChangeCb info event player).prop "Metadata" =
      (addMetaData event (.start player)).player.prop "Metadata" :=
  (publishes_afterMetaData info event _).prop_eq
    (metadata_not_mem_reports event)

/-- The event with these fields about the current track, the others as they are. -/
def LastChange.about (event : LastChange) (metaData : Option Didl)
    (duration uri : Option String) : LastChange :=
  { event with metaData := metaData, duration := duration, uri := uri }

def lengthEntry (duration : Option String) : MetaData :=
  match duration with
  | none => []
  | some duration => [("mpris:length", .int64 (prvDurationToInt64 duration))]

def trackEntries (metaData : Didl) (duration uri : Option String) : MetaData :=
  lengthEntry duration ++ textEntry "xesam:url" uri ++
    metaData.objects.flatMap prvFoundItem

def mergedEntries (duration uri : Option String) (entries : MetaData) :
    MetaData :=
  let entries :=
    match duration with
    | none => entries
    | some duration =>
        mergeEntry "mpris:length" (.int64 (prvDurationToInt64 duration)) entries
  match uri with
  | none => entries
  | some uri => mergeEntry "xesam:url" (.string uri) entries

theorem metadata_of_parsed (info : DeviceInfo) (event : LastChange)
    {metaData : Didl} (hparsed : metaData.result ≠ .failed)
    (duration uri : Option String) (player : PlayerState) :
    (prvLastChangeCb info (event.about (some metaData) duration uri)
        player).prop "Metadata" =
      some (.dict (trackEntries metaData duration uri)) := by
  rw [metadata_prvLastChangeCb]
  simp only [addMetaData, LastChange.about, prvAddTrackMetaData]
  rw [if_neg hparsed, prop_prvChangeProps, if_pos rfl]
  rfl

theorem metadata_prvMergeMetaData (key : String) (value : MetaValue)
    (update : Update) :
    (prvMergeMetaData key value update).player.prop "Metadata" =
      some (.dict (mergeEntry key value (currentMetaData update.player))) := by
  rw [prvMergeMetaData, prop_prvChangeProps, if_pos rfl]

theorem metadata_of_merged (info : DeviceInfo) (event : LastChange)
    (duration uri : Option String) (player : PlayerState) :
    (prvLastChangeCb info (event.about none duration uri) player).prop
        "Metadata" =
      if duration = none ∧ uri = none then player.prop "Metadata"
      else some (.dict (mergedEntries duration uri (currentMetaData player))) := by
  rw [metadata_prvLastChangeCb]
  cases duration with
  | none =>
      cases uri with
      | none => rfl
      | some uri => exact metadata_prvMergeMetaData _ _ _
  | some duration =>
      have hlength := metadata_prvMergeMetaData "mpris:length"
        (.int64 (prvDurationToInt64 duration)) (.start player)
      cases uri with
      | none => exact hlength
      | some uri =>
          refine (metadata_prvMergeMetaData _ _ _).trans ?_
          have hcurrent : currentMetaData (prvMergeMetaData "mpris:length"
              (.int64 (prvDurationToInt64 duration)) (.start player)).player =
                mergeEntry "mpris:length"
                  (.int64 (prvDurationToInt64 duration))
                  (currentMetaData player) := by
            rw [currentMetaData, hlength]
            rfl
          exact congrArg (fun entries => some (Variant.dict
            (mergeEntry "xesam:url" (.string uri) entries))) hcurrent

theorem currentMetaData_of_merged (info : DeviceInfo) (event : LastChange)
    (duration uri : Option String) (player : PlayerState) :
    currentMetaData (prvLastChangeCb info (event.about none duration uri)
        player) =
      mergedEntries duration uri (currentMetaData player) := by
  rw [currentMetaData, metadata_of_merged]
  by_cases hnone : duration = none ∧ uri = none
  · obtain ⟨rfl, rfl⟩ := hnone
    rfl
  · rw [if_neg hnone]

theorem currentMetaData_of_parsed (info : DeviceInfo) (event : LastChange)
    {metaData : Didl} (hparsed : metaData.result ≠ .failed)
    (duration uri : Option String) (player : PlayerState) :
    currentMetaData (prvLastChangeCb info
        (event.about (some metaData) duration uri) player) =
      trackEntries metaData duration uri := by
  rw [currentMetaData, metadata_of_parsed info event hparsed]

/-! ## Metadata in pieces -/

def SameMap (entries others : MetaData) : Prop :=
  ∀ key, valuesOf key entries = valuesOf key others

def SameMetaData (player other : PlayerState) : Prop :=
  ∃ entries others, player.prop "Metadata" = some (.dict entries) ∧
    other.prop "Metadata" = some (.dict others) ∧ SameMap entries others

theorem SameMap.symm {entries others : MetaData} (h : SameMap entries others) :
    SameMap others entries := fun key => (h key).symm

theorem SameMap.trans {entries others more : MetaData}
    (h : SameMap entries others) (hmore : SameMap others more) :
    SameMap entries more := fun key => (h key).trans (hmore key)

theorem SameMap.cons {entries others : MetaData} (h : SameMap entries others)
    (entry : String × MetaValue) :
    SameMap (entry :: entries) (entry :: others) := by
  intro key
  rw [valuesOf_cons, valuesOf_cons, h key]

theorem sameMap_swap {first second : String × MetaValue}
    (hne : first.1 ≠ second.1) (entries : MetaData) :
    SameMap (first :: second :: entries) (second :: first :: entries) := by
  intro key
  simp only [valuesOf_cons]
  by_cases hfirst : first.1 = key
  · have hsecond : second.1 ≠ key := fun heq => hne (hfirst.trans heq.symm)
    simp [hfirst, hsecond]
  · simp [hfirst]

theorem sameMap_mergeEntry {key : String} {entries : MetaData}
    (hkey : key ∉ metaKeys entries) (value : MetaValue) :
    SameMap ((key, value) :: entries) (mergeEntry key value entries) := by
  intro other
  rw [valuesOf_cons]
  by_cases hother : key = other
  · subst hother
    rw [if_pos rfl, valuesOf_mergeEntry_new hkey, valuesOf_of_not_mem hkey]
  · rw [if_neg hother, valuesOf_mergeEntry_ne (Ne.symm hother)]

theorem sameMap_mergeEntry_twice {first second : String} {entries : MetaData}
    (hfirst : first ∉ metaKeys entries) (hsecond : second ∉ metaKeys entries)
    (hne : second ≠ first) (value other : MetaValue) :
    SameMap ((first, value) :: (second, other) :: entries)
      (mergeEntry second other (mergeEntry first value entries)) := by
  have hmerged := sameMap_mergeEntry hfirst value
  have hnew : second ∉ metaKeys (mergeEntry first value entries) := by
    rw [metaKeys_mergeEntry, if_neg hfirst]
    simp [hsecond, hne]
  exact (sameMap_swap (Ne.symm hne) entries).trans
    ((hmerged.cons (second, other)).trans (sameMap_mergeEntry hnew other))

theorem not_mem_metaKeys_items (objects : List DidlObject) :
    "mpris:length" ∉ metaKeys (objects.flatMap prvFoundItem) ∧
      "xesam:url" ∉ metaKeys (objects.flatMap prvFoundItem) := by
  constructor
  · intro hmem
    exact absurd (metaKeys_items_subset _ hmem) (by decide)
  · intro hmem
    exact absurd (metaKeys_items_subset _ hmem) (by decide)

theorem sameMap_trackEntries (metaData : Didl) (duration uri : String) :
    SameMap (trackEntries metaData (some duration) (some uri))
      (mergeEntry "xesam:url" (.string uri)
        (mergeEntry "mpris:length" (.int64 (prvDurationToInt64 duration))
          (trackEntries metaData none none))) := by
  obtain ⟨hlength, hurl⟩ := not_mem_metaKeys_items metaData.objects
  exact sameMap_mergeEntry_twice hlength hurl (by decide) _ _

theorem sameMap_trackEntries_swapped (metaData : Didl)
    (duration uri : String) :
    SameMap (trackEntries metaData (some duration) (some uri))
      (mergeEntry "mpris:length" (.int64 (prvDurationToInt64 duration))
        (mergeEntry "xesam:url" (.string uri)
          (trackEntries metaData none none))) := by
  obtain ⟨hlength, hurl⟩ := not_mem_metaKeys_items metaData.objects
  have hswap : SameMap (trackEntries metaData (some duration) (some uri))
      (("xesam:url", .string uri) ::
        ("mpris:length", .int64 (prvDurationToInt64 duration)) ::
          metaData.objects.flatMap prvFoundItem) :=
    sameMap_swap (by simp) _
  exact hswap.trans (sameMap_mergeEntry_twice hurl hlength (by decide) _ _)

theorem valuesOf_trackEntries (metaData : Didl) (duration uri key : String) :
    valuesOf key (trackEntries metaData (some duration) (some uri)) =
      if key = "mpris:length" then [.int64 (prvDurationToInt64 duration)]
      else if key = "xesam:url" then [.string uri]
      else valuesOf key (metaData.objects.flatMap prvFoundItem) := by
  obtain ⟨hlength, hurl⟩ := not_mem_metaKeys_items metaData.objects
  simp only [trackEntries, lengthEntry, textEntry, List.cons_append,
    List.nil_append, valuesOf_cons, eq_comm (b := key)]
  split_ifs with hkey hkey' hkey'
  · subst hkey
    simp at hkey'
  · rw [hkey, valuesOf_of_not_mem hlength]
  · rw [hkey', valuesOf_of_not_mem hurl]
  · rfl

/--
Metadata, duration and URI give the same entries in one event, in three and in
two; without metadata an event changes the entry of what it carries only, and
puts that there.
-/
theorem metadata_same_in_pieces (info : DeviceInfo) (player : PlayerState)
    {metaData : Didl} (hparsed : metaData.result ≠ .failed)
    (duration uri : String) (whole first second third : LastChange) :
    let atOnce := prvLastChangeCb info
      (whole.about (some metaData) (some duration) (some uri)) player
    let started := prvLastChangeCb info
      (first.about (some metaData) none none) player
    let withDuration (event : LastChange) (before : PlayerState) :=
      prvLastChangeCb info (event.about none (some duration) none) before
    let withUri (event : LastChange) (before : PlayerState) :=
      prvLastChangeCb info (event.about none none (some uri)) before
    SameMetaData atOnce (withUri third (withDuration second started)) ∧
      SameMetaData atOnce (withDuration third (withUri second started)) ∧
      SameMetaData atOnce (prvLastChangeCb info
        (second.about none (some duration) (some uri)) started) ∧
      (∀ key, valuesOf key (currentMetaData atOnce) =
        if key = "mpris:length" then [.int64 (prvDurationToInt64 duration)]
        else if key = "xesam:url" then [.string uri]
        else valuesOf key (metaData.objects.flatMap prvFoundItem)) ∧
      ∀ (before : PlayerState) (event : LastChange),
        OnlyValue "mpris:length" (.int64 (prvDurationToInt64 duration))
          (currentMetaData (withDuration event before)) ∧
        (∀ key ≠ "mpris:length",
          valuesOf key (currentMetaData (withDuration event before)) =
            valuesOf key (currentMetaData before)) ∧
        OnlyValue "xesam:url" (.string uri)
          (currentMetaData (withUri event before)) ∧
        ∀ key ≠ "xesam:url",
          valuesOf key (currentMetaData (withUri event before)) =
            valuesOf key (currentMetaData before) := by
  have hstarted := currentMetaData_of_parsed info first hparsed none none player
  have hwhole := metadata_of_parsed info whole hparsed (some duration) (some uri)
    player
  refine ⟨⟨_, _, hwhole, metadata_of_merged _ _ _ _ _, ?_⟩,
    ⟨_, _, hwhole, metadata_of_merged _ _ _ _ _, ?_⟩,
    ⟨_, _, hwhole, metadata_of_merged _ _ _ _ _, ?_⟩, ?_,
    fun before event => ⟨?_, ?_, ?_, ?_⟩⟩
  · rw [currentMetaData_of_merged, hstarted]
    exact sameMap_trackEntries metaData duration uri
  · rw [currentMetaData_of_merged, hstarted]
    exact sameMap_trackEntries_swapped metaData duration uri
  · rw [hstarted]
    exact sameMap_trackEntries metaData duration uri
  · intro key
    rw [currentMetaData_of_parsed info whole hparsed]
    exact valuesOf_trackEntries metaData duration uri key
  · rw [currentMetaData_of_merged]
    exact onlyValue_mergeEntry _ _ _
  · intro key hkey
    rw [currentMetaData_of_merged]
    exact valuesOf_mergeEntry_ne hkey _ _
  · rw [currentMetaData_of_merged]
    exact onlyValue_mergeEntry _ _ _
  · intro key hkey
    rw [currentMetaData_of_merged]
    exact valuesOf_mergeEntry_ne hkey _ _

def aTrack : Didl := ⟨[⟨some 3, some "A", none, none, none, []⟩], .parsed⟩

theorem metadata_same_in_pieces_aTrack :
    let started := prvLastChangeCb bareDescription
      (LastChange.about {} (some aTrack) none none) playerNew
    let timed := prvLastChangeCb bareDescription
      (LastChange.about {} none (some "0:01:00") none) started
    SameMetaData
        (prvLastChangeCb bareDescription
          (LastChange.about {} (some aTrack) (some "0:01:00")
            (some "http://10.0.0.1/a")) playerNew)
        (prvLastChangeCb bareDescription
          (LastChange.about {} none none (some "http://10.0.0.1/a")) timed) ∧
      OnlyValue "mpris:length" (.int64 60000000) (currentMetaData timed) ∧
      valuesOf "xesam:title" (currentMetaData timed) = [.string "A"] := by
  intro started timed
  obtain ⟨hsame, -, -, -, hevents⟩ := @metadata_same_in_pieces bareDescription
    playerNew aTrack (by decide) "0:01:00" "http://10.0.0.1/a" {} {} {} {}
  obtain ⟨hlength, hrest, -⟩ := hevents started {}
  refine ⟨hsame, ?_, (hrest "xesam:title" (by decide)).trans (by decide)⟩
  have hduration : prvDurationToInt64 "0:01:00" = 60000000 := by decide +kernel
  rw [← hduration]
  exact hlength

/-! ## Each key once -/

def MetaDataUnique (player : PlayerState) : Prop :=
  (metaKeys (currentMetaData player)).Nodup

instance (player : PlayerState) : Decidable (MetaDataUnique player) :=
  inferInstanceAs (Decidable (List.Nodup _))

theorem MetaDataUnique.of_prop_eq {player other : PlayerState}
    (h : MetaDataUnique player)
    (hprop : other.prop "Metadata" = player.prop "Metadata") :
    MetaDataUnique other := by
  unfold MetaDataUnique currentMetaData at h ⊢
  rwa [hprop]

def SingleItem : PlayerEvent → Prop
  | .lastChange event => ∀ metaData, event.metaData = some metaData →
      metaData.result ≠ .failed → metaData.objects.length ≤ 1
  | _ => True

theorem nodup_trackEntries_iff (metaData : Didl)
    (duration uri : Option String) :
    (metaKeys (trackEntries metaData duration uri)).Nodup ↔
      metaData.objects.length ≤ 1 := by
  have hlength : (metaKeys (lengthEntry duration)).Sublist ["mpris:length"] := by
    cases duration with
    | none => exact List.nil_sublist _
    | some duration => exact .refl _
  have hfront := hlength.append (metaKeys_textEntry_sublist "xesam:url" uri)
  rw [trackEntries, metaKeys_append, metaKeys_append,
    nodup_append_of_pools hfront.subset (metaKeys_items_subset _) (by decide),
    nodup_metaKeys_items_iff]
  exact and_iff_right (hfront.nodup (by decide))

theorem nodup_mergedEntries {entries : MetaData}
    (h : (metaKeys entries).Nodup) (duration uri : Option String) :
    (metaKeys (mergedEntries duration uri entries)).Nodup := by
  cases duration with
  | none =>
      cases uri with
      | none => exact h
      | some uri => exact nodup_metaKeys_mergeEntry h _ _
  | some duration =>
      have hlength := nodup_metaKeys_mergeEntry h "mpris:length"
        (.int64 (prvDurationToInt64 duration))
      cases uri with
      | none => exact hlength
      | some uri => exact nodup_metaKeys_mergeEntry hlength _ _

theorem metaDataUnique_prvLastChangeCb_iff (info : DeviceInfo)
    (event : LastChange) {player : PlayerState} (h : MetaDataUnique player) :
    MetaDataUnique (prvLastChangeCb info event player) ↔
      SingleItem (.lastChange event) := by
  have hevent : event.about event.metaData event.duration event.uri = event :=
    rfl
  rw [← hevent]
  generalize event.duration = duration
  generalize event.uri = uri
  cases event.metaData with
  | none =>
      refine iff_of_true ?_ (fun metaData hnone => nomatch hnone)
      rw [MetaDataUnique, currentMetaData_of_merged]
      exact nodup_mergedEntries h duration uri
  | some metaData =>
      by_cases hparsed : metaData.result = .failed
      · refine iff_of_true ?_ ?_
        · apply h.of_prop_eq
          rw [metadata_prvLastChangeCb]
          simp only [addMetaData, LastChange.about, prvAddTrackMetaData]
          rw [if_pos hparsed]
          rfl
        · rintro other hother hresult
          cases hother
          exact absurd hparsed hresult
      · rw [MetaDataUnique, currentMetaData_of_parsed info event hparsed,
          nodup_trackEntries_iff]
        constructor
        · rintro hone other hother -
          cases hother
          exact hone
        · intro hsingle
          exact hsingle metaData rfl hparsed

theorem metadata_resume_finishUpdate (player : PlayerState)
    (trigger : Option RcEvent) :
    (resume trigger (finishUpdate player)).prop "Metadata" =
      player.prop "Metadata" := by
  have hkeys : "Metadata" ∉ speedPropKeys player.minRate player.maxRate
      player.mprisTransportPlaySpeeds ++ allActions.map Prod.fst := by
    intro hmem
    rcases List.mem_append.mp hmem with hspeed | haction
    · exact absurd ((speedPropKeys_sublist _ _ _).subset hspeed) (by decide)
    · exact absurd haction (by decide)
  rw [(changesOnly_resume trigger _).props "Metadata" (by decide)]
  exact (emits_finishUpdate player).prop_eq hkeys

theorem metadata_playerStep {info : DeviceInfo} {run next : PlayerRun}
    {event : PlayerEvent} (hother : ∀ change, event ≠ .lastChange change)
    (hstep : playerStep info run event = some next) :
    next.player.prop "Metadata" = run.player.prop "Metadata" := by
  refine playerStep_invariant
    (motive := fun player => player.prop "Metadata" =
      run.player.prop "Metadata") rfl rfl ?_ (fun _ => rfl) ?_ ?_ hstep
  · intro allowedSpeeds bytePosition _
    exact (keeps_prvGetAvServiceStatesValues _ _ _).props "Metadata" (by decide)
  · intro player trigger _ hplayer
    exact (metadata_resume_finishUpdate player trigger).trans hplayer
  · intro player heffect
    exact (keeps_plainEffect hother heffect).props "Metadata" (by decide)

theorem metaDataUnique_playerStep_iff {info : DeviceInfo}
    {run next : PlayerRun} {event : PlayerEvent}
    (h : MetaDataUnique run.player)
    (hstep : playerStep info run event = some next) :
    MetaDataUnique next.player ↔ SingleItem event := by
  by_cases hchange : ∃ change, event = .lastChange change
  · obtain ⟨change, rfl⟩ := hchange
    obtain rfl := Option.some.inj hstep
    exact metaDataUnique_prvLastChangeCb_iff info change h
  · have hother : ∀ change, event ≠ .lastChange change :=
      fun change heq => hchange ⟨change, heq⟩
    refine iff_of_true (h.of_prop_eq (metadata_playerStep hother hstep)) ?_
    cases event with
    | lastChange change => exact absurd rfl (hother change)
    | _ => trivial

/--
In every state of a run the metadata has each key once exactly when no event of
the run has metadata that parses and contains two objects.
-/
theorem metadata_unique_iff_singleItem {info : DeviceInfo}
    {events : List PlayerEvent} {last : PlayerRun}
    (hrun : exec (playerStep info) playerRunNew events = some last) :
    Always (playerStep info) (fun run => MetaDataUnique run.player)
        playerRunNew events ↔
      Meets (playerStep info) (fun _ => SingleItem) playerRunNew events :=
  always_iff_meets
    (fun _ _ _ h hstep => metaDataUnique_playerStep_iff h hstep)
    (by decide) hrun

theorem metadata_unique_aTrack :
    Always (playerStep bareDescription) (fun run => MetaDataUnique run.player)
      playerRunNew [.lastChange { metaData := some aTrack }] := by
  obtain ⟨last, hrun⟩ : ∃ last, exec (playerStep bareDescription) playerRunNew
      [.lastChange { metaData := some aTrack }] = some last := ⟨_, rfl⟩
  refine (metadata_unique_iff_singleItem hrun).mpr ⟨?_, trivial⟩
  intro metaData hmeta _
  cases hmeta
  decide

def twoTracks : Didl :=
  ⟨[⟨some 1, some "A", none, none, none, []⟩,
    ⟨some 2, some "B", none, none, none, []⟩], .parsed⟩

theorem two_items_same_key :
    ∃ last, exec (playerStep bareDescription) playerRunNew
        [.lastChange { metaData := some twoTracks }] = some last ∧
      ¬ MetaDataUnique last.player :=
  ⟨_, rfl, by decide⟩

end DleynaRenderer.Player
