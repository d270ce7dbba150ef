import DleynaRenderer.Foundation.Fields
import DleynaRenderer.PushHost.Transfers

/-!
# The content features of a hosted file

`prv_compute_mime_and_dlna_header` writes down what the profile guesser found, in
the format of the `contentFeatures.dlna.org` header.  A reader of the header gets
the guess back, and each response carries the header of a file that was added at
the interface.
-/

namespace DleynaRenderer.PushHost

open EventSystem Fields

structure DlnaProfile where
  name : Option String
  mime : Option String
  deriving DecidableEq, Repr

def gupnpDlnaFlagsDlnaV15 : Nat := 2 ^ 20
def gupnpDlnaFlagsConnectionStall : Nat := 2 ^ 21
def gupnpDlnaFlagsBackgroundTransferMode : Nat := 2 ^ 22
def gupnpDlnaFlagsInteractiveTransferMode : Nat := 2 ^ 23
def gupnpDlnaFlagsStreamingTransferMode : Nat := 2 ^ 24

def gupnpDlnaOperationRange : Nat := 1
def gupnpDlnaConversionNone : Nat := 0

section

-- `g_content_type_is_a`, which asks the MIME database of the desktop
variable (isA : String → String → Bool)

/-- `none` for a MIME type that is not supported. -/
def dlnaFlags (mime : String) : Option Nat :=
  let flags := gupnpDlnaFlagsBackgroundTransferMode |||
    gupnpDlnaFlagsConnectionStall ||| gupnpDlnaFlagsDlnaV15
  if isA mime "image/*" then
    some (flags ||| gupnpDlnaFlagsInteractiveTransferMode)
  else if isA mime "audio/*" || isA mime "video/*" then
    some (flags ||| gupnpDlnaFlagsStreamingTransferMode)
  else none

/-- The header of a guess; it stays empty when no profile was found. -/
def dlnaHeader : Option DlnaProfile → String
  | none => ""
  | some profile =>
      (profile.name.map fun name => "DLNA.ORG_PN=" ++ name ++ ";").getD "" ++
      ("DLNA.ORG_OP=" ++
        String.ofList (formatHex 2 gupnpDlnaOperationRange) ++ ";") ++
      ("DLNA.ORG_CI=" ++
        String.ofList (formatHex 2 gupnpDlnaConversionNone) ++ ";") ++
      ((profile.mime.bind (dlnaFlags isA)).map fun flags =>
        "DLNA.ORG_FLAGS=" ++ String.ofList (formatHex 8 flags) ++
          "000000000000000000000000").getD ""

structure HostEnv.Guessed (env : HostEnv) (guess : Option DlnaProfile) :
    Prop where
  profileMime : env.profileMime = guess.bind (·.mime)
  header : env.dlnaHeader = PushHost.dlnaHeader isA guess

end

structure ContentFeatures where
  profileName : Option String
  operation : Option Nat
  conversion : Option Nat
  flags : Option Nat
  deriving DecidableEq, Repr

def valueOf (name : String) (fields : List Field) : Option (List Char) :=
  (fields.find? (·.name = name.toList)).map (·.value)

/-- The primary flags are the first eight digits. -/
def readContentFeatures (header : String) : ContentFeatures :=
  let fields := readFields header.toList
  { profileName := (valueOf "DLNA.ORG_PN" fields).map String.ofList
    operation := (valueOf "DLNA.ORG_OP" fields).map ofHex
    conversion := (valueOf "DLNA.ORG_CI" fields).map ofHex
    flags := (valueOf "DLNA.ORG_FLAGS" fields).map fun value =>
      ofHex (value.take 8) }

section

variable (isA : String → String → Bool)

def DlnaProfile.features (profile : DlnaProfile) : ContentFeatures :=
  { profileName := profile.name
    operation := some gupnpDlnaOperationRange
    conversion := some gupnpDlnaConversionNone
    flags := profile.mime.bind (dlnaFlags isA) }

def DlnaProfile.NamePlain (profile : DlnaProfile) : Prop :=
  ∀ name, profile.name = some name → ';' ∉ name.toList

def nameField (name : String) : Field :=
  ⟨"DLNA.ORG_PN".toList, name.toList⟩

def operationField : Field :=
  ⟨"DLNA.ORG_OP".toList, formatHex 2 gupnpDlnaOperationRange⟩

def conversionField : Field :=
  ⟨"DLNA.ORG_CI".toList, formatHex 2 gupnpDlnaConversionNone⟩

def flagsField (flags : Nat) : Field :=
  ⟨"DLNA.ORG_FLAGS".toList, formatHex 8 flags ++ List.replicate 24 '0'⟩

def DlnaProfile.fields (profile : DlnaProfile) : List Field :=
  (profile.name.map nameField).toList ++
  [operationField, conversionField] ++
  ((profile.mime.bind (dlnaFlags isA)).map flagsField).toList

theorem dlnaFlags_lt {mime : String} {flags : Nat}
    (h : dlnaFlags isA mime = some flags) : flags < 16 ^ 8 := by
  unfold dlnaFlags at h
  simp only at h
  split at h
  · obtain rfl := Option.some.inj h
    decide
  · split at h
    · obtain rfl := Option.some.inj h
      decide
    · contradiction

theorem formatHex_plain (width n : Nat) : ';' ∉ formatHex width n := by
  intro hmem
  have hdigit := isxdigit_of_mem_formatHex hmem
  contradiction

theorem nameField_plain {name : String} (h : ';' ∉ name.toList) :
    Plain (nameField name) := by
  refine ⟨?_, ?_, h⟩
  · show '=' ∉ "DLNA.ORG_PN".toList
    decide
  · show ';' ∉ "DLNA.ORG_PN".toList
    decide

theorem operationField_plain : Plain operationField := by
  refine ⟨?_, ?_, formatHex_plain _ _⟩
  · show '=' ∉ "DLNA.ORG_OP".toList
    decide
  · show ';' ∉ "DLNA.ORG_OP".toList
    decide

theorem conversionField_plain : Plain conversionField := by
  refine ⟨?_, ?_, formatHex_plain _ _⟩
  · show '=' ∉ "DLNA.ORG_CI".toList
    decide
  · show ';' ∉ "DLNA.ORG_CI".toList
    decide

theorem flagsField_plain (flags : Nat) : Plain (flagsField flags) := by
  refine ⟨?_, ?_, ?_⟩
  · show '=' ∉ "DLNA.ORG_FLAGS".toList
    decide
  · show ';' ∉ "DLNA.ORG_FLAGS".toList
    decide
  · have hzeros : ';' ∉ List.replicate 24 '0' := by simp
    show ';' ∉ formatHex 8 flags ++ List.replicate 24 '0'
    rw [List.mem_append]
    exact not_or_intro (formatHex_plain 8 flags) hzeros

def afterName (flags : Option Nat) : List Char :=
  printField operationField ++ ';' :: (printField conversionField ++
    ';' :: (flags.map fun flags => printField (flagsField flags)).getD [])

theorem readFields_afterName (flags : Option Nat) :
    readFields (afterName flags) =
      [operationField, conversionField] ++ (flags.map flagsField).toList := by
  unfold afterName
  rw [readFields_cons operationField_plain,
    readFields_cons conversionField_plain]
  cases flags with
  | none => rfl
  | some flags =>
      have hflags := readFields_printField (flagsField_plain flags)
      simpa using hflags

theorem toList_label {text label : String}
    (hlabel : text.toList = label.toList ++ ['=']) (value : String) :
    (text ++ value).toList = printField ⟨label.toList, value.toList⟩ := by
  rw [String.toList_append, hlabel, printField, List.append_assoc,
    List.singleton_append]

theorem toList_nameText (name : String) :
    ("DLNA.ORG_PN=" ++ name ++ ";").toList =
      printField (nameField name) ++ [';'] := by
  have hlabel : "DLNA.ORG_PN=".toList = "DLNA.ORG_PN".toList ++ ['='] := by
    decide
  rw [String.toList_append, toList_label hlabel]
  rfl

theorem toList_operationText :
    ("DLNA.ORG_OP=" ++
      String.ofList (formatHex 2 gupnpDlnaOperationRange) ++ ";").toList =
      printField operationField ++ [';'] := by
  have hlabel : "DLNA.ORG_OP=".toList = "DLNA.ORG_OP".toList ++ ['='] := by
    decide
  rw [String.toList_append, toList_label hlabel, String.toList_ofList]
  rfl

theorem toList_conversionText :
    ("DLNA.ORG_CI=" ++
      String.ofList (formatHex 2 gupnpDlnaConversionNone) ++ ";").toList =
      printField conversionField ++ [';'] := by
  have hlabel : "DLNA.ORG_CI=".toList = "DLNA.ORG_CI".toList ++ ['='] := by
    decide
  rw [String.toList_append, toList_label hlabel, String.toList_ofList]
  rfl

theorem toList_flagsText (flags : Nat) :
    ("DLNA.ORG_FLAGS=" ++ String.ofList (formatHex 8 flags) ++
      "000000000000000000000000").toList = printField (flagsField flags) := by
  have hlabel : "DLNA.ORG_FLAGS=".toList =
      "DLNA.ORG_FLAGS".toList ++ ['='] := by decide
  have hzeros : "000000000000000000000000".toList = List.replicate 24 '0' := by
    decide
  have hdigits : (String.ofList (formatHex 8 flags)).toList =
      formatHex 8 flags := String.toList_ofList
  rw [String.append_assoc, toList_label hlabel, String.toList_append, hdigits,
    hzeros]
  rfl

theorem toList_dlnaHeader (profile : DlnaProfile) :
    (dlnaHeader isA (some profile)).toList =
      (profile.name.map fun name =>
        printField (nameField name) ++ [';']).getD [] ++
      afterName (profile.mime.bind (dlnaFlags isA)) := by
  have hname : ((profile.name.map fun name =>
      "DLNA.ORG_PN=" ++ name ++ ";").getD "").toList =
      (profile.name.map fun name =>
        printField (nameField name) ++ [';']).getD [] := by
    cases profile.name with
    | none => rfl
    | some name => exact toList_nameText name
  have hflags (flags : Option Nat) : ((flags.map fun flags =>
      "DLNA.ORG_FLAGS=" ++ String.ofList (formatHex 8 flags) ++
        "000000000000000000000000").getD "").toList =
      (flags.map fun flags => printField (flagsField flags)).getD [] := by
    cases flags with
    | none => rfl
    | some flags => exact toList_flagsText flags
  unfold dlnaHeader afterName
  rw [String.toList_append, String.toList_append, String.toList_append, hname,
    hflags, toList_operationText, toList_conversionText]
  simp only [List.append_assoc, List.cons_append, List.nil_append]

theorem length_dlnaHeader_pos (profile : DlnaProfile) :
    0 < (dlnaHeader isA (some profile)).length := by
  rw [← String.length_toList, toList_dlnaHeader, afterName]
  simp only [List.length_append, List.length_cons]
  omega

theorem readFields_dlnaHeader {profile : DlnaProfile}
    (hname : profile.NamePlain) :
    readFields (dlnaHeader isA (some profile)).toList = profile.fields isA := by
  rw [toList_dlnaHeader]
  unfold DlnaProfile.fields
  cases hprofile : profile.name with
  | none => simp [readFields_afterName]
  | some name =>
      have hplain := nameField_plain (hname name hprofile)
      simp only [Option.map_some, Option.getD_some, List.append_assoc,
        List.singleton_append]
      rw [readFields_cons hplain, readFields_afterName]
      simp

theorem ofHex_flagsField {flags : Nat} (h : flags < 16 ^ 8) :
    ofHex ((flagsField flags).value.take 8) = flags := by
  have hlength := length_formatHex (by decide) h
  unfold flagsField
  rw [List.take_left' hlength, ofHex_formatHex]

theorem valueOf_cons (name : String) (field : Field) (rest : List Field) :
    valueOf name (field :: rest) =
      if field.name = name.toList then some field.value
      else valueOf name rest := by
  unfold valueOf
  rw [List.find?_cons]
  by_cases hname : field.name = name.toList
  · simp [hname]
  · simp [hname]

theorem valueOf_afterName (flags : Option Nat) :
    let fields :=
      [operationField, conversionField] ++ (flags.map flagsField).toList
    valueOf "DLNA.ORG_PN" fields = none ∧
      valueOf "DLNA.ORG_OP" fields = some operationField.value ∧
      valueOf "DLNA.ORG_CI" fields = some conversionField.value ∧
      valueOf "DLNA.ORG_FLAGS" fields =
        flags.map fun flags => (flagsField flags).value := by
  cases flags with
  | none => decide
  | some flags => exact ⟨rfl, rfl, rfl, rfl⟩

theorem valueOf_fields (profile : DlnaProfile) :
    valueOf "DLNA.ORG_PN" (profile.fields isA) =
        profile.name.map String.toList ∧
      valueOf "DLNA.ORG_OP" (profile.fields isA) =
        some operationField.value ∧
      valueOf "DLNA.ORG_CI" (profile.fields isA) =
        some conversionField.value ∧
      valueOf "DLNA.ORG_FLAGS" (profile.fields isA) =
        (profile.mime.bind (dlnaFlags isA)).map fun flags =>
          (flagsField flags).value := by
  have hrest := valueOf_afterName (profile.mime.bind (dlnaFlags isA))
  unfold DlnaProfile.fields
  rw [List.append_assoc]
  cases profile.name with
  | none => exact hrest
  | some name =>
      obtain ⟨-, hop, hci, hflags⟩ := hrest
      have hop' : (nameField name).name ≠ "DLNA.ORG_OP".toList := by
        show "DLNA.ORG_PN".toList ≠ "DLNA.ORG_OP".toList
        decide
      have hci' : (nameField name).name ≠ "DLNA.ORG_CI".toList := by
        show "DLNA.ORG_PN".toList ≠ "DLNA.ORG_CI".toList
        decide
      have hflags' : (nameField name).name ≠ "DLNA.ORG_FLAGS".toList := by
        show "DLNA.ORG_PN".toList ≠ "DLNA.ORG_FLAGS".toList
        decide
      simp only [Option.map_some, Option.toList_some, List.singleton_append]
      refine ⟨rfl, ?_, ?_, ?_⟩
      · rw [valueOf_cons, if_neg hop', hop]
      · rw [valueOf_cons, if_neg hci', hci]
      · rw [valueOf_cons, if_neg hflags', hflags]

/-- A reader of the header gets the guessed profile back. -/
theorem readContentFeatures_dlnaHeader {profile : DlnaProfile}
    (hname : profile.NamePlain) :
    readContentFeatures (dlnaHeader isA (some profile)) =
      profile.features isA := by
  obtain ⟨hpn, hop, hci, hflags⟩ := valueOf_fields isA profile
  have hnames : (profile.name.map String.toList).map String.ofList =
      profile.name := by
    cases profile.name with
    | none => rfl
    | some name => simp
  have hvalue : (profile.mime.bind (dlnaFlags isA)).map (fun flags =>
      ofHex ((flagsField flags).value.take 8)) =
      profile.mime.bind (dlnaFlags isA) := by
    cases hfound : profile.mime.bind (dlnaFlags isA) with
    | none => rfl
    | some flags =>
        obtain ⟨mime, -, hmime⟩ := Option.bind_eq_some_iff.mp hfound
        rw [Option.map_some, ofHex_flagsField (dlnaFlags_lt isA hmime)]
  have hopValue : ofHex operationField.value = gupnpDlnaOperationRange :=
    ofHex_formatHex 2 gupnpDlnaOperationRange
  have hciValue : ofHex conversionField.value = gupnpDlnaConversionNone :=
    ofHex_formatHex 2 gupnpDlnaConversionNone
  unfold readContentFeatures DlnaProfile.features
  simp only [readFields_dlnaHeader isA hname, hpn, hop, hci, hflags, hnames,
    Option.map_some, hopValue, hciValue, Option.map_map]
  exact congrArg (ContentFeatures.mk _ _ _) hvalue

end

/-! ## Where an entry comes from -/

structure SameFile (old hf : HostFile) : Prop where
  mimeType : hf.mimeType = old.mimeType
  dlnaHeader : hf.dlnaHeader = old.dlnaHeader
  path : hf.path = old.path

def ComputedFrom (file : String) (env : HostEnv) (hf : HostFile) : Prop :=
  prvComputeMimeAndDlnaHeader file env = .ok (hf.mimeType, hf.dlnaHeader) ∧
    ∃ id, hf.path = hostFilePath file id

theorem ComputedFrom.congr {file : String} {env : HostEnv} {old hf : HostFile}
    (h : ComputedFrom file env old) (hsame : SameFile old hf) :
    ComputedFrom file env hf := by
  obtain ⟨hcompute, id, hpath⟩ := h
  refine ⟨?_, id, hsame.path.trans hpath⟩
  rw [hsame.mimeType, hsame.dlnaHeader]
  exact hcompute

theorem prvHostFileNew_computed {file : String} {id : Nat} {env : HostEnv}
    {hf : HostFile} (h : prvHostFileNew file id env = .ok hf) :
    ComputedFrom file env hf := by
  obtain ⟨-, hpath, -⟩ := prvHostFileNew_ok h
  refine ⟨?_, id, hpath⟩
  unfold prvHostFileNew at h
  split at h
  · split at h
    · contradiction
    · rename_i hcompute
      obtain rfl := Except.ok.inj h
      exact hcompute
  · contradiction

theorem mapHostFile_same {hf mapped : HostFile} {contents : Option Bytes}
    (h : mapHostFile hf contents = some mapped) : SameFile hf mapped := by
  unfold mapHostFile at h
  split at h
  · obtain rfl := Option.some.inj h
    exact ⟨rfl, rfl, rfl⟩
  · obtain ⟨_, -, rfl⟩ := Option.map_eq_some_iff.mp h
    exact ⟨rfl, rfl, rfl⟩

theorem prvSoupMessageFinishedCb_same (hf : HostFile) :
    SameFile hf (prvSoupMessageFinishedCb hf) := by
  unfold prvSoupMessageFinishedCb
  split
  · exact ⟨rfl, rfl, rfl⟩
  · exact ⟨rfl, rfl, rfl⟩

theorem modifyHostFile_of_absent {hs : HostService} {deviceIf file : String}
    {change : HostFile → HostFile} (h : hostFileAt hs deviceIf file = none) :
    modifyHostFile hs deviceIf file change = hs := by
  unfold modifyHostFile
  cases hserver : hs.servers.lookup deviceIf with
  | none => rfl
  | some server =>
      have hfile : server.files.lookup file = none := by
        simpa [hostFileAt, lookupFile, hserver] using h
      simp [hfile]

theorem origin_of_serverStep {server : HostServer} {event : HostEvent}
    {own : ServerEvent} {deviceIf file : String} {hf : HostFile}
    (hfile : server.files.lookup file = none)
    (hown : serverEvent deviceIf event = some own)
    (hadded : lookupFile (serverStep server own) file = some hf) :
    ∃ client env, event = .add deviceIf client file env ∧
      ComputedFrom file env hf := by
  obtain ⟨client, otherIf, env, new, rfl, hcreated, rfl⟩ :=
    serverStep_of_not_hosted hfile hadded
  obtain ⟨clients, heq⟩ := addClient_eq client new
  refine ⟨client, env, ?_,
    (prvHostFileNew_computed hcreated).congr (heq ▸ ⟨rfl, rfl, rfl⟩)⟩
  cases event with
  | add addedIf added addedFile addedEnv =>
      obtain ⟨rfl, hsame⟩ := Option.ite_none_right_eq_some.mp hown
      cases hsame
      rfl
  | remove removedIf removed removedFile =>
      obtain ⟨-, hsame⟩ := Option.ite_none_right_eq_some.mp hown
      cases hsame
  | lostClient lost => cases hown

theorem hostStep_origin {hs next : HostService} {event : HostEvent}
    {deviceIf file : String} {hf : HostFile}
    (hstep : hostStep hs event = some next)
    (hentry : hostFileAt next deviceIf file = some hf) :
    (∃ old, hostFileAt hs deviceIf file = some old ∧ SameFile old hf) ∨
    ∃ client env, event = .add deviceIf client file env ∧
      ComputedFrom file env hf := by
  cases hold : hostFileAt hs deviceIf file with
  | some old =>
      rcases hostStep_of_hosted hold hstep with
        ⟨-, hgone⟩ | ⟨-, clients, hkept⟩
      · rw [hgone] at hentry
        contradiction
      · rw [hkept] at hentry
        obtain rfl := Option.some.inj hentry
        exact .inl ⟨old, rfl, rfl, rfl, rfl⟩
  | none =>
      refine .inr ?_
      cases hserver : hs.servers.lookup deviceIf with
      | some server =>
          unfold hostFileAt at hold hentry
          rw [hserver] at hold
          rw [hostStep_of_running hserver hstep] at hentry
          cases hown : serverEvent deviceIf event with
          | none =>
              rw [hown, hold] at hentry
              contradiction
          | some own =>
              rw [hown] at hentry
              exact origin_of_serverStep hold hown hentry
      | none =>
          obtain ⟨server, hstarted, hfile⟩ := Option.bind_eq_some_iff.mp hentry
          obtain ⟨soupPort, own, hown, hstart⟩ :=
            hostStep_of_stopped hserver hstep hstarted
          have hempty :
              (prvHostServerFresh soupPort).files.lookup file = none := by
            simp [prvHostServerFresh]
          have hadded : lookupFile
              (serverStep (prvHostServerFresh soupPort) own) file =
              some hf := by
            rw [hstart]
            exact hfile
          exact origin_of_serverStep hempty hown hadded

theorem servingStep_origin {s next : Serving} {event : ServingEvent}
    {deviceIf file : String} {hf : HostFile}
    (hstep : servingStep s event = some next)
    (hentry : hostFileAt next.service deviceIf file = some hf) :
    (∃ old, hostFileAt s.service deviceIf file = some old ∧ SameFile old hf) ∨
    ∃ client env, event = .host (.add deviceIf client file env) ∧
      ComputedFrom file env hf := by
  cases event with
  | host event =>
      obtain ⟨service, hservice, rfl⟩ := Option.map_eq_some_iff.mp hstep
      rcases hostStep_origin hservice hentry with
        hold | ⟨client, env, rfl, hcomputed⟩
      · exact .inl hold
      · exact .inr ⟨client, env, rfl, hcomputed⟩
  | request otherIf request contents =>
      refine .inl ?_
      rcases request_hostFileAt hstep with
        ⟨hsame, -⟩ |
        ⟨-, served, old, mapped, -, -, -, hold, hmapped, hentries, -⟩
      · exact ⟨hf, by rw [← hsame, hentry], rfl, rfl, rfl⟩
      · rw [hentries] at hentry
        split at hentry
        · rename_i hserved
          obtain ⟨rfl, rfl⟩ := hserved
          obtain rfl := Option.some.inj hentry
          exact ⟨old, hold, mapHostFile_same hmapped⟩
        · exact ⟨hf, hentry, rfl, rfl, rfl⟩
  | finished transfer =>
      refine .inl ?_
      simp only [servingStep] at hstep
      obtain ⟨-, hstep⟩ := Option.ite_none_right_eq_some.mp hstep
      split at hstep
      · obtain rfl := Option.some.inj hstep
        exact ⟨hf, hentry, rfl, rfl, rfl⟩
      · obtain rfl := Option.some.inj hstep
        cases hold : hostFileAt s.service transfer.deviceIf transfer.file with
        | none =>
            simp only [modifyHostFile_of_absent hold] at hentry
            exact ⟨hf, hentry, rfl, rfl, rfl⟩
        | some old =>
            rw [hostFileAt_modifyHostFile hold] at hentry
            split at hentry
            · rename_i hserved
              obtain ⟨rfl, rfl⟩ := hserved
              obtain rfl := Option.some.inj hentry
              exact ⟨old, hold, prvSoupMessageFinishedCb_same old⟩
            · exact ⟨hf, hentry, rfl, rfl, rfl⟩

def MadeByAdds (events : List ServingEvent) (s : Serving) : Prop :=
  ∀ deviceIf file hf, hostFileAt s.service deviceIf file = some hf →
    ∃ client env, .host (.add deviceIf client file env) ∈ events ∧
      ComputedFrom file env hf

theorem run_madeByAdds {port : Nat} {events : List ServingEvent} {s : Serving}
    (hrun : exec servingStep (servingNew port) events = some s) :
    MadeByAdds events s := by
  have hmeets : Meets servingStep (fun _ _ => True) (servingNew port) events :=
    meets_of_forall_mem (fun _ _ _ => trivial) _
  refine exec_history MadeByAdds ?_ ?_ hrun hmeets
  · intro past s event next hmade _ hstep deviceIf file hf hentry
    rcases servingStep_origin hstep hentry with
      ⟨old, hold, hsame⟩ | ⟨client, env, rfl, hcomputed⟩
    · obtain ⟨client, env, hmem, hcomputed⟩ := hmade deviceIf file old hold
      exact ⟨client, env, List.mem_append_left _ hmem, hcomputed.congr hsame⟩
    · exact ⟨client, env, by simp, hcomputed⟩
  · intro deviceIf file hf hentry
    simp [hostFileAt, servingNew, dlrHostServiceNew, lookupFile] at hentry

/-! ## What a response says -/

theorem prvSoupServerCb_headers {server : HostServer} {request : SoupRequest}
    {contents : Option Bytes}
    (hok : (prvSoupServerCb server request contents).response.status = .ok) :
    ∃ file hf, server.files.lookup file = some hf ∧ hf.path = request.path ∧
      (prvSoupServerCb server request contents).response.contentType =
        some hf.mimeType ∧
      (prvSoupServerCb server request contents).response.contentFeatures =
        contentFeatures request hf := by
  rcases prvSoupServerCb_cases server request contents with
    ⟨hrefused, -⟩ | ⟨file, hf, mapped, hserves, hother, hmapped, -⟩
  · exact absurd hok hrefused
  · obtain ⟨hfound, hheader, -⟩ := hserves
    obtain ⟨hfile, hpath⟩ := prvHostServerFindFile_some hfound
    have hsame := mapHostFile_same hmapped
    have hmime := hsame.mimeType
    have hfeatures :
        contentFeatures request mapped = contentFeatures request hf := by
      unfold contentFeatures
      rw [hsame.dlnaHeader]
    refine ⟨file, hf, hfile, hpath, ?_⟩
    unfold prvSoupServerCb
    by_cases hget : request.method = .get
    · simp [hfound, hheader, hmapped, hget, hmime, hfeatures]
    · simp [hother, hfound, hheader, hmapped, hget, hmime, hfeatures]

theorem prvComputeMimeAndDlnaHeader_ok {file mime header : String}
    {env : HostEnv}
    (h : prvComputeMimeAndDlnaHeader file env = .ok (mime, header)) :
    env.profileMime.or env.contentMime = some mime ∧
      header = env.dlnaHeader := by
  unfold prvComputeMimeAndDlnaHeader at h
  cases hprofile : env.profileMime with
  | some profileMime =>
      rw [hprofile] at h
      cases h
      simp
  | none =>
      rw [hprofile] at h
      cases htype : env.contentType with
      | none => simp [htype] at h
      | some contentType =>
          cases hmime : env.contentMime with
          | none => simp [htype, hmime] at h
          | some contentMime =>
              simp only [htype, hmime, Except.ok.injEq, Prod.mk.injEq] at h
              simp [h]

def GuessesHeaders (isA : String → String → Bool) : ServingEvent → Prop
  | .host (.add _ _ _ env) => ∃ guess, env.Guessed isA guess ∧
      ∀ profile, guess = some profile → profile.NamePlain
  | _ => True

theorem readContentFeatures_of_guessed {isA : String → String → Bool}
    {env : HostEnv} {guess : Option DlnaProfile} (h : env.Guessed isA guess)
    (hplain : ∀ profile, guess = some profile → profile.NamePlain)
    {request : SoupRequest} {hf : HostFile}
    (hheader : hf.dlnaHeader = env.dlnaHeader) :
    (contentFeatures request hf).map readContentFeatures =
      if request.getContentFeatures.isSome then guess.map (·.features isA)
      else none := by
  unfold contentFeatures
  rw [hheader, h.header]
  cases request.getContentFeatures with
  | none => rfl
  | some asked =>
      cases guess with
      | none => rfl
      | some profile =>
          have hlength := length_dlnaHeader_pos isA profile
          have hread := readContentFeatures_dlnaHeader isA (hplain profile rfl)
          simp [hlength, hread]

/--
Whatever was hosted, served and removed before, a response that is served
describes a file that was added at its interface: its type is the type found for
that file, and its features, when asked for, are those of the profile guessed.
-/
theorem served_features_are_guessed {isA : String → String → Bool} {port : Nat}
    {events : List ServingEvent} {s : Serving}
    (hrun : exec servingStep (servingNew port) events = some s)
    (hguesses : ∀ event ∈ events, GuessesHeaders isA event)
    {deviceIf : String} {server : HostServer}
    (hserver : s.service.servers.lookup deviceIf = some server)
    {request : SoupRequest} {contents : Option Bytes}
    (hok : (prvSoupServerCb server request contents).response.status = .ok) :
    let response := (prvSoupServerCb server request contents).response
    ∃ file client env guess,
      .host (.add deviceIf client file env) ∈ events ∧
      env.Guessed isA guess ∧
      (∃ id, request.path = hostFilePath file id) ∧
      response.contentType = (guess.bind (·.mime)).or env.contentMime ∧
      response.contentFeatures.map readContentFeatures =
        if request.getContentFeatures.isSome then guess.map (·.features isA)
        else none := by
  intro response
  obtain ⟨file, hf, hfile, hpath, htype, hfeatures⟩ :=
    prvSoupServerCb_headers hok
  have hentry : hostFileAt s.service deviceIf file = some hf := by
    simpa [hostFileAt, lookupFile, hserver] using hfile
  obtain ⟨client, env, hmem, hcomputed, hid⟩ :=
    run_madeByAdds hrun deviceIf file hf hentry
  obtain ⟨guess, hguessed, hplain⟩ := hguesses _ hmem
  obtain ⟨hmime, hheader⟩ := prvComputeMimeAndDlnaHeader_ok hcomputed
  refine ⟨file, client, env, guess, hmem, hguessed, hpath ▸ hid, ?_, ?_⟩
  · rw [htype, ← hmime, hguessed.profileMime]
  · rw [hfeatures]
    exact readContentFeatures_of_guessed hguessed hplain hheader

/-- A picture that was guessed is served for interactive transfer. -/
theorem served_features_are_guessed_picture :
    let isA : String → String → Bool := fun mime type =>
      mime = "image/jpeg" && type = "image/*"
    let guess : Option DlnaProfile := some ⟨some "JPEG_SM", some "image/jpeg"⟩
    let env : HostEnv :=
      ⟨true, 8080, true, true, some "image/jpeg", none, none,
        dlnaHeader isA guess⟩
    let request : SoupRequest := ⟨.get, "/dleynarenderer/0.jpg", some "1"⟩
    ∃ s server, exec servingStep (servingNew 0)
        [.host (.add "192.168.1.2" ":1.7" "/a.jpg" env)] = some s ∧
      s.service.servers.lookup "192.168.1.2" = some server ∧
      let response := (prvSoupServerCb server request (some [1, 2])).response
      response.contentType = some "image/jpeg" ∧
      ∃ name, response.contentFeatures.map readContentFeatures =
        some ⟨name, some 1, some 0,
          some (2 ^ 20 + 2 ^ 21 + 2 ^ 22 + 2 ^ 23)⟩ := by
  intro isA guess env request
  have hplain : ∀ profile, guess = some profile → profile.NamePlain := by
    intro profile hprofile name hname
    obtain rfl := Option.some.inj hprofile
    obtain rfl := Option.some.inj hname
    decide
  have hguesses : ∀ event ∈
      [ServingEvent.host (.add "192.168.1.2" ":1.7" "/a.jpg" env)],
      GuessesHeaders isA event := by
    intro event hmem
    obtain rfl := List.mem_singleton.mp hmem
    exact ⟨guess, ⟨rfl, rfl⟩, hplain⟩
  refine ⟨_, _, rfl, rfl, ?_⟩
  intro response
  have hok : response.status = .ok := by decide
  obtain ⟨file, client, env', guess', hmem, hguessed, -, htype, hfeatures⟩ :=
    @served_features_are_guessed isA 0 _ _ rfl hguesses "192.168.1.2" _ rfl
      request (some [1, 2]) hok
  obtain ⟨-, -, -, rfl⟩ :=
    HostEvent.add.inj (ServingEvent.host.inj (List.mem_singleton.mp hmem))
  have hmime : guess'.bind (·.mime) = some "image/jpeg" :=
    hguessed.profileMime.symm
  obtain ⟨profile, rfl, hprofile⟩ := Option.bind_eq_some_iff.mp hmime
  refine ⟨htype.trans (by rw [hmime]; rfl), profile.name, hfeatures.trans ?_⟩
  show some (profile.features isA) = _
  unfold DlnaProfile.features
  rw [hprofile]
  rfl

end DleynaRenderer.PushHost
