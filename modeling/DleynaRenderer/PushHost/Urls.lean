import DleynaRenderer.Foundation.Url
import DleynaRenderer.PushHost.Paths
import DleynaRenderer.PushHost.Triples

/-!
# Requesting a hosted file

The extension of a file goes into its URL as it is, and it may hold whatever
stands behind the last dot of the path of the file.  What a client then asks
for is the path of the file as long as the extension has no delimiter and no
escape in it, and the file that is found is the right one as long as no other
file of the server has the same number and extension.
-/

namespace DleynaRenderer.PushHost

open EventSystem

/-- Interfaces are named by their addresses, which have none of the delimiters. -/
def IsHost (deviceIf : String) : Prop := Url.IsAuthority deviceIf.toList

def requestPath (url : String) : String :=
  String.ofList (Url.requestPath url.toList)

def PlainExtension (file : String) : Prop :=
  Url.IsPlain (hostFileExtension file).toList

theorem mem_formatInt {n : Nat} {c : Char}
    (h : c ∈ (CString.formatInt n).toList) : c = '-' ∨ c.isDigit = true := by
  unfold CString.formatInt at h
  rw [Int.toString_eq_repr] at h
  cases hvalue : Int.bmod n (2 ^ 32) with
  | ofNat m =>
      rw [hvalue] at h
      exact .inr (CString.isdigit_of_mem_repr h)
  | negSucc m =>
      rw [hvalue] at h
      simp only [Int.repr, String.toList_append, List.mem_append] at h
      rcases h with hminus | hdigits
      · exact .inl (by simpa using hminus)
      · exact .inr (CString.isdigit_of_mem_repr hdigits)

theorem not_mem_formatInt {c : Char} (hminus : c ≠ '-')
    (hdigit : c.isDigit = false) (n : Nat) :
    c ∉ (CString.formatInt n).toList := by
  intro hmem
  rcases mem_formatInt hmem with rfl | htrue
  · exact hminus rfl
  · rw [htrue] at hdigit
    contradiction

theorem isPlain_hostFilePath_iff (file : String) (id : Nat) :
    Url.IsPlain (hostFilePath file id).toList ↔ PlainExtension file := by
  have hnone {c : Char} (hroot : c ∉ (dlrHostServiceRoot ++ "/").toList)
      (hminus : c ≠ '-') (hdigit : c.isDigit = false) :
      c ∉ (dlrHostServiceRoot ++ "/" ++ CString.formatInt id).toList := by
    have hnumber := not_mem_formatInt hminus hdigit id
    rw [String.toList_append, List.mem_append, not_or]
    exact ⟨hroot, hnumber⟩
  have hhash := hnone (c := '#') (by decide) (by decide) rfl
  have hquery := hnone (c := '?') (by decide) (by decide) rfl
  have hpercent := hnone (c := '%') (by decide) (by decide) rfl
  unfold hostFilePath PlainExtension Url.IsPlain
  rw [String.toList_append, List.mem_append, List.mem_append,
    Url.hasEscape_append hpercent]
  simp only [hhash, hquery, false_or]

theorem requestPath_hostUrl_iff {deviceIf : String} (hif : IsHost deviceIf)
    (soupPort : Nat) (file : String) (id : Nat) :
    requestPath (Hosted.url deviceIf ⟨soupPort, hostFilePath file id, []⟩) =
        hostFilePath file id ↔ PlainExtension file := by
  have hauthority :
      Url.IsAuthority (deviceIf ++ ":" ++ CString.formatInt soupPort).toList := by
    intro c hmem
    rw [String.toList_append, String.toList_append, List.mem_append,
      List.mem_append] at hmem
    rcases hmem with (hhost | hcolon) | hport
    · exact hif c hhost
    · rw [List.mem_singleton.mp hcolon]
      decide
    · rcases mem_formatInt hport with rfl | hdigit
      · decide
      · refine ⟨?_, ?_, ?_⟩
        all_goals
          rintro rfl
          exact absurd hdigit (by decide)
  obtain ⟨rest, hrest⟩ : ∃ rest, (hostFilePath file id).toList = '/' :: rest :=
    ⟨_, by simp only [hostFilePath, String.toList_append]; rfl⟩
  have hurl : (Hosted.url deviceIf ⟨soupPort, hostFilePath file id, []⟩).toList =
      "http://".toList ++ ((deviceIf ++ ":" ++
        CString.formatInt soupPort).toList ++ '/' :: rest) := by
    simp only [Hosted.url, String.toList_append, hrest, List.append_assoc]
  rw [← isPlain_hostFilePath_iff file id, requestPath, hurl, hrest,
    ← Url.requestPath_eq_self_iff hauthority]
  constructor
  · intro heq
    have hlist := congrArg String.toList heq
    rwa [String.toList_ofList, hrest] at hlist
  · intro heq
    rw [heq, ← hrest, String.ofList_toList]

def PathsMade (server : HostServer) : Prop :=
  ∀ file hf, server.files.lookup file = some hf →
    ∃ id, hf.path = hostFilePath file id

theorem serverStep_pathsMade {server next : HostServer} {event : ServerEvent}
    (h : PathsMade server) (hstep : serverStep server event = some next) :
    PathsMade next := by
  intro file hf hlookup
  rcases serverStep_lookup hstep hlookup with
    ⟨old, hold, -, hpath⟩ | ⟨-, -, -, -, hpath⟩
  · rw [hpath]
    exact h file old hold
  · exact ⟨server.counter, hpath⟩

theorem run_pathsMade {port : Nat} {events : List HostEvent} {hs : HostService}
    {deviceIf : String} {server : HostServer}
    (hrun : exec hostStep (dlrHostServiceNew port) events = some hs)
    (hserver : hs.servers.lookup deviceIf = some server) : PathsMade server := by
  obtain ⟨soupPort, life, -, hlife⟩ := run_server_life hrun hserver
  have hfresh : PathsMade (prvHostServerFresh soupPort) := by
    intro file hf hlookup
    simp [prvHostServerFresh] at hlookup
  exact exec_invariant PathsMade
    (fun _ _ _ h hstep => serverStep_pathsMade h hstep) hfresh hlife

theorem filesOpened_le_length (server : HostServer) (events : List ServerEvent) :
    filesOpened server events ≤ events.length := by
  induction events generalizing server with
  | nil => exact le_rfl
  | cons event events ih =>
      rw [filesOpened, List.length_cons]
      cases hstep : serverStep server event with
      | none =>
          simp only
          split <;> omega
      | some next =>
          have hrest := ih next
          simp only
          split <;> omega

theorem run_numbered_of_short {port : Nat} {events : List HostEvent}
    {hs : HostService} {deviceIf : String} {server : HostServer}
    (hrun : exec hostStep (dlrHostServiceNew port) events = some hs)
    (hserver : hs.servers.lookup deviceIf = some server)
    (hshort : events.length < 2 ^ 32) : server.Numbered := by
  obtain ⟨soupPort, life, hsuffix, hlife⟩ := run_server_life hrun hserver
  have hopened := filesOpened_le_length (prvHostServerFresh soupPort) life
  have hlength := hsuffix.length_le
  have hevents := List.length_filterMap_le (serverEvent deviceIf) events
  have hcounter : (prvHostServerFresh soupPort).counter = 0 := rfl
  exact (run_numbered (prvHostServerFresh_numbered soupPort) hlife
    (by omega)).1

/-- The file is found, in whatever order the table is gone through. -/
structure FindsOnly (server : HostServer) (path file : String) : Prop where
  found : ∃ hf, prvHostServerFindFile server path = some (file, hf)
  only : ∀ other hf, server.files.lookup other = some hf → hf.path = path →
    other = file

/-- No other file of the server has the number and the extension of this one. -/
def PathFree (server : HostServer) (file : String) : Prop :=
  ∀ hf other hf', server.files.lookup file = some hf →
    server.files.lookup other = some hf' → hf'.path = hf.path → other = file

theorem findsOnly_iff {server : HostServer} {file path : String} {hf : HostFile}
    (hfile : server.files.lookup file = some hf) :
    FindsOnly server path file ↔ path = hf.path ∧ PathFree server file := by
  constructor
  · rintro ⟨⟨found, hfound⟩, honly⟩
    obtain ⟨hlookup, hpath⟩ := prvHostServerFindFile_some hfound
    obtain rfl := Option.some.inj (hfile.symm.trans hlookup)
    refine ⟨hpath.symm, fun hf' other hf'' hfile' hother heq => ?_⟩
    obtain rfl := Option.some.inj (hfile.symm.trans hfile')
    exact honly other hf'' hother (heq.trans hpath)
  · rintro ⟨rfl, hfree⟩
    refine ⟨?_, fun other hf' hother heq => hfree hf other hf' hfile hother heq⟩
    cases hfind : prvHostServerFindFile server hf.path with
    | none =>
        unfold prvHostServerFindFile at hfind
        rw [Option.map_eq_none_iff, List.find?_eq_none] at hfind
        have hne := hfind _ (HashTable.lookup_eq_some_iff.mp hfile)
        simp at hne
    | some found =>
        obtain ⟨other, hf'⟩ := found
        obtain ⟨hlookup, hpath⟩ := prvHostServerFindFile_some hfind
        obtain rfl := hfree hf other hf' hfile hlookup hpath
        exact ⟨hf', rfl⟩

/--
As long as the file stays hosted, a request for its URL finds it exactly if its
extension is plain and no other file has the same path.  The latter does not
happen before the numbers start again.
-/
theorem hosted_url_found_iff {port : Nat} {events later : List HostEvent}
    {hs next last : HostService} {deviceIf client file url : String}
    {env : HostEnv} (hif : IsHost deviceIf)
    (hrun : exec hostStep (dlrHostServiceNew port) events = some hs)
    (hadd : dlrHostServiceAdd hs deviceIf client file env = (.ok url, next))
    (hlater : exec hostStep next later = some last)
    (hstill : Always hostStep
      (fun s => ∃ client', ⟨deviceIf, file, client'⟩ ∈ hostings s) next later) :
    ∃ server, last.servers.lookup deviceIf = some server ∧
      (FindsOnly server (requestPath url) file ↔
        PlainExtension file ∧ PathFree server file) ∧
      (events.length + later.length + 1 < 2 ^ 32 → PathFree server file) := by
  have hstep : hostStep hs (.add deviceIf client file env) = some next := by
    rw [hostStep, hadd]
  have hwhole : exec hostStep (dlrHostServiceNew port)
      (events ++ .add deviceIf client file env :: later) = some last := by
    rw [exec_append, hrun, Option.bind_some, exec_cons, hstep, Option.bind_some,
      hlater]
  have hurl : (dlrHostServiceAdd hs deviceIf client file env).1 = .ok url := by
    rw [hadd]
  obtain ⟨soupPort, path, rfl, hhosted⟩ := hostedAt_of_add_ok hurl
  rw [hadd] at hhosted
  obtain ⟨clients, hlast⟩ := run_hostedAt hhosted hlater hstill
  obtain ⟨server, hserver, hon⟩ := Option.bind_eq_some_iff.mp hlast
  obtain ⟨hf, hfile, heq⟩ := Option.map_eq_some_iff.mp hon
  obtain ⟨rfl, rfl, -⟩ := Hosted.mk.injEq .. ▸ heq
  obtain ⟨id, hpath⟩ := run_pathsMade hwhole hserver file hf hfile
  refine ⟨server, hserver, ?_, fun hshort => ?_⟩
  · rw [findsOnly_iff hfile, hpath, requestPath_hostUrl_iff hif]
  · have hnumbered := run_numbered_of_short hwhole hserver (by
      simp only [List.length_append, List.length_cons]
      omega)
    intro hf' other hf'' hfile' hother hsame
    exact hnumbered.eq_of_path hother hfile' hsame

/-- Blanks in the name and a dot in that of the folder do no harm. -/
theorem hosted_url_found_film :
    let env : HostEnv :=
      ⟨true, 8080, true, true, some "video/mp4", none, none, ""⟩
    ∃ url next server,
      dlrHostServiceAdd (dlrHostServiceNew 0) "192.168.1.2" ":1.7"
        "/home/a.b/last film" env = (.ok url, next) ∧
      next.servers.lookup "192.168.1.2" = some server ∧
      FindsOnly server (requestPath url) "/home/a.b/last film" := by
  intro env
  obtain ⟨url, next, hadd⟩ : ∃ url next,
      dlrHostServiceAdd (dlrHostServiceNew 0) "192.168.1.2" ":1.7"
        "/home/a.b/last film" env = (.ok url, next) := ⟨_, _, rfl⟩
  have hstill : Always hostStep
      (fun s => ∃ client',
        ⟨"192.168.1.2", "/home/a.b/last film", client'⟩ ∈ hostings s) next [] := by
    obtain ⟨-, rfl⟩ := Prod.mk.inj hadd
    exact ⟨":1.7", _, rfl, List.mem_singleton_self ":1.7"⟩
  have hhost : Url.IsAuthority "192.168.1.2".toList := by decide +kernel
  have hrun : exec hostStep (dlrHostServiceNew 0) [] =
      some (dlrHostServiceNew 0) := rfl
  obtain ⟨server, hserver, hfound, hfree⟩ :=
    hosted_url_found_iff hhost hrun hadd rfl hstill
  have hplain : Url.IsPlain (hostFileExtension "/home/a.b/last film").toList := by
    decide +kernel
  exact ⟨url, next, server, hadd, hserver,
    hfound.mpr ⟨hplain, hfree (by decide)⟩⟩

/-- The client takes what follows the hash sign for a fragment. -/
theorem hash_sign_not_found :
    let env : HostEnv :=
      ⟨true, 8080, true, true, some "audio/mpeg", none, none, ""⟩
    ∃ url next server,
      dlrHostServiceAdd (dlrHostServiceNew 0) "192.168.1.2" ":1.7"
        "/music/No. 1 #hit" env = (.ok url, next) ∧
      next.servers.lookup "192.168.1.2" = some server ∧
      url = "http://192.168.1.2:8080/dleynarenderer/0. 1 #hit" ∧
      requestPath url = "/dleynarenderer/0. 1 " ∧
      prvHostServerFindFile server (requestPath url) = none := by
  intro env
  refine ⟨_, _, _, rfl, rfl, ?_, ?_, ?_⟩
  all_goals decide +kernel

end DleynaRenderer.PushHost
