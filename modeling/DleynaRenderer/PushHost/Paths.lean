import DleynaRenderer.PushHost.Life

/-!
# Paths of hosted files

While a server has opened fewer than `2 ^ 32` files in its life, a path names at
most one of those it hosts, and no later one.
-/

namespace DleynaRenderer.PushHost

open EventSystem

theorem hostFileExtension_takeWhile (file : String) :
    (hostFileExtension file).toList.takeWhile (· ≠ '.') = [] := by
  unfold hostFileExtension CString.strrchr
  split <;> simp

theorem hostFilePath_id {file other : String} {m n : Nat} (hm : m < 2 ^ 32)
    (hn : n < 2 ^ 32) (h : hostFilePath file m = hostFilePath other n) :
    m = n := by
  have hnumber (file : String) (n : Nat) :
      ((CString.formatInt n).toList ++
        (hostFileExtension file).toList).takeWhile (· ≠ '.') =
          (CString.formatInt n).toList := by
    rw [List.takeWhile_append_of_pos, hostFileExtension_takeWhile,
      List.append_nil]
    intro c hc
    have hdot : c ≠ '.' := fun heq =>
      CString.dot_not_mem_toString _ (heq ▸ hc)
    simpa using hdot
  have hlist := congrArg String.toList h
  simp only [hostFilePath, String.toList_append, List.append_assoc] at hlist
  have htail := List.append_cancel_left (List.append_cancel_left hlist)
  have hdigits := congrArg (List.takeWhile (· ≠ '.')) htail
  rw [hnumber, hnumber] at hdigits
  exact CString.formatInt_injective hm hn hdigits

def opensFile (server : HostServer) : ServerEvent → Bool
  | .add _ _ file _ => (server.files.lookup file).isNone
  | .remove .. => false
  | .lostClient _ => false

/-- The calls of `prv_host_file_new` in the course of the events. -/
def filesOpened : HostServer → List ServerEvent → Nat
  | _, [] => 0
  | server, event :: events =>
      (if opensFile server event then 1 else 0) +
        match serverStep server event with
        | none => 0
        | some next => filesOpened next events

structure HostServer.Numbered (server : HostServer) : Prop where
  counter_lt : server.counter < 2 ^ 32
  fresh : ∀ file hf, server.files.lookup file = some hf →
    hf.id < server.counter
  path : ∀ file hf, server.files.lookup file = some hf →
    hf.path = hostFilePath file hf.id
  unique : ∀ file other hf hf', server.files.lookup file = some hf →
    server.files.lookup other = some hf' → hf.id = hf'.id → file = other

def SameHosting (old hf : HostFile) : Prop :=
  hf.id = old.id ∧ hf.path = old.path

theorem serverStep_lookup {server next : HostServer} {event : ServerEvent}
    (hstep : serverStep server event = some next) {file : String}
    {hf : HostFile} (hlookup : next.files.lookup file = some hf) :
    (∃ old, server.files.lookup file = some old ∧ SameHosting old hf) ∨
    (opensFile server event = true ∧ server.files.lookup file = none ∧
      (∃ client deviceIf env, event = .add client deviceIf file env) ∧
      hf.id = server.counter ∧
      hf.path = hostFilePath file server.counter) := by
  have hnext : lookupFile (serverStep server event) file = some hf := by
    rw [hstep]
    exact hlookup
  cases hold : server.files.lookup file with
  | some old =>
      rcases serverStep_of_hosted hold event with
        ⟨-, hnone⟩ | ⟨-, clients, hkept⟩
      · rw [hnone] at hnext
        contradiction
      · rw [hkept] at hnext
        obtain rfl := Option.some.inj hnext
        exact .inl ⟨old, rfl, rfl, rfl⟩
  | none =>
      obtain ⟨client, deviceIf, env, new, rfl, hnew, rfl⟩ :=
        serverStep_of_not_hosted hold hnext
      obtain ⟨hid, hpath, -⟩ := prvHostFileNew_ok hnew
      obtain ⟨clients, heq⟩ := addClient_eq client new
      rw [heq]
      exact .inr ⟨by simp [opensFile, hold], rfl, ⟨_, _, _, rfl⟩, hid, hpath⟩

theorem serverStep_counter {server next : HostServer} {event : ServerEvent}
    (hstep : serverStep server event = some next) :
    next.counter =
      if opensFile server event then (server.counter + 1) % 2 ^ 32
      else server.counter := by
  cases event with
  | add client deviceIf file env =>
      obtain rfl := Option.some.inj hstep
      rcases prvAddNewFile_spec server client deviceIf file env with
        ⟨hf, hlookup, heq⟩ | ⟨hlookup, -, hf, url, -, heq⟩ |
          ⟨hlookup, -, error, heq⟩
      all_goals rw [heq]; simp [opensFile, hlookup]
  | remove client file =>
      simp only [serverStep, removeFromServer] at hstep
      cases hlookup : server.files.lookup file with
      | none =>
          simp only [hlookup, Option.some.injEq] at hstep
          simp [← hstep, opensFile]
      | some hf =>
          cases hremove : prvRemoveClient client hf with
          | none =>
              simp only [hlookup, hremove, Option.some.injEq] at hstep
              simp [← hstep, opensFile]
          | some left =>
              simp only [hlookup, hremove,
                Option.ite_none_left_eq_some] at hstep
              obtain rfl := Option.some.inj hstep.2
              simp [pruneFile, opensFile]
  | lostClient client =>
      simp only [serverStep, lostClientServer,
        Option.ite_none_left_eq_some] at hstep
      obtain rfl := Option.some.inj hstep.2
      simp [opensFile]

theorem serverStep_numbered {server next : HostServer} {event : ServerEvent}
    (h : server.Numbered) (hstep : serverStep server event = some next)
    (hcalls : server.counter + (if opensFile server event then 1 else 0) <
      2 ^ 32) :
    next.Numbered ∧ next.counter =
      server.counter + if opensFile server event then 1 else 0 := by
  have hcounter : next.counter =
      server.counter + if opensFile server event then 1 else 0 := by
    rw [serverStep_counter hstep]
    split
    · rename_i hopens
      rw [if_pos hopens] at hcalls
      exact Nat.mod_eq_of_lt hcalls
    · rfl
  -- the opened file takes the counter, and no entry has that number
  have hold {file : String} {hf : HostFile}
      (hlookup : next.files.lookup file = some hf) :
      (∃ old, server.files.lookup file = some old ∧ hf.id = old.id ∧
        hf.path = hostFilePath file hf.id) ∨
      (opensFile server event = true ∧
        (∃ client deviceIf env, event = .add client deviceIf file env) ∧
        hf.id = server.counter ∧ hf.path = hostFilePath file hf.id) := by
    rcases serverStep_lookup hstep hlookup with
      ⟨old, hold, hid, hpath⟩ | ⟨hopens, -, hadd, hid, hpath⟩
    · exact .inl ⟨old, hold, hid, by rw [hpath, hid, h.path file old hold]⟩
    · exact .inr ⟨hopens, hadd, hid, by rw [hpath, hid]⟩
  refine ⟨⟨hcounter ▸ hcalls, ?_, ?_, ?_⟩, hcounter⟩
  · intro file hf hlookup
    rw [hcounter]
    rcases hold hlookup with ⟨old, hlookup, hid, -⟩ | ⟨hopens, -, hid, -⟩
    · have hlt := h.fresh file old hlookup
      omega
    · rw [if_pos hopens]
      omega
  · intro file hf hlookup
    rcases hold hlookup with ⟨old, -, -, hpath⟩ | ⟨-, -, -, hpath⟩
    · exact hpath
    · exact hpath
  · intro file other hf hf' hfile hother heq
    rcases hold hfile with ⟨old, hlookup, hid, -⟩ | ⟨-, hadd, hid, -⟩
    · have hlt := h.fresh file old hlookup
      rcases hold hother with ⟨old', hlookup', hid', -⟩ | ⟨-, -, hid', -⟩
      · exact h.unique file other old old' hlookup hlookup' (by omega)
      · omega
    · rcases hold hother with ⟨old', hlookup', hid', -⟩ | ⟨-, hadd', -, -⟩
      · have hlt := h.fresh other old' hlookup'
        omega
      · obtain ⟨_, _, _, rfl⟩ := hadd
        obtain ⟨_, _, _, hsame⟩ := hadd'
        cases hsame
        rfl

theorem prvHostServerFresh_numbered (soupPort : Nat) :
    (prvHostServerFresh soupPort).Numbered := by
  refine ⟨by simp [prvHostServerFresh], ?_, ?_, ?_⟩
  all_goals simp [prvHostServerFresh]

theorem filesOpened_cons_of_step {server next : HostServer}
    {event : ServerEvent} {events : List ServerEvent}
    (hstep : serverStep server event = some next) :
    filesOpened server (event :: events) =
      (if opensFile server event then 1 else 0) + filesOpened next events := by
  simp [filesOpened, hstep]

theorem filesOpened_append {server last : HostServer}
    {events later : List ServerEvent}
    (hrun : exec serverStep server events = some last) :
    filesOpened server (events ++ later) =
      filesOpened server events + filesOpened last later := by
  induction events generalizing server with
  | nil =>
      obtain rfl : server = last := by simpa using hrun
      simp [filesOpened]
  | cons event events ih =>
      obtain ⟨next, hstep, hrest⟩ := exec_cons_eq_some.mp hrun
      rw [List.cons_append, filesOpened_cons_of_step hstep,
        filesOpened_cons_of_step hstep, ih hrest, Nat.add_assoc]

theorem run_numbered {server last : HostServer} {events : List ServerEvent}
    (h : server.Numbered) (hrun : exec serverStep server events = some last)
    (hcalls : server.counter + filesOpened server events < 2 ^ 32) :
    last.Numbered ∧
      last.counter = server.counter + filesOpened server events := by
  induction events generalizing server with
  | nil =>
      obtain rfl : server = last := by simpa using hrun
      exact ⟨h, rfl⟩
  | cons event events ih =>
      obtain ⟨next, hstep, hrest⟩ := exec_cons_eq_some.mp hrun
      rw [filesOpened_cons_of_step hstep] at hcalls ⊢
      obtain ⟨hnext, hcounter⟩ := serverStep_numbered h hstep (by omega)
      obtain ⟨hlast, heq⟩ := ih hnext hrest (by omega)
      exact ⟨hlast, by omega⟩

/-! ## What a path finds -/

theorem prvHostServerFindFile_eq_none {server : HostServer} {url : String}
    (h : ∀ file hf, server.files.lookup file = some hf → hf.path ≠ url) :
    prvHostServerFindFile server url = none := by
  unfold prvHostServerFindFile
  rw [Option.map_eq_none_iff, List.find?_eq_none]
  rintro ⟨file, hf⟩ hmem
  simpa using h file hf (HashTable.lookup_eq_some_iff.mpr hmem)

theorem HostServer.Numbered.eq_of_path {server : HostServer}
    (h : server.Numbered) {file other : String} {hf hf' : HostFile}
    (hfile : server.files.lookup file = some hf)
    (hother : server.files.lookup other = some hf')
    (hpath : hf.path = hf'.path) : file = other := by
  rw [h.path file hf hfile, h.path other hf' hother] at hpath
  have hlt := Nat.lt_trans (h.fresh file hf hfile) h.counter_lt
  have hlt' := Nat.lt_trans (h.fresh other hf' hother) h.counter_lt
  exact h.unique file other hf hf' hfile hother (hostFilePath_id hlt hlt' hpath)

theorem prvHostServerFindFile_of_hosted {server : HostServer}
    (h : server.Numbered) {file : String} {hf : HostFile}
    (hfile : server.files.lookup file = some hf) :
    prvHostServerFindFile server hf.path = some (file, hf) := by
  cases hfind : prvHostServerFindFile server hf.path with
  | none =>
      unfold prvHostServerFindFile at hfind
      rw [Option.map_eq_none_iff, List.find?_eq_none] at hfind
      have hne := hfind _ (HashTable.lookup_eq_some_iff.mp hfile)
      simp at hne
  | some found =>
      obtain ⟨hlookup, hpath⟩ := prvHostServerFindFile_some hfind
      obtain rfl := h.eq_of_path hlookup hfile hpath
      rw [hfile] at hlookup
      cases hlookup
      rfl

/-- The number was given out and no file of the table has it. -/
structure Retired (id : Nat) (server : HostServer) : Prop where
  given : id < server.counter
  unused : ∀ file hf, server.files.lookup file = some hf → hf.id ≠ id

theorem serverStep_retired {server next : HostServer} {event : ServerEvent}
    {id : Nat} (h : Retired id server)
    (hstep : serverStep server event = some next)
    (hcounter : server.counter ≤ next.counter) : Retired id next := by
  refine ⟨Nat.lt_of_lt_of_le h.given hcounter, fun file hf hlookup => ?_⟩
  rcases serverStep_lookup hstep hlookup with
    ⟨old, hold, hid, -⟩ | ⟨-, -, -, hid, -⟩
  · rw [hid]
    exact h.unused file old hold
  · have hgiven := h.given
    omega

/-- A hosted file keeps its number, or the number is retired with it. -/
theorem serverStep_keeps_or_retires {server next : HostServer}
    {event : ServerEvent} (h : server.Numbered)
    (hstep : serverStep server event = some next)
    (hcounter : server.counter ≤ next.counter) {file : String} {hf : HostFile}
    (hfile : server.files.lookup file = some hf) :
    (∃ hf', next.files.lookup file = some hf' ∧ SameHosting hf hf') ∨
      (next.files.lookup file = none ∧ Retired hf.id next) := by
  cases hnext : next.files.lookup file with
  | some hf' =>
      rcases serverStep_lookup hstep hnext with
        ⟨old, hold, hsame⟩ | ⟨-, hnone, -⟩
      · rw [hfile] at hold
        cases hold
        exact .inl ⟨hf', rfl, hsame⟩
      · rw [hfile] at hnone
        contradiction
  | none =>
      have hgiven := h.fresh file hf hfile
      refine .inr ⟨rfl, by omega, fun other hf' hother hid => ?_⟩
      rcases serverStep_lookup hstep hother with
        ⟨old, hold, hid', -⟩ | ⟨-, -, -, hid', -⟩
      · have hsame := h.unique other file old hf hold hfile (by omega)
        rw [hsame, hnext] at hother
        contradiction
      · omega

theorem run_retired {server last : HostServer} {events : List ServerEvent}
    {id : Nat} (h : server.Numbered) (hretired : Retired id server)
    (hrun : exec serverStep server events = some last)
    (hcalls : server.counter + filesOpened server events < 2 ^ 32) :
    Retired id last := by
  induction events generalizing server with
  | nil =>
      obtain rfl : server = last := by simpa using hrun
      exact hretired
  | cons event events ih =>
      obtain ⟨next, hstep, hrest⟩ := exec_cons_eq_some.mp hrun
      rw [filesOpened_cons_of_step hstep] at hcalls
      obtain ⟨hnext, hcounter⟩ := serverStep_numbered h hstep (by omega)
      have hkept := serverStep_retired hretired hstep (by omega)
      exact ih hnext hkept hrest (by omega)

def Hosts (file : String) (server : HostServer) : Prop :=
  server.files.lookup file ≠ none

theorem run_keeps_or_retires {server last : HostServer}
    {events : List ServerEvent} {file : String} {hf : HostFile}
    (h : server.Numbered) (hfile : server.files.lookup file = some hf)
    (hrun : exec serverStep server events = some last)
    (hcalls : server.counter + filesOpened server events < 2 ^ 32) :
    (Always serverStep (Hosts file) server events →
      ∃ hf', last.files.lookup file = some hf' ∧ SameHosting hf hf') ∧
    (¬ Always serverStep (Hosts file) server events → Retired hf.id last) := by
  induction events generalizing server hf with
  | nil =>
      obtain rfl : server = last := by simpa using hrun
      refine ⟨fun _ => ⟨hf, hfile, rfl, rfl⟩, fun hnot => ?_⟩
      exact absurd (by simp [Always, Hosts, hfile]) hnot
  | cons event events ih =>
      obtain ⟨next, hstep, hrest⟩ := exec_cons_eq_some.mp hrun
      have hhosts : Hosts file server := by simp [Hosts, hfile]
      rw [filesOpened_cons_of_step hstep] at hcalls
      rw [always_cons_of_step hstep]
      obtain ⟨hnext, hcounter⟩ := serverStep_numbered h hstep (by omega)
      rcases serverStep_keeps_or_retires h hstep (by omega) hfile with
        ⟨hf', hfile', hid, hpath⟩ | ⟨hnone, hretired⟩
      · obtain ⟨hkeeps, hretires⟩ := ih hnext hfile' hrest (by omega)
        refine ⟨fun halways => ?_, fun hnot => ?_⟩
        · obtain ⟨hf'', hlast, hid', hpath'⟩ := hkeeps halways.2
          exact ⟨hf'', hlast, hid'.trans hid, hpath'.trans hpath⟩
        · exact hid ▸ hretires fun halways => hnot ⟨hhosts, halways⟩
      · refine ⟨fun halways => ?_, fun _ => ?_⟩
        · have hhosts : Hosts file next := always_head halways.2
          exact absurd hnone hhosts
        · exact run_retired hnext hretired hrest (by omega)

/-- A URL that an add returns ends in the path of the file, then in the table. -/
theorem prvAddNewFile_ok {server : HostServer}
    {client deviceIf file url : String} {env : HostEnv}
    (hurl : (prvAddNewFile server client deviceIf file env).1 = .ok url) :
    ∃ hf, (prvAddNewFile server client deviceIf file env).2.files.lookup file =
        some hf ∧ client ∈ hf.clients ∧
      url = "http://" ++ deviceIf ++ ":" ++
        CString.formatInt server.soupPort ++ hf.path := by
  rw [lookup_prvAddNewFile, if_pos rfl]
  unfold prvAddNewFile at hurl
  cases hlookup : server.files.lookup file with
  | some hf =>
      simp only [hlookup, Except.ok.injEq] at hurl
      refine ⟨addClient client hf, rfl, ?_, hurl.symm⟩
      unfold addClient
      split <;> simp_all
  | none =>
      cases hnew : prvHostFileNew file server.counter env with
      | error error => simp [hlookup, hnew] at hurl
      | ok hf =>
          simp only [hlookup, hnew, Except.ok.injEq] at hurl
          obtain ⟨-, -, hclients, -⟩ := prvHostFileNew_ok hnew
          refine ⟨addClient client hf, rfl, ?_, ?_⟩
          · simp [addClient, hclients]
          · obtain ⟨clients, hclients⟩ := addClient_eq client hf
            rw [hclients, ← hurl]
            rfl

/--
In the life of a server, the URL an add returns ends in the path of its file,
and the path of a file leads to it for as long as it stays hosted, and to no file
afterwards.
-/
theorem path_finds_its_hosting {soupPort : Nat}
    {events later : List ServerEvent} {server last : HostServer}
    (hrun : exec serverStep (prvHostServerFresh soupPort) events = some server)
    (hlater : exec serverStep server later = some last)
    (hcalls : filesOpened (prvHostServerFresh soupPort) (events ++ later) <
      2 ^ 32) :
    (∀ client deviceIf file env url,
      (prvAddNewFile server client deviceIf file env).1 = .ok url →
        ∃ next hf, serverStep server (.add client deviceIf file env) = some next ∧
          next.files.lookup file = some hf ∧ client ∈ hf.clients ∧
          url = "http://" ++ deviceIf ++ ":" ++
            CString.formatInt server.soupPort ++ hf.path) ∧
    (∀ file other hf hf', server.files.lookup file = some hf →
      server.files.lookup other = some hf' → file ≠ other →
      hf.path ≠ hf'.path) ∧
    ∀ file hf, server.files.lookup file = some hf →
      (Always serverStep (Hosts file) server later →
        ∃ hf', last.files.lookup file = some hf' ∧
          prvHostServerFindFile last hf.path = some (file, hf')) ∧
      (¬ Always serverStep (Hosts file) server later →
        prvHostServerFindFile last hf.path = none) := by
  have hcounter : (prvHostServerFresh soupPort).counter = 0 := rfl
  rw [filesOpened_append hrun] at hcalls
  obtain ⟨hserver, hopened⟩ :=
    run_numbered (prvHostServerFresh_numbered soupPort) hrun (by omega)
  have hbudget : server.counter + filesOpened server later < 2 ^ 32 := by omega
  obtain ⟨hlast, -⟩ := run_numbered hserver hlater hbudget
  refine ⟨fun client deviceIf file env url hurl => ?_,
    fun file other hf hf' hfile hother hne hpath =>
      hne (hserver.eq_of_path hfile hother hpath), fun file hf hfile => ?_⟩
  · obtain ⟨hf, hadded⟩ := prvAddNewFile_ok hurl
    exact ⟨_, hf, rfl, hadded⟩
  obtain ⟨hkeeps, hretires⟩ :=
    run_keeps_or_retires hserver hfile hlater hbudget
  refine ⟨fun halways => ?_, fun hnot => ?_⟩
  · obtain ⟨hf', hfile', -, hpath⟩ := hkeeps halways
    exact ⟨hf', hfile',
      hpath ▸ prvHostServerFindFile_of_hosted hlast hfile'⟩
  · have hretired := hretires hnot
    refine prvHostServerFindFile_eq_none fun other hf' hother hpath => ?_
    rw [hlast.path other hf' hother, hserver.path file hf hfile] at hpath
    have hlt := Nat.lt_trans (hlast.fresh other hf' hother) hlast.counter_lt
    have hlt' := Nat.lt_trans (hserver.fresh file hf hfile) hserver.counter_lt
    exact hretired.unused other hf' hother (hostFilePath_id hlt hlt' hpath)

/-- A file is removed while another keeps the server running, and hosted again. -/
theorem removed_path_finds_nothing :
    let env : HostEnv :=
      ⟨true, 8080, true, true, some "video/mp4", none, none, ""⟩
    let add (file : String) : ServerEvent := .add ":1.7" "192.168.1.2" file env
    ∃ next hf server last,
      (prvAddNewFile (prvHostServerFresh 8080) ":1.7" "192.168.1.2" "/a.mp4" env).1 =
        .ok "http://192.168.1.2:8080/dleynarenderer/0.mp4" ∧
      serverStep (prvHostServerFresh 8080) (add "/a.mp4") = some next ∧
      next.files.lookup "/a.mp4" = some hf ∧
      hf.path = "/dleynarenderer/0.mp4" ∧
      exec serverStep next [add "/b.mp4"] = some server ∧
      (∃ hf', prvHostServerFindFile server hf.path = some ("/a.mp4", hf')) ∧
      exec serverStep next
        [add "/b.mp4", .remove ":1.7" "/a.mp4", add "/a.mp4"] = some last ∧
      (last.files.lookup "/a.mp4").isSome = true ∧
      prvHostServerFindFile last hf.path = none := by
  intro env add
  have hurl : (prvAddNewFile (prvHostServerFresh 8080) ":1.7" "192.168.1.2"
      "/a.mp4" env).1 = .ok "http://192.168.1.2:8080/dleynarenderer/0.mp4" := by
    decide +kernel
  obtain ⟨next, hf, hstep, hfile, -, hpath⟩ :=
    (@path_finds_its_hosting 8080 [] [] _ _ rfl rfl (by decide)).1 _ _ _ _ _ hurl
  have hname : hf.path = "/dleynarenderer/0.mp4" := by
    have heq : "http://192.168.1.2:8080/dleynarenderer/0.mp4" =
        "http://" ++ "192.168.1.2" ++ ":" ++ CString.formatInt 8080 ++
          "/dleynarenderer/0.mp4" := by decide +kernel
    rw [heq] at hpath
    exact (String.append_right_inj _).mp hpath.symm
  have hnext : serverStep (prvHostServerFresh 8080) (add "/a.mp4") = some next :=
    hstep
  have hadded : exec serverStep (prvHostServerFresh 8080) [add "/a.mp4"] =
      some next := by
    rw [exec_cons, hnext]
    rfl
  obtain ⟨server, hserver⟩ : ∃ server,
      exec serverStep next [add "/b.mp4"] = some server := ⟨_, rfl⟩
  obtain ⟨last, hlast⟩ : ∃ last, exec serverStep next
      [add "/b.mp4", .remove ":1.7" "/a.mp4", add "/a.mp4"] = some last := by
    obtain rfl := Option.some.inj hnext
    exact ⟨_, rfl⟩
  have hkept := (path_finds_its_hosting hadded hserver (by decide)).2.2 _ hf hfile
  have hgone := (path_finds_its_hosting hadded hlast (by decide)).2.2 _ hf hfile
  refine ⟨next, hf, server, last, hurl, hnext, hfile, hname, hserver, ?_, hlast,
    ?_, ?_⟩
  · have hhosts : Always serverStep (Hosts "/a.mp4") next [add "/b.mp4"] := by
      obtain rfl := Option.some.inj hnext
      exact ⟨nofun, nofun⟩
    obtain ⟨hf', -, hfound⟩ := hkept.1 hhosts
    exact ⟨hf', hfound⟩
  · obtain rfl := Option.some.inj hnext
    obtain rfl := Option.some.inj hlast
    rfl
  · refine hgone.2 fun halways => ?_
    obtain rfl := Option.some.inj hnext
    exact halways.2.2.1 rfl

end DleynaRenderer.PushHost
