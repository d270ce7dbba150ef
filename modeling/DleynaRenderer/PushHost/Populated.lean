import DleynaRenderer.Foundation.EventSystem
import DleynaRenderer.PushHost.Service

/-!
# A web server runs only while it hosts something

Every server should hold a file and every file a client.  Removal and the loss
of a client restore both levels.  `dlrHostServiceAdd` does not: it enters a new
server into the table before it knows whether the file can be hosted.
-/

namespace DleynaRenderer.PushHost

open EventSystem

structure HostFile.Listed (hf : HostFile) : Prop where
  nonempty : hf.clients ≠ []
  nodup : hf.clients.Nodup

def HostServer.AllListed (server : HostServer) : Prop :=
  ∀ file hf, server.files.lookup file = some hf → hf.Listed

structure HostServer.Populated (server : HostServer) : Prop where
  hasFile : HashTable.size server.files ≠ 0
  listed : server.AllListed

/-- Each server has a file, each file a client, and no client is listed twice. -/
def HostService.Populated (hs : HostService) : Prop :=
  ∀ deviceIf server, hs.servers.lookup deviceIf = some server →
    server.Populated

def SameServers (hs hs' : HostService) : Prop :=
  ∀ deviceIf, (hs.servers.lookup deviceIf).isSome =
    (hs'.servers.lookup deviceIf).isSome

def hostFileAccepted (file : String) (env : HostEnv) : Bool :=
  gFileTest env && (prvComputeMimeAndDlnaHeader file env).isOk

theorem prvHostFileNew_of_accepted {file : String} {env : HostEnv} (id : Nat)
    (h : hostFileAccepted file env = true) :
    ∃ hf, prvHostFileNew file id env = .ok hf ∧ hf.clients = [] := by
  obtain ⟨htest, hmime⟩ := Bool.and_eq_true_iff.mp h
  cases hcompute : prvComputeMimeAndDlnaHeader file env with
  | error error => simp [hcompute, Except.isOk, Except.toBool] at hmime
  | ok header => simp [prvHostFileNew, htest, hcompute]

theorem prvHostFileNew_of_refused {file : String} {env : HostEnv} (id : Nat)
    (h : hostFileAccepted file env = false) :
    ∃ error, prvHostFileNew file id env = .error error := by
  cases htest : gFileTest env with
  | false => simp [prvHostFileNew, htest]
  | true =>
      cases hcompute : prvComputeMimeAndDlnaHeader file env with
      | error error => simp [prvHostFileNew, htest, hcompute]
      | ok header =>
          simp [hostFileAccepted, htest, hcompute, Except.isOk,
            Except.toBool] at h

theorem prvHostFileNew_ok {file : String} {id : Nat} {env : HostEnv}
    {hf : HostFile} (h : prvHostFileNew file id env = .ok hf) :
    hf.id = id ∧ hf.path = hostFilePath file id ∧ hf.clients = [] ∧
      hf.mappedFile = none ∧ hf.mappedCount = 0 := by
  unfold prvHostFileNew at h
  split at h
  · split at h
    · contradiction
    · obtain rfl := Except.ok.inj h
      exact ⟨rfl, rfl, rfl, rfl, rfl⟩
  · contradiction

theorem addClient_listed {client : String} {hf : HostFile} (h : hf.Listed) :
    (addClient client hf).Listed := by
  unfold addClient
  split
  case isTrue _ => exact h
  case isFalse hnew =>
    refine ⟨by simp, List.nodup_append.mpr ⟨h.nodup, by simp, ?_⟩⟩
    intro listed hlisted added hadded heq
    obtain rfl := List.mem_singleton.mp hadded
    exact hnew (heq ▸ hlisted)

theorem prvRemoveClient_eq_some_iff {client : String} {hf removed : HostFile} :
    prvRemoveClient client hf = some removed ↔
      client ∈ hf.clients ∧
        removed = { hf with clients := hf.clients.erase client } := by
  unfold prvRemoveClient
  split <;> simp_all [eq_comm]

theorem prvRemoveClient_nodup {client : String} {hf removed : HostFile}
    (h : hf.Listed) (hremove : prvRemoveClient client hf = some removed) :
    removed.clients.Nodup := by
  obtain ⟨-, rfl⟩ := prvRemoveClient_eq_some_iff.mp hremove
  exact h.nodup.erase client

theorem lostClientFile_listed {client : String} {hf kept : HostFile}
    (h : hf.Listed) (hkept : lostClientFile client hf = some kept) :
    kept.Listed := by
  unfold lostClientFile at hkept
  cases hremove : prvRemoveClient client hf with
  | none =>
      simp only [hremove] at hkept
      exact Option.some.inj hkept ▸ h
  | some removed =>
      simp only [hremove, Option.ite_none_right_eq_some] at hkept
      obtain ⟨hpos, hkept⟩ := hkept
      obtain rfl := Option.some.inj hkept
      exact ⟨List.length_pos_iff.mp hpos, prvRemoveClient_nodup h hremove⟩

theorem prvAddNewFile_spec (server : HostServer) (client deviceIf file : String)
    (env : HostEnv) :
    (∃ hf, server.files.lookup file = some hf ∧
      prvAddNewFile server client deviceIf file env =
        (.ok (hostUrl deviceIf server (addClient client hf)),
          { server with
            files := server.files.insert file (addClient client hf) })) ∨
    (server.files.lookup file = none ∧ hostFileAccepted file env = true ∧
      ∃ hf url, hf.clients = [client] ∧
        prvAddNewFile server client deviceIf file env =
          (.ok url,
            { server with
              files := server.files.insert file hf
              counter := (server.counter + 1) % 2 ^ 32 })) ∨
    (server.files.lookup file = none ∧ hostFileAccepted file env = false ∧
      ∃ error, prvAddNewFile server client deviceIf file env =
        (.error error,
          { server with counter := (server.counter + 1) % 2 ^ 32 })) := by
  unfold prvAddNewFile
  cases hlookup : server.files.lookup file with
  | some hf => exact .inl ⟨hf, rfl, rfl⟩
  | none =>
      refine .inr ?_
      cases haccepted : hostFileAccepted file env with
      | true =>
          obtain ⟨hf, hnew, hclients⟩ :=
            prvHostFileNew_of_accepted server.counter haccepted
          refine .inl ⟨rfl, rfl, { hf with clients := [client] }, ?_⟩
          simp [hnew, hclients]
      | false =>
          obtain ⟨error, hnew⟩ :=
            prvHostFileNew_of_refused server.counter haccepted
          exact .inr ⟨rfl, rfl, error, by simp [hnew]⟩

theorem insert_allListed {server : HostServer} {file : String} {hf : HostFile}
    {counter : Nat} (h : server.AllListed) (hlisted : hf.Listed) :
    HostServer.AllListed
      { server with files := server.files.insert file hf, counter } := by
  intro other hf' hlookup
  rw [HashTable.lookup_insert_eq] at hlookup
  split at hlookup
  case isTrue _ => exact Option.some.inj hlookup ▸ hlisted
  case isFalse _ => exact h other hf' hlookup

theorem prvAddNewFile_allListed {server : HostServer}
    (client deviceIf file : String) (env : HostEnv) (h : server.AllListed) :
    (prvAddNewFile server client deviceIf file env).2.AllListed := by
  rcases prvAddNewFile_spec server client deviceIf file env with
    ⟨hf, hlookup, heq⟩ | ⟨-, -, hf, url, hclients, heq⟩ | ⟨-, -, error, heq⟩
  · rw [heq]
    exact insert_allListed h (addClient_listed (h file hf hlookup))
  · rw [heq]
    exact insert_allListed h ⟨by simp [hclients], by simp [hclients]⟩
  · rw [heq]
    exact h

theorem prvAddNewFile_size_ne_zero_iff (server : HostServer)
    (client deviceIf file : String) (env : HostEnv) :
    HashTable.size (prvAddNewFile server client deviceIf file env).2.files ≠ 0 ↔
      HashTable.size server.files ≠ 0 ∨ hostFileAccepted file env = true := by
  rcases prvAddNewFile_spec server client deviceIf file env with
    ⟨hf, hlookup, heq⟩ | ⟨-, haccepted, hf, url, -, heq⟩ |
      ⟨-, hrefused, error, heq⟩
  · have hfull : HashTable.size server.files ≠ 0 :=
      HashTable.size_ne_zero_iff.mpr ⟨file, hf, hlookup⟩
    simp [heq, hfull]
  · simp [heq, haccepted]
  · simp [heq, hrefused]

theorem pruneFile_allListed {server : HostServer} {file : String}
    {hf : HostFile} (h : server.AllListed) (hnodup : hf.clients.Nodup) :
    (pruneFile server file hf).AllListed := by
  intro other hf' hlookup
  unfold pruneFile at hlookup
  split at hlookup
  case isTrue _ =>
    rw [HashTable.lookup_erase_eq] at hlookup
    split at hlookup
    case isTrue _ => contradiction
    case isFalse _ => exact h other hf' hlookup
  case isFalse hclients =>
    have hlisted : hf.Listed := ⟨fun hnil => hclients (by simp [hnil]), hnodup⟩
    exact insert_allListed h hlisted other hf' hlookup

theorem lostClientServer_populated {client : String} {server kept : HostServer}
    (h : server.AllListed) (hkept : lostClientServer client server = some kept) :
    kept.Populated := by
  simp only [lostClientServer, Option.ite_none_left_eq_some] at hkept
  obtain ⟨hfull, hkept⟩ := hkept
  obtain rfl := Option.some.inj hkept
  refine ⟨hfull, fun file hf hlookup => ?_⟩
  rw [HashTable.lookup_filterMap, Option.bind_eq_some_iff] at hlookup
  obtain ⟨old, hold, hlost⟩ := hlookup
  exact lostClientFile_listed (h file old hold) hlost

theorem dlrHostServiceNew_populated (port : Nat) :
    (dlrHostServiceNew port).Populated := by
  intro deviceIf server hlookup
  simp [dlrHostServiceNew] at hlookup

theorem insertServer_populated_iff {hs : HostService} {deviceIf : String}
    {server : HostServer} (h : hs.Populated) :
    HostService.Populated
        { hs with servers := hs.servers.insert deviceIf server } ↔
      server.Populated := by
  constructor
  · intro hpopulated
    exact hpopulated deviceIf server (AList.lookup_insert _)
  · intro hserver other server' hlookup
    rw [HashTable.lookup_insert_eq] at hlookup
    split at hlookup
    case isTrue _ => exact Option.some.inj hlookup ▸ hserver
    case isFalse _ => exact h other server' hlookup

theorem pruneServer_populated {hs : HostService} {deviceIf : String}
    {server : HostServer} (h : hs.Populated) (hlisted : server.AllListed) :
    (pruneServer hs deviceIf server).Populated := by
  unfold pruneServer
  split
  case isTrue _ =>
    intro other server' hlookup
    rw [HashTable.lookup_erase_eq] at hlookup
    split at hlookup
    case isTrue _ => contradiction
    case isFalse _ => exact h other server' hlookup
  case isFalse hfull => exact (insertServer_populated_iff h).mpr ⟨hfull, hlisted⟩

/--
A request that has to start a server must be one whose file is accepted, or
the new server stays without files.
-/
def AddStartsFull (hs : HostService) (deviceIf file : String) (env : HostEnv) :
    Prop :=
  hs.servers.lookup deviceIf = none → env.addressResolves = true →
    hostFileAccepted file env = true

theorem dlrHostServiceAdd_populated_iff {hs : HostService} (h : hs.Populated)
    (deviceIf client file : String) (env : HostEnv) :
    (dlrHostServiceAdd hs deviceIf client file env).2.Populated ↔
      AddStartsFull hs deviceIf file env := by
  unfold dlrHostServiceAdd AddStartsFull
  cases hlookup : hs.servers.lookup deviceIf with
  | some server =>
      have hserver := h deviceIf server hlookup
      have hadded : (prvAddNewFile server client deviceIf file env).2.Populated :=
        ⟨(prvAddNewFile_size_ne_zero_iff ..).mpr (.inl hserver.hasFile),
          prvAddNewFile_allListed client deviceIf file env hserver.listed⟩
      simpa using (insertServer_populated_iff h).mpr hadded
  | none =>
      cases hresolves : env.addressResolves with
      | false => simpa [prvHostServerNew, hresolves] using h
      | true =>
          have hempty : HostServer.AllListed ⟨∅, env.soupPort, 0⟩ := by
            intro file hf hlookup
            simp at hlookup
          have hsize := prvAddNewFile_size_ne_zero_iff
            ⟨∅, env.soupPort, 0⟩ client deviceIf file env
          simp only [prvHostServerNew, hresolves, if_true, forall_const]
          rw [insertServer_populated_iff h]
          constructor
          · intro hpopulated
            exact (hsize.mp hpopulated.hasFile).resolve_left (by
              simp [HashTable.size])
          · intro haccepted
            exact ⟨hsize.mpr (.inr haccepted),
              prvAddNewFile_allListed client deviceIf file env hempty⟩

theorem dlrHostServiceRemove_populated {hs : HostService} (h : hs.Populated)
    (deviceIf client file : String) :
    (dlrHostServiceRemove hs deviceIf client file).2.Populated := by
  unfold dlrHostServiceRemove
  cases hserver : hs.servers.lookup deviceIf with
  | none => exact h
  | some server =>
      cases hfile : server.files.lookup file with
      | none => simpa [hfile] using h
      | some hf =>
          cases hremove : prvRemoveClient client hf with
          | none => simpa [hfile, hremove] using h
          | some removed =>
              have hlisted := (h deviceIf server hserver).listed
              simp only [hfile, hremove]
              exact pruneServer_populated h (pruneFile_allListed hlisted
                (prvRemoveClient_nodup (hlisted file hf hfile) hremove))

theorem dlrHostServiceLostClient_populated {hs : HostService}
    (h : hs.Populated) (client : String) :
    (dlrHostServiceLostClient hs client).Populated := by
  intro deviceIf server hlookup
  unfold dlrHostServiceLostClient at hlookup
  rw [HashTable.lookup_filterMap, Option.bind_eq_some_iff] at hlookup
  obtain ⟨old, hold, hlost⟩ := hlookup
  exact lostClientServer_populated (h deviceIf old hold).listed hlost

/-! ## Runs -/

inductive HostEvent where
  | add (deviceIf client file : String) (env : HostEnv)
  | remove (deviceIf client file : String)
  | lostClient (client : String)
  deriving DecidableEq

def hostStep (hs : HostService) : HostEvent → Option HostService
  | .add deviceIf client file env =>
      some (dlrHostServiceAdd hs deviceIf client file env).2
  | .remove deviceIf client file =>
      some (dlrHostServiceRemove hs deviceIf client file).2
  | .lostClient client => some (dlrHostServiceLostClient hs client)

def StartsFull (hs : HostService) : HostEvent → Prop
  | .add deviceIf _ file env => AddStartsFull hs deviceIf file env
  | .remove .. => True
  | .lostClient _ => True

def RefusalKeepsServers (hs : HostService) (event : HostEvent)
    (next : HostService) : Prop :=
  match event with
  | .add deviceIf client file env =>
      (∃ error, (dlrHostServiceAdd hs deviceIf client file env).1 =
        .error error) → SameServers hs next
  | .remove .. => True
  | .lostClient _ => True

theorem hostStep_total (hs : HostService) (event : HostEvent) :
    ∃ next, hostStep hs event = some next := by
  cases event <;> exact ⟨_, rfl⟩

theorem hostStep_populated_iff {hs next : HostService} {event : HostEvent}
    (h : hs.Populated) (hstep : hostStep hs event = some next) :
    next.Populated ↔ StartsFull hs event := by
  cases event with
  | add deviceIf client file env =>
      obtain rfl := Option.some.inj hstep
      exact dlrHostServiceAdd_populated_iff h deviceIf client file env
  | remove deviceIf client file =>
      obtain rfl := Option.some.inj hstep
      simpa [StartsFull] using
        dlrHostServiceRemove_populated h deviceIf client file
  | lostClient client =>
      obtain rfl := Option.some.inj hstep
      simpa [StartsFull] using dlrHostServiceLostClient_populated h client

theorem sameServers_insert {hs : HostService} {deviceIf : String}
    {old server : HostServer} (hold : hs.servers.lookup deviceIf = some old) :
    SameServers hs
      { hs with servers := hs.servers.insert deviceIf server } := by
  intro other
  rw [HashTable.lookup_insert_eq]
  split
  case isTrue h => subst h; simp [hold]
  case isFalse _ => rfl

theorem hostStep_refusalKeepsServers {hs next : HostService} {event : HostEvent}
    (h : hs.Populated) (hstep : hostStep hs event = some next)
    (hnext : next.Populated) : RefusalKeepsServers hs event next := by
  cases event with
  | remove deviceIf client file => trivial
  | lostClient client => trivial
  | add deviceIf client file env =>
      have hfull := (hostStep_populated_iff h hstep).mp hnext
      obtain rfl := Option.some.inj hstep
      rintro ⟨error, hresult⟩
      unfold dlrHostServiceAdd at hresult ⊢
      cases hlookup : hs.servers.lookup deviceIf with
      | some server => exact sameServers_insert hlookup
      | none =>
          simp only [hlookup] at hresult ⊢
          cases hresolves : env.addressResolves with
          | false =>
              simp only [prvHostServerNew, hresolves]
              exact fun other => rfl
          | true =>
              -- The new server accepts the file, so the request is not refused.
              have haccepted := hfull hlookup hresolves
              simp only [prvHostServerNew, hresolves, if_true] at hresult
              rcases prvAddNewFile_spec ⟨∅, env.soupPort, 0⟩ client deviceIf
                  file env with
                ⟨hf, hpresent, -⟩ | ⟨-, -, hf, url, -, heq⟩ | ⟨-, hrefused, -⟩
              · simp at hpresent
              · simp [heq] at hresult
              · simp [haccepted] at hrefused

/--
The service is populated in every state of a run, and its refusals start no
server, exactly when every request that has to start a server has its file
accepted.
-/
theorem populated_iff_startsFull (port : Nat) (events : List HostEvent) :
    (Always hostStep HostService.Populated (dlrHostServiceNew port) events ∧
      EachStep hostStep RefusalKeepsServers (dlrHostServiceNew port) events) ↔
      Meets hostStep StartsFull (dlrHostServiceNew port) events := by
  obtain ⟨last, hrun⟩ := exec_total hostStep_total (dlrHostServiceNew port) events
  have hexact (hs : HostService) (event : HostEvent) (next : HostService)
      (h : hs.Populated) (hstep : hostStep hs event = some next) :
      next.Populated ↔ StartsFull hs event := hostStep_populated_iff h hstep
  have hiff := always_iff_meets hexact (dlrHostServiceNew_populated port) hrun
  constructor
  · rintro ⟨halways, -⟩
    exact hiff.mp halways
  · intro hmeets
    have halways := hiff.mpr hmeets
    exact ⟨halways, eachStep_of_always
      (fun hs event next => hostStep_refusalKeepsServers) halways hrun⟩

/-- A first request for a missing file leaves a server that hosts nothing. -/
theorem missing_file_starts_empty_server :
    let request : HostEvent := .add "192.168.1.2" ":1.7" "/missing"
      ⟨true, 8080, false, false, none, none, none, ""⟩
    ∃ next, exec hostStep (dlrHostServiceNew 0) [request] = some next ∧
      ¬ next.Populated ∧
      ¬ RefusalKeepsServers (dlrHostServiceNew 0) request next := by
  refine ⟨_, rfl, fun hpopulated => ?_, fun hkeeps => ?_⟩
  · exact (hpopulated "192.168.1.2" _ rfl).hasFile rfl
  · exact absurd (hkeeps ⟨_, rfl⟩ "192.168.1.2") (by decide)

end DleynaRenderer.PushHost
