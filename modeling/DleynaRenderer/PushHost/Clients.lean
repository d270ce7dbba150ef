import DleynaRenderer.PushHost.Life

/-!
# The clients of a hosted file

What a client can tell of the push host service is, for each interface and each
file, if the file is hosted there, under which URL and for whom.  The three
operations are described in these terms, one file at a time.
-/

namespace DleynaRenderer.PushHost

structure Hosted where
  soupPort : Nat
  path : String
  clients : List String
  deriving DecidableEq, Repr

def Hosted.url (deviceIf : String) (file : Hosted) : String :=
  "http://" ++ deviceIf ++ ":" ++ CString.formatInt file.soupPort ++ file.path

def hostedOn (server : HostServer) (file : String) : Option Hosted :=
  (server.files.lookup file).map fun hf =>
    ⟨server.soupPort, hf.path, hf.clients⟩

def hosted (hs : HostService) (deviceIf file : String) : Option Hosted :=
  (hs.servers.lookup deviceIf).bind (hostedOn · file)

theorem hosted_insert (hs : HostService) (deviceIf : String)
    (server : HostServer) (other file : String) :
    hosted { hs with servers := hs.servers.insert deviceIf server } other file =
      if other = deviceIf then hostedOn server file
      else hosted hs other file := by
  unfold hosted
  simp only [HashTable.lookup_insert_eq]
  split_ifs <;> rfl

theorem hosted_erase (hs : HostService) (deviceIf other file : String) :
    hosted { hs with servers := hs.servers.erase deviceIf } other file =
      if other = deviceIf then none else hosted hs other file := by
  unfold hosted
  simp only [HashTable.lookup_erase_eq]
  split_ifs <;> rfl

def addHosted (client path : String) (soupPort : Nat) :
    Option Hosted → Hosted
  | some file =>
      { file with clients :=
          if client ∈ file.clients then file.clients
          else file.clients ++ [client] }
  | none => ⟨soupPort, path, [client]⟩

theorem hostedOn_prvAddNewFile (server : HostServer)
    (client deviceIf file : String) (env : HostEnv) :
    let added := addHosted client (hostFilePath file server.counter)
      server.soupPort (hostedOn server file)
    let next := prvAddNewFile server client deviceIf file env
    (next.1 = .ok (added.url deviceIf) ∧ ∀ other, hostedOn next.2 other =
      if other = file then some added else hostedOn server other) ∨
    ((∃ error, next.1 = .error error) ∧
      ∀ other, hostedOn next.2 other = hostedOn server other) := by
  unfold prvAddNewFile
  cases hlookup : server.files.lookup file with
  | some hf =>
      refine .inl ⟨?_, fun other => ?_⟩
      · unfold addClient addHosted
        simp only [hostedOn, hlookup, Option.map_some]
        split <;> rfl
      · unfold addClient addHosted
        simp only [hostedOn, hlookup, Option.map_some,
          HashTable.lookup_insert_eq]
        split_ifs <;> rfl
  | none =>
      cases hnew : prvHostFileNew file server.counter env with
      | error error => exact .inr ⟨⟨error, by simp⟩, by simp [hostedOn]⟩
      | ok hf =>
          obtain ⟨-, hpath, hclients, -⟩ := prvHostFileNew_ok hnew
          refine .inl ⟨?_, fun other => ?_⟩
          · simp [hostUrl, Hosted.url, addHosted, hostedOn, hlookup, hpath]
          · simp only [hostedOn, HashTable.lookup_insert_eq, hlookup,
              Option.map_none, addHosted, hpath, hclients]
            split_ifs <;> simp

theorem hosted_insert_prvAddNewFile {hs : HostService} {server : HostServer}
    {deviceIf : String}
    (hserver : ∀ other, hosted hs deviceIf other = hostedOn server other)
    (client file : String) (env : HostEnv) :
    let added := addHosted client (hostFilePath file server.counter)
      server.soupPort (hosted hs deviceIf file)
    let step := prvAddNewFile server client deviceIf file env
    let next := { hs with servers := hs.servers.insert deviceIf step.2 }
    (step.1 = .ok (added.url deviceIf) ∧
      ∀ otherIf other, hosted next otherIf other =
        if otherIf = deviceIf ∧ other = file then some added
        else hosted hs otherIf other) ∨
    ((∃ error, step.1 = .error error) ∧
      ∀ otherIf other, hosted next otherIf other =
        hosted hs otherIf other) := by
  rw [hserver file]
  rcases hostedOn_prvAddNewFile server client deviceIf file env with
    ⟨hurl, hfiles⟩ | ⟨herror, hfiles⟩
  · refine .inl ⟨hurl, fun otherIf other => ?_⟩
    rw [hosted_insert, hfiles]
    by_cases hif : otherIf = deviceIf
    · subst hif
      simp [hserver]
    · simp [hif]
  · refine .inr ⟨herror, fun otherIf other => ?_⟩
    rw [hosted_insert, hfiles]
    split_ifs with hif
    · rw [hif, hserver]
    · rfl

theorem hosted_dlrHostServiceAdd (hs : HostService)
    (deviceIf client file : String) (env : HostEnv) :
    let next := dlrHostServiceAdd hs deviceIf client file env
    (∃ path soupPort,
      (∀ server, hs.servers.lookup deviceIf = some server →
        path = hostFilePath file server.counter) ∧
      next.1 = .ok
        ((addHosted client path soupPort (hosted hs deviceIf file)).url
          deviceIf) ∧
      ∀ otherIf other, hosted next.2 otherIf other =
        if otherIf = deviceIf ∧ other = file then
          some (addHosted client path soupPort (hosted hs deviceIf file))
        else hosted hs otherIf other) ∨
    ((∃ error, next.1 = .error error) ∧
      ∀ otherIf other, hosted next.2 otherIf other =
        hosted hs otherIf other) := by
  unfold dlrHostServiceAdd
  cases hlookup : hs.servers.lookup deviceIf with
  | some server =>
      have hserver (other : String) :
          hosted hs deviceIf other = hostedOn server other := by
        simp [hosted, hlookup]
      rcases hosted_insert_prvAddNewFile hserver client file env with
        hadded | hrefused
      · exact .inl ⟨_, _, by rintro _ ⟨⟩; rfl, hadded⟩
      · exact .inr hrefused
  | none =>
      cases hnew : prvHostServerNew deviceIf env with
      | error error => exact .inr ⟨⟨error, rfl⟩, fun _ _ => rfl⟩
      | ok server =>
          have hserver (other : String) :
              hosted hs deviceIf other = hostedOn server other := by
            unfold prvHostServerNew at hnew
            split at hnew
            · obtain rfl := Except.ok.inj hnew
              simp [hosted, hlookup, hostedOn]
            · contradiction
          rcases hosted_insert_prvAddNewFile hserver client file env with
            hadded | hrefused
          · exact .inl ⟨_, _, by simp, hadded⟩
          · exact .inr hrefused

def dropHosted (client : String) (file : Hosted) : Option Hosted :=
  if file.clients.erase client = [] then none
  else some { file with clients := file.clients.erase client }

theorem hostedOn_pruneFile (server : HostServer) (file : String) (hf : HostFile)
    (other : String) :
    hostedOn (pruneFile server file hf) other =
      if other = file then
        if hf.clients = [] then none
        else some ⟨server.soupPort, hf.path, hf.clients⟩
      else hostedOn server other := by
  unfold pruneFile hostedOn
  simp only [List.length_eq_zero_iff]
  by_cases hnil : hf.clients = []
  · simp only [hnil, if_true, HashTable.lookup_erase_eq]
    split_ifs <;> rfl
  · simp only [hnil, if_false, HashTable.lookup_insert_eq]
    split_ifs <;> rfl

theorem hosted_pruneServer (hs : HostService) (deviceIf : String)
    (server : HostServer) (otherIf other : String) :
    hosted (pruneServer hs deviceIf server) otherIf other =
      if otherIf = deviceIf then hostedOn server other
      else hosted hs otherIf other := by
  unfold pruneServer
  by_cases hsize : HashTable.size server.files = 0
  · have hnone := HashTable.size_eq_zero_iff.mp hsize other
    simp only [hsize, if_true]
    rw [hosted_erase]
    simp [hostedOn, hnone]
  · simp only [hsize, if_false]
    exact hosted_insert hs deviceIf server otherIf other

theorem hosted_dlrHostServiceRemove (hs : HostService)
    (deviceIf client file : String) :
    let next := dlrHostServiceRemove hs deviceIf client file
    (next.1 = true ∧ ∃ old, hosted hs deviceIf file = some old ∧
      client ∈ old.clients ∧
      ∀ otherIf other, hosted next.2 otherIf other =
        if otherIf = deviceIf ∧ other = file then dropHosted client old
        else hosted hs otherIf other) ∨
    (next = (false, hs) ∧ ∀ old, hosted hs deviceIf file = some old →
      client ∉ old.clients) := by
  unfold dlrHostServiceRemove
  cases hserver : hs.servers.lookup deviceIf with
  | none => exact .inr ⟨rfl, by simp [hosted, hserver]⟩
  | some server =>
      cases hfile : server.files.lookup file with
      | none => exact .inr ⟨by simp [hfile], by simp [hosted, hserver, hostedOn, hfile]⟩
      | some hf =>
          have hhosted : hosted hs deviceIf file =
              some ⟨server.soupPort, hf.path, hf.clients⟩ := by
            simp [hosted, hserver, hostedOn, hfile]
          by_cases hmem : client ∈ hf.clients
          · refine .inl ⟨by simp [hfile, prvRemoveClient, hmem], _, hhosted,
              hmem, fun otherIf other => ?_⟩
            simp only [hfile, prvRemoveClient, hmem, if_true]
            rw [hosted_pruneServer, hostedOn_pruneFile]
            by_cases hif : otherIf = deviceIf
            · subst hif
              by_cases hother : other = file
              · simp [hother, dropHosted]
              · simp [hother, hosted, hserver]
            · simp [hif]
          · exact .inr ⟨by simp [hfile, prvRemoveClient, hmem],
              by simpa [hhosted] using hmem⟩

theorem hosted_dlrHostServiceLostClient (hs : HostService)
    (client deviceIf file : String) :
    hosted (dlrHostServiceLostClient hs client) deviceIf file =
      (hosted hs deviceIf file).bind fun old =>
        if client ∈ old.clients then dropHosted client old else some old := by
  have hfile (server : HostServer) :
      ((HashTable.filterMap (fun _ => lostClientFile client)
        server.files).lookup file).map
          (fun hf => (⟨server.soupPort, hf.path, hf.clients⟩ : Hosted)) =
        (hostedOn server file).bind fun old =>
          if client ∈ old.clients then dropHosted client old
          else some old := by
    rw [HashTable.lookup_filterMap]
    cases hlookup : server.files.lookup file with
    | none => simp [hostedOn, hlookup]
    | some hf =>
        by_cases hmem : client ∈ hf.clients
        · simp only [hostedOn, hlookup, Option.map_some, Option.bind_some,
            lostClientFile_of_mem hmem, hmem, if_true, dropHosted]
          split_ifs <;> rfl
        · simp [hostedOn, hlookup, lostClientFile, prvRemoveClient, hmem]
  unfold hosted dlrHostServiceLostClient
  simp only [HashTable.lookup_filterMap]
  cases hserver : hs.servers.lookup deviceIf with
  | none => rfl
  | some server =>
      simp only [Option.bind_some]
      rw [← hfile server]
      unfold lostClientServer
      simp only
      split
      case isTrue hsize =>
        have hnone := HashTable.size_eq_zero_iff.mp hsize file
        rw [hnone]
        rfl
      case isFalse => rfl

end DleynaRenderer.PushHost
