import DleynaRenderer.PushHost.Life

/-!
# Serving hosted files

A request is answered from the entry whose path it names.  The file is mapped
while it is served: each accepted request takes a reference to the mapping, and
the finished notification of a GET gives it back.  A transfer is an accepted GET
that has not finished; it holds a pointer to the entry, which may be freed.
-/

namespace DleynaRenderer.PushHost

open EventSystem

inductive SoupMethod where
  | get
  | head
  | other
  deriving DecidableEq, Repr

inductive SoupStatus where
  | ok
  | badRequest
  | notFound
  | notImplemented
  deriving DecidableEq, Repr

structure SoupRequest where
  method : SoupMethod
  path : String
  getContentFeatures : Option String
  deriving DecidableEq, Repr

structure SoupResponse where
  status : SoupStatus
  contentFeatures : Option String
  contentType : Option String
  contentLength : Option Nat
  body : Option Bytes
  deriving DecidableEq, Repr

def SoupResponse.refused (status : SoupStatus) : SoupResponse :=
  ⟨status, none, none, none, none⟩

structure SoupServed where
  response : SoupResponse
  server : HostServer
  /-- The file with whose entry the finished callback is connected. -/
  connected : Option String

def mapHostFile (hf : HostFile) (contents : Option Bytes) : Option HostFile :=
  match hf.mappedFile with
  | some _ => some { hf with mappedCount := (hf.mappedCount + 1) % 2 ^ 32 }
  | none => contents.map fun mapped =>
      { hf with mappedFile := some mapped, mappedCount := 1 }

def headerAccepted (request : SoupRequest) : Bool :=
  match request.getContentFeatures with
  | none => true
  | some hdr => hdr = "1"

def contentFeatures (request : SoupRequest) (hf : HostFile) : Option String :=
  match request.getContentFeatures with
  | none => none
  | some _ => if hf.dlnaHeader.length > 0 then some hf.dlnaHeader else none

def prvSoupServerCb (server : HostServer) (request : SoupRequest)
    (contents : Option Bytes) : SoupServed :=
  if request.method = .other then ⟨.refused .notImplemented, server, none⟩
  else
    match prvHostServerFindFile server request.path with
    | none => ⟨.refused .notFound, server, none⟩
    | some (fileName, hf) =>
        if headerAccepted request then
          match mapHostFile hf contents with
          | none =>
              ⟨{ SoupResponse.refused .notFound with
                contentFeatures := contentFeatures request hf }, server, none⟩
          | some hf =>
              let server :=
                { server with files := server.files.insert fileName hf }
              let response : SoupResponse :=
                { status := .ok
                  contentFeatures := contentFeatures request hf
                  contentType := some hf.mimeType
                  contentLength := hf.mappedFile.map List.length
                  body := none }
              if request.method = .get then
                ⟨{ response with body := hf.mappedFile }, server, some fileName⟩
              else ⟨response, server, none⟩
        else ⟨.refused .badRequest, server, none⟩

def prvSoupMessageFinishedCb (hf : HostFile) : HostFile :=
  if hf.mappedCount > 0 then
    { hf with
      mappedCount := hf.mappedCount - 1
      mappedFile := if hf.mappedCount - 1 = 0 then none else hf.mappedFile }
  else hf

structure Transfer where
  deviceIf : String
  file : String
  /-- The entry was deleted while the transfer ran. -/
  freed : Bool
  deriving DecidableEq, Repr

structure Serving where
  service : HostService
  transfers : List Transfer

def hostFileAt (hs : HostService) (deviceIf file : String) : Option HostFile :=
  lookupFile (hs.servers.lookup deviceIf) file

/-- `prv_host_file_delete` leaves the transfers of the entry behind. -/
def detach (hs : HostService) (transfer : Transfer) : Transfer :=
  if (hostFileAt hs transfer.deviceIf transfer.file).isNone then
    { transfer with freed := true }
  else transfer

def modifyHostFile (hs : HostService) (deviceIf file : String)
    (change : HostFile → HostFile) : HostService :=
  match hs.servers.lookup deviceIf with
  | none => hs
  | some server =>
      match server.files.lookup file with
      | none => hs
      | some hf =>
          let server :=
            { server with files := server.files.insert file (change hf) }
          { hs with servers := hs.servers.insert deviceIf server }

inductive ServingEvent where
  | host (event : HostEvent)
  | request (deviceIf : String) (request : SoupRequest)
      (contents : Option Bytes)
  | finished (transfer : Transfer)
  deriving DecidableEq

/--
One event of the service.  A request needs a server on its interface.  What the
finished callback does to memory that was freed is not modelled.
-/
def servingStep (s : Serving) : ServingEvent → Option Serving
  | .host event =>
      (hostStep s.service event).map fun service =>
        ⟨service, s.transfers.map (detach service)⟩
  | .request deviceIf request contents =>
      (s.service.servers.lookup deviceIf).map fun server =>
        let served := prvSoupServerCb server request contents
        ⟨{ s.service with servers :=
            s.service.servers.insert deviceIf served.server },
          s.transfers ++ (served.connected.map
            (Transfer.mk deviceIf · false)).toList⟩
  | .finished transfer =>
      if transfer ∈ s.transfers then
        let transfers := s.transfers.erase transfer
        if transfer.freed then some { s with transfers }
        else some ⟨modifyHostFile s.service transfer.deviceIf transfer.file
          prvSoupMessageFinishedCb, transfers⟩
      else none

def servingNew (port : Nat) : Serving := ⟨dlrHostServiceNew port, []⟩

/-! ## What an event does to an entry -/

def dropsHostFile (hf : HostFile) (deviceIf file : String)
    (event : HostEvent) : Prop :=
  match serverEvent deviceIf event with
  | none => False
  | some event => dropsFile hf file event

instance (hf : HostFile) (deviceIf file : String) (event : HostEvent) :
    Decidable (dropsHostFile hf deviceIf file event) :=
  match h : serverEvent deviceIf event with
  | none => isFalse (by simp [dropsHostFile, h])
  | some event =>
      decidable_of_iff (dropsFile hf file event) (by simp [dropsHostFile, h])

theorem hostStep_of_hosted {hs next : HostService} {event : HostEvent}
    {deviceIf file : String} {hf : HostFile}
    (hentry : hostFileAt hs deviceIf file = some hf)
    (hstep : hostStep hs event = some next) :
    (dropsHostFile hf deviceIf file event ∧
      hostFileAt next deviceIf file = none) ∨
    (¬ dropsHostFile hf deviceIf file event ∧ ∃ clients,
      hostFileAt next deviceIf file =
        some { hf with clients := clients }) := by
  obtain ⟨server, hserver, hfile⟩ := Option.bind_eq_some_iff.mp hentry
  have hnext := hostStep_of_running hserver hstep
  unfold hostFileAt dropsHostFile
  rw [hnext]
  cases serverEvent deviceIf event with
  | none => exact .inr ⟨id, hf.clients, hfile⟩
  | some event => exact serverStep_of_hosted hfile event

theorem hostStep_of_not_hosted {hs next : HostService} {event : HostEvent}
    {deviceIf file : String} {hf : HostFile}
    (hentry : hostFileAt hs deviceIf file = none)
    (hstep : hostStep hs event = some next)
    (hnext : hostFileAt next deviceIf file = some hf) :
    hf.mappedFile = none ∧ hf.mappedCount = 0 := by
  have hnew {server : HostServer} (hfile : server.files.lookup file = none)
      {event : ServerEvent}
      (hadded : lookupFile (serverStep server event) file = some hf) :
      hf.mappedFile = none ∧ hf.mappedCount = 0 := by
    obtain ⟨client, _, env, new, -, hnew, rfl⟩ :=
      serverStep_of_not_hosted hfile hadded
    obtain ⟨-, -, -, hmapped⟩ := prvHostFileNew_ok hnew
    obtain ⟨clients, heq⟩ := addClient_eq client new
    exact heq ▸ hmapped
  unfold hostFileAt at hentry hnext
  cases hserver : hs.servers.lookup deviceIf with
  | some server =>
      rw [hserver] at hentry
      rw [hostStep_of_running hserver hstep] at hnext
      cases hevent : serverEvent deviceIf event with
      | none =>
          rw [hevent, hentry] at hnext
          contradiction
      | some event' =>
          rw [hevent] at hnext
          exact hnew hentry hnext
  | none =>
      obtain ⟨server, hstarted, hfile⟩ := Option.bind_eq_some_iff.mp hnext
      obtain ⟨soupPort, event', -, hstart⟩ :=
        hostStep_of_stopped hserver hstep hstarted
      have hempty : (prvHostServerFresh soupPort).files.lookup file = none := by
        simp [prvHostServerFresh]
      have hlooked : lookupFile
          (serverStep (prvHostServerFresh soupPort) event') file = some hf := by
        rw [hstart]
        exact hfile
      exact hnew hempty hlooked

theorem hostFileAt_insert (hs : HostService) (deviceIf other file : String)
    (server : HostServer) :
    hostFileAt { hs with servers := hs.servers.insert deviceIf server }
        other file =
      if other = deviceIf then server.files.lookup file
      else hostFileAt hs other file := by
  unfold hostFileAt
  simp only [HashTable.lookup_insert_eq]
  split <;> rfl

theorem hostFileAt_insertFile {hs : HostService} {deviceIf : String}
    {server : HostServer} (hserver : hs.servers.lookup deviceIf = some server)
    (file otherIf other : String) (hf : HostFile) :
    let changed := { server with files := server.files.insert file hf }
    hostFileAt { hs with servers := hs.servers.insert deviceIf changed }
        otherIf other =
      if otherIf = deviceIf ∧ other = file then some hf
      else hostFileAt hs otherIf other := by
  intro changed
  rw [hostFileAt_insert]
  by_cases hif : otherIf = deviceIf
  · subst hif
    simp [changed, HashTable.lookup_insert_eq, hostFileAt, hserver, lookupFile]
  · simp [hif]

theorem hostFileAt_modifyHostFile {hs : HostService} {deviceIf file : String}
    {hf : HostFile} (hentry : hostFileAt hs deviceIf file = some hf)
    (change : HostFile → HostFile) (otherIf other : String) :
    hostFileAt (modifyHostFile hs deviceIf file change) otherIf other =
      if otherIf = deviceIf ∧ other = file then some (change hf)
      else hostFileAt hs otherIf other := by
  obtain ⟨server, hserver, hfile⟩ := Option.bind_eq_some_iff.mp hentry
  have hfile' : server.files.lookup file = some hf := hfile
  simp only [modifyHostFile, hserver, hfile']
  exact hostFileAt_insertFile hserver file otherIf other (change hf)

def serves (server : HostServer) (request : SoupRequest)
    (contents : Option Bytes) (file : String) (hf : HostFile) : Prop :=
  prvHostServerFindFile server request.path = some (file, hf) ∧
    headerAccepted request = true ∧
    (hf.mappedFile ≠ none ∨ contents ≠ none)

theorem mapHostFile_eq_none_iff {hf : HostFile} {contents : Option Bytes} :
    mapHostFile hf contents = none ↔ hf.mappedFile = none ∧ contents = none := by
  unfold mapHostFile
  cases hf.mappedFile <;> simp

theorem prvSoupServerCb_cases (server : HostServer) (request : SoupRequest)
    (contents : Option Bytes) :
    let served := prvSoupServerCb server request contents
    (served.response.status ≠ .ok ∧ served.server = server ∧
      served.connected = none ∧
      (request.method = .other ∨
        ∀ file hf, ¬ serves server request contents file hf)) ∨
    ∃ file hf mapped, serves server request contents file hf ∧
      request.method ≠ .other ∧ mapHostFile hf contents = some mapped ∧
      served.response.status = .ok ∧
      served.server =
        { server with files := server.files.insert file mapped } ∧
      served.response.body =
        (if request.method = .get then mapped.mappedFile else none) ∧
      served.connected =
        if request.method = .get then some file else none := by
  unfold prvSoupServerCb
  by_cases hother : request.method = .other
  · exact .inl (by simp [hother, SoupResponse.refused])
  cases hfind : prvHostServerFindFile server request.path with
  | none => exact .inl (by simp [hother, serves, hfind, SoupResponse.refused])
  | some found =>
      obtain ⟨file, hf⟩ := found
      cases hheader : headerAccepted request with
      | false =>
          exact .inl (by simp [hother, serves, hheader, SoupResponse.refused])
      | true =>
          cases hmapped : mapHostFile hf contents with
          | none =>
              obtain ⟨hfile, hcontents⟩ := mapHostFile_eq_none_iff.mp hmapped
              refine .inl ⟨by simp [hother, hmapped, SoupResponse.refused],
                by simp [hother, hmapped], by simp [hother, hmapped],
                .inr fun file' hf' hserves => ?_⟩
              obtain ⟨hfound, -, hmappable⟩ := hserves
              rw [hfind] at hfound
              cases hfound
              rcases hmappable with hmappable | hmappable
              · exact hmappable hfile
              · exact hmappable hcontents
          | some mapped =>
              refine .inr ⟨file, hf, mapped, ⟨hfind, hheader, ?_⟩, hother,
                hmapped, ?_⟩
              · have hne : mapHostFile hf contents ≠ none := by simp [hmapped]
                rw [ne_eq, mapHostFile_eq_none_iff] at hne
                tauto
              · by_cases hget : request.method = .get
                · simp [hmapped, hget]
                · simp [hother, hmapped, hget]

end DleynaRenderer.PushHost
