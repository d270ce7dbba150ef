import DleynaRenderer.Error
import DleynaRenderer.Foundation.CString
import DleynaRenderer.Foundation.HashTable

/-!
# The push host service

One web server for each interface on which something is hosted, a table of
files in each server, and in each file the list of the clients that host it.
What lies outside (the file system, address resolution, MIME detection) answers
through `HostEnv`, once for each call.
-/

namespace DleynaRenderer.PushHost

abbrev Bytes := List UInt8

/-- A mapped file is the contents it had when it was mapped. -/
structure HostFile where
  id : Nat
  clients : List String
  mimeType : String
  mappedFile : Option Bytes
  mappedCount : Nat
  path : String
  dlnaHeader : String
  deriving DecidableEq, Repr

structure HostServer where
  files : HashTable String HostFile
  soupPort : Nat
  counter : Nat
  deriving DecidableEq

structure HostService where
  servers : HashTable String HostServer
  port : Nat
  deriving DecidableEq

structure HostEnv where
  addressResolves : Bool
  soupPort : Nat
  isRegularFile : Bool
  fileExists : Bool
  profileMime : Option String
  contentType : Option String
  contentMime : Option String
  dlnaHeader : String
  deriving DecidableEq, Repr

def dlrHostServiceRoot : String := "/dleynarenderer"

/-- `g_file_test` of several tests holds if one of them does. -/
def gFileTest (env : HostEnv) : Bool := env.isRegularFile || env.fileExists

/-- The MIME type is the guessed profile's, else that of the content type. -/
def prvComputeMimeAndDlnaHeader (filename : String) (env : HostEnv) :
    Except GError (String × String) :=
  match env.profileMime with
  | some mime => .ok (mime, env.dlnaHeader)
  | none =>
      match env.contentType with
      | none => .error ⟨.badMime,
          s!"Unable to determine Content Type for {filename}"⟩
      | some _ =>
          match env.contentMime with
          | none => .error ⟨.badMime,
              s!"Unable to determine MIME Type for {filename}"⟩
          | some mime => .ok (mime, env.dlnaHeader)

/-- The extension runs from the last dot of the whole path to its end. -/
def hostFileExtension (file : String) : String :=
  String.ofList ((CString.strrchr file.toList '.').getD [])

def hostFilePath (file : String) (id : Nat) : String :=
  dlrHostServiceRoot ++ "/" ++ CString.formatInt id ++ hostFileExtension file

def prvHostFileNew (file : String) (id : Nat) (env : HostEnv) :
    Except GError HostFile :=
  if gFileTest env then
    match prvComputeMimeAndDlnaHeader file env with
    | .error error => .error error
    | .ok (mimeType, dlnaHeader) => .ok
        { id, clients := [], mimeType, mappedFile := none, mappedCount := 0,
          path := hostFilePath file id, dlnaHeader }
  else .error ⟨.objectNotFound,
    s!"File {file} does not exist or is not a regular file"⟩

def prvHostServerFindFile (server : HostServer) (url : String) :
    Option (String × HostFile) :=
  (server.files.entries.find? fun entry => entry.2.path = url).map fun entry =>
    (entry.1, entry.2)

def prvHostServerNew (deviceIf : String) (env : HostEnv) :
    Except GError HostServer :=
  if env.addressResolves then .ok ⟨∅, env.soupPort, 0⟩
  else .error ⟨.hostFailed, s!"Unable to create host server on {deviceIf}"⟩

def dlrHostServiceNew (port : Nat) : HostService := ⟨∅, port⟩

def hostUrl (deviceIf : String) (server : HostServer) (hf : HostFile) : String :=
  "http://" ++ deviceIf ++ ":" ++ CString.formatInt server.soupPort ++ hf.path

def addClient (client : String) (hf : HostFile) : HostFile :=
  if client ∈ hf.clients then hf
  else { hf with clients := hf.clients ++ [client] }

def prvAddNewFile (server : HostServer) (client deviceIf file : String)
    (env : HostEnv) : Except GError String × HostServer :=
  match server.files.lookup file with
  | some hf =>
      let hf := addClient client hf
      let server := { server with files := server.files.insert file hf }
      (.ok (hostUrl deviceIf server hf), server)
  | none =>
      -- a file that is refused uses its number up
      let next := { server with counter := (server.counter + 1) % 2 ^ 32 }
      match prvHostFileNew file server.counter env with
      | .error error => (.error error, next)
      | .ok hf =>
          let hf := { hf with clients := hf.clients ++ [client] }
          let next := { next with files := next.files.insert file hf }
          (.ok (hostUrl deviceIf next hf), next)

def dlrHostServiceAdd (hs : HostService) (deviceIf client file : String)
    (env : HostEnv) : Except GError String × HostService :=
  let add server :=
    let (result, server) := prvAddNewFile server client deviceIf file env
    (result, { hs with servers := hs.servers.insert deviceIf server })
  match hs.servers.lookup deviceIf with
  | some server => add server
  | none =>
      match prvHostServerNew deviceIf env with
      | .error error => (.error error, hs)
      -- the new server is entered before its file is looked at
      | .ok server => add server

def prvRemoveClient (client : String) (hf : HostFile) : Option HostFile :=
  if client ∈ hf.clients then
    some { hf with clients := hf.clients.erase client }
  else none

def pruneFile (server : HostServer) (file : String) (hf : HostFile) :
    HostServer :=
  { server with files :=
      if hf.clients.length = 0 then server.files.erase file
      else server.files.insert file hf }

def pruneServer (hs : HostService) (deviceIf : String) (server : HostServer) :
    HostService :=
  { hs with servers :=
      if HashTable.size server.files = 0 then hs.servers.erase deviceIf
      else hs.servers.insert deviceIf server }

def dlrHostServiceRemove (hs : HostService) (deviceIf client file : String) :
    Bool × HostService :=
  match hs.servers.lookup deviceIf with
  | none => (false, hs)
  | some server =>
      match server.files.lookup file with
      | none => (false, hs)
      | some hf =>
          match prvRemoveClient client hf with
          | none => (false, hs)
          | some hf => (true, pruneServer hs deviceIf (pruneFile server file hf))

def lostClientFile (client : String) (hf : HostFile) : Option HostFile :=
  match prvRemoveClient client hf with
  | none => some hf
  | some hf => if hf.clients.length > 0 then some hf else none

def lostClientServer (client : String) (server : HostServer) :
    Option HostServer :=
  let files := HashTable.filterMap (fun _ => lostClientFile client) server.files
  if HashTable.size files = 0 then none else some { server with files := files }

def dlrHostServiceLostClient (hs : HostService) (client : String) :
    HostService :=
  { hs with servers :=
      HashTable.filterMap (fun _ => lostClientServer client) hs.servers }

end DleynaRenderer.PushHost
