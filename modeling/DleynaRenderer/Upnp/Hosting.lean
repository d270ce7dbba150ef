import DleynaRenderer.PushHost.Clients
import DleynaRenderer.Upnp.Mirror

/-!
# Hosting files through renderers

A client hosts and removes files through renderer objects, but the push host
service knows interfaces and clients only.  The history below records what the
clients were told: which file was hosted through which renderer, and under
which URL.  The two agree as long as a client that removes a file has hosted it
through the same renderers as on the same interface.
-/

namespace DleynaRenderer.Upnp

open DleynaRenderer.Device DleynaRenderer.Player DleynaRenderer.PushHost
open EventSystem

/-- A successful `HostFile`, on the interface that was preferred then. -/
structure Hosting where
  client : String
  path : String
  file : String
  deviceIf : String
  url : String
  deriving DecidableEq, Repr

structure HostingRun where
  upnp : DlrUpnp
  hostings : List Hosting

def hostingRunNew (pushHostPort : Nat) : HostingRun :=
  ⟨dlrUpnpNew pushHostPort, []⟩

def deviceInterface (path : String) (upnp : DlrUpnp) : Option String :=
  ((dlrDeviceFromPath path upnp).bind dlrDeviceGetContext).map
    DeviceContext.ipAddress

def Hosting.isFor (client path file : String) (hosting : Hosting) : Bool :=
  hosting.client = client && hosting.path = path && hosting.file = file

def hostingsAfter (run : HostingRun) : UpnpEvent → List Hosting
  | .hostFile client path file env =>
      match deviceInterface path run.upnp,
        (dlrUpnpHostUri client path file env run.upnp).1 with
      | some deviceIf, .ok url =>
          run.hostings ++ [⟨client, path, file, deviceIf, url⟩]
      | _, _ => run.hostings
  | .removeFile client path file =>
      match (dlrUpnpRemoveUri client path file run.upnp).1 with
      | .ok _ =>
          run.hostings.filter fun hosting => !hosting.isFor client path file
      | .error _ => run.hostings
  | .lostClient client =>
      run.hostings.filter fun hosting => hosting.client ≠ client
  | _ => run.hostings

def hostingStep (convertUdnToPath : String → String) (run : HostingRun)
    (event : UpnpEvent) : Option HostingRun :=
  (upnpStep convertUdnToPath run.upnp event).map fun upnp =>
    ⟨upnp, hostingsAfter run event⟩

def Resolves (hs : HostService) (hosting : Hosting) : Prop :=
  ∃ server hf, hs.servers.lookup hosting.deviceIf = some server ∧
    prvHostServerFindFile server hf.path = some (hosting.file, hf) ∧
    hosting.url = hostUrl hosting.deviceIf server hf

def UrlsResolve (run : HostingRun) : Prop :=
  ∀ hosting ∈ run.hostings, Resolves run.upnp.hostService hosting

def ClientOf (hs : HostService) (deviceIf file client : String) : Prop :=
  ∃ server hf, hs.servers.lookup deviceIf = some server ∧
    server.files.lookup file = some hf ∧ client ∈ hf.clients

/--
A file is removed through a renderer if it was hosted through it, and the
client is then a client of it for the sake of another renderer only.
-/
def RemovalMatches (run : HostingRun) (event : UpnpEvent)
    (next : HostingRun) : Prop :=
  match event with
  | .removeFile client path file =>
      (dlrDeviceFromPath path run.upnp).isSome →
        ((dlrUpnpRemoveUri client path file run.upnp).1.isOk ↔
          ∃ hosting ∈ run.hostings, hosting.isFor client path file) ∧
        ((dlrUpnpRemoveUri client path file run.upnp).1.isOk →
          (∀ deviceIf, ¬ ClientOf next.upnp.hostService deviceIf file client) ∨
          ∃ hosting ∈ run.hostings, hosting.client = client ∧
            hosting.file = file ∧ hosting.path ≠ path)
  | _ => True

/--
A client that removes a file has hosted it through the renderer exactly where
it has hosted it on the present interface of the renderer, and a file that is
new to a server does not get the path of another one.
-/
def HostingCondition (run : HostingRun) : UpnpEvent → Prop
  | .removeFile client path file =>
      ∀ deviceIf ∈ deviceInterface path run.upnp,
        ∀ hosting ∈ run.hostings,
          hosting.client = client → hosting.file = file →
            (hosting.path = path ↔ hosting.deviceIf = deviceIf)
  | .hostFile _ path file _ =>
      ∀ deviceIf ∈ deviceInterface path run.upnp,
        ∀ server ∈ run.upnp.hostService.servers.lookup deviceIf,
          server.files.lookup file = none →
            ∀ hf ∈ HashTable.values server.files,
              hf.path ≠ hostFilePath file server.counter
  | _ => True

instance (run : HostingRun) (event : UpnpEvent) :
    Decidable (HostingCondition run event) :=
  match event with
  | .removeFile .. =>
      inferInstanceAs
        (Decidable (∀ deviceIf ∈ _, ∀ hosting ∈ _, _ → _ → _))
  | .hostFile .. =>
      inferInstanceAs
        (Decidable (∀ deviceIf ∈ _, ∀ server ∈ _, _ → ∀ hf ∈ _, _))
  | .available .. | .unavailable .. | .runTask .. | .chainEnd ..
  | .subscribeTimeout .. | .subscriptionLost .. | .reEnable .. | .player ..
  | .lostClient .. =>
      inferInstanceAs (Decidable True)

structure HostingInv (table : String → String → Option Hosted)
    (hostings : List Hosting) : Prop where
  nodup : ∀ deviceIf file hosted, table deviceIf file = some hosted →
    hosted.clients.Nodup
  clients : ∀ deviceIf file client,
    (∃ hosted, table deviceIf file = some hosted ∧ client ∈ hosted.clients) ↔
      ∃ hosting ∈ hostings, hosting.client = client ∧ hosting.file = file ∧
        hosting.deviceIf = deviceIf
  urls : ∀ hosting ∈ hostings, ∃ hosted,
    table hosting.deviceIf hosting.file = some hosted ∧
      hosting.url = hosted.url hosting.deviceIf
  distinct : ∀ deviceIf file other first second,
    table deviceIf file = some first → table deviceIf other = some second →
      first.path = second.path → file = other

theorem hostingInv_shrink {table next : String → String → Option Hosted}
    {hostings kept : List Hosting} (h : HostingInv table hostings)
    (hkept : kept ⊆ hostings)
    (hnext : ∀ deviceIf file hosted, next deviceIf file = some hosted →
      ∃ old, table deviceIf file = some old ∧ hosted.path = old.path ∧
        hosted.soupPort = old.soupPort ∧ hosted.clients.Nodup)
    (hclients : ∀ deviceIf file client,
      (∃ hosted, next deviceIf file = some hosted ∧ client ∈ hosted.clients) ↔
        ∃ hosting ∈ kept, hosting.client = client ∧ hosting.file = file ∧
          hosting.deviceIf = deviceIf) :
    HostingInv next kept where
  nodup deviceIf file hosted hhosted := by
    obtain ⟨-, -, -, -, hnodup⟩ := hnext deviceIf file hosted hhosted
    exact hnodup
  clients := hclients
  urls hosting hmem := by
    obtain ⟨hosted, hhosted, -⟩ := (hclients hosting.deviceIf hosting.file
      hosting.client).mpr ⟨hosting, hmem, rfl, rfl, rfl⟩
    obtain ⟨old, hold, hpath, hport, -⟩ := hnext _ _ hosted hhosted
    obtain ⟨other, hother, hurl⟩ := h.urls hosting (hkept hmem)
    obtain rfl : other = old := Option.some.inj (hother.symm.trans hold)
    refine ⟨hosted, hhosted, ?_⟩
    rw [hurl, Hosted.url, Hosted.url, hpath, hport]
  distinct deviceIf file other first second hfirst hsecond hpath := by
    obtain ⟨old, hold, hsame, -⟩ := hnext deviceIf file first hfirst
    obtain ⟨old', hold', hsame', -⟩ := hnext deviceIf other second hsecond
    exact h.distinct deviceIf file other old old' hold hold'
      (hsame.symm.trans (hpath.trans hsame'))

def leaveHosted (client : String) (file : Hosted) : Option Hosted :=
  if client ∈ file.clients then dropHosted client file else some file

theorem leaveHosted_spec {client : String} {file hosted : Hosted}
    (hnodup : file.clients.Nodup) (h : leaveHosted client file = some hosted) :
    hosted.path = file.path ∧ hosted.soupPort = file.soupPort ∧
      hosted.clients.Nodup := by
  unfold leaveHosted dropHosted at h
  split at h
  · split at h
    · contradiction
    · obtain rfl := Option.some.inj h
      exact ⟨rfl, rfl, hnodup.erase client⟩
  · obtain rfl := Option.some.inj h
    exact ⟨rfl, rfl, hnodup⟩

theorem mem_leaveHosted_iff {client other : String} {file : Hosted}
    (hnodup : file.clients.Nodup) :
    (∃ hosted, leaveHosted client file = some hosted ∧
        other ∈ hosted.clients) ↔
      other ≠ client ∧ other ∈ file.clients := by
  rw [← hnodup.mem_erase_iff]
  unfold leaveHosted dropHosted
  split_ifs with hmem hnil
  · simp [hnil]
  · simp
  · rw [List.erase_of_not_mem hmem]
    simp

/-! ## The operations -/

theorem mem_addHosted_iff {client other path : String} {soupPort : Nat}
    {old : Option Hosted} :
    other ∈ (addHosted client path soupPort old).clients ↔
      other = client ∨ ∃ hosted, old = some hosted ∧ other ∈ hosted.clients := by
  cases old with
  | none => simp [addHosted]
  | some hosted =>
      simp only [addHosted, Option.some.injEq, exists_eq_left']
      split_ifs with hmem
      · constructor
        · exact .inr
        · rintro (rfl | hother)
          · exact hmem
          · exact hother
      · simp [or_comm]

theorem nodup_addHosted {client path : String} {soupPort : Nat}
    {old : Option Hosted}
    (h : ∀ hosted, old = some hosted → hosted.clients.Nodup) :
    (addHosted client path soupPort old).clients.Nodup := by
  cases old with
  | none => exact List.nodup_singleton client
  | some hosted =>
      have hnodup := h hosted rfl
      simp only [addHosted]
      split_ifs with hmem
      · exact hnodup
      · exact List.nodup_append.mpr ⟨hnodup, List.nodup_singleton client,
          by grind⟩

section Add

variable {table next : String → String → Option Hosted}
  {client file deviceIf newPath : String} {soupPort : Nat}
  (hnext : ∀ otherIf other, next otherIf other =
    if otherIf = deviceIf ∧ other = file then
      some (addHosted client newPath soupPort (table deviceIf file))
    else table otherIf other)

include hnext

theorem clients_of_added (otherIf other client' : String) :
    (∃ hosted, next otherIf other = some hosted ∧ client' ∈ hosted.clients) ↔
      (client = client' ∧ file = other ∧ deviceIf = otherIf) ∨
        ∃ hosted, table otherIf other = some hosted ∧
          client' ∈ hosted.clients := by
  rw [hnext]
  split_ifs with hat
  · obtain ⟨rfl, rfl⟩ := hat
    simp only [Option.some.injEq, exists_eq_left', mem_addHosted_iff]
    simp [eq_comm]
  · constructor
    · exact .inr
    · rintro (⟨-, rfl, rfl⟩ | hclient)
      · exact absurd ⟨rfl, rfl⟩ hat
      · exact hclient

theorem path_of_added {otherIf other : String} {hosted : Hosted}
    (hhosted : next otherIf other = some hosted) :
    (otherIf = deviceIf ∧ other = file ∧ table deviceIf file = none ∧
      hosted.path = newPath) ∨
      ∃ old, table otherIf other = some old ∧ hosted.path = old.path := by
  rw [hnext] at hhosted
  split_ifs at hhosted with hat
  · obtain ⟨rfl, rfl⟩ := hat
    obtain rfl := Option.some.inj hhosted
    cases table otherIf other with
    | none => exact .inl ⟨rfl, rfl, rfl, rfl⟩
    | some old => exact .inr ⟨old, rfl, rfl⟩
  · exact .inr ⟨hosted, hhosted, rfl⟩

theorem url_of_added {otherIf other : String} {hosted : Hosted}
    (hhosted : table otherIf other = some hosted) :
    ∃ hosted', next otherIf other = some hosted' ∧
      hosted.url otherIf = hosted'.url otherIf := by
  rw [hnext]
  split_ifs with hat
  · obtain ⟨rfl, rfl⟩ := hat
    rw [hhosted]
    exact ⟨_, rfl, rfl⟩
  · exact ⟨hosted, hhosted, rfl⟩

theorem hostingInv_add {hostings : List Hosting} (h : HostingInv table hostings)
    (path : String)
    (hfresh : table deviceIf file = none → ∀ other hosted,
      table deviceIf other = some hosted → hosted.path ≠ newPath) :
    HostingInv next (hostings ++ [⟨client, path, file, deviceIf,
      (addHosted client newPath soupPort (table deviceIf file)).url
        deviceIf⟩]) where
  nodup otherIf other hosted hhosted := by
    rw [hnext] at hhosted
    split_ifs at hhosted
    · obtain rfl := Option.some.inj hhosted
      exact nodup_addHosted (h.nodup deviceIf file)
    · exact h.nodup otherIf other hosted hhosted
  clients otherIf other client' := by
    rw [clients_of_added hnext, h.clients]
    constructor
    · rintro (⟨rfl, rfl, rfl⟩ | ⟨hosting, hmem, hsame⟩)
      · exact ⟨_, List.mem_append_right _ (List.mem_singleton_self _), rfl, rfl,
          rfl⟩
      · exact ⟨hosting, List.mem_append_left _ hmem, hsame⟩
    · rintro ⟨hosting, hmem, hsame⟩
      rcases List.mem_append.mp hmem with hmem | hmem
      · exact .inr ⟨hosting, hmem, hsame⟩
      · rw [List.mem_singleton.mp hmem] at hsame
        exact .inl hsame
  urls hosting hmem := by
    rcases List.mem_append.mp hmem with hmem | hmem
    · obtain ⟨hosted, hhosted, hurl⟩ := h.urls hosting hmem
      rw [hurl]
      exact url_of_added hnext hhosted
    · rw [List.mem_singleton.mp hmem]
      exact ⟨_, (hnext deviceIf file).trans (if_pos ⟨rfl, rfl⟩), rfl⟩
  distinct otherIf other other' first second hfirst hsecond hpath := by
    -- two files can only share the path of the added one, which is fresh
    rcases path_of_added hnext hfirst with
      ⟨rfl, rfl, hnone, hnew⟩ | ⟨old, hother, hsame⟩ <;>
      rcases path_of_added hnext hsecond with
        ⟨hif, hfile, hnone', hnew'⟩ | ⟨old', hother', hsame'⟩
    · exact hfile.symm
    · exact absurd (hsame'.symm.trans (hpath.symm.trans hnew))
        (hfresh hnone other' old' hother')
    · rw [hif] at hother
      exact absurd (hsame.symm.trans (hpath.trans hnew'))
        (hfresh hnone' other old hother)
    · exact h.distinct otherIf other other' old old' hother hother'
        (hsame.symm.trans (hpath.trans hsame'))

end Add

theorem hostingInv_lostClient {table next : String → String → Option Hosted}
    {hostings : List Hosting} (h : HostingInv table hostings) {client : String}
    (hnext : ∀ deviceIf file, next deviceIf file =
      (table deviceIf file).bind (leaveHosted client)) :
    HostingInv next
      (hostings.filter fun hosting => hosting.client ≠ client) := by
  refine hostingInv_shrink h (List.filter_subset_self _) ?_ ?_
  · intro deviceIf file hosted hhosted
    rw [hnext, Option.bind_eq_some_iff] at hhosted
    obtain ⟨old, hold, hleave⟩ := hhosted
    exact ⟨old, hold, leaveHosted_spec (h.nodup _ _ _ hold) hleave⟩
  · intro deviceIf file other
    have hleft : (∃ hosted, next deviceIf file = some hosted ∧
        other ∈ hosted.clients) ↔ other ≠ client ∧
          ∃ hosted, table deviceIf file = some hosted ∧
            other ∈ hosted.clients := by
      rw [hnext]
      cases hold : table deviceIf file with
      | none => simp
      | some old =>
          simpa using mem_leaveHosted_iff (h.nodup deviceIf file old hold)
    rw [hleft, h.clients]
    constructor
    · rintro ⟨hne, hosting, hmem, rfl, rfl, rfl⟩
      exact ⟨hosting, List.mem_filter.mpr ⟨hmem, by simpa using hne⟩, rfl, rfl,
        rfl⟩
    · rintro ⟨hosting, hmem, rfl, rfl, rfl⟩
      obtain ⟨hmem, hne⟩ := List.mem_filter.mp hmem
      exact ⟨by simpa using hne, hosting, hmem, rfl, rfl, rfl⟩

theorem kept_hosting_iff {hostings : List Hosting}
    {client path file deviceIf : String}
    (hguard : ∀ hosting ∈ hostings, hosting.client = client →
      hosting.file = file → (hosting.path = path ↔ hosting.deviceIf = deviceIf))
    (otherIf other client' : String) :
    (∃ hosting ∈ hostings.filter
      (fun hosting => !hosting.isFor client path file),
      hosting.client = client' ∧ hosting.file = other ∧
        hosting.deviceIf = otherIf) ↔
      ¬ (client' = client ∧ other = file ∧ otherIf = deviceIf) ∧
        ∃ hosting ∈ hostings, hosting.client = client' ∧
          hosting.file = other ∧ hosting.deviceIf = otherIf := by
  constructor
  · rintro ⟨hosting, hfilter, rfl, rfl, rfl⟩
    obtain ⟨hhosting, hnot⟩ := List.mem_filter.mp hfilter
    refine ⟨?_, hosting, hhosting, rfl, rfl, rfl⟩
    rintro ⟨hclient, hfile, hif⟩
    have hpath := (hguard hosting hhosting hclient hfile).mpr hif
    simp [Hosting.isFor, hclient, hfile, hpath] at hnot
  · rintro ⟨hnot, hosting, hhosting, rfl, rfl, rfl⟩
    refine ⟨hosting, List.mem_filter.mpr ⟨hhosting, ?_⟩, rfl, rfl, rfl⟩
    by_contra hfor
    simp only [Hosting.isFor, Bool.not_eq_true', Bool.not_eq_false,
      Bool.and_eq_true, decide_eq_true_eq] at hfor
    obtain ⟨⟨hclient, hpath⟩, hfile⟩ := hfor
    exact hnot ⟨hclient, hfile,
      (hguard hosting hhosting hclient hfile).mp hpath⟩

theorem hostingInv_remove {table next : String → String → Option Hosted}
    {hostings : List Hosting} (h : HostingInv table hostings)
    {client path file deviceIf : String} {old : Hosted}
    (hold : table deviceIf file = some old) (hmem : client ∈ old.clients)
    (hnext : ∀ otherIf other, next otherIf other =
      if otherIf = deviceIf ∧ other = file then dropHosted client old
      else table otherIf other)
    (hguard : ∀ hosting ∈ hostings, hosting.client = client →
      hosting.file = file → (hosting.path = path ↔ hosting.deviceIf = deviceIf)) :
    HostingInv next
      (hostings.filter fun hosting => !hosting.isFor client path file) := by
  have hleave : dropHosted client old = leaveHosted client old := by
    unfold leaveHosted
    rw [if_pos hmem]
  rw [hleave] at hnext
  have hnodup := h.nodup deviceIf file old hold
  refine hostingInv_shrink h (List.filter_subset_self _) ?_ ?_
  · intro otherIf other hosted hhosted
    rw [hnext] at hhosted
    split_ifs at hhosted with hat
    · obtain ⟨rfl, rfl⟩ := hat
      exact ⟨old, hold, leaveHosted_spec hnodup hhosted⟩
    · exact ⟨hosted, hhosted, rfl, rfl, h.nodup _ _ _ hhosted⟩
  · intro otherIf other client'
    rw [kept_hosting_iff hguard, ← h.clients, hnext]
    split_ifs with hat
    · obtain ⟨rfl, rfl⟩ := hat
      rw [mem_leaveHosted_iff hnodup]
      simp [hold]
    · constructor
      · intro hclient
        exact ⟨fun hsame => hat ⟨hsame.2.2, hsame.2.1⟩, hclient⟩
      · exact And.right

theorem exists_server_of_hosted {hs : HostService} {deviceIf file : String}
    {found : Hosted} (h : hosted hs deviceIf file = some found) :
    ∃ server hf, hs.servers.lookup deviceIf = some server ∧
      server.files.lookup file = some hf ∧
      found = ⟨server.soupPort, hf.path, hf.clients⟩ := by
  obtain ⟨server, hserver, hon⟩ := Option.bind_eq_some_iff.mp h
  obtain ⟨hf, hfile, rfl⟩ := Option.map_eq_some_iff.mp hon
  exact ⟨server, hf, hserver, hfile, rfl⟩

theorem hosted_of_server {hs : HostService} {deviceIf file : String}
    {server : HostServer} {hf : HostFile}
    (hserver : hs.servers.lookup deviceIf = some server)
    (hfile : server.files.lookup file = some hf) :
    hosted hs deviceIf file =
      some ⟨server.soupPort, hf.path, hf.clients⟩ := by
  simp [hosted, hserver, hostedOn, hfile]

/-! ## Runs -/

structure HostingRunInv (convertUdnToPath : String → String)
    (run : HostingRun) : Prop where
  located : Located convertUdnToPath run.upnp
  hosting : HostingInv (hosted run.upnp.hostService) run.hostings

theorem hostingRunInv_new (convertUdnToPath : String → String)
    (pushHostPort : Nat) :
    HostingRunInv convertUdnToPath (hostingRunNew pushHostPort) where
  located := located_dlrUpnpNew convertUdnToPath pushHostPort
  hosting := by
    have hnone (deviceIf file : String) :
        hosted (dlrHostServiceNew pushHostPort) deviceIf file = none := rfl
    refine ⟨?_, ?_, ?_, ?_⟩ <;>
      simp [hostingRunNew, dlrUpnpNew, hnone]

theorem urlsResolve_of_inv {convertUdnToPath : String → String}
    {run : HostingRun} (h : HostingRunInv convertUdnToPath run) :
    UrlsResolve run := by
  intro hosting hmem
  obtain ⟨found, hfound, hurl⟩ := h.hosting.urls hosting hmem
  obtain ⟨server, hf, hserver, hfile, rfl⟩ := exists_server_of_hosted hfound
  refine ⟨server, hf, hserver, ?_, hurl⟩
  unfold prvHostServerFindFile
  cases hfind : server.files.entries.find? fun entry => entry.2.path = hf.path with
  | none =>
      have hentry := HashTable.lookup_eq_some_iff.mp hfile
      simpa using List.find?_eq_none.mp hfind _ hentry
  | some found =>
      obtain ⟨file, other⟩ := found
      have hpath : other.path = hf.path := by
        simpa using List.find?_some hfind
      have hother := HashTable.lookup_eq_some_iff.mpr
        (List.mem_of_find?_eq_some hfind)
      -- no other file of the server has the path that is looked for
      obtain rfl := h.hosting.distinct hosting.deviceIf file hosting.file _ _
        (hosted_of_server hserver hother) (hosted_of_server hserver hfile) hpath
      rw [hfile] at hother
      obtain rfl := Option.some.inj hother
      rfl

theorem clientOf_iff {hs : HostService} {deviceIf file client : String} :
    ClientOf hs deviceIf file client ↔
      ∃ found, hosted hs deviceIf file = some found ∧
        client ∈ found.clients := by
  constructor
  · rintro ⟨server, hf, hserver, hfile, hmem⟩
    exact ⟨_, hosted_of_server hserver hfile, hmem⟩
  · rintro ⟨found, hfound, hmem⟩
    obtain ⟨server, hf, hserver, hfile, rfl⟩ := exists_server_of_hosted hfound
    exact ⟨server, hf, hserver, hfile, hmem⟩

theorem hostingRunInv_hostFile {convertUdnToPath : String → String}
    {run : HostingRun} (h : HostingRunInv convertUdnToPath run)
    {client path file : String} {env : HostEnv}
    (hguard : HostingCondition run (.hostFile client path file env)) :
    HostingRunInv convertUdnToPath ⟨(dlrUpnpHostUri client path file env run.upnp).2,
      hostingsAfter run (.hostFile client path file env)⟩ := by
  refine ⟨?_, ?_⟩
  · rw [← sameDevices_dlrUpnpHostUri client path file env run.upnp]
    exact ⟨h.located.apart, h.located.mirrored⟩
  · cases hcontext : (dlrDeviceFromPath path run.upnp).bind
        dlrDeviceGetContext with
    | none =>
        simpa [hostingsAfter, deviceInterface, dlrUpnpHostUri, hcontext] using
          h.hosting
    | some context =>
        have hif : deviceInterface path run.upnp = some context.ipAddress := by
          simp [deviceInterface, hcontext]
        simp only [hostingsAfter, hif, dlrUpnpHostUri, hcontext]
        rcases hosted_dlrHostServiceAdd run.upnp.hostService context.ipAddress
          client file env with
          ⟨newPath, soupPort, hnew, hurl, hnext⟩ | ⟨⟨error, herror⟩, hnext⟩
        · simp only [hurl]
          apply hostingInv_add hnext h.hosting path
          intro hnone other found hfound
          obtain ⟨server, hf, hserver, hfile, rfl⟩ :=
            exists_server_of_hosted hfound
          rw [hnew server hserver]
          refine hguard context.ipAddress hif server hserver ?_ hf
            (HashTable.mem_values_iff.mpr ⟨other, hfile⟩)
          simpa [hosted, hserver, hostedOn] using hnone
        · simp only [herror]
          have htable : hosted (dlrHostServiceAdd run.upnp.hostService
              context.ipAddress client file env).2 =
                hosted run.upnp.hostService := by
            funext otherIf other
            exact hnext otherIf other
          rw [htable]
          exact h.hosting

theorem isFor_iff {client path file : String} {hosting : Hosting} :
    hosting.isFor client path file ↔ hosting.client = client ∧
      hosting.path = path ∧ hosting.file = file := by
  simp [Hosting.isFor, and_assoc]

theorem hostedThrough_iff {convertUdnToPath : String → String}
    {run : HostingRun} (h : HostingRunInv convertUdnToPath run)
    {client path file deviceIf : String}
    (hguard : ∀ hosting ∈ run.hostings, hosting.client = client →
      hosting.file = file → (hosting.path = path ↔ hosting.deviceIf = deviceIf)) :
    (∃ found, hosted run.upnp.hostService deviceIf file = some found ∧
        client ∈ found.clients) ↔
      ∃ hosting ∈ run.hostings, hosting.isFor client path file := by
  rw [h.hosting.clients]
  simp only [isFor_iff]
  constructor
  · rintro ⟨hosting, hmem, hclient, hfile, hif⟩
    exact ⟨hosting, hmem, hclient,
      (hguard hosting hmem hclient hfile).mpr hif, hfile⟩
  · rintro ⟨hosting, hmem, hclient, hpath, hfile⟩
    exact ⟨hosting, hmem, hclient, hfile,
      (hguard hosting hmem hclient hfile).mp hpath⟩

theorem gone_or_hosted_elsewhere {hs : HostService} {hostings : List Hosting}
    {client path file : String}
    (hinv : HostingInv (hosted hs)
      (hostings.filter fun hosting => !hosting.isFor client path file)) :
    (∀ deviceIf, ¬ ClientOf hs deviceIf file client) ∨
      ∃ hosting ∈ hostings, hosting.client = client ∧
        hosting.file = file ∧ hosting.path ≠ path := by
  by_cases hother : ∃ hosting ∈ hostings, hosting.client = client ∧
      hosting.file = file ∧ hosting.path ≠ path
  · exact .inr hother
  · refine .inl fun deviceIf hclient => ?_
    obtain ⟨hosting, hkept, hclient, hfile, -⟩ :=
      (hinv.clients deviceIf file client).mp (clientOf_iff.mp hclient)
    obtain ⟨hhosting, hnot⟩ := List.mem_filter.mp hkept
    refine hother ⟨hosting, hhosting, hclient, hfile, fun hpath => ?_⟩
    simp [isFor_iff.mpr ⟨hclient, hpath, hfile⟩] at hnot

theorem hostingRunInv_removeFile {convertUdnToPath : String → String}
    {run : HostingRun} (h : HostingRunInv convertUdnToPath run)
    {client path file : String}
    (hguard : HostingCondition run (.removeFile client path file)) :
    let next : HostingRun := ⟨(dlrUpnpRemoveUri client path file run.upnp).2,
      hostingsAfter run (.removeFile client path file)⟩
    HostingRunInv convertUdnToPath next ∧
      RemovalMatches run (.removeFile client path file) next := by
  cases hcontext : (dlrDeviceFromPath path run.upnp).bind
      dlrDeviceGetContext with
  | none =>
      refine ⟨⟨?_, ?_⟩, fun hsome => ?_⟩
      · simpa [dlrUpnpRemoveUri, hcontext] using h.located
      · simpa [hostingsAfter, dlrUpnpRemoveUri, hcontext] using h.hosting
      · obtain ⟨device, hdevice⟩ := Option.isSome_iff_exists.mp hsome
        rw [hdevice, Option.bind_some] at hcontext
        exact absurd hcontext (h.located.dlrDeviceGetContext_ne_none hdevice)
  | some context =>
      have hif : deviceInterface path run.upnp = some context.ipAddress := by
        simp [deviceInterface, hcontext]
      have hmatch := hguard context.ipAddress hif
      have hthrough := hostedThrough_iff h hmatch
      rcases hosted_dlrHostServiceRemove run.upnp.hostService
        context.ipAddress client file with
        ⟨hremoved, old, hold, hmem, hnext⟩ | ⟨hkept, hnot⟩
      · rcases hpair : dlrHostServiceRemove run.upnp.hostService
          context.ipAddress client file with ⟨removed, hostService⟩
        simp only [hpair] at hremoved hnext
        subst hremoved
        have hresult : dlrUpnpRemoveUri client path file run.upnp =
            (.ok (), { run.upnp with hostService := hostService }) := by
          simp only [dlrUpnpRemoveUri, hcontext, hpair]
        have hinv := hostingInv_remove h.hosting hold hmem hnext hmatch
        simp only [RemovalMatches, hostingsAfter, hresult]
        refine ⟨⟨⟨h.located.apart, h.located.mirrored⟩, hinv⟩, fun _ =>
          ⟨?_, fun _ => gone_or_hosted_elsewhere hinv⟩⟩
        rw [← hthrough]
        exact ⟨fun _ => ⟨old, hold, hmem⟩, fun _ => rfl⟩
      · have hresult : dlrUpnpRemoveUri client path file run.upnp =
            (.error ⟨.objectNotFound, "File not hosted for specified device"⟩,
              run.upnp) := by
          simp only [dlrUpnpRemoveUri, hcontext, hkept]
        simp only [RemovalMatches, hostingsAfter, hresult]
        refine ⟨⟨h.located, h.hosting⟩, fun _ =>
          ⟨?_, by simp [Except.isOk, Except.toBool]⟩⟩
        rw [← hthrough]
        simpa [Except.isOk, Except.toBool] using hnot

theorem hostingRunInv_lostClient {convertUdnToPath : String → String}
    {run : HostingRun} (h : HostingRunInv convertUdnToPath run)
    (client : String) :
    HostingRunInv convertUdnToPath ⟨dlrUpnpLostClient client run.upnp,
      hostingsAfter run (.lostClient client)⟩ :=
  ⟨⟨h.located.apart, h.located.mirrored⟩, hostingInv_lostClient h.hosting
    (hosted_dlrHostServiceLostClient run.upnp.hostService client)⟩

theorem hostingRunInv_step {convertUdnToPath : String → String}
    {run next : HostingRun} {event : UpnpEvent}
    (h : HostingRunInv convertUdnToPath run)
    (hguard : HostingCondition run event)
    (hstep : hostingStep convertUdnToPath run event = some next) :
    HostingRunInv convertUdnToPath next ∧ RemovalMatches run event next := by
  obtain ⟨upnp, hupnp, rfl⟩ := Option.map_eq_some_iff.mp hstep
  rcases upnpStep_cases h.located.apart hupnp with
    ⟨udn, htarget, hchanges⟩ | ⟨htarget, -⟩
  · have hinv : HostingInv (hosted upnp.hostService) run.hostings := by
      rw [hchanges.hostService]
      exact h.hosting
    cases event with
    | hostFile client path file env => contradiction
    | removeFile client path file => contradiction
    | lostClient client => contradiction
    | _ => exact ⟨⟨located_upnpStep h.located hupnp, hinv⟩, trivial⟩
  · cases event with
    | hostFile client path file env =>
        obtain rfl := Option.some.inj hupnp
        exact ⟨hostingRunInv_hostFile h hguard, trivial⟩
    | removeFile client path file =>
        obtain rfl := Option.some.inj hupnp
        exact hostingRunInv_removeFile h hguard
    | lostClient client =>
        obtain rfl := Option.some.inj hupnp
        exact ⟨hostingRunInv_lostClient h client, trivial⟩
    | _ => contradiction

/-- Hosting and removing are inverse, for each renderer object. -/
theorem hosting_inverse_per_renderer (convertUdnToPath : String → String)
    (pushHostPort : Nat) (events : List UpnpEvent)
    (hcondition : Meets (hostingStep convertUdnToPath) HostingCondition
      (hostingRunNew pushHostPort) events) :
    Always (hostingStep convertUdnToPath) UrlsResolve
        (hostingRunNew pushHostPort) events ∧
      EachStep (hostingStep convertUdnToPath) RemovalMatches
        (hostingRunNew pushHostPort) events :=
  guarded_run_safe (HostingRunInv convertUdnToPath)
    (fun _ => urlsResolve_of_inv) (fun _ _ _ => hostingRunInv_step)
    (hostingRunInv_new convertUdnToPath pushHostPort) hcondition

def announcedOn (udn ipAddress : String) : List UpnpEvent :=
  let answer : TaskAnswer := ⟨none, fun _ => 1⟩
  [.available udn ipAddress fun _ => true, .runTask udn answer,
   .runTask udn answer, .runTask udn answer, .chainEnd udn]

def song : HostEnv :=
  ⟨true, 40000, true, true, some "audio/mpeg", none, none, ""⟩

def renderer (udn : String) : String := serverPath id udn

/-- The renderer moves to another interface after a file was hosted. -/
def hostThenMove : List UpnpEvent :=
  announcedOn "uuid:1" "10.0.0.1" ++
    [.hostFile ":1.7" (renderer "uuid:1") "/song.mp3" song,
     .available "uuid:1" "10.0.0.2" fun _ => true,
     .unavailable "uuid:1" "10.0.0.1"]

/-- Two renderers share an interface, and one of them removes the file. -/
def sharedInterface : List UpnpEvent :=
  announcedOn "uuid:1" "10.0.0.1" ++ announcedOn "uuid:2" "10.0.0.1" ++
    [.hostFile ":1.7" (renderer "uuid:1") "/song.mp3" song,
     .hostFile ":1.7" (renderer "uuid:2") "/song.mp3" song,
     .removeFile ":1.7" (renderer "uuid:1") "/song.mp3"]

theorem removal_ignores_renderer :
    (¬ EachStep (hostingStep id) RemovalMatches (hostingRunNew 0)
      (hostThenMove ++ [.removeFile ":1.7" (renderer "uuid:1") "/song.mp3"])) ∧
      ¬ Always (hostingStep id) UrlsResolve (hostingRunNew 0)
        sharedInterface := by
  constructor
  · intro heach
    have hrun : (exec (hostingStep id) (hostingRunNew 0) hostThenMove).map
        (fun run => ((dlrDeviceFromPath (renderer "uuid:1") run.upnp).isSome,
          (dlrUpnpRemoveUri ":1.7" (renderer "uuid:1") "/song.mp3"
            run.upnp).1.isOk,
          run.hostings.any (·.isFor ":1.7" (renderer "uuid:1") "/song.mp3"))) =
          some (true, false, true) := by decide +kernel
    obtain ⟨run, hexec, hobserved⟩ := Option.map_eq_some_iff.mp hrun
    simp only [Prod.mk.injEq, List.any_eq_true] at hobserved
    obtain ⟨hfound, hrefused, hhosted⟩ := hobserved
    have hlaw := ((eachStep_concat hexec).mp heach).2 _ rfl hfound
    rw [hrefused] at hlaw
    simp [hhosted] at hlaw
  · intro halways
    have hrun : (exec (hostingStep id) (hostingRunNew 0) sharedInterface).map
        (fun run => (run.hostings.map Hosting.deviceIf,
          (run.upnp.hostService.servers.lookup "10.0.0.1").isSome)) =
          some (["10.0.0.1"], false) := by decide +kernel
    obtain ⟨run, hexec, hobserved⟩ := Option.map_eq_some_iff.mp hrun
    simp only [Prod.mk.injEq] at hobserved
    obtain ⟨hhostings, hserver⟩ := hobserved
    have hurls := always_iff_prefix.mp halways sharedInterface
      (List.prefix_refl _) run hexec
    have hmem : "10.0.0.1" ∈ run.hostings.map Hosting.deviceIf := by
      simp [hhostings]
    obtain ⟨hosting, hhosting, hif⟩ := List.mem_map.mp hmem
    obtain ⟨server, hf, hlookup, -⟩ := hurls hosting hhosting
    rw [hif] at hlookup
    simp [hlookup] at hserver

/--
Each of two renderers hosts the file on an interface of its own.  One of them
is reached on another interface as well before two clients remove the file.
-/
def hostAndRemove : List UpnpEvent :=
  announcedOn "uuid:1" "10.0.0.1" ++ announcedOn "uuid:2" "10.0.0.2" ++
    [.hostFile ":1.7" (renderer "uuid:1") "/song.mp3" song,
     .hostFile ":1.7" (renderer "uuid:2") "/song.mp3" song,
     .available "uuid:1" "10.0.0.3" fun _ => true,
     .hostFile ":1.8" (renderer "uuid:1") "/song.mp3" song,
     .removeFile ":1.7" (renderer "uuid:1") "/song.mp3",
     .unavailable "uuid:1" "10.0.0.3",
     .removeFile ":1.8" (renderer "uuid:1") "/song.mp3"]

theorem hosting_inverse_per_renderer_host_and_remove :
    (exec (hostingStep id) (hostingRunNew 0) hostAndRemove).map
        (fun run => run.hostings.map Hosting.deviceIf) = some ["10.0.0.2"] ∧
      Meets (hostingStep id) HostingCondition (hostingRunNew 0) hostAndRemove ∧
      Always (hostingStep id) UrlsResolve (hostingRunNew 0) hostAndRemove ∧
      EachStep (hostingStep id) RemovalMatches (hostingRunNew 0)
        hostAndRemove := by
  have hcondition : Meets (hostingStep id) HostingCondition (hostingRunNew 0)
      hostAndRemove := by decide +kernel
  exact ⟨by decide +kernel, hcondition,
    hosting_inverse_per_renderer id 0 hostAndRemove hcondition⟩

end DleynaRenderer.Upnp
