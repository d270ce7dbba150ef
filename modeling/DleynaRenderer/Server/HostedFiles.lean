import DleynaRenderer.Server.Requests

/-!
# Hosted files and their clients

A file is hosted for the clients that asked for it.  When only outstanding
requests are processed, each of these clients is watched: the daemon learns of
its departure, and takes the file down after the last of them.
-/

namespace DleynaRenderer.Server

open DleynaRenderer.PushHost DleynaRenderer.Upnp
open EventSystem

variable {κ : Type} (connector : Connector κ)

/-- The processor hosts files for requests whose queue is still there. -/
def HostsForRequests (context : DlrContext κ) : ServerEvent → Prop
  | .upnp (.hostFile client path _ _) =>
      ⟨client, path⟩ ∈ outstanding context.calls
  | _ => True

instance (context : DlrContext κ) :
    (event : ServerEvent) → Decidable (HostsForRequests context event)
  | .upnp (.hostFile _ _ _ _) => inferInstanceAs (Decidable (_ ∈ _))
  | .upnp (.available _ _ _) | .upnp (.unavailable _ _) | .upnp (.runTask _ _)
  | .upnp (.chainEnd _) | .upnp (.subscribeTimeout _)
  | .upnp (.subscriptionLost _ _ _) | .upnp (.reEnable _ _ _)
  | .upnp (.player _ _ _) | .upnp (.removeFile _ _ _)
  | .upnp (.lostClient _) => isTrue trivial
  | .managerCall _ _ _ | .managerPropsCall _ _ _ | .deviceCall _ _ _ _ _
  | .clientLost _ | .setNeverQuit _ => isTrue trivial

structure Leased (watched : Finset String) (found : Hosted) : Prop where
  nodup : found.clients.Nodup
  nonempty : ∃ client, client ∈ found.clients
  watched : ∀ client ∈ found.clients, client ∈ watched

def AllLeased (watched : Finset String) (hs : HostService) : Prop :=
  ∀ deviceIf file found, hosted hs deviceIf file = some found →
    Leased watched found

def HostedForWatched (context : DlrContext κ) : Prop :=
  AllLeased (connector.watched context.connector) context.upnp.hostService

theorem AllLeased.hosted_eq_none {hs : HostService} (h : AllLeased ∅ hs)
    (deviceIf file : String) : hosted hs deviceIf file = none := by
  cases hfound : hosted hs deviceIf file with
  | none => rfl
  | some found =>
      obtain ⟨-, ⟨client, hclient⟩, hwatched⟩ := h deviceIf file found hfound
      exact absurd (hwatched client hclient) (Finset.notMem_empty client)

theorem AllLeased.mono {watched watched' : Finset String} {hs : HostService}
    (h : AllLeased watched hs) (hsubset : watched ⊆ watched') :
    AllLeased watched' hs := by
  intro deviceIf file found hfound
  obtain ⟨hnodup, hnonempty, hwatched⟩ := h deviceIf file found hfound
  exact ⟨hnodup, hnonempty, fun client hmem => hsubset (hwatched client hmem)⟩

section Operations

variable {watched : Finset String} {hs : HostService}
  (h : AllLeased watched hs)

include h

theorem leased_addHosted {deviceIf file client path : String} {soupPort : Nat}
    (hclient : client ∈ watched) :
    Leased watched (addHosted client path soupPort (hosted hs deviceIf file)) := by
  refine ⟨nodup_addHosted fun found hfound =>
    (h deviceIf file found hfound).nodup, ⟨client, ?_⟩, ?_⟩
  · exact mem_addHosted_iff.mpr (.inl rfl)
  · intro other hother
    rcases mem_addHosted_iff.mp hother with rfl | ⟨found, hfound, hmem⟩
    · exact hclient
    · exact (h deviceIf file found hfound).watched other hmem

theorem allLeased_dlrHostServiceAdd {client : String}
    (hclient : client ∈ watched) (deviceIf file : String) (env : HostEnv) :
    AllLeased watched (dlrHostServiceAdd hs deviceIf client file env).2 := by
  intro otherIf other found hfound
  rcases hosted_dlrHostServiceAdd hs deviceIf client file env with
    ⟨path, soupPort, -, -, hadded⟩ | ⟨-, hsame⟩
  · rw [hadded] at hfound
    split_ifs at hfound with hat
    · obtain rfl := Option.some.inj hfound
      exact leased_addHosted h hclient
    · exact h otherIf other found hfound
  · rw [hsame] at hfound
    exact h otherIf other found hfound

theorem leased_leaveHosted {client deviceIf file : String} {old found : Hosted}
    (hold : hosted hs deviceIf file = some old)
    (hleft : leaveHosted client old = some found) :
    Leased (watched.erase client) found := by
  have hleased := h deviceIf file old hold
  have hmem (other : String) (hother : other ∈ found.clients) :
      other ≠ client ∧ other ∈ old.clients :=
    (mem_leaveHosted_iff hleased.nodup).mp ⟨found, hleft, hother⟩
  refine ⟨(leaveHosted_spec hleased.nodup hleft).2.2, ?_, ?_⟩
  · unfold leaveHosted dropHosted at hleft
    split_ifs at hleft with hclient hnil
    · obtain rfl := Option.some.inj hleft
      exact List.exists_mem_of_ne_nil _ hnil
    · exact Option.some.inj hleft ▸ hleased.nonempty
  · intro other hother
    obtain ⟨hne, hold⟩ := hmem other hother
    exact Finset.mem_erase.mpr ⟨hne, hleased.watched other hold⟩

theorem allLeased_dlrHostServiceLostClient (client : String) :
    AllLeased (watched.erase client) (dlrHostServiceLostClient hs client) := by
  intro deviceIf file found hfound
  rw [hosted_dlrHostServiceLostClient, Option.bind_eq_some_iff] at hfound
  obtain ⟨old, hold, hleft⟩ := hfound
  exact leased_leaveHosted h hold hleft

theorem allLeased_dlrHostServiceRemove (deviceIf client file : String) :
    AllLeased watched (dlrHostServiceRemove hs deviceIf client file).2 := by
  intro otherIf other found hfound
  rcases hosted_dlrHostServiceRemove hs deviceIf client file with
    ⟨-, old, hold, hmem, hremoved⟩ | ⟨hsame, -⟩
  · rw [hremoved] at hfound
    split_ifs at hfound with hat
    · have hleft : leaveHosted client old = some found := by
        rw [leaveHosted, if_pos hmem, hfound]
      obtain ⟨hnodup, hnonempty, hwatched⟩ := leased_leaveHosted h hold hleft
      exact ⟨hnodup, hnonempty, fun other hother =>
        Finset.mem_of_mem_erase (hwatched other hother)⟩
    · exact h otherIf other found hfound
  · rw [hsame] at hfound
    exact h otherIf other found hfound

end Operations

theorem hostService_upnpStep {convertUdnToPath : String → String}
    {upnp next : DlrUpnp} {event : UpnpEvent} (happart : Apart upnp)
    (htarget : target event ≠ none)
    (hstep : upnpStep convertUdnToPath upnp event = some next) :
    next.hostService = upnp.hostService := by
  rcases upnpStep_cases happart hstep with ⟨udn, -, hchanges⟩ | ⟨hnone, -⟩
  · exact hchanges.hostService
  · contradiction

theorem allLeased_upnpStep {convertUdnToPath : String → String}
    {upnp next : DlrUpnp} {event : UpnpEvent} {watched : Finset String}
    (happart : Apart upnp) (h : AllLeased watched upnp.hostService)
    (hclient : ∀ client path file env,
      event = .hostFile client path file env → client ∈ watched)
    (hstep : upnpStep convertUdnToPath upnp event = some next) :
    AllLeased watched next.hostService := by
  cases event with
  | hostFile client path file env =>
      obtain rfl := Option.some.inj hstep
      unfold dlrUpnpHostUri
      split
      · exact h
      · exact allLeased_dlrHostServiceAdd h (hclient client path file env rfl)
          _ file env
  | removeFile client path file =>
      obtain rfl := Option.some.inj hstep
      unfold dlrUpnpRemoveUri
      split
      · exact h
      case h_2 context _ =>
        have hremove := allLeased_dlrHostServiceRemove h context.ipAddress
          client file
        split
        · exact h
        case h_2 hremoved =>
          rw [hremoved] at hremove
          exact hremove
  | lostClient client =>
      obtain rfl := Option.some.inj hstep
      exact (allLeased_dlrHostServiceLostClient h client).mono
        (Finset.erase_subset client watched)
  | _ =>
      rw [hostService_upnpStep happart (by simp [target]) hstep]
      exact h

structure HostedInv (convertUdnToPath : String → String)
    (context : DlrContext κ) : Prop where
  located : Located convertUdnToPath context.upnp
  sources : SourcesWatched connector context
  leased : HostedForWatched connector context

theorem leased_serverStep {convertUdnToPath : String → String}
    {context next : DlrContext κ} {event : ServerEvent}
    (h : HostedInv connector convertUdnToPath context)
    (hguard : HostsForRequests context event)
    (hstep : serverStep connector convertUdnToPath context event = some next) :
    HostedForWatched connector next := by
  have hkept (client : String)
      (hwatched : client ∈ connector.watched context.connector)
      (hstays : some client ≠ departing event) :
      client ∈ connector.watched next.connector :=
    watched_of_not_departing connector hstep hwatched hstays
  unfold HostedForWatched
  rcases upnp_serverStep connector hstep with
    ⟨upnpEvent, rfl, hupnp⟩ | ⟨client, hdeparting, hlost⟩ | ⟨hstays, hsame⟩
  · have hwatched : connector.watched next.connector =
        connector.watched context.connector :=
      (counted_serverStep connector hstep).watched
    rw [hwatched]
    refine allLeased_upnpStep h.located.apart h.leased ?_ hupnp
    rintro client path file env rfl
    exact h.sources _ hguard
  · rw [hlost]
    refine (allLeased_dlrHostServiceLostClient h.leased client).mono ?_
    intro other hother
    obtain ⟨hne, hwatched⟩ := Finset.mem_erase.mp hother
    exact hkept other hwatched (by simpa [hdeparting] using hne)
  · rw [hsame]
    exact h.leased.mono fun other hother => hkept other hother (by simp [hstays])

theorem hostedInv_serverStep {convertUdnToPath : String → String}
    {context next : DlrContext κ} {event : ServerEvent}
    (h : HostedInv connector convertUdnToPath context)
    (hguard : HostsForRequests context event)
    (hstep : serverStep connector convertUdnToPath context event = some next) :
    HostedInv connector convertUdnToPath next where
  located := located_serverStep connector h.located hstep
  sources := sourcesWatched_serverStep connector h.sources hstep
  leased := leased_serverStep connector h hguard hstep

/--
In every run of the daemon whose files are hosted for outstanding requests, a
hosted file has a client, each once and all of them watched; so nothing is hosted
when no client is left.
-/
theorem hosted_files_watched (convertUdnToPath : String → String)
    (neverQuit : Bool) (pushHostPort : Nat) (start : κ)
    (events : List ServerEvent)
    (hrequests : Meets (serverStep connector convertUdnToPath) HostsForRequests
      (prvControlPointInitialize start neverQuit pushHostPort) events) :
    Always (serverStep connector convertUdnToPath)
      (fun context => HostedForWatched connector context ∧
        (connector.watched context.connector = ∅ → ∀ deviceIf file,
          hosted context.upnp.hostService deviceIf file = none))
      (prvControlPointInitialize start neverQuit pushHostPort) events := by
  refine guarded_run_always (HostedInv connector convertUdnToPath) ?_
    (fun _ _ _ => hostedInv_serverStep connector) ?_ hrequests
  · intro context h
    refine ⟨h.leased, fun hnone => ?_⟩
    have hleased := h.leased
    rw [HostedForWatched, hnone] at hleased
    exact hleased.hosted_eq_none
  · refine ⟨located_dlrUpnpNew convertUdnToPath pushHostPort,
      by simp [SourcesWatched, prvControlPointInitialize], ?_⟩
    intro deviceIf file found hfound
    simp [prvControlPointInitialize, dlrUpnpNew, dlrHostServiceNew, hosted]
      at hfound

def requestHosting (client : String) : List ServerEvent :=
  [.deviceCall .pushHost client (renderer "uuid:1") "HostFile" 1,
   .upnp (.hostFile client (renderer "uuid:1") "/song.mp3" song)]

def hostAndLeave : List ServerEvent :=
  (announcedOn "uuid:1" "10.0.0.1").map .upnp ++ requestHosting ":1.1" ++
    requestHosting ":1.2" ++ [.clientLost ":1.1", .managerCall ":1.2" "Release" 2]

theorem hosted_files_watched_host_and_leave :
    ((exec (serverStep setConnector id) (prvControlPointInitialize ∅ false 0)
        (hostAndLeave.take 10)).map fun last =>
          (hosted last.upnp.hostService "10.0.0.1" "/song.mp3").map
            Hosted.clients) = some (some [":1.2"]) ∧
    Always (serverStep setConnector id)
      (fun context => HostedForWatched setConnector context ∧
        (setConnector.watched context.connector = ∅ → ∀ deviceIf file,
          hosted context.upnp.hostService deviceIf file = none))
      (prvControlPointInitialize ∅ false 0) hostAndLeave :=
  ⟨by decide +kernel,
    hosted_files_watched setConnector id false 0 ∅ hostAndLeave
      (by decide +kernel)⟩

end DleynaRenderer.Server
