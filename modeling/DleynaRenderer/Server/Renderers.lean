import DleynaRenderer.Foundation.Publication
import DleynaRenderer.Upnp.Mirror
import Mathlib.Data.Multiset.MapFold

/-!
# The renderers that the clients know

A client reads the renderers with GetRenderers and is told which ones are found
and lost later.  It then knows them at each time when no message is under way,
and never takes for the renderers what have not been the renderers.
-/

namespace DleynaRenderer.Server

open DleynaRenderer.Device DleynaRenderer.Upnp EventSystem
open Publication (Source Had answered)

/-- The reply to GetRenderers, without its order. -/
def renderers (upnp : DlrUpnp) : Multiset String := dlrUpnpGetServerIds upnp

/-- `prv_found_media_server` and `prv_lost_media_server` notify every client. -/
def applySignal (known : Multiset String) : Signal → Multiset String
  | .foundServer path => path ::ₘ known
  | .lostServer path => known.erase path

def registry (convertUdnToPath : String → String) :
    Source DlrUpnp UpnpEvent (Multiset String) Signal where
  step := upnpStep convertUdnToPath
  view := renderers
  log := DlrUpnp.signals
  apply := applySignal

def constructedUdns (upnp : DlrUpnp) : Multiset String :=
  upnp.serverUdnMap.keys

theorem mem_constructedUdns_iff {upnp : DlrUpnp} {udn : String} :
    udn ∈ constructedUdns upnp ↔ isConstructed (entry upnp udn) = true := by
  rw [isConstructed_entry_iff, ← Option.isSome_iff_exists]
  exact AList.mem_keys.symm.trans AList.lookup_isSome.symm

theorem renderers_eq_map {convertUdnToPath : String → String} {upnp : DlrUpnp}
    (h : Located convertUdnToPath upnp) :
    renderers upnp =
      (constructedUdns upnp).map (serverPath convertUdnToPath) := by
  have hpaths : dlrUpnpGetServerIds upnp =
      upnp.serverUdnMap.keys.map (serverPath convertUdnToPath) := by
    simp only [dlrUpnpGetServerIds, HashTable.values, AList.keys, List.keys,
      List.map_map]
    apply List.map_congr_left
    rintro ⟨udn, device⟩ hmem
    have hlookup := HashTable.lookup_eq_some_iff.mpr hmem
    exact (h.mirrored udn _ (lookup_constructed_iff.mp hlookup)).path
  exact congrArg _ hpaths

theorem settled_entryChange {fresh : String → (Device.Service → Bool) → Entry}
    {device : DlrDevice} {event : UpnpEvent} {after : Entry}
    (h : entryChange fresh (some ⟨device, none⟩) event = some after) :
    after.chain = none := by
  cases event with
  | unavailable udn ipAddress =>
      simp only [entryChange, loseContext] at h
      split at h
      · exact Option.some.inj h ▸ rfl
      · obtain ⟨context, -, rfl⟩ := Option.map_eq_some_iff.mp h
        rfl
  | player udn info event =>
      obtain rfl := Option.some.inj h
      simp only
      split <;> rfl
  | _ => exact Option.some.inj h ▸ rfl

inductive Signalled (path : String) (before after : Option Entry) : Prop where
  | nothing (hkept : isConstructed after = isConstructed before)
      (hsignals : transition before after = [])
  | lost (hbefore : isConstructed before = true)
      (hafter : isConstructed after = false)
      (hsignals : transition before after = [.lostServer path])
  | found (hbefore : isConstructed before = false)
      (hafter : isConstructed after = true)
      (hsignals : transition before after = [.foundServer path])

theorem signalled_entryChange (convertUdnToPath : String → String)
    {udn : String} {event : UpnpEvent} {before : Option Entry}
    (htarget : target event = some udn)
    (h : ∀ entry, before = some entry →
      Mirrored (serverPath convertUdnToPath udn) entry) :
    Signalled (serverPath convertUdnToPath udn) before
      (entryChange (freshEntry convertUdnToPath udn) before event) := by
  cases before with
  | none =>
      cases event with
      | available other ipAddress services => exact .nothing rfl rfl
      | _ => exact .nothing rfl rfl
  | some entry =>
      obtain ⟨device, chain⟩ := entry
      cases hafter : entryChange (freshEntry convertUdnToPath udn)
          (some ⟨device, chain⟩) event with
      | none =>
          cases chain with
          | none =>
              have hpath := (h _ rfl).path
              exact .lost rfl rfl (by simpa [transition] using hpath)
          | some chain => exact .nothing rfl rfl
      | some after =>
          have hpath :=
            (mirrored_entryChange convertUdnToPath htarget h hafter).path
          obtain ⟨kept, later⟩ := after
          cases chain with
          | none =>
              obtain rfl : later = none := settled_entryChange hafter
              exact .nothing rfl rfl
          | some chain =>
              cases later with
              | none => exact .found rfl rfl (by simpa [transition] using hpath)
              | some later => exact .nothing rfl rfl

theorem nodup_constructedUdns (upnp : DlrUpnp) : (constructedUdns upnp).Nodup :=
  upnp.serverUdnMap.keys_nodup

theorem mem_constructedUdns_next {upnp next : DlrUpnp} {udn : String}
    {result : Option Entry} (hchanges : Changes upnp udn result next)
    (other : String) :
    other ∈ constructedUdns next ↔
      if other = udn then isConstructed result = true
      else other ∈ constructedUdns upnp := by
  rw [mem_constructedUdns_iff, hchanges.entries]
  split_ifs
  · exact Iff.rfl
  · exact mem_constructedUdns_iff.symm

/-- The clients are told what becomes of the renderers, and nothing else. -/
theorem renderers_changes {convertUdnToPath : String → String}
    {upnp next : DlrUpnp} {udn : String} {result : Option Entry}
    (h : Located convertUdnToPath upnp) (hnext : Located convertUdnToPath next)
    (hchanges : Changes upnp udn result next)
    (hsignalled : Signalled (serverPath convertUdnToPath udn) (entry upnp udn)
      result) :
    (transition (entry upnp udn) result).length ≤ 1 ∧
      (transition (entry upnp udn) result).foldl applySignal (renderers upnp) =
        renderers next := by
  have hmem := mem_constructedUdns_next hchanges
  have hbefore : udn ∈ constructedUdns upnp ↔ _ := mem_constructedUdns_iff
  have hudns (expected : Multiset String) (hnodup : expected.Nodup)
      (hall : ∀ other, other ∈ expected ↔
        if other = udn then isConstructed result = true
        else other ∈ constructedUdns upnp) :
      constructedUdns next = expected :=
    (Multiset.Nodup.ext (nodup_constructedUdns next) hnodup).mpr fun other =>
      (hmem other).trans (hall other).symm
  rw [renderers_eq_map h, renderers_eq_map hnext]
  cases hsignalled with
  | nothing hkept hsignals =>
      have hsame := hudns _ (nodup_constructedUdns upnp) fun other => by
        split_ifs with heq
        · rw [heq, hbefore, hkept]
        · exact Iff.rfl
      simp [hsignals, hsame]
  | lost hconstructed hafter hsignals =>
      have hsame := hudns ((constructedUdns upnp).erase udn)
        ((nodup_constructedUdns upnp).erase udn) fun other => by
          rw [(nodup_constructedUdns upnp).mem_erase_iff]
          split_ifs with heq
          · simp [heq, hafter]
          · simp [heq]
      rw [hsignals, hsame, Multiset.map_erase_of_mem _ _
        (hbefore.mpr hconstructed)]
      exact ⟨Nat.le_refl 1, rfl⟩
  | found hconstructed hafter hsignals =>
      have hnew : udn ∉ constructedUdns upnp := by
        rw [hbefore, hconstructed]
        decide
      have hsame := hudns (udn ::ₘ constructedUdns upnp)
        (Multiset.nodup_cons.mpr ⟨hnew, nodup_constructedUdns upnp⟩)
        fun other => by
          rw [Multiset.mem_cons]
          split_ifs with heq
          · simp [heq, hafter]
          · simp [heq]
      rw [hsignals, hsame, Multiset.map_cons]
      exact ⟨Nat.le_refl 1, rfl⟩

theorem announces_registry (convertUdnToPath : String → String) :
    (registry convertUdnToPath).Announces (Located convertUdnToPath) := by
  intro upnp event next h hstep
  have hnext := located_upnpStep h hstep
  refine ⟨hnext, ?_⟩
  rcases upnpStep_cases h.apart hstep with
    ⟨udn, htarget, hchanges⟩ | ⟨htarget, hsame⟩
  · have hsignalled := signalled_entryChange convertUdnToPath htarget
      (h.mirrored udn)
    exact ⟨_, hchanges.signals,
      renderers_changes h hnext hchanges hsignalled⟩
  · refine ⟨[], ?_, Nat.zero_le 1, ?_⟩
    · rw [← hsame]
      exact (List.append_nil _).symm
    · rw [← hsame]
      rfl

/--
Each client that has been answered knows the renderers once its messages have
been delivered, and what it holds before has once been the renderers.
-/
theorem clients_know_renderers {ι : Type*} [DecidableEq ι]
    (convertUdnToPath : String → String) (pushHostPort : Nat)
    {events : List (Publication.Event UpnpEvent ι)}
    {state : Publication.State DlrUpnp (Multiset String) Signal ι}
    (hatOnce : ∀ event ∈ events, ∀ client, event ≠ .compute client)
    (hrun : exec (Publication.step (registry convertUdnToPath))
      (Publication.start (dlrUpnpNew pushHostPort)) events = some state)
    (client : ι) :
    (∃ next, exec (Publication.step (registry convertUdnToPath)) state
        (List.replicate (state.clients client).inbox.length (.deliver client)) =
          some next ∧
      next.source = state.source ∧
      (next.clients client).copy =
        if answered client events then some (renderers next.source) else none) ∧
    ∀ known, (state.clients client).copy = some known →
      Had (registry convertUdnToPath)
        (Publication.start (dlrUpnpNew pushHostPort)) events known := by
  have hinStep := Publication.inStep_exec (announces_registry convertUdnToPath)
    (located_dlrUpnpNew convertUdnToPath pushHostPort) hrun
    (Publication.undisturbed_of_answers hatOnce)
  refine ⟨?_, fun known hknown =>
    hinStep.faithful client [] List.nil_prefix known hknown⟩
  obtain ⟨next, hdelivered, hcopy, -, hsource⟩ :=
    Publication.delivered (registry convertUdnToPath) state client
  refine ⟨next, hdelivered, hsource, ?_⟩
  rw [hcopy, hinStep.settled client, hsource]
  rfl

def askAndListen : List (Publication.Event UpnpEvent String) :=
  let answer : TaskAnswer := ⟨none, fun _ => 1⟩
  [.answer ":1.1", .work (.available "uuid:1" "10.0.0.1" fun _ => true),
   .work (.runTask "uuid:1" answer), .work (.runTask "uuid:1" answer),
   .work (.runTask "uuid:1" answer), .work (.chainEnd "uuid:1"),
   .answer ":1.2", .deliver ":1.1", .deliver ":1.2", .deliver ":1.2",
   .work (.unavailable "uuid:1" "10.0.0.1")]

theorem clients_know_renderers_two :
    ∃ state, exec (Publication.step (registry id))
        (Publication.start (dlrUpnpNew 0)) askAndListen = some state ∧
      (state.clients ":1.1").inbox.length = 2 ∧
      (state.clients ":1.1").copy = some 0 ∧
      (state.clients ":1.2").copy =
        some {"/com/intel/dLeynaRenderer/server/uuid:1"} ∧
      ∃ next, exec (Publication.step (registry id)) state
          (List.replicate 2 (.deliver ":1.1")) = some next ∧
        (next.clients ":1.1").copy = some (renderers next.source) := by
  have hrun : ((exec (Publication.step (registry id))
      (Publication.start (dlrUpnpNew 0)) askAndListen).map fun state =>
        ((state.clients ":1.1").inbox.length, (state.clients ":1.1").copy,
          (state.clients ":1.2").copy)) =
      some (2, some 0, some {"/com/intel/dLeynaRenderer/server/uuid:1"}) := by
    decide +kernel
  obtain ⟨state, hexec, hstate⟩ := Option.map_eq_some_iff.mp hrun
  simp only [Prod.mk.injEq] at hstate
  have hatOnce : ∀ event ∈ askAndListen, ∀ client, event ≠ .compute client := by
    simp [askAndListen]
  obtain ⟨⟨next, hdelivered, -, hcopy⟩, -⟩ :=
    clients_know_renderers id 0 hatOnce hexec ":1.1"
  rw [hstate.1] at hdelivered
  exact ⟨state, hexec, hstate.1, hstate.2.1, hstate.2.2, next, hdelivered, hcopy⟩

end DleynaRenderer.Server
