import DleynaRenderer.PushHost.Populated

/-!
# The life of a web server

A server starts without files, takes the requests for its interface and is
stopped when a removal leaves it without files.  The servers of the service live
independently, and what an event does to a server it does file by file.
-/

namespace DleynaRenderer.PushHost

open EventSystem

inductive ServerEvent where
  | add (client deviceIf file : String) (env : HostEnv)
  | remove (client file : String)
  | lostClient (client : String)
  deriving DecidableEq

def prvHostServerFresh (soupPort : Nat) : HostServer := ⟨∅, soupPort, 0⟩

def removeFromServer (server : HostServer) (client file : String) :
    Option HostServer :=
  match server.files.lookup file with
  | none => some server
  | some hf =>
      match prvRemoveClient client hf with
      | none => some server
      | some hf =>
          let server := pruneFile server file hf
          if HashTable.size server.files = 0 then none else some server

/-- A server that is stopped takes no further event. -/
def serverStep (server : HostServer) : ServerEvent → Option HostServer
  | .add client deviceIf file env =>
      some (prvAddNewFile server client deviceIf file env).2
  | .remove client file => removeFromServer server client file
  | .lostClient client => lostClientServer client server

def serverEvent (deviceIf : String) : HostEvent → Option ServerEvent
  | .add otherIf client file env =>
      if otherIf = deviceIf then some (.add client deviceIf file env) else none
  | .remove otherIf client file =>
      if otherIf = deviceIf then some (.remove client file) else none
  | .lostClient client => some (.lostClient client)

theorem lostClientFile_of_mem {client : String} {hf : HostFile}
    (h : client ∈ hf.clients) :
    lostClientFile client hf =
      if hf.clients.erase client = [] then none
      else some { hf with clients := hf.clients.erase client } := by
  simp only [lostClientFile, prvRemoveClient, h, if_true, gt_iff_lt,
    List.length_pos_iff, ne_eq, ite_not]

theorem lostClientFile_eq_none_iff {client : String} {hf : HostFile} :
    lostClientFile client hf = none ↔ hf.clients = [client] := by
  by_cases hmem : client ∈ hf.clients
  · have hne : hf.clients ≠ [] := List.ne_nil_of_mem hmem
    rw [lostClientFile_of_mem hmem, ite_eq_left_iff]
    simp only [reduceCtorEq, imp_false, not_not, List.erase_eq_nil_iff, hne,
      false_or]
  · have hne : hf.clients ≠ [client] := by
      intro heq
      simp [heq] at hmem
    simp [lostClientFile, prvRemoveClient, hmem, hne]

theorem lostClientFile_eq_some {client : String} {hf kept : HostFile}
    (h : lostClientFile client hf = some kept) :
    ∃ clients, kept = { hf with clients := clients } := by
  unfold lostClientFile at h
  cases hremove : prvRemoveClient client hf with
  | none =>
      simp only [hremove, Option.some.injEq] at h
      exact ⟨hf.clients, h.symm⟩
  | some removed =>
      obtain ⟨-, rfl⟩ := prvRemoveClient_eq_some_iff.mp hremove
      simp only [hremove, Option.ite_none_right_eq_some] at h
      exact ⟨_, (Option.some.inj h.2).symm⟩

theorem lookup_lostClientServer (client : String) (server : HostServer)
    (file : String) :
    (lostClientServer client server).bind (·.files.lookup file) =
      (server.files.lookup file).bind (lostClientFile client) := by
  have hpass := HashTable.lookup_filterMap (fun _ => lostClientFile client)
    server.files file
  unfold lostClientServer
  simp only
  split
  · rename_i hsize
    rw [← hpass, HashTable.size_eq_zero_iff.mp hsize file]
    rfl
  · exact hpass

theorem lookup_removeFromServer (server : HostServer)
    (client removed file : String) :
    (removeFromServer server client removed).bind (·.files.lookup file) =
      if file = removed then
        (server.files.lookup file).bind (lostClientFile client)
      else server.files.lookup file := by
  unfold removeFromServer
  cases hlookup : server.files.lookup removed with
  | none =>
      obtain rfl | hfile := eq_or_ne file removed
      · simp [hlookup]
      · simp [hfile]
  | some hf =>
      cases hremove : prvRemoveClient client hf with
      | none =>
          obtain rfl | hfile := eq_or_ne file removed
          · simp [hlookup, hremove, lostClientFile]
          · simp [hfile, hremove]
      | some left =>
          have hpruned : (pruneFile server removed left).files.lookup file =
              if file = removed then
                if left.clients.length > 0 then some left else none
              else server.files.lookup file := by
            unfold pruneFile
            by_cases hnil : left.clients.length = 0
            · simp [hnil, HashTable.lookup_erase_eq]
            · simp [hnil, HashTable.lookup_insert_eq, Nat.pos_of_ne_zero hnil]
          have hkept : (if HashTable.size
              (pruneFile server removed left).files = 0 then none
              else some (pruneFile server removed left)).bind
                (·.files.lookup file) =
              (pruneFile server removed left).files.lookup file := by
            split
            · rename_i hsize
              rw [HashTable.size_eq_zero_iff.mp hsize file]
              rfl
            · rfl
          simp only [hremove]
          rw [hkept, hpruned]
          obtain rfl | hfile := eq_or_ne file removed
          · simp [hlookup, hremove, lostClientFile]
          · simp [hfile]

theorem lookup_prvAddNewFile (server : HostServer)
    (client deviceIf added file : String) (env : HostEnv) :
    (prvAddNewFile server client deviceIf added env).2.files.lookup file =
      if file = added then
        match server.files.lookup file with
        | some hf => some (addClient client hf)
        | none =>
            (prvHostFileNew added server.counter env).toOption.map
              (addClient client)
      else server.files.lookup file := by
  unfold prvAddNewFile
  cases hlookup : server.files.lookup added with
  | some hf =>
      obtain rfl | hfile := eq_or_ne file added
      · simp [hlookup]
      · simp [hfile]
  | none =>
      cases hnew : prvHostFileNew added server.counter env with
      | error error =>
          obtain rfl | hfile := eq_or_ne file added
          · simp [hlookup, Except.toOption]
          · simp [hfile]
      | ok hf =>
          obtain ⟨-, -, hclients, -⟩ := prvHostFileNew_ok hnew
          obtain rfl | hfile := eq_or_ne file added
          · simp [hlookup, Except.toOption, addClient, hclients]
          · simp [hfile]

theorem addClient_eq (client : String) (hf : HostFile) :
    ∃ clients, addClient client hf = { hf with clients := clients } := by
  unfold addClient
  split
  · exact ⟨hf.clients, rfl⟩
  · exact ⟨_, rfl⟩

def dropsFile (hf : HostFile) (file : String) : ServerEvent → Prop
  | .add .. => False
  | .remove client removed => removed = file ∧ hf.clients = [client]
  | .lostClient client => hf.clients = [client]

instance (hf : HostFile) (file : String) (event : ServerEvent) :
    Decidable (dropsFile hf file event) :=
  match event with
  | .add .. => isFalse id
  | .remove _ _ => inferInstanceAs (Decidable (_ ∧ _))
  | .lostClient client => inferInstanceAs (Decidable (hf.clients = [client]))

def lookupFile (server : Option HostServer) (file : String) : Option HostFile :=
  server.bind (·.files.lookup file)

/-- A hosted file loses its entry with its last client, else only clients change. -/
theorem serverStep_of_hosted {server : HostServer} {file : String}
    {hf : HostFile} (hlookup : server.files.lookup file = some hf)
    (event : ServerEvent) :
    (dropsFile hf file event ∧
      lookupFile (serverStep server event) file = none) ∨
    (¬ dropsFile hf file event ∧ ∃ clients,
      lookupFile (serverStep server event) file =
        some { hf with clients := clients }) := by
  have hlost (client : String) :
      (hf.clients = [client] ∧ lostClientFile client hf = none) ∨
      (hf.clients ≠ [client] ∧ ∃ clients,
        lostClientFile client hf = some { hf with clients := clients }) := by
    cases hkept : lostClientFile client hf with
    | none => exact .inl ⟨lostClientFile_eq_none_iff.mp hkept, rfl⟩
    | some kept =>
        obtain ⟨clients, rfl⟩ := lostClientFile_eq_some hkept
        refine .inr ⟨fun heq => ?_, clients, rfl⟩
        rw [lostClientFile_eq_none_iff.mpr heq] at hkept
        contradiction
  unfold lookupFile
  cases event with
  | add client deviceIf added env =>
      refine .inr ⟨id, ?_⟩
      rw [serverStep, Option.bind_some, lookup_prvAddNewFile, hlookup]
      by_cases hfile : file = added
      · obtain ⟨clients, hclients⟩ := addClient_eq client hf
        exact ⟨clients, by simp [hfile, hclients]⟩
      · exact ⟨hf.clients, by simp [hfile]⟩
  | remove client removed =>
      rw [serverStep, lookup_removeFromServer, hlookup, Option.bind_some]
      by_cases hfile : removed = file
      · simpa [dropsFile, hfile] using hlost client
      · have hfile' : file ≠ removed := fun heq => hfile heq.symm
        exact .inr ⟨fun hdrops => hfile hdrops.1, hf.clients, by simp [hfile']⟩
  | lostClient client =>
      rw [serverStep, lookup_lostClientServer, hlookup, Option.bind_some]
      exact hlost client

theorem serverStep_of_not_hosted {server : HostServer} {file : String}
    (hlookup : server.files.lookup file = none) {event : ServerEvent}
    {hf : HostFile}
    (hnext : lookupFile (serverStep server event) file = some hf) :
    ∃ client deviceIf env new, event = .add client deviceIf file env ∧
      prvHostFileNew file server.counter env = .ok new ∧
      hf = addClient client new := by
  unfold lookupFile at hnext
  cases event with
  | add client deviceIf added env =>
      rw [serverStep, Option.bind_some, lookup_prvAddNewFile, hlookup] at hnext
      split at hnext
      · rename_i hfile
        subst hfile
        cases hnew : prvHostFileNew file server.counter env with
        | error error => simp [hnew, Except.toOption] at hnext
        | ok new =>
            simp only [hnew, Except.toOption, Option.map_some,
              Option.some.injEq] at hnext
            exact ⟨client, deviceIf, env, new, rfl, hnew, hnext.symm⟩
      · contradiction
  | remove client removed =>
      rw [serverStep, lookup_removeFromServer, hlookup] at hnext
      simp at hnext
  | lostClient client =>
      rw [serverStep, lookup_lostClientServer, hlookup] at hnext
      simp at hnext

theorem prvHostServerFindFile_some {server : HostServer} {url file : String}
    {hf : HostFile} (h : prvHostServerFindFile server url = some (file, hf)) :
    server.files.lookup file = some hf ∧ hf.path = url := by
  unfold prvHostServerFindFile at h
  obtain ⟨⟨file', hf'⟩, hfind, heq⟩ := Option.map_eq_some_iff.mp h
  cases heq
  exact ⟨HashTable.lookup_eq_some_iff.mpr (List.mem_of_find?_eq_some hfind),
    by simpa using List.find?_some hfind⟩

/-! ## The service -/

theorem lookup_pruneServer (hs : HostService) (deviceIf other : String)
    (server : HostServer) :
    (pruneServer hs deviceIf server).servers.lookup other =
      if other = deviceIf then
        if HashTable.size server.files = 0 then none else some server
      else hs.servers.lookup other := by
  unfold pruneServer
  by_cases hsize : HashTable.size server.files = 0
  · simp only [hsize, if_true]
    exact HashTable.lookup_erase_eq hs.servers deviceIf other
  · simp only [hsize, if_false]
    exact HashTable.lookup_insert_eq hs.servers deviceIf other server

theorem lookup_dlrHostServiceAdd_of_ne {otherIf deviceIf : String}
    (hif : deviceIf ≠ otherIf) (hs : HostService) (client file : String)
    (env : HostEnv) :
    (dlrHostServiceAdd hs otherIf client file env).2.servers.lookup deviceIf =
      hs.servers.lookup deviceIf := by
  unfold dlrHostServiceAdd
  cases hs.servers.lookup otherIf with
  | some other => simp [hif]
  | none =>
      cases prvHostServerNew otherIf env with
      | error error => rfl
      | ok other => simp [hif]

theorem lookup_dlrHostServiceRemove_of_ne {otherIf deviceIf : String}
    (hif : deviceIf ≠ otherIf) (hs : HostService) (client file : String) :
    (dlrHostServiceRemove hs otherIf client file).2.servers.lookup deviceIf =
      hs.servers.lookup deviceIf := by
  unfold dlrHostServiceRemove
  cases hs.servers.lookup otherIf with
  | none => rfl
  | some other =>
      cases hfile : other.files.lookup file with
      | none => simp [hfile]
      | some hf =>
          cases hremove : prvRemoveClient client hf with
          | none => simp [hfile, hremove]
          | some hf => simp [hfile, hremove, lookup_pruneServer, hif]

theorem hostStep_of_other {hs next : HostService} {event : HostEvent}
    {deviceIf : String} (hother : serverEvent deviceIf event = none)
    (hstep : hostStep hs event = some next) :
    next.servers.lookup deviceIf = hs.servers.lookup deviceIf := by
  cases event with
  | add otherIf client file env =>
      obtain rfl := Option.some.inj hstep
      have hif : deviceIf ≠ otherIf := by
        rintro rfl
        simp [serverEvent] at hother
      exact lookup_dlrHostServiceAdd_of_ne hif hs client file env
  | remove otherIf client file =>
      obtain rfl := Option.some.inj hstep
      have hif : deviceIf ≠ otherIf := by
        rintro rfl
        simp [serverEvent] at hother
      exact lookup_dlrHostServiceRemove_of_ne hif hs client file
  | lostClient client => contradiction

theorem hostStep_of_running {hs next : HostService} {event : HostEvent}
    {deviceIf : String} {server : HostServer}
    (hserver : hs.servers.lookup deviceIf = some server)
    (hstep : hostStep hs event = some next) :
    next.servers.lookup deviceIf =
      match serverEvent deviceIf event with
      | none => some server
      | some event => serverStep server event := by
  cases hown : serverEvent deviceIf event with
  | none => exact (hostStep_of_other hown hstep).trans hserver
  | some own =>
      cases event with
      | add otherIf client file env =>
          obtain rfl := Option.some.inj hstep
          obtain ⟨rfl, heq⟩ := Option.ite_none_right_eq_some.mp hown
          obtain rfl := Option.some.inj heq
          unfold dlrHostServiceAdd
          simp [hserver, serverStep]
      | remove otherIf client file =>
          obtain rfl := Option.some.inj hstep
          obtain ⟨rfl, heq⟩ := Option.ite_none_right_eq_some.mp hown
          obtain rfl := Option.some.inj heq
          unfold dlrHostServiceRemove
          simp only [hserver, serverStep, removeFromServer]
          cases server.files.lookup file with
          | none => exact hserver
          | some hf =>
              cases hremove : prvRemoveClient client hf with
              | none => simpa [hremove] using hserver
              | some hf => simp [hremove, lookup_pruneServer]
      | lostClient client =>
          obtain rfl := Option.some.inj hstep
          obtain rfl := Option.some.inj hown
          simp [dlrHostServiceLostClient, HashTable.lookup_filterMap, hserver,
            serverStep]

theorem hostStep_of_stopped {hs next : HostService} {event : HostEvent}
    {deviceIf : String} {server : HostServer}
    (hstopped : hs.servers.lookup deviceIf = none)
    (hstep : hostStep hs event = some next)
    (hserver : next.servers.lookup deviceIf = some server) :
    ∃ soupPort event', serverEvent deviceIf event = some event' ∧
      serverStep (prvHostServerFresh soupPort) event' = some server := by
  cases hown : serverEvent deviceIf event with
  | none =>
      rw [hostStep_of_other hown hstep, hstopped] at hserver
      contradiction
  | some own =>
      cases event with
      | add otherIf client file env =>
          obtain rfl := Option.some.inj hstep
          obtain ⟨rfl, heq⟩ := Option.ite_none_right_eq_some.mp hown
          obtain rfl := Option.some.inj heq
          unfold dlrHostServiceAdd prvHostServerNew at hserver
          simp only [hstopped] at hserver
          cases hresolves : env.addressResolves with
          | false => simp [hresolves, hstopped] at hserver
          | true =>
              simp only [hresolves, if_true, AList.lookup_insert] at hserver
              exact ⟨env.soupPort, _, rfl, hserver⟩
      | remove otherIf client file =>
          obtain rfl := Option.some.inj hstep
          obtain ⟨rfl, heq⟩ := Option.ite_none_right_eq_some.mp hown
          obtain rfl := Option.some.inj heq
          simp [dlrHostServiceRemove, hstopped] at hserver
      | lostClient client =>
          obtain rfl := Option.some.inj hstep
          simp [dlrHostServiceLostClient, HashTable.lookup_filterMap,
            hstopped] at hserver

/-- Every server of the service is at the end of a life of its own. -/
theorem run_server_life {port : Nat} {events : List HostEvent}
    {hs : HostService} {deviceIf : String} {server : HostServer}
    (hrun : exec hostStep (dlrHostServiceNew port) events = some hs)
    (hserver : hs.servers.lookup deviceIf = some server) :
    ∃ soupPort life, life <:+ events.filterMap (serverEvent deviceIf) ∧
      exec serverStep (prvHostServerFresh soupPort) life = some server := by
  induction events using List.reverseRecOn generalizing hs server with
  | nil =>
      obtain rfl := Option.some.inj hrun
      simp [dlrHostServiceNew] at hserver
  | append_singleton events event ih =>
      obtain ⟨last, hbefore, hstep⟩ := exec_concat_eq_some.mp hrun
      rw [List.filterMap_append]
      cases hold : last.servers.lookup deviceIf with
      | none =>
          obtain ⟨soupPort, event', hevent, hstart⟩ :=
            hostStep_of_stopped hold hstep hserver
          refine ⟨soupPort, [event'], ?_, ?_⟩
          · simp [hevent]
          · exact exec_cons_eq_some.mpr ⟨server, hstart, rfl⟩
      | some old =>
          obtain ⟨soupPort, life, hsuffix, hlife⟩ := ih hbefore hold
          have hnext := hostStep_of_running hold hstep
          rw [hserver] at hnext
          cases hevent : serverEvent deviceIf event with
          | none =>
              simp only [hevent, Option.some.injEq] at hnext
              subst hnext
              exact ⟨soupPort, life, by simpa [hevent] using hsuffix, hlife⟩
          | some event' =>
              simp only [hevent] at hnext
              refine ⟨soupPort, life ++ [event'], ?_, ?_⟩
              · obtain ⟨before, hbefore⟩ := hsuffix
                exact ⟨before, by simp [hevent, ← hbefore]⟩
              · exact exec_concat_eq_some.mpr ⟨old, hlife, hnext.symm⟩

end DleynaRenderer.PushHost
