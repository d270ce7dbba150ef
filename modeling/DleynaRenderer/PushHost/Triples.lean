import DleynaRenderer.PushHost.Clients
import Mathlib.Data.Set.Insert

/-!
# The registry as a set of triples

Abstractly the push host service is a set of triples: an interface, a file and
a client for whom the file is hosted there.  The two levels of tables and the
client lists under them refine this set.  What the refinement rests on is that
no client is listed twice.
-/

namespace DleynaRenderer.PushHost

open EventSystem

structure Hosting where
  deviceIf : String
  file : String
  client : String
  deriving DecidableEq, Repr

def hostings (hs : HostService) : Set Hosting :=
  {t | ∃ old, hosted hs t.deviceIf t.file = some old ∧ t.client ∈ old.clients}

theorem mem_hostings {hs : HostService} {deviceIf file client : String} :
    ⟨deviceIf, file, client⟩ ∈ hostings hs ↔
      ∃ old, hosted hs deviceIf file = some old ∧ client ∈ old.clients :=
  Iff.rfl

def HostService.ListedOnce (hs : HostService) : Prop :=
  ∀ deviceIf file old, hosted hs deviceIf file = some old → old.clients.Nodup

theorem addHosted_nodup {client path : String} {soupPort : Nat}
    {old : Option Hosted} (h : ∀ file, old = some file → file.clients.Nodup) :
    (addHosted client path soupPort old).clients.Nodup := by
  cases old with
  | none => simp [addHosted]
  | some file =>
      have hfile := h file rfl
      unfold addHosted
      by_cases hmem : client ∈ file.clients
      · simpa [hmem] using hfile
      · simp only [hmem, if_false]
        refine List.nodup_append.mpr ⟨hfile, by simp, ?_⟩
        intro listed hlisted added hadded heq
        obtain rfl := List.mem_singleton.mp hadded
        exact hmem (heq ▸ hlisted)

theorem dropHosted_eq_some_iff {client : String} {old file : Hosted} :
    dropHosted client old = some file ↔
      old.clients.erase client ≠ [] ∧
        file = { old with clients := old.clients.erase client } := by
  simp [dropHosted, eq_comm]

theorem dlrHostServiceAdd_listedOnce {hs : HostService} (h : hs.ListedOnce)
    (deviceIf client file : String) (env : HostEnv) :
    (dlrHostServiceAdd hs deviceIf client file env).2.ListedOnce := by
  intro otherIf other old hother
  rcases hosted_dlrHostServiceAdd hs deviceIf client file env with
    ⟨path, soupPort, -, -, hfiles⟩ | ⟨-, hfiles⟩
  · rw [hfiles otherIf other] at hother
    split at hother
    · obtain rfl := Option.some.inj hother
      exact addHosted_nodup (h deviceIf file)
    · exact h otherIf other old hother
  · rw [hfiles otherIf other] at hother
    exact h otherIf other old hother

theorem dlrHostServiceRemove_listedOnce {hs : HostService} (h : hs.ListedOnce)
    (deviceIf client file : String) :
    (dlrHostServiceRemove hs deviceIf client file).2.ListedOnce := by
  intro otherIf other new hother
  rcases hosted_dlrHostServiceRemove hs deviceIf client file with
    ⟨-, old, hold, -, hfiles⟩ | ⟨hsame, -⟩
  · rw [hfiles otherIf other] at hother
    split at hother
    · obtain ⟨-, rfl⟩ := dropHosted_eq_some_iff.mp hother
      exact (h deviceIf file old hold).erase client
    · exact h otherIf other new hother
  · rw [hsame] at hother
    exact h otherIf other new hother

theorem dlrHostServiceLostClient_listedOnce {hs : HostService}
    (h : hs.ListedOnce) (client : String) :
    (dlrHostServiceLostClient hs client).ListedOnce := by
  intro deviceIf file new hnew
  rw [hosted_dlrHostServiceLostClient, Option.bind_eq_some_iff] at hnew
  obtain ⟨old, hold, hnew⟩ := hnew
  split at hnew
  · obtain ⟨-, rfl⟩ := dropHosted_eq_some_iff.mp hnew
    exact (h deviceIf file old hold).erase client
  · exact Option.some.inj hnew ▸ h deviceIf file old hold

theorem hostStep_listedOnce {hs next : HostService} {event : HostEvent}
    (h : hs.ListedOnce) (hstep : hostStep hs event = some next) :
    next.ListedOnce := by
  cases event with
  | add deviceIf client file env =>
      obtain rfl := Option.some.inj hstep
      exact dlrHostServiceAdd_listedOnce h deviceIf client file env
  | remove deviceIf client file =>
      obtain rfl := Option.some.inj hstep
      exact dlrHostServiceRemove_listedOnce h deviceIf client file
  | lostClient client =>
      obtain rfl := Option.some.inj hstep
      exact dlrHostServiceLostClient_listedOnce h client

theorem run_listedOnce {port : Nat} {events : List HostEvent}
    {hs : HostService}
    (hrun : exec hostStep (dlrHostServiceNew port) events = some hs) :
    hs.ListedOnce := by
  refine exec_invariant HostService.ListedOnce
    (fun _ _ _ => hostStep_listedOnce) ?_ hrun
  intro deviceIf file old hold
  simp [hosted, dlrHostServiceNew] at hold

theorem hostings_dlrHostServiceAdd_of_ok {hs : HostService}
    {deviceIf client file url : String} {env : HostEnv}
    (hurl : (dlrHostServiceAdd hs deviceIf client file env).1 = .ok url) :
    hostings (dlrHostServiceAdd hs deviceIf client file env).2 =
      insert ⟨deviceIf, file, client⟩ (hostings hs) := by
  rcases hosted_dlrHostServiceAdd hs deviceIf client file env with
    ⟨path, soupPort, -, -, hfiles⟩ | ⟨⟨error, herror⟩, -⟩
  · ext ⟨otherIf, other, listed⟩
    rw [Set.mem_insert_iff, mem_hostings, mem_hostings, hfiles otherIf other]
    by_cases hsame : otherIf = deviceIf ∧ other = file
    · obtain ⟨rfl, rfl⟩ := hsame
      have hlisted :
          listed ∈ (addHosted client path soupPort
            (hosted hs otherIf other)).clients ↔
          listed = client ∨ ∃ old, hosted hs otherIf other = some old ∧
            listed ∈ old.clients := by
        cases hosted hs otherIf other with
        | none => simp [addHosted]
        | some old =>
            unfold addHosted
            by_cases hmem : client ∈ old.clients
            · simp only [hmem, if_true]
              constructor
              · exact fun hlisted => .inr ⟨old, rfl, hlisted⟩
              · rintro (rfl | ⟨_, ⟨⟩, hlisted⟩)
                · exact hmem
                · exact hlisted
            · simp [hmem, or_comm]
      simpa using hlisted
    · have hne : (⟨otherIf, other, listed⟩ : Hosting) ≠
          ⟨deviceIf, file, client⟩ := by
        intro heq
        cases heq
        exact hsame ⟨rfl, rfl⟩
      simp [hsame, hne]
  · rw [herror] at hurl
    contradiction

theorem hostings_dlrHostServiceAdd_of_error {hs : HostService}
    {deviceIf client file : String} {env : HostEnv} {error : GError}
    (herror : (dlrHostServiceAdd hs deviceIf client file env).1 =
      .error error) :
    hostings (dlrHostServiceAdd hs deviceIf client file env).2 =
      hostings hs := by
  rcases hosted_dlrHostServiceAdd hs deviceIf client file env with
    ⟨path, soupPort, -, hurl, -⟩ | ⟨-, hfiles⟩
  · rw [herror] at hurl
    contradiction
  · ext ⟨otherIf, other, listed⟩
    rw [mem_hostings, mem_hostings, hfiles otherIf other]

theorem mem_dropHosted (client listed : String) {old : Hosted}
    (hnodup : old.clients.Nodup) :
    (∃ file, dropHosted client old = some file ∧ listed ∈ file.clients) ↔
      listed ∈ old.clients ∧ listed ≠ client := by
  have herase : listed ∈ old.clients.erase client ↔
      listed ∈ old.clients ∧ listed ≠ client := by
    rw [hnodup.mem_erase_iff, and_comm]
  constructor
  · rintro ⟨file, hdrop, hlisted⟩
    obtain ⟨-, rfl⟩ := dropHosted_eq_some_iff.mp hdrop
    exact herase.mp hlisted
  · intro hlisted
    have hmem := herase.mpr hlisted
    exact ⟨_, dropHosted_eq_some_iff.mpr ⟨List.ne_nil_of_mem hmem, rfl⟩, hmem⟩

theorem hostings_dlrHostServiceRemove {hs : HostService} (h : hs.ListedOnce)
    (deviceIf client file : String) :
    let next := dlrHostServiceRemove hs deviceIf client file
    (next.1 = true ↔ ⟨deviceIf, file, client⟩ ∈ hostings hs) ∧
      hostings next.2 = hostings hs \ {⟨deviceIf, file, client⟩} := by
  intro next
  rcases hosted_dlrHostServiceRemove hs deviceIf client file with
    ⟨htrue, old, hold, hmem, hfiles⟩ | ⟨hsame, habsent⟩
  · refine ⟨iff_of_true htrue ⟨old, hold, hmem⟩, ?_⟩
    ext ⟨otherIf, other, listed⟩
    rw [Set.mem_sdiff, Set.mem_singleton_iff, mem_hostings, mem_hostings,
      hfiles otherIf other]
    by_cases hfile : otherIf = deviceIf ∧ other = file
    · obtain ⟨rfl, rfl⟩ := hfile
      have hdrop := mem_dropHosted client listed (h otherIf other old hold)
      simpa [hold] using hdrop
    · have hne : (⟨otherIf, other, listed⟩ : Hosting) ≠
          ⟨deviceIf, file, client⟩ := by
        intro heq
        cases heq
        exact hfile ⟨rfl, rfl⟩
      simp [hfile, hne]
  · have hnot : (⟨deviceIf, file, client⟩ : Hosting) ∉ hostings hs := by
      rintro ⟨old, hold, hmem⟩
      exact habsent old hold hmem
    have hnext : next = (false, hs) := hsame
    rw [hnext]
    exact ⟨iff_of_false (by simp) hnot, (Set.sdiff_singleton_eq_self hnot).symm⟩

theorem hostings_dlrHostServiceLostClient {hs : HostService}
    (h : hs.ListedOnce) (client : String) :
    hostings (dlrHostServiceLostClient hs client) =
      {t ∈ hostings hs | t.client ≠ client} := by
  ext ⟨deviceIf, file, listed⟩
  rw [Set.mem_ofPred_eq, mem_hostings, mem_hostings,
    hosted_dlrHostServiceLostClient]
  cases hold : hosted hs deviceIf file with
  | none => simp
  | some old =>
      simp only [Option.bind_some, Option.some.injEq, exists_eq_left']
      by_cases hmem : client ∈ old.clients
      · simp only [hmem, if_true]
        exact mem_dropHosted client listed (h deviceIf file old hold)
      · simp only [hmem, if_false, Option.some.injEq, exists_eq_left']
        constructor
        · intro hlisted
          exact ⟨hlisted, fun heq => hmem (heq ▸ hlisted)⟩
        · exact And.left

/-! ## The URL of a hosted file -/

def HostedAt (deviceIf file : String) (soupPort : Nat) (path : String)
    (hs : HostService) : Prop :=
  ∃ clients, hosted hs deviceIf file = some ⟨soupPort, path, clients⟩

theorem dropHosted_port_path {client path : String} {soupPort : Nat}
    {clients : List String}
    (hkept : dropHosted client ⟨soupPort, path, clients⟩ ≠ none) :
    ∃ listed, dropHosted client ⟨soupPort, path, clients⟩ =
      some ⟨soupPort, path, listed⟩ := by
  obtain ⟨kept, hkept⟩ := Option.ne_none_iff_exists'.mp hkept
  obtain ⟨-, rfl⟩ := dropHosted_eq_some_iff.mp hkept
  exact ⟨_, hkept⟩

section HostedAt

variable {deviceIf file path : String} {soupPort : Nat} {hs : HostService}

theorem dlrHostServiceAdd_hostedAt (h : HostedAt deviceIf file soupPort path hs)
    (otherIf client other : String) (env : HostEnv) :
    HostedAt deviceIf file soupPort path
      (dlrHostServiceAdd hs otherIf client other env).2 := by
  obtain ⟨clients, hold⟩ := h
  rcases hosted_dlrHostServiceAdd hs otherIf client other env with
    ⟨path', soupPort', -, -, hfiles⟩ | ⟨-, hfiles⟩
  · unfold HostedAt
    rw [hfiles deviceIf file]
    split
    · rename_i hsame
      obtain ⟨rfl, rfl⟩ := hsame
      rw [hold]
      exact ⟨_, rfl⟩
    · exact ⟨clients, hold⟩
  · exact ⟨clients, by rw [hfiles deviceIf file, hold]⟩

theorem dlrHostServiceRemove_hostedAt
    (h : HostedAt deviceIf file soupPort path hs) (otherIf client other : String)
    (hstill : hosted (dlrHostServiceRemove hs otherIf client other).2 deviceIf
      file ≠ none) :
    HostedAt deviceIf file soupPort path
      (dlrHostServiceRemove hs otherIf client other).2 := by
  obtain ⟨clients, hold⟩ := h
  rcases hosted_dlrHostServiceRemove hs otherIf client other with
    ⟨-, old, hother, -, hfiles⟩ | ⟨hsame, -⟩
  · unfold HostedAt
    rw [hfiles deviceIf file] at hstill ⊢
    split at hstill
    · rename_i hsame
      obtain ⟨rfl, rfl⟩ := hsame
      obtain rfl := Option.some.inj (hother.symm.trans hold)
      rw [if_pos ⟨rfl, rfl⟩]
      exact dropHosted_port_path hstill
    · rename_i hother
      rw [if_neg hother]
      exact ⟨clients, hold⟩
  · rw [hsame]
    exact ⟨clients, hold⟩

theorem dlrHostServiceLostClient_hostedAt
    (h : HostedAt deviceIf file soupPort path hs) (client : String)
    (hstill : hosted (dlrHostServiceLostClient hs client) deviceIf file ≠ none) :
    HostedAt deviceIf file soupPort path (dlrHostServiceLostClient hs client) := by
  obtain ⟨clients, hold⟩ := h
  unfold HostedAt
  rw [hosted_dlrHostServiceLostClient, hold, Option.bind_some] at hstill ⊢
  split at hstill
  · rename_i hmem
    rw [if_pos hmem]
    exact dropHosted_port_path hstill
  · rename_i hmem
    rw [if_neg hmem]
    exact ⟨clients, rfl⟩

theorem hostStep_hostedAt {next : HostService} {event : HostEvent}
    (h : HostedAt deviceIf file soupPort path hs)
    (hstep : hostStep hs event = some next)
    (hstill : hosted next deviceIf file ≠ none) :
    HostedAt deviceIf file soupPort path next := by
  cases event with
  | add otherIf client other env =>
      obtain rfl := Option.some.inj hstep
      exact dlrHostServiceAdd_hostedAt h otherIf client other env
  | remove otherIf client other =>
      obtain rfl := Option.some.inj hstep
      exact dlrHostServiceRemove_hostedAt h otherIf client other hstill
  | lostClient client =>
      obtain rfl := Option.some.inj hstep
      exact dlrHostServiceLostClient_hostedAt h client hstill

end HostedAt

theorem run_hostedAt {deviceIf file path : String} {soupPort : Nat}
    {hs last : HostService} {events : List HostEvent}
    (h : HostedAt deviceIf file soupPort path hs)
    (hrun : exec hostStep hs events = some last)
    (hstill : Always hostStep
      (fun s => ∃ client, ⟨deviceIf, file, client⟩ ∈ hostings s) hs events) :
    HostedAt deviceIf file soupPort path last := by
  induction events generalizing hs with
  | nil =>
      obtain rfl : hs = last := by simpa using hrun
      exact h
  | cons event events ih =>
      obtain ⟨next, hstep, hrest⟩ := exec_cons_eq_some.mp hrun
      obtain ⟨-, hstill⟩ := (always_cons_of_step hstep).mp hstill
      obtain ⟨client, old, hold, -⟩ := always_head hstill
      have hnext := hostStep_hostedAt h hstep (by simp [hold])
      exact ih hnext hrest hstill

theorem dlrHostServiceAdd_of_hostedAt {deviceIf file path : String}
    {soupPort : Nat} {hs : HostService}
    (h : HostedAt deviceIf file soupPort path hs) (client : String)
    (env : HostEnv) :
    (dlrHostServiceAdd hs deviceIf client file env).1 =
      .ok (Hosted.url deviceIf ⟨soupPort, path, []⟩) := by
  obtain ⟨clients, hold⟩ := h
  unfold hosted at hold
  obtain ⟨server, hserver, hfile⟩ := Option.bind_eq_some_iff.mp hold
  obtain ⟨hf, hlookup, heq⟩ := Option.map_eq_some_iff.mp hfile
  cases heq
  have hpath : (addClient client hf).path = hf.path := by
    unfold addClient
    split <;> rfl
  simp [dlrHostServiceAdd, hserver, prvAddNewFile, hlookup, hostUrl,
    Hosted.url, hpath]

theorem hostedAt_of_add_ok {hs : HostService} {deviceIf client file url : String}
    {env : HostEnv}
    (hurl : (dlrHostServiceAdd hs deviceIf client file env).1 = .ok url) :
    ∃ soupPort path, url = Hosted.url deviceIf ⟨soupPort, path, []⟩ ∧
      HostedAt deviceIf file soupPort path
        (dlrHostServiceAdd hs deviceIf client file env).2 := by
  rcases hosted_dlrHostServiceAdd hs deviceIf client file env with
    ⟨path, soupPort, -, hok, hfiles⟩ | ⟨⟨error, herror⟩, -⟩
  · obtain rfl := Except.ok.inj (hurl.symm.trans hok)
    refine ⟨_, _, rfl,
      (addHosted client path soupPort (hosted hs deviceIf file)).clients, ?_⟩
    rw [hfiles, if_pos ⟨rfl, rfl⟩]
  · rw [herror] at hurl
    contradiction

/--
The tables refine the set of triples in every reachable state, and a file that
stays hosted on an interface keeps its URL.
-/
theorem host_service_refines_hostings {port : Nat} {events : List HostEvent}
    {hs : HostService}
    (hrun : exec hostStep (dlrHostServiceNew port) events = some hs) :
    (∀ deviceIf client file env,
      let next := dlrHostServiceAdd hs deviceIf client file env
      (∀ url, next.1 = .ok url →
        hostings next.2 =
          insert ⟨deviceIf, file, client⟩ (hostings hs)) ∧
      (∀ error, next.1 = .error error → hostings next.2 = hostings hs)) ∧
    (∀ deviceIf client file,
      let next := dlrHostServiceRemove hs deviceIf client file
      (next.1 = true ↔ ⟨deviceIf, file, client⟩ ∈ hostings hs) ∧
        hostings next.2 = hostings hs \ {⟨deviceIf, file, client⟩}) ∧
    (∀ client, hostings (dlrHostServiceLostClient hs client) =
      {t ∈ hostings hs | t.client ≠ client}) ∧
    (∀ deviceIf client file env url,
      (dlrHostServiceAdd hs deviceIf client file env).1 = .ok url →
      ∀ between last,
        exec hostStep (dlrHostServiceAdd hs deviceIf client file env).2
          between = some last →
        Always hostStep
          (fun s => ∃ client', ⟨deviceIf, file, client'⟩ ∈ hostings s)
          (dlrHostServiceAdd hs deviceIf client file env).2 between →
        ∀ client' env',
          (dlrHostServiceAdd last deviceIf client' file env').1 = .ok url) := by
  have hlisted := run_listedOnce hrun
  refine ⟨fun deviceIf client file env => ⟨?_, ?_⟩,
    hostings_dlrHostServiceRemove hlisted,
    hostings_dlrHostServiceLostClient hlisted, ?_⟩
  · exact fun url => hostings_dlrHostServiceAdd_of_ok
  · exact fun error => hostings_dlrHostServiceAdd_of_error
  · intro deviceIf client file env url hurl between last hbetween hstill
      client' env'
    obtain ⟨soupPort, path, rfl, hadded⟩ := hostedAt_of_add_ok hurl
    exact dlrHostServiceAdd_of_hostedAt (run_hostedAt hadded hbetween hstill)
      client' env'

/-- A service on which two clients host a file, seen as triples. -/
theorem two_clients_refine_hostings :
    let env : HostEnv :=
      ⟨true, 8080, true, true, some "video/mp4", none, none, ""⟩
    ∃ hs, exec hostStep (dlrHostServiceNew 0)
        [.add "192.168.1.2" ":1.7" "/a.mp4" env,
          .add "192.168.1.2" ":1.8" "/a.mp4" env] = some hs ∧
      (dlrHostServiceRemove hs "192.168.1.2" ":1.7" "/a.mp4").1 = true ∧
      hostings (dlrHostServiceLostClient hs ":1.8") =
        {t ∈ hostings hs | t.client ≠ ":1.8"} := by
  intro env
  obtain ⟨hs, hrun⟩ : ∃ hs, exec hostStep (dlrHostServiceNew 0)
      [.add "192.168.1.2" ":1.7" "/a.mp4" env,
        .add "192.168.1.2" ":1.8" "/a.mp4" env] = some hs := ⟨_, rfl⟩
  refine ⟨hs, hrun, ?_, (host_service_refines_hostings hrun).2.2.1 ":1.8"⟩
  obtain rfl := Option.some.inj hrun
  decide

end DleynaRenderer.PushHost
