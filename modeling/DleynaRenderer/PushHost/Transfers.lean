import DleynaRenderer.PushHost.Serving

/-!
# Transfers in flight

Two properties of the files being served.  The entry of a transfer should stay
in its table until the transfer has finished; nothing in the removal of a file
sees to that.  And the count of the references should be the number of
transfers; a HEAD request takes a reference that nobody gives back.
-/

namespace DleynaRenderer.PushHost

open EventSystem

structure Transfer.Held (hs : HostService) (transfer : Transfer) : Prop where
  live : transfer.freed = false
  mapped : ∃ hf, hostFileAt hs transfer.deviceIf transfer.file = some hf ∧
    hf.mappedFile ≠ none

def Serving.Held (s : Serving) : Prop :=
  ∀ transfer ∈ s.transfers, transfer.Held s.service

/--
No removal takes the last client of a file with a transfer in flight, and a
transfer that finds the count at one is the last of its file.
-/
def KeepsServed (s : Serving) : ServingEvent → Prop
  | .host event =>
      ∀ transfer ∈ s.transfers, ∀ hf,
        hostFileAt s.service transfer.deviceIf transfer.file = some hf →
          ¬ dropsHostFile hf transfer.deviceIf transfer.file event
  | .request .. => True
  | .finished transfer =>
      ∀ hf, hostFileAt s.service transfer.deviceIf transfer.file = some hf →
        hf.mappedCount = 1 → transfer ∉ s.transfers.erase transfer

instance (s : Serving) (event : ServingEvent) :
    Decidable (KeepsServed s event) :=
  match event with
  | .host _ =>
      inferInstanceAs (Decidable (∀ transfer ∈ s.transfers,
        ∀ hf ∈ hostFileAt s.service transfer.deviceIf transfer.file, ¬ _))
  | .request .. => isTrue trivial
  | .finished transfer =>
      inferInstanceAs (Decidable (
        ∀ hf ∈ hostFileAt s.service transfer.deviceIf transfer.file, _ → _))

theorem detach_of_present {hs : HostService} {transfer : Transfer}
    (h : hostFileAt hs transfer.deviceIf transfer.file ≠ none) :
    detach hs transfer = transfer := by
  unfold detach
  rw [if_neg (by simpa using h)]

theorem detach_of_absent {hs : HostService} {transfer : Transfer}
    (h : hostFileAt hs transfer.deviceIf transfer.file = none) :
    detach hs transfer = { transfer with freed := true } := by
  unfold detach
  rw [if_pos (by simp [h])]

theorem host_held_iff {s next : Serving} {event : HostEvent} (h : s.Held)
    (hstep : servingStep s (.host event) = some next) :
    next.Held ↔ KeepsServed s (.host event) := by
  obtain ⟨service, hservice, rfl⟩ := Option.map_eq_some_iff.mp hstep
  constructor
  · intro hnext transfer hmem hf hentry hdrops
    have hheld := hnext _ (List.mem_map_of_mem hmem)
    rcases hostStep_of_hosted hentry hservice with ⟨-, hnone⟩ | ⟨hkeeps, -⟩
    · have hlive := hheld.live
      rw [detach_of_absent hnone] at hlive
      contradiction
    · exact hkeeps hdrops
  · intro hkeeps transfer hmem
    obtain ⟨old, hold, rfl⟩ := List.mem_map.mp hmem
    obtain ⟨hlive, hf, hentry, hmapped⟩ := h old hold
    rcases hostStep_of_hosted hentry hservice with
      ⟨hdrops, -⟩ | ⟨-, clients, hnext⟩
    · exact absurd hdrops (hkeeps old hold hf hentry)
    · rw [detach_of_present (by simp [hnext])]
      exact ⟨hlive, _, hnext, hmapped⟩

theorem request_hostFileAt {s next : Serving} {deviceIf : String}
    {request : SoupRequest} {contents : Option Bytes}
    (hstep : servingStep s (.request deviceIf request contents) = some next) :
    ((∀ otherIf other, hostFileAt next.service otherIf other =
        hostFileAt s.service otherIf other) ∧
      next.transfers = s.transfers ∧
      (request.method = .other ∨ ∀ server file hf,
        s.service.servers.lookup deviceIf = some server →
          ¬ serves server request contents file hf)) ∨
    ∃ server file hf mapped,
      s.service.servers.lookup deviceIf = some server ∧
      serves server request contents file hf ∧ request.method ≠ .other ∧
      hostFileAt s.service deviceIf file = some hf ∧
      mapHostFile hf contents = some mapped ∧
      (∀ otherIf other, hostFileAt next.service otherIf other =
        if otherIf = deviceIf ∧ other = file then some mapped
        else hostFileAt s.service otherIf other) ∧
      next.transfers = s.transfers ++
        if request.method = .get then [⟨deviceIf, file, false⟩] else [] := by
  obtain ⟨server, hserver, rfl⟩ := Option.map_eq_some_iff.mp hstep
  rcases prvSoupServerCb_cases server request contents with
    ⟨-, hsame, hnone, hrefused⟩ |
    ⟨file, hf, mapped, hserves, hother, hmapped, -, hchanged, -, hconnected⟩
  · refine .inl ⟨fun otherIf other => ?_, by simp [hnone], ?_⟩
    · simp only [hsame]
      rw [hostFileAt_insert]
      split
      · rename_i hif
        subst hif
        simp [hostFileAt, hserver, lookupFile]
      · rfl
    · rcases hrefused with hmethod | hrefused
      · exact .inl hmethod
      · refine .inr fun server' file hf hserver' => ?_
        rw [hserver] at hserver'
        cases hserver'
        exact hrefused file hf
  · obtain ⟨hfile, -⟩ := prvHostServerFindFile_some hserves.1
    refine .inr ⟨server, file, hf, mapped, hserver, hserves, hother, ?_, hmapped,
      fun otherIf other => ?_, ?_⟩
    · simpa [hostFileAt, hserver, lookupFile] using hfile
    · simp only [hchanged]
      exact hostFileAt_insertFile hserver file otherIf other mapped
    · simp only [hconnected]
      split <;> rfl

theorem mapHostFile_mapped {hf mapped : HostFile} {contents : Option Bytes}
    (h : mapHostFile hf contents = some mapped) : mapped.mappedFile ≠ none := by
  unfold mapHostFile at h
  cases hfile : hf.mappedFile with
  | some _ =>
      simp only [hfile, Option.some.injEq] at h
      simp [← h]
  | none =>
      simp only [hfile, Option.map_eq_some_iff] at h
      obtain ⟨_, -, rfl⟩ := h
      simp

theorem request_held {s next : Serving} {deviceIf : String}
    {request : SoupRequest} {contents : Option Bytes} (h : s.Held)
    (hstep : servingStep s (.request deviceIf request contents) = some next) :
    next.Held := by
  intro transfer hmem
  rcases request_hostFileAt hstep with
    ⟨hsame, htransfers, -⟩ |
    ⟨-, file, hf, mapped, -, -, -, -, hmapped, hentries, htransfers⟩
  · rw [htransfers] at hmem
    obtain ⟨hlive, hf, hentry, hheld⟩ := h transfer hmem
    exact ⟨hlive, hf, by rw [hsame, hentry], hheld⟩
  · have hnew := mapHostFile_mapped hmapped
    rw [htransfers, List.mem_append] at hmem
    rcases hmem with hold | hadded
    · obtain ⟨hlive, hf', hentry, hheld⟩ := h transfer hold
      refine ⟨hlive, ?_⟩
      rw [hentries]
      split
      · exact ⟨mapped, rfl, hnew⟩
      · exact ⟨hf', hentry, hheld⟩
    · split at hadded
      · obtain rfl := List.mem_singleton.mp hadded
        exact ⟨rfl, mapped, by simp [hentries], hnew⟩
      · contradiction

theorem finished_held_iff {s next : Serving} {transfer : Transfer} (h : s.Held)
    (hstep : servingStep s (.finished transfer) = some next) :
    next.Held ↔ KeepsServed s (.finished transfer) := by
  simp only [servingStep, Option.ite_none_right_eq_some] at hstep
  obtain ⟨hmem, hstep⟩ := hstep
  obtain ⟨hlive, hf, hentry, hmapped⟩ := h transfer hmem
  simp only [hlive, Bool.false_eq_true, if_false, Option.some.injEq] at hstep
  subst hstep
  have hentries := hostFileAt_modifyHostFile hentry prvSoupMessageFinishedCb
  constructor
  · intro hnext hf' hentry' hone hagain
    rw [hentry] at hentry'
    cases hentry'
    obtain ⟨-, hf', hlast, hheld⟩ := hnext transfer hagain
    rw [hentries, if_pos ⟨rfl, rfl⟩] at hlast
    obtain rfl := Option.some.inj hlast
    simp [prvSoupMessageFinishedCb, hone] at hheld
  · intro hkeeps other hother
    obtain ⟨hlive', hf', hentry', hheld⟩ := h other (List.mem_of_mem_erase hother)
    refine ⟨hlive', ?_⟩
    simp only [hentries]
    split
    · rename_i hsame
      refine ⟨_, rfl, ?_⟩
      have hagain : transfer ∈ s.transfers.erase transfer := by
        have heq : other = transfer := by
          cases other
          cases transfer
          simp_all
        exact heq ▸ hother
      have hne : hf.mappedCount ≠ 1 := fun hone =>
        hkeeps hf hentry hone hagain
      unfold prvSoupMessageFinishedCb
      split
      · have hpos : hf.mappedCount - 1 ≠ 0 := by omega
        simpa [hpos] using hmapped
      · exact hmapped
    · exact ⟨hf', hentry', hheld⟩

theorem servingStep_held_iff {s next : Serving} {event : ServingEvent}
    (h : s.Held) (hstep : servingStep s event = some next) :
    next.Held ↔ KeepsServed s event := by
  cases event with
  | host event => exact host_held_iff h hstep
  | request deviceIf request contents =>
      exact iff_of_true (request_held h hstep) trivial
  | finished transfer => exact finished_held_iff h hstep

theorem transfers_held_iff_keepsServed {port : Nat}
    {events : List ServingEvent} {last : Serving}
    (hrun : exec servingStep (servingNew port) events = some last) :
    Always servingStep Serving.Held (servingNew port) events ↔
      Meets servingStep KeepsServed (servingNew port) events :=
  always_iff_meets (fun _ _ _ => servingStep_held_iff)
    (fun transfer hmem => by simp [servingNew] at hmem) hrun

/-- The only client removes the file while it is being downloaded. -/
theorem removal_frees_served_file :
    let env : HostEnv :=
      ⟨true, 8080, true, true, some "video/mp4", none, none, ""⟩
    ∃ last, exec servingStep (servingNew 0)
        [.host (.add "192.168.1.2" ":1.7" "/a.mp4" env),
          .request "192.168.1.2" ⟨.get, "/dleynarenderer/0.mp4", none⟩
            (some [1, 2]),
          .host (.remove "192.168.1.2" ":1.7" "/a.mp4")] = some last ∧
      ⟨"192.168.1.2", "/a.mp4", true⟩ ∈ last.transfers ∧ ¬ last.Held := by
  refine ⟨_, rfl, by decide, fun hheld => ?_⟩
  have hlive := (hheld ⟨"192.168.1.2", "/a.mp4", true⟩ (by decide)).live
  contradiction

/-- Overlapping downloads of a file that one of its two clients removes. -/
def downloadedTwice : List ServingEvent :=
  let env : HostEnv :=
    ⟨true, 8080, true, true, some "video/mp4", none, none, ""⟩
  let download : ServingEvent :=
    .request "192.168.1.2" ⟨.get, "/dleynarenderer/0.mp4", none⟩ (some [1, 2])
  let finished : ServingEvent := .finished ⟨"192.168.1.2", "/a.mp4", false⟩
  [.host (.add "192.168.1.2" ":1.7" "/a.mp4" env),
    .host (.add "192.168.1.2" ":1.8" "/a.mp4" env), download, download,
    .host (.remove "192.168.1.2" ":1.7" "/a.mp4"), finished, download, finished,
    finished, .host (.lostClient ":1.8")]

theorem hosted_file_is_held :
    (∃ last, exec servingStep (servingNew 0) downloadedTwice = some last ∧
      last.transfers = [] ∧
      hostFileAt last.service "192.168.1.2" "/a.mp4" = none) ∧
      Always servingStep Serving.Held (servingNew 0) downloadedTwice := by
  obtain ⟨last, hrun, hlast⟩ : ∃ last,
      exec servingStep (servingNew 0) downloadedTwice = some last ∧
        last.transfers = [] ∧
        hostFileAt last.service "192.168.1.2" "/a.mp4" = none :=
    ⟨_, rfl, by decide, by decide⟩
  exact ⟨⟨last, hrun, hlast⟩,
    (transfers_held_iff_keepsServed hrun).mpr (by decide +kernel)⟩

/-! ## The count of the references -/

def Serving.inFlight (s : Serving) (deviceIf file : String) : Nat :=
  s.transfers.count ⟨deviceIf, file, false⟩

structure Serving.Balanced (s : Serving) : Prop where
  counted : ∀ deviceIf file hf, hostFileAt s.service deviceIf file = some hf →
    hf.mappedCount = s.inFlight deviceIf file
  mapped : ∀ deviceIf file hf, hostFileAt s.service deviceIf file = some hf →
    (hf.mappedFile ≠ none ↔ 0 < hf.mappedCount)
  /-- Between transfers the file is unmapped, and the next one reads it anew. -/
  current : ∀ deviceIf server request contents file hf,
    s.service.servers.lookup deviceIf = some server →
    serves server request contents file hf → s.inFlight deviceIf file = 0 →
    request.method = .get →
    hf.mappedFile = none ∧
      (prvSoupServerCb server request contents).response.body = contents

/--
No HEAD request is served, and a GET only while the file has fewer than
`2 ^ 32 - 1` transfers in flight.
-/
def ServesCounted (s : Serving) : ServingEvent → Prop
  | .host _ => True
  | .request deviceIf request contents =>
      ∀ server file hf, s.service.servers.lookup deviceIf = some server →
        serves server request contents file hf →
          request.method = .other ∨
            (request.method = .get ∧ s.inFlight deviceIf file + 1 < 2 ^ 32)
  | .finished _ => True

def Serving.LiveHosted (s : Serving) : Prop :=
  ∀ deviceIf file, hostFileAt s.service deviceIf file = none →
    s.inFlight deviceIf file = 0

theorem Serving.Balanced.of_counted {s : Serving}
    (hcounted : ∀ deviceIf file hf,
      hostFileAt s.service deviceIf file = some hf →
        hf.mappedCount = s.inFlight deviceIf file ∧
          (hf.mappedFile ≠ none ↔ 0 < hf.mappedCount)) : s.Balanced := by
  refine ⟨fun deviceIf file hf hentry => (hcounted deviceIf file hf hentry).1,
    fun deviceIf file hf hentry => (hcounted deviceIf file hf hentry).2, ?_⟩
  intro deviceIf server request contents file hf hserver hserves hidle hget
  obtain ⟨hfile, -⟩ := prvHostServerFindFile_some hserves.1
  obtain ⟨hcount, hmapped⟩ := hcounted deviceIf file hf
    (by simpa [hostFileAt, hserver, lookupFile] using hfile)
  have hnone : hf.mappedFile = none := by
    by_contra hne
    have hpos := hmapped.mp hne
    omega
  refine ⟨hnone, ?_⟩
  rcases prvSoupServerCb_cases server request contents with
    ⟨-, -, -, hmethod | hrefused⟩ |
    ⟨file', hf', mapped, hserves', -, hmap, -, -, hbody, -⟩
  · rw [hget] at hmethod
    contradiction
  · exact absurd hserves (hrefused file hf)
  · have hsame := hserves'.1.symm.trans hserves.1
    cases hsame
    rw [hbody, if_pos hget]
    simp only [mapHostFile, hnone, Option.map_eq_some_iff] at hmap
    obtain ⟨read, hread, rfl⟩ := hmap
    exact hread.symm

theorem count_map_detach_of_present {hs : HostService}
    {deviceIf file : String} (h : hostFileAt hs deviceIf file ≠ none)
    (transfers : List Transfer) :
    (transfers.map (detach hs)).count ⟨deviceIf, file, false⟩ =
      transfers.count ⟨deviceIf, file, false⟩ := by
  induction transfers with
  | nil => rfl
  | cons transfer transfers ih =>
      have hsame : detach hs transfer = ⟨deviceIf, file, false⟩ ↔
          transfer = ⟨deviceIf, file, false⟩ := by
        constructor
        · intro heq
          unfold detach at heq
          split at heq
          · cases heq
          · exact heq
        · rintro rfl
          exact detach_of_present h
      simp [List.count_cons, ih, hsame]

theorem count_map_detach_of_absent {hs : HostService}
    {deviceIf file : String} (h : hostFileAt hs deviceIf file = none)
    (transfers : List Transfer) :
    (transfers.map (detach hs)).count ⟨deviceIf, file, false⟩ = 0 := by
  rw [List.count_eq_zero]
  intro hmem
  obtain ⟨transfer, -, heq⟩ := List.mem_map.mp hmem
  have hfree : transfer.deviceIf = deviceIf ∧ transfer.file = file := by
    unfold detach at heq
    split at heq
    · cases heq
    · cases heq
      exact ⟨rfl, rfl⟩
  obtain ⟨rfl, rfl⟩ := hfree
  rw [detach_of_absent h] at heq
  cases transfer
  cases heq

theorem host_balanced {s next : Serving} {event : HostEvent}
    (h : s.Balanced) (hlive : s.LiveHosted)
    (hstep : servingStep s (.host event) = some next) :
    next.Balanced ∧ next.LiveHosted := by
  obtain ⟨service, hservice, rfl⟩ := Option.map_eq_some_iff.mp hstep
  refine ⟨.of_counted fun deviceIf file hf hentry => ?_,
    fun deviceIf file hnone => count_map_detach_of_absent hnone s.transfers⟩
  have hcount : (s.transfers.map (detach service)).count ⟨deviceIf, file, false⟩ =
      s.inFlight deviceIf file :=
    count_map_detach_of_present (by simp [hentry]) s.transfers
  cases hold : hostFileAt s.service deviceIf file with
  | some old =>
      have hcounted := h.counted deviceIf file old hold
      have hmapped := h.mapped deviceIf file old hold
      rcases hostStep_of_hosted hold hservice with
        ⟨-, hnone⟩ | ⟨-, clients, hnext⟩
      · rw [hnone] at hentry
        contradiction
      · rw [hnext] at hentry
        obtain rfl := Option.some.inj hentry
        exact ⟨hcounted.trans hcount.symm, hmapped⟩
  | none =>
      obtain ⟨hfile, hzero⟩ := hostStep_of_not_hosted hold hservice hentry
      have hidle := hlive deviceIf file hold
      refine ⟨?_, by simp [hfile, hzero]⟩
      rw [hzero, Serving.inFlight, hcount, hidle]

theorem inFlight_append (s : Serving) (service : HostService)
    (transfer : Transfer) (deviceIf file : String) :
    Serving.inFlight ⟨service, s.transfers ++ [transfer]⟩ deviceIf file =
      s.inFlight deviceIf file +
        if transfer = ⟨deviceIf, file, false⟩ then 1 else 0 := by
  simp [Serving.inFlight, List.count_append, List.count_singleton]

theorem mapHostFile_count {hf mapped : HostFile} {contents : Option Bytes}
    (h : mapHostFile hf contents = some mapped)
    (hmapped : hf.mappedFile ≠ none ↔ 0 < hf.mappedCount) :
    mapped.mappedCount = (hf.mappedCount + 1) % 2 ^ 32 := by
  unfold mapHostFile at h
  cases hfile : hf.mappedFile with
  | some _ =>
      simp only [hfile, Option.some.injEq] at h
      simp [← h]
  | none =>
      have hzero : hf.mappedCount = 0 := by
        by_contra hne
        exact hmapped.mpr (Nat.pos_of_ne_zero hne) hfile
      simp only [hfile, Option.map_eq_some_iff] at h
      obtain ⟨_, -, rfl⟩ := h
      simp [hzero]

theorem servesCounted_iff {s : Serving} {deviceIf : String}
    {request : SoupRequest} {contents : Option Bytes} {server : HostServer}
    {file : String} {hf : HostFile}
    (hserver : s.service.servers.lookup deviceIf = some server)
    (hserves : serves server request contents file hf)
    (hother : request.method ≠ .other) :
    ServesCounted s (.request deviceIf request contents) ↔
      request.method = .get ∧ s.inFlight deviceIf file + 1 < 2 ^ 32 := by
  constructor
  · intro hguard
    rcases hguard server file hf hserver hserves with hmethod | hcounted
    · exact absurd hmethod hother
    · exact hcounted
  · intro hcounted server' file' hf' hserver' hserves'
    rw [hserver] at hserver'
    cases hserver'
    have hfound := hserves'.1.symm.trans hserves.1
    cases hfound
    exact .inr hcounted

theorem served_balanced_iff {s next : Serving} {deviceIf file : String}
    {request : SoupRequest} {contents : Option Bytes} {hf mapped : HostFile}
    (h : s.Balanced) (hentry : hostFileAt s.service deviceIf file = some hf)
    (hmap : mapHostFile hf contents = some mapped)
    (hentries : ∀ otherIf other, hostFileAt next.service otherIf other =
      if otherIf = deviceIf ∧ other = file then some mapped
      else hostFileAt s.service otherIf other)
    (htransfers : next.transfers = s.transfers ++
      if request.method = .get then [⟨deviceIf, file, false⟩] else []) :
    next.Balanced ↔
      request.method = .get ∧ s.inFlight deviceIf file + 1 < 2 ^ 32 := by
  have hcounted := h.counted deviceIf file hf hentry
  have hcount := mapHostFile_count hmap (h.mapped deviceIf file hf hentry)
  by_cases hget : request.method = .get
  · have hflight (otherIf other) : next.inFlight otherIf other =
        s.inFlight otherIf other +
          if otherIf = deviceIf ∧ other = file then 1 else 0 := by
      rw [if_pos hget] at htransfers
      have happend := inFlight_append s next.service ⟨deviceIf, file, false⟩
        otherIf other
      rw [← htransfers] at happend
      rw [happend]
      simp [eq_comm]
    constructor
    · intro hnext
      have hnew := hnext.counted deviceIf file mapped (by simp [hentries])
      rw [hflight, if_pos ⟨rfl, rfl⟩, hcount, hcounted] at hnew
      have hlt := Nat.mod_lt (s.inFlight deviceIf file + 1)
        (show 0 < 2 ^ 32 by decide)
      exact ⟨hget, by omega⟩
    · rintro ⟨-, hbound⟩
      refine .of_counted fun otherIf other hf' hentry' => ?_
      rw [hflight]
      rw [hentries] at hentry'
      split at hentry'
      · rename_i hsame
        obtain ⟨rfl, rfl⟩ := hsame
        obtain rfl := Option.some.inj hentry'
        rw [hcount, hcounted, if_pos ⟨rfl, rfl⟩, Nat.mod_eq_of_lt hbound]
        exact ⟨rfl, iff_of_true (mapHostFile_mapped hmap) (Nat.succ_pos _)⟩
      · rename_i hsame
        rw [if_neg hsame]
        exact ⟨h.counted otherIf other hf' hentry',
          h.mapped otherIf other hf' hentry'⟩
  · -- the mapping of a HEAD request is counted, and no transfer gives it back
    refine iff_of_false (fun hnext => ?_) (fun hguard => hget hguard.1)
    have hnew := hnext.counted deviceIf file mapped (by simp [hentries])
    rw [if_neg hget, List.append_nil] at htransfers
    rw [Serving.inFlight, htransfers, hcount, hcounted] at hnew
    unfold Serving.inFlight at hnew
    omega

theorem request_balanced_iff {s next : Serving} {deviceIf : String}
    {request : SoupRequest} {contents : Option Bytes} (h : s.Balanced)
    (hstep : servingStep s (.request deviceIf request contents) = some next) :
    next.Balanced ↔ ServesCounted s (.request deviceIf request contents) := by
  rcases request_hostFileAt hstep with
    ⟨hsame, htransfers, hrefused⟩ |
    ⟨server, file, hf, mapped, hserver, hserves, hother, hentry, hmap, hentries,
      htransfers⟩
  · refine iff_of_true (.of_counted fun otherIf other hf hentry => ?_) ?_
    · rw [hsame] at hentry
      refine ⟨?_, h.mapped otherIf other hf hentry⟩
      rw [Serving.inFlight, htransfers]
      exact h.counted otherIf other hf hentry
    · intro server file hf hserver hserves
      rcases hrefused with hmethod | hrefused
      · exact .inl hmethod
      · exact absurd hserves (hrefused server file hf hserver)
  · rw [servesCounted_iff hserver hserves hother]
    exact served_balanced_iff h hentry hmap hentries htransfers

theorem request_liveHosted {s next : Serving} {deviceIf : String}
    {request : SoupRequest} {contents : Option Bytes} (h : s.LiveHosted)
    (hstep : servingStep s (.request deviceIf request contents) = some next) :
    next.LiveHosted := by
  intro otherIf other hnone
  rcases request_hostFileAt hstep with
    ⟨hsame, htransfers, -⟩ |
    ⟨-, file, -, mapped, -, -, -, -, -, hentries, htransfers⟩
  · rw [hsame] at hnone
    rw [Serving.inFlight, htransfers]
    exact h otherIf other hnone
  · rw [hentries] at hnone
    split at hnone
    · contradiction
    · rename_i hne
      have hidle := h otherIf other hnone
      rw [Serving.inFlight, htransfers, List.count_append]
      unfold Serving.inFlight at hidle
      rw [hidle, Nat.zero_add, List.count_eq_zero]
      intro hmem
      split at hmem
      · cases List.mem_singleton.mp hmem
        exact hne ⟨rfl, rfl⟩
      · contradiction

theorem inFlight_erase (s : Serving) (service : HostService)
    (transfer : Transfer) (deviceIf file : String) :
    Serving.inFlight ⟨service, s.transfers.erase transfer⟩ deviceIf file =
      s.inFlight deviceIf file -
        if transfer = ⟨deviceIf, file, false⟩ then 1 else 0 := by
  simp only [Serving.inFlight, List.count_erase, beq_iff_eq]

theorem prvSoupMessageFinishedCb_spec {hf : HostFile}
    (hpos : 0 < hf.mappedCount)
    (hmapped : hf.mappedFile ≠ none ↔ 0 < hf.mappedCount) :
    (prvSoupMessageFinishedCb hf).mappedCount = hf.mappedCount - 1 ∧
      ((prvSoupMessageFinishedCb hf).mappedFile ≠ none ↔
        0 < (prvSoupMessageFinishedCb hf).mappedCount) := by
  have hfinished : prvSoupMessageFinishedCb hf =
      { hf with
        mappedCount := hf.mappedCount - 1
        mappedFile :=
          if hf.mappedCount - 1 = 0 then none else hf.mappedFile } := by
    unfold prvSoupMessageFinishedCb
    exact if_pos hpos
  rw [hfinished]
  refine ⟨rfl, ?_⟩
  by_cases hlast : hf.mappedCount - 1 = 0
  · simp [hlast]
  · simp [hlast, hmapped.mpr hpos, Nat.pos_of_ne_zero hlast]

theorem finished_freed_balanced {s : Serving} {transfer : Transfer}
    (h : s.Balanced) (hlive : s.LiveHosted) (hfreed : transfer.freed = true) :
    Serving.Balanced ⟨s.service, s.transfers.erase transfer⟩ ∧
      Serving.LiveHosted ⟨s.service, s.transfers.erase transfer⟩ := by
  have hsame (deviceIf file) :
      Serving.inFlight ⟨s.service, s.transfers.erase transfer⟩ deviceIf file =
        s.inFlight deviceIf file := by
    have hne : transfer ≠ ⟨deviceIf, file, false⟩ := by
      rintro rfl
      contradiction
    rw [inFlight_erase, if_neg hne, Nat.sub_zero]
  refine ⟨.of_counted fun deviceIf file hf hentry => ?_,
    fun deviceIf file hnone => ?_⟩
  · rw [hsame]
    exact ⟨h.counted deviceIf file hf hentry, h.mapped deviceIf file hf hentry⟩
  · rw [hsame]
    exact hlive deviceIf file hnone

theorem finished_served_balanced {s : Serving} {deviceIf file : String}
    (h : s.Balanced) (hlive : s.LiveHosted)
    (hmem : ⟨deviceIf, file, false⟩ ∈ s.transfers) :
    let next : Serving :=
      ⟨modifyHostFile s.service deviceIf file prvSoupMessageFinishedCb,
        s.transfers.erase ⟨deviceIf, file, false⟩⟩
    next.Balanced ∧ next.LiveHosted := by
  have hpos : 0 < s.inFlight deviceIf file := List.count_pos_iff.mpr hmem
  cases hentry : hostFileAt s.service deviceIf file with
  | none =>
      have hidle := hlive deviceIf file hentry
      omega
  | some hf =>
      have hentries := hostFileAt_modifyHostFile hentry prvSoupMessageFinishedCb
      have hcounted := h.counted deviceIf file hf hentry
      refine ⟨.of_counted fun otherIf other hf' hentry' => ?_,
        fun otherIf other hnone => ?_⟩
      · rw [inFlight_erase]
        rw [hentries] at hentry'
        split at hentry'
        · rename_i hsame
          obtain ⟨rfl, rfl⟩ := hsame
          obtain rfl := Option.some.inj hentry'
          obtain ⟨hcount, hmapped⟩ := prvSoupMessageFinishedCb_spec
            (hcounted ▸ hpos) (h.mapped otherIf other hf hentry)
          rw [if_pos rfl, hcount, hcounted]
          exact ⟨rfl, by simpa [hcount, hcounted] using hmapped⟩
        · rename_i hsame
          have hne : (⟨deviceIf, file, false⟩ : Transfer) ≠
              ⟨otherIf, other, false⟩ := by
            intro heq
            cases heq
            exact hsame ⟨rfl, rfl⟩
          rw [if_neg hne, Nat.sub_zero]
          exact ⟨h.counted otherIf other hf' hentry',
            h.mapped otherIf other hf' hentry'⟩
      · rw [hentries] at hnone
        split at hnone
        · contradiction
        · rw [inFlight_erase, hlive otherIf other hnone, Nat.zero_sub]

theorem finished_balanced {s next : Serving} {transfer : Transfer}
    (h : s.Balanced) (hlive : s.LiveHosted)
    (hstep : servingStep s (.finished transfer) = some next) :
    next.Balanced ∧ next.LiveHosted := by
  simp only [servingStep, Option.ite_none_right_eq_some] at hstep
  obtain ⟨hmem, hstep⟩ := hstep
  cases hfreed : transfer.freed with
  | true =>
      simp only [hfreed, if_true, Option.some.injEq] at hstep
      subst hstep
      exact finished_freed_balanced h hlive hfreed
  | false =>
      obtain ⟨deviceIf, file, freed⟩ := transfer
      obtain rfl : freed = false := hfreed
      simp only [Bool.false_eq_true, if_false, Option.some.injEq] at hstep
      subst hstep
      exact finished_served_balanced h hlive hmem

theorem servingNew_balanced (port : Nat) :
    (servingNew port).Balanced ∧ (servingNew port).LiveHosted := by
  refine ⟨.of_counted fun deviceIf file hf hentry => ?_, fun _ _ _ => rfl⟩
  simp [hostFileAt, servingNew, dlrHostServiceNew, lookupFile] at hentry

/--
The references are balanced in every state of a run exactly when every step
serves only what is counted.
-/
theorem balanced_iff_servesCounted {port : Nat} {events : List ServingEvent}
    {last : Serving}
    (hrun : exec servingStep (servingNew port) events = some last) :
    Always servingStep Serving.Balanced (servingNew port) events ↔
      Meets servingStep ServesCounted (servingNew port) events := by
  refine guarded_run_always_iff (fun s => s.Balanced ∧ s.LiveHosted)
    (fun _ h => h.1) ?_ ?_ (servingNew_balanced port) hrun
  · rintro s event next ⟨h, hlive⟩ hguard hstep
    cases event with
    | host event => exact host_balanced h hlive hstep
    | request deviceIf request contents =>
        exact ⟨(request_balanced_iff h hstep).mpr hguard,
          request_liveHosted hlive hstep⟩
    | finished transfer => exact finished_balanced h hlive hstep
  · rintro s event next ⟨h, hlive⟩ hstep hnext
    cases event with
    | host event => trivial
    | request deviceIf request contents =>
        exact (request_balanced_iff h hstep).mp hnext
    | finished transfer => trivial

/-- One HEAD request keeps the file mapped with no transfer in flight. -/
theorem head_request_unbalances :
    let env : HostEnv :=
      ⟨true, 8080, true, true, some "video/mp4", none, none, ""⟩
    ∃ last, exec servingStep (servingNew 0)
        [.host (.add "192.168.1.2" ":1.7" "/a.mp4" env),
          .request "192.168.1.2" ⟨.head, "/dleynarenderer/0.mp4", none⟩
            (some [1, 2])] = some last ∧
      last.inFlight "192.168.1.2" "/a.mp4" = 0 ∧
      (hostFileAt last.service "192.168.1.2" "/a.mp4").map
        (fun hf => (hf.mappedFile, hf.mappedCount)) = some (some [1, 2], 1) ∧
      ¬ last.Balanced := by
  refine ⟨_, rfl, by decide, rfl, fun hbalanced => ?_⟩
  have hcount := hbalanced.counted "192.168.1.2" "/a.mp4" _ rfl
  revert hcount
  decide

/-- A GET that is served keeps the references balanced. -/
theorem get_request_balances :
    let env : HostEnv :=
      ⟨true, 8080, true, true, some "video/mp4", none, none, ""⟩
    Always servingStep Serving.Balanced (servingNew 0)
      [.host (.add "192.168.1.2" ":1.7" "/a.mp4" env),
        .request "192.168.1.2" ⟨.get, "/dleynarenderer/0.mp4", none⟩
          (some [1, 2])] := by
  intro env
  obtain ⟨last, hrun⟩ : ∃ last, exec servingStep (servingNew 0)
      [.host (.add "192.168.1.2" ":1.7" "/a.mp4" env),
        .request "192.168.1.2" ⟨.get, "/dleynarenderer/0.mp4", none⟩
          (some [1, 2])] = some last := ⟨_, rfl⟩
  refine (balanced_iff_servesCounted hrun).mpr ⟨trivial, ?_, trivial⟩
  intro server file hf _ _
  have hidle : 0 + 1 < 2 ^ 32 := by decide
  exact .inr ⟨rfl, hidle⟩

end DleynaRenderer.PushHost
