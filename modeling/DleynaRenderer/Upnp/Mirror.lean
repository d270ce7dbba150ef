import DleynaRenderer.Upnp.Entry

/-!
# The registry mirrors the network

The network of a UDN is the set of addresses that were announced for it and not
withdrawn since.  The registry has a device exactly for the UDNs with such an
address, with one context for each, and its signals tell a client which devices
are constructed.
-/

namespace DleynaRenderer.Upnp

open DleynaRenderer.Device DleynaRenderer.Player DleynaRenderer.PushHost
open EventSystem

def isAvailable (udn ipAddress : String) : UpnpEvent → Bool
  | .available udn' ipAddress' _ => udn' = udn && ipAddress' = ipAddress
  | _ => false

def isUnavailable (udn ipAddress : String) : UpnpEvent → Bool
  | .unavailable udn' ipAddress' => udn' = udn && ipAddress' = ipAddress
  | _ => false

def Announced (events : List UpnpEvent) (udn ipAddress : String) : Prop :=
  ∃ before event after, events = before ++ event :: after ∧
    isAvailable udn ipAddress event ∧
    ∀ later ∈ after, isUnavailable udn ipAddress later = false

theorem not_announced_nil (udn ipAddress : String) :
    ¬ Announced [] udn ipAddress := by
  rintro ⟨before, event, after, heq, -⟩
  simp at heq

theorem announced_concat_iff {events : List UpnpEvent} {event : UpnpEvent}
    {udn ipAddress : String} :
    Announced (events ++ [event]) udn ipAddress ↔
      isAvailable udn ipAddress event ∨
        (isUnavailable udn ipAddress event = false ∧
          Announced events udn ipAddress) := by
  constructor
  · rintro ⟨before, announced, after, heq, havailable, hlater⟩
    rcases List.eq_nil_or_concat after with rfl | ⟨after, last, rfl⟩
    · obtain ⟨-, hlast⟩ := List.append_inj' heq rfl
      obtain rfl : event = announced := by simpa using hlast
      exact .inl havailable
    · have hsplit : events ++ [event] =
          (before ++ announced :: after) ++ [last] := by simpa using heq
      obtain ⟨rfl, hlast⟩ := List.append_inj' hsplit rfl
      obtain rfl : event = last := by simpa using hlast
      refine .inr ⟨hlater event (by simp), before, announced, after, rfl,
        havailable, fun later hmem => hlater later (by simp [hmem])⟩
  · rintro (havailable | ⟨hkept, before, announced, after, rfl, havailable, hlater⟩)
    · exact ⟨events, event, [], rfl, havailable, by simp⟩
    · refine ⟨before, announced, after ++ [event], by simp, havailable, ?_⟩
      intro later hmem
      rcases List.mem_append.mp hmem with hmem | hmem
      · exact hlater later hmem
      · obtain rfl := List.mem_singleton.mp hmem
        exact hkept

def addressLaw (udn : String) (ipAddresses : List String) :
    UpnpEvent → List String
  | .available udn' ipAddress _ =>
      if udn' = udn ∧ ipAddress ∉ ipAddresses then ipAddresses ++ [ipAddress]
      else ipAddresses
  | .unavailable udn' ipAddress =>
      if udn' = udn then ipAddresses.erase ipAddress else ipAddresses
  | _ => ipAddresses

theorem nodup_addressLaw {udn : String} {ipAddresses : List String}
    (h : ipAddresses.Nodup) (event : UpnpEvent) :
    (addressLaw udn ipAddresses event).Nodup := by
  cases event with
  | available udn' ipAddress services =>
      simp only [addressLaw]
      split_ifs with hnew
      · exact List.nodup_append.mpr ⟨h, List.nodup_singleton _, by grind⟩
      · exact h
  | unavailable udn' ipAddress =>
      simp only [addressLaw]
      split_ifs
      · exact h.erase ipAddress
      · exact h
  | _ => exact h

theorem mem_addressLaw_iff {udn ipAddress : String} {ipAddresses : List String}
    (h : ipAddresses.Nodup) (event : UpnpEvent) :
    ipAddress ∈ addressLaw udn ipAddresses event ↔
      isAvailable udn ipAddress event ∨
        (isUnavailable udn ipAddress event = false ∧
          ipAddress ∈ ipAddresses) := by
  cases event with
  | available udn' other services =>
      simp only [addressLaw, isAvailable, isUnavailable]
      split_ifs <;> grind
  | unavailable udn' other =>
      simp only [addressLaw, isAvailable, isUnavailable]
      split_ifs
      · rw [h.mem_erase_iff]
        grind
      · grind
  | _ => simp [addressLaw, isAvailable, isUnavailable]

theorem addressLaw_of_other {udn : String} {event : UpnpEvent}
    {ipAddresses : List String} (h : target event ≠ some udn) :
    addressLaw udn ipAddresses event = ipAddresses := by
  cases event <;> simp_all [addressLaw, target]

theorem network_spec (udn : String) (events : List UpnpEvent) :
    (events.foldl (addressLaw udn) []).Nodup ∧
      ∀ ipAddress, ipAddress ∈ events.foldl (addressLaw udn) [] ↔
        Announced events udn ipAddress := by
  induction events using List.reverseRecOn with
  | nil => simp [not_announced_nil]
  | append_singleton events event ih =>
      rw [List.foldl_concat]
      refine ⟨nodup_addressLaw ih.1 event, fun ipAddress => ?_⟩
      rw [mem_addressLaw_iff ih.1, announced_concat_iff, ih.2]

@[simp] theorem addresses_resubscribeLater (lost : DeviceContext)
    (device : DlrDevice) :
    addresses (resubscribeLater lost device) = addresses device := by
  unfold resubscribeLater
  split <;> rfl

theorem path_resubscribeLater (lost : DeviceContext) (device : DlrDevice) :
    (resubscribeLater lost device).path = device.path := by
  unfold resubscribeLater
  split <;> rfl

theorem addresses_modifyContext {ipAddress : String}
    {update : DeviceContext → DeviceContext}
    (hupdate : ∀ context, (update context).ipAddress = context.ipAddress)
    (device : DlrDevice) :
    addresses (modifyContext ipAddress update device) = addresses device := by
  simp only [addresses, modifyContext, List.map_map]
  apply List.map_congr_left
  intro context _
  simp only [Function.comp_apply]
  split
  · exact hupdate context
  · rfl

theorem addresses_announceContext (ipAddress : String)
    (services : Service → Bool) (device : DlrDevice) :
    addresses (announceContext ipAddress services device) =
      if ipAddress ∈ addresses device then addresses device
      else addresses device ++ [ipAddress] := by
  have hany : (device.contexts.any fun context =>
      context.ipAddress = ipAddress) ↔ ipAddress ∈ addresses device := by
    simp [addresses]
  unfold announceContext
  simp only [hany]
  split_ifs
  · rfl
  · exact addresses_dlrDeviceAppendNewContext ipAddress services device

def addressesOf : Option Entry → List String
  | none => []
  | some entry => addresses entry.device

/-- A device has a context, and under construction one for its chain. -/
structure Mirrored (path : String) (entry : Entry) : Prop where
  path : entry.device.path = path
  hasContext : addresses entry.device ≠ []
  chainContext : ∀ chain, entry.chain = some chain →
    chain.ipAddress ∈ addresses entry.device

structure Follows (path : String) (before : Option Entry)
    (ipAddresses : List String) (after : Option Entry) : Prop where
  addresses : addressesOf after = ipAddresses
  mirrored : ∀ entry, after = some entry → Mirrored path entry
  settled : ∀ old, before = some old → old.chain = none →
    ∀ entry, after = some entry → entry.chain = none
  started : before = none → ∀ entry, after = some entry → entry.chain ≠ none

theorem follows_none (path : String) : Follows path none [] none :=
  ⟨rfl, by simp, by simp, by simp⟩

def publishes : UpnpEvent → Prop
  | .runTask _ answer => ∀ i, answer.ids i ≠ 0
  | _ => True

def Entry.shape (entry : Entry) : String × List String × Option String :=
  (entry.device.path, addresses entry.device,
    entry.chain.map Chain.ipAddress)

theorem keepEntry_device (lost : DeviceContext) (device : DlrDevice)
    (context : DeviceContext) (chain : Option Chain) :
    (keepEntry lost device context chain).device.path = device.path ∧
      addresses (keepEntry lost device context chain).device =
        addresses device := by
  unfold keepEntry
  cases chain with
  | none => exact ⟨path_resubscribeLater lost device, by simp⟩
  | some chain =>
      simp only
      split
      · exact ⟨rfl, rfl⟩
      · exact ⟨path_resubscribeLater lost device, by simp⟩

theorem keepEntry_chain {lost : DeviceContext} {device : DlrDevice}
    {context : DeviceContext} {chain : Option Chain} {result : Chain}
    (h : (keepEntry lost device context chain).chain = some result) :
    result.ipAddress = context.ipAddress ∨
      (lost.ipAddress ≠ result.ipAddress ∧ chain = some result) := by
  cases chain with
  | none => contradiction
  | some chain =>
      simp only [keepEntry] at h
      split at h
      · exact .inl (Option.some.inj h ▸ rfl)
      case isFalse hne =>
        obtain rfl := Option.some.inj h
        exact .inr ⟨hne, rfl⟩

theorem shape_runEntryTask {answer : TaskAnswer} {entry result : Entry}
    (h : runEntryTask answer entry = some result) :
    result.shape = entry.shape := by
  obtain ⟨device, _ | ⟨ipAddress, _ | ⟨task, tasks⟩⟩⟩ := entry
  · exact Option.some.inj h ▸ rfl
  · exact Option.some.inj h ▸ rfl
  · cases task with
    | getProtocolInfo hasProxy =>
        obtain rfl := Option.some.inj h
        cases hasProxy <;> cases answer.sink <;> rfl
    | subscribe =>
        obtain rfl := Option.some.inj h
        have hpath : (prvSubscribe device).path = device.path := by
          rw [prvSubscribe,
            ← sameButContexts_prvDeviceSubscribeContext (countStep device)]
          rfl
        have haddresses : addresses (prvSubscribe device) = addresses device :=
          addresses_prvDeviceSubscribeContext (countStep device)
        simp [Entry.shape, hpath, haddresses]
    | declare =>
        simp only [runEntryTask, runConstructTask, prvDeclare] at h
        split at h
        case h_1 => contradiction
        case h_2 after hdeclare =>
          obtain rfl := Option.some.inj h
          obtain ⟨-, rfl⟩ := Prod.mk.inj hdeclare
          rfl

theorem runEntryTask_published {answer : TaskAnswer}
    (hpublished : ∀ i, answer.ids i ≠ 0) (entry : Entry) :
    ∃ result, runEntryTask answer entry = some result := by
  obtain ⟨device, _ | ⟨ipAddress, _ | ⟨task, tasks⟩⟩⟩ := entry
  · exact ⟨_, rfl⟩
  · exact ⟨_, rfl⟩
  · cases task with
    | getProtocolInfo hasProxy => exact ⟨_, rfl⟩
    | subscribe => exact ⟨_, rfl⟩
    | declare => simp [runEntryTask, runConstructTask, prvDeclare, hpublished]

section Changes

variable {path : String} {entry : Entry} (h : Mirrored path entry)

include h

theorem follows_of_shape {result : Entry} (hshape : result.shape = entry.shape) :
    Follows path (some entry) (addresses entry.device) (some result) := by
  simp only [Entry.shape, Prod.mk.injEq] at hshape
  obtain ⟨hpath, haddresses, hchain⟩ := hshape
  refine ⟨haddresses, ?_, ?_, by simp⟩
  · rintro _ ⟨⟩
    refine ⟨hpath.trans h.path, haddresses ▸ h.hasContext, fun chain heq => ?_⟩
    rw [heq, Option.map_some, eq_comm, Option.map_eq_some_iff] at hchain
    obtain ⟨old, hold, hip⟩ := hchain
    rw [← hip, haddresses]
    exact h.chainContext old hold
  · rintro _ ⟨⟩ hnone _ ⟨⟩
    simpa [hnone] using hchain

theorem follows_update {change : DlrDevice → DlrDevice}
    (hpath : (change entry.device).path = entry.device.path)
    (haddresses : addresses (change entry.device) = addresses entry.device) :
    Follows path (some entry) (addresses entry.device)
      (some (entry.update change)) :=
  follows_of_shape h (by simp [Entry.shape, Entry.update, hpath, haddresses])

theorem follows_announceContext (ipAddress : String)
    (services : Service → Bool) :
    Follows path (some entry)
      (if ipAddress ∉ addresses entry.device then
        addresses entry.device ++ [ipAddress]
      else addresses entry.device)
      (some (entry.update (announceContext ipAddress services))) := by
  have hpath : (announceContext ipAddress services entry.device).path =
      entry.device.path := by
    unfold announceContext
    split
    · rfl
    · rw [← sameButContexts_dlrDeviceAppendNewContext ipAddress services]
  have haddresses := addresses_announceContext ipAddress services entry.device
  have hsubset : addresses entry.device ⊆
      addresses (announceContext ipAddress services entry.device) := by
    rw [haddresses]
    split_ifs <;> simp
  refine ⟨?_, ?_, ?_, by simp⟩
  · simpa [addressesOf, Entry.update, ite_not] using haddresses
  · rintro _ ⟨⟩
    refine ⟨hpath.trans h.path, fun hnil => ?_, fun chain hchain =>
      hsubset (h.chainContext chain hchain)⟩
    exact h.hasContext (List.subset_nil.mp (hnil ▸ hsubset))
  · rintro _ ⟨⟩ hnone _ ⟨⟩
    exact hnone

theorem follows_loseContext (ipAddress : String) :
    Follows path (some entry) ((addresses entry.device).erase ipAddress)
      (loseContext ipAddress entry) := by
  obtain ⟨device, chain⟩ := entry
  unfold loseContext
  cases hremoved : removeContext ipAddress device with
  | none =>
      rw [List.erase_of_not_mem (removeContext_eq_none_iff.mp hremoved)]
      exact follows_of_shape h rfl
  | some removed =>
      obtain ⟨lost, kept⟩ := removed
      obtain ⟨hmem, hip, hkept⟩ := removeContext_spec hremoved
      have haddresses := addresses_removeContext hremoved
      rw [← haddresses]
      simp only
      cases hcontext : dlrDeviceGetContext kept with
      | none =>
          have hnil : addresses kept = [] := by
            simp [addresses, dlrDeviceGetContext_eq_none_iff.mp hcontext]
          rw [hnil]
          exact ⟨rfl, by simp, by simp, by simp⟩
      | some context =>
          have hcontained := mem_addresses_of_dlrDeviceGetContext hcontext
          obtain ⟨hpath, hkeptAddresses⟩ := keepEntry_device lost kept context
            chain
          have hmirrored : Mirrored path (keepEntry lost kept context chain) := by
            refine ⟨hpath.trans ?_, ?_, ?_⟩
            · rw [hkept]
              exact h.path
            · rw [hkeptAddresses]
              exact List.ne_nil_of_mem hcontained
            · intro result hresult
              rw [hkeptAddresses]
              -- the chain is on the new context or was never on the lost one
              rcases keepEntry_chain hresult with heq | ⟨hne, hchain⟩
              · exact heq ▸ hcontained
              · rw [haddresses, ← hip]
                exact (List.mem_erase_of_ne (Ne.symm hne)).mpr
                  (h.chainContext result hchain)
          refine ⟨hkeptAddresses, ?_, ?_, by simp⟩
          · rintro _ ⟨⟩
            exact hmirrored
          · rintro _ ⟨⟩ hnone _ ⟨⟩
            obtain rfl : chain = none := hnone
            rfl

theorem follows_runEntryTask {answer : TaskAnswer}
    (hpublished : ∀ i, answer.ids i ≠ 0) :
    Follows path (some entry) (addresses entry.device)
      (runEntryTask answer entry) := by
  obtain ⟨result, hresult⟩ := runEntryTask_published hpublished entry
  rw [hresult]
  exact follows_of_shape h (shape_runEntryTask hresult)

theorem follows_endEntryChain :
    Follows path (some entry) (addresses entry.device)
      (some (endEntryChain entry)) := by
  obtain ⟨device, _ | ⟨ipAddress, _ | ⟨task, tasks⟩⟩⟩ := entry
  · exact follows_of_shape h rfl
  · refine ⟨rfl, ?_, ?_, by simp⟩
    · rintro _ ⟨⟩
      exact ⟨h.path, h.hasContext, nofun⟩
    · rintro _ ⟨⟩ hsome
      contradiction
  · exact follows_of_shape h rfl

end Changes

theorem follows_freshEntry (convertUdnToPath : String → String)
    (udn ipAddress : String) (services : Service → Bool) :
    Follows (serverPath convertUdnToPath udn) none [ipAddress]
      (some (freshEntry convertUdnToPath udn ipAddress services)) := by
  refine ⟨rfl, ?_, by simp, ?_⟩
  · rintro _ ⟨⟩
    refine ⟨rfl, List.cons_ne_nil _ _, ?_⟩
    rintro _ ⟨⟩
    exact List.mem_singleton_self _
  · rintro - _ ⟨⟩
    exact Option.some_ne_none _

theorem follows_entryChange (convertUdnToPath : String → String)
    {udn : String} {event : UpnpEvent} {before : Option Entry}
    (htarget : target event = some udn) (hpublishes : publishes event)
    (h : ∀ entry, before = some entry →
      Mirrored (serverPath convertUdnToPath udn) entry) :
    Follows (serverPath convertUdnToPath udn) before
      (addressLaw udn (addressesOf before) event)
      (entryChange (freshEntry convertUdnToPath udn) before event) := by
  cases before with
  | none =>
      cases event with
      | available other ipAddress services =>
          obtain rfl := Option.some.inj htarget
          simpa [addressLaw, addressesOf, entryChange] using
            follows_freshEntry convertUdnToPath other ipAddress services
      | unavailable other ipAddress =>
          simpa [addressLaw, addressesOf, entryChange] using follows_none _
      | _ => exact follows_none _
  | some entry =>
      have hentry := h entry rfl
      cases event with
      | available other ipAddress services =>
          obtain rfl := Option.some.inj htarget
          simpa [addressLaw, addressesOf, entryChange] using
            follows_announceContext hentry ipAddress services
      | unavailable other ipAddress =>
          obtain rfl := Option.some.inj htarget
          simpa [addressLaw, addressesOf, entryChange] using follows_loseContext hentry ipAddress
      | runTask other answer => exact follows_runEntryTask hentry hpublishes
      | chainEnd other => exact follows_endEntryChain hentry
      | subscribeTimeout other =>
          exact follows_update hentry rfl
            (addresses_dlrDeviceSubscribeToServiceChanges _)
      | subscriptionLost other ipAddress service =>
          exact follows_update hentry rfl
            (addresses_modifyContext (ipAddress_emitSubscriptionLost service) _)
      | reEnable other ipAddress service =>
          exact follows_update hentry rfl
            (addresses_modifyContext (ipAddress_reEnableCb service) _)
      | player other info event =>
          simp only [entryChange]
          split
          · exact follows_of_shape hentry rfl
          · exact follows_update hentry rfl rfl
      | hostFile client path file env => contradiction
      | removeFile client path file => contradiction
      | lostClient client => contradiction

theorem mirrored_entryChange (convertUdnToPath : String → String)
    {udn : String} {event : UpnpEvent} {before : Option Entry} {result : Entry}
    (htarget : target event = some udn)
    (h : ∀ entry, before = some entry →
      Mirrored (serverPath convertUdnToPath udn) entry)
    (hresult : entryChange (freshEntry convertUdnToPath udn) before event =
      some result) :
    Mirrored (serverPath convertUdnToPath udn) result := by
  have hfollows (hpublishes : publishes event) :=
    (follows_entryChange convertUdnToPath htarget hpublishes h).mirrored result
      hresult
  cases event with
  | runTask other answer =>
      cases before with
      | none => contradiction
      | some entry =>
          exact (follows_of_shape (h entry rfl)
            (shape_runEntryTask hresult)).mirrored result rfl
  | _ => exact hfollows trivial

structure Located (convertUdnToPath : String → String)
    (upnp : DlrUpnp) : Prop where
  apart : Apart upnp
  mirrored : ∀ udn found, entry upnp udn = some found →
    Mirrored (serverPath convertUdnToPath udn) found

theorem located_dlrUpnpNew (convertUdnToPath : String → String)
    (pushHostPort : Nat) :
    Located convertUdnToPath (dlrUpnpNew pushHostPort) where
  apart := apart_dlrUpnpNew pushHostPort
  mirrored udn found hentry := absurd hentry (by simp [entry, dlrUpnpNew])

theorem located_upnpStep {convertUdnToPath : String → String}
    {upnp next : DlrUpnp} {event : UpnpEvent}
    (h : Located convertUdnToPath upnp)
    (hstep : upnpStep convertUdnToPath upnp event = some next) :
    Located convertUdnToPath next where
  apart := apart_upnpStep h.apart hstep
  mirrored := by
    refine entries_step (fun udn => Mirrored (serverPath convertUdnToPath udn))
      h.apart hstep ?_ h.mirrored
    intro udn result htarget hresult
    exact mirrored_entryChange convertUdnToPath htarget (h.mirrored udn) hresult

theorem Located.dlrDeviceGetContext_ne_none {convertUdnToPath : String → String}
    {upnp : DlrUpnp} (h : Located convertUdnToPath upnp) {path : String}
    {device : DlrDevice} (hdevice : dlrDeviceFromPath path upnp = some device) :
    dlrDeviceGetContext device ≠ none := by
  obtain ⟨udn, hlookup⟩ :=
    HashTable.mem_values_iff.mp (List.mem_of_find?_eq_some hdevice)
  have hcontext :=
    (h.mirrored udn _ (lookup_constructed_iff.mp hlookup)).hasContext
  rw [Ne, dlrDeviceGetContext_eq_none_iff]
  intro hnil
  exact hcontext (by simp [addresses, hnil])

/-! ## Signals -/

def Signal.path : Signal → String
  | .foundServer path => path
  | .lostServer path => path

def signalsOf (path : String) (signals : List Signal) : List Signal :=
  signals.filter fun signal => signal.path = path

def turn (path : String) (i : Nat) : Signal :=
  if i % 2 = 0 then .foundServer path else .lostServer path

def Alternating (path : String) (signals : List Signal) : Prop :=
  ∃ n, signals = (List.range n).map (turn path)

def isConstructed : Option Entry → Bool
  | some ⟨_, none⟩ => true
  | _ => false

theorem isConstructed_entry_iff {upnp : DlrUpnp} {udn : String} :
    isConstructed (entry upnp udn) ↔
      ∃ device, upnp.serverUdnMap.lookup udn = some device := by
  simp only [lookup_constructed_iff]
  rcases entry upnp udn with _ | ⟨device, _ | chain⟩ <;> simp [isConstructed]

def SignalsTell (path : String) (constructed : Bool)
    (signals : List Signal) : Prop :=
  ∃ n, signalsOf path signals = (List.range n).map (turn path) ∧
    (n % 2 = 1 ↔ constructed)

theorem signalsTell_turn {path : String} {constructed : Bool}
    {signals : List Signal} (h : SignalsTell path constructed signals) :
    SignalsTell path (!constructed) (signals ++
      [if constructed then .lostServer path else .foundServer path]) := by
  obtain ⟨n, hsignals, hparity⟩ := h
  refine ⟨n + 1, ?_, ?_⟩
  · rw [List.range_succ, List.map_append, ← hsignals]
    cases constructed with
    | false =>
        have heven : n % 2 = 0 := by simp at hparity; omega
        simp [signalsOf, Signal.path, turn, heven]
    | true =>
        have hodd : n % 2 ≠ 0 := by simp at hparity; omega
        simp [signalsOf, Signal.path, turn, hodd]
  · cases constructed <;> simp at hparity ⊢ <;> omega

theorem transition_of_follows {path : String} {before after : Option Entry}
    {ipAddresses : List String} (h : Follows path before ipAddresses after)
    (hbefore : ∀ entry, before = some entry → Mirrored path entry) :
    (isConstructed after = isConstructed before ∧
        transition before after = []) ∨
      (isConstructed after = !isConstructed before ∧
        transition before after =
          [if isConstructed before then .lostServer path
           else .foundServer path]) := by
  rcases before with _ | ⟨device, _ | chain⟩ <;>
    rcases after with _ | ⟨device', _ | chain'⟩
  case none.some.none => exact absurd rfl (h.started rfl _ rfl)
  case some.none.some.some =>
    have hnone := h.settled _ rfl rfl _ rfl
    contradiction
  case some.none.none =>
    have hpath := (hbefore _ rfl).path
    simp_all [isConstructed, transition]
  case some.some.some.none =>
    have hpath := (h.mirrored _ rfl).path
    simp_all [isConstructed, transition]
  all_goals simp [isConstructed, transition]

structure MirrorInv (convertUdnToPath : String → String)
    (upnp : DlrUpnp) : Prop extends Located convertUdnToPath upnp where
  signals : ∀ udn, SignalsTell (serverPath convertUdnToPath udn)
    (isConstructed (entry upnp udn)) upnp.signals
  known : ∀ signal ∈ upnp.signals,
    ∃ udn, signal.path = serverPath convertUdnToPath udn

theorem mirrorInv_dlrUpnpNew (convertUdnToPath : String → String)
    (pushHostPort : Nat) :
    MirrorInv convertUdnToPath (dlrUpnpNew pushHostPort) where
  toLocated := located_dlrUpnpNew convertUdnToPath pushHostPort
  signals udn := ⟨0, rfl, by simp [entry, dlrUpnpNew, isConstructed]⟩
  known := by simp [dlrUpnpNew]

theorem serverPath_injective {convertUdnToPath : String → String}
    (hconvert : Function.Injective convertUdnToPath) :
    Function.Injective (serverPath convertUdnToPath) := by
  intro udn other heq
  exact hconvert ((String.append_right_inj _).mp heq)

theorem signalsTell_of_other {path other : String} {constructed : Bool}
    {signals added : List Signal} (h : SignalsTell path constructed signals)
    (hother : ∀ signal ∈ added, signal.path = other) (hne : other ≠ path) :
    SignalsTell path constructed (signals ++ added) := by
  have hnone : signalsOf path added = [] := by
    apply List.filter_eq_nil_iff.mpr
    intro signal hmem
    simp [hother signal hmem, hne]
  obtain ⟨n, hsignals, hparity⟩ := h
  refine ⟨n, ?_, hparity⟩
  rw [← hsignals]
  simpa [signalsOf] using hnone

section Convert

variable {convertUdnToPath : String → String}
  (hconvert : Function.Injective convertUdnToPath)

include hconvert

theorem mirrorInv_changes {upnp next : DlrUpnp} {udn : String}
    {result : Option Entry} {ipAddresses : List String}
    (h : MirrorInv convertUdnToPath upnp)
    (hchanges : Changes upnp udn result next)
    (hfollows : Follows (serverPath convertUdnToPath udn) (entry upnp udn)
      ipAddresses result) : MirrorInv convertUdnToPath next := by
  have htransition := transition_of_follows hfollows (h.mirrored udn)
  have hpaths : ∀ signal ∈ transition (entry upnp udn) result,
      signal.path = serverPath convertUdnToPath udn := by
    intro signal hmem
    rcases htransition with ⟨-, hsignals⟩ | ⟨-, hsignals⟩
    · simp [hsignals] at hmem
    · rw [hsignals, List.mem_singleton] at hmem
      subst hmem
      split <;> rfl
  refine ⟨⟨hchanges.apart, fun other found hentry => ?_⟩, fun other => ?_, ?_⟩
  · rw [hchanges.entries] at hentry
    split_ifs at hentry with heq
    · exact heq ▸ hfollows.mirrored found hentry
    · exact h.mirrored other found hentry
  · rw [hchanges.entries, hchanges.signals]
    split_ifs with heq
    · subst heq
      rcases htransition with ⟨hsame, hsignals⟩ | ⟨hflip, hsignals⟩
      · rw [hsignals, hsame, List.append_nil]
        exact h.signals other
      · rw [hsignals, hflip]
        exact signalsTell_turn (h.signals other)
    -- the signals are on the path of another renderer
    · exact signalsTell_of_other (h.signals other) hpaths fun hpath =>
        heq (serverPath_injective hconvert hpath).symm
  · intro signal hmem
    rw [hchanges.signals] at hmem
    rcases List.mem_append.mp hmem with hmem | hmem
    · exact h.known signal hmem
    · exact ⟨udn, hpaths signal hmem⟩

theorem mirrorInv_step {upnp next : DlrUpnp} {event : UpnpEvent}
    (h : MirrorInv convertUdnToPath upnp) (hpublishes : publishes event)
    (hstep : upnpStep convertUdnToPath upnp event = some next) :
    MirrorInv convertUdnToPath next ∧
      ∀ udn, addressesOf (entry next udn) =
        addressLaw udn (addressesOf (entry upnp udn)) event := by
  rcases upnpStep_cases h.apart hstep with
    ⟨udn, htarget, hchanges⟩ | ⟨htarget, hsame⟩
  · have hfollows := follows_entryChange convertUdnToPath htarget hpublishes
      (h.mirrored udn)
    refine ⟨mirrorInv_changes hconvert h hchanges hfollows, fun other => ?_⟩
    rw [hchanges.entries]
    split_ifs with heq
    · exact heq ▸ hfollows.addresses
    · exact (addressLaw_of_other (by simp [htarget, Ne.symm heq])).symm
  · refine ⟨?_, fun other => ?_⟩
    · rw [← hsame]
      exact ⟨⟨h.apart, h.mirrored⟩, h.signals, h.known⟩
    · rw [hsame.entry_eq, addressLaw_of_other (by simp [htarget])]

end Convert

/-! ## The mirror -/

/-- What the registry says after the events. -/
structure Mirrors (events : List UpnpEvent) (upnp : DlrUpnp) : Prop where
  apart : ∀ udn, upnp.serverUdnMap.lookup udn = none ∨
    upnp.serverUcMap.lookup udn = none
  present : ∀ udn, (findDevice udn upnp).isSome ↔
    ∃ ipAddress, Announced events udn ipAddress
  contexts : ∀ udn device, findDevice udn upnp = some device →
    (addresses device).Nodup ∧
      ∀ ipAddress, ipAddress ∈ addresses device ↔
        Announced events udn ipAddress
  construction : ∀ udn construction,
    upnp.serverUcMap.lookup udn = some construction →
    construction.ipAddress ∈ addresses construction.device
  alternating : ∀ path, Alternating path (signalsOf path upnp.signals)
  renderers : ∀ path, path ∈ dlrUpnpGetServerIds upnp ↔
    (signalsOf path upnp.signals).getLast? = some (.foundServer path)
  distinct : (dlrUpnpGetServerIds upnp).Nodup

theorem mem_dlrUpnpGetServerIds_iff {convertUdnToPath : String → String}
    {upnp : DlrUpnp} (h : MirrorInv convertUdnToPath upnp) {path : String} :
    path ∈ dlrUpnpGetServerIds upnp ↔
      ∃ udn, path = serverPath convertUdnToPath udn ∧
        isConstructed (entry upnp udn) := by
  simp only [dlrUpnpGetServerIds, List.mem_map, HashTable.mem_values_iff,
    isConstructed_entry_iff]
  constructor
  · rintro ⟨device, ⟨udn, hlookup⟩, rfl⟩
    exact ⟨udn, (h.mirrored udn _ (lookup_constructed_iff.mp hlookup)).path,
      device, hlookup⟩
  · rintro ⟨udn, rfl, device, hlookup⟩
    exact ⟨device, ⟨udn, hlookup⟩,
      (h.mirrored udn _ (lookup_constructed_iff.mp hlookup)).path⟩

theorem nodup_dlrUpnpGetServerIds {convertUdnToPath : String → String}
    (hconvert : Function.Injective convertUdnToPath) {upnp : DlrUpnp}
    (h : MirrorInv convertUdnToPath upnp) :
    (dlrUpnpGetServerIds upnp).Nodup := by
  have hpaths : dlrUpnpGetServerIds upnp =
      upnp.serverUdnMap.keys.map (serverPath convertUdnToPath) := by
    simp only [dlrUpnpGetServerIds, HashTable.values, AList.keys, List.keys,
      List.map_map]
    apply List.map_congr_left
    rintro ⟨udn, device⟩ hmem
    have hlookup := HashTable.lookup_eq_some_iff.mpr hmem
    exact (h.mirrored udn _ (lookup_constructed_iff.mp hlookup)).path
  rw [hpaths]
  exact upnp.serverUdnMap.keys_nodup.map (serverPath_injective hconvert)

theorem getLast_turns (path : String) (n : Nat) :
    ((List.range n).map (turn path)).getLast? = some (.foundServer path) ↔
      n % 2 = 1 := by
  cases n with
  | zero => simp
  | succ n =>
      rw [List.range_succ, List.map_append, List.map_singleton,
        List.getLast?_concat]
      unfold turn
      split_ifs <;> simp <;> omega

theorem signalsOf_unknown {convertUdnToPath : String → String}
    {upnp : DlrUpnp} (h : MirrorInv convertUdnToPath upnp) {path : String}
    (hpath : ∀ udn, path ≠ serverPath convertUdnToPath udn) :
    signalsOf path upnp.signals = [] := by
  apply List.filter_eq_nil_iff.mpr
  intro signal hmem
  obtain ⟨udn, hsignal⟩ := h.known signal hmem
  simpa [hsignal] using (hpath udn).symm

theorem alternating_of_inv {convertUdnToPath : String → String}
    {upnp : DlrUpnp} (h : MirrorInv convertUdnToPath upnp) (path : String) :
    Alternating path (signalsOf path upnp.signals) := by
  by_cases hpath : ∃ udn, path = serverPath convertUdnToPath udn
  · obtain ⟨udn, rfl⟩ := hpath
    obtain ⟨n, hsignals, -⟩ := h.signals udn
    exact ⟨n, hsignals⟩
  · exact ⟨0, signalsOf_unknown h (not_exists.mp hpath)⟩

theorem renderers_of_inv {convertUdnToPath : String → String}
    (hconvert : Function.Injective convertUdnToPath) {upnp : DlrUpnp}
    (h : MirrorInv convertUdnToPath upnp) (path : String) :
    path ∈ dlrUpnpGetServerIds upnp ↔
      (signalsOf path upnp.signals).getLast? = some (.foundServer path) := by
  rw [mem_dlrUpnpGetServerIds_iff h]
  by_cases hpath : ∃ udn, path = serverPath convertUdnToPath udn
  · obtain ⟨udn, rfl⟩ := hpath
    obtain ⟨n, hsignals, hparity⟩ := h.signals udn
    rw [hsignals, getLast_turns, hparity]
    constructor
    · rintro ⟨other, heq, hconstructed⟩
      exact serverPath_injective hconvert heq ▸ hconstructed
    · intro hconstructed
      exact ⟨udn, rfl, hconstructed⟩
  · rw [signalsOf_unknown h (not_exists.mp hpath)]
    constructor
    · rintro ⟨udn, heq, -⟩
      exact absurd ⟨udn, heq⟩ hpath
    · simp

theorem mirrors_of_inv {convertUdnToPath : String → String}
    (hconvert : Function.Injective convertUdnToPath) {upnp : DlrUpnp}
    {events : List UpnpEvent} (h : MirrorInv convertUdnToPath upnp)
    (haddresses : ∀ udn, addressesOf (entry upnp udn) =
      events.foldl (addressLaw udn) []) : Mirrors events upnp where
  apart := h.apart
  present udn := by
    have hspec := (network_spec udn events).2
    rw [findDevice_eq_entry]
    simp only [← hspec, ← haddresses]
    cases hentry : entry upnp udn with
    | none => simp [addressesOf]
    | some found =>
        have hcontext := (h.mirrored udn found hentry).hasContext
        simpa [addressesOf] using List.exists_mem_of_ne_nil _ hcontext
  contexts udn device hdevice := by
    rw [findDevice_eq_entry] at hdevice
    obtain ⟨found, hentry, rfl⟩ := Option.map_eq_some_iff.mp hdevice
    have heq := haddresses udn
    rw [hentry] at heq
    have hspec := network_spec udn events
    rw [← heq] at hspec
    exact hspec
  construction udn construction hlookup :=
    (h.mirrored udn _ ((lookup_constructing_iff h.apart).mp hlookup)).chainContext
      _ rfl
  alternating := alternating_of_inv h
  renderers := renderers_of_inv hconvert h
  distinct := nodup_dlrUpnpGetServerIds hconvert h

/-- The registry mirrors the network after every run. -/
theorem registry_mirrors_network (convertUdnToPath : String → String)
    (hconvert : Function.Injective convertUdnToPath) (pushHostPort : Nat)
    (events : List UpnpEvent) (upnp : DlrUpnp)
    (hpublishes : ∀ event ∈ events, publishes event)
    (hrun : exec (upnpStep convertUdnToPath) (dlrUpnpNew pushHostPort) events =
      some upnp) : Mirrors events upnp := by
  have hmeets : Meets (upnpStep convertUdnToPath)
      (fun _ event => publishes event) (dlrUpnpNew pushHostPort) events :=
    meets_of_forall_mem (fun event hmem _ => hpublishes event hmem) _
  have hmirrors := exec_history
    (fun past upnp => MirrorInv convertUdnToPath upnp ∧
      ∀ udn, addressesOf (entry upnp udn) = past.foldl (addressLaw udn) [])
    ?_ ⟨mirrorInv_dlrUpnpNew convertUdnToPath pushHostPort, fun udn => ?_⟩ hrun
    hmeets
  · exact mirrors_of_inv hconvert hmirrors.1 hmirrors.2
  · rintro past upnp event next ⟨hinv, haddresses⟩ hguard hstep
    obtain ⟨hnext, hlaw⟩ := mirrorInv_step hconvert hinv hguard hstep
    refine ⟨hnext, fun udn => ?_⟩
    rw [hlaw udn, haddresses udn, List.foldl_concat]
  · simp [entry, dlrUpnpNew, addressesOf]

def comeAndGo : List UpnpEvent :=
  let answer : TaskAnswer := ⟨none, fun _ => 1⟩
  [.available "uuid:1" "10.0.0.1" fun _ => true,
   .available "uuid:1" "10.0.0.2" fun _ => true,
   .runTask "uuid:1" answer, .unavailable "uuid:1" "10.0.0.1",
   .runTask "uuid:1" answer, .runTask "uuid:1" answer, .chainEnd "uuid:1",
   .unavailable "uuid:1" "10.0.0.2"]

theorem registry_mirrors_network_come_and_go :
    ∃ upnp, exec (upnpStep id) (dlrUpnpNew 0) comeAndGo = some upnp ∧
      Mirrors comeAndGo upnp := by
  have hrun : (exec (upnpStep id) (dlrUpnpNew 0) comeAndGo).isSome := by
    decide +kernel
  obtain ⟨upnp, hexec⟩ := Option.isSome_iff_exists.mp hrun
  refine ⟨upnp, hexec, registry_mirrors_network id Function.injective_id 0
    comeAndGo upnp ?_ hexec⟩
  simp [comeAndGo, publishes]

end DleynaRenderer.Upnp
