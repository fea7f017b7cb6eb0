import Patchbay.Proofs.SoundBay

/-!
# Keys are never used again

Ports and port configs share one counter, patches have another. A counter never goes back
(`Bay.run_lastKeys_le`), not when entries are removed and not when requests fail, and no key that is
in use is above its counter. So a key that is given to a new entry is greater than all keys of
its space that any entry has ever had, those of the topology included, and no two entries can be
confused. When a counter has reached the greatest key, requests that need a new one are refused.
-/

namespace Patchbay

/-- The keys of the ports and port configs. -/
def Graph.keys (graph : Graph) : List Key :=
  Table.keys graph.ports ++ Table.keys graph.configs

/-- Keys in use are up to the last one. -/
theorem Graph.Grown.key_last {topology : Topology} {graph : Graph} (h : graph.Grown topology) :
    ∀ key ∈ graph.keys, key ≤ graph.lastKey := by
  intro key hkey
  rcases List.mem_append.1 hkey with hkey | hkey
  · exact h.port_last hkey
  · rw [keys_configs] at hkey
    obtain ⟨place, hplace, rfl⟩ := List.mem_map.1 hkey
    exact h.place_last place hplace

namespace Bay

/-- The key that a granted request has given to a new port or port config. -/
def newPortKey? : Request → Except Fault Answer → Option Key
  | .setConfig request, .ok (.config config true) => if request.id = 0 then some config.id else none
  | .connect _, .ok (.port port) => some port.id
  | _, _ => none

/-- The key that a granted request has given to a new patch. -/
def newPatchKey? : Request → Except Fault Answer → Option Key
  | .setPatch request, .ok (.patch patch) => if request.id = 0 then some patch.id else none
  | _, _ => none

variable {topology : Topology} {query : ProfileQuery} {bay next : Bay} {request : Request}
  {answer : Answer} {config : Config} {key : Key}

/-! ## New keys -/

/-- Only a config that is created gets a key. -/
theorem newPortKey?_setConfig {request : Config} :
    newPortKey? (.setConfig request) (.ok answer) = some key ↔
      request.id = 0 ∧ ∃ config, answer = .config config true ∧ config.id = key := by
  unfold newPortKey?
  grind

theorem newPatchKey?_setPatch {request : Patch} :
    newPatchKey? (.setPatch request) (.ok answer) = some key ↔
      request.id = 0 ∧ ∃ patch, answer = .patch patch ∧ patch.id = key := by
  unfold newPatchKey?
  grind

/-- A new port or config gets the key after the last one. -/
theorem Effect.next_of_newPortKey? (he : Effect bay request answer next)
    (h : newPortKey? request (.ok answer) = some key) : bay.graph.lastKey.next? = some key := by
  cases he with
  | suggest _ _ _ =>
    obtain ⟨_, config, hanswer, _⟩ := newPortKey?_setConfig.1 h
    cases hanswer
  | updateConfig hid _ _ _ _ => exact absurd (newPortKey?_setConfig.1 h).1 hid
  | createConfig _ _ _ _ hkey =>
    obtain ⟨_, config, hanswer, rfl⟩ := newPortKey?_setConfig.1 h
    cases hanswer
    exact hkey
  | connect hconnect =>
    cases h
    exact (Graph.connect_eq_withDevice hconnect).2.1
  | _ => cases h

/-- A new patch gets the key after the last one. -/
theorem Effect.next_of_newPatchKey? (he : Effect bay request answer next)
    (h : newPatchKey? request (.ok answer) = some key) : bay.ledger.lastKey.next? = some key := by
  cases he with
  | setPatch haccept =>
    obtain ⟨hid, patch, hanswer, rfl⟩ := newPatchKey?_setPatch.1 h
    cases hanswer
    obtain ⟨_, _, ⟨_, _, last, hlast, rfl, _⟩ | ⟨hne, _⟩⟩ := Ledger.accept_eq_ok.1 haccept
    · exact hlast
    · exact absurd hid hne
  | _ => cases h

/-- Faults give no keys. -/
theorem newPortKey?_error (request : Request) (fault : Fault) :
    newPortKey? request (.error fault) = none := by
  cases request <;> rfl

theorem newPatchKey?_error (request : Request) (fault : Fault) :
    newPatchKey? request (.error fault) = none := by
  cases request <;> rfl

/-- A key that is given for answers only comes with an answer. -/
theorem respond_of_key {given : Except Fault Answer → Option Key}
    (hfault : ∀ fault, given (.error fault) = none) (h : given (bay.step request).1 = some key) :
    ∃ answer next, bay.respond request = .ok (answer, next) ∧ given (.ok answer) = some key := by
  rw [step_eq_settle] at h
  cases hrespond : bay.respond request with
  | ok result =>
    rw [hrespond] at h
    exact ⟨result.1, result.2, rfl, h⟩
  | error fault =>
    have hnone : given (Action.settle bay (.error fault)).1 = none := hfault fault
    rw [hrespond, hnone] at h
    cases h

/-- The key of a new port or config is greater than the last one. -/
theorem lastKey_lt_of_newPortKey? (h : newPortKey? request (bay.step request).1 = some key) :
    bay.graph.lastKey < key := by
  obtain ⟨answer, next, hrespond, hkey⟩ := respond_of_key (newPortKey?_error request) h
  exact Key.lt_of_next? ((effect_of_respond hrespond).next_of_newPortKey? hkey)

/-- The key of a new patch is greater than the last one. -/
theorem lastKey_lt_of_newPatchKey? (h : newPatchKey? request (bay.step request).1 = some key) :
    bay.ledger.lastKey < key := by
  obtain ⟨answer, next, hrespond, hkey⟩ := respond_of_key (newPatchKey?_error request) h
  exact Key.lt_of_next? ((effect_of_respond hrespond).next_of_newPatchKey? hkey)

/-! ## The counters -/

/-- The counters never go back. -/
theorem Effect.lastKeys_le (he : Effect bay request answer next) :
    bay.graph.lastKey ≤ next.graph.lastKey ∧ bay.ledger.lastKey ≤ next.ledger.lastKey := by
  cases he with
  | createConfig _ _ _ _ hkey => exact ⟨Int32.le_of_lt (Key.lt_of_next? hkey), Int32.le_refl _⟩
  | setPatch haccept =>
    refine ⟨Int32.le_refl _, ?_⟩
    obtain ⟨_, _, ⟨_, _, last, hlast, _, rfl⟩ | ⟨_, _, _, _, rfl⟩⟩ := Ledger.accept_eq_ok.1 haccept
    · exact Int32.le_of_lt (Key.lt_of_next? hlast)
    · exact Int32.le_refl _
  | resetPatch hreset =>
    obtain ⟨_, rfl⟩ := Ledger.reset_eq_ok.1 hreset
    exact ⟨Int32.le_refl _, Int32.le_refl _⟩
  | connect hconnect =>
    obtain ⟨_, hkey, _, rfl⟩ := Graph.connect_eq_withDevice hconnect
    exact ⟨Int32.le_of_lt (Key.lt_of_next? hkey), Int32.le_refl _⟩
  | disconnect hdisconnect =>
    obtain ⟨_, _, _, rfl⟩ := Graph.disconnect_eq_ok.1 hdisconnect
    exact ⟨Int32.le_refl _, Int32.le_refl _⟩
  | _ => exact ⟨Int32.le_refl _, Int32.le_refl _⟩

theorem run_lastKeys_le (bay : Bay) (requests : List Request) :
    bay.graph.lastKey ≤ (bay.run requests).2.graph.lastKey ∧
      bay.ledger.lastKey ≤ (bay.run requests).2.ledger.lastKey := by
  induction requests generalizing bay with
  | nil => exact ⟨Int32.le_refl _, Int32.le_refl _⟩
  | cons request rest ih =>
    have hstep : bay.graph.lastKey ≤ (bay.step request).2.graph.lastKey ∧
        bay.ledger.lastKey ≤ (bay.step request).2.ledger.lastKey :=
      step_induction ⟨Int32.le_refl _, Int32.le_refl _⟩ fun _ _ he => he.lastKeys_le
    have hrest := ih (bay.step request).2
    rw [run_cons]
    exact ⟨Int32.le_trans hstep.1 hrest.1, Int32.le_trans hstep.2 hrest.2⟩

/-! ## Exhausted keys -/

/-- The bay with other counters. -/
def withLastKeys (bay : Bay) (port patch : Key) : Bay :=
  { bay with
    graph := { bay.graph with lastKey := port }
    ledger := { bay.ledger with lastKey := patch } }

section Exhaustion

variable {port patch : Key}

/-- A suggestion for a new config that would be stored with other counters finds no key when the
keys of ports are exhausted. -/
theorem settleConfig_exhausted {suggestion : Suggestion} {other : Bay}
    (h : other.settleConfig false suggestion = .ok (.config config true, next))
    (hlast : bay.graph.lastKey.next? = none) :
    bay.settleConfig false suggestion = .error (.noPortKeysLeft bay.graph.lastKey) := by
  unfold settleConfig at h ⊢
  by_cases happlies : suggestion.applies false = true
  · rw [if_pos happlies, if_neg Bool.false_ne_true, bind_eq_error]
    exact .inl (present_eq_error.2 ⟨hlast, rfl⟩)
  · rw [if_neg happlies] at h
    cases h

/-- A request that would get a new port key with other counters is refused when the keys of ports
are exhausted. -/
theorem respond_portKeys_exhausted (hlast : bay.graph.lastKey.next? = none)
    (h : (bay.withLastKeys port patch).respond request = .ok (answer, next))
    (hkey : newPortKey? request (.ok answer) = some key) :
    bay.respond request = .error (.noPortKeysLeft bay.graph.lastKey) := by
  cases request with
  | setConfig request =>
    obtain ⟨hid, config, rfl, _⟩ := newPortKey?_setConfig.1 hkey
    simp only [respond, bind_eq_ok, require_eq_ok, present_eq_ok] at h
    obtain ⟨current, hcurrent, _, hport, entry, hentry, suggestion, hsuggest, h⟩ := h
    -- up to the suggestion the counters are not looked at
    have hcurrent : bay.requestedConfig request = .ok current := hcurrent
    have hentry : Table.find? bay.graph.ports (current.getD request).portId = some entry := hentry
    rcases requestedConfig_eq_ok.1 hcurrent with ⟨_, rfl⟩ | ⟨hne, _⟩
    · simp only [respond, bind_eq_error]
      exact .inr ⟨none, hcurrent, .inr ⟨(), require_eq_ok.2 hport, .inr ⟨entry,
        present_eq_ok.2 hentry, .inr ⟨suggestion, hsuggest, settleConfig_exhausted h hlast⟩⟩⟩⟩
    · exact absurd hid hne
  | connect template =>
    simp only [respond, bind_eq_ok] at h
    obtain ⟨⟨port, graph⟩, hconnect, _⟩ := h
    simp only [respond, bind_eq_error]
    exact .inl (Graph.connect_exhausted hconnect hlast)
  | _ => cases hkey

/-- A request that would get a new patch key with other counters is refused when the keys of
patches are exhausted. -/
theorem respond_patchKeys_exhausted (hlast : bay.ledger.lastKey.next? = none)
    (h : (bay.withLastKeys port patch).respond request = .ok (answer, next))
    (hkey : newPatchKey? request (.ok answer) = some key) :
    bay.respond request = .error (.noPatchKeysLeft bay.ledger.lastKey) := by
  cases request with
  | setPatch request =>
    obtain ⟨hid, _⟩ := newPatchKey?_setPatch.1 hkey
    simp only [respond, bind_eq_ok] at h
    obtain ⟨⟨patch, ledger⟩, haccept, _⟩ := h
    simp only [respond, bind_eq_error]
    exact .inl (Ledger.accept_exhausted haccept hid hlast)
  | _ => cases hkey

theorem step_portKeys_exhausted (hlast : bay.graph.lastKey.next? = none)
    (h : newPortKey? request ((bay.withLastKeys port patch).step request).1 = some key) :
    bay.step request = (.error (.noPortKeysLeft bay.graph.lastKey), bay) := by
  obtain ⟨answer, next, hrespond, hkey⟩ := respond_of_key (newPortKey?_error request) h
  rw [step_eq_settle, respond_portKeys_exhausted hlast hrespond hkey]
  rfl

theorem step_patchKeys_exhausted (hlast : bay.ledger.lastKey.next? = none)
    (h : newPatchKey? request ((bay.withLastKeys port patch).step request).1 = some key) :
    bay.step request = (.error (.noPatchKeysLeft bay.ledger.lastKey), bay) := by
  obtain ⟨answer, next, hrespond, hkey⟩ := respond_of_key (newPatchKey?_error request) h
  rw [step_eq_settle, respond_patchKeys_exhausted hlast hrespond hkey]
  rfl

end Exhaustion

/-! ## Keys of a run -/

/-- A port or port config had the key at some time of the run, its start and end included. -/
def HadPortKey (bay : Bay) (requests : List Request) (key : Key) : Prop :=
  ∃ done, done <+: requests ∧ key ∈ (bay.run done).2.graph.keys

/-- A patch had the key at some time of the run, its start and end included. -/
def HadPatchKey (bay : Bay) (requests : List Request) (key : Key) : Prop :=
  ∃ done, done <+: requests ∧ key ∈ Table.keys (bay.run done).2.ledger.patches

/-- Keys name at most one entry each, but for a config that may share the key of its port. -/
structure KeysApart (bay : Bay) : Prop where
  ports : (Table.keys bay.graph.ports).Nodup
  configs : (Table.keys bay.graph.configs).Nodup
  patches : (Table.keys bay.ledger.patches).Nodup
  shared : ∀ config ∈ bay.graph.configs, ∀ port ∈ bay.graph.ports,
    config.id = port.id → config.portId = port.id

theorem Reachable.keysApart (h : Reachable topology query bay) : bay.KeysApart where
  ports := h.sound.graph.ports_nodup h.wellFormed
  configs := h.sound.graph.configs_nodup
  patches := h.sound.ledger.keys_nodup
  shared config hconfig port hport he := by
    have hkey : config.id ∈ Table.keys bay.graph.ports :=
      Table.mem_keys.2 ⟨port, hport, he.symm⟩
    have hsame : config.id = config.portId :=
      h.sound.graph.place_apart config.place (List.mem_map_of_mem hconfig) hkey
    rw [← hsame]
    exact he

/-- The counter is at least as great as every key that a port or config has had. -/
theorem Reachable.hadPortKey_le (h : Reachable topology query bay) {requests : List Request}
    (hkey : HadPortKey bay requests key) : key ≤ (bay.run requests).2.graph.lastKey := by
  obtain ⟨done, ⟨rest, rfl⟩, hmem⟩ := hkey
  have hthen := (h.run done).sound.graph.key_last key hmem
  rw [run_append]
  exact Int32.le_trans hthen (run_lastKeys_le _ rest).1

/-- The counter is at least as great as every key that a patch has had. -/
theorem Reachable.hadPatchKey_le (h : Reachable topology query bay) {requests : List Request}
    (hkey : HadPatchKey bay requests key) : key ≤ (bay.run requests).2.ledger.lastKey := by
  obtain ⟨done, ⟨rest, rfl⟩, hmem⟩ := hkey
  have hthen := (h.run done).sound.ledger.keys_last key hmem
  rw [run_append]
  exact Int32.le_trans hthen (run_lastKeys_le _ rest).2

/-- **Keys are fresh for ever.** After any run from a topology, a new port or config gets a key
greater than those of all ports and configs that there have ever been, and a new patch one greater
than those of all patches. When a counter has reached the greatest key, a request that would get a
key with any other counters fails and changes nothing. So no two entries are named by one key, but
for a config that has the key of its own port. -/
theorem keys_fresh_for_ever (hstart : ofTopology? topology query = .ok bay)
    (requests : List Request) :
    (∀ request key, newPortKey? request ((bay.run requests).2.step request).1 = some key →
      ∀ old, HadPortKey bay requests old → old < key) ∧
    (∀ request key, newPatchKey? request ((bay.run requests).2.step request).1 = some key →
      ∀ old, HadPatchKey bay requests old → old < key) ∧
    (∀ request port patch key, (bay.run requests).2.graph.lastKey = Int32.maxValue →
      newPortKey? request (((bay.run requests).2.withLastKeys port patch).step request).1 =
        some key →
      ∃ fault, (bay.run requests).2.step request = (.error fault, (bay.run requests).2) ∧
        fault.kind = .illegalState) ∧
    (∀ request port patch key, (bay.run requests).2.ledger.lastKey = Int32.maxValue →
      newPatchKey? request (((bay.run requests).2.withLastKeys port patch).step request).1 =
        some key →
      ∃ fault, (bay.run requests).2.step request = (.error fault, (bay.run requests).2) ∧
        fault.kind = .illegalState) ∧
    (bay.run requests).2.KeysApart := by
  have hreach : Reachable topology query bay := .start hstart
  refine ⟨?_, ?_, ?_, ?_, (hreach.run requests).keysApart⟩
  · intro request key hkey old hold
    exact Int32.lt_of_le_of_lt (hreach.hadPortKey_le hold) (lastKey_lt_of_newPortKey? hkey)
  · intro request key hkey old hold
    exact Int32.lt_of_le_of_lt (hreach.hadPatchKey_le hold) (lastKey_lt_of_newPatchKey? hkey)
  · intro request port patch key hlast hkey
    exact ⟨_, step_portKeys_exhausted (Key.next?_eq_none.2 hlast) hkey, rfl⟩
  · intro request port patch key hlast hkey
    exact ⟨_, step_patchKeys_exhausted (Key.next?_eq_none.2 hlast) hkey, rfl⟩

/-- The built-in topology with a spare mix port that has the last key but one, and with a patch
from the primary output to the speaker that has the last key but one as well. -/
def nearlyFull : Topology :=
  { Topology.builtIn with
    ports := Topology.BuiltIn.ports ++
      [Topology.BuiltIn.mixPort 2147483646 "spare" ⟨.output, 0⟩ 0 []]
    configs := Topology.builtIn.configs ++ [{ Config.blank with id := 20, portId := 3 }]
    patches := [{ Patch.request [20] [1] with id := 2147483646 }] }

/-- The bay of `nearlyFull`. -/
def nearlyFullBay : Bay :=
  start nearlyFull
    (Ledger.empty.enter
      ({ Patch.request [20] [1] with id := 2147483646 }.completed nearlyFull.limits)
      nearlyFull.configs 2147483646)
    .unavailable

/-- The last keys are given away, one to a device that goes again, and one to a patch. -/
def lastKeysUsed : List Request :=
  [.setDebug .simulated, .plug 6 1, .disconnect 2147483647, .setPatch (.request [20] [1])]

theorem nearlyFull_keys_fresh :
    ofTopology? nearlyFull .unavailable = .ok nearlyFullBay ∧
      (∀ old, HadPortKey nearlyFullBay [.setDebug .simulated] old → old < 2147483647) ∧
      (∀ old, HadPatchKey nearlyFullBay [] old → old < 2147483647) ∧
      (∃ fault, (nearlyFullBay.run lastKeysUsed).2.step (.plug 6 2) =
        (.error fault, (nearlyFullBay.run lastKeysUsed).2) ∧ fault.kind = .illegalState) ∧
      ∃ fault, (nearlyFullBay.run lastKeysUsed).2.step (.setPatch (.request [20] [1])) =
        (.error fault, (nearlyFullBay.run lastKeysUsed).2) ∧ fault.kind = .illegalState := by
  have hstart : ofTopology? nearlyFull .unavailable = .ok nearlyFullBay := rfl
  have hport := (keys_fresh_for_ever hstart [.setDebug .simulated]).1 (.plug 6 1) 2147483647
    (by decide)
  have hpatch := (keys_fresh_for_ever hstart []).2.1 (.setPatch (.request [20] [1])) 2147483647
    (by decide)
  obtain ⟨_, _, hportLast, hpatchLast, _⟩ := keys_fresh_for_ever hstart lastKeysUsed
  refine ⟨hstart, hport, hpatch, ?_, ?_⟩
  · exact hportLast (.plug 6 2) 100 100 101 (by decide) (by decide)
  · exact hpatchLast (.setPatch (.request [20] [1])) 100 100 101 (by decide) (by decide)

end Bay

end Patchbay
