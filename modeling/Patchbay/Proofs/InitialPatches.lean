import Patchbay.Proofs.Contest

/-!
# Initial patches are admitted as requested ones are

The patches of a topology enter the ledger under keys of their own (`Ledger.restore`), those that
clients request under fresh keys (`Ledger.accept`). The two ways in agree in all but the keys: a
ledger to which patches have been restored and one in which the same patches have been created are
equal up to a renaming (`Ledger.Renamed`), restoring another patch to the one succeeds exactly when
creating it in the other does, and afterwards they are equal up to a renaming again.
-/

namespace Patchbay

namespace Patch

/-- The patch under the key that its own is renamed to. -/
def renamed (name : Key → Key) (patch : Patch) : Patch :=
  { patch with id := name patch.id }

/-- A request to create the patch anew, under whatever key it gets. -/
def anew (patch : Patch) : Patch :=
  { patch with id := 0 }

end Patch

namespace Ledger

variable {one two one' two' : Ledger} {name : Key → Key} {configs : List Config}
  {routes usable : List Route} {limits : Limits} {patch restored created : Patch} {key last : Key}

/-- The second ledger has the patches of the first one, at the same positions, under other keys. -/
structure Renamed (name : Key → Key) (one two : Ledger) : Prop where
  patches : two.patches = one.patches.map (Patch.renamed name)
  injective : ∀ key ∈ Table.keys one.patches, ∀ other ∈ Table.keys one.patches,
    name key = name other → key = other

theorem renamed_empty : Renamed name empty empty where
  patches := rfl
  injective := nofun

theorem Renamed.keys (h : Renamed name one two) :
    Table.keys two.patches = (Table.keys one.patches).map name := by
  unfold Table.keys
  rw [h.patches, List.map_map, List.map_map]
  rfl

/-- A patch that enters both ledgers, each time under a key that is new there, is renamed from the
one key to the other. -/
theorem Renamed.enter (h : Renamed name one two) (hone : patch.id ∉ Table.keys one.patches)
    (htwo : key ∉ Table.keys two.patches) {last' : Key} :
    Renamed (fun old => if old = patch.id then key else name old)
      (one.enter patch configs last) (two.enter { patch with id := key } configs last') := by
  have hold : ∀ old ∈ Table.keys one.patches, old ≠ patch.id := by
    intro old hmem he
    exact hone (he ▸ hmem)
  have hname : ∀ old ∈ Table.keys one.patches, name old ≠ key := by
    intro old hmem he
    rw [h.keys] at htwo
    exact htwo (he ▸ List.mem_map_of_mem hmem)
  constructor
  case patches =>
    show two.patches ++ _ = (one.patches ++ [patch]).map _
    rw [h.patches, List.map_append]
    congr 1
    · refine List.map_congr_left ?_
      intro old hmem
      have hne := hold old.id (List.mem_map_of_mem hmem)
      simp [Patch.renamed, hne]
    · simp [Patch.renamed]
  case injective =>
    have hkeys : Table.keys (one.enter patch configs last).patches =
        Table.keys one.patches ++ [patch.id] := Table.keys_append _ _
    rw [hkeys]
    intro first hfirst second hsecond hsame
    rw [List.mem_append, List.mem_singleton] at hfirst hsecond
    rcases hfirst with hfirst | rfl
    · rcases hsecond with hsecond | rfl
      · simp only [if_neg (hold first hfirst), if_neg (hold second hsecond)] at hsame
        exact h.injective first hfirst second hsecond hsame
      · simp only [if_neg (hold first hfirst), if_true] at hsame
        exact absurd hsame (hname first hfirst)
    · rcases hsecond with hsecond | rfl
      · simp only [if_neg (hold second hsecond), if_true] at hsame
        exact absurd hsame.symm (hname second hsecond)
      · rfl

/-- The records of sound ledgers are renamed along with the patches, in whatever order these are. -/
theorem Sound.usage_rename (hone : one.Sound configs limits) (htwo : two.Sound configs limits)
    (h : two.patches.Perm (one.patches.map (Patch.renamed name))) :
    two.usage = one.usage.rename name := by
  refine htwo.tight.ext (hone.tight.rename name) fun new used => ?_
  rw [htwo.notes, Usage.notes_rename]
  simp only [h.mem_iff, hone.notes, List.mem_map]
  constructor
  · rintro ⟨_, ⟨patch, hmem, rfl⟩, hnew, huses⟩
    exact ⟨patch.id, ⟨patch, hmem, rfl, huses⟩, hnew⟩
  · rintro ⟨_, ⟨patch, hmem, rfl, huses⟩, hnew⟩
    exact ⟨patch.renamed name, ⟨patch, hmem, rfl⟩, hnew, huses⟩

theorem Renamed.usage (h : Renamed name one two) (hone : one.Sound configs limits)
    (htwo : two.Sound configs limits) : two.usage = one.usage.rename name :=
  hone.usage_rename htwo (.of_eq h.patches)

/-- A renaming of patches makes no sink free and none taken. -/
theorem requireFree_rename {usage : Usage} :
    requireFree (usage.rename name) usable = requireFree usage usable := by
  unfold requireFree
  simp only [Usage.isUsed_rename]

/-! ## Admitting a patch to both ledgers -/

section Admission

variable (h : Renamed name one two) (hone : one.Sound configs limits)
  (htwo : two.Sound configs limits)

include h hone htwo

/-- What can be restored to the one ledger can be created in the other. -/
theorem Renamed.accept_of_restore
    (hrestore : one.restore patch configs routes limits = .ok (restored, one'))
    (hkey : two.lastKey.next? = some key) :
    ∃ created two' name', two.accept patch.anew configs routes limits = .ok (created, two') ∧
      two'.lastKey = key ∧ Renamed name' one' two' := by
  obtain ⟨_, hnew, usable, husable, hfree, rfl, rfl⟩ := restore_eq_ok.1 hrestore
  rw [← requireFree_rename, ← h.usage hone htwo] at hfree
  have husable' : patch.anew.usableRoutes configs routes = .ok usable := husable
  let created : Patch := { patch.completed limits with id := key }
  have hcreate : two.accept patch.anew configs routes limits =
      .ok (created, two.enter created configs key) :=
    accept_eq_ok.2 ⟨usable, husable', .inl ⟨rfl, hfree, key, hkey, rfl, rfl⟩⟩
  have hcompleted : (patch.completed limits).id ∉ Table.keys one.patches := hnew
  exact ⟨_, _, _, hcreate, rfl, h.enter hcompleted (htwo.next_not_mem hkey)⟩

/-- What can be created in the one ledger can be restored to the other, if its key permits. -/
theorem Renamed.restore_of_accept
    (hcreate : two.accept patch.anew configs routes limits = .ok (created, two'))
    (hpos : 0 < patch.id) (hnew : patch.id ∉ Table.keys one.patches) :
    ∃ restored one', one.restore patch configs routes limits = .ok (restored, one') := by
  obtain ⟨usable, husable, ⟨_, hfree, _⟩ | ⟨hold, _⟩⟩ := accept_eq_ok.1 hcreate
  · rw [h.usage hone htwo, requireFree_rename] at hfree
    exact ⟨_, _, restore_eq_ok.2 ⟨hpos, hnew, usable, husable, hfree, rfl, rfl⟩⟩
  · exact absurd rfl hold

end Admission

end Ledger

namespace Bay

variable {topology : Topology} {query : ProfileQuery} {bay : Bay}

/-- Every request of the run is granted. -/
def GrantsAll (bay : Bay) (requests : List Request) : Prop :=
  ∀ answer ∈ (bay.run requests).1, answer.isOk = true

instance (bay : Bay) (requests : List Request) : Decidable (bay.GrantsAll requests) :=
  inferInstanceAs (Decidable (∀ answer ∈ (bay.run requests).1, answer.isOk = true))

theorem grantsAll_nil : bay.GrantsAll [] := by
  intro answer hmem
  cases hmem

theorem grantsAll_cons {request : Request} {rest : List Request} :
    bay.GrantsAll (request :: rest) ↔
      (bay.step request).1.isOk = true ∧ (bay.step request).2.GrantsAll rest := by
  unfold GrantsAll
  rw [run_cons, List.forall_mem_cons]

/-- Requests to create patches anew, one after the other. -/
def requestAnew (patches : List Patch) : List Request :=
  patches.map fun patch => .setPatch patch.anew

/-- Patches with keys of their own are admitted to a ledger exactly when a bay with that ledger
under other names grants all requests for them, and both get the same patches. -/
theorem admitAll_renamed (bay : Bay) {name : Key → Key} {ledger : Ledger} {patches : List Patch}
    (hnd : (Table.keys bay.graph.configs).Nodup) (h : Ledger.Renamed name ledger bay.ledger)
    (hone : ledger.Sound bay.graph.configs bay.limits)
    (htwo : bay.ledger.Sound bay.graph.configs bay.limits)
    (hpos : ∀ patch ∈ patches, 0 < patch.id) (hkeys : (Table.keys patches).Nodup)
    (hnew : ∀ patch ∈ patches, patch.id ∉ Table.keys ledger.patches)
    (hroom : bay.ledger.lastKey.toInt + patches.length < 2147483647) :
    ((∃ ledger', admitAll bay.graph bay.limits ledger patches = .ok ledger') ↔
        bay.GrantsAll (requestAnew patches)) ∧
      ∀ ledger', admitAll bay.graph bay.limits ledger patches = .ok ledger' →
        ∃ last name', (bay.run (requestAnew patches)).2 = { bay with ledger := last } ∧
          Ledger.Renamed name' ledger' last ∧ last.usage = ledger'.usage.rename name' := by
  induction patches generalizing bay ledger name with
  | nil =>
    refine ⟨⟨fun _ => grantsAll_nil, fun _ => ⟨ledger, rfl⟩⟩, ?_⟩
    intro ledger' hadmit
    cases hadmit
    exact ⟨bay.ledger, name, rfl, h, h.usage hone htwo⟩
  | cons patch rest ih =>
    rw [List.forall_mem_cons] at hpos hnew
    have hkeys' := List.nodup_cons.1 hkeys
    rw [List.length_cons] at hroom
    have hanew : requestAnew (patch :: rest) = .setPatch patch.anew :: requestAnew rest := rfl
    rw [hanew, run_cons, grantsAll_cons, isOk_setPatch_iff]
    unfold admitAll
    cases hrestore : ledger.restore patch bay.graph.configs bay.graph.routes bay.limits with
    | error fault =>
      -- both end here
      refine ⟨⟨?_, ?_⟩, ?_⟩
      · rintro ⟨_, hadmit⟩
        cases hadmit
      · rintro ⟨⟨⟨created, two⟩, hcreate⟩, _⟩
        obtain ⟨restored, one, hok⟩ := h.restore_of_accept hone htwo hcreate hpos.1 hnew.1
        rw [hrestore] at hok
        cases hok
      · intro _ hadmit
        cases hadmit
    | ok result =>
      obtain ⟨restored, one⟩ := result
      have hleft : ∃ key, bay.ledger.lastKey.next? = some key := Key.exists_next? (by omega)
      obtain ⟨key, hkey⟩ := hleft
      obtain ⟨created, two, name', hcreate, hlast, hrenamed⟩ :=
        h.accept_of_restore hone htwo hrestore hkey
      have hstep : bay.step (.setPatch patch.anew) =
          (.ok (.patch created), { bay with ledger := two }) :=
        step_of_respond (respond_setPatch_of_ok hcreate)
      have hnext := Key.toInt_of_next? hkey
      obtain ⟨_, _, _, _, _, rfl, rfl⟩ := Ledger.restore_eq_ok.1 hrestore
      have hfresh : ∀ other ∈ rest,
          other.id ∉ Table.keys (ledger.patches ++ [patch.completed bay.limits]) := by
        intro other hmem
        rw [Table.keys_append, List.mem_append, not_or]
        refine ⟨hnew.2 other hmem, ?_⟩
        intro hsame
        have hsame : other.id = patch.id := List.mem_singleton.1 hsame
        exact hkeys'.1 (Table.mem_keys.2 ⟨other, hmem, hsame⟩)
      have hroom' : two.lastKey.toInt + rest.length < 2147483647 := by
        rw [hlast]
        omega
      have hrest := ih { bay with ledger := two } hnd hrenamed
        (hone.restore hnd hrestore) (htwo.accept hnd hcreate) hpos.2 hkeys'.2 hfresh hroom'
      rw [hstep]
      refine ⟨hrest.1.trans ?_, hrest.2⟩
      exact ⟨fun hgrants => ⟨⟨_, hcreate⟩, hgrants⟩, fun hgrants => hgrants.2⟩

/-- A topology that is accepted has a bay exactly when its patches are admitted. -/
theorem ofTopology?_eq_ok_iff (hvalid : topology.validate = .ok ()) :
    ofTopology? topology query = .ok bay ↔
      ∃ ledger, admitAll (.ofTopology topology) topology.limits .empty topology.patches =
        .ok ledger ∧ start topology ledger query = bay := by
  have hchecked : topology.validate.mapError StartFault.illFormed = .ok () := by
    rw [hvalid]
    rfl
  unfold ofTopology?
  rw [hchecked]
  simp only [bind_eq_ok, pure_eq_ok, exists_const, true_and]

/-- **Initial patches are admitted as requested ones are.** A topology that is accepted is accepted
without its patches as well. It has a bay exactly when the bay without patches grants requests for
all of them, one after the other. The bay that the requests lead to is then that of the topology, in
ports, configs, initial configs, routes and all else, but for the names of its patches: it has the
same patches at the same positions under other keys, and the record of their use is renamed with
them. -/
theorem initial_patches_as_requested (hvalid : topology.validate = .ok ()) (query : ProfileQuery) :
    ∃ first, ofTopology? { topology with patches := [] } query = .ok first ∧
      ((∃ bay, ofTopology? topology query = .ok bay) ↔
        first.GrantsAll (requestAnew topology.patches)) ∧
      ∀ bay, ofTopology? topology query = .ok bay →
        ∃ last name,
          (first.run (requestAnew topology.patches)).2 = { bay with ledger := last } ∧
          Ledger.Renamed name bay.ledger last ∧ last.usage = bay.ledger.usage.rename name := by
  have hwf := Topology.wellFormed_of_validate hvalid
  have hempty := Ledger.sound_empty topology.configs topology.limits
  obtain ⟨hpos, hkeys⟩ := Topology.patches_of_validate hvalid
  have hroom : (0 : Key).toInt + topology.patches.length < 2147483647 := by
    have hlength := Topology.length_patches_of_validate hvalid
    have hzero : (0 : Key).toInt = 0 := rfl
    omega
  let first := start { topology with patches := [] } .empty query
  have hfirst : ofTopology? { topology with patches := [] } query = .ok first :=
    (ofTopology?_eq_ok_iff (Topology.validate_withoutPatches hvalid)).2 ⟨_, rfl, rfl⟩
  -- without patches there is nothing to rename
  have hrenamed : Ledger.Renamed id Ledger.empty first.ledger := Ledger.renamed_empty
  have hnew : ∀ patch ∈ topology.patches, patch.id ∉ Table.keys Ledger.empty.patches :=
    fun _ _ => List.not_mem_nil
  obtain ⟨hiff, hadmitted⟩ := admitAll_renamed first hwf.configs_nodup hrenamed hempty hempty hpos
    hkeys hnew hroom
  refine ⟨first, hfirst, ?_, ?_⟩
  · rw [← hiff]
    constructor
    · rintro ⟨bay, hbay⟩
      obtain ⟨ledger, hledger, _⟩ := (ofTopology?_eq_ok_iff hvalid).1 hbay
      exact ⟨ledger, hledger⟩
    · rintro ⟨ledger, hledger⟩
      exact ⟨_, (ofTopology?_eq_ok_iff hvalid).2 ⟨ledger, hledger, rfl⟩⟩
  · intro bay hbay
    obtain ⟨ledger, hledger, rfl⟩ := (ofTopology?_eq_ok_iff hvalid).1 hbay
    exact hadmitted ledger hledger

/-- The built-in topology with three patches under keys in no order: ordinary output to the speaker,
once by itself and once together with a second config, and the microphone to the primary input. -/
def patchedTopology : Topology :=
  { Topology.builtIn with
    configs := Topology.builtIn.configs ++
      [{ Config.blank with id := 20, portId := 3 }, { Config.blank with id := 21, portId := 3 },
        { Config.blank with id := 22, portId := 5 }]
    patches :=
      [{ Patch.request [20] [1] with id := 7 }, { Patch.request [2] [22] with id := 40 },
        { Patch.request [20, 21] [1] with id := 5 }] }

/-- The three requests are granted under keys that count from one, and so the topology has a bay
with the same patches under its own keys. -/
theorem patchedTopology_patches_as_requested :
    patchedTopology.validate = .ok () ∧
      ∃ first bay last name,
        ofTopology? { patchedTopology with patches := [] } .unavailable = .ok first ∧
        ofTopology? patchedTopology .unavailable = .ok bay ∧
        (first.run (requestAnew patchedTopology.patches)).2 = { bay with ledger := last } ∧
        Ledger.Renamed name bay.ledger last ∧ Table.keys last.patches = [1, 2, 3] := by
  have hvalid : patchedTopology.validate = .ok () := rfl
  obtain ⟨first, hfirst, hiff, hrenamed⟩ := initial_patches_as_requested hvalid .unavailable
  cases hfirst
  obtain ⟨bay, hbay⟩ := hiff.2 (by decide)
  obtain ⟨last, name, hrun, h, _⟩ := hrenamed bay hbay
  refine ⟨hvalid, _, bay, last, name, rfl, hbay, hrun, h, ?_⟩
  have hlast : last = ((start { patchedTopology with patches := [] } .empty .unavailable).run
      (requestAnew patchedTopology.patches)).2.ledger := (congrArg Bay.ledger hrun).symm
  rw [hlast]
  decide

end Bay

end Patchbay
