import Patchbay.Proofs.Contest

/-!
# The exact admission of patches

Whether a patch is admitted is read off the tables: the ledger consults its record of usage, but the
record says what the patches say, and the key of a port is never that of a config of another port.
A request is either at fault itself (`Ledger.Misasked`), or stands back behind what is there
(`Ledger.Withheld`), or is granted; `Bay.patch_admission_exact` says so for every reachable bay, with
the class of the fault in the first two cases and with the new table of patches in the third.

A patch that is updated does not stand in its own way. For a new one the request has the key zero,
which no patch has (`Ledger.Positive`), so that in both cases the patches with other keys count.
-/

namespace Patchbay

namespace Patch

variable {configs : List Config} {routes usable : List Route} {request patch : Patch} {port : Key}
  {fault : Fault}

/-- The patch has a config of the port among its sources or sinks. -/
def UsesPort (configs : List Config) (patch : Patch) (port : Key) : Prop :=
  ∃ config ∈ configs, config.id ∈ patch.configs ∧ config.portId = port

instance (configs : List Config) (patch : Patch) (port : Key) :
    Decidable (patch.UsesPort configs port) :=
  inferInstanceAs (Decidable
    (∃ config ∈ configs, config.id ∈ patch.configs ∧ config.portId = port))

/-- When the key of the port is that of no config of another port, to use it is to have one of its
configs. -/
theorem uses_iff_usesPort
    (hapart : ∀ config ∈ configs, config.id = port → config.portId = port) :
    patch.Uses configs port ↔ patch.UsesPort configs port := by
  constructor
  · rintro ⟨config, hmem, hnamed, hkey | hport⟩
    · exact ⟨config, hmem, hnamed, hapart config hmem hkey⟩
    · exact ⟨config, hmem, hnamed, hport⟩
  · rintro ⟨config, hmem, hnamed, hport⟩
    exact ⟨config, hmem, hnamed, .inr hport⟩

/-- Without usable routes it is the request that is at fault. -/
theorem kind_of_usableRoutes_error (h : request.usableRoutes configs routes = .error fault) :
    fault.kind = .invalidArgument := by
  unfold usableRoutes at h
  simp only [bind_eq_error, require_eq_error, require_eq_ok] at h
  rcases h with ⟨_, rfl⟩ | ⟨_, _, ⟨_, rfl⟩ | ⟨_, _, ⟨_, rfl⟩ | ⟨_, _, ⟨_, rfl⟩ | ⟨_, _, ⟨_, rfl⟩ |
    ⟨_, _, ⟨_, rfl⟩ | ⟨_, _, h⟩⟩⟩⟩⟩⟩
  case inr =>
    split at h
    · cases h
      rfl
    · cases h
  all_goals rfl

end Patch

namespace Ledger

/-- What can be wrong with a request for a patch by itself: a list is empty or repeats a key, a
config or the patch does not exist, or a sink is out of reach. -/
inductive Misasked (configs : List Config) (routes : List Route) (ledger : Ledger)
    (request : Patch) : Prop
  | sourcesEmpty : request.sources = [] → Misasked configs routes ledger request
  | sourcesRepeated : ¬ request.sources.Nodup → Misasked configs routes ledger request
  | sinksEmpty : request.sinks = [] → Misasked configs routes ledger request
  | sinksRepeated : ¬ request.sinks.Nodup → Misasked configs routes ledger request
  | configUnknown {key : Key} : key ∈ request.configs → key ∉ Table.keys configs →
      Misasked configs routes ledger request
  | sinkUnreached {sink : Config} : sink ∈ configs → sink.id ∈ request.sinks →
      ¬ request.Reaches configs routes sink.portId → Misasked configs routes ledger request
  | patchUnknown : request.id ≠ 0 → request.id ∉ Table.keys ledger.patches →
      Misasked configs routes ledger request

/-- What can stand in the way of a request for a patch: a patch with another key uses a port to
which all routes from the sources are exclusive, or no key is left for a new patch. -/
inductive Withheld (configs : List Config) (routes : List Route) (ledger : Ledger)
    (request : Patch) : Prop
  | portTaken {port : Key} {other : Patch} : request.Reaches configs routes port →
      request.OnlyExclusive configs routes port → other ∈ ledger.patches →
      other.id ≠ request.id → other.UsesPort configs port → Withheld configs routes ledger request
  | keysExhausted : request.id = 0 → ledger.lastKey = Int32.maxValue →
      Withheld configs routes ledger request

variable {configs : List Config} {routes usable : List Route} {limits : Limits}
  {ledger next : Ledger} {request patch : Patch} {fault : Fault} {key : Key}

theorem not_misasked_iff (hnd : (Table.keys configs).Nodup) :
    ¬ ledger.Misasked configs routes request ↔
      request.Listed configs ∧ request.Supplied configs routes ∧
        (request.id ≠ 0 → request.id ∈ Table.keys ledger.patches) := by
  constructor
  · intro h
    have hknown : ∀ key ∈ request.configs, key ∈ Table.keys configs := by
      intro key hkey
      exact Decidable.byContradiction fun hunknown => h (.configUnknown hkey hunknown)
    refine ⟨⟨?_, ?_, ?_, ?_, ?_, ?_⟩, ?_, ?_⟩
    · exact fun hempty => h (.sourcesEmpty hempty)
    · exact Decidable.byContradiction fun hrepeated => h (.sourcesRepeated hrepeated)
    · exact fun hempty => h (.sinksEmpty hempty)
    · exact Decidable.byContradiction fun hrepeated => h (.sinksRepeated hrepeated)
    · exact fun key hkey => hknown key (List.mem_append_left _ hkey)
    · exact fun key hkey => hknown key (List.mem_append_right _ hkey)
    · intro key hkey
      obtain ⟨sink, hsink, hid⟩ := Table.mem_keys.1 (hknown key (List.mem_append_right _ hkey))
      have hid : sink.id = key := hid
      have hreached := Classical.byContradiction fun hunreached =>
        h (.sinkUnreached hsink (hid ▸ hkey) hunreached)
      exact ⟨sink, hsink, hid, hreached⟩
    · intro hold
      exact Decidable.byContradiction fun hunknown => h (.patchUnknown hold hunknown)
  · rintro ⟨hlisted, hsupplied, hpatch⟩ h
    cases h with
    | sourcesEmpty hempty => exact hlisted.sources_ne hempty
    | sourcesRepeated hrepeated => exact hrepeated hlisted.sources_nodup
    | sinksEmpty hempty => exact hlisted.sinks_ne hempty
    | sinksRepeated hrepeated => exact hrepeated hlisted.sinks_nodup
    | configUnknown hkey hunknown =>
      rcases List.mem_append.1 hkey with hkey | hkey
      · exact hunknown (hlisted.sources_mem _ hkey)
      · exact hunknown (hlisted.sinks_mem _ hkey)
    | @sinkUnreached sink hsink hkey hunreached =>
      obtain ⟨other, hother, hid, hreached⟩ := hsupplied _ hkey
      have hfound := Table.find?_of_mem hnd hsink
      have hid : Keyed.key other = Keyed.key sink := hid
      rw [← hid, Table.find?_of_mem hnd hother] at hfound
      cases hfound
      exact hunreached hreached
    | patchUnknown hold hunknown => exact hunknown (hpatch hold)

/-! ## Positive keys -/

/-- The keys of patches are positive, and so is every key that comes next. -/
def Positive (ledger : Ledger) : Prop :=
  0 ≤ ledger.lastKey ∧ ∀ key ∈ Table.keys ledger.patches, 0 < key

theorem Positive.enter (h : ledger.Positive) {last : Key} (hpatch : 0 < patch.id)
    (hlast : 0 ≤ last) : (ledger.enter patch configs last).Positive := by
  have hkeys : Table.keys (ledger.enter patch configs last).patches =
      Table.keys ledger.patches ++ [patch.id] := Table.keys_append _ _
  refine ⟨hlast, ?_⟩
  rw [hkeys, List.forall_mem_append, List.forall_mem_singleton]
  exact ⟨h.2, hpatch⟩

theorem Positive.accept (h : ledger.Positive)
    (haccept : ledger.accept request configs routes limits = .ok (patch, next)) :
    next.Positive := by
  obtain ⟨_, _, hcases⟩ := accept_eq_ok.1 haccept
  rcases hcases with ⟨_, _, key, hkey, rfl, rfl⟩ | ⟨_, _, _, rfl, rfl⟩
  · have hlt : 0 < key := Int32.lt_of_le_of_lt h.1 (Key.lt_of_next? hkey)
    exact h.enter hlt (Int32.le_of_lt hlt)
  · have hkeys : Table.keys (ledger.update (request.completed limits) configs).patches =
        Table.keys ledger.patches := Table.keys_replace
    refine ⟨h.1, ?_⟩
    rw [hkeys]
    exact h.2

theorem Positive.restore (h : ledger.Positive)
    (hrestore : ledger.restore request configs routes limits = .ok (patch, next)) :
    next.Positive := by
  obtain ⟨hpos, _, _, _, _, rfl, rfl⟩ := restore_eq_ok.1 hrestore
  exact h.enter hpos (Int32.le_trans h.1 Std.left_le_max)

theorem Positive.reset (h : ledger.Positive) (hreset : ledger.reset key = .ok next) :
    next.Positive := by
  obtain ⟨_, rfl⟩ := reset_eq_ok.1 hreset
  refine ⟨h.1, ?_⟩
  show ∀ name ∈ Table.keys (Table.remove ledger.patches key), 0 < name
  rw [Table.keys_remove]
  intro name hname
  exact h.2 name (List.mem_of_mem_erase hname)

/-! ## The three outcomes -/

/-- What is in use by patches with other keys than that of the request. -/
def othersUsage (ledger : Ledger) (request : Patch) : Usage :=
  if request.id = 0 then ledger.usage else ledger.usage.release request.id

theorem isUsed_othersUsage_iff (hsound : ledger.Sound configs limits) (hpositive : ledger.Positive) :
    (ledger.othersUsage request).isUsed key = true ↔
      ∃ patch, (patch ∈ ledger.patches ∧ patch.id ≠ request.id) ∧ patch.Uses configs key := by
  unfold othersUsage
  split
  · rename_i hnew
    rw [hsound.isUsed_iff]
    refine exists_congr fun patch => and_congr_left fun _ => ?_
    rw [iff_self_and]
    intro hpatch hid
    have hpos : 0 < patch.id := hpositive.2 _ (List.mem_map_of_mem hpatch)
    rw [hid, hnew] at hpos
    exact Int32.lt_irrefl hpos
  · rw [hsound.isUsed_release_iff]
    simp only [and_assoc]

/-- The routes of a request are free exactly when no patch with another key uses a port to which
they are all exclusive. -/
theorem requireFree_othersUsage_iff (hsound : ledger.Sound configs limits)
    (hpositive : ledger.Positive) (hnd : (Table.keys configs).Nodup)
    (hapart : ∀ route ∈ routes, ∀ config ∈ configs, config.id = route.sink →
      config.portId = route.sink)
    (husable : request.usableRoutes configs routes = .ok usable) :
    requireFree (ledger.othersUsage request) usable = .ok () ↔
      ¬ ∃ port other, request.Reaches configs routes port ∧
        request.OnlyExclusive configs routes port ∧ other ∈ ledger.patches ∧
        other.id ≠ request.id ∧ other.UsesPort configs port := by
  have hport : ∀ {port : Key} {other : Patch}, request.Reaches configs routes port →
      (other.Uses configs port ↔ other.UsesPort configs port) := by
    rintro _ other ⟨route, hroute, rfl, _⟩
    exact Patch.uses_iff_usesPort (hapart route hroute)
  rw [requireFree_iff_not_barred (fun _ => isUsed_othersUsage_iff hsound hpositive) hnd husable]
  constructor
  · rintro hfree ⟨port, other, hreaches, hexclusive, hother, hne, huses⟩
    exact hfree other ⟨hother, hne⟩ ⟨port, hreaches, hexclusive, (hport hreaches).2 huses⟩
  · rintro hfree other ⟨hother, hne⟩ ⟨port, hreaches, hexclusive, huses⟩
    exact hfree ⟨port, other, hreaches, hexclusive, hother, hne, (hport hreaches).1 huses⟩

theorem kind_of_requireFree_error {usage : Usage} (h : requireFree usage usable = .error fault) :
    fault.kind = .illegalState := by
  unfold requireFree at h
  split at h
  · cases h
    rfl
  · cases h

/-- A request without usable routes is refused. -/
theorem accept_eq_error_of_usableRoutes
    (husable : request.usableRoutes configs routes = .error fault) :
    ledger.accept request configs routes limits = .error fault := by
  unfold accept
  rw [bind_eq_error]
  exact .inl husable

/-- A request for an unknown patch is refused. -/
theorem accept_eq_noSuchPatch (husable : request.usableRoutes configs routes = .ok usable)
    (hold : request.id ≠ 0) (hunknown : request.id ∉ Table.keys ledger.patches) :
    ledger.accept request configs routes limits = .error (.noSuchPatch request.id) := by
  unfold accept
  simp only [bind_eq_error, if_neg hold]
  refine .inr ⟨usable, husable, .inl (require_eq_error.2 ⟨?_, rfl⟩)⟩
  rw [Table.holds_iff]
  exact hunknown

/-- A request whose routes are not free is refused, unless the patch is unknown. -/
theorem accept_eq_error_of_requireFree (husable : request.usableRoutes configs routes = .ok usable)
    (hknown : request.id ≠ 0 → request.id ∈ Table.keys ledger.patches)
    (hfree : requireFree (ledger.othersUsage request) usable = .error fault) :
    ledger.accept request configs routes limits = .error fault := by
  unfold othersUsage at hfree
  unfold accept
  rw [bind_eq_error]
  refine .inr ⟨usable, husable, ?_⟩
  by_cases hnew : request.id = 0
  · rw [if_pos hnew] at hfree ⊢
    rw [bind_eq_error]
    exact .inl hfree
  · rw [if_neg hnew] at hfree ⊢
    simp only [bind_eq_error, require_eq_ok, Table.holds_iff]
    exact .inr ⟨(), hknown hnew, .inl hfree⟩

/-- A new patch for which no key is left is refused. -/
theorem accept_eq_noPatchKeysLeft (husable : request.usableRoutes configs routes = .ok usable)
    (hnew : request.id = 0) (hfree : requireFree (ledger.othersUsage request) usable = .ok ())
    (hlast : ledger.lastKey.next? = none) :
    ledger.accept request configs routes limits = .error (.noPatchKeysLeft ledger.lastKey) := by
  unfold othersUsage at hfree
  rw [if_pos hnew] at hfree
  unfold accept
  simp only [bind_eq_error, if_pos hnew]
  exact .inr ⟨usable, husable, .inr ⟨(), hfree, .inl (present_eq_error.2 ⟨hlast, rfl⟩)⟩⟩

/-- A request that is at fault is refused as such. -/
theorem accept_of_misasked (hnd : (Table.keys configs).Nodup)
    (h : ledger.Misasked configs routes request) :
    ∃ fault, ledger.accept request configs routes limits = .error fault ∧
      fault.kind = .invalidArgument := by
  cases husable : request.usableRoutes configs routes with
  | error fault =>
    exact ⟨fault, accept_eq_error_of_usableRoutes husable, Patch.kind_of_usableRoutes_error husable⟩
  | ok usable =>
    have hfit := (Patch.exists_usable_iff hnd).1 ⟨usable, husable⟩
    by_cases hknown : request.id ≠ 0 → request.id ∈ Table.keys ledger.patches
    · exact absurd h ((not_misasked_iff hnd).2 ⟨hfit.1, hfit.2, hknown⟩)
    · rw [Classical.not_imp] at hknown
      exact ⟨_, accept_eq_noSuchPatch husable hknown.1 hknown.2, rfl⟩

section Settled

variable (hsound : ledger.Sound configs limits) (hpositive : ledger.Positive)
  (hnd : (Table.keys configs).Nodup)
  (hapart : ∀ route ∈ routes, ∀ config ∈ configs, config.id = route.sink →
    config.portId = route.sink)
  (hasked : ¬ ledger.Misasked configs routes request)

include hsound hpositive hnd hapart hasked

/-- A request that is in order is refused when something stands in its way. -/
theorem accept_of_withheld (h : ledger.Withheld configs routes request) :
    ∃ fault, ledger.accept request configs routes limits = .error fault ∧
      fault.kind = .illegalState := by
  obtain ⟨hlisted, hsupplied, hknown⟩ := (not_misasked_iff hnd).1 hasked
  obtain ⟨usable, husable⟩ := (Patch.exists_usable_iff hnd).2 ⟨hlisted, hsupplied⟩
  have hfree_iff := requireFree_othersUsage_iff hsound hpositive hnd hapart husable
  cases hfree : requireFree (ledger.othersUsage request) usable with
  | error fault =>
    exact ⟨fault, accept_eq_error_of_requireFree husable hknown hfree,
      kind_of_requireFree_error hfree⟩
  | ok _ =>
    cases h with
    | portTaken hreaches hexclusive hother hne huses =>
      exact absurd ⟨_, _, hreaches, hexclusive, hother, hne, huses⟩ (hfree_iff.1 hfree)
    | keysExhausted hnew hlast =>
      exact ⟨_, accept_eq_noPatchKeysLeft husable hnew hfree (Key.next?_eq_none.2 hlast), rfl⟩

/-- A request that is in order is granted when nothing stands in its way: a new patch comes last,
and one that is updated takes the place of the old one. -/
theorem accept_of_free (h : ¬ ledger.Withheld configs routes request) :
    ∃ patch next, ledger.accept request configs routes limits = .ok (patch, next) ∧
      patch = { request.completed limits with id := patch.id } ∧
      ((request.id = 0 ∧ ledger.lastKey < patch.id ∧ next.patches = ledger.patches ++ [patch]) ∨
        (request.id ≠ 0 ∧ patch.id = request.id ∧
          next.patches = Table.replace patch ledger.patches)) := by
  obtain ⟨hlisted, hsupplied, hknown⟩ := (not_misasked_iff hnd).1 hasked
  obtain ⟨usable, husable⟩ := (Patch.exists_usable_iff hnd).2 ⟨hlisted, hsupplied⟩
  have hfree : requireFree (ledger.othersUsage request) usable = .ok () := by
    rw [requireFree_othersUsage_iff hsound hpositive hnd hapart husable]
    rintro ⟨port, other, hreaches, hexclusive, hother, hne, huses⟩
    exact h (.portTaken hreaches hexclusive hother hne huses)
  unfold othersUsage at hfree
  by_cases hnew : request.id = 0
  · rw [if_pos hnew] at hfree
    have hlast : ledger.lastKey.next? ≠ none :=
      fun hnone => h (.keysExhausted hnew (Key.next?_eq_none.1 hnone))
    obtain ⟨key, hkey⟩ := Option.ne_none_iff_exists'.1 hlast
    refine ⟨_, _, accept_eq_ok.2 ⟨usable, husable, .inl ⟨hnew, hfree, key, hkey, rfl, rfl⟩⟩, rfl,
      ?_⟩
    exact .inl ⟨hnew, Key.lt_of_next? hkey, rfl⟩
  · rw [if_neg hnew] at hfree
    refine ⟨_, _, accept_eq_ok.2 ⟨usable, husable, .inr ⟨hnew, hknown hnew, hfree, rfl, rfl⟩⟩,
      rfl, ?_⟩
    exact .inr ⟨hnew, rfl, rfl⟩

end Settled

end Ledger

namespace Bay

variable {topology : Topology} {query : ProfileQuery} {bay next : Bay} {request : Request}
  {answer : Answer}

theorem Effect.positive (h : bay.ledger.Positive) (he : Effect bay request answer next) :
    next.ledger.Positive := by
  cases he with
  | setPatch haccept => exact h.accept haccept
  | resetPatch hreset => exact h.reset hreset
  | _ => exact h

theorem positive_of_ofTopology? (h : ofTopology? topology query = .ok bay) :
    bay.ledger.Positive := by
  obtain ⟨_, ledger, hledger, rfl⟩ := ofTopology?_eq_ok h
  have hempty : Ledger.empty.Positive := ⟨Int32.le_refl 0, nofun⟩
  exact admitAll_induction hempty (fun _ _ _ _ h hrestore => h.restore hrestore) hledger

theorem Reachable.positive (h : Reachable topology query bay) : bay.ledger.Positive := by
  refine h.invariant (motive := fun bay => bay.ledger.Positive)
    (fun _ => positive_of_ofTopology?) ?_
  intro bay next request answer _ hpositive he
  exact he.positive hpositive

/-- No config has the key of a port that is not its own. -/
theorem Sound.sink_apart (h : bay.Sound topology) :
    ∀ route ∈ bay.graph.routes, ∀ config ∈ bay.graph.configs, config.id = route.sink →
      config.portId = route.sink := by
  intro route hroute config hmem hid
  have hport : config.id ∈ Table.keys bay.graph.ports := hid ▸ h.graph.wired.sink route hroute
  have hsame := h.graph.place_apart config.place (List.mem_map_of_mem hmem) hport
  exact hsame.symm.trans hid

/-- A request for a patch is refused with the fault of the ledger. -/
theorem setPatch_eq_error {request : Patch} {fault : Fault} :
    (bay.step (.setPatch request)).1 = .error fault ↔
      bay.ledger.accept request bay.graph.configs bay.graph.routes bay.limits = .error fault := by
  rw [step_eq_error]
  simp only [respond, bind_eq_error]
  constructor
  · rintro (h | ⟨_, _, h⟩)
    · exact h
    · cases h
  · exact .inl

/-- **Patches are admitted exactly.** In a reachable bay, a request for a patch gets a fault of the
request when it asks for what cannot be. Otherwise it gets a fault of the state when another patch
uses a port to which its routes are all exclusive, or when no key is left for a new patch. Otherwise
it is granted: the patch has the lists of the request and the fields that follow from the limits, a
new one comes last under a key greater than any before, one that is updated takes the place of the
old one, and nothing but the ledger changes. -/
theorem patch_admission_exact (h : Reachable topology query bay) (request : Patch) :
    ((∃ fault, (bay.step (.setPatch request)).1 = .error fault ∧
        fault.kind = .invalidArgument) ↔
      bay.ledger.Misasked bay.graph.configs bay.graph.routes request) ∧
    (¬ bay.ledger.Misasked bay.graph.configs bay.graph.routes request →
      ((∃ fault, (bay.step (.setPatch request)).1 = .error fault ∧ fault.kind = .illegalState) ↔
        bay.ledger.Withheld bay.graph.configs bay.graph.routes request)) ∧
    (¬ bay.ledger.Misasked bay.graph.configs bay.graph.routes request →
      ¬ bay.ledger.Withheld bay.graph.configs bay.graph.routes request →
        ∃ patch ledger, bay.step (.setPatch request) = (.ok (.patch patch), { bay with ledger }) ∧
          patch = { request.completed bay.limits with id := patch.id } ∧
          (request.id = 0 → bay.ledger.lastKey < patch.id ∧
            patch.id ∉ Table.keys bay.ledger.patches ∧
            ledger.patches = bay.ledger.patches ++ [patch]) ∧
          (request.id ≠ 0 → patch.id = request.id ∧
            ledger.patches =
              bay.ledger.patches.map fun old => if old.id = request.id then patch else old)) := by
  have hsound := h.sound
  have hnd := hsound.graph.configs_nodup
  -- the three outcomes exclude one another
  simp only [setPatch_eq_error]
  have hpositive := h.positive
  have hapart := hsound.sink_apart
  refine ⟨⟨?_, Ledger.accept_of_misasked hnd⟩, fun hasked => ⟨?_, ?_⟩, ?_⟩
  · rintro ⟨fault, hfault, hkind⟩
    refine Classical.byContradiction fun hasked => ?_
    by_cases hheld : bay.ledger.Withheld bay.graph.configs bay.graph.routes request
    · obtain ⟨other, hother, hkind'⟩ :=
        Ledger.accept_of_withheld hsound.ledger hpositive hnd hapart hasked hheld
      cases hfault.symm.trans hother
      rw [hkind] at hkind'
      cases hkind'
    · obtain ⟨_, _, haccept, _⟩ :=
        Ledger.accept_of_free hsound.ledger hpositive hnd hapart hasked hheld
      cases hfault.symm.trans haccept
  · rintro ⟨fault, hfault, _⟩
    refine Classical.byContradiction fun hheld => ?_
    obtain ⟨_, _, haccept, _⟩ :=
      Ledger.accept_of_free hsound.ledger hpositive hnd hapart hasked hheld
    cases hfault.symm.trans haccept
  · exact Ledger.accept_of_withheld hsound.ledger hpositive hnd hapart hasked
  · intro hasked hheld
    obtain ⟨patch, ledger, haccept, hpatch, hcases⟩ :=
      Ledger.accept_of_free hsound.ledger hpositive hnd hapart hasked hheld
    refine ⟨patch, ledger, step_of_respond (respond_setPatch_of_ok haccept), hpatch, ?_, ?_⟩
    · intro hnew
      obtain ⟨_, hlt, hpatches⟩ := hcases.resolve_right fun hold => hold.1 hnew
      refine ⟨hlt, ?_, hpatches⟩
      intro hmem
      exact Int32.not_le.2 hlt (hsound.ledger.keys_last _ hmem)
    · intro hold
      obtain ⟨_, hid, hpatches⟩ := hcases.resolve_left fun hnew => hold hnew.1
      refine ⟨hid, ?_⟩
      rw [hpatches, Table.replace_eq_map hsound.ledger.keys_nodup, ← hid]
      rfl

/-- Two configs for ordinary output and one for compressed output, with ordinary output patched to
the speaker. -/
def speakerSession : List Request :=
  [ .playPcm 3 2 .stereo, .playPcm 3 2 .stereo, .playCompressed, .setPatch (.request [8] [1]) ]

/-- A patch of compressed output is withheld, one to a microphone asks for what cannot be, and the
patch of ordinary output is given another source. -/
theorem speakerSession_admission :
    ∃ bay, bay = ((builtIn .unavailable).run speakerSession).2 ∧
      Reachable .builtIn .unavailable bay ∧
      (∃ fault, (bay.step (.setPatch (.request [10] [1]))).1 = .error fault ∧
        fault.kind = .illegalState) ∧
      (∃ fault, (bay.step (.setPatch (.request [8] [2]))).1 = .error fault ∧
        fault.kind = .invalidArgument) ∧
      ∃ patch ledger,
        bay.step (.setPatch { Patch.request [9] [1] with id := 1 }) =
          (.ok (.patch patch), { bay with ledger }) ∧
        ledger.patches =
          bay.ledger.patches.map fun old => if old.id = 1 then patch else old := by
  have hstart : ofTopology? .builtIn .unavailable = .ok (builtIn .unavailable) := rfl
  have hreach := (Reachable.start hstart).run speakerSession
  have hnd := hreach.sound.graph.configs_nodup
  refine ⟨_, rfl, hreach, ?_, ?_, ?_⟩
  · obtain ⟨_, hwithheld, _⟩ := patch_admission_exact hreach (.request [10] [1])
    refine (hwithheld ((Ledger.not_misasked_iff hnd).2 (by decide))).2 ?_
    have htaken : ∃ other ∈ ((builtIn .unavailable).run speakerSession).2.ledger.patches,
        other.id ≠ 0 ∧ other.UsesPort
          ((builtIn .unavailable).run speakerSession).2.graph.configs 1 := by decide
    obtain ⟨other, hother, hne, huses⟩ := htaken
    exact .portTaken (by decide) (by decide) hother hne huses
  · obtain ⟨hmisasked, _⟩ := patch_admission_exact hreach (.request [8] [2])
    have hsink : ∃ sink ∈ ((builtIn .unavailable).run speakerSession).2.graph.configs,
        sink.id ∈ [2] ∧ ¬ (Patch.request [8] [2]).Reaches
          ((builtIn .unavailable).run speakerSession).2.graph.configs
          ((builtIn .unavailable).run speakerSession).2.graph.routes sink.portId := by decide
    obtain ⟨sink, hmem, hid, hreaches⟩ := hsink
    exact hmisasked.2 (.sinkUnreached hmem hid hreaches)
  · obtain ⟨_, _, hgranted⟩ := patch_admission_exact hreach { Patch.request [9] [1] with id := 1 }
    have hfree : ¬ ((builtIn .unavailable).run speakerSession).2.ledger.Withheld
        ((builtIn .unavailable).run speakerSession).2.graph.configs
        ((builtIn .unavailable).run speakerSession).2.graph.routes
        { Patch.request [9] [1] with id := 1 } := by
      intro hheld
      cases hheld with
      | portTaken _ _ hother hne _ =>
        -- the only patch is the one that is updated
        have honly : ∀ other ∈ ((builtIn .unavailable).run speakerSession).2.ledger.patches,
            other.id = 1 := by decide
        exact hne (honly _ hother)
      | keysExhausted hnew _ => exact absurd hnew (by decide)
    obtain ⟨patch, ledger, hstep, _, _, hpatches⟩ :=
      hgranted ((Ledger.not_misasked_iff hnd).2 (by decide)) hfree
    exact ⟨patch, ledger, hstep, (hpatches (by decide)).2⟩

end Bay

end Patchbay
