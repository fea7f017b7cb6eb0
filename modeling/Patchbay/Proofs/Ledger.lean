import Patchbay.Ledger
import Patchbay.Proofs.Action
import Patchbay.Proofs.Checks
import Patchbay.Proofs.Key
import Patchbay.Proofs.Route
import Patchbay.Proofs.Usage

/-!
# When patches are admitted

A patch is set in place: an update takes the use of the old patch out of the record before it is
checked, and puts the record back when it is refused. So nothing is left of a refusal, and a patch
is set as if it were accepted first and stored afterwards (`Ledger.set_eq_settle`).

`Ledger.accept`, `Ledger.restore` and `Ledger.reset` succeed exactly under the conditions
stated here, and the ledgers that they return are written out in full. A created and a
restored patch enter the ledger in the same way (`Ledger.enter`).
-/

namespace Patchbay

namespace Patch

variable {request : Patch} {configs : List Config} {routes usable : List Route}

/-- The lists of a patch are in order: not empty, without repetition, and of configs that
exist. -/
structure Listed (configs : List Config) (patch : Patch) : Prop where
  sources_ne : patch.sources ≠ []
  sources_nodup : patch.sources.Nodup
  sinks_ne : patch.sinks ≠ []
  sinks_nodup : patch.sinks.Nodup
  sources_mem : ∀ key ∈ patch.sources, key ∈ Table.keys configs
  sinks_mem : ∀ key ∈ patch.sinks, key ∈ Table.keys configs

instance (configs : List Config) (patch : Patch) : Decidable (patch.Listed configs) :=
  decidable_of_iff
    (patch.sources ≠ [] ∧ patch.sources.Nodup ∧ patch.sinks ≠ [] ∧ patch.sinks.Nodup ∧
      Table.missing configs patch.sources = [] ∧ Table.missing configs patch.sinks = [])
    ⟨fun ⟨hsources, hsources', hsinks, hsinks', hmem, hmem'⟩ =>
        ⟨hsources, hsources', hsinks, hsinks', Table.missing_eq_nil.1 hmem,
          Table.missing_eq_nil.1 hmem'⟩,
      fun h => ⟨h.sources_ne, h.sources_nodup, h.sinks_ne, h.sinks_nodup,
        Table.missing_eq_nil.2 h.sources_mem, Table.missing_eq_nil.2 h.sinks_mem⟩⟩

/-- The ports of the configs that `keys` name. -/
def portsOf (configs : List Config) (keys : List Key) : List Key :=
  (Table.select configs keys).map (·.portId)

theorem mem_portsOf {keys : List Key} {port : Key} :
    port ∈ portsOf configs keys ↔
      ∃ key ∈ keys, ∃ config, Table.find? configs key = some config ∧ config.portId = port := by
  unfold portsOf
  simp only [List.mem_map, Table.mem_select]
  exact ⟨fun ⟨config, ⟨key, hkey, hfind⟩, hport⟩ => ⟨key, hkey, config, hfind, hport⟩,
    fun ⟨key, hkey, config, hfind, hport⟩ => ⟨config, ⟨key, hkey, hfind⟩, hport⟩⟩

/-- When keys are distinct, every config is the one that its key names. -/
theorem mem_portsOf_iff (hnd : (Table.keys configs).Nodup) {keys : List Key} :
    port ∈ portsOf configs keys ↔
      ∃ config ∈ configs, config.id ∈ keys ∧ config.portId = port := by
  rw [mem_portsOf]
  constructor
  · rintro ⟨key, hkey, config, hfind, hport⟩
    have hid : config.id = key := Table.key_of_find? hfind
    exact ⟨config, Table.mem_of_find? hfind, hid ▸ hkey, hport⟩
  · rintro ⟨config, hmem, hkey, hport⟩
    exact ⟨config.id, hkey, config, Table.find?_of_mem hnd hmem, hport⟩

/-- The usable routes of a request are those from the ports of its sources, provided that
its lists are in order and that these routes reach the port of every sink. -/
theorem usableRoutes_eq_ok :
    request.usableRoutes configs routes = .ok usable ↔
      request.Listed configs ∧
        (∀ port ∈ portsOf configs request.sinks, ∃ route ∈ usable, route.sink = port) ∧
        usable = Route.fromPorts (portsOf configs request.sources) routes := by
  unfold usableRoutes
  simp only [bind_eq_ok, require_eq_ok, Table.missing_eq_nil]
  constructor
  · rintro ⟨_, hsources, _, hsources', _, hsinks, _, hsinks', _, hmem, _, hmem', h⟩
    split at h
    · cases h
    · rename_i hroute
      cases h
      refine ⟨⟨hsources, hsources', hsinks, hsinks', hmem, hmem'⟩, fun port hport => ?_, rfl⟩
      have hany := List.find?_eq_none.1 hroute port hport
      simpa using hany
  · rintro ⟨⟨hsources, hsources', hsinks, hsinks', hmem, hmem'⟩, hroute, rfl⟩
    refine ⟨(), hsources, (), hsources', (), hsinks, (), hsinks', (), hmem, (), hmem', ?_⟩
    have hnone : (portsOf configs request.sinks).find? (fun port =>
        !(Route.fromPorts (portsOf configs request.sources) routes).any (·.sink == port)) =
          none := by
      rw [List.find?_eq_none]
      intro port hport
      simpa using hroute port hport
    unfold portsOf at hnone
    rw [hnone]
    rfl

end Patch

namespace Ledger

variable {ledger next : Ledger} {configs : List Config} {routes usable : List Route}
  {limits : Limits} {request patch : Patch}

/-! ## Setting a patch in place -/

/-- The patch that a request leads to and the ledger with it, where the use that an old patch
makes of a sink does not count. -/
def accept (ledger : Ledger) (request : Patch) (configs : List Config) (routes : List Route)
    (limits : Limits) : Except Fault (Patch × Ledger) := do
  let usable ← request.usableRoutes configs routes
  let patch := request.completed limits
  if request.id = 0 then
    requireFree ledger.usage usable
    let key ← present ledger.lastKey.next? (.noPatchKeysLeft ledger.lastKey)
    let patch := { patch with id := key }
    return (patch,
      { patches := ledger.patches ++ [patch]
        usage := ledger.usage.register patch configs
        lastKey := key })
  else
    require (Table.holds ledger.patches request.id) (.noSuchPatch request.id)
    let usage := ledger.usage.release request.id
    requireFree usage usable
    return (patch,
      { ledger with
        patches := Table.replace patch ledger.patches
        usage := usage.register patch configs })

/-- Setting a patch changes the ledger only if the patch is accepted. -/
theorem set_eq_settle (ledger : Ledger) (request : Patch) (configs : List Config)
    (routes : List Route) (limits : Limits) :
    (set request configs routes limits).run ledger =
      Action.settle ledger (ledger.accept request configs routes limits) := by
  unfold set accept
  refine Action.run_check fun usable => ?_
  by_cases hid : request.id = 0
  · simp only [if_pos hid, create, takeKey, bind_assoc, Action.run_get]
    refine Action.run_check fun _ => ?_
    rw [Action.run_get]
    exact Action.run_check fun key => rfl
  · simp only [if_neg hid, replace, bind_assoc, Action.run_get]
    refine Action.run_check fun _ => ?_
    rw [Action.run_get]
    -- the check is made, and may fail, on a ledger without the use of the old patch
    let released : Ledger := { ledger with usage := ledger.usage.release request.id }
    have hundo : { released with usage := ledger.usage } = ledger := rfl
    exact Action.run_undone hundo fun _ => rfl

/-! ## Conditions -/

/-- Routes are free when no sink that they reach by exclusive routes only is in use. -/
theorem requireFree_eq_ok {usage : Usage} {result : Unit} :
    requireFree usage usable = .ok result ↔
      ∀ route ∈ usable, Route.exclusiveAt route.sink usable = true →
        usage.isUsed route.sink = false := by
  unfold requireFree
  split
  · rename_i sink hsink
    have hused := List.find?_some hsink
    obtain ⟨route, hroute, rfl⟩ := Route.mem_sinks.1 (List.mem_of_find?_eq_some hsink)
    rw [Bool.and_eq_true] at hused
    refine ⟨nofun, fun h => ?_⟩
    have hfree := h route hroute hused.1
    rw [hused.2] at hfree
    cases hfree
  · rename_i hnone
    rw [List.find?_eq_none] at hnone
    refine ⟨fun _ route hroute hexclusive => ?_, fun _ => rfl⟩
    have hfree := hnone route.sink (Route.mem_sinks.2 ⟨route, hroute, rfl⟩)
    rw [Bool.and_eq_true, not_and] at hfree
    exact Bool.eq_false_iff.2 (hfree hexclusive)

/-- The ledger with `patch` as its last entry. -/
def enter (ledger : Ledger) (patch : Patch) (configs : List Config) (last : Key) : Ledger :=
  { patches := ledger.patches ++ [patch]
    usage := ledger.usage.register patch configs
    lastKey := last }

/-- The ledger with `patch` in the place of the entry with its key. -/
def update (ledger : Ledger) (patch : Patch) (configs : List Config) : Ledger :=
  { ledger with
    patches := Table.replace patch ledger.patches
    usage := (ledger.usage.release patch.id).register patch configs }

/-- A patch is set exactly when it has usable routes that are free, and for a new one a
key is left, for an old one there is an entry. The use that an old one makes of a sink
does not count. -/
theorem accept_eq_ok :
    ledger.accept request configs routes limits = .ok (patch, next) ↔
      ∃ usable, request.usableRoutes configs routes = .ok usable ∧
        ((request.id = 0 ∧ requireFree ledger.usage usable = .ok () ∧
            ∃ key, ledger.lastKey.next? = some key ∧
              patch = { request.completed limits with id := key } ∧
              next = ledger.enter patch configs key) ∨
          (request.id ≠ 0 ∧ request.id ∈ Table.keys ledger.patches ∧
            requireFree (ledger.usage.release request.id) usable = .ok () ∧
            patch = request.completed limits ∧ next = ledger.update patch configs)) := by
  unfold accept
  rw [bind_eq_ok]
  refine exists_congr fun usable => and_congr_right fun _ => ?_
  by_cases hid : request.id = 0
  · rw [if_pos hid]
    simp only [bind_eq_ok, present_eq_ok, pure_eq_ok, hid, ne_eq, not_true_eq_false, false_and,
      or_false, true_and]
    constructor
    · rintro ⟨_, hfree, key, hkey, heq⟩
      cases heq
      exact ⟨hfree, key, hkey, rfl, rfl⟩
    · rintro ⟨hfree, key, hkey, rfl, rfl⟩
      exact ⟨(), hfree, key, hkey, rfl⟩
  · rw [if_neg hid]
    simp only [bind_eq_ok, require_eq_ok, pure_eq_ok, hid, false_and, false_or, ne_eq,
      not_false_eq_true, true_and, Table.holds_iff]
    constructor
    · rintro ⟨_, hmem, _, hfree, heq⟩
      cases heq
      exact ⟨hmem, hfree, rfl, rfl⟩
    · rintro ⟨hmem, hfree, rfl, rfl⟩
      exact ⟨(), hmem, (), hfree, rfl⟩

/-- A new patch that would be set with another last key is refused when no key is left. -/
theorem accept_exhausted {last : Key}
    (h : { ledger with lastKey := last }.accept request configs routes limits = .ok (patch, next))
    (hnew : request.id = 0) (hlast : ledger.lastKey.next? = none) :
    ledger.accept request configs routes limits = .error (.noPatchKeysLeft ledger.lastKey) := by
  obtain ⟨usable, husable, ⟨_, hfree, _⟩ | ⟨hold, _⟩⟩ := accept_eq_ok.1 h
  · unfold accept
    simp only [bind_eq_error, if_pos hnew]
    exact .inr ⟨usable, husable, .inr ⟨(), hfree, .inl (present_eq_error.2 ⟨hlast, rfl⟩)⟩⟩
  · exact absurd hnew hold

/-- A patch with a key of its own is restored exactly when the key is positive and free,
and the patch has usable routes that are free. -/
theorem restore_eq_ok :
    ledger.restore request configs routes limits = .ok (patch, next) ↔
      0 < request.id ∧ request.id ∉ Table.keys ledger.patches ∧
        ∃ usable, request.usableRoutes configs routes = .ok usable ∧
          requireFree ledger.usage usable = .ok () ∧ patch = request.completed limits ∧
          next = ledger.enter patch configs (max ledger.lastKey patch.id) := by
  unfold restore
  simp only [bind_eq_ok, require_eq_ok, pure_eq_ok, Bool.not_eq_true', ← Bool.not_eq_true,
    Table.holds_iff]
  constructor
  · rintro ⟨_, hpos, _, hnew, usable, husable, _, hfree, heq⟩
    cases heq
    exact ⟨hpos, hnew, usable, husable, hfree, rfl, rfl⟩
  · rintro ⟨hpos, hnew, usable, husable, hfree, rfl, rfl⟩
    exact ⟨(), hpos, (), hnew, usable, husable, (), hfree, rfl⟩

theorem reset_eq_ok {key : Key} :
    ledger.reset key = .ok next ↔
      key ∈ Table.keys ledger.patches ∧
        next = { ledger with
          patches := Table.remove ledger.patches key, usage := ledger.usage.release key } := by
  unfold reset
  simp only [bind_eq_ok, require_eq_ok, pure_eq_ok, Table.holds_iff]
  constructor
  · rintro ⟨_, hmem, he⟩
    exact ⟨hmem, he.symm⟩
  · rintro ⟨hmem, he⟩
    exact ⟨(), hmem, he.symm⟩

end Ledger

end Patchbay
