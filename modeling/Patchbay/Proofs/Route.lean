import Patchbay.Ledger
import Patchbay.Proofs.KeyMap

/-!
# Laws of routes

What routes a graph has after a device has been connected or disconnected, what edges they
make between the ports (`joins_extend`, `joins_prune`), and what routes a patch can use. To prune
ports is to leave them out (`prune_eq_without`), and what is left without a port does not show whether
the port has been given routes (`without_extend_of_mem`). So when a device goes at once, the routes
are what they were before it came (`prune_extend`). A table of routes is `Wired` to a list of ports
when every route leads from ports of the list to a port of the list and starts at an anchor, a port
that is never disconnected.
-/

namespace Patchbay.Route

variable {template port source : Key} {route : Route} {routes : List Route}

theorem hasSource_iff : route.hasSource source = true ↔ source ∈ route.sources :=
  List.contains_iff_mem

/-- Some route starts or ends at `port`. -/
def Mentions (routes : List Route) (port : Key) : Prop :=
  ∃ route ∈ routes, route.touches port = true

instance (routes : List Route) (port : Key) : Decidable (Mentions routes port) :=
  inferInstanceAs (Decidable (∃ route ∈ routes, route.touches port = true))

theorem not_mentions_iff :
    ¬ Mentions routes port ↔ ∀ route ∈ routes, route.sink ≠ port ∧ port ∉ route.sources := by
  unfold Mentions touches
  simp only [Bool.or_eq_true, beq_iff_eq, hasSource_iff, not_exists, not_and, not_or, ne_eq]

/-! ## Extending -/

@[simp] theorem withSource_sink : (withSource template port route).sink = route.sink := by
  unfold withSource
  split <;> rfl

@[simp] theorem withSource_exclusive :
    (withSource template port route).exclusive = route.exclusive := by
  unfold withSource
  split <;> rfl

/-- The new port is a source beside the template, but of no route to the template. -/
theorem mem_sources_withSource :
    source ∈ (withSource template port route).sources ↔
      source ∈ route.sources ∨
        source = port ∧ template ∈ route.sources ∧ route.sink ≠ template := by
  unfold withSource
  split
  · rename_i h
    simp only [bne_iff_ne, ne_eq, Bool.and_eq_true, hasSource_iff] at h
    simp [h]
  · rename_i h
    simp only [bne_iff_ne, ne_eq, Bool.and_eq_true, hasSource_iff, not_and] at h
    simp only [iff_self_or]
    exact fun ⟨_, hsource, hsink⟩ => absurd hsource (h hsink)

/-- A route after an extension is an old one, perhaps with a further source, or the
counterpart of one that ends at the template. -/
theorem mem_extend :
    route ∈ extend template port routes ↔
      (∃ old ∈ routes, route = withSource template port old) ∨
        ∃ old ∈ routes, old.sink = template ∧ route = { old with sink := port } := by
  unfold extend
  simp only [List.mem_append, List.mem_map, List.mem_filter, beq_iff_eq]
  refine or_congr ⟨fun ⟨old, hold, he⟩ => ⟨old, hold, he.symm⟩,
    fun ⟨old, hold, he⟩ => ⟨old, hold, he.symm⟩⟩ ⟨fun ⟨old, hold, he⟩ => ?_,
    fun ⟨old, hold, hsink, he⟩ => ⟨old, ⟨hold, hsink⟩, he.symm⟩⟩
  exact ⟨old, hold.1, hold.2, he.symm⟩

/-! ## Pruning -/

/-- A route after a pruning is an old one that ends elsewhere, without the source. -/
theorem mem_prune :
    route ∈ prune port routes ↔
      ∃ old ∈ routes, old.sink ≠ port ∧
        route = { old with sources := old.sources.filter (· != port) } := by
  unfold prune
  simp only [List.mem_map, List.mem_filter, bne_iff_ne]
  exact ⟨fun ⟨old, ⟨hold, hsink⟩, he⟩ => ⟨old, hold, hsink, he.symm⟩,
    fun ⟨old, hold, hsink, he⟩ => ⟨old, ⟨hold, hsink⟩, he.symm⟩⟩

/-! ## Edges -/

/-- A route leads from `source` to `sink`, exclusive or not as `exclusive` says. -/
def Joins (routes : List Route) (exclusive : Bool) (source sink : Key) : Prop :=
  ∃ route ∈ routes, route.exclusive = exclusive ∧ route.sink = sink ∧ source ∈ route.sources

instance (routes : List Route) (exclusive : Bool) (source sink : Key) :
    Decidable (Joins routes exclusive source sink) :=
  inferInstanceAs (Decidable
    (∃ route ∈ routes, route.exclusive = exclusive ∧ route.sink = sink ∧ source ∈ route.sources))

/-- The port whose edges `key` has after an extension: the template for the new port, and every
other port for itself. -/
def standIn (template port key : Key) : Key :=
  if key = port then template else key

theorem standIn_new : standIn template port port = template :=
  if_pos rfl

theorem standIn_old {key : Key} (h : key ≠ port) : standIn template port key = key :=
  if_neg h

section Edges

variable {exclusive : Bool} {sink : Key}

theorem joins_extend_of_old (hsource : source ≠ port) (hsink : sink ≠ port) :
    Joins (extend template port routes) exclusive source sink ↔
      Joins routes exclusive source sink := by
  constructor
  · rintro ⟨route, hroute, hflag, hend, hstart⟩
    rcases mem_extend.1 hroute with ⟨old, hold, rfl⟩ | ⟨old, _, _, rfl⟩
    · rw [withSource_exclusive] at hflag
      rw [withSource_sink] at hend
      have hold_start := (mem_sources_withSource.1 hstart).resolve_right fun h => hsource h.1
      exact ⟨old, hold, hflag, hend, hold_start⟩
    · exact absurd hend.symm hsink
  · rintro ⟨route, hroute, hflag, hend, hstart⟩
    refine ⟨_, mem_extend.2 (.inl ⟨route, hroute, rfl⟩), ?_, ?_, ?_⟩
    · rw [withSource_exclusive]
      exact hflag
    · rw [withSource_sink]
      exact hend
    · exact mem_sources_withSource.2 (.inl hstart)

/-- To the new port lead the edges that lead to its template. -/
theorem joins_extend_to_new (hnew : ∀ route ∈ routes, route.sink ≠ port) :
    Joins (extend template port routes) exclusive source port ↔
      Joins routes exclusive source template := by
  constructor
  · rintro ⟨route, hroute, hflag, hend, hstart⟩
    rcases mem_extend.1 hroute with ⟨old, hold, rfl⟩ | ⟨old, hold, hsink, rfl⟩
    · rw [withSource_sink] at hend
      exact absurd hend (hnew old hold)
    · exact ⟨old, hold, hflag, hsink, hstart⟩
  · rintro ⟨route, hroute, hflag, hend, hstart⟩
    exact ⟨_, mem_extend.2 (.inr ⟨route, hroute, hend, rfl⟩), hflag, rfl, hstart⟩

/-- From the new port lead the edges that lead from its template, but none to the template. -/
theorem joins_extend_from_new (hnew : ∀ route ∈ routes, port ∉ route.sources)
    (hsink : sink ≠ port) (htemplate : sink ≠ template) :
    Joins (extend template port routes) exclusive port sink ↔
      Joins routes exclusive template sink := by
  constructor
  · rintro ⟨route, hroute, hflag, hend, hstart⟩
    rcases mem_extend.1 hroute with ⟨old, hold, rfl⟩ | ⟨old, _, _, rfl⟩
    · rw [withSource_exclusive] at hflag
      rw [withSource_sink] at hend
      obtain ⟨_, hold_start, _⟩ :=
        (mem_sources_withSource.1 hstart).resolve_left (hnew old hold)
      exact ⟨old, hold, hflag, hend, hold_start⟩
    · exact absurd hend.symm hsink
  · rintro ⟨route, hroute, hflag, hend, hstart⟩
    refine ⟨_, mem_extend.2 (.inl ⟨route, hroute, rfl⟩), ?_, ?_, ?_⟩
    · rw [withSource_exclusive]
      exact hflag
    · rw [withSource_sink]
      exact hend
    · exact mem_sources_withSource.2 (.inr ⟨rfl, hstart, hend ▸ htemplate⟩)

/-- A new port gets the edges of its template, except for those between the two. -/
theorem joins_extend (hnew : ¬ Mentions routes port)
    (hne : standIn template port source ≠ standIn template port sink) :
    Joins (extend template port routes) exclusive source sink ↔
      Joins routes exclusive (standIn template port source) (standIn template port sink) := by
  rw [not_mentions_iff] at hnew
  by_cases hsource : source = port <;> by_cases hsink : sink = port
  · subst hsource hsink
    exact absurd rfl hne
  · subst hsource
    rw [standIn_new, standIn_old hsink] at hne ⊢
    exact joins_extend_from_new (fun route hroute => (hnew route hroute).2) hsink hne.symm
  · subst hsink
    rw [standIn_new, standIn_old hsource]
    exact joins_extend_to_new fun route hroute => (hnew route hroute).1
  · rw [standIn_old hsource, standIn_old hsink]
    exact joins_extend_of_old hsource hsink

/-- Taking out a port leaves the edges between the others. -/
theorem joins_prune (hsource : source ≠ port) (hsink : sink ≠ port) :
    Joins (prune port routes) exclusive source sink ↔ Joins routes exclusive source sink := by
  constructor
  · rintro ⟨route, hroute, hflag, hend, hstart⟩
    obtain ⟨old, hold, _, rfl⟩ := mem_prune.1 hroute
    exact ⟨old, hold, hflag, hend, (List.mem_filter.1 hstart).1⟩
  · rintro ⟨route, hroute, hflag, hend, hstart⟩
    refine ⟨_, mem_prune.2 ⟨route, hroute, hend ▸ hsink, rfl⟩, hflag, hend, ?_⟩
    exact List.mem_filter.2 ⟨hstart, by simpa using hsource⟩

end Edges

/-! ## Leaving ports out -/

/-- The route without `ports` among its sources. -/
def withoutSources (ports : List Key) (route : Route) : Route :=
  { route with sources := route.sources.filter (· ∉ ports) }

/-- The routes without `ports`: those that end there go, and no other starts there any more. -/
def without (ports : List Key) (routes : List Route) : List Route :=
  (routes.filter (·.sink ∉ ports)).map (withoutSources ports)

theorem mem_without {ports : List Key} :
    route ∈ without ports routes ↔
      ∃ old ∈ routes, old.sink ∉ ports ∧ route = withoutSources ports old := by
  unfold without
  simp only [List.mem_map, List.mem_filter, decide_eq_true_eq]
  exact ⟨fun ⟨old, ⟨hold, hsink⟩, he⟩ => ⟨old, hold, hsink, he.symm⟩,
    fun ⟨old, hold, hsink, he⟩ => ⟨old, ⟨hold, hsink⟩, he.symm⟩⟩

/-- A port that is left out is mentioned no more. -/
theorem not_mentions_without {ports : List Key} (h : port ∈ ports) :
    ¬ Mentions (without ports routes) port := by
  rw [not_mentions_iff]
  intro route hroute
  obtain ⟨old, _, hsink, rfl⟩ := mem_without.1 hroute
  constructor
  · rintro rfl
    exact hsink h
  · intro hsource
    have hkept := (List.mem_filter.1 hsource).2
    exact of_decide_eq_true hkept h

/-- Leaving out ports that are not mentioned changes nothing. -/
theorem without_of_not_mentions {ports : List Key} (h : ∀ port ∈ ports, ¬ Mentions routes port) :
    without ports routes = routes := by
  have hsinks : routes.filter (·.sink ∉ ports) = routes := by
    rw [List.filter_eq_self]
    intro route hroute
    exact decide_eq_true fun hmem => (not_mentions_iff.1 (h _ hmem) route hroute).1 rfl
  have hsources : ∀ route ∈ routes, withoutSources ports route = route := by
    intro route hroute
    have hkept : route.sources.filter (· ∉ ports) = route.sources := by
      rw [List.filter_eq_self]
      intro source hsource
      exact decide_eq_true fun hmem => (not_mentions_iff.1 (h _ hmem) route hroute).2 hsource
    unfold withoutSources
    rw [hkept]
  unfold without
  rw [hsinks, List.map_congr_left hsources, List.map_id']

theorem without_nil : without [] routes = routes :=
  without_of_not_mentions nofun

/-- What is left depends on which ports are left out, not on their order. -/
theorem without_congr {ports others : List Key} (h : ∀ key, key ∈ ports ↔ key ∈ others) :
    without ports routes = without others routes := by
  unfold without withoutSources
  simp only [h]

theorem filter_not_mem_cons {α : Type} {ports : List Key} {entries : List α} (key : α → Key) :
    (entries.filter (key · != port)).filter (key · ∉ ports) =
      entries.filter (key · ∉ port :: ports) := by
  rw [List.filter_filter]
  refine List.filter_congr fun entry _ => ?_
  rw [Bool.eq_iff_iff]
  simp [and_comm]

/-- Pruning a port and leaving others out is to leave it out with them. -/
theorem without_prune {ports : List Key} :
    without ports (prune port routes) = without (port :: ports) routes := by
  have hsinks : (routes.filter (·.sink != port)).filter (·.sink ∉ ports) =
      routes.filter (·.sink ∉ port :: ports) := filter_not_mem_cons sink
  unfold without prune
  rw [List.filter_map, ← hsinks, List.map_map]
  refine List.map_congr_left fun route _ => ?_
  exact congrArg (fun sources => { route with sources }) (filter_not_mem_cons id)

/-- To prune a port is to leave it out. -/
theorem prune_eq_without : prune port routes = without [port] routes := by
  calc prune port routes
      = without [] (prune port routes) := without_nil.symm
    _ = without [port] routes := without_prune

/-- Without the new port, a route does not show whether it has got a source. -/
theorem withoutSources_withSource {ports : List Key} (h : port ∈ ports) :
    withoutSources ports (withSource template port route) = withoutSources ports route := by
  unfold withSource withoutSources
  split
  · have hport : [port].filter (· ∉ ports) = [] := by simp [h]
    rw [List.filter_append, hport, List.append_nil]
  · rfl

/-- Without the new port, the routes do not show that there has been an extension. -/
theorem without_extend_of_mem {ports : List Key} (h : port ∈ ports) (template : Key) :
    without ports (extend template port routes) = without ports routes := by
  have hcopies : ((routes.filter (·.sink == template)).map ({ · with sink := port })).filter
      (·.sink ∉ ports) = [] := by
    rw [List.filter_eq_nil_iff]
    intro route hmem
    obtain ⟨old, _, rfl⟩ := List.mem_map.1 hmem
    simpa using h
  have hkept : (routes.map (withSource template port)).filter (·.sink ∉ ports) =
      (routes.filter (·.sink ∉ ports)).map (withSource template port) := by
    rw [List.filter_map]
    refine congrArg (List.map _) (List.filter_congr fun route _ => ?_)
    rw [Function.comp_apply, withSource_sink]
  unfold without extend
  rw [List.filter_append, hcopies, List.append_nil, hkept, List.map_map]
  exact List.map_congr_left fun route _ => withoutSources_withSource h

/-- Pruning a port that is not mentioned changes nothing. -/
theorem prune_of_not_mentions (hnew : ¬ Mentions routes port) : prune port routes = routes := by
  rw [prune_eq_without]
  exact without_of_not_mentions (List.forall_mem_singleton.2 hnew)

/-- A port that is new to the routes leaves them as they were when it is left out again. -/
theorem without_extend {ports : List Key} (hnew : ¬ Mentions routes port) (template : Key) :
    without (ports ++ [port]) (extend template port routes) = without ports routes := by
  calc without (ports ++ [port]) (extend template port routes)
      = without (ports ++ [port]) routes := without_extend_of_mem List.mem_concat_self template
    _ = without (port :: ports) routes := without_congr fun key => by simp [or_comm]
    _ = without ports (prune port routes) := without_prune.symm
    _ = without ports routes := by rw [prune_of_not_mentions hnew]

/-- A port that is new to the routes takes nothing else with it when it goes. -/
theorem prune_extend (hnew : ¬ Mentions routes port) (template : Key) :
    prune port (extend template port routes) = routes := by
  calc prune port (extend template port routes)
      = without [port] (extend template port routes) := prune_eq_without
    _ = without [port] routes := without_extend_of_mem (List.mem_singleton_self port) template
    _ = routes := without_of_not_mentions (List.forall_mem_singleton.2 hnew)

/-! ## Wiring -/

/-- One of the sources of every route is an anchor. -/
def Anchored (anchors : List Key) (routes : List Route) : Prop :=
  ∀ route ∈ routes, ∃ source ∈ route.sources, source ∈ anchors

/-- A copy of a route has the anchors of the route, and further sources do no harm. -/
theorem Anchored.extend {anchors : List Key} (h : Anchored anchors routes) (template port : Key) :
    Anchored anchors (extend template port routes) := by
  intro route hmem
  rcases mem_extend.1 hmem with ⟨old, hold, rfl⟩ | ⟨old, hold, _, rfl⟩
  · obtain ⟨source, hsource, hanchor⟩ := h old hold
    exact ⟨source, mem_sources_withSource.2 (.inl hsource), hanchor⟩
  · exact h old hold

theorem Anchored.prune {anchors : List Key} (h : Anchored anchors routes)
    (hport : port ∉ anchors) : Anchored anchors (prune port routes) := by
  intro route hmem
  obtain ⟨old, hold, _, rfl⟩ := mem_prune.1 hmem
  obtain ⟨source, hsource, hanchor⟩ := h old hold
  have hne : source ≠ port := fun he => hport (he ▸ hanchor)
  exact ⟨source, List.mem_filter.2 ⟨hsource, by simpa using hne⟩, hanchor⟩

/-- Every route joins ports of a list, and one of its sources is an anchor. -/
structure Wired (ports anchors : List Key) (routes : List Route) : Prop where
  sink : ∀ route ∈ routes, route.sink ∈ ports
  source : ∀ route ∈ routes, ∀ source ∈ route.sources, source ∈ ports
  anchor : ∀ route ∈ routes, ∃ source ∈ route.sources, source ∈ anchors

/-- No route starts or ends at a port outside the list. -/
theorem Wired.not_mentions {ports anchors : List Key} (h : Wired ports anchors routes)
    (hport : port ∉ ports) : ¬ Mentions routes port := by
  rw [not_mentions_iff]
  intro route hroute
  constructor
  · rintro rfl
    exact hport (h.sink route hroute)
  · exact fun hsource => hport (h.source route hroute port hsource)

/-- The routes of a new port keep the table wired. -/
theorem Wired.extend {ports anchors : List Key} (h : Wired ports anchors routes)
    (template port : Key) : Wired (ports ++ [port]) anchors (extend template port routes) := by
  constructor
  · intro route hmem
    rcases mem_extend.1 hmem with ⟨old, hold, rfl⟩ | ⟨old, hold, _, rfl⟩
    · rw [withSource_sink]
      exact List.mem_append_left _ (h.sink old hold)
    · exact List.mem_append_right _ (List.mem_singleton_self port)
  · intro route hmem source hsource
    rcases mem_extend.1 hmem with ⟨old, hold, rfl⟩ | ⟨old, hold, _, rfl⟩
    · rcases mem_sources_withSource.1 hsource with hsource | ⟨rfl, _⟩
      · exact List.mem_append_left _ (h.source old hold source hsource)
      · exact List.mem_append_right _ (List.mem_singleton_self source)
    · exact List.mem_append_left _ (h.source old hold source hsource)
  · exact Anchored.extend h.anchor template port

/-- Taking out a port that is no anchor keeps the table wired to the ports that remain. -/
theorem Wired.prune {ports anchors : List Key} (h : Wired ports anchors routes)
    (hport : port ∉ anchors) : Wired (ports.filter (· != port)) anchors (prune port routes) := by
  constructor
  · intro route hmem
    obtain ⟨old, hold, hsink, rfl⟩ := mem_prune.1 hmem
    exact List.mem_filter.2 ⟨h.sink old hold, by simpa using hsink⟩
  · intro route hmem source hsource
    obtain ⟨old, hold, _, rfl⟩ := mem_prune.1 hmem
    obtain ⟨hsource, hne⟩ := List.mem_filter.1 hsource
    exact List.mem_filter.2 ⟨h.source old hold source hsource, hne⟩
  · exact Anchored.prune h.anchor hport

/-! ## Usable routes -/

theorem mem_fromPorts {ports : List Key} :
    route ∈ fromPorts ports routes ↔
      route ∈ routes ∧ ∃ port ∈ ports, port ∈ route.sources := by
  unfold fromPorts
  simp [List.mem_filter, List.any_eq_true, hasSource_iff]

theorem mem_sinks {sink : Key} : sink ∈ sinks routes ↔ ∃ route ∈ routes, route.sink = sink := by
  unfold sinks
  rw [KeyMap.mem_keys, KeySet.contains_ofList, List.mem_map]

theorem exclusiveAt_iff {sink : Key} :
    exclusiveAt sink routes = true ↔
      ∀ route ∈ routes, route.sink = sink → route.exclusive = true := by
  unfold exclusiveAt
  rw [List.all_eq_true]
  simp only [List.mem_filter, beq_iff_eq, and_imp]

end Patchbay.Route
