import Patchbay.Proofs.Route

/-!
# Taking extensions back

Devices come one after the other and go in an order of their own. A new port may get the routes of
a port that is new itself, and may be left when that one has gone. `Route.extendAll` gives new ports
their routes in turn, `Route.pruneAll` takes ports out in turn.

Two facts hold of all the tables on the way, so that it does not matter which extensions build on
which. Without the new ports, the routes are the same before and after every extension
(`without_extendAll`), and to prune ports in any order is to leave all of them out
(`pruneAll_eq_without`). Besides, every route keeps a source that the table had at first
(`Anchored.extendAll`, `Anchored.pruneAll`). That source need not be the template, which may have
been pruned before.
-/

namespace Patchbay.Route

/-- A new port, and the port whose routes it gets. -/
structure Extension where
  template : Key
  port : Key

/-- Gives new ports the routes of their templates, one port after the other. -/
def extendAll (extensions : List Extension) (routes : List Route) : List Route :=
  extensions.foldl (fun table extension => extend extension.template extension.port table) routes

/-- Takes ports out of all routes, one port after the other. -/
def pruneAll (ports : List Key) (routes : List Route) : List Route :=
  ports.foldl (fun table port => prune port table) routes

variable {ports anchors : List Key} {extensions : List Extension} {routes : List Route}

theorem extendAll_cons (extension : Extension) (rest : List Extension) :
    extendAll (extension :: rest) routes =
      extendAll rest (extend extension.template extension.port routes) :=
  rfl

theorem pruneAll_cons (port : Key) (rest : List Key) :
    pruneAll (port :: rest) routes = pruneAll rest (prune port routes) :=
  rfl

/-- To prune ports one after the other is to leave them all out. -/
theorem pruneAll_eq_without : pruneAll ports routes = without ports routes := by
  induction ports generalizing routes with
  | nil => exact without_nil.symm
  | cons port rest ih =>
    calc pruneAll (port :: rest) routes
        = pruneAll rest (prune port routes) := pruneAll_cons port rest
      _ = without rest (prune port routes) := ih
      _ = without (port :: rest) routes := without_prune

/-- Without the new ports, the routes do not show that there have been extensions. -/
theorem without_extendAll (h : ∀ extension ∈ extensions, extension.port ∈ ports) :
    without ports (extendAll extensions routes) = without ports routes := by
  induction extensions generalizing routes with
  | nil => rfl
  | cons extension rest ih =>
    obtain ⟨hport, hrest⟩ := List.forall_mem_cons.1 h
    rw [extendAll_cons, ih hrest]
    exact without_extend_of_mem hport extension.template

theorem Anchored.extendAll (h : Anchored anchors routes) (extensions : List Extension) :
    Anchored anchors (extendAll extensions routes) := by
  induction extensions generalizing routes with
  | nil => exact h
  | cons extension rest ih =>
    rw [extendAll_cons]
    exact ih (h.extend extension.template extension.port)

theorem Anchored.pruneAll (h : Anchored anchors routes) (hports : ∀ port ∈ ports, port ∉ anchors) :
    Anchored anchors (pruneAll ports routes) := by
  induction ports generalizing routes with
  | nil => exact h
  | cons port rest ih =>
    obtain ⟨hport, hrest⟩ := List.forall_mem_cons.1 hports
    rw [pruneAll_cons]
    exact ih (h.prune hport) hrest

/-- Routes that have sources are anchored at the sources that there are. -/
theorem anchored_of_ne_nil (h : ∀ route ∈ routes, route.sources ≠ []) :
    Anchored (routes.flatMap (·.sources)) routes := by
  intro route hroute
  obtain ⟨source, hsource⟩ := List.exists_mem_of_ne_nil _ (h route hroute)
  exact ⟨source, hsource, List.mem_flatMap.2 ⟨route, hroute, hsource⟩⟩

/-- **Extensions can be taken back in any order.** New ports get the routes of templates, which may
be any ports, new ones included. When all new ports are pruned, in whatever order, the table is what
it was at first, with its routes and their sources in their old order. When some of them are, none
of these is mentioned any more, and no route has lost its last source. All that is asked of the new
ports is that the table does not mention them at first. -/
theorem extensions_reversible
    (hnew : ∀ extension ∈ extensions, ¬ Mentions routes extension.port) :
    (∀ order : List Key, order.Perm (extensions.map (·.port)) →
      pruneAll order (extendAll extensions routes) = routes) ∧
    ∀ gone : List Key, gone ⊆ extensions.map (·.port) →
      (∀ port ∈ gone, ¬ Mentions (pruneAll gone (extendAll extensions routes)) port) ∧
      ((∀ route ∈ routes, route.sources ≠ []) →
        ∀ route ∈ pruneAll gone (extendAll extensions routes), route.sources ≠ []) := by
  have hports : ∀ port ∈ extensions.map (·.port), ¬ Mentions routes port :=
    List.forall_mem_map.2 hnew
  constructor
  · intro order horder
    have hall : ∀ extension ∈ extensions, extension.port ∈ order := by
      intro extension hextension
      exact horder.symm.subset (List.mem_map_of_mem hextension)
    have horiginal : ∀ port ∈ order, ¬ Mentions routes port := by
      intro port hport
      exact hports port (horder.subset hport)
    calc pruneAll order (extendAll extensions routes)
        = without order (extendAll extensions routes) := pruneAll_eq_without
      _ = without order routes := without_extendAll hall
      _ = routes := without_of_not_mentions horiginal
  · intro gone hgone
    constructor
    · intro port hport
      rw [pruneAll_eq_without]
      exact not_mentions_without hport
    · intro hsources route hroute
      have hanchors : ∀ port ∈ gone, port ∉ routes.flatMap (·.sources) := by
        intro port hport hmem
        obtain ⟨old, hold, hsource⟩ := List.mem_flatMap.1 hmem
        exact (not_mentions_iff.1 (hports port (hgone hport)) old hold).2 hsource
      have hanchored := ((anchored_of_ne_nil hsources).extendAll extensions).pruneAll hanchors
      obtain ⟨source, hsource, _⟩ := hanchored route hroute
      exact List.ne_nil_of_mem hsource

/-- Port 6 is a source and a sink, also of the same route. -/
def loopTable : List Route :=
  [ { sources := [3], sink := 6, exclusive := true },
    { sources := [6, 2], sink := 5, exclusive := false },
    { sources := [2, 6], sink := 6, exclusive := false } ]

/-- Port 9 gets the routes of port 8, which is new itself, and port 11 is a further source of routes
that were made for the other three. -/
def loopExtensions : List Extension :=
  [ { template := 6, port := 8 }, { template := 8, port := 9 },
    { template := 5, port := 10 }, { template := 6, port := 11 } ]

theorem loopTable_restored :
    (∀ extension ∈ loopExtensions, ¬ Mentions loopTable extension.port) ∧
      [8, 11, 9, 10].Perm (loopExtensions.map (·.port)) ∧
      [8, 10] ⊆ loopExtensions.map (·.port) ∧ (∀ route ∈ loopTable, route.sources ≠ []) ∧
      pruneAll [8, 11, 9, 10] (extendAll loopExtensions loopTable) = loopTable ∧
      (∀ port ∈ [8, 10], ¬ Mentions (pruneAll [8, 10] (extendAll loopExtensions loopTable)) port) ∧
      ∀ route ∈ pruneAll [8, 10] (extendAll loopExtensions loopTable), route.sources ≠ [] := by
  have hnew : ∀ extension ∈ loopExtensions, ¬ Mentions loopTable extension.port := by decide
  have horder : [8, 11, 9, 10].Perm (loopExtensions.map (·.port)) := by decide
  have hgone : [8, 10] ⊆ loopExtensions.map (·.port) := by decide
  have hsources : ∀ route ∈ loopTable, route.sources ≠ [] := by decide
  obtain ⟨hrestored, hpruned⟩ := extensions_reversible hnew
  obtain ⟨hmentions, hfed⟩ := hpruned [8, 10] hgone
  exact ⟨hnew, horder, hgone, hsources, hrestored _ horder, hmentions, hfed hsources⟩

end Patchbay.Route
