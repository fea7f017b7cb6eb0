import Patchbay.Proofs.SoundBay

/-!
# Exclusive sinks

A port to which only exclusive routes lead is fed by at most one patch. A new patch is
tested against the routes from its own sources, and the record of usage says whether the
sink is taken. The record is exact, so the test excludes a second patch on admission
(`Ledger.isUsed_eq_false_of_free`). Afterwards no route is lost while a patch feeds its sink, so
a sink cannot become exclusive behind the back of the patches that share it
(`Bay.Effect.route_kept`).
-/

namespace Patchbay

/-- The patch has a config of the port `port` among its sinks. -/
def Patch.Feeds (configs : List Config) (patch : Patch) (port : Key) : Prop :=
  ∃ config ∈ configs, config.id ∈ patch.sinks ∧ config.portId = port

instance (configs : List Config) (patch : Patch) (port : Key) :
    Decidable (patch.Feeds configs port) :=
  inferInstanceAs (Decidable (∃ config ∈ configs, config.id ∈ patch.sinks ∧ config.portId = port))

namespace Patch

variable {patch : Patch} {configs configs' : List Config} {port : Key}

/-- A patch uses the ports that it feeds. -/
theorem Feeds.uses (h : patch.Feeds configs port) : patch.Uses configs port := by
  obtain ⟨config, hmem, hsink, hport⟩ := h
  exact ⟨config, hmem, List.mem_append_right _ hsink, .inr hport⟩

theorem SamePlaces.feeds_iff (h : SamePlaces configs configs' patch) :
    patch.Feeds configs port ↔ patch.Feeds configs' port := by
  have hnamed : ∀ place : Key × Key,
      place.1 ∈ patch.sinks ∧ place.2 = port → place.1 ∈ patch.configs :=
    fun _ hfeeds => List.mem_append_right _ hfeeds.1
  exact h.exists_iff hnamed

end Patch

namespace Ledger

/-- Two patches that feed a port to which only exclusive routes lead are the same. -/
def Unshared (configs : List Config) (routes : List Route) (ledger : Ledger) : Prop :=
  ∀ port, (∀ route ∈ routes, route.sink = port → route.exclusive = true) →
    ∀ patch ∈ ledger.patches, ∀ other ∈ ledger.patches,
      patch.Feeds configs port → other.Feeds configs port → patch.id = other.id

variable {configs configs' : List Config} {routes routes' usable : List Route} {limits : Limits}
  {ledger next : Ledger} {request patch : Patch} {port : Key}

/-! ## Admission -/

/-- A port that an admitted patch feeds is not in use when only exclusive routes lead to
it. -/
theorem isUsed_eq_false_of_free {usage : Usage} (hnd : (Table.keys configs).Nodup)
    (husable : request.usableRoutes configs routes = .ok usable)
    (hfree : requireFree usage usable = .ok ())
    (hexclusive : ∀ route ∈ routes, route.sink = port → route.exclusive = true)
    (hfeeds : request.Feeds configs port) : usage.isUsed port = false := by
  obtain ⟨_, hreached, rfl⟩ := Patch.usableRoutes_eq_ok.1 husable
  obtain ⟨config, hmem, hsink, hport⟩ := hfeeds
  have hports : port ∈ Patch.portsOf configs request.sinks :=
    (Patch.mem_portsOf_iff hnd).2 ⟨config, hmem, hsink, hport⟩
  obtain ⟨route, hroute, rfl⟩ := hreached port hports
  refine requireFree_eq_ok.1 hfree route hroute (Route.exclusiveAt_iff.2 ?_)
  intro other hother hsame
  exact hexclusive other (Route.mem_fromPorts.1 hother).1 hsame

/-- A patch joins others without sharing when its usable routes are free of them. -/
theorem Unshared.join {usage : Usage} (h : ledger.Unshared configs routes)
    (hused : ∀ old ∈ ledger.patches, old.id ≠ patch.id → ∀ key, old.Uses configs key →
      usage.isUsed key = true)
    (hnd : (Table.keys configs).Nodup)
    (husable : request.usableRoutes configs routes = .ok usable)
    (hfree : requireFree usage usable = .ok ()) (hsinks : patch.sinks = request.sinks)
    (hnext : ∀ other ∈ next.patches,
      other = patch ∨ other ∈ ledger.patches ∧ other.id ≠ patch.id) :
    next.Unshared configs routes := by
  intro port hexclusive
  -- no other patch feeds a port that the new one feeds
  have hapart : ∀ old ∈ ledger.patches, old.id ≠ patch.id → patch.Feeds configs port →
      ¬ old.Feeds configs port := by
    intro old hold hne hpatch hfeeds
    have hrequest : request.Feeds configs port := by
      unfold Patch.Feeds at hpatch ⊢
      rw [← hsinks]
      exact hpatch
    have hunused := isUsed_eq_false_of_free hnd husable hfree hexclusive hrequest
    rw [hused old hold hne port hfeeds.uses] at hunused
    cases hunused
  intro one hone two htwo hfeeds hfeeds'
  rcases hnext one hone with rfl | ⟨hone, hne⟩ <;> rcases hnext two htwo with rfl | ⟨htwo, hne'⟩
  · rfl
  · exact absurd hfeeds' (hapart two htwo hne' hfeeds)
  · exact absurd hfeeds (hapart one hone hne hfeeds')
  · exact h port hexclusive one hone two htwo hfeeds hfeeds'

/-- A patch under a new key takes its exclusive sinks alone. -/
theorem Unshared.enter (h : ledger.Unshared configs routes) (hsound : ledger.Sound configs limits)
    (hnd : (Table.keys configs).Nodup)
    (husable : request.usableRoutes configs routes = .ok usable)
    (hfree : requireFree ledger.usage usable = .ok ()) (hsinks : patch.sinks = request.sinks)
    (hnew : patch.id ∉ Table.keys ledger.patches) (last : Key) :
    (ledger.enter patch configs last).Unshared configs routes := by
  refine h.join (fun old hold _ key huses => ?_) hnd husable hfree hsinks fun other hother => ?_
  · exact hsound.isUsed_iff.2 ⟨old, hold, huses⟩
  · rcases List.mem_append.1 hother with hother | hother
    · have hne : other.id ≠ patch.id := fun he => hnew (he ▸ List.mem_map_of_mem hother)
      exact .inr ⟨hother, hne⟩
    · exact .inl (List.mem_singleton.1 hother)

/-- A patch that is updated takes its exclusive sinks alone. -/
theorem Unshared.update (h : ledger.Unshared configs routes) (hsound : ledger.Sound configs limits)
    (hnd : (Table.keys configs).Nodup)
    (husable : request.usableRoutes configs routes = .ok usable)
    (hfree : requireFree (ledger.usage.release patch.id) usable = .ok ())
    (hsinks : patch.sinks = request.sinks) (hold : patch.id ∈ Table.keys ledger.patches) :
    (ledger.update patch configs).Unshared configs routes := by
  refine h.join (fun old hmem hne key huses => ?_) hnd husable hfree hsinks fun other hother => ?_
  · exact hsound.isUsed_release_iff.2 ⟨old, hmem, hne, huses⟩
  · exact (Table.mem_replace hsound.keys_nodup hold).1 hother

/-- Setting a patch shares no exclusive sink. -/
theorem Unshared.accept (h : ledger.Unshared configs routes) (hsound : ledger.Sound configs limits)
    (hnd : (Table.keys configs).Nodup)
    (haccept : ledger.accept request configs routes limits = .ok (patch, next)) :
    next.Unshared configs routes := by
  obtain ⟨usable, husable, hcases⟩ := accept_eq_ok.1 haccept
  rcases hcases with ⟨_, hfree, key, hkey, rfl, rfl⟩ | ⟨_, hold, hfree, rfl, rfl⟩
  · have hsinks : { request.completed limits with id := key }.sinks = request.sinks := rfl
    exact h.enter hsound hnd husable hfree hsinks (hsound.next_not_mem hkey) key
  · have hsinks : (request.completed limits).sinks = request.sinks := rfl
    exact h.update hsound hnd husable hfree hsinks hold

/-- Restoring a patch shares no exclusive sink. -/
theorem Unshared.restore (h : ledger.Unshared configs routes)
    (hsound : ledger.Sound configs limits) (hnd : (Table.keys configs).Nodup)
    (hrestore : ledger.restore request configs routes limits = .ok (patch, next)) :
    next.Unshared configs routes := by
  obtain ⟨_, hnew, usable, husable, hfree, rfl, rfl⟩ := restore_eq_ok.1 hrestore
  have hsinks : (request.completed limits).sinks = request.sinks := rfl
  exact h.enter hsound hnd husable hfree hsinks hnew _

/-- Removing a patch shares nothing. -/
theorem Unshared.reset {key : Key} (h : ledger.Unshared configs routes)
    (hreset : ledger.reset key = .ok next) : next.Unshared configs routes := by
  obtain ⟨_, rfl⟩ := reset_eq_ok.1 hreset
  intro port hexclusive patch hpatch other hother
  exact h port hexclusive patch (Table.mem_of_mem_remove hpatch) other
    (Table.mem_of_mem_remove hother)

/-! ## Changes of the graph -/

/-- Nothing becomes shared as long as patches stay at their places and every route to a
port that they feed is kept. -/
theorem Unshared.graph (h : ledger.Unshared configs routes)
    (hplaces : ∀ patch ∈ ledger.patches, Patch.SamePlaces configs configs' patch)
    (hroutes : ∀ route ∈ routes, (∃ patch ∈ ledger.patches, patch.Feeds configs route.sink) →
      ∃ kept ∈ routes', kept.sink = route.sink ∧ kept.exclusive = route.exclusive) :
    ledger.Unshared configs' routes' := by
  intro port hexclusive patch hpatch other hother hfeeds hfeeds'
  have hfeeds := (hplaces patch hpatch).feeds_iff.2 hfeeds
  have hfeeds' := (hplaces other hother).feeds_iff.2 hfeeds'
  refine h port ?_ patch hpatch other hother hfeeds hfeeds'
  intro route hroute hsink
  obtain ⟨kept, hkept, hsame, hflag⟩ := hroutes route hroute ⟨patch, hpatch, hsink ▸ hfeeds⟩
  rw [← hflag]
  exact hexclusive kept hkept (hsame.trans hsink)

end Ledger

namespace Bay

variable {topology : Topology} {query : ProfileQuery} {bay next : Bay} {request : Request}
  {answer : Answer}

/-- No effect shares an exclusive sink. -/
theorem Effect.unshared (hwf : topology.WellFormed) (h : bay.Sound topology)
    (hunshared : bay.ledger.Unshared bay.graph.configs bay.graph.routes)
    (he : Effect bay request answer next) :
    next.ledger.Unshared next.graph.configs next.graph.routes := by
  have hplaces := he.samePlaces hwf h
  have hroutes : ∀ route ∈ bay.graph.routes,
      (∃ patch ∈ bay.ledger.patches, patch.Feeds bay.graph.configs route.sink) →
        ∃ kept ∈ next.graph.routes, kept.sink = route.sink ∧
          kept.exclusive = route.exclusive := by
    intro route hroute ⟨_, _, config, hmem, _, hport⟩
    obtain ⟨kept, hkept, hsink, hflag, _⟩ := he.route_kept hwf h hroute ⟨config, hmem, hport⟩
    exact ⟨kept, hkept, hsink, hflag⟩
  cases he with
  | setPatch haccept => exact hunshared.accept h.ledger h.graph.configs_nodup haccept
  | resetPatch hreset => exact hunshared.reset hreset
  | _ => exact hunshared.graph hplaces hroutes

/-- The initial patches share no exclusive sink. -/
theorem unshared_of_ofTopology? (h : ofTopology? topology query = .ok bay) :
    bay.ledger.Unshared bay.graph.configs bay.graph.routes := by
  obtain ⟨hvalid, ledger, hledger, rfl⟩ := ofTopology?_eq_ok h
  have hnd : (Table.keys topology.configs).Nodup :=
    (Topology.wellFormed_of_validate hvalid).configs_nodup
  let motive (ledger : Ledger) : Prop :=
    ledger.Sound topology.configs topology.limits ∧
      ledger.Unshared topology.configs topology.routes
  have hempty : motive .empty := ⟨Ledger.sound_empty _ _, nofun⟩
  suffices motive ledger from this.2
  refine admitAll_induction hempty (fun _ _ _ _ h hrestore => ?_) hledger
  exact ⟨h.1.restore hnd hrestore, h.2.restore h.1 hnd hrestore⟩

/-- No reachable bay shares an exclusive sink. -/
theorem Reachable.unshared (h : Reachable topology query bay) :
    bay.ledger.Unshared bay.graph.configs bay.graph.routes := by
  refine h.invariant (fun _ => unshared_of_ofTopology?) fun hsound hunshared he => ?_
  exact he.unshared h.wellFormed hsound hunshared

/-- **Exclusive sinks are never shared.** In a reachable bay, a port to which only exclusive
routes lead is fed by at most one patch. -/
theorem exclusive_sink_unshared (h : Reachable topology query bay) (port : Key)
    (hexclusive : ∀ route ∈ bay.graph.routes, route.sink = port → route.exclusive = true) :
    bay.ledger.patches.countP (fun patch => patch.Feeds bay.graph.configs port) ≤ 1 := by
  refine Table.countP_le_one h.sound.ledger.keys_nodup fun patch hpatch other hother => ?_
  simp only [decide_eq_true_eq]
  exact h.unshared port hexclusive patch hpatch other hother

/-- The built-in topology with the compressed route to the speaker as the only one. -/
def exclusiveSpeaker : Topology :=
  { Topology.builtIn with routes := [{ sources := [4], sink := 1, exclusive := true }] }

/-- Two configs for compressed output, both to be patched to the speaker. -/
def speakerContest : List Request :=
  [ .playCompressed, .playCompressed, .setPatch (.request [8] [1]), .setPatch (.request [9] [1]) ]

theorem speakerContest_unshared :
    Reachable exclusiveSpeaker .unavailable
        ((start exclusiveSpeaker .empty .unavailable).run speakerContest).2 ∧
      (((start exclusiveSpeaker .empty .unavailable).run speakerContest).2.ledger.patches.map
        (·.sinks)) = [[1]] ∧
      ((start exclusiveSpeaker .empty .unavailable).run speakerContest).2.ledger.patches.countP
        (fun patch => patch.Feeds
          ((start exclusiveSpeaker .empty .unavailable).run speakerContest).2.graph.configs 1) ≤ 1 := by
  have hstart : ofTopology? exclusiveSpeaker .unavailable =
      .ok (start exclusiveSpeaker .empty .unavailable) := rfl
  have hreach := (Reachable.start hstart).run speakerContest
  exact ⟨hreach, by decide, exclusive_sink_unshared hreach 1 (by decide)⟩

end Bay

end Patchbay
