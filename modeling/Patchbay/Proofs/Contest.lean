import Patchbay.Proofs.Exclusive
import Patchbay.Proofs.Supply

/-!
# Contests for a sink

Two requests for new patches compete for a port when each of them feeds it and would be granted
on its own. The one that is sent first is granted. Whether the second one is granted depends on
its own routes only: it is barred when it reaches a port in use by exclusive routes only
(`Patch.BarredBy`), whatever routes the patch that uses the port has.

So if the second one reaches the contested port by exclusive routes only, exactly one of the two
is granted (`contest_second_refused`). The order matters when just one of them does: a patch over
an exclusive route does not keep out one that comes later over a shared route
(`not_contest_one_winner`).
-/

namespace Patchbay

namespace Patch

/-- Every route by which the patch reaches the port is exclusive. -/
def OnlyExclusive (configs : List Config) (routes : List Route) (patch : Patch) (port : Key) :
    Prop :=
  ∀ route ∈ routes, patch.StartsAt configs route → route.sink = port → route.exclusive = true

instance (configs : List Config) (routes : List Route) (patch : Patch) (port : Key) :
    Decidable (patch.OnlyExclusive configs routes port) :=
  inferInstanceAs (Decidable (∀ route ∈ routes,
    patch.StartsAt configs route → route.sink = port → route.exclusive = true))

/-- The patch reaches a port that `other` uses, and by exclusive routes only. -/
def BarredBy (configs : List Config) (routes : List Route) (patch other : Patch) : Prop :=
  ∃ port, patch.Reaches configs routes port ∧ patch.OnlyExclusive configs routes port ∧
    other.Uses configs port

variable {configs : List Config} {routes usable : List Route} {request : Patch} {port : Key}

theorem exclusiveAt_usable_iff (hnd : (Table.keys configs).Nodup)
    (husable : request.usableRoutes configs routes = .ok usable) :
    Route.exclusiveAt port usable = true ↔ request.OnlyExclusive configs routes port := by
  rw [Route.exclusiveAt_iff]
  simp only [mem_usable_iff hnd husable, and_imp]
  exact Iff.rfl

/-- A request reaches every port that it feeds. -/
theorem reaches_of_feeds (hnd : (Table.keys configs).Nodup)
    (husable : request.usableRoutes configs routes = .ok usable)
    (hfeeds : request.Feeds configs port) : request.Reaches configs routes port := by
  obtain ⟨_, hreached, _⟩ := usableRoutes_eq_ok.1 husable
  obtain ⟨config, hmem, hsink, hport⟩ := hfeeds
  obtain ⟨route, hroute, rfl⟩ :=
    hreached port ((mem_portsOf_iff hnd).2 ⟨config, hmem, hsink, hport⟩)
  obtain ⟨hroute, hstart⟩ := (mem_usable_iff hnd husable).1 hroute
  exact ⟨route, hroute, rfl, hstart⟩

end Patch

namespace Ledger

variable {configs : List Config} {routes usable : List Route} {limits : Limits}
  {ledger : Ledger} {request : Patch}

/-- The usable routes of a request are free unless one of the patches that are on record bars it. -/
theorem requireFree_iff_not_barred {usage : Usage} {recorded : Patch → Prop}
    (hused : ∀ key, usage.isUsed key = true ↔ ∃ patch, recorded patch ∧ patch.Uses configs key)
    (hnd : (Table.keys configs).Nodup)
    (husable : request.usableRoutes configs routes = .ok usable) :
    requireFree usage usable = .ok () ↔
      ∀ patch, recorded patch → ¬ request.BarredBy configs routes patch := by
  rw [requireFree_eq_ok]
  simp only [Patch.mem_usable_iff hnd husable, Patch.exclusiveAt_usable_iff hnd husable]
  constructor
  · rintro hfree patch hpatch ⟨port, ⟨route, hroute, rfl, hstart⟩, hexclusive, huses⟩
    have hunused := hfree route ⟨hroute, hstart⟩ hexclusive
    rw [(hused route.sink).2 ⟨patch, hpatch, huses⟩] at hunused
    cases hunused
  · intro hbarred route ⟨hroute, hstart⟩ hexclusive
    rw [Bool.eq_false_iff]
    intro hbusy
    obtain ⟨patch, hpatch, huses⟩ := (hused route.sink).1 hbusy
    exact hbarred patch hpatch ⟨route.sink, ⟨route, hroute, rfl, hstart⟩, hexclusive, huses⟩

/-- A new patch is admitted exactly when it has usable routes, is barred by no patch, and a key
is left for it. -/
theorem exists_accept_new_iff (hsound : ledger.Sound configs limits)
    (hnd : (Table.keys configs).Nodup) (hnew : request.id = 0) :
    (∃ result, ledger.accept request configs routes limits = .ok result) ↔
      (∃ usable, request.usableRoutes configs routes = .ok usable) ∧
        (∀ patch ∈ ledger.patches, ¬ request.BarredBy configs routes patch) ∧
        ∃ key, ledger.lastKey.next? = some key := by
  constructor
  · rintro ⟨⟨patch, next⟩, haccept⟩
    obtain ⟨usable, husable, hcases⟩ := accept_eq_ok.1 haccept
    rcases hcases with ⟨_, hfree, key, hkey, _⟩ | ⟨hold, _⟩
    · have hbarred := (requireFree_iff_not_barred (fun _ => hsound.isUsed_iff) hnd husable).1 hfree
      exact ⟨⟨usable, husable⟩, hbarred, key, hkey⟩
    · exact absurd hnew hold
  · rintro ⟨⟨usable, husable⟩, hbarred, key, hkey⟩
    have hfree := (requireFree_iff_not_barred (fun _ => hsound.isUsed_iff) hnd husable).2 hbarred
    exact ⟨_, accept_eq_ok.2 ⟨usable, husable, .inl ⟨hnew, hfree, key, hkey, rfl, rfl⟩⟩⟩

end Ledger

namespace Bay

/-- Which of the requests of a run are granted. -/
def granted (bay : Bay) (requests : List Request) : List Bool :=
  (bay.run requests).1.map Except.isOk

/-- Two requests for new patches feed the port, and each would be granted on its own. -/
structure Contest (bay : Bay) (port : Key) (one two : Patch) : Prop where
  one_new : one.id = 0
  two_new : two.id = 0
  one_feeds : one.Feeds bay.graph.configs port
  two_feeds : two.Feeds bay.graph.configs port
  one_alone : bay.granted [.setPatch one] = [true]
  two_alone : bay.granted [.setPatch two] = [true]

variable {topology : Topology} {query : ProfileQuery} {bay : Bay} {port : Key}
  {one two request patch : Patch} {ledger : Ledger}

theorem Contest.symm (h : bay.Contest port one two) : bay.Contest port two one where
  one_new := h.two_new
  two_new := h.one_new
  one_feeds := h.two_feeds
  two_feeds := h.one_feeds
  one_alone := h.two_alone
  two_alone := h.one_alone

theorem granted_cons (bay : Bay) (request : Request) (rest : List Request) :
    bay.granted (request :: rest) =
      (bay.step request).1.isOk :: (bay.step request).2.granted rest :=
  rfl

theorem granted_nil (bay : Bay) : bay.granted [] = [] :=
  rfl

/-! ## Requests for patches -/

theorem respond_setPatch_of_ok
    (haccept : bay.ledger.accept request bay.graph.configs bay.graph.routes bay.limits =
      .ok (patch, ledger)) :
    bay.respond (.setPatch request) = .ok (.patch patch, { bay with ledger }) := by
  simp only [respond, bind_eq_ok, pure_eq_ok]
  exact ⟨(patch, ledger), haccept, rfl⟩

/-- A request for a patch is granted exactly when the ledger sets it. -/
theorem isOk_setPatch_iff :
    (bay.step (.setPatch request)).1.isOk = true ↔
      ∃ result, bay.ledger.accept request bay.graph.configs bay.graph.routes bay.limits =
        .ok result := by
  rw [isOk_step_iff]
  constructor
  · rintro ⟨result, hresult⟩
    simp only [respond, bind_eq_ok] at hresult
    obtain ⟨result, haccept, _⟩ := hresult
    exact ⟨result, haccept⟩
  · rintro ⟨⟨patch, ledger⟩, haccept⟩
    exact ⟨_, respond_setPatch_of_ok haccept⟩

theorem granted_singleton_iff :
    bay.granted [.setPatch request] = [true] ↔
      ∃ result, bay.ledger.accept request bay.graph.configs bay.graph.routes bay.limits =
        .ok result := by
  rw [← isOk_setPatch_iff, granted_cons, granted_nil, List.cons.injEq, eq_self, and_true]

/-! ## Two requests -/

/-- Whether a key is left for a patch, and a further one for the patch after that. -/
def TwoKeysLeft (bay : Bay) : Prop :=
  ∃ key, bay.ledger.lastKey.next? = some key ∧ ∃ last, key.next? = some last

/-- The first of two competing requests is granted. The second one is granted as well exactly
when two keys are left and the first one does not bar it. -/
theorem Contest.granted_second (h : bay.Contest port one two) (hsound : bay.Sound topology) :
    ∃ second, bay.granted [.setPatch one, .setPatch two] = [true, second] ∧
      (second = true ↔
        bay.TwoKeysLeft ∧ ¬ two.BarredBy bay.graph.configs bay.graph.routes one) := by
  have hnd := hsound.graph.configs_nodup
  obtain ⟨⟨patch, ledger⟩, haccept⟩ := granted_singleton_iff.1 h.one_alone
  have hfirst : bay.step (.setPatch one) = (.ok (.patch patch), { bay with ledger }) :=
    step_of_respond (respond_setPatch_of_ok haccept)
  refine ⟨(({ bay with ledger } : Bay).step (.setPatch two)).1.isOk, ?_, ?_⟩
  · rw [granted_cons, hfirst, granted_cons, granted_nil]
    rfl
  -- nothing but the patch that the first request has made is new to the second one
  obtain ⟨husable, hbarred, _⟩ :=
    (Ledger.exists_accept_new_iff hsound.ledger hnd h.two_new).1
      (granted_singleton_iff.1 h.two_alone)
  have hsound' : ledger.Sound bay.graph.configs bay.limits := hsound.ledger.accept hnd haccept
  rw [isOk_setPatch_iff]
  show (∃ result, ledger.accept two bay.graph.configs bay.graph.routes bay.limits = .ok result) ↔ _
  rw [Ledger.exists_accept_new_iff hsound' hnd h.two_new]
  obtain ⟨_, _, hcases⟩ := Ledger.accept_eq_ok.1 haccept
  rcases hcases with ⟨_, _, key, hkey, rfl, rfl⟩ | ⟨hold, _⟩
  · show (_ ∧ (∀ other ∈ bay.ledger.patches ++ [_], _) ∧ ∃ last, key.next? = some last) ↔ _
    rw [List.forall_mem_append, List.forall_mem_singleton]
    constructor
    · rintro ⟨_, ⟨_, hnot⟩, last, hlast⟩
      exact ⟨⟨key, hkey, last, hlast⟩, hnot⟩
    · rintro ⟨⟨key', hkey', last, hlast⟩, hnot⟩
      rw [hkey] at hkey'
      cases hkey'
      exact ⟨husable, ⟨hbarred, hnot⟩, last, hlast⟩
  · exact absurd h.one_new hold

/-- Over exclusive routes only, the contested port bars the second request. -/
theorem Contest.barred (h : bay.Contest port one two) (hsound : bay.Sound topology)
    (hexclusive : two.OnlyExclusive bay.graph.configs bay.graph.routes port) :
    two.BarredBy bay.graph.configs bay.graph.routes one := by
  have hnd := hsound.graph.configs_nodup
  obtain ⟨⟨usable, husable⟩, _⟩ :=
    (Ledger.exists_accept_new_iff hsound.ledger hnd h.two_new).1
      (granted_singleton_iff.1 h.two_alone)
  have hreaches := Patch.reaches_of_feeds hnd husable h.two_feeds
  exact ⟨port, hreaches, hexclusive, h.one_feeds.uses⟩

theorem Contest.second_refused (h : bay.Contest port one two) (hsound : bay.Sound topology)
    (hexclusive : two.OnlyExclusive bay.graph.configs bay.graph.routes port) :
    bay.granted [.setPatch one, .setPatch two] = [true, false] := by
  obtain ⟨second, hgranted, hsecond⟩ := h.granted_second hsound
  have hfalse : second = false := by
    rw [Bool.eq_false_iff]
    intro htrue
    exact (hsecond.1 htrue).2 (h.barred hsound hexclusive)
  rw [hgranted, hfalse]

/-- **The second request for an exclusive sink is refused.** Of two requests that compete for a
port of a reachable bay, the first one is granted. The second one is refused when it reaches the
port by exclusive routes only; in general it is granted exactly when a key is left for it and it
reaches no port that the first one uses by exclusive routes only. -/
theorem contest_second_refused (hreach : Reachable topology query bay)
    (h : bay.Contest port one two) :
    (two.OnlyExclusive bay.graph.configs bay.graph.routes port →
      bay.granted [.setPatch one, .setPatch two] = [true, false]) ∧
    (one.OnlyExclusive bay.graph.configs bay.graph.routes port →
      bay.granted [.setPatch two, .setPatch one] = [true, false]) ∧
    (∃ second, bay.granted [.setPatch one, .setPatch two] = [true, second] ∧
      (second = true ↔
        bay.TwoKeysLeft ∧ ¬ two.BarredBy bay.graph.configs bay.graph.routes one)) ∧
    ∃ second, bay.granted [.setPatch two, .setPatch one] = [true, second] ∧
      (second = true ↔
        bay.TwoKeysLeft ∧ ¬ one.BarredBy bay.graph.configs bay.graph.routes two) := by
  have hsound := hreach.sound
  exact ⟨h.second_refused hsound, h.symm.second_refused hsound, h.granted_second hsound,
    h.symm.granted_second hsound⟩

/-- Configs for compressed output, twice, and for ordinary output. All may be patched to the
speaker, over an exclusive route and over a shared one. -/
def speakerRivals : List Request :=
  let playing (port : Key) (format : Format) : Request := .setConfig
    { Config.blank with
      portId := port, sampleRate := some 44100, layout := some .stereo, format := some format
      flags := (Table.find? Topology.BuiltIn.ports port).map (·.flags) }
  [ playing 4 (.encoded "audio/mpeg"), playing 4 (.encoded "audio/mpeg"),
    playing 3 (.pcm .int16) ]

theorem speakerRivals_second_refused :
    Reachable .builtIn .unavailable ((builtIn .unavailable).run speakerRivals).2 ∧
      ((builtIn .unavailable).run speakerRivals).2.Contest 1 (.request [10] [1])
        (.request [9] [1]) ∧
      ((builtIn .unavailable).run speakerRivals).2.granted
        [.setPatch (.request [10] [1]), .setPatch (.request [9] [1])] = [true, false] := by
  have hstart : ofTopology? .builtIn .unavailable = .ok (builtIn .unavailable) := rfl
  have hreach := (Reachable.start hstart).run speakerRivals
  have hcontest : ((builtIn .unavailable).run speakerRivals).2.Contest 1 (.request [10] [1])
      (.request [9] [1]) := ⟨rfl, rfl, by decide, by decide, by decide, by decide⟩
  exact ⟨hreach, hcontest, (contest_second_refused hreach hcontest).1 (by decide)⟩

/-- It is not so that exactly one of two competing requests is granted as soon as one of them has
exclusive routes only: ordinary output joins compressed output at the speaker. -/
theorem not_contest_one_winner :
    ¬ ∀ (topology : Topology) (query : ProfileQuery) (bay : Bay) (port : Key) (one two : Patch),
      Reachable topology query bay → bay.Contest port one two →
      one.OnlyExclusive bay.graph.configs bay.graph.routes port ∨
        two.OnlyExclusive bay.graph.configs bay.graph.routes port →
      (bay.granted [.setPatch one, .setPatch two]).count true = 1 ∧
        (bay.granted [.setPatch two, .setPatch one]).count true = 1 := by
  intro hclaim
  have hstart : ofTopology? .builtIn .unavailable = .ok (builtIn .unavailable) := rfl
  have hreach := (Reachable.start hstart).run speakerRivals
  have hcontest : ((builtIn .unavailable).run speakerRivals).2.Contest 1 (.request [8] [1])
      (.request [10] [1]) := ⟨rfl, rfl, by decide, by decide, by decide, by decide⟩
  have hone := (hclaim _ _ _ _ _ _ hreach hcontest (.inl (by decide))).1
  have htwo : ((builtIn .unavailable).run speakerRivals).2.granted
      [.setPatch (.request [8] [1]), .setPatch (.request [10] [1])] = [true, true] := by decide
  rw [htwo] at hone
  cases hone

end Bay

end Patchbay
