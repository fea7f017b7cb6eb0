import Patchbay.Proofs.InitialPatches
import Patchbay.Proofs.PatchAdmission

/-!
# To update a patch is to create it anew

A patch that is updated keeps its key and its position: what it uses is released, the request is
checked against the others, and it is registered again. A client can do the same in two requests,
one that removes the patch and one that creates it anew. The two ways are refused with the same
fault, and where they are granted they lead to the same bay but for the key and the position of the
patch (`Ledger.Rekeyed`). What differs otherwise is that a refusal comes too late to save the patch
in the second way, and that a new patch needs a key.
-/

namespace Patchbay

/-- The renaming that puts `new` in the place of `old`. -/
def Key.moved (old new : Key) : Key → Key :=
  fun key => if key = old then new else key

namespace Ledger

/-- The second ledger has the patches of the first one in some order, with the patch `old` under the
key `new`, and its record of usage is renamed along with them. -/
structure Rekeyed (old new : Key) (one two : Ledger) : Prop where
  patches : two.patches.Perm (one.patches.map (Patch.renamed (Key.moved old new)))
  usage : two.usage = one.usage.rename (Key.moved old new)
  new_not_mem : new ∉ Table.keys one.patches

variable {configs : List Config} {limits : Limits}
  {ledger cleared : Ledger} {request patch : Patch} {key : Key}

/-- Patches with other keys are not renamed. -/
theorem map_renamed_moved {patches : List Patch} (h : ∀ patch ∈ patches, patch.id ≠ key)
    (new : Key) : patches.map (Patch.renamed (Key.moved key new)) = patches := by
  rw [List.map_congr_left (g := id), List.map_id]
  intro patch hmem
  unfold Patch.renamed Key.moved
  rw [if_neg (h patch hmem)]
  rfl

/-- A patch in the place of an old one, and the same patch behind the others once the old one is
gone, make for the same ledger but for the key. -/
theorem Sound.rekeyed (hsound : ledger.Sound configs limits) (hnd : (Table.keys configs).Nodup)
    (hpatch : patch.Complete configs limits) (hold : patch.id ∈ Table.keys ledger.patches)
    (hkey : ledger.lastKey.next? = some key) (hreset : ledger.reset patch.id = .ok cleared) :
    Rekeyed patch.id key (ledger.update patch configs)
      (cleared.enter { patch with id := key } configs key) := by
  have hnew : key ∉ Table.keys ledger.patches := hsound.next_not_mem hkey
  have hone : (ledger.update patch configs).Sound configs limits := hsound.update hnd hpatch hold
  have hcleared : cleared.Sound configs limits := hsound.reset hreset
  obtain ⟨_, rfl⟩ := reset_eq_ok.1 hreset
  have htwo := hcleared.enter hnd (hpatch.withKey key) (hcleared.next_not_mem hkey)
    (Int32.le_of_lt (Key.lt_of_next? hkey)) (Int32.le_refl key)
  have hothers : ∀ other ∈ Table.remove ledger.patches patch.id, other.id ≠ patch.id := by
    intro other hmem
    exact ((Table.mem_remove hsound.keys_nodup).1 hmem).2
  have hpatches : (Table.remove ledger.patches patch.id ++ [{ patch with id := key }]).Perm
      ((Table.replace patch ledger.patches).map (Patch.renamed (Key.moved patch.id key))) := by
    have hmap := (Table.replace_perm hold).map (Patch.renamed (Key.moved patch.id key))
    rw [List.map_append] at hmap
    refine .trans (.of_eq ?_) hmap.symm
    congr 1
    · exact (map_renamed_moved hothers key).symm
    · simp [Patch.renamed, Key.moved]
  refine ⟨hpatches, hone.usage_rename htwo hpatches, ?_⟩
  show key ∉ Table.keys (Table.replace patch ledger.patches)
  rw [Table.keys_replace]
  exact hnew

/-- An update and a creation after the removal are refused with the same fault, or both are granted
and lead to the same ledger but for the key. -/
theorem Sound.accept_or_recreate (hsound : ledger.Sound configs limits)
    (hnd : (Table.keys configs).Nodup) (hold : request.id ≠ 0)
    (hknown : request.id ∈ Table.keys ledger.patches)
    (hkey : ledger.lastKey.next? = some key) (hreset : ledger.reset request.id = .ok cleared)
    (routes : List Route) :
    (∃ fault, ledger.accept request configs routes limits = .error fault ∧
        cleared.accept request.anew configs routes limits = .error fault) ∨
      ∃ updated one two, ledger.accept request configs routes limits = .ok (updated, one) ∧
        cleared.accept request.anew configs routes limits = .ok ({ updated with id := key }, two) ∧
        Rekeyed request.id key one two := by
  -- the old key matters neither for the usable routes nor for what is in use by others
  have hrelease : cleared.usage = ledger.usage.release request.id := by
    rw [(reset_eq_ok.1 hreset).2]
  have hlast : cleared.lastKey = ledger.lastKey := by
    rw [(reset_eq_ok.1 hreset).2]
  have hothers : ledger.othersUsage request = ledger.usage.release request.id := if_neg hold
  have hothers' : cleared.othersUsage request.anew = ledger.usage.release request.id := hrelease
  cases husable : request.usableRoutes configs routes with
  | error fault =>
    left
    exact ⟨fault, accept_eq_error_of_usableRoutes husable, accept_eq_error_of_usableRoutes husable⟩
  | ok usable =>
    have husable' : request.anew.usableRoutes configs routes = .ok usable := husable
    cases hfree : requireFree (ledger.usage.release request.id) usable with
    | error fault =>
      left
      refine ⟨fault, accept_eq_error_of_requireFree husable (fun _ => hknown) ?_,
        accept_eq_error_of_requireFree husable' (fun hne => absurd rfl hne) ?_⟩
      · rw [hothers, hfree]
      · rw [hothers', hfree]
    | ok _ =>
      right
      have hcomplete := (Patch.usableRoutes_eq_ok.1 husable).1.complete limits
      refine ⟨_, _, _, accept_eq_ok.2 ⟨usable, husable, .inr ⟨hold, hknown, hfree, rfl, rfl⟩⟩, ?_,
        hsound.rekeyed hnd hcomplete hknown hkey hreset⟩
      apply accept_eq_ok.2
      refine ⟨usable, husable', .inl ⟨rfl, ?_, key, ?_, rfl, rfl⟩⟩
      · rw [hrelease, hfree]
      · rw [hlast, hkey]

end Ledger

namespace Bay

variable {topology : Topology} {query : ProfileQuery} {bay : Bay}

/-- **To update a patch is to create it anew.** In a reachable bay with a patch key left, a request
to update a patch is refused exactly when the patch can be removed but the request to create it anew
is refused then, with the same fault. Otherwise both ways are granted, with the same patch but for
its key, and lead to bays that have the same patches but for the key and the order, and the same
record of usage but for the key, and are equal in everything outside of the ledger. -/
theorem update_as_recreation (h : Reachable topology query bay) (request : Patch)
    (hleft : bay.ledger.lastKey ≠ Int32.maxValue)
    (hknown : request.id ∈ Table.keys bay.ledger.patches) :
    (∃ fault, bay.step (.setPatch request) = (.error fault, bay) ∧
        (bay.run [.resetPatch request.id, .setPatch request.anew]).1 = [.ok .done, .error fault]) ∨
      ∃ updated created one two,
        bay.step (.setPatch request) = (.ok (.patch updated), { bay with ledger := one }) ∧
        bay.run [.resetPatch request.id, .setPatch request.anew] =
          ([.ok .done, .ok (.patch created)], { bay with ledger := two }) ∧
        created = { updated with id := created.id } ∧
        Ledger.Rekeyed request.id created.id one two := by
  have hsound := h.sound
  have hnd := hsound.graph.configs_nodup
  have hold : request.id ≠ 0 := by
    intro hzero
    have hpos := h.positive.2 request.id hknown
    rw [hzero] at hpos
    exact Int32.lt_irrefl hpos
  obtain ⟨key, hkey⟩ := Option.ne_none_iff_exists'.1 (mt Key.next?_eq_none.1 hleft)
  obtain ⟨cleared, hreset⟩ : ∃ cleared, bay.ledger.reset request.id = .ok cleared :=
    ⟨_, Ledger.reset_eq_ok.2 ⟨hknown, rfl⟩⟩
  have hfirst := step_of_respond (respond_resetPatch_of_ok hreset)
  rcases hsound.ledger.accept_or_recreate hnd hold hknown hkey hreset bay.graph.routes with
    ⟨fault, haccept, hanew⟩ | ⟨updated, one, two, haccept, hanew, hrekeyed⟩
  · left
    have hsecond : (({ bay with ledger := cleared } : Bay).step (.setPatch request.anew)).1 =
        .error fault := setPatch_eq_error.2 hanew
    refine ⟨fault, step_of_error (step_eq_error.1 (setPatch_eq_error.2 haccept)), ?_⟩
    rw [run_cons, hfirst, run_cons, hsecond]
    rfl
  · right
    have hsecond : ({ bay with ledger := cleared } : Bay).step (.setPatch request.anew) =
        (.ok (.patch { updated with id := key }), { bay with ledger := two }) :=
      step_of_respond (respond_setPatch_of_ok hanew)
    refine ⟨updated, { updated with id := key }, one, two,
      step_of_respond (respond_setPatch_of_ok haccept), ?_, rfl, hrekeyed⟩
    rw [run_cons, hfirst, run_cons, hsecond]
    rfl

/-- Two configs for compressed output, one of them patched to the speaker over an exclusive route. -/
def offloadSession : List Request :=
  speakerRivals ++ [.setPatch (.request [8] [1])]

/-- The patch goes over to the other config, although nothing else may use the speaker meanwhile. -/
theorem offloadSession_recreated :
    ∃ bay, bay = ((builtIn .unavailable).run offloadSession).2 ∧
      Reachable .builtIn .unavailable bay ∧ bay.ledger.lastKey ≠ Int32.maxValue ∧
      1 ∈ Table.keys bay.ledger.patches ∧
      ∃ updated created one two,
        bay.step (.setPatch { Patch.request [9] [1] with id := 1 }) =
          (.ok (.patch updated), { bay with ledger := one }) ∧
        bay.run [.resetPatch 1, .setPatch (.request [9] [1])] =
          ([.ok .done, .ok (.patch created)], { bay with ledger := two }) ∧
        Ledger.Rekeyed 1 created.id one two := by
  have hstart : ofTopology? .builtIn .unavailable = .ok (builtIn .unavailable) := rfl
  have hreach := (Reachable.start hstart).run offloadSession
  have hleft : ((builtIn .unavailable).run offloadSession).2.ledger.lastKey ≠ Int32.maxValue := by
    decide
  have hknown : 1 ∈ Table.keys ((builtIn .unavailable).run offloadSession).2.ledger.patches := by
    decide
  refine ⟨_, rfl, hreach, hleft, hknown, ?_⟩
  have hrecreated := update_as_recreation hreach { Patch.request [9] [1] with id := 1 } hleft
    hknown
  rcases hrecreated with ⟨fault, hfault, _⟩ | ⟨updated, created, one, two, haccept, hrun, _, hrekeyed⟩
  · -- the update is granted
    have hgranted : (((builtIn .unavailable).run offloadSession).2.step
        (.setPatch { Patch.request [9] [1] with id := 1 })).1.isOk = true := by decide
    rw [hfault] at hgranted
    cases hgranted
  · exact ⟨updated, created, one, two, haccept, hrun, hrekeyed⟩

end Bay

end Patchbay
