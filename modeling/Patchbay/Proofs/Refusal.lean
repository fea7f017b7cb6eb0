import Patchbay.Proofs.Effect

/-!
# Refusals leave no trace

A request that is refused changes nothing, and neither does a request for a config whose
suggestion is not stored. Hence such requests can be taken out of a run: all other
requests get the answers that they got before, and the run ends in the same bay.

`refusals_leave_no_trace` states both for every bay, reachable or not. The bay is compared
as a whole, with the record of usage and the counters for fresh keys. Most requests are refused
before anything has changed, but the update of a patch has worked on the record of usage by then
and puts back what it has taken out (`Ledger.set_eq_settle`).
-/

namespace Patchbay

/-- Whether an answer says that something may have been done: it is no fault, and no
suggestion that has not been stored. -/
def effective : Except Fault Answer → Bool
  | .ok (.config _ applied) => applied
  | .ok _ => true
  | .error _ => false

/-- `kept` is what is left of a run when requests without effect are taken out of it. -/
def Thinned (run kept : List (Request × Except Fault Answer)) : Prop :=
  kept.Sublist run ∧
    kept.filter (fun entry => effective entry.2) = run.filter (fun entry => effective entry.2)

namespace Thinned

variable {entry : Request × Except Fault Answer}
  {run kept : List (Request × Except Fault Answer)}

/-- A run is thinned when all that has no effect is taken out of it. -/
theorem of_effective (run : List (Request × Except Fault Answer)) :
    Thinned run (run.filter fun entry => effective entry.2) :=
  ⟨List.filter_sublist, by simp⟩

/-- What is left of a run that starts with `entry` starts with it too, unless `entry` had
no effect and has been taken out. -/
theorem cons_cases (h : Thinned (entry :: run) kept) :
    (∃ rest, kept = entry :: rest ∧ Thinned run rest) ∨
      effective entry.2 = false ∧ Thinned run kept := by
  obtain ⟨hsub, hfilter⟩ := h
  cases hsub with
  | cons _ hsub =>
    cases heffective : effective entry.2 with
    | false =>
      rw [List.filter_cons_of_neg (by simp [heffective])] at hfilter
      exact .inr ⟨rfl, hsub, hfilter⟩
    | true =>
      -- an entry with effect would be missing from what is kept
      rw [List.filter_cons_of_pos (by simp [heffective])] at hfilter
      have hlength := (hsub.filter fun entry => effective entry.2).length_le
      rw [hfilter, List.length_cons] at hlength
      omega
  | cons_cons _ hsub =>
    rename_i rest
    refine .inl ⟨rest, rfl, hsub, ?_⟩
    cases heffective : effective entry.2 with
    | false => simpa [List.filter_cons, heffective] using hfilter
    | true => simpa [List.filter_cons, heffective] using hfilter

end Thinned

namespace Bay

variable {bay next : Bay}

/-- A fault comes with the bay as it was. -/
theorem step_fault {request : Request} {fault : Fault}
    (h : bay.step request = (.error fault, next)) : next = bay := by
  rcases step_cases bay request with ⟨answer, next, hstep, _⟩ | ⟨_, hstep⟩
  · rw [hstep] at h
    cases h
  · rw [hstep] at h
    cases h
    rfl

/-- An effect other than a mere suggestion has an answer that says so. -/
theorem Effect.eq_of_suggestion {request : Request} {suggested : Config}
    (h : Effect bay request (.config suggested false) next) : next = bay := by
  cases h
  rfl

/-- A suggestion that is not stored comes with the bay as it was. -/
theorem step_suggestion {request : Request} {suggested : Config}
    (h : bay.step request = (.ok (.config suggested false), next)) : next = bay := by
  rcases step_cases bay request with ⟨answer, _, hstep, heffect⟩ | ⟨fault, hstep⟩
  · rw [hstep] at h
    cases h
    exact heffect.eq_of_suggestion
  · rw [hstep] at h
    cases h

theorem step_of_not_effective {request : Request}
    (h : effective (bay.step request).1 = false) : (bay.step request).2 = bay := by
  cases hstep : bay.step request with
  | mk answer next =>
    rw [hstep] at h
    cases answer with
    | error fault => exact step_fault hstep
    | ok answer =>
      cases answer with
      | config suggested applied =>
        have happlied : applied = false := h
        exact step_suggestion (happlied ▸ hstep)
      | _ => cases h

/-- The answers that are left of a run are those of the requests that are left of it. -/
theorem run_thinned {requests : List Request} {kept : List (Request × Except Fault Answer)}
    (h : Thinned (requests.zip (bay.run requests).1) kept) :
    bay.run (kept.map (·.1)) = (kept.map (·.2), (bay.run requests).2) := by
  induction requests generalizing bay kept with
  | nil =>
    rw [List.sublist_nil.1 h.1]
    rfl
  | cons request rest ih =>
    rw [run_cons, List.zip_cons_cons] at h
    rcases h.cons_cases with ⟨others, rfl, hothers⟩ | ⟨heffective, hkept⟩
    · rw [List.map_cons, run_cons, run_cons, ih hothers]
      rfl
    · have hsame := step_of_not_effective heffective
      rw [hsame] at hkept
      rw [run_cons, hsame]
      exact ih hkept

/-- **Requests are all or nothing.** After a fault, and after a suggestion that is not
stored, the bay is in every part the one before the request. Taking such requests out of a
run changes neither another answer nor the final bay. -/
theorem refusals_leave_no_trace (bay : Bay) :
    (∀ request fault next, bay.step request = (.error fault, next) → next = bay) ∧
    (∀ request suggested next,
      bay.step (.setConfig request) = (.ok (.config suggested false), next) → next = bay) ∧
    ∀ requests kept, Thinned (requests.zip (bay.run requests).1) kept →
      bay.run (kept.map (·.1)) = (kept.map (·.2), (bay.run requests).2) :=
  ⟨fun _ _ _ => step_fault, fun _ _ _ => step_suggestion, fun _ _ => run_thinned⟩

/-- Two patches play ordinary output to the speaker. The second one is to play compressed output
instead, but does not get the speaker for itself. That is found out when its use has been taken out
of the record already; if it stayed out, the config that the patch still plays could be reset. -/
def detourSession : List Request :=
  [ .playPcm 3 2 .stereo, .playPcm 3 2 .stereo, .playCompressed, .setPatch (.request [8] [1]),
    .setPatch (.request [9] [1]), .setPatch { Patch.request [10] [1] with id := 2 },
    .resetConfig 9, .setConfig { Config.blank with portId := 3 }, .resetPatch 2 ]

theorem detourSession_refusals_left_out :
    ∃ bay answers, bay = builtIn .unavailable ∧ answers = (bay.run detourSession).1 ∧
      -- the update and the reset are refused, and each leaves the bay that two patches have made
      (∃ patched, patched = (bay.run (detourSession.take 5)).2 ∧
        patched.ledger.usage.isUsed 9 = true ∧
        patched.step (.setPatch { Patch.request [10] [1] with id := 2 }) =
          (.error (.sinkExclusive 1), patched) ∧
        patched.step (.resetConfig 9) = (.error (.configPatched 9 2), patched)) ∧
      -- with the suggestion that follows, they can be left out
      ∃ kept, Thinned (detourSession.zip answers) kept ∧
        kept.map (·.1) = detourSession.take 5 ++ [.resetPatch 2] ∧
        bay.run (detourSession.take 5 ++ [.resetPatch 2]) =
          (kept.map (·.2), (bay.run detourSession).2) := by
  have hrefused : ∀ bay request fault, (step bay request).1 = .error fault →
      bay.step request = (.error fault, bay) := by
    intro bay request fault hfault
    have hstep : bay.step request = (.error fault, (bay.step request).2) := Prod.ext hfault rfl
    have hsame := (refusals_leave_no_trace bay).1 request fault _ hstep
    rw [hsame] at hstep
    exact hstep
  refine ⟨_, _, rfl, rfl, ⟨_, rfl, by decide, ?_, ?_⟩, ?_⟩
  · exact hrefused _ _ _ rfl
  · exact hrefused _ _ _ rfl
  · have hthinned := Thinned.of_effective
      (detourSession.zip ((builtIn .unavailable).run detourSession).1)
    have hkept : ((detourSession.zip ((builtIn .unavailable).run detourSession).1).filter
        fun entry => effective entry.2).map (·.1) = detourSession.take 5 ++ [.resetPatch 2] := by
      decide
    have hrun := (refusals_leave_no_trace (builtIn .unavailable)).2.2 _ _ hthinned
    rw [hkept] at hrun
    exact ⟨_, hthinned, hkept, hrun⟩

end Bay

end Patchbay
