import Patchbay.Proofs.Support

/-!
# Suggestions for new configs

A request for a new config is laid over the default config of the port, which has the first choice
of the first profile in every field. A port that has a default config answers every such request:
the format of the suggestion has a profile, whether it is the requested one or that of the default
(`Port.suggest_new`). The suggestion applies exactly if the request is supported as it stands
(`Port.applies_new_iff`).

A suggestion that is sent back as a request is suggested again. This does not make it apply, even
if it was valid: what the request left to the default need not belong to the profile of the format
that it named. `Port.applies_again_iff` says when it does.
-/

namespace Patchbay

/-- A settled value settles as itself. -/
theorem settled_settled {α : Type} {requested fallback : Option α} {supported : α → Bool} :
    settled (settled requested supported fallback) supported fallback =
      settled requested supported fallback := by
  unfold settled
  cases hfilter : requested.filter supported with
  | some value =>
    have hvalue : supported value = true := (Option.filter_eq_some_iff.1 hfilter).2
    simp [hvalue]
  | none =>
    -- the fallback settles as itself, supported or not
    rw [Option.none_or]
    cases fallback with
    | none => rfl
    | some value => cases hvalue : supported value <;> simp [Option.filter, hvalue]

theorem isSome_settled {α : Type} {requested fallback : Option α} {supported : α → Bool}
    (h : fallback.isSome = true) : (settled requested supported fallback).isSome = true := by
  unfold settled
  simp [Option.isSome_or, h]

/-- A value that is given and good. -/
theorem all_and_isSome_iff {α : Type} {value : Option α} {good : α → Bool} :
    (value.all good = true ∧ value.isSome = true) ↔ ∃ given ∈ value, good given = true := by
  cases value with
  | none => simp
  | some given => simp

namespace Port

variable {port : Port} {request base : Config} {suggestion : Suggestion} {profile : Profile}

/-! ## The default config -/

/-- A port has a default config when its first profile has a layout and a sample rate. -/
theorem defaultConfig_eq_ok :
    port.defaultConfig = .ok base ↔
      ∃ profile layout rate, port.profiles.head? = some profile ∧
        profile.layouts.head? = some layout ∧ profile.sampleRates.head? = some rate ∧
        base =
          { id := 0, portId := port.id, sampleRate := some rate, layout := some layout,
            format := some profile.format, gain := none, flags := some port.flags,
            role := port.role } := by
  unfold defaultConfig
  simp only [bind_eq_ok, present_eq_ok, pure_eq_ok]
  constructor
  · rintro ⟨profile, hprofile, layout, hlayout, rate, hrate, rfl⟩
    exact ⟨profile, layout, rate, hprofile, hlayout, hrate, rfl⟩
  · rintro ⟨profile, layout, rate, hprofile, hlayout, hrate, rfl⟩
    exact ⟨profile, hprofile, layout, hlayout, rate, hrate, rfl⟩

theorem exists_defaultConfig_iff :
    (∃ base, port.defaultConfig = .ok base) ↔
      ∃ profile, port.profiles.head? = some profile ∧ profile.layouts ≠ [] ∧
        profile.sampleRates ≠ [] := by
  constructor
  · rintro ⟨base, hbase⟩
    obtain ⟨profile, layout, rate, hprofile, hlayout, hrate, _⟩ := defaultConfig_eq_ok.1 hbase
    exact ⟨profile, hprofile, List.ne_nil_of_mem (List.mem_of_mem_head? hlayout),
      List.ne_nil_of_mem (List.mem_of_mem_head? hrate)⟩
  · rintro ⟨profile, hprofile, hlayouts, hrates⟩
    exact ⟨_, defaultConfig_eq_ok.2 ⟨profile, _, _, hprofile, List.head?_eq_some_head hlayouts,
      List.head?_eq_some_head hrates, rfl⟩⟩

/-- What keeps a port from having a default config is held against the request. -/
theorem kind_of_defaultConfig_error {fault : Fault} (h : port.defaultConfig = .error fault) :
    fault.kind = .invalidArgument := by
  unfold defaultConfig at h
  simp only [bind_eq_error, present_eq_error] at h
  rcases h with ⟨_, rfl⟩ | ⟨_, _, ⟨_, rfl⟩ | ⟨_, _, ⟨_, rfl⟩ | ⟨_, _, h⟩⟩⟩
  · rfl
  · rfl
  · rfl
  · cases h

/-- No earlier profile has the format of the first one. -/
theorem profile?_of_head? (h : port.profiles.head? = some profile) :
    port.profile? profile.format = some profile := by
  obtain ⟨rest, hprofiles⟩ := List.head?_eq_some_iff.1 h
  exact profile?_eq_some_iff.2 ⟨rfl, [], rest, hprofiles, nofun⟩

/-- The default config is supported. -/
theorem defaultConfig_supportedBy (h : port.defaultConfig = .ok base) :
    base.SupportedBy port := by
  obtain ⟨profile, layout, rate, hprofile, hlayout, hrate, rfl⟩ := defaultConfig_eq_ok.1 h
  refine ⟨rfl, profile, profile?_of_head? hprofile, ⟨layout, rfl, ?_⟩, rate, rfl, ?_⟩
  · exact List.mem_of_mem_head? hlayout
  · exact List.mem_of_mem_head? hrate

/-! ## Suggestions over it -/

/-- The format that a request settles with has a profile, if the fallback has one. -/
theorem exists_profile_settled {fallback : Option Format}
    (h : ∃ profile, fallback.bind port.profile? = some profile) (requested : Option Format) :
    ∃ profile, (settled requested port.supports fallback).bind port.profile? = some profile := by
  unfold settled
  cases hfilter : requested.filter port.supports with
  | none => exact h
  | some format =>
    -- only a supported format passes the filter
    have hsupports : port.supports format = true := (Option.filter_eq_some_iff.1 hfilter).2
    exact Option.isSome_iff_exists.1 hsupports

/-- A port that has a default config answers every request for a new config. -/
theorem suggest_new (hbase : port.defaultConfig = .ok base) (request : Config) :
    ∃ suggestion, port.suggest request none = .ok suggestion := by
  obtain ⟨_, profile, hprofile, _⟩ := defaultConfig_supportedBy hbase
  obtain ⟨settled, hsettled⟩ := exists_profile_settled ⟨profile, hprofile⟩ request.format
  exact ⟨_, suggest_eq_ok.2 ⟨base, settled, hbase, hsettled, rfl⟩⟩

/-- What the request names is supported, and it names all that is asked of a new config. -/
theorem suggestOver_applies_iff :
    (port.suggestOver request base profile).applies false = true ↔
      request.flags = some port.flags ∧
        (∃ format ∈ request.format, port.supports format = true) ∧ profile.Offers request := by
  have hflags : (∃ flags ∈ request.flags, decide (flags = port.flags) = true) ↔
      request.flags = some port.flags := by simp
  unfold Suggestion.applies suggestOver Profile.Offers
  simp only [Bool.false_or, Bool.and_eq_true, ← hflags, ← all_and_isSome_iff,
    ← List.contains_iff_mem]
  constructor
  · rintro ⟨⟨⟨⟨hflags, hformat⟩, hlayout⟩, hrate⟩, ⟨⟨hflags', hformat'⟩, hlayout'⟩, hrate'⟩
    exact ⟨⟨hflags, hflags'⟩, ⟨hformat, hformat'⟩, ⟨hlayout, hlayout'⟩, hrate, hrate'⟩
  · rintro ⟨⟨hflags, hflags'⟩, ⟨hformat, hformat'⟩, ⟨hlayout, hlayout'⟩, hrate, hrate'⟩
    exact ⟨⟨⟨⟨hflags, hformat⟩, hlayout⟩, hrate⟩, ⟨⟨hflags', hformat'⟩, hlayout'⟩, hrate'⟩

/-- A suggestion for a new config has no key yet. -/
theorem suggest_new_id (h : port.suggest request none = .ok suggestion) :
    suggestion.config.id = 0 := by
  obtain ⟨base, _, hbase, _, rfl⟩ := suggest_eq_ok.1 h
  exact (defaultConfig_place hbase).1

/-- A port without a default config answers none. -/
theorem suggest_new_error {fault : Fault} (h : port.defaultConfig = .error fault)
    (request : Config) : port.suggest request none = .error fault := by
  unfold suggest
  rw [h]
  rfl

/-- A suggestion for a new config applies exactly if the request is a config that the port
supports. -/
theorem applies_new_iff (h : port.suggest request none = .ok suggestion) :
    suggestion.applies false = true ↔ request.SupportedBy port := by
  obtain ⟨base, profile, _, hprofile, rfl⟩ := suggest_eq_ok.1 h
  rw [suggestOver_applies_iff]
  unfold Config.SupportedBy
  cases hformat : request.format with
  | none => simp
  | some format =>
    rw [hformat] at hprofile
    by_cases hsupports : port.supports format = true
    · -- the profile is that of the requested format
      have hsettled : settled (some format) port.supports base.format = some format := by
        unfold settled
        simp [hsupports]
      rw [hsettled, Option.bind_some] at hprofile
      simp [hsupports, hprofile]
    · have hnone : port.profile? format = none := Option.not_isSome_iff_eq_none.1 hsupports
      simp [hsupports, hnone]

/-- What applies is the request, with the flags and the role of the port. -/
theorem suggest_new_config (h : port.suggest request none = .ok suggestion)
    (hsupported : request.SupportedBy port) :
    suggestion.config =
      { request with id := 0, portId := port.id, flags := some port.flags, role := port.role } := by
  have happlies := (applies_new_iff h).2 hsupported
  unfold Suggestion.applies at happlies
  rw [Bool.and_eq_true] at happlies
  obtain ⟨base, _, hbase, hconfig, _, _⟩ := suggest_of_valid h happlies.1
  obtain ⟨_, _, _, _, _, _, rfl⟩ := defaultConfig_eq_ok.1 hbase
  obtain ⟨_, profile, hprofile, ⟨layout, hlayout, _⟩, rate, hrate, _⟩ := hsupported
  obtain ⟨format, hformat, _⟩ := Option.bind_eq_some_iff.1 hprofile
  rw [Option.mem_def] at hlayout hrate
  rw [hconfig]
  unfold Config.laidOver
  simp [hformat, hlayout, hrate]

/-! ## Suggestions that are sent back -/

/-- A suggestion for a new config that is sent back is suggested again, and leaves nothing open. -/
theorem suggest_again (h : port.suggest request none = .ok suggestion) :
    ∃ again, port.suggest suggestion.config none = .ok again ∧
      again.config = suggestion.config ∧ again.complete = true := by
  obtain ⟨base, profile, hbase, hprofile, rfl⟩ := suggest_eq_ok.1 h
  refine ⟨port.suggestOver (port.suggestOver request base profile).config base profile, ?_, ?_, ?_⟩
  · refine suggest_eq_ok.2 ⟨base, profile, hbase, ?_, rfl⟩
    unfold suggestOver
    rw [settled_settled]
    exact hprofile
  · unfold suggestOver
    obtain ⟨_, _, _, _, _, _, rfl⟩ := defaultConfig_eq_ok.1 hbase
    simp only [settled_settled, Option.or_none]
  · unfold suggestOver
    obtain ⟨_, _, _, _, _, _, rfl⟩ := defaultConfig_eq_ok.1 hbase
    simp [isSome_settled]

/-- A valid suggestion that is sent back applies exactly if the request fits the default config. -/
theorem applies_again_iff {again : Suggestion} (h : port.suggest request none = .ok suggestion)
    (hvalid : suggestion.valid = true) (hbase : port.defaultConfig = .ok base)
    (hagain : port.suggest suggestion.config none = .ok again) :
    again.applies false = true ↔ request.Fits port base := by
  rw [applies_new_iff hagain]
  obtain ⟨_, profile, hbase', hconfig, hprofile, hoffered⟩ := suggest_of_valid h hvalid
  cases hbase.symm.trans hbase'
  rw [hconfig]
  exact Config.supportedBy_laidOver_iff (defaultConfig_supportedBy hbase) hprofile hoffered

end Port

end Patchbay
