import Patchbay.Suggestion
import Patchbay.Proofs.Checks

/-!
# What a suggestion keeps

A suggestion fills in format, layout, sample rate and gain. Everything else is that of the
config it starts from: the current one, or the default of the port. A valid suggestion is the
request laid over that config (`Port.suggest_of_valid`).
-/

namespace Patchbay

/-- The config `base` with the fields that the request names, as far as a request may set them. -/
def Config.laidOver (request base : Config) : Config :=
  { base with
    format := request.format.or base.format
    layout := request.layout.or base.layout
    sampleRate := request.sampleRate.or base.sampleRate
    gain := request.gain.or base.gain }

/-- The flags are those of the port, and layout and sample rate belong to the profile, each as far
as the request names it. -/
structure Config.Offered (port : Port) (profile : Profile) (request : Config) : Prop where
  flags : ∀ flags ∈ request.flags, flags = port.flags
  layout : ∀ layout ∈ request.layout, layout ∈ profile.layouts
  sampleRate : ∀ rate ∈ request.sampleRate, rate ∈ profile.sampleRates

/-- A requested value that is supported is taken. -/
theorem settled_of_all {α : Type} {requested fallback : Option α} {supported : α → Bool}
    (h : requested.all supported = true) :
    settled requested supported fallback = requested.or fallback := by
  unfold settled
  cases requested with
  | none => rfl
  | some value =>
    have hvalue : supported value = true := h
    simp [Option.filter, hvalue]

namespace Port

variable {port : Port} {request : Config} {suggestion : Suggestion}

/-- The config that a suggestion starts from. -/
def base (port : Port) : Option Config → Except Fault Config
  | some config => .ok config
  | none => port.defaultConfig

/-- The suggestion over `base` for a format that has the profile `profile`. -/
def suggestOver (port : Port) (request base : Config) (profile : Profile) : Suggestion :=
  { config := { base with
      format := settled request.format port.supports base.format
      layout := settled request.layout (profile.layouts.contains ·) base.layout
      sampleRate := settled request.sampleRate (profile.sampleRates.contains ·) base.sampleRate
      gain := request.gain.or base.gain }
    valid := request.flags.all (· = port.flags) && request.format.all port.supports &&
      request.layout.all (profile.layouts.contains ·) &&
      request.sampleRate.all (profile.sampleRates.contains ·)
    complete := request.flags.isSome && request.format.isSome && request.layout.isSome &&
      request.sampleRate.isSome }

theorem suggest_eq_ok {current : Option Config} :
    port.suggest request current = .ok suggestion ↔
      ∃ base profile, port.base current = .ok base ∧
        (settled request.format port.supports base.format).bind port.profile? = some profile ∧
        suggestion = port.suggestOver request base profile := by
  unfold suggest
  cases current with
  | none =>
    simp only [bind_eq_ok, pure_eq_ok, present_eq_ok]
    constructor
    · rintro ⟨base, hbase, profile, hprofile, rfl⟩
      exact ⟨base, profile, hbase, hprofile, rfl⟩
    · rintro ⟨base, profile, hbase, hprofile, rfl⟩
      exact ⟨base, hbase, profile, hprofile, rfl⟩
  | some config =>
    simp only [bind_eq_ok, pure_eq_ok, present_eq_ok]
    constructor
    · rintro ⟨base, hbase, profile, hprofile, rfl⟩
      exact ⟨base, profile, hbase, hprofile, rfl⟩
    · rintro ⟨base, profile, hbase, hprofile, rfl⟩
      exact ⟨base, hbase, profile, hprofile, rfl⟩

/-- The default config belongs to the port, has its flags, and has no key yet. -/
theorem defaultConfig_place {config : Config} (h : port.defaultConfig = .ok config) :
    config.id = 0 ∧ config.portId = port.id ∧ config.flags = some port.flags := by
  unfold defaultConfig at h
  simp only [bind_eq_ok, pure_eq_ok] at h
  obtain ⟨profile, _, layout, _, sampleRate, _, rfl⟩ := h
  exact ⟨rfl, rfl, rfl⟩

/-- An update stays at the place of the config that it updates. -/
theorem suggest_place_of_current {config : Config}
    (h : port.suggest request (some config) = .ok suggestion) :
    suggestion.config.id = config.id ∧ suggestion.config.portId = config.portId := by
  obtain ⟨base, profile, hbase, _, rfl⟩ := suggest_eq_ok.1 h
  cases hbase
  exact ⟨rfl, rfl⟩

/-- A new config belongs to the port. -/
theorem suggest_place_of_none (h : port.suggest request none = .ok suggestion) :
    suggestion.config.portId = port.id := by
  obtain ⟨base, profile, hbase, _, rfl⟩ := suggest_eq_ok.1 h
  exact (defaultConfig_place hbase).2.1

/-- A valid suggestion is the request laid over a config, and a profile of the port offers all
that was requested. -/
theorem suggest_of_valid {current : Option Config}
    (h : port.suggest request current = .ok suggestion) (hvalid : suggestion.valid = true) :
    ∃ base profile, port.base current = .ok base ∧ suggestion.config = request.laidOver base ∧
      (request.laidOver base).format.bind port.profile? = some profile ∧
      request.Offered port profile := by
  obtain ⟨base, profile, hbase, hprofile, rfl⟩ := suggest_eq_ok.1 h
  unfold suggestOver at hvalid ⊢
  simp only [Bool.and_eq_true] at hvalid
  obtain ⟨⟨⟨hflags, hformat⟩, hlayout⟩, hrate⟩ := hvalid
  rw [settled_of_all hformat] at hprofile
  refine ⟨base, profile, hbase, ?_, hprofile, ?_⟩
  · rw [settled_of_all hformat, settled_of_all hlayout, settled_of_all hrate]
    rfl
  · simp only [Option.all_eq_true, decide_eq_true_eq, List.contains_iff_mem]
      at hflags hlayout hrate
    exact ⟨hflags, hlayout, hrate⟩

/-- A complete request names layout and sample rate. -/
theorem suggest_complete {current : Option Config}
    (h : port.suggest request current = .ok suggestion) (hcomplete : suggestion.complete = true) :
    request.layout.isSome = true ∧ request.sampleRate.isSome = true := by
  obtain ⟨base, profile, _, _, rfl⟩ := suggest_eq_ok.1 h
  unfold suggestOver at hcomplete
  simp only [Bool.and_eq_true] at hcomplete
  exact ⟨hcomplete.1.2, hcomplete.2⟩

end Port

end Patchbay
