import Patchbay.Proofs.Port
import Patchbay.Proofs.Refusal
import Patchbay.Proofs.SoundBay

/-!
# Supported configs

A config is supported when it has the flags of its port, and the profile for its format offers
its layout and its sample rate. What a request names is tested against that profile, but what
an update keeps of the config before is not: an update to another format may keep a layout
or a sample rate that the profile for the new format lacks (`Config.Fits` excludes this).

`Effect.supported_iff` says what one request does: when all configs are supported, they still are
after it, exactly if it is no update that fails to fit. Over runs this gives
`configs_supported_iff_fitting`.
-/

namespace Patchbay

/-- The layout and the sample rate of a config are set, and the profile has them. -/
def Profile.Offers (profile : Profile) (config : Config) : Prop :=
  (∃ layout ∈ config.layout, layout ∈ profile.layouts) ∧
    ∃ rate ∈ config.sampleRate, rate ∈ profile.sampleRates

instance (profile : Profile) (config : Config) : Decidable (profile.Offers config) :=
  inferInstanceAs (Decidable (_ ∧ _))

namespace Config

/-- The config has the flags of the port, and the profile for its format offers it. -/
def SupportedBy (port : Port) (config : Config) : Prop :=
  config.flags = some port.flags ∧
    ∃ profile ∈ config.format.bind port.profile?, profile.Offers config

/-- The config is supported by its port, which is among `ports`. -/
def Supported (ports : List Port) (config : Config) : Prop :=
  ∃ port ∈ Table.find? ports config.portId, config.SupportedBy port

/-- The profile for the requested format offers what an update of `current` leaves as it is. -/
def Fits (port : Port) (request current : Config) : Prop :=
  ∀ profile ∈ request.format.bind port.profile?,
    (request.layout = none → ∃ layout ∈ current.layout, layout ∈ profile.layouts) ∧
      (request.sampleRate = none → ∃ rate ∈ current.sampleRate, rate ∈ profile.sampleRates)

instance (port : Port) (config : Config) : Decidable (config.SupportedBy port) :=
  inferInstanceAs (Decidable (_ ∧ _))

instance (ports : List Port) (config : Config) : Decidable (config.Supported ports) :=
  inferInstanceAs (Decidable (∃ port ∈ Table.find? ports config.portId, config.SupportedBy port))

instance (port : Port) (request current : Config) : Decidable (request.Fits port current) :=
  inferInstanceAs (Decidable (∀ profile ∈ request.format.bind port.profile?, _ ∧ _))

end Config

/-- The profile that has to offer a config is the first one for its format. -/
theorem Config.supportedBy_iff {port : Port} {config : Config} :
    config.SupportedBy port ↔ config.flags = some port.flags ∧
      ∃ earlier profile later, port.profiles = earlier ++ profile :: later ∧
        (∀ other ∈ earlier, other.format ≠ profile.format) ∧
        config.format = some profile.format ∧ profile.Offers config := by
  unfold SupportedBy
  refine and_congr_right fun _ => ?_
  simp only [Option.mem_def, Option.bind_eq_some_iff, Port.profile?_eq_some_iff]
  constructor
  · rintro ⟨profile, ⟨format, hformat, rfl, earlier, later, hprofiles, hfirst⟩, hoffers⟩
    exact ⟨earlier, profile, later, hprofiles, hfirst, hformat, hoffers⟩
  · rintro ⟨earlier, profile, later, hprofiles, hfirst, hformat, hoffers⟩
    exact ⟨profile, ⟨_, hformat, rfl, earlier, later, hprofiles, hfirst⟩, hoffers⟩

theorem Config.supported_iff {ports : List Port} {config : Config} {port : Port}
    (hport : Table.find? ports config.portId = some port) :
    config.Supported ports ↔ config.SupportedBy port := by
  unfold Supported
  simp [hport]

/-! ## Requests laid over configs -/

/-- When requested values are good, a value that is requested or kept is good exactly if a kept
one is. -/
theorem exists_mem_or_iff {α : Type} {good : α → Prop} {requested : Option α}
    (h : ∀ value ∈ requested, good value) (kept : Option α) :
    (∃ value ∈ requested.or kept, good value) ↔
      (requested = none → ∃ value ∈ kept, good value) := by
  cases requested with
  | none => simp
  | some value => simpa using h value rfl

section Over

variable {port : Port} {profile : Profile} {request base : Config}

theorem Profile.offers_laidOver_iff (h : request.Offered port profile) :
    profile.Offers (request.laidOver base) ↔
      (request.layout = none → ∃ layout ∈ base.layout, layout ∈ profile.layouts) ∧
        (request.sampleRate = none → ∃ rate ∈ base.sampleRate, rate ∈ profile.sampleRates) := by
  have hlayout := exists_mem_or_iff h.layout base.layout
  have hrate := exists_mem_or_iff h.sampleRate base.sampleRate
  exact and_congr hlayout hrate

/-- A supported config under an offered request stays supported exactly if the request fits. -/
theorem Config.supportedBy_laidOver_iff (h : base.SupportedBy port)
    (hprofile : (request.laidOver base).format.bind port.profile? = some profile)
    (hoffered : request.Offered port profile) :
    (request.laidOver base).SupportedBy port ↔ request.Fits port base := by
  obtain ⟨hflags, current, hcurrent, hlayout, hrate⟩ := h
  have hflags : (request.laidOver base).flags = some port.flags := hflags
  have hover :
      (request.laidOver base).SupportedBy port ↔ profile.Offers (request.laidOver base) := by
    unfold SupportedBy
    simp [hflags, hprofile]
  rw [hover, Profile.offers_laidOver_iff hoffered]
  unfold Fits
  cases hformat : request.format with
  | none =>
    -- the profile is that of the config before
    have hkept : (request.laidOver base).format = base.format := by
      unfold laidOver
      rw [hformat]
      rfl
    rw [hkept, hcurrent] at hprofile
    cases hprofile
    exact iff_of_true ⟨fun _ => hlayout, fun _ => hrate⟩ nofun
  | some format =>
    -- the profile is the one that the request selects
    have hnew : (request.laidOver base).format = some format := by
      unfold laidOver
      rw [hformat]
      rfl
    rw [hnew] at hprofile
    simp [hprofile]

end Over

namespace Port

variable {port : Port} {request current : Config} {suggestion : Suggestion}

/-- A valid update of a supported config leaves one that is supported, exactly if it fits. -/
theorem suggest_supportedBy_iff (hsuggest : port.suggest request (some current) = .ok suggestion)
    (hvalid : suggestion.valid = true) (h : current.SupportedBy port) :
    suggestion.config.SupportedBy port ↔ request.Fits port current := by
  obtain ⟨base, profile, hbase, hconfig, hprofile, hoffered⟩ := suggest_of_valid hsuggest hvalid
  cases hbase
  rw [hconfig]
  exact Config.supportedBy_laidOver_iff h hprofile hoffered

/-- A valid and complete request makes a config that is supported. -/
theorem suggest_supportedBy (hsuggest : port.suggest request none = .ok suggestion)
    (hvalid : suggestion.valid = true) (hcomplete : suggestion.complete = true) :
    suggestion.config.SupportedBy port := by
  obtain ⟨base, profile, hbase, hconfig, hprofile, hoffered⟩ := suggest_of_valid hsuggest hvalid
  obtain ⟨hlayout, hrate⟩ := suggest_complete hsuggest hcomplete
  have hflags : base.flags = some port.flags := (defaultConfig_place hbase).2.2
  rw [hconfig]
  refine ⟨hflags, profile, hprofile, (Profile.offers_laidOver_iff hoffered).2 ⟨?_, ?_⟩⟩
  · intro hnone
    simp [hnone] at hlayout
  · intro hnone
    simp [hnone] at hrate

end Port

/-- The update of a config that a request asks for. -/
def Request.update? : Request → Option Config
  | .setConfig request => if request.id = 0 then none else some request
  | _ => none

namespace Bay

/-- Every config of the graph is supported by its port. -/
def Supported (bay : Bay) : Prop :=
  ∀ config ∈ bay.graph.configs, config.Supported bay.graph.ports

/-- An update fits the config that it finds. -/
def Fits (bay : Bay) (request : Request) : Prop :=
  ∀ update ∈ request.update?, ∀ current ∈ Table.find? bay.graph.configs update.id,
    ∀ port ∈ Table.find? bay.graph.ports current.portId, update.Fits port current

/-- Every update that is made in a run fits. -/
def Fitting (bay : Bay) : List Request → Prop
  | [] => True
  | request :: rest =>
    (effective (bay.step request).1 = true → bay.Fits request) ∧
      (bay.step request).2.Fitting rest

instance (bay : Bay) : Decidable bay.Supported :=
  inferInstanceAs (Decidable (∀ config ∈ bay.graph.configs, _))

instance (bay : Bay) (request : Request) : Decidable (bay.Fits request) :=
  inferInstanceAs (Decidable (∀ update ∈ request.update?, _))

instance decidableFitting (bay : Bay) : (requests : List Request) → Decidable (bay.Fitting requests)
  | [] => inferInstanceAs (Decidable True)
  | request :: rest =>
    have := (bay.step request).2.decidableFitting rest
    inferInstanceAs (Decidable (_ ∧ _))

variable {topology : Topology} {query : ProfileQuery} {bay next : Bay} {request : Request}
  {answer : Answer}

/-! ## What one request does -/

/-- Initial configs that are supported in the topology are supported in the graph. -/
theorem Sound.initial_supported (h : bay.Sound topology)
    (hinitial : ∀ config ∈ topology.configs, config.Supported topology.ports) :
    ∀ config ∈ bay.graph.initialConfigs, config.Supported bay.graph.ports := by
  intro config hmem
  rw [h.graph.initial] at hmem
  obtain ⟨port, hport, hsupported⟩ := hinitial config hmem
  obtain ⟨devices, hports, _⟩ := h.graph.ports
  rw [hports]
  exact ⟨port, Table.find?_append hport, hsupported⟩

/-- The port of a config is kept, and the config is supported by it as before. -/
theorem Effect.supported_kept (hwf : topology.WellFormed) (h : bay.Sound topology)
    (he : Effect bay request answer next) {config : Config} (hmem : config ∈ bay.graph.configs)
    (hsupported : config.Supported bay.graph.ports) : config.Supported next.graph.ports := by
  obtain ⟨port, hport, hsupported⟩ := hsupported
  exact ⟨port, he.port_kept hwf h hmem hport, hsupported⟩

/-- A request that asks for no update fits. -/
theorem fits_of_update?_eq_none (h : request.update? = none) : bay.Fits request := by
  intro update hupdate
  rw [h] at hupdate
  cases hupdate

theorem fits_iff {update current : Config} {port : Port} (hupdate : request.update? = some update)
    (hcurrent : Table.find? bay.graph.configs update.id = some current)
    (hport : Table.find? bay.graph.ports current.portId = some port) :
    bay.Fits request ↔ update.Fits port current := by
  unfold Fits
  simp [hupdate, hcurrent, hport]

/-- Among supported configs, one that replaces another has to be supported itself. -/
theorem supported_replace_iff (h : bay.Sound topology) (hsupported : bay.Supported)
    {config : Config} (hmem : config.id ∈ Table.keys bay.graph.configs) :
    (bay.withConfigs (Table.replace config bay.graph.configs)).Supported ↔
      config.Supported bay.graph.ports := by
  constructor
  · intro hall
    exact hall config ((Table.mem_replace h.graph.configs_nodup hmem).2 (.inl rfl))
  · intro hnew other hother
    rcases Table.mem_of_mem_replace hother with rfl | hold
    · exact hnew
    · exact hsupported other hold

/-- When all configs are supported, they still are after a request exactly if the request is no
update that fails to fit. -/
theorem Effect.supported_iff (hwf : topology.WellFormed) (h : bay.Sound topology)
    (hinitial : ∀ config ∈ topology.configs, config.Supported topology.ports)
    (hsupported : bay.Supported) (he : Effect bay request answer next) :
    next.Supported ↔ (effective (.ok answer) = true → bay.Fits request) := by
  have hkept : ∀ config ∈ bay.graph.configs, config.Supported next.graph.ports :=
    fun config hmem => he.supported_kept hwf h hmem (hsupported config hmem)
  cases he with
  | suggest _ _ _ => exact iff_of_true hsupported nofun
  | @updateConfig request config port suggestion hid hconfig hport hsuggest happlies =>
    have hupdate : (Request.setConfig request).update? = some request := if_neg hid
    unfold Suggestion.applies at happlies
    simp only [Bool.true_or, Bool.and_true] at happlies
    -- the updated config stays at its place, so only its support is in question
    obtain ⟨hid, hplace⟩ := Port.suggest_place_of_current hsuggest
    have hmem : config ∈ bay.graph.configs := Table.mem_of_find? hconfig
    have hkey : suggestion.config.id ∈ Table.keys bay.graph.configs :=
      Table.mem_keys.2 ⟨config, hmem, hid.symm⟩
    have hnew : Table.find? bay.graph.ports suggestion.config.portId = some port := by
      rw [hplace]
      exact hport
    rw [supported_replace_iff h hsupported hkey, Config.supported_iff hnew,
      Port.suggest_supportedBy_iff hsuggest happlies
        ((Config.supported_iff hport).1 (hsupported config hmem)),
      fits_iff hupdate hconfig hport]
    exact ⟨fun hfits _ => hfits, fun hfits => hfits rfl⟩
  | @createConfig request port suggestion key hid hport hsuggest happlies hkey =>
    have hnone : (Request.setConfig request).update? = none := if_pos hid
    refine iff_of_true ?_ fun _ => fits_of_update?_eq_none hnone
    unfold Suggestion.applies at happlies
    simp only [Bool.false_or, Bool.and_eq_true] at happlies
    have hplace : suggestion.config.portId = request.portId :=
      (Port.suggest_place_of_none hsuggest).trans (Table.key_of_find? hport)
    have hnew := Port.suggest_supportedBy hsuggest happlies.1 happlies.2
    refine List.forall_mem_append.2 ⟨hkept, List.forall_mem_singleton.2 ⟨port, ?_, hnew⟩⟩
    show Table.find? bay.graph.ports suggestion.config.portId = some port
    rw [hplace]
    exact hport
  | restoreConfig _ hfind =>
    refine iff_of_true (fun config hmem => ?_) fun _ => fits_of_update?_eq_none rfl
    rcases Table.mem_of_mem_replace hmem with rfl | hold
    · exact h.initial_supported hinitial _ (Table.mem_of_find? hfind)
    · exact hkept config hold
  | removeConfig _ _ _ =>
    refine iff_of_true (fun config hmem => ?_) fun _ => fits_of_update?_eq_none rfl
    exact hkept config (Table.mem_of_mem_remove hmem)
  | connect hconnect =>
    obtain ⟨_, _, _, rfl⟩ := Graph.connect_eq_withDevice hconnect
    exact iff_of_true hkept fun _ => fits_of_update?_eq_none rfl
  | disconnect hdisconnect =>
    obtain ⟨_, hconnected, hcustom, rfl⟩ := Graph.disconnect_eq_ok.1 hdisconnect
    refine iff_of_true (fun config hmem => ?_) fun _ => fits_of_update?_eq_none rfl
    exact hkept config (List.mem_filter.1 hmem).1
  | _ => exact iff_of_true hkept fun _ => fits_of_update?_eq_none rfl

/-! ## What a run does -/

/-- The configs stay supported through a run exactly if every update that is made in it fits. -/
theorem Reachable.supported_iff_fitting (hreach : Reachable topology query bay)
    (hinitial : ∀ config ∈ topology.configs, config.Supported topology.ports)
    (hsupported : bay.Supported) (requests : List Request) :
    (∀ done rest, requests = done ++ rest → (bay.run done).2.Supported) ↔
      bay.Fitting requests := by
  induction requests generalizing bay with
  | nil =>
    refine iff_of_true (fun done rest hsplit => ?_) trivial
    rw [(List.append_eq_nil_iff.1 hsplit.symm).1]
    exact hsupported
  | cons request rest ih =>
    have hstep : (bay.step request).2.Supported ↔
        (effective (bay.step request).1 = true → bay.Fits request) := by
      rcases step_cases bay request with ⟨answer, next, hstep, he⟩ | ⟨fault, hstep⟩
      · rw [hstep]
        exact he.supported_iff hreach.wellFormed hreach.sound hinitial hsupported
      · rw [hstep]
        exact iff_of_true hsupported nofun
    constructor
    · intro hall
      have hnext := hall [request] rest rfl
      refine ⟨hstep.1 hnext, (ih (hreach.step request) hnext).1 fun done others hsplit => ?_⟩
      exact hall (request :: done) others (congrArg (request :: ·) hsplit)
    · rintro ⟨hfits, hrest⟩ done others hsplit
      have hnext := hstep.2 hfits
      cases done with
      | nil => exact hsupported
      | cons first done =>
        obtain ⟨hfirst, hothers⟩ := List.cons.inj hsplit
        rw [← hfirst, run_cons]
        exact (ih (hreach.step request) hnext).2 hrest done others hothers

/-- **Configs stay supported as long as updates fit.** In a bay whose initial configs are supported
by their ports, all configs are supported throughout a run, exactly if no update that is made in
it names a format whose profile lacks the layout or the sample rate that the update keeps. -/
theorem configs_supported_iff_fitting (hstart : ofTopology? topology query = .ok bay)
    (hinitial : ∀ config ∈ topology.configs, config.Supported topology.ports)
    (requests : List Request) :
    (∀ done rest, requests = done ++ rest → (bay.run done).2.Supported) ↔
      bay.Fitting requests := by
  have hsupported : bay.Supported := by
    obtain ⟨_, ledger, _, rfl⟩ := ofTopology?_eq_ok hstart
    exact hinitial
  exact (Reachable.start hstart).supported_iff_fitting hinitial hsupported requests

/-- A USB output plays 16-bit audio at 48 kHz, and goes over to 24 bits as it is. -/
def retuneSession (layout : Layout) : List Request :=
  [ .setDebug .simulated, .connectUsb 1, .playPcm 8 0 layout,
    .setConfig { Config.blank with id := 9, format := some (.pcm .int24) } ]

theorem retuneSession_stereo_supported :
    ofTopology? .builtIn .unavailable = .ok (builtIn .unavailable) ∧
      (∀ config ∈ Topology.builtIn.configs, config.Supported Topology.builtIn.ports) ∧
      (builtIn .unavailable).Fitting (retuneSession .stereo) ∧
      (Table.find? ((builtIn .unavailable).run (retuneSession .stereo)).2.graph.configs 9).bind
        (·.format) = some (.pcm .int24) ∧
      ∀ done rest, retuneSession .stereo = done ++ rest →
        ((builtIn .unavailable).run done).2.Supported := by
  have hstart : ofTopology? .builtIn .unavailable = .ok (builtIn .unavailable) := rfl
  have hinitial : ∀ config ∈ Topology.builtIn.configs,
      config.Supported Topology.builtIn.ports := by decide
  have hfitting : (builtIn .unavailable).Fitting (retuneSession .stereo) := by decide
  exact ⟨hstart, hinitial, hfitting, by decide,
    (configs_supported_iff_fitting hstart hinitial _).2 hfitting⟩

/-- Not every run keeps configs supported: 24 bits are for stereo only, and the update leaves a
mono config. -/
theorem not_configs_supported :
    ¬ ∀ topology query bay, ofTopology? topology query = .ok bay →
      (∀ config ∈ topology.configs, config.Supported topology.ports) →
        ∀ requests, (bay.run requests).2.Supported := by
  intro h
  have hsupported := h .builtIn .unavailable _ rfl (by decide) (retuneSession .mono)
  exact absurd hsupported (by decide)

end Bay

end Patchbay
