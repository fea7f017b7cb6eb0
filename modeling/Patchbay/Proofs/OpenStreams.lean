import Patchbay.Proofs.Port
import Patchbay.Proofs.SoundBay

/-!
# Open streams

A stream is opened on a config after checks of the config, of its port and of the streams that are
open already, and its entry notes the port. Configs and ports change afterwards, but the checks
stay true: a config keeps its place, and its port stays as it is, for as long as a stream is open
on the config (`Bay.Effect.home_kept`). So every stream is where it was admitted, and the number
of streams that is compared with the cap of a mix port is the number of configs of the port that
have one (`Bay.StreamsLegal.countOn_eq_openOn`).
-/

namespace Patchbay

namespace Stream

/-- Where the audio data of a stream goes. -/
def direction : Stream → Direction
  | .input _ _ => .input
  | .output _ _ _ => .output

/-- The parameters of a compressed stream, if they were given. -/
def offload? : Stream → Option OffloadInfo
  | .input _ _ => none
  | .output _ _ offload => offload

end Stream

/-- What the entry of a stream on the config `config` says is right for `port`. -/
structure OpenStream.Legal (config : Key) (port : Port) (entry : OpenStream) : Prop where
  port_eq : entry.port = port.id
  mix : ∃ maxOpen, port.role.maxOpen? = some maxOpen
  config_eq : entry.stream.config = config
  direction : entry.stream.direction = port.flags.direction
  offload : port.flags.has .compressOffload = true → entry.stream.offload?.isSome = true

namespace Bay

variable {topology : Topology} {query : ProfileQuery} {bay next : Bay} {request : Request}
  {answer : Answer} {key : Key} {entry : OpenStream}

/-- The entry of a stream on the config `key` is right for the port of the config. -/
def Homed (bay : Bay) (key : Key) (entry : OpenStream) : Prop :=
  ∃ config port, Table.find? bay.graph.configs key = some config ∧
    Table.find? bay.graph.ports config.portId = some port ∧ entry.Legal key port

/-- Every stream is where it may be, and no mix port has more streams than it takes. -/
structure StreamsLegal (bay : Bay) : Prop where
  homed : ∀ key entry, bay.streams.get? key = some entry → bay.Homed key entry
  capped : ∀ port ∈ bay.graph.ports, ∀ maxOpen, port.role.maxOpen? = some maxOpen →
    maxOpen ≠ 0 → bay.streams.countOn port.id ≤ maxOpen.toNat

/-- The number of configs of a port that have an open stream. -/
def openOn (bay : Bay) (port : Key) : Nat :=
  bay.graph.configs.countP fun config => config.portId == port && bay.hasStream config.id

/-! ## Effects on the table of streams -/

/-- Streams stay, or one is closed, or one is opened where there is room. -/
theorem Effect.streams_cases (he : Effect bay request answer next) :
    next.streams = bay.streams ∨ (∃ key, next.streams = bay.streams.erase key) ∨
      ∃ key entry config port, next.graph = bay.graph ∧
        bay.streamPlace key = .ok (config, port) ∧ entry.Legal key port ∧
        next.streams = bay.streams.insert key entry := by
  cases he with
  | openInput hplace hdirection =>
    obtain ⟨_, _, _, maxOpen, hmix, _⟩ := streamPlace_eq_ok.1 hplace
    refine .inr (.inr ⟨_, _, _, _, rfl, hplace, ?_, rfl⟩)
    refine ⟨rfl, ⟨maxOpen, hmix⟩, rfl, hdirection.symm, ?_⟩
    intro hoffload
    cases hdirection.symm.trans (Flags.has_iff.1 hoffload).1
  | openOutput hplace hdirection hoffload =>
    obtain ⟨_, _, _, maxOpen, hmix, _⟩ := streamPlace_eq_ok.1 hplace
    refine .inr (.inr ⟨_, _, _, _, rfl, hplace, ?_, rfl⟩)
    exact ⟨rfl, ⟨maxOpen, hmix⟩, rfl, hdirection.symm, hoffload⟩
  | closeStream _ => exact .inr (.inl ⟨_, rfl⟩)
  | _ => exact .inl rfl

/-! ## The places of streams -/

/-- A config with a stream stays on its port, and its port stays as it is. -/
theorem Effect.home_kept (hwf : topology.WellFormed) (h : bay.Sound topology)
    (he : Effect bay request answer next) (hopen : bay.hasStream key = true)
    (hhomed : bay.Homed key entry) : next.Homed key entry := by
  obtain ⟨config, port, hconfig, hport, hlegal⟩ := hhomed
  have hmem := Table.mem_of_find? hconfig
  have hid : config.id = key := Table.key_of_find? hconfig
  have hplace : config.place ∈ next.graph.places := by
    apply he.place_of_stream hwf h
    · show bay.hasStream config.id = true
      rw [hid]
      exact hopen
    · exact List.mem_map_of_mem hmem
  obtain ⟨config', hmem', hsame⟩ := Graph.mem_places.1 hplace
  have hid' : Keyed.key config' = key := (congrArg Prod.fst hsame).trans hid
  have hport' : config'.portId = config.portId := congrArg Prod.snd hsame
  refine ⟨config', port, ?_, ?_, hlegal⟩
  · rw [← hid']
    exact Table.find?_of_mem (he.grown hwf h).configs_nodup hmem'
  · rw [hport']
    exact he.port_kept hwf h hmem hport

/-- A mix port has been there before. -/
theorem Effect.mix_old (he : Effect bay request answer next) {port : Port}
    (hport : port ∈ next.graph.ports) {maxOpen : UInt32}
    (hmix : port.role.maxOpen? = some maxOpen) : port ∈ bay.graph.ports := by
  cases he with
  | connect hconnect =>
    obtain ⟨_, _, hdevice, rfl⟩ := Graph.connect_eq_withDevice hconnect
    rcases List.mem_append.1 hport with hport | hport
    · exact hport
    · -- the new port is a device port
      rw [List.mem_singleton.1 hport, Role.maxOpen?_of_isDevice hdevice] at hmix
      cases hmix
  | disconnect hdisconnect =>
    obtain ⟨_, _, _, rfl⟩ := Graph.disconnect_eq_ok.1 hdisconnect
    exact Table.mem_of_mem_remove hport
  | _ => exact hport

/-- A stream is noted for the port of its config. -/
theorem StreamsLegal.noted_iff (h : bay.StreamsLegal) (hs : bay.Sound topology) {port : Key} :
    (∃ entry, bay.streams.get? key = some entry ∧ entry.port = port) ↔
      ∃ config ∈ bay.graph.configs, (config.portId = port ∧ bay.hasStream config.id = true) ∧
        config.id = key := by
  constructor
  · rintro ⟨entry, hentry, rfl⟩
    obtain ⟨config, home, hconfig, hhome, hlegal⟩ := h.homed key entry hentry
    have hid : config.id = key := Table.key_of_find? hconfig
    have hport : home.id = config.portId := Table.key_of_find? hhome
    refine ⟨config, Table.mem_of_find? hconfig, ⟨?_, ?_⟩, hid⟩
    · rw [hlegal.port_eq, hport]
    · rw [hid]
      exact KeyMap.contains_iff.2 ⟨entry, hentry⟩
  · rintro ⟨config, hmem, ⟨rfl, hopen⟩, rfl⟩
    obtain ⟨entry, hentry⟩ := KeyMap.contains_iff.1 hopen
    obtain ⟨config', home, hconfig, hhome, hlegal⟩ := h.homed config.id entry hentry
    have hsame := hconfig.symm.trans (Table.find?_of_mem hs.graph.configs_nodup hmem)
    cases hsame
    have hport : home.id = config.portId := Table.key_of_find? hhome
    exact ⟨entry, hentry, hlegal.port_eq.trans hport⟩

/-- As many streams are noted for a port as its configs have. -/
theorem StreamsLegal.countOn_eq_openOn (h : bay.StreamsLegal) (hs : bay.Sound topology)
    (port : Key) : bay.streams.countOn port = bay.openOn port := by
  let noted := (bay.streams.entries.filter (·.2.port == port)).map (·.1)
  let opened := Table.keys (bay.graph.configs.filter fun config =>
    config.portId == port && bay.hasStream config.id)
  have hnoted : noted.Nodup := (List.filter_sublist.map _).nodup bay.streams.keys_nodup
  have hopened : opened.Nodup := (List.filter_sublist.map _).nodup hs.graph.configs_nodup
  have hperm : noted.Perm opened := by
    rw [List.perm_ext_iff_of_nodup hnoted hopened]
    intro key
    have hkey : key ∈ noted ↔ ∃ entry, bay.streams.get? key = some entry ∧ entry.port = port := by
      simp [noted, KeyMap.get?_eq_some_iff]
    rw [hkey, h.noted_iff hs, Table.mem_keys]
    simp [Keyed.key, and_assoc]
  have hlength := hperm.length_eq
  simp only [noted, opened, Table.keys, List.length_map] at hlength
  unfold OpenStreams.countOn openOn KeyMap.values
  rw [List.countP_map, List.countP_eq_length_filter, List.countP_eq_length_filter]
  exact hlength

/-! ## Legality -/

/-- Every effect keeps streams where they may be. -/
theorem Effect.homed (hwf : topology.WellFormed) (hs : bay.Sound topology) (h : bay.StreamsLegal)
    (he : Effect bay request answer next) :
    ∀ key entry, next.streams.get? key = some entry → next.Homed key entry := by
  have hkept : ∀ key entry, bay.streams.get? key = some entry → next.Homed key entry := by
    intro key entry hentry
    apply he.home_kept hwf hs
    · exact KeyMap.contains_iff.2 ⟨entry, hentry⟩
    · exact h.homed key entry hentry
  intro key entry hentry
  rcases he.streams_cases with hsame | ⟨closed, herase⟩ |
    ⟨opened, new, config, port, hgraph, hplace, hlegal, hinsert⟩
  · rw [hsame] at hentry
    exact hkept key entry hentry
  · rw [herase, KeyMap.get?_erase] at hentry
    split at hentry
    · cases hentry
    · exact hkept key entry hentry
  · rw [hinsert, KeyMap.get?_insert] at hentry
    split at hentry
    · rename_i hkey
      cases hentry
      obtain ⟨hconfig, hport, _⟩ := streamPlace_eq_ok.1 hplace
      rw [← hgraph] at hconfig hport
      exact ⟨config, port, hkey ▸ hconfig, hport, hkey ▸ hlegal⟩
    · exact hkept key entry hentry

/-- Every effect keeps to the caps of mix ports. -/
theorem Effect.capped (hwf : topology.WellFormed) (hs : bay.Sound topology) (h : bay.StreamsLegal)
    (he : Effect bay request answer next) :
    ∀ port ∈ next.graph.ports, ∀ maxOpen, port.role.maxOpen? = some maxOpen →
      maxOpen ≠ 0 → next.streams.countOn port.id ≤ maxOpen.toNat := by
  intro port hport maxOpen hmix hne
  have hold : port ∈ bay.graph.ports := he.mix_old hport hmix
  have hbefore := h.capped port hold maxOpen hmix hne
  rcases he.streams_cases with hsame | ⟨closed, herase⟩ |
    ⟨opened, new, config, home, _, hplace, hlegal, hinsert⟩
  · rw [hsame]
    exact hbefore
  · rw [herase]
    exact Nat.le_trans (OpenStreams.countOn_erase_le _ _ _) hbefore
  · obtain ⟨_, hhome, hclosed, _, hcap, hroom⟩ := streamPlace_eq_ok.1 hplace
    rw [hinsert, OpenStreams.countOn_insert hclosed, hlegal.port_eq]
    by_cases hsame : home.id = port.id
    · have hkey : Keyed.key port = config.portId := hsame.symm.trans (Table.key_of_find? hhome)
      have hfound := Table.find?_of_mem (hs.graph.ports_nodup hwf) hold
      rw [hkey, hhome] at hfound
      cases hfound
      cases hcap.symm.trans hmix
      -- the check has left room for one more
      rw [if_pos rfl]
      exact hroom.resolve_left hne
    · rw [if_neg hsame]
      exact hbefore

theorem Effect.streamsLegal (hwf : topology.WellFormed) (hs : bay.Sound topology)
    (h : bay.StreamsLegal) (he : Effect bay request answer next) : next.StreamsLegal where
  homed := he.homed hwf hs h
  capped := he.capped hwf hs h

theorem streamsLegal_of_ofTopology? (h : ofTopology? topology query = .ok bay) :
    bay.StreamsLegal := by
  obtain ⟨_, ledger, _, rfl⟩ := ofTopology?_eq_ok h
  exact ⟨nofun, fun _ _ _ _ _ => Nat.zero_le _⟩

theorem Reachable.streamsLegal (h : Reachable topology query bay) : bay.StreamsLegal := by
  refine h.invariant (fun _ => streamsLegal_of_ofTopology?) ?_
  intro bay next request answer hsound hlegal he
  exact he.streamsLegal h.wellFormed hsound hlegal

/-- **Open streams are legal.** In a reachable bay, every open stream is on a config whose port is
a mix port and the one that is noted for the stream; it goes in the direction of the port, and has
offload parameters if it plays on a port for compressed data. No more configs of a mix port have
streams than the port takes. -/
theorem open_streams_legal (h : Reachable topology query bay) :
    (∀ key entry, bay.streams.get? key = some entry → ∃ config port,
      Table.find? bay.graph.configs key = some config ∧
      Table.find? bay.graph.ports config.portId = some port ∧
      entry.port = port.id ∧ (∃ handle maxOpen maxActive, port.role = .mix handle maxOpen maxActive) ∧
      entry.stream.config = key ∧ entry.stream.direction = port.flags.direction ∧
      (port.flags.has .compressOffload = true → entry.stream.offload?.isSome = true)) ∧
    ∀ port ∈ bay.graph.ports, ∀ handle maxOpen maxActive,
      port.role = .mix handle maxOpen maxActive → maxOpen ≠ 0 →
        bay.openOn port.id ≤ maxOpen.toNat := by
  have hlegal := h.streamsLegal
  constructor
  · intro key entry hentry
    obtain ⟨config, port, hconfig, hport, hentry⟩ := hlegal.homed key entry hentry
    refine ⟨config, port, hconfig, hport, hentry.port_eq, ?_, hentry.config_eq, hentry.direction,
      hentry.offload⟩
    obtain ⟨maxOpen, hmix⟩ := hentry.mix
    cases hrole : port.role with
    | mix handle maxOpen maxActive => exact ⟨handle, maxOpen, maxActive, rfl⟩
    | unspecified =>
      rw [hrole] at hmix
      cases hmix
    | device _ _ =>
      rw [hrole] at hmix
      cases hmix
  · intro port hport handle maxOpen maxActive hrole hne
    rw [← hlegal.countOn_eq_openOn h.sound]
    apply hlegal.capped port hport maxOpen _ hne
    rw [hrole]
    rfl

/-- Parameters of a stream of compressed audio. -/
def mpegOffload : OffloadInfo :=
  { format := .encoded "audio/mpeg", layout := .stereo, sampleRate := 44100, bitRateKbps := 128
    durationUs := 0, isStreaming := false }

/-- Three configs on the primary input, which takes two streams, so that the third is refused,
and a config for compressed output, on which a stream needs offload parameters. -/
def crowdedSession : List Request :=
  let recorder : Config :=
    { Config.blank with
      portId := 5, sampleRate := some 48000, layout := some .mono
      format := some (.pcm .int16), flags := some ⟨.input, 0⟩ }
  [ .setConfig recorder, .setConfig recorder, .setConfig recorder, .openInput 8 960 ⟨[]⟩,
    .openInput 9 960 ⟨[]⟩, .openInput 10 960 ⟨[]⟩, .resetConfig 8, .playCompressed,
    .openOutput 11 960 ⟨[]⟩ none, .openOutput 11 960 ⟨[]⟩ (some mpegOffload) ]

theorem crowdedSession_streams_legal :
    ∃ bay, bay = ((builtIn .unavailable).run crowdedSession).2 ∧
      Reachable .builtIn .unavailable bay ∧ bay.streams.keys = [8, 9, 11] ∧
      (∃ entry config port, bay.streams.get? 11 = some entry ∧
        Table.find? bay.graph.configs 11 = some config ∧
        Table.find? bay.graph.ports config.portId = some port ∧
        entry.stream.direction = port.flags.direction ∧
        port.flags.has .compressOffload = true ∧ entry.stream.offload?.isSome = true) ∧
      bay.openOn 5 = 2 ∧ bay.openOn 5 ≤ 2 := by
  have hstart : ofTopology? .builtIn .unavailable = .ok (builtIn .unavailable) := rfl
  have hreach := (Reachable.start hstart).run crowdedSession
  obtain ⟨hlegal, hcapped⟩ := open_streams_legal hreach
  refine ⟨_, rfl, hreach, by decide, ?_, by decide, ?_⟩
  · have hopen : KeyMap.contains ((builtIn .unavailable).run crowdedSession).2.streams 11 = true := by
      decide
    obtain ⟨entry, hentry⟩ := KeyMap.contains_iff.1 hopen
    obtain ⟨config, port, hconfig, hport, _, _, _, hdirection, hoffload⟩ := hlegal 11 entry hentry
    have hflags : ∀ config ∈
        Table.find? ((builtIn .unavailable).run crowdedSession).2.graph.configs 11,
        ∀ port ∈ Table.find? ((builtIn .unavailable).run crowdedSession).2.graph.ports config.portId,
          port.flags.has .compressOffload = true := by decide
    have hcompressed := hflags config hconfig port hport
    exact ⟨entry, config, port, hentry, hconfig, hport, hdirection, hcompressed,
      hoffload hcompressed⟩
  · exact hcapped (Topology.BuiltIn.mixPort 5 "primary input" ⟨.input, 0⟩ 2
      [Topology.BuiltIn.pcmProfile .int16 [.mono, .stereo] Topology.BuiltIn.recordingRates])
      (by decide) 5 2 2 rfl (by decide)

end Bay

end Patchbay
