import Patchbay.Proofs.Buffer
import Patchbay.Proofs.OpenStreams

/-!
# What becomes of a request for a stream

Input and output streams are opened by requests of their own, with the same checks but for those of
offload parameters; here both are the opening of a stream (`Stream.opening`). There are two ways to
be refused. A place that is taken gives a fault of the state: the config has a stream, or its port
has as many as it takes (`Bay.Taken`). The number is counted by what is noted in the table of
streams, and `Bay.StreamsLegal.countOn_eq_openOn` makes it one of the table of configs. All that is
wrong with the request itself gives a fault of the request (`Bay.Welcomes` is what is right with
it). `Bay.stream_admission_exact` puts this together.
-/

namespace Patchbay

namespace Stream

/-- The request to open the stream, with a buffer of `frames` frames. -/
def opening (frames : Int64) : Stream → Request
  | .input config metadata => .openInput config frames metadata
  | .output config metadata offload => .openOutput config frames metadata offload

/-- The port is a mix port for the direction of the stream, and does not ask for offload
parameters that an output stream lacks. -/
structure Suits (stream : Stream) (port : Port) : Prop where
  mix : port.role.maxOpen?.isSome = true
  direction : port.flags.direction = stream.direction
  offload : stream.direction = .output →
    port.flags.has .compressOffload = true → stream.offload?.isSome = true

instance (stream : Stream) (port : Port) : Decidable (stream.Suits port) :=
  decidable_of_iff
    (port.role.maxOpen?.isSome = true ∧ port.flags.direction = stream.direction ∧
      (stream.direction = .output →
        port.flags.has .compressOffload = true → stream.offload?.isSome = true))
    ⟨fun ⟨hmix, hdirection, hoffload⟩ => ⟨hmix, hdirection, hoffload⟩,
      fun h => ⟨h.mix, h.direction, h.offload⟩⟩

end Stream

namespace OpenStreams

variable {streams : OpenStreams} {config : Config} {port : Port}

/-- There is no room on a config with a stream, on a mix port that has as many streams as it takes,
and on a port of another role. -/
theorem requireRoom_eq_error {fault : Fault} :
    streams.requireRoom config port = .error fault ↔
      (KeyMap.contains streams config.id = true ∧ fault = .streamAlreadyOpen config.id) ∨
        KeyMap.contains streams config.id = false ∧
          ((port.role.maxOpen? = none ∧ fault = .notMixPort config.id) ∨
            ∃ maxOpen, port.role.maxOpen? = some maxOpen ∧ maxOpen ≠ 0 ∧
              maxOpen.toNat ≤ streams.countOn port.id ∧
              fault = .streamCapReached port.id maxOpen) := by
  unfold requireRoom
  simp only [bind_eq_error, require_eq_error, require_eq_ok, Bool.not_eq_true', Bool.not_eq_false]
  cases port.role with
  | unspecified => simp [Role.maxOpen?, eq_comm (a := fault)]
  | device _ _ => simp [Role.maxOpen?, eq_comm (a := fault)]
  | mix handle maxOpen maxActive =>
    simp [Role.maxOpen?, require_eq_error, and_assoc, eq_comm (a := fault)]

/-- Of the faults of a search for room, those about the role of the port are held against the
request. -/
theorem requireRoom_illegalState_iff :
    (∃ fault, streams.requireRoom config port = .error fault ∧ fault.kind = .illegalState) ↔
      KeyMap.contains streams config.id = true ∨
        ∃ maxOpen ∈ port.role.maxOpen?, maxOpen ≠ 0 ∧
          maxOpen.toNat ≤ streams.countOn port.id := by
  simp only [requireRoom_eq_error]
  constructor
  · rintro ⟨fault, ⟨hopen, _⟩ | ⟨_, ⟨_, rfl⟩ | ⟨maxOpen, hmix, hne, hcap, _⟩⟩, hkind⟩
    · exact .inl hopen
    · cases hkind
    · exact .inr ⟨maxOpen, hmix, hne, hcap⟩
  · intro hfull
    cases hopen : KeyMap.contains streams config.id with
    | true => exact ⟨_, .inl ⟨rfl, rfl⟩, rfl⟩
    | false =>
      obtain ⟨maxOpen, hmix, hne, hcap⟩ := hfull.resolve_left (by simp [hopen])
      exact ⟨_, .inr ⟨rfl, .inr ⟨maxOpen, hmix, hne, hcap, rfl⟩⟩, rfl⟩

end OpenStreams

namespace Bay

variable {topology : Topology} {query : ProfileQuery} {bay next : Bay} {stream : Stream}
  {frames : Int64} {answer : Answer} {fault : Fault} {key : Key} {config : Config} {port : Port}

/-! ## Places -/

/-- No place is found for a config that does not exist, or one whose port has no room. -/
theorem streamPlace_eq_error :
    bay.streamPlace key = .error fault ↔
      (Table.find? bay.graph.configs key = none ∧ fault = .noSuchConfig key) ∨
        ∃ config, Table.find? bay.graph.configs key = some config ∧
          ((Table.find? bay.graph.ports config.portId = none ∧
              fault = .portOfConfigMissing config.portId key) ∨
            ∃ port, Table.find? bay.graph.ports config.portId = some port ∧
              bay.streams.requireRoom config port = .error fault) := by
  unfold streamPlace
  simp only [bind_eq_error, present_eq_error, present_eq_ok, pure_ne_error, and_false,
    exists_false, or_false, eq_comm (a := fault)]

/-- A stream is open on the config, or its port is a mix port with a cap that as many configs of
the port have reached. -/
def Taken (bay : Bay) (key : Key) : Prop :=
  ∃ config ∈ Table.find? bay.graph.configs key, bay.hasStream key = true ∨
    ∃ port ∈ Table.find? bay.graph.ports config.portId, ∃ maxOpen ∈ port.role.maxOpen?,
      maxOpen ≠ 0 ∧ maxOpen.toNat ≤ bay.openOn port.id

instance (bay : Bay) (key : Key) : Decidable (bay.Taken key) :=
  inferInstanceAs (Decidable (∃ config ∈ Table.find? bay.graph.configs key, _ ∨
    ∃ port ∈ Table.find? bay.graph.ports config.portId, ∃ maxOpen ∈ port.role.maxOpen?, _))

/-- Whether a config whose port is known is taken can be seen from what is noted. -/
theorem taken_iff (h : Reachable topology query bay)
    (hconfig : Table.find? bay.graph.configs key = some config)
    (hport : Table.find? bay.graph.ports config.portId = some port) :
    bay.Taken key ↔ KeyMap.contains bay.streams config.id = true ∨
      ∃ maxOpen ∈ port.role.maxOpen?, maxOpen ≠ 0 ∧
        maxOpen.toNat ≤ bay.streams.countOn port.id := by
  have hid : config.id = key := Table.key_of_find? hconfig
  rw [hid, h.streamsLegal.countOn_eq_openOn h.sound]
  unfold Taken
  simp only [hconfig, hport, Option.mem_some_iff, exists_eq_left']
  rfl

/-- A place is refused because of what is open exactly if it is taken. -/
theorem streamPlace_illegalState_iff (h : Reachable topology query bay) :
    (∃ fault, bay.streamPlace key = .error fault ∧ fault.kind = .illegalState) ↔
      bay.Taken key := by
  constructor
  · rintro ⟨fault, hplace, hkind⟩
    rcases streamPlace_eq_error.1 hplace with
      ⟨_, rfl⟩ | ⟨config, hconfig, ⟨_, rfl⟩ | ⟨port, hport, hroom⟩⟩
    · cases hkind
    · cases hkind
    · rw [taken_iff h hconfig hport]
      exact OpenStreams.requireRoom_illegalState_iff.1 ⟨fault, hroom, hkind⟩
  · intro htaken
    -- the port of a config exists, so the search gets as far as the room on it
    have hexists : ∃ config, Table.find? bay.graph.configs key = some config :=
      htaken.imp fun _ hconfig => hconfig.1
    obtain ⟨config, hconfig⟩ := hexists
    obtain ⟨port, hport⟩ := h.sound.graph.exists_port hconfig
    rw [taken_iff h hconfig hport] at htaken
    obtain ⟨fault, hroom, hkind⟩ := OpenStreams.requireRoom_illegalState_iff.2 htaken
    exact ⟨fault, streamPlace_eq_error.2 (.inr ⟨config, hconfig, .inr ⟨port, hport, hroom⟩⟩), hkind⟩

/-! ## Requests for a stream -/

theorem mix_of_streamPlace (hplace : bay.streamPlace key = .ok (config, port)) :
    port.role.maxOpen?.isSome = true := by
  obtain ⟨_, _, _, maxOpen, hmix, _⟩ := streamPlace_eq_ok.1 hplace
  rw [hmix]
  rfl

/-- A stream is opened where a place is found, if the port suits the stream and a buffer can be
sized. -/
theorem respond_opening_eq_ok :
    bay.respond (stream.opening frames) = .ok (answer, next) ↔
      ∃ config port buffer, bay.streamPlace stream.config = .ok (config, port) ∧
        stream.Suits port ∧ Buffer.sized config frames bay.limits = .ok buffer ∧
        answer = .stream buffer stream ∧
        next = { bay with streams := bay.streams.insert stream.config ⟨port.id, stream⟩ } := by
  cases stream with
  | input key metadata =>
    simp only [Stream.opening, respond, bind_eq_ok, require_eq_ok, pure_eq_ok]
    constructor
    · rintro ⟨⟨config, port⟩, hplace, _, hdirection, buffer, hbuffer, heq⟩
      cases heq
      have hsuits : (Stream.input key metadata).Suits port := by
        refine ⟨mix_of_streamPlace hplace, hdirection, ?_⟩
        intro houtput
        cases houtput
      exact ⟨config, port, buffer, hplace, hsuits, hbuffer, rfl, rfl⟩
    · rintro ⟨config, port, buffer, hplace, hsuits, hbuffer, rfl, rfl⟩
      exact ⟨(config, port), hplace, (), hsuits.direction, buffer, hbuffer, rfl⟩
  | output key metadata offload =>
    simp only [Stream.opening, respond, bind_eq_ok, require_eq_ok, pure_eq_ok]
    constructor
    · rintro ⟨⟨config, port⟩, hplace, _, hdirection, _, hoffload, buffer, hbuffer, heq⟩
      cases heq
      have hsuits : (Stream.output key metadata offload).Suits port :=
        ⟨mix_of_streamPlace hplace, hdirection, fun _ => hoffload⟩
      exact ⟨config, port, buffer, hplace, hsuits, hbuffer, rfl, rfl⟩
    · rintro ⟨config, port, buffer, hplace, hsuits, hbuffer, rfl, rfl⟩
      exact ⟨(config, port), hplace, (), hsuits.direction, (), hsuits.offload rfl, buffer, hbuffer,
        rfl⟩

/-- A stream for which no place is found is refused with the fault of the search. -/
theorem respond_opening_of_placeless (h : bay.streamPlace stream.config = .error fault) :
    bay.respond (stream.opening frames) = .error fault := by
  cases stream with
  | input key metadata => exact bind_eq_error.2 (.inl h)
  | output key metadata offload => exact bind_eq_error.2 (.inl h)

/-- When a place is found, all that can be wrong is held against the request. -/
theorem kind_of_respond_opening_error {place : Config × Port}
    (hplace : bay.streamPlace stream.config = .ok place)
    (h : bay.respond (stream.opening frames) = .error fault) : fault.kind = .invalidArgument := by
  cases stream with
  | input key metadata =>
    rcases bind_eq_error.1 h with hfault | ⟨_, _, h⟩
    · cases hplace.symm.trans hfault
    · simp only [bind_eq_error, require_eq_error, pure_ne_error, and_false, exists_false,
        or_false] at h
      rcases h with ⟨_, rfl⟩ | ⟨_, _, hsize⟩
      · rfl
      · exact Buffer.kind_of_sized_error hsize
  | output key metadata offload =>
    rcases bind_eq_error.1 h with hfault | ⟨_, _, h⟩
    · cases hplace.symm.trans hfault
    · simp only [bind_eq_error, require_eq_error, pure_ne_error, and_false, exists_false,
        or_false] at h
      rcases h with ⟨_, rfl⟩ | ⟨_, _, ⟨_, rfl⟩ | ⟨_, _, hsize⟩⟩
      · rfl
      · rfl
      · exact Buffer.kind_of_sized_error hsize

/-- The config of the stream exists, its port suits the stream, and a buffer can be sized. -/
def Welcomes (bay : Bay) (stream : Stream) (frames : Int64) : Prop :=
  ∃ config ∈ Table.find? bay.graph.configs stream.config,
    ∃ port ∈ Table.find? bay.graph.ports config.portId, stream.Suits port ∧
      (Buffer.sized config frames bay.limits).isOk = true

instance (bay : Bay) (stream : Stream) (frames : Int64) : Decidable (bay.Welcomes stream frames) :=
  inferInstanceAs (Decidable (∃ config ∈ Table.find? bay.graph.configs stream.config,
    ∃ port ∈ Table.find? bay.graph.ports config.portId, _))

/-- A place is found for a stream that is welcome unless it is taken. -/
theorem streamPlace_of_welcomes (h : Reachable topology query bay)
    (hfree : ¬ bay.Taken stream.config) (hwelcome : bay.Welcomes stream frames) :
    ∃ config port buffer, bay.streamPlace stream.config = .ok (config, port) ∧
      stream.Suits port ∧ Buffer.sized config frames bay.limits = .ok buffer := by
  obtain ⟨config, hconfig, port, hport, hsuits, hok⟩ := hwelcome
  obtain ⟨buffer, hbuffer⟩ := isOk_iff.1 hok
  obtain ⟨maxOpen, hmix⟩ := Option.isSome_iff_exists.1 hsuits.mix
  have hclosed : bay.hasStream stream.config = false := by
    rw [Bool.eq_false_iff]
    intro hopen
    exact hfree ⟨config, hconfig, .inl hopen⟩
  have hroom : maxOpen = 0 ∨ bay.streams.countOn port.id < maxOpen.toNat := by
    apply Decidable.or_iff_not_imp_left.2
    intro hne
    apply Nat.lt_of_not_le
    intro hcap
    exact hfree ((taken_iff h hconfig hport).2 (.inr ⟨maxOpen, hmix, hne, hcap⟩))
  have hplace := streamPlace_eq_ok.2 ⟨hconfig, hport, hclosed, maxOpen, hmix, hroom⟩
  exact ⟨config, port, buffer, hplace, hsuits, hbuffer⟩

/-- What is granted was welcome. -/
theorem welcomes_of_respond (h : bay.respond (stream.opening frames) = .ok (answer, next)) :
    bay.Welcomes stream frames := by
  obtain ⟨config, port, buffer, hplace, hsuits, hbuffer, _⟩ := respond_opening_eq_ok.1 h
  obtain ⟨hconfig, hport, _⟩ := streamPlace_eq_ok.1 hplace
  exact ⟨config, hconfig, port, hport, hsuits, isOk_iff.2 ⟨buffer, hbuffer⟩⟩

theorem step_opening_taken (h : Reachable topology query bay) (frames : Int64)
    (htaken : bay.Taken stream.config) :
    ∃ fault, bay.step (stream.opening frames) = (.error fault, bay) ∧
      fault.kind = .illegalState := by
  obtain ⟨fault, hplace, hkind⟩ := (streamPlace_illegalState_iff h).2 htaken
  exact ⟨fault, step_of_error (respond_opening_of_placeless hplace), hkind⟩

theorem step_opening_welcome (h : Reachable topology query bay)
    (hfree : ¬ bay.Taken stream.config) (hwelcome : bay.Welcomes stream frames) :
    ∃ answer next, bay.step (stream.opening frames) = (.ok answer, next) := by
  obtain ⟨config, port, buffer, hplace, hsuits, hbuffer⟩ := streamPlace_of_welcomes h hfree hwelcome
  have hrespond := respond_opening_eq_ok.2 ⟨config, port, buffer, hplace, hsuits, hbuffer, rfl, rfl⟩
  exact ⟨_, _, step_of_respond hrespond⟩

theorem step_opening_unwelcome (h : Reachable topology query bay)
    (hfree : ¬ bay.Taken stream.config) (hnot : ¬ bay.Welcomes stream frames) :
    ∃ fault, bay.step (stream.opening frames) = (.error fault, bay) ∧
      fault.kind = .invalidArgument := by
  cases hrespond : bay.respond (stream.opening frames) with
  | ok result => exact absurd (welcomes_of_respond hrespond) hnot
  | error fault =>
    refine ⟨fault, step_of_error hrespond, ?_⟩
    cases hplace : bay.streamPlace stream.config with
    | ok place => exact kind_of_respond_opening_error hplace hrespond
    | error other =>
      -- of the two kinds of fault, one would mean that the place is taken
      cases hrespond.symm.trans (respond_opening_of_placeless hplace)
      cases hkind : fault.kind with
      | invalidArgument => rfl
      | illegalState =>
        exact absurd ((streamPlace_illegalState_iff h).1 ⟨fault, hplace, hkind⟩) hfree

/-- **Streams are admitted exactly where they are welcome and no place is taken.** In a reachable
bay, a request for a stream gets a fault of the state exactly when its place is taken. Otherwise it
is granted exactly when the stream is welcome, and gets a fault of the request if it is not. A
stream that is opened is new on its config, and is noted there with the port of the config; nothing
else changes. -/
theorem stream_admission_exact (h : Reachable topology query bay) (stream : Stream)
    (frames : Int64) :
    ((∃ fault, bay.step (stream.opening frames) = (.error fault, bay) ∧
        fault.kind = .illegalState) ↔ bay.Taken stream.config) ∧
    ((∃ answer next, bay.step (stream.opening frames) = (.ok answer, next)) ↔
      ¬ bay.Taken stream.config ∧ bay.Welcomes stream frames) ∧
    ((∃ fault, bay.step (stream.opening frames) = (.error fault, bay) ∧
        fault.kind = .invalidArgument) ↔
      ¬ bay.Taken stream.config ∧ ¬ bay.Welcomes stream frames) ∧
    ∀ answer next, bay.step (stream.opening frames) = (.ok answer, next) →
      bay.streams.get? stream.config = none ∧
      ∃ config port buffer, Table.find? bay.graph.configs stream.config = some config ∧
        Table.find? bay.graph.ports config.portId = some port ∧
        Buffer.sized config frames bay.limits = .ok buffer ∧ answer = .stream buffer stream ∧
        next = { bay with streams := next.streams } ∧
        ∀ key, next.streams.get? key =
          if key = stream.config then some ⟨port.id, stream⟩ else bay.streams.get? key := by
  refine ⟨⟨fun hfault => ?_, step_opening_taken h frames⟩,
    ⟨fun hgranted => ?_, fun ⟨hfree, hgood⟩ => step_opening_welcome h hfree hgood⟩,
    ⟨fun hfault => ?_, fun ⟨hfree, hbad⟩ => step_opening_unwelcome h hfree hbad⟩,
    fun answer next hstep => ?_⟩
  · -- where no place is taken, the outcome is another one
    apply Classical.byContradiction
    intro hfree
    by_cases hgood : bay.Welcomes stream frames
    · obtain ⟨_, _, hstep⟩ := step_opening_welcome h hfree hgood
      exact not_refused hstep hfault
    · cases kind_unique hfault (step_opening_unwelcome h hfree hgood)
  · obtain ⟨_, _, hstep⟩ := hgranted
    refine ⟨fun hbusy => ?_, welcomes_of_respond (step_eq_ok.1 hstep)⟩
    exact not_refused hstep (step_opening_taken h frames hbusy)
  · have hfree : ¬ bay.Taken stream.config := by
      intro hbusy
      cases kind_unique hfault (step_opening_taken h frames hbusy)
    refine ⟨hfree, fun hgood => ?_⟩
    obtain ⟨_, _, hstep⟩ := step_opening_welcome h hfree hgood
    exact not_refused hstep hfault
  · obtain ⟨config, port, buffer, hplace, _, hbuffer, rfl, rfl⟩ :=
      respond_opening_eq_ok.1 (step_eq_ok.1 hstep)
    obtain ⟨hconfig, hport, hclosed, _⟩ := streamPlace_eq_ok.1 hplace
    refine ⟨KeyMap.get?_of_not_contains hclosed, config, port, buffer, hconfig, hport, hbuffer, rfl,
      rfl, ?_⟩
    intro key
    exact KeyMap.get?_insert

/-- A bay with three configs on the primary input, which takes two streams, and one stream. -/
def recordingBay : Bay :=
  ((builtIn .unavailable).run (crowdedSession.take 4)).2

/-- A bay with two streams on the primary input and a config for compressed output. -/
def compressedBay : Bay :=
  ((builtIn .unavailable).run (crowdedSession.take 8)).2

/-- One more stream is admitted, on another config and in the direction of the port. Then there is
no place on the third config either. A stream of compressed output is refused without offload
parameters. -/
theorem recordingBay_stream_admission :
    Reachable .builtIn .unavailable recordingBay ∧
      (∃ fault, recordingBay.step ((Stream.input 8 ⟨[]⟩).opening 960) =
        (.error fault, recordingBay) ∧ fault.kind = .illegalState) ∧
      (∃ fault, recordingBay.step ((Stream.output 9 ⟨[]⟩ none).opening 960) =
        (.error fault, recordingBay) ∧ fault.kind = .invalidArgument) ∧
      (∃ answer next, recordingBay.step ((Stream.input 9 ⟨[]⟩).opening 960) = (.ok answer, next) ∧
        next.streams.get? 8 = recordingBay.streams.get? 8 ∧
        ∃ fault, next.step ((Stream.input 10 ⟨[]⟩).opening 960) = (.error fault, next) ∧
          fault.kind = .illegalState) ∧
      Reachable .builtIn .unavailable compressedBay ∧
      (∃ fault, compressedBay.step ((Stream.output 11 ⟨[]⟩ none).opening 960) =
        (.error fault, compressedBay) ∧ fault.kind = .invalidArgument) ∧
      ∃ answer next, compressedBay.step
        ((Stream.output 11 ⟨[]⟩ (some mpegOffload)).opening 960) = (.ok answer, next) := by
  have hstart : ofTopology? .builtIn .unavailable = .ok (builtIn .unavailable) := rfl
  have hreach : Reachable .builtIn .unavailable recordingBay :=
    (Reachable.start hstart).run (crowdedSession.take 4)
  have hcompressed : Reachable .builtIn .unavailable compressedBay :=
    (Reachable.start hstart).run (crowdedSession.take 8)
  refine ⟨hreach, ?_, ?_, ?_, hcompressed, ?_, ?_⟩
  · have hexact := stream_admission_exact hreach (.input 8 ⟨[]⟩) 960
    exact hexact.1.2 (by decide)
  · have hexact := stream_admission_exact hreach (.output 9 ⟨[]⟩ none) 960
    exact hexact.2.2.1.2 ⟨by decide, by decide⟩
  · have hexact := stream_admission_exact hreach (.input 9 ⟨[]⟩) 960
    obtain ⟨answer, next, hstep⟩ := hexact.2.1.2 ⟨by decide, by decide⟩
    obtain ⟨_, _, _, _, _, _, _, _, _, hstreams⟩ := hexact.2.2.2 answer next hstep
    refine ⟨answer, next, hstep, hstreams 8, ?_⟩
    have hexact' :=
      stream_admission_exact (hreach.step ((Stream.input 9 ⟨[]⟩).opening 960)) (.input 10 ⟨[]⟩) 960
    have hfull := hexact'.1.2 (by decide)
    rw [hstep] at hfull
    exact hfull
  · have hexact := stream_admission_exact hcompressed (.output 11 ⟨[]⟩ none) 960
    exact hexact.2.2.1.2 ⟨by decide, by decide⟩
  · have hexact := stream_admission_exact hcompressed (.output 11 ⟨[]⟩ (some mpegOffload)) 960
    exact hexact.2.1.2 ⟨by decide, by decide⟩

end Bay

end Patchbay
