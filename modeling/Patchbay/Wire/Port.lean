import Patchbay.Config
import Patchbay.Wire.Scalar

/-!
# Forms of ports and port configs

Formats, layouts, devices, ports and port configs as JSON.
-/

namespace Patchbay

open Json

instance : HasSchema Sample := ⟨.choice Sample.all Sample.name⟩

instance : HasSchema Format where
  schema := .via
    (.inlined "type" <|
      .shape "pcm" (.required (α := Sample) "pcm" .none) <|
      .shape "non_pcm" (.required (α := String) "encoding" .none) .none)
    (fun
      | .inl (sample, ()) => .pcm sample
      | .inr (.inl (mediaType, ())) => .encoded mediaType)
    (fun
      | .pcm sample => .inl (sample, ())
      | .encoded mediaType => .inr (.inl (mediaType, ())))

instance : HasSchema Layout where
  schema := .via
    (.adjacent "type" "mask" <|
      .bare "none" <|
      .bare "invalid" <|
      .case (α := UInt32) "index_mask" <|
      .case (α := UInt32) "layout_mask" <|
      .case (α := UInt32) "voice_mask" .none)
    (fun
      | .inl () => .none
      | .inr (.inl ()) => .invalid
      | .inr (.inr (.inl mask)) => .indexed mask
      | .inr (.inr (.inr (.inl mask))) => .positional mask
      | .inr (.inr (.inr (.inr (.inl mask)))) => .voice mask)
    (fun
      | .none => .inl ()
      | .invalid => .inr (.inl ())
      | .indexed mask => .inr (.inr (.inl mask))
      | .positional mask => .inr (.inr (.inr (.inl mask)))
      | .voice mask => .inr (.inr (.inr (.inr (.inl mask)))))

instance : HasSchema OutputFlag := ⟨.choice OutputFlag.all OutputFlag.name⟩

/-- The name of a direction where it stands alone. -/
def Direction.name : Direction → String
  | .input => "Input"
  | .output => "Output"

instance : HasSchema Direction := ⟨.choice [.input, .output] Direction.name⟩

instance : HasSchema Flags where
  schema := .via
    (.adjacent "direction" "bits" <|
      .case (α := UInt32) "input" <|
      .case (α := UInt32) "output" .none)
    (fun
      | .inl bits => ⟨.input, bits⟩
      | .inr (.inl bits) => ⟨.output, bits⟩)
    (fun
      | ⟨.input, bits⟩ => .inl bits
      | ⟨.output, bits⟩ => .inr (.inl bits))

instance : HasSchema DeviceKind := ⟨.choice DeviceKind.all DeviceKind.name⟩

instance : HasSchema DeviceType where
  schema := .via
    (.record <|
      .required (α := DeviceKind) "kind" <|
      .defaulted "connection" "" .none)
    (fun (kind, connection, ()) => { kind, connection })
    (fun type => (type.kind, type.connection, ()))

instance : HasSchema Address where
  schema := .via
    (.adjacent "type" "value" <|
      .bare "none" <|
      .case (α := String) "id" <|
      .case (α := Vector UInt8 6) "mac" <|
      .case (α := List Int32) "alsa" .none)
    (fun
      | .inl () => .none
      | .inr (.inl value) => .id value
      | .inr (.inr (.inl bytes)) => .mac bytes
      | .inr (.inr (.inr (.inl numbers))) => .alsa numbers)
    (fun
      | .none => .inl ()
      | .id value => .inr (.inl value)
      | .mac bytes => .inr (.inr (.inl bytes))
      | .alsa numbers => .inr (.inr (.inr (.inl numbers))))

instance : HasSchema Device where
  schema := .via
    (.record <|
      .required (α := DeviceType) "type" <|
      .defaulted "address" Address.none .none)
    (fun (type, address, ()) => { type, address })
    (fun device => (device.type, device.address, ()))

instance : HasSchema Role where
  schema := .via
    (.inlined "kind" <|
      .shape "unspecified" .none <|
      .shape "device"
        (.required (α := Device) "device" <|
          .defaulted (α := UInt32) "flags" 0 .none) <|
      .shape "mix"
        (.defaulted (α := Int32) "handle" 0 <|
          .defaulted (α := UInt32) "max_open_stream_count" 0 <|
          .defaulted (α := UInt32) "max_active_stream_count" 0 .none) .none)
    (fun
      | .inl () => .unspecified
      | .inr (.inl (device, flags, ())) => .device device flags
      | .inr (.inr (.inl (handle, maxOpen, maxActive, ()))) => .mix handle maxOpen maxActive)
    (fun
      | .unspecified => .inl ()
      | .device device flags => .inr (.inl (device, flags, ()))
      | .mix handle maxOpen maxActive => .inr (.inr (.inl (handle, maxOpen, maxActive, ()))))

instance : HasSchema Profile where
  schema := .via
    (.record <|
      .defaulted "name" "" <|
      .required (α := Format) "format" <|
      .required (α := List Layout) "channel_masks" <|
      .required (α := List UInt32) "sample_rates" .none)
    (fun (name, format, layouts, sampleRates, ()) => { name, format, layouts, sampleRates })
    (fun profile => (profile.name, profile.format, profile.layouts, profile.sampleRates, ()))

instance : HasSchema ExtraDescriptor where
  schema := .via
    (.record <|
      .required (α := String) "standard" <|
      .required (α := List UInt8) "descriptor" .none)
    (fun (standard, bytes, ()) => { standard, bytes })
    (fun extra => (extra.standard, extra.bytes, ()))

instance : HasSchema Port where
  schema := .via
    (.record <|
      .required (α := Key) "id" <|
      .required (α := String) "name" <|
      .defaulted (α := List Profile) "profiles" [] <|
      .required (α := Flags) "flags" <|
      .required (α := Role) "ext" <|
      .defaulted (α := List ExtraDescriptor) "extra_audio_descriptors" [] .none)
    (fun (id, name, profiles, flags, role, extraDescriptors, ()) =>
      { id, name, profiles, flags, role, extraDescriptors })
    (fun port =>
      (port.id, port.name, port.profiles, port.flags, port.role, port.extraDescriptors, ()))

instance : HasSchema Gain where
  schema := .via
    (.record <|
      .required (α := Int32) "index" <|
      .required (α := List Int32) "values" <|
      .defaulted (α := Int32) "ramp_duration_ms" 0 .none)
    (fun (index, values, rampMs, ()) => { index, values, rampMs })
    (fun gain => (gain.index, gain.values, gain.rampMs, ()))

instance : HasSchema Config where
  schema := .via
    (.record <|
      .defaulted (α := Key) "id" 0 <|
      .defaulted (α := Key) "port_id" 0 <|
      .defaulted (α := Option UInt32) "sample_rate" none <|
      .defaulted (α := Option Layout) "channel_mask" none <|
      .defaulted (α := Option Format) "format" none <|
      .defaulted (α := Option Gain) "gain" none <|
      .defaulted (α := Option Flags) "flags" none <|
      .defaulted "ext" Role.unspecified .none)
    (fun (id, portId, sampleRate, layout, format, gain, flags, role, ()) =>
      { id, portId, sampleRate, layout, format, gain, flags, role })
    (fun config =>
      (config.id, config.portId, config.sampleRate, config.layout, config.format, config.gain,
        config.flags, config.role, ()))

end Patchbay
