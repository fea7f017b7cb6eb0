import Patchbay.Topology
import Patchbay.Wire.Port

/-!
# Forms of topologies

Patches, routes, limits and whole topologies as JSON.
-/

namespace Patchbay

open Json

instance : HasSchema Patch where
  schema := .via
    (.record <|
      .defaulted (α := Key) "id" 0 <|
      .required (α := List Key) "source_port_config_ids" <|
      .required (α := List Key) "sink_port_config_ids" <|
      .defaulted (α := Int32) "minimum_stream_buffer_size_frames" 0 <|
      .defaulted (α := List Int32) "latencies_ms" [] .none)
    (fun (id, sources, sinks, minBufferFrames, latenciesMs, ()) =>
      { id, sources, sinks, minBufferFrames, latenciesMs })
    (fun patch =>
      (patch.id, patch.sources, patch.sinks, patch.minBufferFrames, patch.latenciesMs, ()))

instance : HasSchema Route where
  schema := .via
    (.record <|
      .required (α := List Key) "source_port_ids" <|
      .required (α := Key) "sink_port_id" <|
      .defaulted "is_exclusive" false .none)
    (fun (sources, sink, exclusive, ()) => { sources, sink, exclusive })
    (fun route => (route.sources, route.sink, route.exclusive, ()))

instance : HasSchema Limits where
  schema := .via
    (.record <|
      .defaulted "minimum_stream_buffer_size_frames" Limits.standard.minBufferFrames <|
      .defaulted "maximum_stream_buffer_size_bytes" Limits.standard.maxBufferBytes <|
      .defaulted "latency_ms" Limits.standard.latencyMs .none)
    (fun (minBufferFrames, maxBufferBytes, latencyMs, ()) =>
      { minBufferFrames, maxBufferBytes, latencyMs })
    (fun limits => (limits.minBufferFrames, limits.maxBufferBytes, limits.latencyMs, ()))

instance : HasSchema Topology where
  schema := .via
    (.record <|
      .required (α := String) "version" <|
      .required (α := List Port) "ports" <|
      .defaulted (α := List Config) "port_configs" [] <|
      .defaulted (α := List Route) "routes" [] <|
      .defaulted (α := List Patch) "patches" [] <|
      .defaulted (α := KeyMap (List Profile)) "connected_profiles" ∅ <|
      .defaulted "limits" Limits.standard .none)
    (fun (version, ports, configs, routes, patches, connectedProfiles, limits, ()) =>
      { version, ports, configs, routes, patches, connectedProfiles, limits })
    (fun topology =>
      (topology.version, topology.ports, topology.configs, topology.routes, topology.patches,
        topology.connectedProfiles, topology.limits, ()))

end Patchbay
