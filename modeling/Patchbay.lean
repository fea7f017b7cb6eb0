import Patchbay.Main
import Patchbay.Storage.Disk
import Patchbay.Wire.Stream
import Patchbay.Proofs.Checks
import Patchbay.Proofs.Action
import Patchbay.Proofs.Respond
import Patchbay.Proofs.Effect
import Patchbay.Proofs.Refusal
import Patchbay.Proofs.Key
import Patchbay.Proofs.KeyMap
import Patchbay.Proofs.Table
import Patchbay.Proofs.Port
import Patchbay.Proofs.Usage
import Patchbay.Proofs.Route
import Patchbay.Proofs.Reversal
import Patchbay.Proofs.Suggestion
import Patchbay.Proofs.WellFormed
import Patchbay.Proofs.Growth
import Patchbay.Proofs.Ledger
import Patchbay.Proofs.SoundLedger
import Patchbay.Proofs.SoundBay
import Patchbay.Proofs.Integrity
import Patchbay.Proofs.Exclusive
import Patchbay.Proofs.Supply
import Patchbay.Proofs.Contest
import Patchbay.Proofs.PatchAdmission
import Patchbay.Proofs.InitialPatches
import Patchbay.Proofs.Support
import Patchbay.Proofs.Teardown
import Patchbay.Proofs.Lineage
import Patchbay.Proofs.DeviceProfiles
import Patchbay.Proofs.Freshness
import Patchbay.Proofs.Json.Numeral
import Patchbay.Proofs.Json.Text
import Patchbay.Proofs.Json.Schema
import Patchbay.Proofs.Json.Arrangement
import Patchbay.Proofs.Json.Flaw
import Patchbay.Proofs.Wire
import Patchbay.Proofs.Arrangement
import Patchbay.Proofs.OpenStreams
import Patchbay.Proofs.Identity
import Patchbay.Proofs.Recreation
import Patchbay.Proofs.ConfigReset
import Patchbay.Proofs.NewSuggestion
import Patchbay.Proofs.ConfigCreation
import Patchbay.Proofs.Buffer
import Patchbay.Proofs.StreamAdmission
import Patchbay.Proofs.ConfigUpdate
import Patchbay.Proofs.Connection
import Patchbay.Proofs.Disconnection
import Patchbay.Proofs.TopologyFile
