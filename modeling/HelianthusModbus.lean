import HelianthusModbus.Theory.Ownership
import HelianthusModbus.Theory.Identities
import HelianthusModbus.Theory.Dispatch
import HelianthusModbus.Theory.Reserve
import HelianthusModbus.Theory.ReconnectBackoff
import HelianthusModbus.Theory.Failures
import HelianthusModbus.Theory.RestartChain
import HelianthusModbus.Theory.RtuFrames
import HelianthusModbus.Theory.RtuLine
import HelianthusModbus.Theory.RtuResolution
import HelianthusModbus.Theory.RtuQuarantine
import HelianthusModbus.Theory.RtuLifetime
import HelianthusModbus.Theory.RtuEvidence
import HelianthusModbus.Theory.DeviceIdPaging
import HelianthusModbus.Theory.Cancelling
import HelianthusModbus.Theory.Endpoint.Writes
import HelianthusModbus.Theory.ResponseFraming
