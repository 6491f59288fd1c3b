import TunnelClient.Address.Endpoint
import TunnelClient.Address.Ipv4
import TunnelClient.Address.Ipv6
import TunnelClient.Address.Numbers
import TunnelClient.Address.Tunnel
import TunnelClient.Cipher.Aead
import TunnelClient.Cipher.ChaCha20
import TunnelClient.Cipher.Poly1305
import TunnelClient.Cipher.Word
import TunnelClient.CommandLine.Arguments
import TunnelClient.CommandLine.Help
import TunnelClient.CommandLine.LogFilter
import TunnelClient.CommandLine.LogLine
import TunnelClient.CommandLine.Run
import TunnelClient.Config.Basic
import TunnelClient.Config.Connect
import TunnelClient.Config.Document
import TunnelClient.Config.Load
import TunnelClient.Device.Basic
import TunnelClient.Device.Bench
import TunnelClient.Device.Callers
import TunnelClient.Device.Settings
import TunnelClient.Digest.Hkdf
import TunnelClient.Digest.Sha256
import TunnelClient.Failure.Client
import TunnelClient.Failure.Host
import TunnelClient.Failure.System
import TunnelClient.Host.Executable
import TunnelClient.Host.FileTree
import TunnelClient.Host.Names
import TunnelClient.Host.Network
import TunnelClient.Main
import TunnelClient.Proofs.Address.Dotted
import TunnelClient.Proofs.Address.Host
import TunnelClient.Proofs.Address.Tunnel
import TunnelClient.Proofs.Calls.Account
import TunnelClient.Proofs.CommandLine.Peer
import TunnelClient.Proofs.Config.Printed
import TunnelClient.Proofs.Config.Secrets
import TunnelClient.Proofs.Config.Validity
import TunnelClient.Proofs.Device.Conservation
import TunnelClient.Proofs.Device.Course
import TunnelClient.Proofs.Relay.Capacity
import TunnelClient.Proofs.Relay.Course
import TunnelClient.Proofs.Relay.Downlink
import TunnelClient.Proofs.Relay.Flow
import TunnelClient.Proofs.Relay.Oversize
import TunnelClient.Proofs.Relay.Rest
import TunnelClient.Proofs.Relay.Turns
import TunnelClient.Proofs.Relay.Uplink
import TunnelClient.Proofs.Relay.Work
import TunnelClient.Proofs.Route.Command
import TunnelClient.Proofs.Route.Detour
import TunnelClient.Proofs.Route.Gateway
import TunnelClient.Proofs.Route.Journal
import TunnelClient.Proofs.Route.Link
import TunnelClient.Proofs.Route.Restore
import TunnelClient.Proofs.Route.Rollback
import TunnelClient.Proofs.Route.Routing
import TunnelClient.Proofs.Route.Stack
import TunnelClient.Proofs.Route.Table
import TunnelClient.Proofs.Route.Watch
import TunnelClient.Proofs.Session.Accounts
import TunnelClient.Proofs.Session.Blind
import TunnelClient.Proofs.Session.Classes
import TunnelClient.Proofs.Session.Course
import TunnelClient.Proofs.Session.Exchange
import TunnelClient.Proofs.Session.Forgery
import TunnelClient.Proofs.Session.Gateway
import TunnelClient.Proofs.Session.Grant
import TunnelClient.Proofs.Session.Handshake
import TunnelClient.Proofs.Session.Progress
import TunnelClient.Proofs.Session.Resources
import TunnelClient.Proofs.Session.Restoration
import TunnelClient.Proofs.Session.Return
import TunnelClient.Proofs.Session.Schedule
import TunnelClient.Proofs.Session.Stages
import TunnelClient.Proofs.Session.Startup
import TunnelClient.Proofs.Session.Steps
import TunnelClient.Proofs.Session.Teardown
import TunnelClient.Proofs.Session.Termination
import TunnelClient.Proofs.Session.World
import TunnelClient.Proofs.Text.Ascii
import TunnelClient.Proofs.Text.Base64
import TunnelClient.Proofs.Text.Blank
import TunnelClient.Proofs.Text.Numeral
import TunnelClient.Proofs.Toml.Document
import TunnelClient.Proofs.Toml.Strings
import TunnelClient.Proofs.Toml.Values
import TunnelClient.Proofs.Udp.Course
import TunnelClient.Proofs.Udp.Shutdown
import TunnelClient.Proofs.Wire.Codec
import TunnelClient.Proofs.Wire.Key
import TunnelClient.Proofs.Wire.Opening
import TunnelClient.Proofs.Wire.Seal
import TunnelClient.Route.Command
import TunnelClient.Route.Detour
import TunnelClient.Route.Faulty
import TunnelClient.Route.Table
import TunnelClient.Session.Event
import TunnelClient.Session.Handshake
import TunnelClient.Session.Log
import TunnelClient.Session.Phase
import TunnelClient.Session.Relay
import TunnelClient.Session.Run
import TunnelClient.Session.Runner
import TunnelClient.Session.Schedule
import TunnelClient.Session.Stimulus
import TunnelClient.Session.World
import TunnelClient.Signal.Trigger
import TunnelClient.Text.Base64
import TunnelClient.Text.Blank
import TunnelClient.Text.Duration
import TunnelClient.Text.Hex
import TunnelClient.Text.Hidden
import TunnelClient.Text.Numeral
import TunnelClient.Text.Quoted
import TunnelClient.Text.Utf8
import TunnelClient.Toml.Datetime
import TunnelClient.Toml.Number
import TunnelClient.Toml.Printer
import TunnelClient.Toml.Reader
import TunnelClient.Toml.Strings
import TunnelClient.Toml.Value
import TunnelClient.Udp.Transport
import TunnelClient.Wire.Error
import TunnelClient.Wire.Frame
import TunnelClient.Wire.Key
import TunnelClient.Wire.Kind
import TunnelClient.Wire.Seal
