import NetBench.Text.Blank
import NetBench.Text.Utf8
import NetBench.Text.Quoted
import NetBench.Decimal.Shortest
import NetBench.Rate.Meter
import NetBench.Address.Display
import NetBench.Address.Reader
import NetBench.Settings.Layers
import NetBench.Options.Reader
import NetBench.Toml.Reader
import NetBench.Settings.Text
import NetBench.Talk.Play
import NetBench.Stream.Sender
import NetBench.Stream.Drain
import NetBench.Datagram.Reflector
import NetBench.Datagram.Prober
import NetBench.Clock
import NetBench.Script.Connections
import NetBench.Script.Datagrams
import NetBench.Rehearsal.Connections
import NetBench.Rehearsal.Datagrams
import NetBench.Host.Ports
import NetBench.Host.Pair
import NetBench.Host.Machine
import NetBench.Host.Roles
import NetBench.Launch.Process
import NetBench.Main
import NetBench.Proofs.Talk.Record
import NetBench.Proofs.Stream.Acts
import NetBench.Proofs.Stream.Sending
import NetBench.Proofs.Stream.Session
import NetBench.Proofs.Stream.Draining
import NetBench.Proofs.Talk.Throughout
import NetBench.Proofs.Stream.Service
import NetBench.Proofs.Stream.Accounts
import NetBench.Proofs.Stream.Connection
import NetBench.Proofs.Stream.Agreement
import NetBench.Proofs.Datagram.Acts
import NetBench.Proofs.Datagram.Network
import NetBench.Proofs.Text.Decoding
import NetBench.Proofs.Datagram.Rounds
import NetBench.Proofs.Talk.Unfolding
import NetBench.Proofs.Talk.Lockstep
import NetBench.Proofs.Stream.Origin
import NetBench.Proofs.Stream.Traffic
import NetBench.Proofs.Talk.Results
import NetBench.Proofs.Setup.Basic
import NetBench.Proofs.Setup.Roles
import NetBench.Proofs.Options.Reading
import NetBench.Proofs.Settings.Layering
import NetBench.Proofs.Settings.Influence
import NetBench.Proofs.Stream.Limits
import NetBench.Proofs.Stream.Stopping
import NetBench.Proofs.Stream.Reports
import NetBench.Proofs.Datagram.Reflecting
import NetBench.Proofs.Datagram.Probing
import NetBench.Proofs.Stream.Greeting
import NetBench.Proofs.Datagram.Splitting
import NetBench.Proofs.Datagram.Counting
import NetBench.Proofs.Text.Numerals
import NetBench.Proofs.Options.Rendering
import NetBench.Proofs.Toml.Proper
import NetBench.Proofs.Settings.Decoding
import NetBench.Proofs.Text.Trimming
import NetBench.Proofs.Text.Cutting
import NetBench.Proofs.Text.Hexadecimals
import NetBench.Proofs.Address.Grammar
import NetBench.Proofs.Address.Reading
import NetBench.Proofs.Address.Canonical
import NetBench.Proofs.Stream.EndOfStream
import NetBench.Proofs.Launch.Stages
import NetBench.Proofs.Launch.Startup
import NetBench.Proofs.Rate.TrueTime
import NetBench.Proofs.Rehearsal.Counters
