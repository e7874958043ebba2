import RelayFrame.Stream.Input
import RelayFrame.Stream.Output
import RelayFrame.Tool.Host
import RelayFrame.Tool.Run
import RelayFrame.Main
import RelayFrame.Proofs.Packet.Header
import RelayFrame.Proofs.Packet.Stamping
import RelayFrame.Proofs.Packet.Duality
import RelayFrame.Proofs.Hash.Drift
import RelayFrame.Proofs.Hash.FourBytes
import RelayFrame.Proofs.Route.Lengths
import RelayFrame.Proofs.Route.Substitution
import RelayFrame.Proofs.Packet.Agreement
import RelayFrame.Proofs.Packet.FixedPoint
import RelayFrame.Proofs.Route.States
import RelayFrame.Proofs.Route.Separation
import RelayFrame.Proofs.Stream.RoundTrip
import RelayFrame.Proofs.Stream.Decoding
import RelayFrame.Proofs.Stream.Recoding
import RelayFrame.Proofs.Stream.ReaderRuns
import RelayFrame.Proofs.Stream.Truncation
import RelayFrame.Proofs.Stream.InPlace
import RelayFrame.Proofs.Stream.WriterRuns
import RelayFrame.Proofs.Net.NormalSlots
import RelayFrame.Proofs.Route.Received
import RelayFrame.Proofs.Text.Numerals
import RelayFrame.Proofs.Text.Trimming
import RelayFrame.Proofs.Net.HostText
import RelayFrame.Proofs.Net.AddressText
import RelayFrame.Proofs.Bytes.HexText
import RelayFrame.Proofs.Report.Recheck
import RelayFrame.Proofs.Packet.TagImage
import RelayFrame.Proofs.Packet.HeaderSlack
import RelayFrame.Proofs.Tool.Files
import RelayFrame.Proofs.Tool.FilesKept
import RelayFrame.Proofs.Tool.Pipeline
import RelayFrame.Proofs.Packet.Edits
import RelayFrame.Proofs.Stream.TextReads
import RelayFrame.Proofs.Route.ByteTotals
import RelayFrame.Proofs.Report.Acceptance
import RelayFrame.Proofs.Tool.LogSetup
import RelayFrame.Proofs.Report.FirstFaults
import RelayFrame.Proofs.Report.Faithful
