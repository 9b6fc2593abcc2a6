import TransportStream.AccessUnit
import TransportStream.Bytes
import TransportStream.Clock
import TransportStream.CommandLine.Arguments
import TransportStream.CommandLine.Extraction
import TransportStream.CommandLine.Request
import TransportStream.CommandLine.StreamFile
import TransportStream.Decimal.Binary
import TransportStream.Decimal.Reader
import TransportStream.Decimal.Shortest
import TransportStream.Decimal.Text
import TransportStream.Duration
import TransportStream.Endpoint
import TransportStream.Error
import TransportStream.Hex
import TransportStream.Host
import TransportStream.Json.Reader
import TransportStream.Json.Value
import TransportStream.Main
import TransportStream.NatMap
import TransportStream.Options
import TransportStream.Options.Document
import TransportStream.Output
import TransportStream.Packet
import TransportStream.Packet.AdaptationField
import TransportStream.Packet.Continuity
import TransportStream.Packet.Header
import TransportStream.Packet.Pcr
import TransportStream.Packet.Stride
import TransportStream.Pes.Header
import TransportStream.Pes.Reassembler
import TransportStream.Pes.Timestamp
import TransportStream.Proofs.Adoption
import TransportStream.Proofs.ArrivalStamps
import TransportStream.Proofs.Bookkeeping
import TransportStream.Proofs.BurstDetection
import TransportStream.Proofs.Chunking
import TransportStream.Proofs.CleanStreams
import TransportStream.Proofs.ClockRecovery
import TransportStream.Proofs.ClockReplay
import TransportStream.Proofs.ClockTimeline
import TransportStream.Proofs.Closing
import TransportStream.Proofs.Consistency
import TransportStream.Proofs.Delivery
import TransportStream.Proofs.Draining
import TransportStream.Proofs.Durability
import TransportStream.Proofs.ElementaryRouting
import TransportStream.Proofs.Endurance
import TransportStream.Proofs.Expectations
import TransportStream.Proofs.FirstLock
import TransportStream.Proofs.FlushIsolation
import TransportStream.Proofs.Fragments
import TransportStream.Proofs.FramingBounds
import TransportStream.Proofs.FramingBudget
import TransportStream.Proofs.FramingCounters
import TransportStream.Proofs.FramingOffsets
import TransportStream.Proofs.FramingPieces
import TransportStream.Proofs.FramingPlaces
import TransportStream.Proofs.FramingSearch
import TransportStream.Proofs.FramingTrace
import TransportStream.Proofs.Interleaving
import TransportStream.Proofs.Isolation
import TransportStream.Proofs.Lanes
import TransportStream.Proofs.LossFlags
import TransportStream.Proofs.LossInvariant
import TransportStream.Proofs.MapListening
import TransportStream.Proofs.MapOutputs
import TransportStream.Proofs.MapOwnership
import TransportStream.Proofs.MapPids
import TransportStream.Proofs.Marks
import TransportStream.Proofs.NextTables
import TransportStream.Proofs.PacketBounds
import TransportStream.Proofs.PacketGrammar
import TransportStream.Proofs.ParallelRuns
import TransportStream.Proofs.PartCollection
import TransportStream.Proofs.PesGrammar
import TransportStream.Proofs.PresentationTimes
import TransportStream.Proofs.Provenance
import TransportStream.Proofs.Reachability
import TransportStream.Proofs.Reapplication
import TransportStream.Proofs.Reception
import TransportStream.Proofs.RepeatedPackets
import TransportStream.Proofs.RoleInvariant
import TransportStream.Proofs.Roles
import TransportStream.Proofs.SectionBounds
import TransportStream.Proofs.SectionCoding
import TransportStream.Proofs.SectionDelivery
import TransportStream.Proofs.SinkChanges
import TransportStream.Proofs.SinkProtocol
import TransportStream.Proofs.Steadiness
import TransportStream.Proofs.Surplus
import TransportStream.Proofs.TableAssembly
import TransportStream.Proofs.TableCoding
import TransportStream.Proofs.TableEvents
import TransportStream.Proofs.TableFiling
import TransportStream.Proofs.TableHistory
import TransportStream.Proofs.TableNames
import TransportStream.Proofs.TimeCoding
import TransportStream.Proofs.TimestampRange
import TransportStream.Proofs.UnitCounts
import TransportStream.Proofs.UnitEndings
import TransportStream.Report
import TransportStream.Report.Document
import TransportStream.Router
import TransportStream.Router.StreamState
import TransportStream.Section
import TransportStream.Section.Crc
import TransportStream.Section.Filter
import TransportStream.Session
import TransportStream.Source
import TransportStream.Stats
import TransportStream.StreamType
import TransportStream.Synchronizer
import TransportStream.Table.Assembly
import TransportStream.Table.Cat
import TransportStream.Table.Descriptor
import TransportStream.Table.Pat
import TransportStream.Table.Pmt
import TransportStream.Table.Tracker
