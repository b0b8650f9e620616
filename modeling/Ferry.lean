import Ferry.Main
import Ferry.Packet.Singles
import Ferry.Proofs.Bridge.Adoption
import Ferry.Proofs.Bridge.Crossing
import Ferry.Proofs.Bridge.CrossingLog
import Ferry.Proofs.Bridge.Handling
import Ferry.Proofs.Bridge.PassThrough
import Ferry.Proofs.Bridge.Tally
import Ferry.Proofs.Config.ServerLoading
import Ferry.Proofs.Frame.BufferLimit
import Ferry.Proofs.Frame.Compressor
import Ferry.Proofs.Frame.Delivery
import Ferry.Proofs.Frame.Keystream
import Ferry.Proofs.Frame.PacketSlices
import Ferry.Proofs.Frame.Splitting
import Ferry.Proofs.Handshake.Agreement
import Ferry.Proofs.Mapping.ChangeReport
import Ferry.Proofs.Mapping.Difference
import Ferry.Proofs.Mapping.IdHistory
import Ferry.Proofs.Mapping.IdSwap
import Ferry.Proofs.Mapping.ItemStacks
import Ferry.Proofs.Mapping.PacketIds
import Ferry.Proofs.Mapping.Unconcerned
import Ferry.Proofs.Packet.Canonical
import Ferry.Proofs.Packet.Ending
import Ferry.Proofs.Palette.Entries
import Ferry.Proofs.Palette.Interning
import Ferry.Proofs.Palette.Numbering
import Ferry.Proofs.Queue.Order
import Ferry.Proofs.Queue.Overflow
import Ferry.Proofs.Queue.OverflowReport
import Ferry.Proofs.Scene.ClientView
import Ferry.Proofs.Scene.Record
import Ferry.Proofs.Scene.Teardown
import Ferry.Proofs.Session.ArrivalLessons
import Ferry.Proofs.Session.BackendRelay
import Ferry.Proofs.Session.ClientChatter
import Ferry.Proofs.Session.ClientDirections
import Ferry.Proofs.Session.EventDeeds
import Ferry.Proofs.Session.EventLessons
import Ferry.Proofs.Session.EventRules
import Ferry.Proofs.Session.LastWord
import Ferry.Proofs.Session.LinkTraffic
import Ferry.Proofs.Session.NumberAuthority
import Ferry.Proofs.Session.NumberOwnership
import Ferry.Proofs.Session.PacketAccount
import Ferry.Proofs.Session.PassedPackets
import Ferry.Proofs.Session.PeerSpeech
import Ferry.Proofs.Session.PhaseInvariant
import Ferry.Proofs.Session.PlayerMoves
import Ferry.Proofs.Session.QueueInvariant
import Ferry.Proofs.Session.Runs
import Ferry.Proofs.Session.SpawningFrame
import Ferry.Proofs.Terrain.ColumnWalk
import Ferry.Proofs.Transfer.Acknowledgment
import Ferry.Proofs.Transfer.AcknowledgmentCredit
import Ferry.Proofs.Transfer.ClientDimension
import Ferry.Proofs.Transfer.Departure
import Ferry.Proofs.Transfer.Destination
import Ferry.Proofs.Transfer.DimensionLock
import Ferry.Proofs.Transfer.Failure
import Ferry.Proofs.Transfer.Fallback
import Ferry.Proofs.Transfer.History
import Ferry.Proofs.Transfer.Milestones
import Ferry.Proofs.Transfer.MilestonesDue
import Ferry.Proofs.Transfer.Progress
import Ferry.Proofs.Transfer.WaitingRelease
import Ferry.Proofs.Wire.LayoutRoundTrip
import Ferry.Proofs.Wire.Reader
import Ferry.Proofs.Wire.TagDepth
import Ferry.Proofs.Wire.TagGrammar
import Ferry.Proofs.Wire.TextBytes
import Ferry.Proofs.Wire.Varint
import Ferry.Script.Config
import Ferry.Script.Handshake
import Ferry.Script.Player
import Ferry.Script.Proxy
import Ferry.Script.Session
import Ferry.Script.Stream
