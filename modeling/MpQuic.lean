import MpQuic.Lib.Machine
import MpQuic.Lib.Intervals
import MpQuic.Protocol
import MpQuic.StreamFrame
import MpQuic.StreamFrameSorter
import MpQuic.Reassembly
import MpQuic.EndOfStream
import MpQuic.ByteOrder
import MpQuic.PacketNumberGenerator
import MpQuic.Errors
import MpQuic.Frame
import MpQuic.WriteFrame
import MpQuic.ParseFrame
import MpQuic.Congestion
import MpQuic.SentPacketHandler
import MpQuic.ReceivedPacketHandler
import MpQuic.FlowControl
import MpQuic.StreamsMap
import MpQuic.StreamFramer
import MpQuic.Path
import MpQuic.PublicHeader
import MpQuic.PacketPacker
import MpQuic.Lib.Outcome
import MpQuic.Session
import MpQuic.HandlePacket
import MpQuic.Authentication
import MpQuic.Panics
import MpQuic.UnknownPaths
import MpQuic.PacketMoves
import MpQuic.ClosingPaths
import MpQuic.SelectPath
import MpQuic.RespectsWindow
import MpQuic.Connection
import MpQuic.StreamData
import MpQuic.QueuedFrames
import MpQuic.FrameLengths
import MpQuic.AckRoundTrip
import MpQuic.PayloadRoundTrip
import MpQuic.StreamSizes
import MpQuic.PacketSizes
import MpQuic.Lib.MapSum
import MpQuic.HonestPeers
import MpQuic.PacketNumbers
import MpQuic.ReceivedAcks
import MpQuic.SentBytes
import MpQuic.ConnectionTotals
import MpQuic.HandshakeMessage
import MpQuic.ConnectionParametersManager
import MpQuic.NegotiatedParameters
import MpQuic.StreamTable
import MpQuic.StreamLimits
import MpQuic.HandshakeCrypto
import MpQuic.CryptoSetupServer
import MpQuic.CryptoSetupClient
import MpQuic.EncryptionLevels
import MpQuic.ClientHandshake
import MpQuic.HandshakeSignal
import MpQuic.Client
import MpQuic.VersionNegotiation
import MpQuic.SessionActs
import MpQuic.ReceiveActs
import MpQuic.SendActs
import MpQuic.ConnectionActs
import MpQuic.SendStreams
import MpQuic.AcceptStreams
import MpQuic.PathActs
import MpQuic.StreamConsistency
import MpQuic.PathIDs
import MpQuic.StrictAcks
import MpQuic.SafeSelection
import MpQuic.WriteCalls
import MpQuic.Server
import MpQuic.ServerSafety
import MpQuic.SessionRegistry
import MpQuic.SacLearning
import MpQuic.RewardedActions
import MpQuic.SharedRewards
import MpQuic.QLearning
import MpQuic.CreditedActions
import MpQuic.Nonces
import MpQuic.NilPointers
import MpQuic.CryptoStream
import MpQuic.NilPackets
import MpQuic.ReceivedHistory
import MpQuic.NewlyAcked
import MpQuic.Alarms
import MpQuic.SorterPartition
import MpQuic.AckHandling
import MpQuic.SkippedPackets
import MpQuic.HandlerRuns
import MpQuic.TrackedLimit
import MpQuic.AckOnlyPackets
import MpQuic.HandshakePackets
import MpQuic.ClosedPaths
import MpQuic.Lib.Scan
import MpQuic.AckObligation
import MpQuic.LowestRTT
import MpQuic.MultiClientState
import MpQuic.Olia
import MpQuic.OliaEpsilon
import MpQuic.OliaIncrease
import MpQuic.PolicyRequests
import MpQuic.SecondBestPath
