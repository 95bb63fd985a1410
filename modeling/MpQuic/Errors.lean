import MpQuic.StreamFrameSorter

/-!
# Errors and panics

The error values the modelled functions return, and the run time panics they can
end in.  A Go function that mutates its receiver and then returns an error is
modelled by a function that returns the state together with the error; where the
error ends the session the state is dropped.
-/
namespace MpQuic

/-- The ways in which the Go program would panic. -/
inductive Panic
  /-- A method call on the nil pointer found for an unknown path. -/
  | nilPath
  /-- A method call on the nil pointer found for a removed stream. -/
  | nilStream
  /-- `WriteUint48` and `WriteUint56` on a value that does not fit. -/
  | doesNotFit
  /-- `AckFrame: Too many ACK ranges`, `ClosePathFrame: Too many ACK ranges`. -/
  | tooManyAckRanges
  /-- An index out of range. -/
  | indexOutOfRange
  /-- A method call on the nil packet returned when there was nothing to pack. -/
  | nilPacket
  /-- A method call on the nil path manager of a session without one. -/
  | nilPathManager
  deriving DecidableEq, Repr

/-- The error values of the modelled functions, and panics. -/
inductive Err
  | panic (p : Panic)
  -- internal/wire
  | eof
  | invalidAckRanges
  | invalidFirstAckRange
  | inconsistentAckLargestAcked
  | inconsistentAckLowestAcked
  | inconsistentAckRangesWritten
  | tooManyPaths
  | pathsNumber
  | missingRTT
  | unknownIPVersion
  | inconsistentAddrIPVersion
  | leastUnackedHigherThanPacketNumber
  | packetNumberNotSet
  | packetNumberLenNotSet
  | invalidLeastUnackedDelta
  | reasonPhraseTooLong
  | emptyStreamFrameWithoutFin
  | streamDataLenTooLarge
  | streamDataOverflowsMaximumOffset
  | resetAndVersionFlagSet
  | getLengthNotForVersionNegotiation
  | invalidDiversificationNonceLength
  | packetWithUnknownVersion
  | receivedTruncatedConnectionID
  | invalidConnectionID
  | invalidVersionNegotiationPacket
  -- packet_unpacker.go
  | decryptionFailure
  | missingPayload
  | unencryptedStreamData (streamID : Nat)
  | congestionFeedbackUnimplemented
  | unknownTypeByte (typeByte : Byte)
  -- ackhandler
  | duplicateOrOutOfOrderAck
  | tooManyTrackedSentPackets
  | ackForSkippedPacket
  | ackForUnsentPacket
  | packetNumberNotIncreasing
  | wouldHaveAckedWrongPacket
  | invalidPacketNumber
  | tooManyOutstandingReceivedAckRanges
  -- internal/flowcontrol
  | flowControllerMapAccess
  | streamDataAfterTermination
  | flowControlReceivedTooMuchData (streamID : Nat)
  -- streams_map.go
  | tooManyOpenStreams
  | invalidStreamID (streamID : Nat)
  | streamsMapClosed
  -- packet_packer.go, internal/handshake
  | noAEAD (level : EncryptionLevel)
  | noAckFrameQueued
  | forwardSecureHandshakeRetransmission
  | handshakeRetransmissionWithoutStopWaiting
  | payloadTooLarge (payloadLength maxFrameSize : Nat)
  | packetTooLarge
  | packetNumbersDoNotMatch
  -- session.go, path_manager.go, stream_frame_sorter.go
  | streamFrame (e : SorterError)
  | rstStreamOnInvalidStream
  | windowUpdateOnClosedStream
  | goawayUnimplemented
  | unknownPathToClose
  | pathAlreadyExists
  | serverCreatesOddPath
  | clientCreatesEvenPath
  | pingPacketNil
  deriving DecidableEq, Repr

/-- Whether the program panics, rather than returning an error. -/
def Err.isPanic : Err → Bool
  | .panic _ => true
  | _ => false

end MpQuic
