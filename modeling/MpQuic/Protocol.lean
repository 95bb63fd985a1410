import Mathlib.Algebra.Order.Ring.Int
import Mathlib.Data.List.AList
import MpQuic.Lib.Machine

/-!
# The types and constants of `internal/protocol`

`protocol.PacketNumber`, `ByteCount`, `StreamID` and `PathID` are natural numbers
here; where the source relies on the width of its machine integers the operation
says so with an explicit reduction.  A `time.Time` is an integer number of
nanoseconds, `none` where the source tests it with `IsZero`, and a
`time.Duration` an integer number of nanoseconds.  Constants keep the source's
names.
-/
namespace MpQuic

/-- A byte. -/
abbrev Byte := UInt8

/-- A Go map whose keys are path or stream IDs.  A `range` loop visits the entries in an
arbitrary order, which the functions that have such a loop take as an argument. -/
abbrev GoMap (V : Type) := AList fun _ : Nat => V

/-- `protocol.EncryptionLevel`. -/
inductive EncryptionLevel
  | unspecified | unencrypted | secure | forwardSecure
  deriving DecidableEq, Repr

namespace EncryptionLevel

/-- The `iota` value of the constant, by which levels are compared. -/
def toNat : EncryptionLevel → Nat
  | unspecified => 0
  | unencrypted => 1
  | secure => 2
  | forwardSecure => 3

instance : LE EncryptionLevel := ⟨fun a b => a.toNat ≤ b.toNat⟩

instance : DecidableRel (α := EncryptionLevel) (· ≤ ·) :=
  fun a b => inferInstanceAs (Decidable (a.toNat ≤ b.toNat))

end EncryptionLevel

/-- `protocol.Perspective`. -/
inductive Perspective
  | server | client
  deriving DecidableEq, Repr

/-- `protocol.MaxByteCount`, the largest `uint64`. -/
def maxByteCount : Nat := 2 ^ 64 - 1

/-- `protocol.InitialPathID`. -/
def initialPathID : Nat := 0

/-- `protocol.MaxPacketSize`. -/
def maxPacketSize : Nat := 1350

/-- `protocol.NonForwardSecurePacketSizeReduction`. -/
def nonForwardSecurePacketSizeReduction : Nat := 50

/-- `protocol.DefaultTCPMSS`. -/
def defaultTCPMSS : Nat := 1460

/-- `protocol.ClientHelloMinimumSize`. -/
def clientHelloMinimumSize : Nat := 1024

/-- `protocol.DefaultMaxCongestionWindow`. -/
def defaultMaxCongestionWindow : Nat := 2500

/-- `protocol.MaxTrackedSentPackets`. -/
def maxTrackedSentPackets : Nat := 5000

/-- `protocol.MaxTrackedSkippedPackets`. -/
def maxTrackedSkippedPackets : Nat := 10

/-- `protocol.MaxTrackedReceivedAckRanges`. -/
def maxTrackedReceivedAckRanges : Nat := 2500

/-- `protocol.MaxNonRetransmittablePackets`. -/
def maxNonRetransmittablePackets : Nat := 19

/-- `protocol.MaxPacketsReceivedBeforeAckSend`. -/
def maxPacketsReceivedBeforeAckSend : Nat := 20

/-- `protocol.RetransmittablePacketsBeforeAck`. -/
def retransmittablePacketsBeforeAck : Nat := 2

/-- `protocol.MaxStreamFrameSorterGaps`. -/
def maxStreamFrameSorterGaps : Nat := 2500

/-- `protocol.SkipPacketAveragePeriodLength`. -/
def skipPacketAveragePeriodLength : Nat := 500

/-- `protocol.MaxNewStreamIDDelta`. -/
def maxNewStreamIDDelta : Nat := 400

/-- `protocol.VersionMP`; version numbers are integers. -/
def versionMP : Int := 512

/-- A millisecond, in nanoseconds. -/
def millisecond : Int := 1000000

/-- A minute, in nanoseconds. -/
def minute : Int := 60000 * millisecond

/-- `protocol.AckSendDelay`. -/
def ackSendDelay : Int := 25 * millisecond

/-! ## Unsigned 64-bit arithmetic -/

/-- `a + b` on `uint64`. -/
def add64 (a b : Nat) : Nat := (a + b) % 2 ^ 64

/-- `a - b` on `uint64`. -/
def sub64 (a b : Nat) : Nat := if b ≤ a then a - b else 2 ^ 64 - (b - a)

variable {a b : Nat}

theorem add64_of_lt (h : a + b < 2 ^ 64) : add64 a b = a + b :=
  Nat.mod_eq_of_lt h

theorem sub64_of_le (h : b ≤ a) : sub64 a b = a - b :=
  if_pos h

theorem sub64_add_mod (hb : b < 2 ^ 64) : (sub64 a b + b) % 2 ^ 64 = a % 2 ^ 64 := by
  unfold sub64
  split <;> omega

theorem sub64_lt (ha : a < 2 ^ 64) : sub64 a b < 2 ^ 64 := by
  unfold sub64
  split <;> omega

/-- `a - b + 1` on `uint64`, also if `a - b` wraps around. -/
theorem add64_sub64_one (hb : b ≤ a + 1) (ha : a < 2 ^ 63) : add64 (sub64 a b) 1 = a + 1 - b := by
  unfold add64 sub64
  split <;> omega

/-! ## Packet numbers -/

/-- `protocol.GetPacketNumberLength`, in bytes. -/
def getPacketNumberLength (packetNumber : Nat) : Nat :=
  if packetNumber < 2 ^ 8 then 1
  else if packetNumber < 2 ^ 16 then 2
  else if packetNumber < 2 ^ 32 then 4
  else 6

theorem getPacketNumberLength_mem (packetNumber : Nat) :
    getPacketNumberLength packetNumber ∈ [1, 2, 4, 6] := by
  unfold getPacketNumberLength
  split_ifs <;> simp

/-- A packet number fits into the length chosen for it. -/
theorem lt_pow_getPacketNumberLength {packetNumber : Nat} (h : packetNumber < 2 ^ 48) :
    packetNumber < 256 ^ getPacketNumberLength packetNumber := by
  unfold getPacketNumberLength
  split_ifs <;> omega

/-- `protocol.GetPacketNumberLengthForPublicHeader`, in bytes. -/
def getPacketNumberLengthForPublicHeader (packetNumber leastUnacked : Nat) : Nat :=
  let diff := sub64 packetNumber leastUnacked
  if diff < 2 ^ 15 then 2
  else if diff < 2 ^ 31 then 4
  else 6

theorem getPacketNumberLengthForPublicHeader_mem (packetNumber leastUnacked : Nat) :
    getPacketNumberLengthForPublicHeader packetNumber leastUnacked ∈ [2, 4, 6] := by
  unfold getPacketNumberLengthForPublicHeader
  dsimp only
  split_ifs <;> simp

/-- `delta`, the distance of two packet numbers. -/
def delta (a b : Nat) : Nat := if a < b then b - a else a - b

/-- `closestTo`. -/
def closestTo (target a b : Nat) : Nat := if delta target a < delta target b then a else b

/-- `protocol.InferPacketNumber`, on unsigned 64-bit integers. -/
def inferPacketNumber (packetNumberLength lastPacketNumber wirePacketNumber : Nat) : Nat :=
  let epochDelta := 2 ^ (packetNumberLength * 8)
  let epoch := lastPacketNumber - lastPacketNumber % epochDelta
  let prevEpochBegin := sub64 epoch epochDelta
  let nextEpochBegin := add64 epoch epochDelta
  let target := add64 lastPacketNumber 1
  closestTo target (add64 epoch wirePacketNumber)
    (closestTo target (add64 prevEpochBegin wirePacketNumber)
      (add64 nextEpochBegin wirePacketNumber))

end MpQuic
