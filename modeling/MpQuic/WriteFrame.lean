import MpQuic.Frame

/-!
# Writing frames (`Write` and `MinLength` in `internal/wire`)

`MinLength` is what the packer counts with, `Write` what goes on the wire.
-/
namespace MpQuic

/-! ## STREAM -/

namespace StreamFrame

/-- `calculateStreamIDLength`. -/
def calculateStreamIDLength (f : StreamFrame) : Nat :=
  if f.streamID < 2 ^ 8 then 1
  else if f.streamID < 2 ^ 16 then 2
  else if f.streamID < 2 ^ 24 then 3
  else 4

/-- `getOffsetLength`. -/
def getOffsetLength (f : StreamFrame) : Nat :=
  if f.offset = 0 then 0
  else if f.offset < 2 ^ 16 then 2
  else if f.offset < 2 ^ 24 then 3
  else if f.offset < 2 ^ 32 then 4
  else if f.offset < 2 ^ 40 then 5
  else if f.offset < 2 ^ 48 then 6
  else if f.offset < 2 ^ 56 then 7
  else 8

/-- `StreamFrame.MinLength`, the length of the header. -/
def minLength (f : StreamFrame) : Nat :=
  1 + f.calculateStreamIDLength + f.getOffsetLength + if f.dataLenPresent then 2 else 0

/-- The type byte of `StreamFrame.Write`. -/
def typeByte (f : StreamFrame) : Byte :=
  let fin : Byte := if f.finBit then 0x40 else 0
  let dataLen : Byte := if f.dataLenPresent then 0x20 else 0
  let offset : Byte :=
    if 0 < f.getOffsetLength then UInt8.ofNat (f.getOffsetLength - 1) <<< 2 else 0
  0x80 ^^^ fin ^^^ dataLen ^^^ offset ^^^ UInt8.ofNat (f.calculateStreamIDLength - 1)

/-- `StreamFrame.Write`. -/
def write (f : StreamFrame) (version : Int) : Except Err (List Byte) :=
  let o := getByteOrder version
  if f.data.length = 0 ∧ f.finBit = false then .error .emptyStreamFrameWithoutFin
  else .ok <| f.typeByte :: o.writeUintN f.calculateStreamIDLength f.streamID ++
    o.writeUintN f.getOffsetLength f.offset ++
    (if f.dataLenPresent then o.writeUintN 2 f.data.length else []) ++ f.data

end StreamFrame

/-! ## ACK and CLOSE_PATH -/

namespace AckedPackets

/-- A packet number or block length written in `len` bytes.  ACK frames cut it to 48 bits,
CLOSE_PATH frames pass it to `WriteUint48` as it is. -/
def writeNumber (o : ByteOrder) (cut : Bool) (len v : Nat) : Except Err (List Byte) :=
  if len = 6 ∧ cut = false ∧ 2 ^ 48 ≤ v then .error (.panic .doesNotFit)
  else .ok (o.writeUintN len v)

/-- The blocks written for one range behind a gap: `num - 1` empty blocks for 255 missing
packets each, then the range. -/
def writeBlock (o : ByteOrder) (cut : Bool) (len : Nat) (lastAckRange ackRange : AckRange) :
    Except Err (List Byte) :=
  let length := rangeLength ackRange
  let gap := gap lastAckRange ackRange
  let num := blocksForGap gap
  if num = 1 then do
    return UInt8.ofNat gap :: (← writeNumber o cut len length)
  else if num = 0 then
    .ok []
  else do
    let empty := (List.replicate (num - 1) ((0xFF : Byte) :: o.writeUintN len 0)).flatten
    return empty ++ UInt8.ofNat (1 + (gap - 1) % 255) :: (← writeNumber o cut len length)

/-- The loop over the ranges behind the first one: the bytes and `numRangesWritten`. -/
def writeBlocks (o : ByteOrder) (cut : Bool) (len numRanges written : Nat) :
    List AckRange → Except Err (List Byte × Nat)
  | lastAckRange :: ackRange :: rest => do
    let block ← writeBlock o cut len lastAckRange ackRange
    let written := written + blocksForGap (gap lastAckRange ackRange)
    if numRanges ≤ written then
      return (block, written)
    else do
      let (blocks, written) ← writeBlocks o cut len numRanges written (ackRange :: rest)
      return (block ++ blocks, written)
  | _ => .ok ([], written)

/-- What both frames write from the first block on. -/
def writeRanges (f : AckedPackets) (o : ByteOrder) (cut : Bool) : Except Err (List Byte) := do
  let len := f.getMissingSequenceNumberDeltaLen
  match f.ackRanges.head?, f.ackRanges.getLast? with
  | some first, some last =>
    if f.largestAcked ≠ first.last then throw .inconsistentAckLargestAcked
    if f.lowestAcked ≠ last.first then throw .inconsistentAckLowestAcked
    let firstBlock ← writeNumber o cut len (add64 (sub64 f.largestAcked first.first) 1)
    let (blocks, written) ← writeBlocks o cut len f.numWritableNackRanges 1 f.ackRanges
    if f.numWritableNackRanges ≠ written then throw .inconsistentAckRangesWritten
    return firstBlock ++ blocks
  | _, _ => writeNumber o cut len (add64 (sub64 f.largestAcked f.lowestAcked) 1)

/-- The field with the number of blocks, present if there are missing ranges. -/
def writeNumRanges (f : AckedPackets) : Except Err (List Byte) :=
  if f.hasMissingRanges then
    if 0xFF < f.numWritableNackRanges then .error (.panic .tooManyAckRanges)
    else .ok [UInt8.ofNat (f.numWritableNackRanges - 1)]
  else .ok []

/-- The bits for the lengths of the numbers, in the type byte of an ACK frame and in the flags
of a CLOSE_PATH frame. -/
def lengthBits (f : AckedPackets) : Byte :=
  (if getPacketNumberLength f.largestAcked ≠ 1 then
    UInt8.ofNat (getPacketNumberLength f.largestAcked / 2) <<< 2 else 0) ^^^
  (if f.getMissingSequenceNumberDeltaLen ≠ 1 then
    UInt8.ofNat (f.getMissingSequenceNumberDeltaLen / 2) else 0)

/-- The length of the blocks, as both `MinLength` functions count it. -/
def minLengthRanges (f : AckedPackets) : Nat :=
  let len := f.getMissingSequenceNumberDeltaLen
  if f.hasMissingRanges then (1 + len) * f.numWritableNackRanges else len

end AckedPackets

namespace AckFrame

/-- `AckFrame.Write`; `now` is the time at which the delay is taken. -/
def write (f : AckFrame) (version now : Int) : Except Err (List Byte) := do
  let o := getByteOrder version
  let typeByte : Byte := (0x40 ^^^ f.lengthBits) |||
    (if f.hasMissingRanges then 0x20 else 0) ||| (if f.pathID ≠ initialPathID then 0x10 else 0)
  let delay := ((now - f.packetReceivedTime).tdiv 1000 % 2 ^ 64).toNat
  let numRanges ← f.writeNumRanges
  let ranges ← f.writeRanges o true
  return typeByte :: (if f.pathID ≠ initialPathID then [UInt8.ofNat f.pathID] else []) ++
    o.writeUintN (getPacketNumberLength f.largestAcked) f.largestAcked ++
    o.writeUfloat16 delay ++ numRanges ++ ranges ++ [0]

/-- `AckFrame.MinLength`. -/
def minLength (f : AckFrame) : Nat :=
  (1 + 2 + 1) + getPacketNumberLength f.largestAcked + f.minLengthRanges +
    if f.pathID ≠ initialPathID then 1 else 0

end AckFrame

namespace ClosePathFrame

/-- `ClosePathFrame.Write`. -/
def write (f : ClosePathFrame) (version : Int) : Except Err (List Byte) := do
  let o := getByteOrder version
  let flags : Byte := (if f.hasMissingRanges then 0x10 else 0) ^^^ f.lengthBits
  let numRanges ← f.writeNumRanges
  let largest ← AckedPackets.writeNumber o false (getPacketNumberLength f.largestAcked)
    f.largestAcked
  let ranges ← f.writeRanges o false
  return 0x11 :: UInt8.ofNat f.pathID :: flags :: numRanges ++ largest ++ ranges

/-- `ClosePathFrame.MinLength`. -/
def minLength (f : ClosePathFrame) : Nat :=
  (1 + 1 + 1) + getPacketNumberLength f.largestAcked + f.minLengthRanges

end ClosePathFrame

/-! ## The other frames -/

/-- `StopWaitingFrame.Write`. -/
def StopWaitingFrame.write (f : StopWaitingFrame) (version : Int) : Except Err (List Byte) :=
  if f.packetNumber = 0 then .error .packetNumberNotSet
  else if f.packetNumber < f.leastUnacked then .error .leastUnackedHigherThanPacketNumber
  else if f.packetNumberLen ∈ [1, 2, 4, 6] then
    .ok (0x06 ::
      (getByteOrder version).writeUintN f.packetNumberLen (f.packetNumber - f.leastUnacked))
  else .error .packetNumberLenNotSet

/-- `StopWaitingFrame.MinLength`. -/
def StopWaitingFrame.minLength (f : StopWaitingFrame) : Except Err Nat :=
  if f.packetNumberLen = 0 then .error .packetNumberLenNotSet else .ok (1 + f.packetNumberLen)

/-- `RstStreamFrame.Write`. -/
def RstStreamFrame.write (f : RstStreamFrame) (version : Int) : List Byte :=
  let o := getByteOrder version
  0x01 :: o.writeUintN 4 f.streamID ++ o.writeUintN 8 f.byteOffset ++ o.writeUintN 4 f.errorCode

/-- `WindowUpdateFrame.Write`. -/
def WindowUpdateFrame.write (f : WindowUpdateFrame) (version : Int) : List Byte :=
  let o := getByteOrder version
  0x04 :: o.writeUintN 4 f.streamID ++ o.writeUintN 8 f.byteOffset

/-- `BlockedFrame.Write`. -/
def BlockedFrame.write (f : BlockedFrame) (version : Int) : List Byte :=
  0x05 :: (getByteOrder version).writeUintN 4 f.streamID

/-- `GoawayFrame.Write`. -/
def GoawayFrame.write (f : GoawayFrame) (version : Int) : List Byte :=
  let o := getByteOrder version
  0x03 :: o.writeUintN 4 f.errorCode ++ o.writeUintN 4 f.lastGoodStream ++
    o.writeUintN 2 f.reasonPhrase.length ++ f.reasonPhrase

/-- `ConnectionCloseFrame.Write`. -/
def ConnectionCloseFrame.write (f : ConnectionCloseFrame) (version : Int) :
    Except Err (List Byte) :=
  let o := getByteOrder version
  if 2 ^ 16 - 1 < f.reasonPhrase.length then .error .reasonPhraseTooLong
  else .ok (0x02 :: o.writeUintN 4 f.errorCode ++ o.writeUintN 2 f.reasonPhrase.length ++
    f.reasonPhrase)

/-- `AddAddressFrame.Write`. -/
def AddAddressFrame.write (f : AddAddressFrame) (version : Int) : Except Err (List Byte) :=
  let port := (getByteOrder version).writeUintN 2 f.addr.port
  let address (ip : Option (List Byte)) : Except Err (List Byte) :=
    match ip with
    | none => .error .inconsistentAddrIPVersion
    | some ip => .ok (0x10 :: UInt8.ofNat f.ipVersion :: ip ++ port)
  if f.ipVersion = 4 then address f.addr.to4
  else if f.ipVersion = 6 then address f.addr.to16
  else .error .unknownIPVersion

/-- `AddAddressFrame.MinLength`. -/
def AddAddressFrame.minLength (f : AddAddressFrame) : Except Err Nat :=
  if f.ipVersion = 4 then .ok (1 + 1 + 4 + 2)
  else if f.ipVersion = 6 then .ok (1 + 1 + 16 + 2)
  else .error .unknownIPVersion

/-- `PathsFrame.Write`. -/
def PathsFrame.write (f : PathsFrame) (version : Int) : Except Err (List Byte) :=
  let o := getByteOrder version
  if f.numPaths ≠ f.pathIDs.length then .error .pathsNumber
  else if f.pathIDs.length ≠ f.remoteRTTs.length then .error .missingRTT
  else .ok (0x12 :: UInt8.ofNat f.maxNumPaths :: UInt8.ofNat f.numPaths ::
    ((f.pathIDs.zip f.remoteRTTs).map fun (pathID, rtt) =>
      UInt8.ofNat pathID :: o.writeUfloat16 (rtt.tdiv 1000 % 2 ^ 64).toNat).flatten)

/-- `PathsFrame.MinLength`; the source computes it on `uint8`. -/
def PathsFrame.minLength (f : PathsFrame) : Nat :=
  (1 + 1 + 1 + 3 * f.numPaths) % 2 ^ 8

namespace Frame

/-- `MinLength` of the `wire.Frame` interface. -/
def minLength : Frame StreamFrame → Except Err Nat
  | stream f => .ok f.minLength
  | ack f => .ok f.minLength
  | stopWaiting f => f.minLength
  | rstStream _ => .ok (1 + 4 + 8 + 4)
  | windowUpdate _ => .ok (1 + 4 + 8)
  | blocked _ => .ok (1 + 4)
  | ping => .ok 1
  | goaway f => .ok (1 + 4 + 4 + 2 + f.reasonPhrase.length)
  | connectionClose f => .ok (1 + 4 + 2 + f.reasonPhrase.length)
  | addAddress f => f.minLength
  | closePath f => .ok f.minLength
  | paths f => .ok f.minLength

/-- `Write` of the `wire.Frame` interface. -/
def write (version now : Int) : Frame StreamFrame → Except Err (List Byte)
  | stream f => f.write version
  | ack f => f.write version now
  | stopWaiting f => f.write version
  | rstStream f => .ok (f.write version)
  | windowUpdate f => .ok (f.write version)
  | blocked f => .ok (f.write version)
  | ping => .ok [0x07]
  | goaway f => .ok (f.write version)
  | connectionClose f => f.write version
  | addAddress f => f.write version
  | closePath f => f.write version
  | paths f => f.write version

end Frame
end MpQuic
