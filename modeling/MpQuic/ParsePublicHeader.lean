import MpQuic.HandshakeMessage
import MpQuic.ParseFrame
import MpQuic.PublicHeader

/-!
# Parsing the public header, and the packets outside of a session

`ParsePublicHeader` of `internal/wire/public_header.go`, `version_negotiation.go` and
`public_reset.go`.  In a packet of the server the version flag marks a version
negotiation packet, whose tags fill the rest of the packet.
-/
namespace MpQuic
open MpQuic.Parser

/-- A field that is only there under a condition. -/
def Parser.optional {α : Type} (present : Bool) (default : α) (p : Parser α) : Parser α :=
  if present then p else pure default

namespace PublicHeader

/-- What `ParsePublicHeader` reads from the public flag byte. -/
def ofFlagByte (publicFlagByte : Byte) (packetSentBy : Perspective) : PublicHeader :=
  let header : PublicHeader :=
    { connectionID := 0
      resetFlag := publicFlagByte &&& 0x02 != 0
      versionFlag := publicFlagByte &&& 0x01 != 0
      truncateConnectionID := publicFlagByte &&& 0x08 == 0
      multipathFlag := publicFlagByte &&& 0x40 != 0
      packetNumberLen := 0
      packetNumber := 0 }
  if header.hasPacketNumber packetSentBy then
    { header with packetNumberLen :=
        if publicFlagByte &&& 0x30 = 0x30 then 6
        else if publicFlagByte &&& 0x30 = 0x20 then 4
        else if publicFlagByte &&& 0x30 = 0x10 then 2
        else 1 }
  else header

/-- The connection ID, which is always in little endian. -/
def parseConnectionID : Parser Nat := do
  let connectionID ← readUintN .littleEndian 8
  if connectionID = 0 then throw .invalidConnectionID else return connectionID

/-- The loop over the tags of a version negotiation packet: it ends when fewer than four bytes
are left. -/
def versionsOf : List Byte → List Int
  | b0 :: b1 :: b2 :: b3 :: rest =>
    versionTagToNumber (ByteOrder.littleEndian.uintOf [b0, b1, b2, b3]) :: versionsOf rest
  | _ => []

/-- The end of a version negotiation packet. -/
def parseVersions (header : PublicHeader) : Parser PublicHeader := fun bs =>
  if bs.length % 4 ≠ 0 then .error .invalidVersionNegotiationPacket
  else .ok ({ header with supportedVersions := versionsOf bs }, [])

/-- The path ID and the packet number. -/
def parsePacketNumber (header : PublicHeader) (packetSentBy : Perspective) (version : Int) :
    Parser PublicHeader := do
  let pathID ← optional header.multipathFlag 0 (UInt8.toNat <$> readByte)
  let packetNumber ← optional (header.hasPacketNumber packetSentBy) 0
    (readUintN (getByteOrder version) header.packetNumberLen)
  return { header with pathID, packetNumber }

end PublicHeader

open PublicHeader in
/-- `ParsePublicHeader`. -/
def parsePublicHeader (packetSentBy : Perspective) (version : Int) : Parser PublicHeader := do
  let publicFlagByte ← readByte
  let header := ofFlagByte publicFlagByte packetSentBy
  if version = versionUnknown ∧ !(header.versionFlag || header.resetFlag) then
    throw .packetWithUnknownVersion
  else if header.truncateConnectionID && packetSentBy == .client then
    throw .receivedTruncatedConnectionID
  else do
    let connectionID ← optional (!header.truncateConnectionID) 0 parseConnectionID
    let diversificationNonce ← optional
      (packetSentBy == .server && publicFlagByte &&& 0x04 != 0 &&
        !header.versionFlag && !header.resetFlag) [] (readFull 32)
    let header := { header with connectionID, diversificationNonce }
    if !header.resetFlag && header.versionFlag then
      if packetSentBy = .server then parseVersions header
      else do
        let versionNumber := versionTagToNumber (← readUintN .littleEndian 4)
        parsePacketNumber { header with versionNumber } packetSentBy versionNumber
    else parsePacketNumber header packetSentBy version

/-! ## Version negotiation packets -/

/-- The version tags of a negotiation packet. -/
def versionTags (versions : List Int) : List Byte :=
  versions.flatMap fun v => ByteOrder.littleEndian.writeUintN 4 (versionNumberToTag v)

/-- `ComposeVersionNegotiation`.  `Write` fails for no such header. -/
def composeVersionNegotiation (connectionID : Nat) (versions : List Int) : List Byte :=
  let responsePublicHeader : PublicHeader :=
    { connectionID, packetNumber := 1, versionFlag := true, truncateConnectionID := false
      packetNumberLen := 0 }
  match responsePublicHeader.write 0 .server with
  | .ok front => front ++ versionTags versions
  | .error _ => versionTags versions

/-! ## Public resets -/

/-- `PublicReset`. -/
structure PublicReset where
  rejectedPacketNumber : Nat
  nonce : Nat
  deriving DecidableEq, Repr

/-- A value of a public reset: eight bytes in little endian. -/
def resetValue (data : TagMap) (tag : Nat) (missing invalid : HandshakeError) :
    Except HandshakeError Nat :=
  match data.lookup tag with
  | none => .error missing
  | some value =>
    if value.length ≠ 8 then .error invalid else .ok (ByteOrder.littleEndian.uintOf value)

/-- `ParsePublicReset`. -/
def parsePublicReset (bs : List Byte) : Except HandshakeError PublicReset := do
  let (msg, _) ← HandshakeMessage.parse bs
  if msg.tag ≠ tagPRST then throw .wrongPublicResetTag
  else do
    let rejectedPacketNumber ← resetValue msg.data tagRSEQ .rseqMissing .invalidRSEQ
    let nonce ← resetValue msg.data tagRNON .rnonMissing .invalidRNON
    return { rejectedPacketNumber, nonce }

end MpQuic
