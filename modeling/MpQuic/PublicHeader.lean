import MpQuic.ByteOrder
import MpQuic.Errors
import MpQuic.Version

/-!
# The public header (`internal/wire/public_header.go`)
-/
namespace MpQuic

/-- `wire.PublicHeader`, without the bytes it was parsed from. -/
structure PublicHeader where
  connectionID : Nat
  pathID : Nat := 0
  versionFlag : Bool := false
  resetFlag : Bool := false
  truncateConnectionID : Bool
  multipathFlag : Bool := false
  packetNumberLen : Nat
  packetNumber : Nat
  versionNumber : Int := 0
  supportedVersions : List Int := []
  diversificationNonce : List Byte := []
  deriving DecidableEq, Repr

namespace PublicHeader

/-- `hasPacketNumber`. -/
def hasPacketNumber (h : PublicHeader) (packetSentBy : Perspective) : Bool :=
  !h.resetFlag && !(h.versionFlag && packetSentBy == .server)

/-- `GetLength`. -/
def getLength (h : PublicHeader) (pers : Perspective) : Except Err Nat :=
  if h.versionFlag && h.resetFlag then .error .resetAndVersionFlagSet
  else if h.versionFlag && pers == .server then .error .getLengthNotForVersionNegotiation
  else if h.hasPacketNumber pers && !([1, 2, 4, 6].contains h.packetNumberLen) then
    .error .packetNumberLenNotSet
  else .ok <| 1 + (if h.hasPacketNumber pers then h.packetNumberLen else 0) +
    (if !h.truncateConnectionID then 8 else 0) + (if h.versionFlag then 4 else 0) +
    h.diversificationNonce.length + (if h.multipathFlag then 1 else 0)

/-- The public flag byte of `Write`. -/
def publicFlagByte (h : PublicHeader) (pers : Perspective) : Byte :=
  let version : Byte := if h.versionFlag then 0x01 else 0
  let reset : Byte := if h.resetFlag then 0x02 else 0
  let connectionID : Byte := if !h.truncateConnectionID then 0x08 else 0
  let nonce : Byte := if 0 < h.diversificationNonce.length then 0x04 else 0
  let packetNumberLen : Byte :=
    if h.hasPacketNumber pers then
      match h.packetNumberLen with
      | 2 => 0x10
      | 4 => 0x20
      | 6 => 0x30
      | _ => 0
    else 0
  let multipath : Byte := if h.multipathFlag then 0x40 else 0
  version ||| reset ||| connectionID ||| nonce ||| packetNumberLen ||| multipath

/-- `Write`. -/
def write (h : PublicHeader) (version : Int) (pers : Perspective) : Except Err (List Byte) :=
  if h.versionFlag && h.resetFlag then .error .resetAndVersionFlagSet
  else if 0 < h.diversificationNonce.length ∧ h.diversificationNonce.length ≠ 32 then
    .error .invalidDiversificationNonceLength
  else
    let o := ByteOrder.littleEndian
    let front := h.publicFlagByte pers ::
      (if !h.truncateConnectionID then o.writeUintN 8 h.connectionID else []) ++
      (if h.versionFlag && pers == .client then o.writeUintN 4 (versionNumberToTag h.versionNumber)
        else []) ++
      h.diversificationNonce ++ (if h.multipathFlag then [UInt8.ofNat h.pathID] else [])
    if !h.hasPacketNumber pers then .ok front
    else if [1, 2, 4, 6].contains h.packetNumberLen then
      .ok (front ++ (getByteOrder version).writeUintN h.packetNumberLen h.packetNumber)
    else .error .packetNumberLenNotSet

end PublicHeader
end MpQuic
