import Mathlib.Data.List.Sort
import MpQuic.ByteOrder
import MpQuic.Lib.Outcome

/-!
# Handshake messages (`internal/handshake/handshake_message.go`, `tags.go`)

A handshake message is a tag and a map of tags to values.  On the wire an index of
the tags, in increasing order, and of the ends of their values precedes the values.
-/
namespace MpQuic

/-- The data of a handshake message. -/
abbrev TagMap := GoMap (List Byte)

/-- A `Tag` is made of four characters, the first one in the low byte. -/
def tagOf (a b c d : Char) : Nat :=
  a.toNat + b.toNat * 2 ^ 8 + c.toNat * 2 ^ 16 + d.toNat * 2 ^ 24

/-- `[]byte` of a string of ASCII characters. -/
def bytesOf (cs : List Char) : List Byte := cs.map fun c => UInt8.ofNat c.toNat

def tagCHLO : Nat := tagOf 'C' 'H' 'L' 'O'
def tagREJ : Nat := tagOf 'R' 'E' 'J' '\x00'
def tagSHLO : Nat := tagOf 'S' 'H' 'L' 'O'
def tagSCFG : Nat := tagOf 'S' 'C' 'F' 'G'
def tagPAD : Nat := tagOf 'P' 'A' 'D' '\x00'
def tagSNI : Nat := tagOf 'S' 'N' 'I' '\x00'
def tagVER : Nat := tagOf 'V' 'E' 'R' '\x00'
def tagCCS : Nat := tagOf 'C' 'C' 'S' '\x00'
def tagMSPC : Nat := tagOf 'M' 'S' 'P' 'C'
def tagMIDS : Nat := tagOf 'M' 'I' 'D' 'S'
def tagFHL2 : Nat := tagOf 'F' 'H' 'L' '2'
def tagNSTP : Nat := tagOf 'N' 'S' 'T' 'P'
def tagCCRT : Nat := tagOf 'C' 'C' 'R' 'T'
def tagSVID : Nat := tagOf 'S' 'V' 'I' 'D'
def tagTCID : Nat := tagOf 'T' 'C' 'I' 'D'
def tagPDMD : Nat := tagOf 'P' 'D' 'M' 'D'
def tagICSL : Nat := tagOf 'I' 'C' 'S' 'L'
def tagCFCW : Nat := tagOf 'C' 'F' 'C' 'W'
def tagSFCW : Nat := tagOf 'S' 'F' 'C' 'W'
def tagSTK : Nat := tagOf 'S' 'T' 'K' '\x00'
def tagSNO : Nat := tagOf 'S' 'N' 'O' '\x00'
def tagPROF : Nat := tagOf 'P' 'R' 'O' 'F'
def tagNONC : Nat := tagOf 'N' 'O' 'N' 'C'
def tagXLCT : Nat := tagOf 'X' 'L' 'C' 'T'
def tagSCID : Nat := tagOf 'S' 'C' 'I' 'D'
def tagKEXS : Nat := tagOf 'K' 'E' 'X' 'S'
def tagAEAD : Nat := tagOf 'A' 'E' 'A' 'D'
def tagPUBS : Nat := tagOf 'P' 'U' 'B' 'S'
def tagOBIT : Nat := tagOf 'O' 'B' 'I' 'T'
def tagEXPY : Nat := tagOf 'E' 'X' 'P' 'Y'
def tagPRST : Nat := tagOf 'P' 'R' 'S' 'T'
def tagRSEQ : Nat := tagOf 'R' 'S' 'E' 'Q'
def tagRNON : Nat := tagOf 'R' 'N' 'O' 'N'
def tagCERT : Nat := 0xff545243

/-- The ways in which the handshake would panic. -/
inductive HandshakePanic
  | sendOnClosedChannel
  | closeOfClosedChannel
  | nilServerConfig
  deriving DecidableEq, Repr

/-- The errors of `internal/handshake`.  Those that name a parameter carry its tag. -/
inductive HandshakeError
  | panic (p : HandshakePanic)
  -- handshake_message.go
  | endOfData
  | cryptoTooManyEntries
  | valueTooLong
  -- connection_parameters_manager.go
  | malformedTag
  | flowControlRenegotiationNotSupported
  -- server_config_client.go
  | messageNotServerConfig
  | cryptoMessageParameterNotFound (tag : Nat)
  | cryptoInvalidValueLength (tag : Nat)
  | cryptoNoSupport (tag : Nat)
  | keyExchange
  -- crypto_setup_client.go
  | noObitForClientNonce
  | clientNonceAlreadyExists
  | conflictingDiversificationNonces
  | invalidCryptoMessageType
  | cryptoServerConfigExpired
  | certificateDataInvalid
  | proofInvalid
  | unencryptedSHLO
  | missingVersionList
  | versionNegotiationMismatch
  | invalidCryptoMessageParameter
  | cryptoTooManyRejects
  | handshakeFailed
  -- crypto_setup_server.go
  | holExperiment
  | nstpExperiment
  | missingVersionTag
  | incorrectVersionTag
  | unknownServerName
  | invalidClientNonceLength
  | obitNotMatching
  | chloTooSmall
  | signature
  -- internal/wire/public_reset.go
  | wrongPublicResetTag
  | rseqMissing
  | invalidRSEQ
  | rnonMissing
  | invalidRNON
  deriving DecidableEq, Repr

/-- `HandshakeMessage`. -/
structure HandshakeMessage where
  tag : Nat
  data : TagMap

namespace HandshakeMessage

/-- `protocol.CryptoMaxParams`. -/
def cryptoMaxParams : Nat := 128

/-- `protocol.CryptoParameterMaxLength`. -/
def cryptoParameterMaxLength : Nat := 4000

/-- `io.ReadFull` of `n` bytes: the bytes and what is behind them. -/
def readFull (n : Nat) (bs : List Byte) : Except HandshakeError (List Byte × List Byte) :=
  if n ≤ bs.length then .ok (bs.take n, bs.drop n) else .error .endOfData

/-- `binary.LittleEndian.Uint32`. -/
def uint32 (bs : List Byte) : Nat := ByteOrder.littleEndian.uintOf (bs.take 4)

/-- The difference of two unsigned 32-bit integers. -/
def sub32 (a b : Nat) : Nat := (a + 2 ^ 32 - b) % 2 ^ 32

/-- The loop variables of `ParseHandshakeMessage`, and the bytes that are left. -/
structure Parsing where
  dataStart : Nat := 0
  resultMap : TagMap := ∅
  rest : List Byte

/-- An iteration of the loop of `ParseHandshakeMessage`, for the entry the index starts with.
The length of a value is computed in 32 bits. -/
def parsePair (index : List Byte) (st : Parsing) : Except HandshakeError Parsing :=
  let tag := uint32 index
  let dataEnd := uint32 (index.drop 4)
  let dataLen := sub32 dataEnd st.dataStart
  if cryptoParameterMaxLength < dataLen then .error .valueTooLong
  else
    match readFull dataLen st.rest with
    | .error e => .error e
    | .ok (data, rest) => .ok ⟨dataEnd, st.resultMap.insert tag data, rest⟩

/-- The loop of `ParseHandshakeMessage` over the index. -/
def parsePairs : Nat → List Byte → Parsing → Except HandshakeError Parsing
  | 0, _, st => .ok st
  | nPairs + 1, index, st => parsePair index st >>= parsePairs nPairs (index.drop 8)

/-- `ParseHandshakeMessage`. -/
def parse (bs : List Byte) : Except HandshakeError (HandshakeMessage × List Byte) := do
  let (messageTag, bs) ← readFull 4 bs
  let (nPairs, bs) ← readFull 4 bs
  if cryptoMaxParams < uint32 nPairs then throw .cryptoTooManyEntries
  let (index, bs) ← readFull (uint32 nPairs * 8) bs
  let st ← parsePairs (uint32 nPairs) index { rest := bs }
  return (⟨uint32 messageTag, st.resultMap⟩, st.rest)

/-- The index `Write` puts before the values. -/
def writeIndex (data : TagMap) : Nat → List Nat → List Byte
  | _, [] => []
  | offset, t :: tags =>
    let offset := offset + ((data.lookup t).getD []).length
    ByteOrder.littleEndian.writeUintN 4 t ++ ByteOrder.littleEndian.writeUintN 4 offset ++
      writeIndex data offset tags

/-- `Write`. -/
def write (h : HandshakeMessage) : List Byte :=
  let o := ByteOrder.littleEndian
  let tagsSorted := h.data.keys.insertionSort (· ≤ ·)
  o.writeUintN 4 h.tag ++ o.writeUintN 2 h.data.keys.length ++ o.writeUintN 2 0 ++
    writeIndex h.data 0 tagsSorted ++ tagsSorted.flatMap fun t => (h.data.lookup t).getD []

end HandshakeMessage

/-! ## Parsing does not panic -/

/-- Not a panic. -/
def HandshakeError.NotPanic : HandshakeError → Prop
  | .panic _ => False
  | _ => True

namespace HandshakeMessage
open Systems

theorem readFull_notPanic (n : Nat) (bs : List Byte) :
    FailsOnly HandshakeError.NotPanic (readFull n bs) := by
  unfold readFull
  split
  · exact failsOnly_ok _
  · exact (failsOnly_error _).mpr trivial

theorem parsePair_notPanic (index : List Byte) (st : Parsing) :
    FailsOnly HandshakeError.NotPanic (parsePair index st) := by
  unfold parsePair
  dsimp only
  split
  · exact (failsOnly_error _).mpr trivial
  · split
    · next e he => exact (failsOnly_error _).mpr ((readFull_notPanic ..).error e he)
    · exact failsOnly_ok _

theorem parsePairs_notPanic (nPairs : Nat) (index : List Byte) (st : Parsing) :
    FailsOnly HandshakeError.NotPanic (parsePairs nPairs index st) := by
  induction nPairs generalizing index st with
  | zero => exact failsOnly_ok _
  | succ nPairs ih => exact (parsePair_notPanic index st).bind fun st _ => ih (index.drop 8) st

/-- No bytes make `ParseHandshakeMessage` panic: every index it takes has been compared with what
is left before. -/
theorem parse_notPanic (bs : List Byte) : FailsOnly HandshakeError.NotPanic (parse bs) := by
  refine (readFull_notPanic ..).bind fun _ _ => ?_
  refine (readFull_notPanic ..).bind fun _ _ => ?_
  dsimp only
  split_ifs
  · exact (failsOnly_throw_bind ..).mpr trivial
  · refine (readFull_notPanic ..).bind fun _ _ => ?_
    exact (parsePairs_notPanic ..).bind fun _ _ => failsOnly_pure _

end HandshakeMessage
end MpQuic
