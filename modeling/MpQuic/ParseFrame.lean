import MpQuic.Frame
import MpQuic.Lib.Outcome

/-!
# Parsing frames (`Parse*` in `internal/wire`, `packet_unpacker.go`)

A parser takes the bytes that are left of a packet and returns a value and the
bytes behind it.  `Unpack` wraps the errors of most parsers into another error
value; only whether decryption failed is ever asked of the result, so the
underlying error is kept here.
-/
namespace MpQuic
open Systems ByteOrder

/-- A reader of the bytes that are left (`bytes.Reader`). -/
abbrev Parser (α : Type) := StateT (List Byte) (Except Err) α

namespace Parser

/-- `ReadByte`. -/
def readByte : Parser Byte := fun bs =>
  match bs with
  | [] => .error .eof
  | b :: rest => .ok (b, rest)

/-- `io.ReadFull` into a buffer of `n` bytes. -/
def readFull (n : Nat) : Parser (List Byte) := fun bs =>
  if n ≤ bs.length then .ok (bs.take n, bs.drop n) else .error .eof

/-- `ReadUintN`, `ReadUint16`, `ReadUint32` and `ReadUint64`. -/
def readUintN (o : ByteOrder) (n : Nat) : Parser Nat := do
  return o.uintOf (← readFull n)

/-- `ReadUfloat16`. -/
def readUfloat16 (o : ByteOrder) : Parser Nat := do
  return ofUfloat16 (← readUintN o 2)

/-! ## Reading -/

variable {α β : Type}

@[simp] theorem throw_apply (e : Err) (bs : List Byte) : (throw e : Parser α) bs = .error e := rfl

@[simp] theorem pure_apply (a : α) (bs : List Byte) : (pure a : Parser α) bs = .ok (a, bs) := rfl

variable {x : Parser α} {g : α → Parser β}

/-- A parser that returned had a first part that returned. -/
theorem bind_ok {bs : List Byte} {r : β × List Byte} (h : (x >>= g) bs = .ok r) :
    ∃ a bs', x bs = .ok (a, bs') ∧ g a bs' = .ok r := by
  change (x bs >>= fun p => g p.1 p.2) = .ok r at h
  rcases hx : x bs with e | ⟨a, bs'⟩
  · rw [hx] at h
    cases h
  · rw [hx] at h
    exact ⟨a, bs', rfl, h⟩

/-- A parser goes on where its first part stopped. -/
theorem bind_of_ok {bs bs' : List Byte} {a : α} (h : x bs = .ok (a, bs')) (g : α → Parser β) :
    (x >>= g) bs = g a bs' := by
  change (x bs >>= fun p => g p.1 p.2) = g a bs'
  rw [h]
  rfl

@[simp] theorem readByte_cons (b : Byte) (rest : List Byte) :
    readByte (b :: rest) = .ok (b, rest) := rfl

theorem readFull_append (a b : List Byte) : readFull a.length (a ++ b) = .ok (a, b) := by
  simp [readFull]

/-- Reading what was written in `n` bytes. -/
theorem readUintN_append_mod (o : ByteOrder) (n v : Nat) (rest : List Byte) :
    readUintN o n (o.writeUintN n v ++ rest) = .ok (v % 256 ^ n, rest) := by
  have hread := readFull_append (o.writeUintN n v) rest
  rw [length_writeUintN] at hread
  rw [readUintN, bind_of_ok hread, o.uintOf_writeUintN_mod]
  rfl

/-- Reading an integer that was written in `n` bytes. -/
theorem readUintN_append (o : ByteOrder) {n v : Nat} (h : v < 256 ^ n) (rest : List Byte) :
    readUintN o n (o.writeUintN n v ++ rest) = .ok (v, rest) := by
  rw [readUintN_append_mod, Nat.mod_eq_of_lt h]

theorem readUfloat16_append (o : ByteOrder) (v : Nat) (rest : List Byte) :
    readUfloat16 o (o.writeUfloat16 v ++ rest) =
      .ok (ofUfloat16 (ufloat16 v), rest) := by
  unfold readUfloat16 writeUfloat16
  rw [bind_of_ok (readUintN_append o (ufloat16_lt v) rest)]
  rfl

/-- **Values are rounded down** to the largest that can be written, by less than one part in 2048
within the range; larger values are written in no smaller words, and every word that is read is
written again. -/
theorem ufloat16_rounds_down (o : ByteOrder) (v : Nat) (rest : List Byte) :
    (∃ x, readUfloat16 o (o.writeUfloat16 v ++ rest) = .ok (x, rest) ∧
      IsGreatest {y | ByteOrder.Representable y ∧ y ≤ min v maxUfloat16} x ∧
      (0 < v → v ≤ maxUfloat16 → (v - x) * 2 ^ 11 < v)) ∧
    (∀ w, v ≤ w → ufloat16 v ≤ ufloat16 w) ∧
    ∀ val < 2 ^ 16, ∃ x, readUfloat16 o (o.writeUintN 2 val ++ rest) = .ok (x, rest) ∧
      o.writeUfloat16 x = o.writeUintN 2 val := by
  refine ⟨⟨_, readUfloat16_append o v rest, isGreatest_ofUfloat16 v, fun hpos hle => ?_⟩,
    fun w h => monotone_ufloat16 h, fun val hval => ⟨ofUfloat16 val, ?_, ?_⟩⟩
  · rcases hle.eq_or_lt with rfl | hlt
    · decide
    · exact (ufloat16_encloses hlt).2.2 hpos
  · rw [readUfloat16, bind_of_ok (readUintN_append o hval rest)]
    rfl
  · rw [writeUfloat16, ufloat16_ofUfloat16 hval]

theorem ufloat16_rounds_4097_down :
    (4097 - 4096) * 2 ^ 11 < 4097 ∧ ∃ x, readUfloat16 .bigEndian [0x10, 0x00] = .ok (x, []) ∧
      writeUfloat16 .bigEndian x = [0x10, 0x00] := by
  obtain ⟨⟨x, hread, -, herror⟩, -, hwords⟩ := ufloat16_rounds_down .bigEndian 4097 []
  obtain rfl : x = 4096 := (Prod.mk.inj (Except.ok.inj hread.symm)).1
  exact ⟨herror (by decide) (by decide), hwords 0x1000 (by decide)⟩

/-! ## Readers that do not panic -/

/-- Whatever bytes are left, the reader does not panic. -/
structure Quiet {α : Type} (x : Parser α) : Prop where
  fails : ∀ bs, FailsOnly (·.isPanic = false) (x bs)

theorem quiet_pure (a : α) : Quiet (pure a) := ⟨fun _ => failsOnly_ok _⟩

theorem quiet_throw {e : Err} (h : e.isPanic = false) : Quiet (throw e : Parser α) :=
  ⟨fun _ => (failsOnly_error e).mpr h⟩

theorem Quiet.bind (hx : Quiet x)
    (hg : ∀ a bs bs', x bs = .ok (a, bs') → FailsOnly (·.isPanic = false) (g a bs')) :
    Quiet (x >>= g) := ⟨fun bs => (hx.fails bs).bind fun r hr => hg r.1 bs r.2 hr⟩

theorem Quiet.andThen (hx : Quiet x) (hg : ∀ a, Quiet (g a)) :
    Quiet (x >>= g) := hx.bind fun a _ bs' _ => (hg a).fails bs'

theorem quiet_readByte : Quiet readByte := by
  refine ⟨fun bs => ?_⟩
  cases bs with
  | nil => exact (failsOnly_error _).mpr rfl
  | cons b rest => exact failsOnly_ok _

theorem quiet_readFull (n : Nat) : Quiet (readFull n) := by
  refine ⟨fun bs => ?_⟩
  rw [readFull]
  split
  · exact failsOnly_ok _
  · exact (failsOnly_error _).mpr rfl

theorem quiet_readUintN (o : ByteOrder) (n : Nat) : Quiet (readUintN o n) :=
  (quiet_readFull n).andThen fun _ => quiet_pure _

theorem quiet_readUfloat16 (o : ByteOrder) : Quiet (readUfloat16 o) :=
  (quiet_readUintN o 2).andThen fun _ => quiet_pure _

/-! ## STREAM -/

/-- The value of the length field of a type byte: 0 stands for one byte. -/
def lengthField (bits : Byte) : Nat := if bits = 0 then 1 else 2 * bits.toNat

/-- `ParseStreamFrame`. -/
def parseStreamFrame (version : Int) : Parser StreamFrame := do
  let o := getByteOrder version
  let typeByte ← readByte
  let finBit : Bool := 0 < typeByte &&& 0x40
  let dataLenPresent : Bool := 0 < typeByte &&& 0x20
  let offsetBits := ((typeByte &&& 0x1c) >>> 2).toNat
  let offsetLen := if offsetBits ≠ 0 then offsetBits + 1 else 0
  let streamIDLen := (typeByte &&& 0x3).toNat + 1
  let streamID ← readUintN o streamIDLen
  let offset ← readUintN o offsetLen
  let dataLen ← if dataLenPresent then readUintN o 2 else pure 0
  if maxPacketSize < dataLen then throw .streamDataLenTooLarge
  let left ← get
  let dataLen := if dataLenPresent then dataLen else left.length % 2 ^ 16
  let data ← readFull dataLen
  if 2 ^ 64 ≤ offset + data.length then throw .streamDataOverflowsMaximumOffset
  if finBit = false ∧ data.length = 0 then throw .emptyStreamFrameWithoutFin
  return { streamID, finBit, dataLenPresent, offset, data }

/-! ## ACK and CLOSE_PATH -/

/-- The loop over the ACK blocks; the ranges are kept with the one read last in front.
`inLongBlock` and `lastRangeComplete` are the flags of the source. -/
def parseBlocks (o : ByteOrder) (len : Nat) :
    Nat → List AckRange → Bool → Bool → Parser (List AckRange × Bool)
  | 0, ranges, _, lastRangeComplete => pure (ranges, lastRangeComplete)
  | _ + 1, [], _, _ => throw (.panic .indexOutOfRange)
  | n + 1, r :: rs, inLongBlock, lastRangeComplete => do
    let gap := (← readByte).toNat
    let length ← readUintN o len
    if inLongBlock then
      let r' := { first := sub64 r.first (gap + length), last := sub64 r.last gap }
      parseBlocks o len n (r' :: rs) (length = 0) (lastRangeComplete || 0 < length)
    else
      let last := sub64 (sub64 r.first gap) 1
      let r' := { first := add64 (sub64 last length) 1, last }
      parseBlocks o len n (r' :: r :: rs) (length = 0) (0 < length)

/-- The acknowledged packets behind the first block: from the ACK blocks, if the frame has missing
ranges, or from the first block alone. -/
def parseAcked (o : ByteOrder) (len pathID largestAcked ackBlockLength : Nat) :
    Option Nat → Parser AckedPackets
  | some n => do
    let first := { first := largestAcked - ackBlockLength + 1, last := largestAcked }
    let (ranges, lastRangeComplete) ← parseBlocks o len n [first] false false
    match if lastRangeComplete then ranges else ranges.tail with
    | [] => throw (.panic .indexOutOfRange)
    | lowest :: higher =>
      pure { pathID, largestAcked, lowestAcked := lowest.first
             ackRanges := (lowest :: higher).reverse }
  | none =>
    let lowestAcked := if largestAcked = 0 then 0 else largestAcked + 1 - ackBlockLength
    pure { pathID, largestAcked, lowestAcked, ackRanges := [] }

/-- What both parsers do once the largest acked packet is known. -/
def parseRanges (o : ByteOrder) (len pathID largestAcked : Nat) (numAckBlocks : Option Nat) :
    Parser AckedPackets := do
  let ackBlockLength ← readUintN o len
  if 0 < largestAcked ∧ ackBlockLength < 1 then throw .invalidFirstAckRange
  else if largestAcked < ackBlockLength then throw .invalidAckRanges
  else do
    let frame ← parseAcked o len pathID largestAcked ackBlockLength numAckBlocks
    if !frame.validateAckRanges then throw .invalidAckRanges else return frame

/-- The number of ACK blocks, if the frame has missing ranges. -/
def parseNumAckBlocks (hasMissingRanges : Bool) : Parser (Option Nat) := do
  if hasMissingRanges then
    let n ← readByte
    if n = 0 then throw .invalidAckRanges
    return some n.toNat
  else return none

/-- The timestamps at the end of an ACK frame, which are skipped. -/
def skipTimestamps (o : ByteOrder) : Parser Unit := do
  let numTimestamp := (← readByte).toNat
  if 0 < numTimestamp then
    let _ ← readByte
    let _ ← readUintN o 4
    let _ ← readFull (3 * (numTimestamp - 1))

/-- `ParseAckFrame`. -/
def parseAckFrame (version : Int) : Parser AckFrame := do
  let o := getByteOrder version
  let typeByte ← readByte
  let hasMissingRanges : Bool := typeByte &&& 0x20 = 0x20
  let pathID ← if typeByte &&& 0x10 = 0x10 then (do return (← readByte).toNat) else pure 0
  let largestAcked ← readUintN o (lengthField ((typeByte &&& 0x0C) >>> 2))
  let delay ← readUfloat16 o
  let numAckBlocks ← parseNumAckBlocks hasMissingRanges
  let frame ← parseRanges o (lengthField (typeByte &&& 0x03)) pathID largestAcked numAckBlocks
  skipTimestamps o
  return { frame with packetReceivedTime := 0, delayTime := delay * 1000 }

/-- `ParseClosePathFrame`. -/
def parseClosePathFrame (version : Int) : Parser ClosePathFrame := do
  let o := getByteOrder version
  let _ ← readByte
  let pathID := (← readByte).toNat
  let flags ← readByte
  let numAckBlocks ← parseNumAckBlocks (flags &&& 0x10 = 0x10)
  let largestAcked ← readUintN o (lengthField ((flags &&& 0x0C) >>> 2))
  let frame ← parseRanges o (lengthField (flags &&& 0x03)) pathID largestAcked numAckBlocks
  return { frame with }

/-! ## The other frames -/

/-- `ParseStopWaitingFrame`. -/
def parseStopWaitingFrame (packetNumber packetNumberLen : Nat) (version : Int) :
    Parser StopWaitingFrame := do
  let _ ← readByte
  let leastUnackedDelta ← readUintN (getByteOrder version) packetNumberLen
  if packetNumber ≤ leastUnackedDelta then throw .invalidLeastUnackedDelta
  return { leastUnacked := packetNumber - leastUnackedDelta }

/-- `ParseRstStreamFrame`. -/
def parseRstStreamFrame (version : Int) : Parser RstStreamFrame := do
  let o := getByteOrder version
  let _ ← readByte
  let streamID ← readUintN o 4
  let byteOffset ← readUintN o 8
  let errorCode ← readUintN o 4
  return { streamID, errorCode, byteOffset }

/-- `ParseWindowUpdateFrame`. -/
def parseWindowUpdateFrame (version : Int) : Parser WindowUpdateFrame := do
  let o := getByteOrder version
  let _ ← readByte
  let streamID ← readUintN o 4
  let byteOffset ← readUintN o 8
  return { streamID, byteOffset }

/-- `ParseBlockedFrame`. -/
def parseBlockedFrame (version : Int) : Parser BlockedFrame := do
  let _ ← readByte
  return { streamID := ← readUintN (getByteOrder version) 4 }

/-- The reason phrase at the end of GOAWAY and CONNECTION_CLOSE frames. -/
def parseReasonPhrase (o : ByteOrder) : Parser (List Byte) := do
  let reasonPhraseLen ← readUintN o 2
  if maxPacketSize < reasonPhraseLen then throw .reasonPhraseTooLong
  readFull reasonPhraseLen

/-- `ParseGoawayFrame`. -/
def parseGoawayFrame (version : Int) : Parser GoawayFrame := do
  let o := getByteOrder version
  let _ ← readByte
  let errorCode ← readUintN o 4
  let lastGoodStream ← readUintN o 4
  return { errorCode, lastGoodStream, reasonPhrase := ← parseReasonPhrase o }

/-- `ParseConnectionCloseFrame`. -/
def parseConnectionCloseFrame (version : Int) : Parser ConnectionCloseFrame := do
  let o := getByteOrder version
  let _ ← readByte
  let errorCode ← readUintN o 4
  return { errorCode, reasonPhrase := ← parseReasonPhrase o }

/-- `ParseAddAddressFrame`; `net.IPv4` builds the 16-byte form. -/
def parseAddAddressFrame (version : Int) : Parser AddAddressFrame := do
  let _ ← readByte
  let ipVersion := (← readByte).toNat
  let ip ←
    if ipVersion = 4 then (do return UDPAddr.v4InV6Prefix ++ (← readFull 4))
    else if ipVersion = 6 then readFull 16
    else throw .unknownIPVersion
  let port ← readUintN (getByteOrder version) 2
  return { ipVersion, addr := { ip, port } }

/-- The loop of `ParsePathsFrame`. -/
def parsePathEntries (o : ByteOrder) : Nat → Parser (List (Nat × Int))
  | 0 => pure []
  | n + 1 => do
    let pathID := (← readByte).toNat
    let remoteRTT ← readUfloat16 o
    return (pathID, (remoteRTT : Int) * 1000) :: (← parsePathEntries o n)

/-- `ParsePathsFrame`. -/
def parsePathsFrame (version : Int) : Parser PathsFrame := do
  let _ ← readByte
  let maxNumPaths := (← readByte).toNat
  let numPaths := (← readByte).toNat
  if maxNumPaths < numPaths then throw .tooManyPaths
  let entries ← parsePathEntries (getByteOrder version) numPaths
  return { maxNumPaths, numPaths, pathIDs := entries.map (·.1), remoteRTTs := entries.map (·.2) }

/-- One frame, chosen by the type byte that `Unpack` peeked at. -/
def parseFrame (version : Int) (level : EncryptionLevel) (packetNumber packetNumberLen : Nat)
    (typeByte : Byte) : Parser (Frame StreamFrame) := do
  if typeByte &&& 0x80 = 0x80 then
    let f ← parseStreamFrame version
    if f.streamID ≠ 1 ∧ level ≤ .unencrypted then throw (.unencryptedStreamData f.streamID)
    return .stream f
  else if typeByte &&& 0xc0 = 0x40 then return .ack (← parseAckFrame version)
  else if typeByte &&& 0xe0 = 0x20 then throw .congestionFeedbackUnimplemented
  else if typeByte = 0x01 then return .rstStream (← parseRstStreamFrame version)
  else if typeByte = 0x02 then return .connectionClose (← parseConnectionCloseFrame version)
  else if typeByte = 0x03 then return .goaway (← parseGoawayFrame version)
  else if typeByte = 0x04 then return .windowUpdate (← parseWindowUpdateFrame version)
  else if typeByte = 0x05 then return .blocked (← parseBlockedFrame version)
  else if typeByte = 0x06 then
    return .stopWaiting (← parseStopWaitingFrame packetNumber packetNumberLen version)
  else if typeByte = 0x07 then (do let _ ← readByte; return .ping)
  else if typeByte = 0x10 then return .addAddress (← parseAddAddressFrame version)
  else if typeByte = 0x11 then return .closePath (← parseClosePathFrame version)
  else if typeByte = 0x12 then return .paths (← parsePathsFrame version)
  else throw (.unknownTypeByte typeByte)

/-- The loop of `Unpack`.  Every frame takes at least one byte, so the length of the payload
bounds the number of iterations. -/
def parseFrames (version : Int) (level : EncryptionLevel) (packetNumber packetNumberLen : Nat) :
    Nat → List Byte → Except Err (List (Frame StreamFrame))
  | _, [] => .ok []
  | 0, _ :: _ => .error .eof
  | fuel + 1, typeByte :: rest =>
    if typeByte = 0 then -- a PADDING frame
      parseFrames version level packetNumber packetNumberLen fuel rest
    else do
      let (frame, rest) ←
        parseFrame version level packetNumber packetNumberLen typeByte (typeByte :: rest)
      return frame :: (← parseFrames version level packetNumber packetNumberLen fuel rest)

end Parser

/-- `packetUnpacker.Unpack`.  `opened` is what `aead.Open` returned: the decrypted payload and
the level of the key that opened it, or nothing. -/
def unpack (version : Int) (packetNumber packetNumberLen : Nat)
    (opened : Option (List Byte × EncryptionLevel)) :
    Except Err (List (Frame StreamFrame)) :=
  match opened with
  | none => .error .decryptionFailure
  | some ([], _) => .error .missingPayload
  | some (decrypted, level) =>
    Parser.parseFrames version level packetNumber packetNumberLen decrypted.length decrypted

end MpQuic
