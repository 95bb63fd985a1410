import MpQuic.ParsedAcks

/-!
# The parsers of ACK and CLOSE_PATH frames are total and strict

They return for every byte string, without a panic: the ranges they index are those
they have put there.  What they return is strict in the sense of `ParsedAcks`.
-/
namespace MpQuic
open Systems

namespace Parser

/-! ## No panic -/

theorem quiet_parseBlocks (o : ByteOrder) (len n : Nat) (r : AckRange) (rs : List AckRange)
    (inLongBlock complete : Bool) : Quiet (parseBlocks o len n (r :: rs) inLongBlock complete) := by
  induction n generalizing r rs inLongBlock complete with
  | zero => exact quiet_pure _
  | succ n ih =>
    rw [parseBlocks]
    refine quiet_readByte.andThen fun gap => (quiet_readUintN o len).andThen fun length => ?_
    split
    · exact ih _ _ _ _
    · exact ih _ _ _ _

theorem quiet_parseNumAckBlocks (hasMissingRanges : Bool) :
    Quiet (parseNumAckBlocks hasMissingRanges) := by
  rw [parseNumAckBlocks]
  split
  · refine quiet_readByte.andThen fun n => ?_
    split
    · exact ⟨fun _ => (failsOnly_error _).mpr rfl⟩
    · exact quiet_pure _
  · exact quiet_pure _

variable {len : Nat} {num : Option Nat}

/-- With a block, a range is left after the loop. -/
theorem quiet_parseAcked (o : ByteOrder) (hlen : len ≤ 6) (pathID : Nat)
    {largestAcked blockLength : Nat} (hl : largestAcked < 2 ^ 48)
    (hle : blockLength ≤ largestAcked) (hnum : ∀ n ∈ num, 0 < n) :
    Quiet (parseAcked o len pathID largestAcked blockLength num) := by
  cases num with
  | none => exact quiet_pure _
  | some n =>
    refine (quiet_parseBlocks ..).bind ?_
    rintro ⟨ranges, complete⟩ bs bs' hblocks
    obtain ⟨blocks, inLongBlock, p, -, ht, hflags⟩ := parseBlocks_tracks hlen
      (.short (mod64_first hl hle) .nil) (fun hfalse => nomatch hfalse) hblocks
    have hkept := ht.kept
    rw [← hflags (Or.inr (hnum n rfl))] at hkept
    dsimp only
    generalize (if complete then ranges else ranges.tail) = kept at hkept
    cases kept with
    | nil =>
      have hlength := hkept.length_eq
      simp at hlength
    | cons lowest higher => exact failsOnly_ok _

theorem quiet_parseRanges (o : ByteOrder) (hlen : len ≤ 6) (pathID : Nat) {largestAcked : Nat}
    (hl : largestAcked < 2 ^ 48) (hnum : ∀ n ∈ num, 0 < n) :
    Quiet (parseRanges o len pathID largestAcked num) := by
  refine (quiet_readUintN o len).andThen fun blockLength => ?_
  split_ifs with hfirst hle
  · exact quiet_throw rfl
  · exact quiet_throw rfl
  · refine (quiet_parseAcked o hlen pathID hl (not_lt.mp hle) hnum).andThen fun f => ?_
    split
    · exact quiet_throw rfl
    · exact quiet_pure _

theorem quiet_skipTimestamps (o : ByteOrder) : Quiet (skipTimestamps o) := by
  refine quiet_readByte.andThen fun n => ?_
  dsimp only
  split
  · exact quiet_readByte.andThen fun _ => (quiet_readUintN o 4).andThen fun _ =>
      (quiet_readFull _).andThen fun _ => quiet_pure _
  · exact quiet_pure _

theorem quiet_parseClosePathFrame (version : Int) : Quiet (parseClosePathFrame version) := by
  refine quiet_readByte.andThen fun _ => quiet_readByte.andThen fun _ =>
    quiet_readByte.andThen fun flags => ?_
  obtain ⟨ha, hb⟩ := lengthField_le flags
  refine (quiet_parseNumAckBlocks _).bind fun num _ bs₁ hnum => ?_
  have hpos := fun n hn => (parseNumAckBlocks_pos hnum n hn).1
  refine Quiet.fails (Quiet.bind (quiet_readUintN _ _) fun largest _ bs₂ hlargest => ?_) bs₁
  have hl := blockLength_lt ha hlargest
  exact ((quiet_parseRanges _ hb _ hl hpos).andThen fun _ => quiet_pure _).fails bs₂

theorem quiet_parseAckFrame (version : Int) : Quiet (parseAckFrame version) := by
  refine quiet_readByte.andThen fun typeByte => ?_
  obtain ⟨ha, hb⟩ := lengthField_le typeByte
  -- what follows the path ID
  have hrest (pathID : Nat) : Quiet (do
      let largestAcked ← readUintN (getByteOrder version)
        (lengthField ((typeByte &&& 0x0C) >>> 2))
      let delay ← readUfloat16 (getByteOrder version)
      let numAckBlocks ← parseNumAckBlocks (typeByte &&& 0x20 = 0x20)
      let frame ← parseRanges (getByteOrder version) (lengthField (typeByte &&& 0x03)) pathID
        largestAcked numAckBlocks
      skipTimestamps (getByteOrder version)
      return { frame with packetReceivedTime := 0, delayTime := delay * 1000 : AckFrame }) := by
    refine (quiet_readUintN _ _).bind fun largest _ bs₁ hlargest => ?_
    have hl := blockLength_lt ha hlargest
    refine ((quiet_readUfloat16 _).andThen fun delay => ?_).fails bs₁
    refine (quiet_parseNumAckBlocks _).bind fun num _ bs₂ hnum => ?_
    have hpos := fun n hn => (parseNumAckBlocks_pos hnum n hn).1
    refine ((quiet_parseRanges _ hb pathID hl hpos).andThen fun frame => ?_).fails bs₂
    exact (quiet_skipTimestamps _).andThen fun _ => quiet_pure _
  split
  · exact (quiet_readByte.andThen fun b => quiet_pure b.toNat).andThen hrest
  · exact (quiet_pure 0).andThen hrest

/-! ## Total and strict -/

/-- The result of a parser, against that of its decoding on unbounded integers: an error that is
not a panic, or a strict frame and the same bytes left. -/
def TotalAndStrict {α : Type} (acked : α → AckedPackets)
    (parsed : Except Err (α × List Byte)) (decoded : Except Err (List (Int × Int) × List Byte)) :
    Prop :=
  match parsed with
  | .error e => e.isPanic = false
  | .ok (f, rest) => ∃ zs, decoded = .ok (zs, rest) ∧ Strict (acked f) zs

/-- For every byte string, both parsers return without a panic, and what they accept is strict and
agrees with the decoding on unbounded integers. -/
theorem ack_parsing_total_and_strict (version : Int) (bs : List Byte) :
    TotalAndStrict AckFrame.toAckedPackets (parseAckFrame version bs) (decodeAckFrame version bs) ∧
      TotalAndStrict ClosePathFrame.toAckedPackets (parseClosePathFrame version bs)
        (decodeClosePathFrame version bs) := by
  constructor
  · cases h : parseAckFrame version bs with
    | error e => exact ((quiet_parseAckFrame version).fails bs).error e h
    | ok r => exact (parseAckFrame_strict h).2
  · cases h : parseClosePathFrame version bs with
    | error e => exact ((quiet_parseClosePathFrame version).fails bs).error e h
    | ok r => exact (parseClosePathFrame_strict h).2

/-- An ACK of the packets 9 to 10, 5 and, over a gap of more than 255, none below. -/
example : (parseAckFrame 0x51303339 [0x60, 10, 0, 0, 2, 2, 3, 1, 255, 0, 0]).toOption.map
    (fun r => (r.1.acked.map bounds, r.2)) = some ([(9, 10), (5, 5)], []) := by decide +kernel

end Parser
end MpQuic
