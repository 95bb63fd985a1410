import Mathlib.Data.List.Chain
import MpQuic.FrameLengths
import MpQuic.ParsedAcks

/-!
# ACK blocks

How the ranges of acknowledged packets are put on the wire.  A range behind a gap of
more than 255 packets is written as several blocks, all but the last one empty, and at
most 255 blocks are written in all.

`blockBytes` are the bytes of one range; the writer produces them (`writeBlock_eq`)
and the parser reads them back (`parseBlocks_blockBytes`).  `topRanges` are the
ranges that fit, and both loops are followed along them.
-/
namespace MpQuic
open Systems List

/-! ## Blocks -/

namespace AckedPackets

/-- The blocks of a range behind a gap: `blocksForGap - 1` empty ones and the range. -/
def blockBytes (o : ByteOrder) (len : Nat) (last r : AckRange) : List Byte :=
  (replicate (blocksForGap (gap last r) - 1) ((0xFF : Byte) :: o.writeUintN len 0)).flatten ++
    UInt8.ofNat (1 + (gap last r - 1) % 255) :: o.writeUintN len (rangeLength r)

/-- A range that follows another one with a gap between them, both below `2 ^ 48`. -/
structure Follows (last r : AckRange) : Prop where
  nonempty : r.first ≤ r.last
  separated : r.last + 1 < last.first
  bounded : last.first < 2 ^ 48

namespace Follows
variable {last r : AckRange}

section
variable (h : Follows last r)
include h

theorem gap_eq : gap last r = last.first - r.last - 1 := by
  have := h.separated
  unfold gap
  rw [sub64_of_le (show r.last ≤ last.first by omega), sub64_of_le (by omega)]

theorem gap_pos : 1 ≤ gap last r := by
  have := h.separated
  rw [h.gap_eq]
  omega

theorem rangeLength_eq : rangeLength r = r.last - r.first + 1 := by
  have := h.separated
  have := h.bounded
  unfold rangeLength
  rw [sub64_of_le h.nonempty, add64_of_lt (by omega)]

theorem rangeLength_pos : 1 ≤ rangeLength r := by
  rw [h.rangeLength_eq]
  omega

end

end Follows

variable {g len v : Nat}

/-- A gap is made of 255 packets for every empty block and the rest. -/
theorem gap_eq_blocks (h : 1 ≤ g) :
    g = 255 * (blocksForGap g - 1) + (1 + (g - 1) % 255) ∧ 1 ≤ blocksForGap g := by
  unfold blocksForGap
  split <;> omega

theorem blocksForGap_le : blocksForGap g ≤ 254 ↔ g ≤ 254 * 255 := by
  unfold blocksForGap
  split <;> omega

theorem writeNumber_of_lt (o : ByteOrder) (cut : Bool) (h : v < 2 ^ 48) :
    writeNumber o cut len v = .ok (o.writeUintN len v) := by
  unfold writeNumber
  rw [if_neg (by omega)]

theorem writeNumber_ok {o : ByteOrder} {cut : Bool} {bytes : List Byte}
    (h : writeNumber o cut len v = .ok bytes) : bytes = o.writeUintN len v := by
  unfold writeNumber at h
  split at h
  · cases h
  · exact (Except.ok.inj h).symm

theorem writeBlock_eq (o : ByteOrder) (cut : Bool) (len : Nat) {last r : AckRange}
    (h : Follows last r) : writeBlock o cut len last r = .ok (blockBytes o len last r) := by
  have hlen : rangeLength r < 2 ^ 48 := by
    have := h.separated
    have := h.bounded
    rw [h.rangeLength_eq]
    omega
  obtain ⟨hgap, hpos⟩ := gap_eq_blocks h.gap_pos
  unfold writeBlock blockBytes
  dsimp only
  rw [writeNumber_of_lt o cut hlen]
  split
  · next hnum =>
    -- one block, whose gap is written as it is
    rw [hnum] at hgap ⊢
    have hbyte : gap last r = 1 + (gap last r - 1) % 255 := by omega
    rw [← hbyte]
    rfl
  split
  · omega
  · rfl

end AckedPackets

namespace Parser
open AckedPackets

/-! ## Reading blocks -/

/-- The ranges after a block with a gap and a length. -/
def readBlock (inLongBlock : Bool) (gap length : Nat) (r : AckRange) (rs : List AckRange) :
    List AckRange :=
  if inLongBlock then { first := sub64 r.first (gap + length), last := sub64 r.last gap } :: rs
  else
    { first := add64 (sub64 (sub64 (sub64 r.first gap) 1) length) 1,
      last := sub64 (sub64 r.first gap) 1 } :: r :: rs

variable {len v : Nat}

/-- One round of the loop. -/
theorem parseBlocks_cons (o : ByteOrder) (hv : v < 256 ^ len) (n : Nat) (b : Byte) (r : AckRange)
    (rs : List AckRange) (inLongBlock complete : Bool) (rest : List Byte) :
    parseBlocks o len (n + 1) (r :: rs) inLongBlock complete (b :: (o.writeUintN len v ++ rest)) =
      parseBlocks o len n (readBlock inLongBlock b.toNat v r rs) (v = 0)
        ((inLongBlock && complete) || 0 < v) rest := by
  rw [parseBlocks, bind_of_ok (readByte_cons b _), bind_of_ok (readUintN_append o hv rest)]
  cases inLongBlock <;> simp [readBlock]

/-- The blocks of a long gap behind its first one, by induction on the empty ones. -/
theorem parseBlocks_long (o : ByteOrder) (hv : v < 256 ^ len) (hpos : 0 < v) (n k : Nat)
    (g : Byte) (r : AckRange) (rs : List AckRange) (complete : Bool) (rest : List Byte)
    (hlast : 255 * k + g.toNat ≤ r.last) (hfirst : 255 * k + g.toNat + v ≤ r.first) :
    parseBlocks o len (k + 1 + n) (r :: rs) true complete
        ((replicate k ((0xFF : Byte) :: o.writeUintN len 0)).flatten ++
          g :: (o.writeUintN len v ++ rest)) =
      parseBlocks o len n
        ({ first := r.first - (255 * k + g.toNat + v), last := r.last - (255 * k + g.toNat) } :: rs)
        false true rest := by
  induction k generalizing r complete with
  | zero =>
    have hshape : 0 + 1 + n = n + 1 := by omega
    rw [hshape, replicate_zero, flatten_nil, nil_append,
      parseBlocks_cons o hv]
    have h1 : sub64 r.first (g.toNat + v) = r.first - (255 * 0 + g.toNat + v) := by
      rw [sub64_of_le (by omega)]
      omega
    have h2 : sub64 r.last g.toNat = r.last - (255 * 0 + g.toNat) := by
      rw [sub64_of_le (by omega)]
      omega
    have hne : v ≠ 0 := by omega
    simp [readBlock, h1, h2, hne, hpos]
  | succ k ih =>
    have hshape : k + 1 + 1 + n = (k + 1 + n) + 1 := by omega
    have hzero : 0 < 256 ^ len := Nat.pow_pos (by decide)
    rw [hshape, replicate_succ, flatten_cons, cons_append, cons_append,
      append_assoc, parseBlocks_cons o hzero]
    have hstep := ih { first := r.first - 255, last := r.last - 255 } complete
      (by dsimp only; omega) (by dsimp only; omega)
    have h3 : r.first - 255 - (255 * k + g.toNat + v) =
        r.first - (255 * (k + 1) + g.toNat + v) := by omega
    have h4 : r.last - 255 - (255 * k + g.toNat) = r.last - (255 * (k + 1) + g.toNat) := by
      rw [Nat.sub_sub]
      congr 1
      omega
    have h1 : sub64 r.first ((0xFF : Byte).toNat + 0) = r.first - 255 :=
      sub64_of_le (show 255 ≤ r.first by omega)
    have h2 : sub64 r.last (0xFF : Byte).toNat = r.last - 255 :=
      sub64_of_le (show 255 ≤ r.last by omega)
    simp only [readBlock, if_true, h1, h2, Bool.true_and, decide_true, lt_self_iff_false,
      decide_false, Bool.or_false]
    rw [hstep, h3, h4]

/-- The blocks of a range are read back. -/
theorem parseBlocks_blockBytes (o : ByteOrder) {last r : AckRange} (h : Follows last r)
    (hlen : rangeLength r < 256 ^ len) (n : Nat) (rs : List AckRange) (complete : Bool)
    (rest : List Byte) :
    parseBlocks o len (blocksForGap (gap last r) + n) (last :: rs) false complete
        (blockBytes o len last r ++ rest) =
      parseBlocks o len n (r :: last :: rs) false true rest := by
  obtain ⟨hgap, hpos⟩ := gap_eq_blocks h.gap_pos
  have hgap' := h.gap_eq
  have hlength := h.rangeLength_eq
  have hlpos := h.rangeLength_pos
  have hlne : rangeLength r ≠ 0 := by omega
  have hnonempty := h.nonempty
  have hbounded := h.bounded
  obtain ⟨k, hk⟩ : ∃ k, blocksForGap (gap last r) = k + 1 := ⟨_, (Nat.sub_add_cancel hpos).symm⟩
  rw [hk, Nat.add_sub_cancel, hgap'] at hgap
  unfold blockBytes
  rw [hk, Nat.add_sub_cancel]
  have hbyte : (UInt8.ofNat (1 + (gap last r - 1) % 255)).toNat = 1 + (gap last r - 1) % 255 := by
    rw [UInt8.toNat_ofNat']
    omega
  rw [hgap'] at hbyte ⊢
  generalize UInt8.ofNat (1 + (last.first - r.last - 1 - 1) % 255) = g at hbyte ⊢
  rw [← hbyte] at hgap
  generalize rangeLength r = v at *
  cases k with
  | zero =>
    have hshape : 0 + 1 + n = n + 1 := by omega
    rw [hshape, replicate_zero, flatten_nil, nil_append, cons_append,
      parseBlocks_cons o hlen]
    have hlast : sub64 (sub64 last.first g.toNat) 1 = r.last := by
      rw [sub64_of_le (show g.toNat ≤ last.first by omega), sub64_of_le (by omega)]
      omega
    have hfirst : add64 (sub64 r.last v) 1 = r.first := by
      rw [add64_sub64_one (by omega) (by omega)]
      omega
    have hlt : 0 < v := hlpos
    simp [readBlock, hlast, hfirst, hlne, hlt]
  | succ k =>
    -- an empty block starts the range, and the other blocks move it down
    have hshape : k + 1 + 1 + n = (k + 1 + n) + 1 := by omega
    have hzero : 0 < 256 ^ len := Nat.pow_pos (by decide)
    have hlong := parseBlocks_long o hlen hlpos n k g
      { first := last.first - 255, last := last.first - 256 } (last :: rs) false rest
      (by dsimp only; omega) (by dsimp only; omega)
    have h1 : last.first - 255 - (255 * k + g.toNat + v) = r.first := by omega
    have h2 : last.first - 256 - (255 * k + g.toNat) = r.last := by
      rw [Nat.sub_sub]
      omega
    have h3 : sub64 (sub64 last.first (0xFF : Byte).toNat) 1 = last.first - 256 := by
      rw [show (0xFF : Byte).toNat = 255 from rfl, sub64_of_le (show 255 ≤ last.first by omega),
        sub64_of_le (by omega), Nat.sub_sub]
    have h4 : add64 (sub64 (last.first - 256) 0) 1 = last.first - 255 := by
      rw [add64_sub64_one (by omega) (by omega)]
      omega
    rw [hshape, replicate_succ, flatten_cons, cons_append, cons_append,
      cons_append, append_assoc, append_assoc, cons_append,
      parseBlocks_cons o hzero]
    simp only [readBlock, h3, h4, Bool.false_eq_true, if_false, decide_true, lt_self_iff_false,
      decide_false, Bool.false_and, Bool.or_false]
    dsimp only at hlong
    rw [h1, h2] at hlong
    exact hlong

end Parser

/-! ## The ranges that fit -/

namespace AckedPackets

/-- The blocks behind the first one that a list of ranges needs. -/
def numBlocks : List AckRange → Nat
  | last :: r :: rest => blocksForGap (gap last r) + numBlocks (r :: rest)
  | _ => 0

/-- As many ranges from the top as fit into a number of blocks behind the first one. -/
def topRanges (budget : Nat) : List AckRange → List AckRange
  | last :: r :: rest =>
    if blocksForGap (gap last r) ≤ budget then
      last :: topRanges (budget - blocksForGap (gap last r)) (r :: rest)
    else [last]
  | ranges => ranges

theorem topRanges_isPrefix (budget : Nat) (ranges : List AckRange) :
    topRanges budget ranges <+: ranges := by
  fun_induction topRanges budget ranges with
  | case1 budget last r rest _ ih => exact prefix_cons_inj last |>.mpr ih
  | case2 => exact ⟨_, rfl⟩
  | case3 => exact prefix_rfl

@[simp] theorem topRanges_singleton (budget : Nat) (r : AckRange) :
    topRanges budget [r] = [r] := rfl

theorem topRanges_cons (budget : Nat) (r : AckRange) (rest : List AckRange) :
    ∃ top, topRanges budget (r :: rest) = r :: top := by
  cases rest with
  | nil => exact ⟨[], rfl⟩
  | cons r' rest =>
    unfold topRanges
    split
    · exact ⟨_, rfl⟩
    · exact ⟨[], rfl⟩

/-- All ranges are kept if their blocks fit. -/
theorem topRanges_eq_self {budget : Nat} {ranges : List AckRange} (h : numBlocks ranges ≤ budget) :
    topRanges budget ranges = ranges := by
  fun_induction topRanges budget ranges with
  | case1 budget last r rest hfits ih =>
    rw [numBlocks] at h
    rw [ih (by omega)]
  | case2 budget last r rest hfits =>
    rw [numBlocks] at h
    omega
  | case3 => rfl

theorem numBlocks_topRanges (budget : Nat) (ranges : List AckRange) :
    numBlocks (topRanges budget ranges) ≤ budget := by
  fun_induction topRanges budget ranges with
  | case1 budget last r rest hfits ih =>
    obtain ⟨top, htop⟩ := topRanges_cons (budget - blocksForGap (gap last r)) r rest
    rw [htop] at ih ⊢
    rw [numBlocks]
    omega
  | case2 => exact Nat.zero_le _
  | case3 budget ranges hshape =>
    unfold numBlocks
    split
    · next last r rest => exact absurd rfl (hshape last r rest)
    · exact Nat.zero_le _

/-- The loop of `numWritableNackRanges` counts the blocks of the ranges that fit. -/
theorem countNackRanges_eq {n : Nat} (hn : n ≤ 254) (ranges : List AckRange) :
    countNackRanges n ranges = n + numBlocks (topRanges (254 - n) ranges) := by
  induction ranges generalizing n with
  | nil => rfl
  | cons last ranges ih =>
    cases ranges with
    | nil => rfl
    | cons r rest =>
      unfold countNackRanges topRanges
      by_cases hfits : n + blocksForGap (gap last r) < 0xFF
      · have hbudget : 254 - n - blocksForGap (gap last r) =
            254 - (n + blocksForGap (gap last r)) := Nat.sub_sub ..
        obtain ⟨top, htop⟩ := topRanges_cons (254 - (n + blocksForGap (gap last r))) r rest
        rw [if_pos hfits, if_pos (by omega), ih (by omega), hbudget, htop, numBlocks]
        omega
      · rw [if_neg hfits, if_neg (by omega)]
        rfl

/-- The blocks of a list of ranges. -/
def blocksBytes (o : ByteOrder) (len : Nat) : List AckRange → List Byte
  | last :: r :: rest => blockBytes o len last r ++ blocksBytes o len (r :: rest)
  | _ => []

variable {last r : AckRange}

theorem numBlocks_pos (h : Follows last r) (rest : List AckRange) :
    0 < numBlocks (last :: r :: rest) := by
  have := (gap_eq_blocks h.gap_pos).2
  rw [numBlocks]
  omega

/-- One round of the writing loop. -/
theorem writeBlocks_cons (o : ByteOrder) (cut : Bool) (len numRanges written : Nat)
    (h : Follows last r) (rest : List AckRange) :
    writeBlocks o cut len numRanges written (last :: r :: rest) =
      if numRanges ≤ written + blocksForGap (gap last r) then
        .ok (blockBytes o len last r, written + blocksForGap (gap last r))
      else do
        let (blocks, written) ← writeBlocks o cut len numRanges
          (written + blocksForGap (gap last r)) (r :: rest)
        return (blockBytes o len last r ++ blocks, written) := by
  rw [writeBlocks, writeBlock_eq o cut len h]
  rfl

/-- The writing loop writes the ranges that fit and stops there, by induction on the ranges: the
number of blocks is reached exactly with the last range that fits. -/
theorem writeBlocks_top (o : ByteOrder) (cut : Bool) (len budget written : Nat) (last r : AckRange)
    (rest : List AckRange) (hfits : blocksForGap (gap last r) ≤ budget)
    (hchain : (topRanges budget (last :: r :: rest)).IsChain Follows) :
    writeBlocks o cut len (written + numBlocks (topRanges budget (last :: r :: rest))) written
        (last :: r :: rest) =
      .ok (blocksBytes o len (topRanges budget (last :: r :: rest)),
        written + numBlocks (topRanges budget (last :: r :: rest))) := by
  induction rest generalizing budget written last r with
  | nil =>
    rw [topRanges, if_pos hfits, topRanges_singleton] at hchain ⊢
    have hfollows := (isChain_cons_cons.mp hchain).1
    rw [writeBlocks_cons o cut len _ _ hfollows, if_pos (by simp [numBlocks])]
    simp [numBlocks, blocksBytes]
  | cons r' rest ih =>
    rw [topRanges, if_pos hfits] at hchain ⊢
    obtain ⟨top, htop⟩ := topRanges_cons (budget - blocksForGap (gap last r)) r (r' :: rest)
    have hfollows : Follows last r := by
      rw [htop] at hchain
      exact (isChain_cons_cons.mp hchain).1
    have hrest : (topRanges (budget - blocksForGap (gap last r)) (r :: r' :: rest)).IsChain
        Follows := by
      rw [htop] at hchain ⊢
      exact (isChain_cons_cons.mp hchain).2
    rw [writeBlocks_cons o cut len _ _ hfollows]
    by_cases hnext : blocksForGap (gap r r') ≤ budget - blocksForGap (gap last r)
    · -- the next range fits, too
      have hmore := ih _ (written + blocksForGap (gap last r)) r r' hnext hrest
      have hshape : topRanges (budget - blocksForGap (gap last r)) (r :: r' :: rest) =
          r :: topRanges (budget - blocksForGap (gap last r) - blocksForGap (gap r r'))
            (r' :: rest) := by
        rw [topRanges, if_pos hnext]
      obtain ⟨top', htop'⟩ := topRanges_cons
        (budget - blocksForGap (gap last r) - blocksForGap (gap r r')) r' rest
      rw [hshape, htop'] at hmore hrest ⊢
      have hpos := numBlocks_pos (isChain_cons_cons.mp hrest).1 top'
      have hsum : written + numBlocks (last :: r :: r' :: top') =
          written + blocksForGap (gap last r) + numBlocks (r :: r' :: top') :=
        (Nat.add_assoc ..).symm
      rw [hsum, if_neg (by omega), hmore]
      rfl
    · have hshape : topRanges (budget - blocksForGap (gap last r)) (r :: r' :: rest) = [r] := by
        rw [topRanges, if_neg hnext]
      rw [hshape, if_pos (by simp [numBlocks])]
      simp [numBlocks, blocksBytes]

end AckedPackets

namespace Parser
open AckedPackets

/-- The blocks of a list of ranges are read back, by induction on the ranges.  The parser keeps
the range it read last in front. -/
theorem parseBlocks_blocksBytes (o : ByteOrder) {len : Nat} (r : AckRange) (rs acc : List AckRange)
    (complete : Bool) (rest : List Byte) (hchain : (r :: rs).IsChain Follows)
    (hlen : ∀ r' ∈ rs, rangeLength r' < 256 ^ len) :
    parseBlocks o len (numBlocks (r :: rs)) (r :: acc) false complete
        (blocksBytes o len (r :: rs) ++ rest) =
      .ok ((rs.reverse ++ r :: acc, complete || !rs.isEmpty), rest) := by
  induction rs generalizing r acc complete with
  | nil => cases complete <;> rfl
  | cons r' rs ih =>
    obtain ⟨hfollows, hrest⟩ := isChain_cons_cons.mp hchain
    rw [numBlocks, blocksBytes, append_assoc,
      parseBlocks_blockBytes o hfollows (hlen r' mem_cons_self),
      ih r' (r :: acc) true hrest (fun x hx => hlen x (mem_cons_of_mem _ hx))]
    simp

end Parser
end MpQuic
