import MpQuic.AckBlocks

/-!
# ACK and CLOSE_PATH frames on the wire

The part of a frame that fits into 255 blocks (`AckedPackets.top`) is what a reader
gets from the bytes of the frame, if there is a reader for it at all: `Readable`
frames are those the parsers can return.

The round trip fails for frames whose second range already needs more blocks than
fit: the counting loop then says that no block follows, and the writing loop writes
them all the same and reports an inconsistency.
-/
namespace MpQuic
open Systems List

namespace AckedPackets

/-! ## What is kept -/

/-- The part of a frame that fits into 255 blocks. -/
def top (f : AckedPackets) : AckedPackets :=
  { f with
    lowestAcked := match (topRanges 254 f.ackRanges).getLast? with
      | some r => r.first
      | none => f.lowestAcked
    ackRanges := topRanges 254 f.ackRanges }

variable {f : AckedPackets} {r : AckRange} {rs : List AckRange}

theorem top_of_noRanges (h : f.ackRanges = []) : f.top = f := by
  cases f
  subst h
  rfl

theorem top_cons (hr : f.ackRanges = r :: rs) : ∃ rest, f.top.ackRanges = r :: rest := by
  obtain ⟨rest, hrest⟩ := topRanges_cons 254 r rs
  exact ⟨rest, by rw [top, hr, hrest]⟩

theorem mem_of_mem_top (h : r ∈ f.top.ackRanges) : r ∈ f.ackRanges :=
  (topRanges_isPrefix 254 f.ackRanges).subset h

theorem head?_of_top (h : f.top.ackRanges = r :: rs) : f.ackRanges.head? = some r := by
  obtain ⟨below, hbelow⟩ := topRanges_isPrefix 254 f.ackRanges
  rw [← hbelow]
  exact congrArg (fun l => (l ++ below).head?) h

/-- If another range is kept behind the first one, its blocks fit. -/
theorem top_fits {rs rest : List AckRange} (hr : f.ackRanges = r :: rs)
    (htop : f.top.ackRanges = r :: rest) (hrest : rest ≠ []) :
    ∃ r' rs', rs = r' :: rs' ∧ blocksForGap (gap r r') ≤ 254 := by
  have htop : topRanges 254 (r :: rs) = r :: rest := by rw [← htop, top, hr]
  cases rs with
  | nil => exact absurd (cons.inj htop).2.symm hrest
  | cons r' rs' =>
    refine ⟨r', rs', rfl, ?_⟩
    by_contra hfits
    rw [topRanges, if_neg hfits] at htop
    exact hrest (cons.inj htop).2.symm

/-- What the frames that can be read back have in common. -/
structure Readable (f : AckedPackets) : Prop where
  largest : f.largestAcked < 2 ^ 48
  valid : f.validateAckRanges = true
  bounded : ∀ r ∈ f.ackRanges, r.last ≤ f.largestAcked
  lowest : f.ackRanges = [] → 1 ≤ f.lowestAcked ∧ f.lowestAcked ≤ f.largestAcked

/-- Neighbouring ranges of a valid frame follow each other. -/
theorem isChain_of_rangesDescend {ranges : List AckRange} {largest : Nat} (hl : largest < 2 ^ 48)
    (hdesc : rangesDescend ranges = true) (hne : ∀ r ∈ ranges, r.first ≤ r.last)
    (hle : ∀ r ∈ ranges, r.last ≤ largest) : ranges.IsChain Follows := by
  induction ranges with
  | nil => exact .nil
  | cons last ranges ih =>
    cases ranges with
    | nil => exact .singleton last
    | cons r rest =>
      simp only [rangesDescend, Bool.and_eq_true, Bool.not_eq_true', decide_eq_false_iff_not,
        not_le] at hdesc
      obtain ⟨⟨-, hlt⟩, hrest⟩ := hdesc
      have hr := hle r (by simp)
      have hlast := hle last (by simp)
      have hlast' := hne last (by simp)
      rw [add64_of_lt (by omega)] at hlt
      refine isChain_cons_cons.mpr ⟨⟨hne r (by simp), hlt, by omega⟩, ?_⟩
      exact ih hrest (fun x hx => hne x (mem_cons_of_mem _ hx))
        (fun x hx => hle x (mem_cons_of_mem _ hx))

/-- The ranges of a readable frame: at least two, the first one with the largest packet. -/
structure Readable.Ranges (f : AckedPackets) (r : AckRange) (rs : List AckRange) : Prop where
  some_below : rs ≠ []
  largest : r.last = f.largestAcked
  nonempty : r.first ≤ r.last
  above : 2 ≤ r.first
  chain : (r :: rs).IsChain Follows
  lengths : ∀ r' ∈ r :: rs, rangeLength r' < 2 ^ 48

theorem rangeLength_eq (hne : r.first ≤ r.last) (h : r.last < 2 ^ 48) :
    rangeLength r = r.last + 1 - r.first :=
  add64_sub64_one (by omega) (by omega)

/-- All ranges behind one end below it. -/
theorem last_lt_of_isChain (hchain : (r :: rs).IsChain Follows) {r' : AckRange} (hr' : r' ∈ rs) :
    r'.first ≤ r'.last ∧ r'.last + 1 < r.first := by
  induction rs generalizing r with
  | nil => cases hr'
  | cons next rs ih =>
    obtain ⟨hfollows, hrest⟩ := isChain_cons_cons.mp hchain
    rcases mem_cons.mp hr' with rfl | hr'
    · exact ⟨hfollows.nonempty, hfollows.separated⟩
    · obtain ⟨hne, hlt⟩ := ih hrest hr'
      have := hfollows.nonempty
      have := hfollows.separated
      exact ⟨hne, by omega⟩

theorem Readable.ranges (h : f.Readable) (hr : f.ackRanges = r :: rs) : Readable.Ranges f r rs := by
  have hvalid := h.valid
  have hbounded := h.bounded
  rw [hr] at hbounded
  unfold validateAckRanges at hvalid
  rw [hr] at hvalid
  cases rs with
  | nil => simp at hvalid
  | cons r' rest =>
    simp only [Bool.and_eq_true, beq_iff_eq, all_eq_true, decide_eq_true_eq] at hvalid
    obtain ⟨⟨hlast, hne⟩, hdesc⟩ := hvalid
    have hchain := isChain_of_rangesDescend h.largest hdesc hne hbounded
    have hfollows := (isChain_cons_cons.mp hchain).1.separated
    have hlarge := h.largest
    refine ⟨cons_ne_nil _ _, hlast, hne r (by simp), by omega, hchain, ?_⟩
    intro x hx
    have hx' := hbounded x hx
    rw [rangeLength_eq (hne x hx) (by omega)]
    rcases mem_cons.mp hx with rfl | hx
    · omega
    · have := (last_lt_of_isChain hchain hx).2
      have := hne r (by simp)
      omega

/-! ## Lengths of the numbers -/

theorem le_foldl_max {l : List Nat} {a x : Nat} (h : x ≤ a ∨ x ∈ l) : x ≤ l.foldl max a := by
  induction l generalizing a with
  | nil => simpa using h
  | cons y l ih =>
    refine ih ?_
    rcases h with h | h
    · exact .inl (h.trans (Nat.le_max_left a y))
    · rcases mem_cons.mp h with rfl | h
      · exact .inl (Nat.le_max_right a x)
      · exact .inr h

theorem deltaLen_mem (f : AckedPackets) : f.getMissingSequenceNumberDeltaLen ∈ [1, 2, 4, 6] := by
  unfold getMissingSequenceNumberDeltaLen
  dsimp only
  split_ifs <;> simp

/-- The lengths of all ranges fit into the length that is chosen. -/
theorem rangeLength_lt (f : AckedPackets) (hr : r ∈ f.ackRanges) (h : rangeLength r < 2 ^ 48) :
    rangeLength r < 256 ^ f.getMissingSequenceNumberDeltaLen := by
  have hmissing : f.hasMissingRanges = true := by
    unfold hasMissingRanges
    rcases hranges : f.ackRanges with _ | ⟨r', rs⟩
    · simp [hranges] at hr
    · rfl
  have hmax := le_foldl_max (a := 0) (.inr (mem_map_of_mem (f := rangeLength) hr))
  unfold getMissingSequenceNumberDeltaLen
  dsimp only
  rw [if_pos hmissing]
  split_ifs <;> omega

theorem deltaLen_lt (hr : f.ackRanges = []) (hle : f.lowestAcked ≤ f.largestAcked + 1)
    (h : f.largestAcked + 1 - f.lowestAcked < 2 ^ 48) (hl : f.largestAcked < 2 ^ 48) :
    f.largestAcked + 1 - f.lowestAcked < 256 ^ f.getMissingSequenceNumberDeltaLen := by
  have hmissing : f.hasMissingRanges = false := by simp [hasMissingRanges, hr]
  unfold getMissingSequenceNumberDeltaLen
  dsimp only
  rw [hmissing, if_neg Bool.false_ne_true, add64_sub64_one hle (by omega)]
  split_ifs <;> omega

/-! ## Writing -/

/-- What is written from the first block on. -/
def rangesBytes (o : ByteOrder) (len : Nat) (f : AckedPackets) : List Byte :=
  match f.ackRanges with
  | [] => o.writeUintN len (f.largestAcked + 1 - f.lowestAcked)
  | r :: rs => o.writeUintN len (rangeLength r) ++ blocksBytes o len (r :: rs)

theorem numWritableNackRanges_eq (hr : f.ackRanges ≠ []) :
    f.numWritableNackRanges = 1 + numBlocks f.top.ackRanges := by
  unfold numWritableNackRanges
  rw [if_neg (by simpa using hr), countNackRanges_eq (Nat.zero_le 254), Nat.zero_add,
    Nat.add_comm]
  rfl

/-- A frame whose largest and lowest packets are those of its ranges. -/
structure Consistent (f : AckedPackets) : Prop where
  largest : ∀ r ∈ f.ackRanges.head?, f.largestAcked = r.last
  lowest : ∀ r ∈ f.ackRanges.getLast?, f.lowestAcked = r.first

theorem writeRanges_nil (hr : f.ackRanges = []) (o : ByteOrder) (cut : Bool) :
    f.writeRanges o cut = writeNumber o cut f.getMissingSequenceNumberDeltaLen
      (add64 (sub64 f.largestAcked f.lowestAcked) 1) := by
  unfold writeRanges
  rw [hr]
  rfl

/-- What is written for a consistent frame with ranges, and the check at the end. -/
theorem writeRanges_cons (hf : f.Consistent) (hr : f.ackRanges = r :: rs) (o : ByteOrder)
    (cut : Bool) :
    f.writeRanges o cut = do
      let firstBlock ← writeNumber o cut f.getMissingSequenceNumberDeltaLen (rangeLength r)
      let (blocks, written) ← writeBlocks o cut f.getMissingSequenceNumberDeltaLen
        f.numWritableNackRanges 1 (r :: rs)
      if f.numWritableNackRanges ≠ written then throw .inconsistentAckRangesWritten
      return firstBlock ++ blocks := by
  obtain ⟨last, hlast⟩ : ∃ last, (r :: rs).getLast? = some last :=
    ⟨_, getLast?_eq_some_getLast (cons_ne_nil r rs)⟩
  have hlargest : f.largestAcked = r.last := hf.largest r (by rw [hr]; rfl)
  have hlowest : f.lowestAcked = last.first := hf.lowest last (by rw [hr]; exact hlast)
  unfold writeRanges
  rw [hr, hlast]
  dsimp only [head?_cons]
  rw [if_neg (not_not.mpr hlargest), if_neg (not_not.mpr hlowest), hlargest]
  rfl

/-- A frame that can be read back is written as the part of it that fits. -/
theorem writeRanges_top (hf : f.Consistent) (htop : f.top.Readable) (o : ByteOrder) (cut : Bool) :
    f.writeRanges o cut = .ok (rangesBytes o f.getMissingSequenceNumberDeltaLen f.top) := by
  rcases hr : f.ackRanges with _ | ⟨r, rs⟩
  · rw [top_of_noRanges hr] at htop ⊢
    obtain ⟨hone, hle⟩ := htop.lowest hr
    have hlt := htop.largest
    rw [writeRanges_nil hr, rangesBytes, hr, add64_sub64_one (by omega) (by omega)]
    exact writeNumber_of_lt o cut (by omega)
  · obtain ⟨rest, hrest⟩ := top_cons hr
    have hv := htop.ranges hrest
    have hlength := hv.lengths r mem_cons_self
    obtain ⟨r', rs', rfl, hfits⟩ := top_fits hr hrest hv.some_below
    have htopr : topRanges 254 (r :: r' :: rs') = r :: rest := by rw [← hrest, top, hr]
    have hblocks := writeBlocks_top o cut f.getMissingSequenceNumberDeltaLen 254 1 r r' rs'
      hfits (htopr ▸ hv.chain)
    rw [htopr] at hblocks
    rw [writeRanges_cons hf hr, writeNumber_of_lt o cut hlength,
      numWritableNackRanges_eq (by rw [hr]; exact cons_ne_nil _ _), hrest, rangesBytes, hrest]
    rw [hblocks]
    change (if _ ≠ _ then _ else _) = _
    rw [if_neg (not_not.mpr rfl)]
    rfl

/-- The number of blocks behind the first one, if there are missing ranges. -/
def numField (f : AckedPackets) : Option Nat :=
  if f.hasMissingRanges then some (numBlocks f.top.ackRanges) else none

/-- The byte for the number of blocks, if there is one. -/
def numBytes (f : AckedPackets) : List Byte :=
  if f.hasMissingRanges then [UInt8.ofNat (numBlocks f.top.ackRanges)] else []

theorem ne_nil_of_hasMissingRanges (h : f.hasMissingRanges = true) : f.ackRanges ≠ [] := by
  unfold hasMissingRanges at h
  simpa using h

theorem numBlocks_top_le (f : AckedPackets) : numBlocks f.top.ackRanges ≤ 254 :=
  numBlocks_topRanges 254 f.ackRanges

/-- At most 255 blocks are counted, so their number is always written. -/
theorem writeNumRanges_eq (f : AckedPackets) : f.writeNumRanges = .ok f.numBytes := by
  have hle := f.numBlocks_top_le
  unfold writeNumRanges numBytes
  split
  · next hmissing =>
    rw [numWritableNackRanges_eq (ne_nil_of_hasMissingRanges hmissing), if_neg (by omega),
      Nat.add_sub_cancel_left]
  · rfl

end AckedPackets

/-! ## Reading -/

namespace Parser
open AckedPackets
variable {f : AckedPackets}

theorem parseNumAckBlocks_top (htop : f.top.Readable) (rest : List Byte) :
    parseNumAckBlocks f.hasMissingRanges (f.numBytes ++ rest) = .ok (f.numField, rest) := by
  unfold parseNumAckBlocks numBytes numField
  split
  · next hmissing =>
    obtain ⟨r, rs, hr⟩ := exists_cons_of_ne_nil (ne_nil_of_hasMissingRanges hmissing)
    obtain ⟨below, hbelow⟩ := top_cons hr
    have hv := htop.ranges hbelow
    obtain ⟨r', below', rfl⟩ := exists_cons_of_ne_nil hv.some_below
    have hpos := numBlocks_pos (isChain_cons_cons.mp hv.chain).1 below'
    have hle := f.numBlocks_top_le
    rw [hbelow] at hle ⊢
    have hbyte : (UInt8.ofNat (numBlocks (r :: r' :: below'))).toNat =
        numBlocks (r :: r' :: below') := by
      rw [UInt8.toNat_ofNat']
      omega
    have hne : UInt8.ofNat (numBlocks (r :: r' :: below')) ≠ 0 := by
      intro hzero
      rw [hzero] at hbyte
      exact hpos.ne' hbyte.symm
    rw [singleton_append, bind_of_ok (readByte_cons ..), if_neg hne, hbyte]
    rfl
  · rfl

/-- The first block, and the ranges behind it. -/
theorem parseRanges_of_acked {o : ByteOrder} {len pathID largestAcked v : Nat} {num : Option Nat}
    {bs rest : List Byte} (hv : v < 256 ^ len) (hpos : 1 ≤ v) (hle : v ≤ largestAcked)
    (hacked : parseAcked o len pathID largestAcked v num bs = .ok (f, rest))
    (hvalid : f.validateAckRanges = true) :
    parseRanges o len pathID largestAcked num (o.writeUintN len v ++ bs) = .ok (f, rest) := by
  unfold parseRanges
  rw [bind_of_ok (readUintN_append o hv bs), if_neg (by omega), if_neg (by omega),
    bind_of_ok hacked, hvalid]
  rfl

theorem lowestAcked_top {lowest : AckRange} {higher : List AckRange}
    (h : f.top.ackRanges.reverse = lowest :: higher) : f.top.lowestAcked = lowest.first := by
  have hlast : (topRanges 254 f.ackRanges).getLast? = some lowest := by
    rw [getLast?_eq_head?_reverse]
    exact congrArg head? h
  rw [top, hlast]

/-- What was written for the ranges is read back as the part of them that fits. -/
theorem parseRanges_top (htop : f.top.Readable) (o : ByteOrder) (rest : List Byte) :
    parseRanges o f.getMissingSequenceNumberDeltaLen f.pathID f.largestAcked f.numField
        (rangesBytes o f.getMissingSequenceNumberDeltaLen f.top ++ rest) =
      .ok (f.top, rest) := by
  have hlt : f.largestAcked < 2 ^ 48 := htop.largest
  have hvalid := htop.valid
  rcases hr : f.ackRanges with _ | ⟨r, rs⟩
  · -- one block without gaps
    have hnum : f.numField = none := by simp [numField, hasMissingRanges, hr]
    rw [top_of_noRanges hr] at htop hvalid ⊢
    obtain ⟨hone, hle⟩ := htop.lowest hr
    rw [rangesBytes, hr, hnum]
    refine parseRanges_of_acked (deltaLen_lt hr (by omega) (by omega) hlt) (by omega) (by omega) ?_
      hvalid
    have hlow : f.largestAcked + 1 - (f.largestAcked + 1 - f.lowestAcked) = f.lowestAcked := by
      omega
    rw [parseAcked, if_neg (by omega), hlow]
    cases f
    subst hr
    rfl
  · obtain ⟨below, hbelow⟩ := top_cons hr
    have hv := htop.ranges hbelow
    have hlast : r.last = f.largestAcked := hv.largest
    have habove := hv.above
    have hnonempty := hv.nonempty
    have hlength : ∀ r' ∈ r :: below,
        rangeLength r' < 256 ^ f.getMissingSequenceNumberDeltaLen := by
      intro r' hr'
      exact f.rangeLength_lt (mem_of_mem_top (hbelow ▸ hr')) (hv.lengths r' hr')
    have hnum : f.numField = some (numBlocks (r :: below)) := by
      simp [numField, hasMissingRanges, hr, hbelow]
    have hfirst := rangeLength_eq hv.nonempty (by omega)
    rw [rangesBytes, hbelow, hnum, append_assoc]
    refine parseRanges_of_acked (hlength r mem_cons_self) (by omega) (by omega) ?_ hvalid
    have hrange : ({ first := f.largestAcked - rangeLength r + 1, last := f.largestAcked } :
        AckRange) = r := by
      obtain ⟨first, last⟩ := r
      dsimp only at *
      rw [hfirst, hlast, AckRange.mk.injEq]
      exact ⟨by omega, rfl⟩
    have hblocks := parseBlocks_blocksBytes o r below [] false rest hv.chain
      (fun r' hr' => hlength r' (mem_cons_of_mem _ hr'))
    rw [parseAcked, hrange, bind_of_ok hblocks]
    have hcomplete : (false || !below.isEmpty) = true := by simpa using hv.some_below
    rw [hcomplete]
    obtain ⟨lowest, higher, hreverse⟩ : ∃ lowest higher, below.reverse ++ [r] = lowest :: higher :=
      exists_cons_of_ne_nil (by simp)
    have hranges : (lowest :: higher).reverse = r :: below := by simp [← hreverse]
    have hlow : f.top.lowestAcked = lowest.first :=
      lowestAcked_top (by rw [hbelow, ← hranges, reverse_reverse])
    dsimp only
    rw [if_pos rfl, hreverse]
    change Except.ok (_, rest) = _
    rw [hranges, ← hlow, ← hbelow]
    rfl

/-! ## The flags -/

/-- The bits for the lengths `a` and `b` of the numbers. -/
def lengthFlags (a b : Nat) : Byte :=
  (if a ≠ 1 then UInt8.ofNat (a / 2) <<< 2 else 0) ^^^ (if b ≠ 1 then UInt8.ofNat (b / 2) else 0)

/-- The type byte of an ACK frame. -/
def ackTypeByte (a b : Nat) (missing pathID : Bool) : Byte :=
  (0x40 ^^^ lengthFlags a b) ||| (if missing then 0x20 else 0) ||| (if pathID then 0x10 else 0)

/-- The flags of a CLOSE_PATH frame. -/
def closePathFlags (a b : Nat) (missing : Bool) : Byte :=
  (if missing then 0x10 else 0) ^^^ lengthFlags a b

/-- The fields of the type byte of an ACK frame are read back. -/
theorem ackTypeByte_fields : ∀ a ∈ [1, 2, 4, 6], ∀ b ∈ [1, 2, 4, 6], ∀ missing pathID : Bool,
    ackTypeByte a b missing pathID &&& 0xc0 = 0x40 ∧
      decide (ackTypeByte a b missing pathID &&& 0x20 = 0x20) = missing ∧
      decide (ackTypeByte a b missing pathID &&& 0x10 = 0x10) = pathID ∧
      lengthField ((ackTypeByte a b missing pathID &&& 0x0C) >>> 2) = a ∧
      lengthField (ackTypeByte a b missing pathID &&& 0x03) = b := by
  decide

theorem closePathFlags_fields : ∀ a ∈ [1, 2, 4, 6], ∀ b ∈ [1, 2, 4, 6], ∀ missing : Bool,
    decide (closePathFlags a b missing &&& 0x10 = 0x10) = missing ∧
      lengthField ((closePathFlags a b missing &&& 0x0C) >>> 2) = a ∧
      lengthField (closePathFlags a b missing &&& 0x03) = b := by
  decide

end Parser

/-! ## Whole frames -/

/-- The delay an ACK frame is written with, in microseconds. -/
def AckFrame.delayAt (f : AckFrame) (now : Int) : Nat :=
  ((now - f.packetReceivedTime).tdiv 1000 % 2 ^ 64).toNat

/-- What comes out of the bytes of an ACK frame: the ranges that fit, and the delay as far as
its 16 bits can tell. -/
def AckFrame.received (f : AckFrame) (now : Int) : AckFrame :=
  { f.top with
    packetReceivedTime := 0
    delayTime := ByteOrder.ofUfloat16 (ByteOrder.ufloat16 (f.delayAt now)) * 1000 }

namespace Parser
open AckedPackets

/-- The bytes of an ACK frame before the number of blocks. -/
def ackHeader (o : ByteOrder) (f : AckFrame) (now : Int) : List Byte :=
  ackTypeByte (getPacketNumberLength f.largestAcked) f.getMissingSequenceNumberDeltaLen
      f.hasMissingRanges (f.pathID ≠ initialPathID) ::
    (if f.pathID ≠ initialPathID then [UInt8.ofNat f.pathID] else []) ++
    o.writeUintN (getPacketNumberLength f.largestAcked) f.largestAcked ++
    o.writeUfloat16 (f.delayAt now)

theorem ack_write_eq (f : AckFrame) (version now : Int) :
    f.write version now = do
      let ranges ← f.writeRanges (getByteOrder version) true
      return ackHeader (getByteOrder version) f now ++ f.numBytes ++ ranges ++ [0] := by
  have htype : ackTypeByte (getPacketNumberLength f.largestAcked)
      f.getMissingSequenceNumberDeltaLen f.hasMissingRanges (f.pathID ≠ initialPathID) =
      (0x40 ^^^ f.lengthBits) ||| (if f.hasMissingRanges then 0x20 else 0) |||
        (if f.pathID ≠ initialPathID then 0x10 else 0) := by
    simp only [ackTypeByte, decide_eq_true_eq]
    rfl
  unfold AckFrame.write ackHeader
  rw [writeNumRanges_eq, htype]
  rfl

/-- The header of an ACK frame is read back. -/
theorem parseAckFrame_header (f : AckFrame) (hp : f.pathID < 2 ^ 8) (hl : f.largestAcked < 2 ^ 48)
    (version now : Int) (tail : List Byte) :
    parseAckFrame version (ackHeader (getByteOrder version) f now ++ tail) = (do
      let numAckBlocks ← parseNumAckBlocks f.hasMissingRanges
      let frame ← parseRanges (getByteOrder version) f.getMissingSequenceNumberDeltaLen f.pathID
        f.largestAcked numAckBlocks
      skipTimestamps (getByteOrder version)
      return { frame with
        packetReceivedTime := 0
        delayTime := ByteOrder.ofUfloat16 (ByteOrder.ufloat16 (f.delayAt now)) * 1000 }
      : Parser AckFrame) tail := by
  obtain ⟨-, hmissing, hpath, ha, hb⟩ := ackTypeByte_fields _
    (getPacketNumberLength_mem f.largestAcked) _ (deltaLen_mem f.toAckedPackets)
    f.hasMissingRanges (f.pathID ≠ initialPathID)
  have hlargest := lt_pow_getPacketNumberLength hl
  unfold parseAckFrame ackHeader
  generalize ackTypeByte _ _ _ _ = typeByte at *
  rw [cons_append, cons_append, cons_append, bind_of_ok (readByte_cons ..)]
  dsimp only
  rw [hmissing, ha, hb]
  by_cases hinit : f.pathID = initialPathID
  · have hflag : ¬(typeByte &&& 0x10 = 0x10) := by simpa [hinit] using hpath
    rw [if_neg hflag, if_neg (not_not.mpr hinit), nil_append, append_assoc,
      bind_of_ok (pure_apply ..), bind_of_ok (readUintN_append _ hlargest _),
      bind_of_ok (readUfloat16_append ..), hinit]
    rfl
  · have hflag : typeByte &&& 0x10 = 0x10 := by simpa [hinit] using hpath
    have hbyte : (UInt8.ofNat f.pathID).toNat = f.pathID := by
      rw [UInt8.toNat_ofNat']
      omega
    have hid (rest : List Byte) : (do return (← readByte).toNat : Parser Nat)
        (UInt8.ofNat f.pathID :: rest) = .ok (f.pathID, rest) := by
      rw [bind_of_ok (readByte_cons ..), hbyte]
      rfl
    rw [if_pos hflag, if_pos hinit, singleton_append, cons_append, cons_append,
      append_assoc, bind_of_ok (hid _), bind_of_ok (readUintN_append _ hlargest _),
      bind_of_ok (readUfloat16_append ..)]

/-- An ACK frame that can be read back is written, and read as the part of it that fits. -/
theorem ack_round_trip {f : AckFrame} (hf : f.Consistent) (htop : f.top.Readable)
    (hp : f.pathID < 2 ^ 8) (version now : Int) :
    ∃ bytes, f.write version now = .ok bytes ∧
      ∀ rest, parseAckFrame version (bytes ++ rest) = .ok (f.received now, rest) := by
  refine ⟨_, by rw [ack_write_eq, writeRanges_top hf htop]; rfl, ?_⟩
  intro rest
  rw [append_assoc, append_assoc, append_assoc, parseAckFrame_header f hp htop.largest,
    bind_of_ok (parseNumAckBlocks_top htop _), bind_of_ok (parseRanges_top htop _ _)]
  rfl

/-! ## CLOSE_PATH -/

/-- The bytes of a CLOSE_PATH frame before the number of blocks. -/
def closePathHeader (f : ClosePathFrame) : List Byte :=
  [0x11, UInt8.ofNat f.pathID, closePathFlags (getPacketNumberLength f.largestAcked)
    f.getMissingSequenceNumberDeltaLen f.hasMissingRanges]

theorem closePath_write_eq (f : ClosePathFrame) (version : Int) :
    f.write version = do
      let largest ← writeNumber (getByteOrder version) false (getPacketNumberLength f.largestAcked)
        f.largestAcked
      let ranges ← f.writeRanges (getByteOrder version) false
      return closePathHeader f ++ f.numBytes ++ largest ++ ranges := by
  unfold ClosePathFrame.write
  rw [writeNumRanges_eq]
  rfl

/-- The header of a CLOSE_PATH frame is read back. -/
theorem parseClosePathFrame_header (f : ClosePathFrame) (hp : f.pathID < 2 ^ 8) (version : Int)
    (tail : List Byte) :
    parseClosePathFrame version (closePathHeader f ++ tail) = (do
      let numAckBlocks ← parseNumAckBlocks f.hasMissingRanges
      let largestAcked ← readUintN (getByteOrder version) (getPacketNumberLength f.largestAcked)
      let frame ← parseRanges (getByteOrder version) f.getMissingSequenceNumberDeltaLen f.pathID
        largestAcked numAckBlocks
      return { frame with } : Parser ClosePathFrame) tail := by
  obtain ⟨hmissing, ha, hb⟩ := closePathFlags_fields _
    (getPacketNumberLength_mem f.largestAcked) _ (deltaLen_mem f.toAckedPackets)
    f.hasMissingRanges
  have hbyte : (UInt8.ofNat f.pathID).toNat = f.pathID := by
    rw [UInt8.toNat_ofNat']
    omega
  unfold parseClosePathFrame closePathHeader
  rw [cons_append, cons_append, cons_append, nil_append,
    bind_of_ok (readByte_cons ..), bind_of_ok (readByte_cons ..), bind_of_ok (readByte_cons ..),
    hmissing, ha, hb, hbyte]

theorem closePath_round_trip {f : ClosePathFrame} (hf : f.Consistent) (htop : f.top.Readable)
    (hp : f.pathID < 2 ^ 8) (version : Int) :
    ∃ bytes, f.write version = .ok bytes ∧
      ∀ rest, parseClosePathFrame version (bytes ++ rest) = .ok ({ f.top with }, rest) := by
  have hl : f.largestAcked < 2 ^ 48 := htop.largest
  refine ⟨_, by rw [closePath_write_eq, writeNumber_of_lt _ _ hl, writeRanges_top hf htop]; rfl, ?_⟩
  intro rest
  rw [append_assoc, append_assoc, append_assoc, parseClosePathFrame_header f hp,
    bind_of_ok (parseNumAckBlocks_top htop _),
    bind_of_ok (readUintN_append _ (lt_pow_getPacketNumberLength hl) _),
    bind_of_ok (parseRanges_top htop _ _)]
  rfl

/-! ## What is read -/

/-- A frame without ranges that is read back as it was starts at packet 1 or later. -/
theorem lowest_of_parseRanges {f : AckedPackets} (hl : f.largestAcked < 2 ^ 48) {o : ByteOrder}
    {bs rest : List Byte}
    (h : parseRanges o f.getMissingSequenceNumberDeltaLen f.pathID f.largestAcked none
      (o.writeUintN f.getMissingSequenceNumberDeltaLen
        (add64 (sub64 f.largestAcked f.lowestAcked) 1) ++ bs) = .ok (f, rest)) :
    1 ≤ f.lowestAcked ∧ f.lowestAcked ≤ f.largestAcked := by
  rw [parseRanges, bind_of_ok (readUintN_append_mod ..)] at h
  split at h
  · simp at h
  next hfirst =>
  split at h
  · simp at h
  next hle =>
  obtain ⟨f', bs', hf', h⟩ := bind_ok h
  split at h
  · simp at h
  obtain ⟨rfl, -⟩ := Prod.mk.inj (Except.ok.inj h)
  have hlow := (congrArg AckedPackets.lowestAcked (Prod.mk.inj (Except.ok.inj hf')).1).symm
  dsimp only at hlow
  by_cases hzero : f'.largestAcked = 0
  · -- packet 0 alone: the block has length 1, which is more than the largest packet
    rw [if_pos hzero] at hlow
    have hone : add64 (sub64 f'.largestAcked f'.lowestAcked) 1 = 1 := by rw [hzero, hlow]; rfl
    have hlen : 1 % 256 ^ f'.getMissingSequenceNumberDeltaLen = 1 := by
      have := deltaLen_mem f'
      simp only [mem_cons, not_mem_nil, or_false] at this
      rcases this with h | h | h | h <;> rw [h] <;> rfl
    rw [hone] at hle
    omega
  · rw [if_neg hzero] at hlow
    omega

theorem parseNumAckBlocks_of_noRanges {f : AckedPackets} (hr : f.ackRanges = [])
    (bs : List Byte) :
    parseNumAckBlocks f.hasMissingRanges (f.numBytes ++ bs) = .ok (none, bs) := by
  have hmissing : f.hasMissingRanges = false := by simp [hasMissingRanges, hr]
  rw [numBytes, hmissing]
  rfl

/-- An ACK frame without ranges that is read back as it was starts at packet 1 or later. -/
theorem ack_lowest_of_read {f f' : AckFrame} (hp : f.pathID < 2 ^ 8) (hl : f.largestAcked < 2 ^ 48)
    (hr : f.ackRanges = []) {version now : Int} {bytes rest rest' : List Byte}
    (hwrite : f.write version now = .ok bytes)
    (hparse : parseAckFrame version (bytes ++ rest) = .ok (f', rest'))
    (heq : f'.toAckedPackets = f.toAckedPackets) :
    1 ≤ f.lowestAcked ∧ f.lowestAcked ≤ f.largestAcked := by
  rw [ack_write_eq, writeRanges_nil hr] at hwrite
  obtain ⟨ranges, hranges, hbytes⟩ := bind_eq_ok hwrite
  obtain rfl := Except.ok.inj hbytes
  obtain rfl := writeNumber_ok hranges
  rw [append_assoc, append_assoc, append_assoc, parseAckFrame_header f hp hl,
    bind_of_ok (parseNumAckBlocks_of_noRanges hr _)] at hparse
  obtain ⟨g, bs, hg, hparse⟩ := bind_ok hparse
  obtain ⟨_, _, -, hparse⟩ := bind_ok hparse
  have hgf : g = f.toAckedPackets :=
    (congrArg AckFrame.toAckedPackets (Prod.mk.inj (Except.ok.inj hparse)).1).trans heq
  rw [hgf] at hg
  exact lowest_of_parseRanges hl hg

@[inherit_doc ack_lowest_of_read]
theorem closePath_lowest_of_read {f f' : ClosePathFrame} (hp : f.pathID < 2 ^ 8)
    (hl : f.largestAcked < 2 ^ 48) (hr : f.ackRanges = []) {version : Int}
    {bytes rest rest' : List Byte} (hwrite : f.write version = .ok bytes)
    (hparse : parseClosePathFrame version (bytes ++ rest) = .ok (f', rest'))
    (heq : f'.toAckedPackets = f.toAckedPackets) :
    1 ≤ f.lowestAcked ∧ f.lowestAcked ≤ f.largestAcked := by
  rw [closePath_write_eq, writeRanges_nil hr] at hwrite
  obtain ⟨largest, hlargest, hwrite⟩ := bind_eq_ok hwrite
  obtain rfl := writeNumber_ok hlargest
  obtain ⟨ranges, hranges, hbytes⟩ := bind_eq_ok hwrite
  obtain rfl := Except.ok.inj hbytes
  obtain rfl := writeNumber_ok hranges
  rw [append_assoc, append_assoc, append_assoc, parseClosePathFrame_header f hp,
    bind_of_ok (parseNumAckBlocks_of_noRanges hr _),
    bind_of_ok (readUintN_append _ (lt_pow_getPacketNumberLength hl) _)] at hparse
  obtain ⟨g, bs, hg, hparse⟩ := bind_ok hparse
  have hgf : g = f.toAckedPackets :=
    (congrArg ClosePathFrame.toAckedPackets (Prod.mk.inj (Except.ok.inj hparse)).1).trans heq
  rw [hgf] at hg
  exact lowest_of_parseRanges hl hg

end Parser

/-! ## The round trip -/

namespace AckedPackets

/-- Frames with ranges in descending order, at least one packet missing between neighbours, and
with the largest and the lowest packet of the ranges. -/
structure WellFormed (f : AckedPackets) : Prop extends Consistent f where
  pathID : f.pathID < 2 ^ 8
  bounded : f.largestAcked < 2 ^ 48
  ordered : f.lowestAcked ≤ f.largestAcked
  nonempty : ∀ r ∈ f.ackRanges, r.first ≤ r.last
  separated : f.ackRanges.IsChain fun r r' => r'.last + 1 < r.first

/-- Frames whose second range fits: without ranges, or with at most `254 * 255` packets missing
between the two topmost ranges. -/
def SecondRangeFits (f : AckedPackets) : Prop :=
  match f.ackRanges with
  | [] => 1 ≤ f.lowestAcked
  | [_] => False
  | r :: r' :: _ => r.first - r'.last - 1 ≤ 254 * 255

/-- A received frame that tells of the packets of a sent one what 255 blocks can hold. -/
structure Faithful (f f' : AckedPackets) : Prop where
  pathID : f'.pathID = f.pathID
  largest : f'.largestAcked = f.largestAcked
  topmost : f'.ackRanges = topRanges 254 f.ackRanges
  all : 1 + numBlocks f.ackRanges ≤ 255 → f' = f
  acked : ∀ p, f'.acksPacket p = true → f.acksPacket p = true

theorem isChain_follows {r : AckRange} {rs : List AckRange}
    (hsep : (r :: rs).IsChain fun r r' => r'.last + 1 < r.first)
    (hne : ∀ r' ∈ r :: rs, r'.first ≤ r'.last) (hlast : r.last < 2 ^ 48) :
    (r :: rs).IsChain Follows := by
  induction rs generalizing r with
  | nil => exact .singleton r
  | cons r' rs ih =>
    obtain ⟨hlt, hrest⟩ := isChain_cons_cons.mp hsep
    have hr := hne r (by simp)
    have hr' := hne r' (by simp)
    refine isChain_cons_cons.mpr ⟨⟨hr', hlt, by omega⟩, ?_⟩
    exact ih hrest (fun x hx => hne x (mem_cons_of_mem _ hx)) (by omega)

variable {ranges : List AckRange}

theorem rangesDescend_of_isChain (h : ranges.IsChain Follows) : rangesDescend ranges = true := by
  induction ranges with
  | nil => rfl
  | cons r rs ih =>
    cases rs with
    | nil => rfl
    | cons r' rs =>
      obtain ⟨hfollows, hrest⟩ := isChain_cons_cons.mp h
      have hne := hfollows.nonempty
      have hlt := hfollows.separated
      have hb := hfollows.bounded
      rw [rangesDescend, ih hrest, add64_of_lt (by omega)]
      simp only [Bool.and_true, Bool.and_eq_true, Bool.not_eq_true', decide_eq_false_iff_not,
        not_le]
      exact ⟨by omega, hlt⟩

/-- The lowest range is the last one. -/
theorem first_getLast_le (h : ranges.IsChain Follows) (hne : ∀ r ∈ ranges, r.first ≤ r.last)
    {lowest r : AckRange} (hlast : ranges.getLast? = some lowest) (hr : r ∈ ranges) :
    lowest.first ≤ r.first := by
  obtain ⟨front, rfl⟩ := getLast?_eq_some_iff.mp hlast
  rcases mem_append.mp hr with hr | hr
  · obtain ⟨front', back, rfl⟩ := append_of_mem hr
    rw [append_assoc] at h
    have hlt := last_lt_of_isChain h.right_of_append (show lowest ∈ back ++ [lowest] by simp)
    omega
  · rw [mem_singleton.mp hr]

namespace WellFormed
variable {f : AckedPackets} (h : f.WellFormed)
include h

theorem isChain : f.ackRanges.IsChain Follows := by
  rcases hr : f.ackRanges with _ | ⟨r, rs⟩
  · exact .nil
  · have hlargest := h.largest r (by rw [hr]; rfl)
    have hb := h.bounded
    exact isChain_follows (hr ▸ h.separated) (hr ▸ h.nonempty) (by omega)

theorem last_le {r : AckRange} (hr : r ∈ f.ackRanges) : r.last ≤ f.largestAcked := by
  have hchain := h.isChain
  rcases hranges : f.ackRanges with _ | ⟨highest, rs⟩
  · simp [hranges] at hr
  have hlargest := h.largest highest (by rw [hranges]; rfl)
  have hne := h.nonempty highest (by rw [hranges]; exact mem_cons_self)
  rw [hranges] at hr hchain
  rcases mem_cons.mp hr with rfl | hr
  · omega
  · have := last_lt_of_isChain hchain hr
    omega

theorem isChain_top : f.top.ackRanges.IsChain Follows := by
  obtain ⟨below, hbelow⟩ := topRanges_isPrefix 254 f.ackRanges
  have hchain := h.isChain
  rw [← hbelow] at hchain
  exact hchain.left_of_append

/-- With its blocks a second range is kept. -/
theorem top_ne_singleton (hfits : f.SecondRangeFits) (r : AckRange) : f.top.ackRanges ≠ [r] := by
  have hchain := h.isChain
  unfold SecondRangeFits at hfits
  rcases hr : f.ackRanges with _ | ⟨last, _ | ⟨r', rest⟩⟩
  · rw [top_of_noRanges hr, hr]
    exact (cons_ne_nil _ _).symm
  · rw [hr] at hfits
    exact hfits.elim
  · rw [hr] at hfits hchain
    have hblocks : blocksForGap (gap last r') ≤ 254 := by
      rw [blocksForGap_le, (isChain_cons_cons.mp hchain).1.gap_eq]
      exact hfits
    obtain ⟨below, hbelow⟩ := topRanges_cons (254 - blocksForGap (gap last r')) r' rest
    have htop : f.top.ackRanges = last :: r' :: below := by
      rw [top, hr, topRanges, if_pos hblocks, hbelow]
    rw [htop]
    simp

/-- The part that fits of a frame whose second range fits can be read. -/
theorem readable_top (hfits : f.SecondRangeFits) : f.top.Readable := by
  refine ⟨h.bounded, ?_, fun r hr => h.last_le (mem_of_mem_top hr), ?_⟩
  · have hdesc := rangesDescend_of_isChain h.isChain_top
    have hne : ∀ r ∈ f.top.ackRanges, r.first ≤ r.last := fun r hr =>
      h.nonempty r (mem_of_mem_top hr)
    unfold validateAckRanges
    rcases htop : f.top.ackRanges with _ | ⟨r, _ | ⟨r', below⟩⟩
    · rfl
    · exact absurd htop (h.top_ne_singleton hfits r)
    · rw [htop] at hdesc hne
      have hlargest : r.last = f.top.largestAcked := (h.largest r (head?_of_top htop)).symm
      simp only [Bool.and_eq_true, beq_iff_eq, all_eq_true, decide_eq_true_eq]
      exact ⟨⟨hlargest, hne⟩, hdesc⟩
  · intro hnil
    have hr : f.ackRanges = [] := by
      rcases hr : f.ackRanges with _ | ⟨r, rs⟩
      · rfl
      · obtain ⟨below, hbelow⟩ := top_cons hr
        simp [hbelow] at hnil
    unfold SecondRangeFits at hfits
    rw [hr] at hfits
    rw [top_of_noRanges hr]
    exact ⟨hfits, h.ordered⟩

/-- The part that fits tells nothing wrong. -/
theorem faithful_top : f.Faithful f.top := by
  refine ⟨rfl, rfl, rfl, ?_, ?_⟩
  · intro hall
    have hranges : topRanges 254 f.ackRanges = f.ackRanges := topRanges_eq_self (by omega)
    have hlow : f.top.lowestAcked = f.lowestAcked := by
      unfold top
      rw [hranges]
      rcases hlast : f.ackRanges.getLast? with _ | r
      · rfl
      · exact (h.lowest r hlast).symm
    have hshape : f.top =
        { f with lowestAcked := f.top.lowestAcked, ackRanges := f.ackRanges } := by
      rw [← hranges]
      rfl
    rw [hshape, hlow]
  · intro p hp
    rcases hr : f.ackRanges with _ | ⟨r, rs⟩
    · rwa [top_of_noRanges hr] at hp
    obtain ⟨below, hbelow⟩ := top_cons hr
    obtain ⟨x, hx, hfirst, hlast⟩ : ∃ x ∈ f.top.ackRanges, x.first ≤ p ∧ p ≤ x.last := by
      unfold acksPacket at hp
      split at hp
      · cases hp
      · simpa [hasMissingRanges, hbelow] using hp
    have hmem := mem_of_mem_top hx
    obtain ⟨lowest, hlowest⟩ : ∃ lowest, f.ackRanges.getLast? = some lowest :=
      ⟨_, getLast?_eq_some_getLast (by rw [hr]; exact cons_ne_nil r rs)⟩
    have hlow := first_getLast_le h.isChain h.nonempty hlowest hmem
    have heq := h.lowest lowest hlowest
    have hle := h.last_le hmem
    have hmissing : f.hasMissingRanges = true := by simp [hasMissingRanges, hr]
    unfold acksPacket
    rw [if_neg (by omega), if_pos hmissing, any_eq_true]
    exact ⟨x, hmem, by simp [hfirst, hlast]⟩

/-- With a larger gap behind the first range, more blocks are written than were counted. -/
theorem writeRanges_error {r r' : AckRange} {rest : List AckRange}
    (hr : f.ackRanges = r :: r' :: rest) (hgap : 254 * 255 < r.first - r'.last - 1) (o : ByteOrder)
    (cut : Bool) : f.writeRanges o cut = .error .inconsistentAckRangesWritten := by
  have hchain := h.isChain
  rw [hr] at hchain
  have hfollows := (isChain_cons_cons.mp hchain).1
  have hblocks : ¬blocksForGap (gap r r') ≤ 254 := by
    rw [blocksForGap_le, hfollows.gap_eq]
    omega
  have htop : f.top.ackRanges = [r] := by rw [top, hr, topRanges, if_neg hblocks]
  have hlength : rangeLength r < 2 ^ 48 := by
    have := h.last_le (r := r) (by rw [hr]; exact mem_cons_self)
    have := h.nonempty r (by rw [hr]; exact mem_cons_self)
    have := h.bounded
    rw [rangeLength_eq (by omega) (by omega)]
    omega
  have hnone : numBlocks [r] = 0 := rfl
  rw [writeRanges_cons h.toConsistent hr, writeNumber_of_lt o cut hlength,
    numWritableNackRanges_eq (by rw [hr]; exact cons_ne_nil _ _), htop, hnone,
    writeBlocks_cons o cut _ _ _ hfollows, if_pos (by omega)]
  change (if _ ≠ _ then _ else _) = _
  rw [if_pos (by omega)]
  rfl

/-- A frame that was written and read faithfully has a second range that fits, or no ranges. -/
theorem secondRangeFits {f' : AckedPackets} {o : ByteOrder} {cut : Bool} {bytes : List Byte}
    (hwrite : f.writeRanges o cut = .ok bytes) (hvalid : f'.validateAckRanges = true)
    (hf' : f.Faithful f') (hlow : f.ackRanges = [] → f' = f → 1 ≤ f.lowestAcked) :
    f.SecondRangeFits := by
  unfold SecondRangeFits
  rcases hr : f.ackRanges with _ | ⟨r, _ | ⟨r', rest⟩⟩
  · refine hlow hr (hf'.all ?_)
    rw [hr]
    decide
  · -- no parser returns a single range
    have hone : numBlocks [r] = 0 := rfl
    have heq : f' = f := hf'.all (by rw [hr, hone]; decide)
    rw [heq, validateAckRanges, hr] at hvalid
    cases hvalid
  · by_contra hgap
    rw [h.writeRanges_error hr (not_le.mp hgap)] at hwrite
    cases hwrite

end WellFormed
end AckedPackets

open AckedPackets

/-- The bytes of the frame are read back as a frame that tells the same of the packets, up to the
ranges for which there are no blocks left. -/
def AckFrame.RoundTrips (f : AckFrame) (version now : Int) : Prop :=
  ∃ bytes, f.write version now = .ok bytes ∧ ∀ rest, ∃ f',
    Parser.parseAckFrame version (bytes ++ rest) = .ok (f', rest) ∧
      f.toAckedPackets.Faithful f'.toAckedPackets

@[inherit_doc AckFrame.RoundTrips]
def ClosePathFrame.RoundTrips (f : ClosePathFrame) (version : Int) : Prop :=
  ∃ bytes, f.write version = .ok bytes ∧ ∀ rest, ∃ f',
    Parser.parseClosePathFrame version (bytes ++ rest) = .ok (f', rest) ∧
      f.toAckedPackets.Faithful f'.toAckedPackets

namespace Parser

theorem ack_roundTrips_iff {f : AckFrame} (hf : f.WellFormed) (version now : Int) :
    f.RoundTrips version now ↔ f.SecondRangeFits := by
  constructor
  · rintro ⟨bytes, hwrite, hread⟩
    obtain ⟨f', hparse, hfaithful⟩ := hread []
    have hwrite' := hwrite
    rw [ack_write_eq] at hwrite'
    obtain ⟨ranges, hranges, -⟩ := bind_eq_ok hwrite'
    exact hf.secondRangeFits hranges (parseAckFrame_parsed hparse).valid hfaithful fun hr heq =>
      (ack_lowest_of_read hf.pathID hf.bounded hr hwrite hparse heq).1
  · intro hfits
    obtain ⟨bytes, hwrite, hread⟩ := ack_round_trip hf.toConsistent (hf.readable_top hfits)
      hf.pathID version now
    exact ⟨bytes, hwrite, fun rest => ⟨_, hread rest, hf.faithful_top⟩⟩

theorem closePath_roundTrips_iff {f : ClosePathFrame} (hf : f.WellFormed) (version : Int) :
    f.RoundTrips version ↔ f.SecondRangeFits := by
  constructor
  · rintro ⟨bytes, hwrite, hread⟩
    obtain ⟨f', hparse, hfaithful⟩ := hread []
    have hwrite' := hwrite
    rw [closePath_write_eq] at hwrite'
    obtain ⟨largest, -, hwrite'⟩ := bind_eq_ok hwrite'
    obtain ⟨ranges, hranges, -⟩ := bind_eq_ok hwrite'
    exact hf.secondRangeFits hranges (parseClosePathFrame_parsed hparse).valid hfaithful
      fun hr heq =>
      (closePath_lowest_of_read hf.pathID hf.bounded hr hwrite hparse heq).1
  · intro hfits
    obtain ⟨bytes, hwrite, hread⟩ := closePath_round_trip hf.toConsistent (hf.readable_top hfits)
      hf.pathID version
    exact ⟨bytes, hwrite, fun rest => ⟨_, hread rest, hf.faithful_top⟩⟩

end Parser

/-- **ACK and CLOSE_PATH frames are encoded faithfully** exactly if their second range fits, for
all well-formed frames. -/
theorem acked_packets_round_trip_iff (ack : AckFrame) (closePath : ClosePathFrame)
    (hack : ack.WellFormed) (hclosePath : closePath.WellFormed) (version now : Int) :
    (ack.RoundTrips version now ↔ ack.SecondRangeFits) ∧
      (closePath.RoundTrips version ↔ closePath.SecondRangeFits) :=
  ⟨Parser.ack_roundTrips_iff hack version now, Parser.closePath_roundTrips_iff hclosePath version⟩

/-- Packet `high` and packet 1, with everything between them missing. -/
def twoPackets (high : Nat) : AckedPackets :=
  { pathID := 3, largestAcked := high, lowestAcked := 1
    ackRanges := [{ first := high, last := high }, { first := 1, last := 1 }] }

theorem twoPackets_wellFormed {high : Nat} (hlow : 2 < high) (hhigh : high < 2 ^ 48) :
    (twoPackets high).WellFormed where
  largest := by simp [twoPackets]
  lowest := by simp [twoPackets]
  pathID := by simp [twoPackets]
  bounded := hhigh
  ordered := by unfold twoPackets; dsimp only; omega
  nonempty := by simp [twoPackets]
  separated := by simp [twoPackets]; omega

/-- The gap of 998 packets between two others takes four blocks. -/
theorem acked_packets_round_trip_gap :
    ((twoPackets 1000).WellFormed ∧ (twoPackets 1000).SecondRangeFits) ∧
      ({ twoPackets 1000 with packetReceivedTime := 0, delayTime := 0 } : AckFrame).RoundTrips
        versionMP 5000 ∧
      ({ twoPackets 1000 with } : ClosePathFrame).RoundTrips versionMP := by
  have hf : (twoPackets 1000).WellFormed := twoPackets_wellFormed (by decide) (by decide)
  have hfits : (twoPackets 1000).SecondRangeFits := by
    unfold SecondRangeFits twoPackets
    decide
  have h := acked_packets_round_trip_iff
    { twoPackets 1000 with packetReceivedTime := 0, delayTime := 0 } { twoPackets 1000 with } hf hf
    versionMP 5000
  exact ⟨⟨hf, hfits⟩, h.1.mpr hfits, h.2.mpr hfits⟩

/-- With 99998 packets missing between two ranges, one block is counted and 393 are written, and
`Write` fails. -/
theorem large_gap_is_not_written :
    (twoPackets 100000).WellFormed ∧
      ({ twoPackets 100000 with packetReceivedTime := 0, delayTime := 0 } : AckFrame).write
        versionMP 5000 = .error .inconsistentAckRangesWritten ∧
      ({ twoPackets 100000 with } : ClosePathFrame).write versionMP =
        .error .inconsistentAckRangesWritten := by
  have hf : (twoPackets 100000).WellFormed := twoPackets_wellFormed (by decide) (by decide)
  have hgap (o : ByteOrder) (cut : Bool) := hf.writeRanges_error rfl (by decide) o cut
  refine ⟨hf, ?_, ?_⟩
  · rw [Parser.ack_write_eq]
    rw [hgap]
    rfl
  · rw [Parser.closePath_write_eq]
    rw [hgap]
    rfl

end MpQuic
