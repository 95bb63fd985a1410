import MpQuic.ParseFrame

/-!
# Acknowledged packets as they are parsed

What the parsers of ACK and CLOSE_PATH frames check of a frame before they return
it.  The ranges are computed on `uint64`, and `validateAckRanges` compares them
there, too.  `decodeRanges` computes them on unbounded integers; the ranges inside
the loop are those modulo 2^64 (`Tracks`), and those of a frame that is returned are
equal to them, because the ranges start in descending order below the first one.
-/
namespace MpQuic
open Systems List

/-! ## What is checked -/

namespace AckedPackets

/-- The ranges of a valid frame start in descending order. -/
theorem pairwise_of_rangesDescend {ranges : List AckRange} (h : rangesDescend ranges = true) :
    ranges.Pairwise fun r r' => r'.first < r.first := by
  induction ranges with
  | nil => exact .nil
  | cons r rest ih =>
    cases rest with
    | nil => simp
    | cons r' rest =>
      simp only [rangesDescend, Bool.and_eq_true, Bool.not_eq_true', decide_eq_false_iff_not,
        not_le] at h
      obtain ⟨⟨hlt, -⟩, hrest⟩ := h
      have hsorted := ih hrest
      refine pairwise_cons.mpr ⟨?_, hsorted⟩
      intro r'' hr''
      rcases mem_cons.mp hr'' with rfl | hr''
      · exact hlt
      · exact ((pairwise_cons.mp hsorted).1 r'' hr'').trans hlt

/-- What `validateAckRanges` checks of a frame with ranges. -/
structure ValidRanges (f : AckedPackets) (r : AckRange) (rs : List AckRange) : Prop where
  ranges : f.ackRanges = r :: rs
  largest : r.last = f.largestAcked
  nonempty : ∀ r' ∈ r :: rs, r'.first ≤ r'.last
  descending : (r :: rs).Pairwise fun r r' => r'.first < r.first
  descends : rangesDescend (r :: rs) = true

theorem validRanges_of_validate {f : AckedPackets} (h : f.validateAckRanges = true) :
    f.ackRanges = [] ∨ ∃ r rs, ValidRanges f r rs := by
  unfold validateAckRanges at h
  split at h
  · next hr => exact .inl hr
  · simp at h
  · next r rs _ hr =>
    simp only [Bool.and_eq_true, beq_iff_eq, all_eq_true, decide_eq_true_eq] at h
    obtain ⟨⟨hlast, hne⟩, hdesc⟩ := h
    exact .inr ⟨r, rs, hr, hlast, hne, pairwise_of_rangesDescend hdesc, hdesc⟩

end AckedPackets

/-- The packets a frame acknowledges: those of its ranges, or all from the lowest to the largest. -/
def AckedPackets.acked (f : AckedPackets) : List AckRange :=
  if f.ackRanges = [] then [⟨f.lowestAcked, f.largestAcked⟩] else f.ackRanges

namespace Parser

/-! ## Reading numbers -/

variable {n v len a b largestAcked blockLength pathID : Nat} {o : ByteOrder} {bs rest : List Byte}
  {blocks : List (Nat × Nat)} {p z version : Int} {inLongBlock : Bool} {done zs : List (Int × Int)}
  {ranges : List AckRange} {f : AckedPackets} {num : Option Nat}

theorem readFull_ok {bs a rest : List Byte} (h : readFull n bs = .ok (a, rest)) : a.length = n := by
  unfold readFull at h
  split at h
  · next hle =>
    obtain ⟨rfl, -⟩ := Prod.mk.inj (Except.ok.inj h)
    exact length_take_of_le hle
  · cases h

theorem readUintN_lt (h : readUintN o n bs = .ok (v, rest)) : v < 256 ^ n := by
  obtain ⟨a, bs', ha, h⟩ := bind_ok h
  obtain ⟨rfl, -⟩ := Prod.mk.inj (Except.ok.inj h)
  exact readFull_ok ha ▸ o.uintOf_lt a

theorem blockLength_lt (hlen : len ≤ 6) (h : readUintN o len bs = .ok (v, rest)) : v < 2 ^ 48 :=
  (readUintN_lt h).trans_le (Nat.pow_le_pow_right (by decide) hlen)

/-! ## The ranges on unbounded integers -/

/-- The ACK blocks as they are on the wire: gaps and numbers of packets. -/
def readBlocks (o : ByteOrder) (len : Nat) : Nat → Parser (List (Nat × Nat))
  | 0 => pure []
  | n + 1 => do
    let gap := (← readByte).toNat
    let length ← readUintN o len
    return (gap, length) :: (← readBlocks o len n)

/-- The ranges the blocks stand for, below the packet `p`.  A block without packets makes the gap
of the next one longer. -/
def decodeBlocks : Int → List (Nat × Nat) → List (Int × Int)
  | _, [] => []
  | p, (gap, length) :: blocks =>
    if length = 0 then decodeBlocks (p - gap) blocks
    else (p - gap - length, p - gap - 1) :: decodeBlocks (p - gap - length) blocks

/-- The ranges of a frame.  The largest packet 0 stands for itself, whatever the block says. -/
def decodeRanges (o : ByteOrder) (len largestAcked : Nat) :
    Option Nat → Parser (List (Int × Int))
  | none => do
    let ackBlockLength ← readUintN o len
    return [(if largestAcked = 0 then 0 else (largestAcked : Int) + 1 - ackBlockLength,
      (largestAcked : Int))]
  | some n => do
    let ackBlockLength ← readUintN o len
    let first : Int := (largestAcked : Int) + 1 - ackBlockLength
    return (first, (largestAcked : Int)) :: decodeBlocks first (← readBlocks o len n)

/-- What the blocks can describe: ranges of packets below `p`, in descending order, that do not
reach further down than the blocks allow. -/
theorem decodeBlocks_bounds (hblocks : ∀ b ∈ blocks, b.1 < 256 ∧ b.2 < 2 ^ 48) :
    ∀ z ∈ decodeBlocks p blocks,
      z.1 ≤ z.2 ∧ z.2 < p ∧ p - blocks.length * 2 ^ 49 ≤ z.1 := by
  induction blocks generalizing p with
  | nil => simp [decodeBlocks]
  | cons b blocks ih =>
    obtain ⟨gap, length⟩ := b
    obtain ⟨hgap, hlength⟩ := hblocks _ mem_cons_self
    have hrest := fun b hb => hblocks b (mem_cons_of_mem _ hb)
    dsimp only at hgap hlength
    intro z hz
    rw [decodeBlocks] at hz
    split at hz
    · have := ih hrest z hz
      simp only [length_cons]
      push_cast
      omega
    · rcases mem_cons.mp hz with rfl | hz
      · simp only [length_cons]
        push_cast
        omega
      · have := ih hrest z hz
        simp only [length_cons]
        push_cast
        omega

theorem readBlocks_bounds (hlen : len ≤ 6) (h : readBlocks o len n bs = .ok (blocks, rest)) :
    blocks.length = n ∧ ∀ b ∈ blocks, b.1 < 256 ∧ b.2 < 2 ^ 48 := by
  induction n generalizing bs blocks with
  | zero =>
    obtain ⟨rfl, -⟩ := Prod.mk.inj (Except.ok.inj h)
    exact ⟨rfl, nofun⟩
  | succ n ih =>
    obtain ⟨gap, bs₁, -, h⟩ := bind_ok h
    obtain ⟨length, bs₂, hlength, h⟩ := bind_ok h
    obtain ⟨tail, bs₃, htail, h⟩ := bind_ok h
    obtain ⟨rfl, rfl⟩ := Prod.mk.inj (Except.ok.inj h)
    obtain ⟨hn, hrest⟩ := ih htail
    refine ⟨by rw [length_cons, hn], ?_⟩
    intro b hb
    rcases mem_cons.mp hb with rfl | hb
    · exact ⟨gap.toNat_lt, blockLength_lt hlen hlength⟩
    · exact hrest b hb

/-! ## The loop on `uint64` -/

/-- A range is a pair of integers modulo 2^64. -/
structure Mod64 (r : AckRange) (z : Int × Int) : Prop where
  first : (r.first : Int) = z.1 % 2 ^ 64
  last : (r.last : Int) = z.2 % 2 ^ 64

theorem sub64_mod (ha : (a : Int) = z % 2 ^ 64) (hb : b < 2 ^ 64) :
    ((sub64 a b : Nat) : Int) = (z - b) % 2 ^ 64 := by
  unfold sub64
  split <;> omega

theorem add64_mod (ha : (a : Int) = z % 2 ^ 64) : ((add64 a b : Nat) : Int) = (z + b) % 2 ^ 64 := by
  unfold add64
  omega

/-- The ranges in the loop, with the one read last in front, stand for `done`.  After a block
without packets there is an empty range in front.  The packets from `p` on are described. -/
inductive Tracks : List AckRange → Bool → List (Int × Int) → Int → Prop
  | short {r : AckRange} {rs : List AckRange} {done : List (Int × Int)} {p q : Int}
      (hr : Mod64 r (p, q)) (hrs : List.Forall₂ Mod64 rs done) :
      Tracks (r :: rs) false ((p, q) :: done) p
  | long {r : AckRange} {rs : List AckRange} {done : List (Int × Int)} {p : Int}
      (hr : Mod64 r (p, p - 1)) (hrs : List.Forall₂ Mod64 rs done) :
      Tracks (r :: rs) true done p

/-- One block: it starts a range, or moves and fills the empty one. -/
theorem Tracks.block {r : AckRange} {rs : List AckRange} (h : Tracks (r :: rs) inLongBlock done p)
    {gap length : Nat} (hgap : gap < 256) (hlength : length < 2 ^ 48) :
    let ranges := if inLongBlock then
        { first := sub64 r.first (gap + length), last := sub64 r.last gap } :: rs
      else { first := add64 (sub64 (sub64 (sub64 r.first gap) 1) length) 1,
             last := sub64 (sub64 r.first gap) 1 } :: r :: rs
    Tracks ranges (decide (length = 0))
      (if length = 0 then done else (p - gap - length, p - gap - 1) :: done)
        (p - gap - length) := by
  have hrange : ∃ r' rs', (if inLongBlock then
        { first := sub64 r.first (gap + length), last := sub64 r.last gap } :: rs
      else { first := add64 (sub64 (sub64 (sub64 r.first gap) 1) length) 1,
             last := sub64 (sub64 r.first gap) 1 } :: r :: rs) = r' :: rs' ∧
      Mod64 r' (p - gap - length, p - gap - 1) ∧ List.Forall₂ Mod64 rs' done := by
    cases h with
    | short hr hrs =>
      have hgapped := sub64_mod hr.first (b := gap) (by omega)
      have hlast := sub64_mod hgapped (b := 1) (by omega)
      have hfirst := add64_mod (sub64_mod hlast (b := length) (by omega)) (b := 1)
      refine ⟨_, _, if_neg Bool.false_ne_true, ⟨?_, ?_⟩, .cons hr hrs⟩
      · rw [hfirst]
        congr 1
        push_cast
        omega
      · rw [hlast]
        norm_cast
    | long hr hrs =>
      have hfirst := sub64_mod hr.first (b := gap + length) (by omega)
      have hlast := sub64_mod hr.last (b := gap) (by omega)
      refine ⟨_, _, if_pos rfl, ⟨?_, ?_⟩, hrs⟩
      · rw [hfirst]
        congr 1
        push_cast
        omega
      · rw [hlast]
        congr 1
        push_cast
        omega
  obtain ⟨r', rs', heq, hr', hrs'⟩ := hrange
  rw [heq]
  by_cases hzero : length = 0
  · subst hzero
    rw [if_pos rfl, decide_eq_true rfl]
    exact .long (by simpa using hr') hrs'
  · rw [if_neg hzero, decide_eq_false hzero]
    exact .short hr' hrs'

/-- The loop reads the blocks and describes their ranges, by induction on the blocks that are
left.  Once a block has been read, the flag `lastRangeComplete` says that no empty range is in
front. -/
theorem parseBlocks_tracks (hlen : len ≤ 6) {ranges ranges' : List AckRange}
    {inLongBlock complete complete' : Bool} (ht : Tracks ranges inLongBlock done p)
    (hopen : inLongBlock = true → complete = false)
    (h : parseBlocks o len n ranges inLongBlock complete bs = .ok ((ranges', complete'), rest)) :
    ∃ blocks inLongBlock' p', readBlocks o len n bs = .ok (blocks, rest) ∧
      Tracks ranges' inLongBlock' ((decodeBlocks p blocks).reverse ++ done) p' ∧
      (complete = !inLongBlock ∨ 0 < n → complete' = !inLongBlock') := by
  induction n generalizing ranges inLongBlock complete done p bs with
  | zero =>
    obtain ⟨hranges, rfl⟩ := Prod.mk.inj (Except.ok.inj h)
    obtain ⟨rfl, rfl⟩ := Prod.mk.inj hranges
    exact ⟨[], inLongBlock, p, rfl, ht, fun hflags => hflags.resolve_right (lt_irrefl 0)⟩
  | succ n ih =>
    cases ranges with
    | nil => cases h
    | cons r rs =>
      obtain ⟨gap, bs₁, hgap, h⟩ := bind_ok h
      obtain ⟨length, bs₂, hlength, h⟩ := bind_ok h
      have hnext := ht.block gap.toNat_lt (blockLength_lt hlen hlength)
      have hflags : decide (0 < length) = !decide (length = 0) := by
        rw [← decide_not, decide_eq_decide]
        omega
      have hloop : parseBlocks o len n (if inLongBlock then
          { first := sub64 r.first (gap.toNat + length), last := sub64 r.last gap.toNat } :: rs
        else { first := add64 (sub64 (sub64 (sub64 r.first gap.toNat) 1) length) 1,
               last := sub64 (sub64 r.first gap.toNat) 1 } :: r :: rs)
          (length = 0) (0 < length) bs₂ = .ok ((ranges', complete'), rest) := by
        cases inLongBlock with
        | true =>
          rw [if_pos rfl, hopen rfl, Bool.false_or] at h
          exact h
        | false => exact h
      obtain ⟨blocks, inLongBlock', p', hread, ht', hdone⟩ :=
        ih hnext (fun hz => by rw [hflags, hz]; rfl) hloop
      refine ⟨(gap.toNat, length) :: blocks, inLongBlock', p', ?_, ?_,
        fun _ => hdone (Or.inl hflags)⟩
      · rw [readBlocks, bind_of_ok hgap, bind_of_ok hlength, bind_of_ok hread]
        rfl
      · rw [decodeBlocks]
        split
        · next hzero =>
          rw [if_pos hzero] at ht'
          subst hzero
          simpa using ht'
        · next hpos =>
          rw [if_neg hpos] at ht'
          simpa using ht'

/-- What is kept after the loop are the ranges the blocks describe. -/
theorem Tracks.kept (h : Tracks ranges inLongBlock done p) :
    List.Forall₂ Mod64 (if !inLongBlock then ranges else ranges.tail) done := by
  cases h with
  | short hr hrs => exact .cons hr hrs
  | long hr hrs => exact hrs

theorem mod64_first (hl : largestAcked < 2 ^ 48) (hle : blockLength ≤ largestAcked) :
    Mod64 { first := largestAcked - blockLength + 1, last := largestAcked }
      ((largestAcked : Int) + 1 - blockLength, (largestAcked : Int)) := by
  constructor <;> dsimp only <;> omega

/-- A frame with missing ranges, before it is validated. -/
theorem parseAcked_decodes (hlen : len ≤ 6) (hl : largestAcked < 2 ^ 48)
    (hle : blockLength ≤ largestAcked) (hn : 0 < n)
    (h : parseAcked o len pathID largestAcked blockLength (some n) bs = .ok (f, rest)) :
    f.largestAcked = largestAcked ∧ f.ackRanges.getLast?.map (·.first) = some f.lowestAcked ∧
      ∃ blocks, readBlocks o len n bs = .ok (blocks, rest) ∧
        List.Forall₂ Mod64 f.ackRanges
          (((largestAcked : Int) + 1 - blockLength, (largestAcked : Int)) ::
          decodeBlocks ((largestAcked : Int) + 1 - blockLength) blocks) := by
  obtain ⟨⟨ranges, complete⟩, bs', hblocks, h⟩ := bind_ok h
  obtain ⟨blocks, inLongBlock, p, hread, ht, hflags⟩ := parseBlocks_tracks hlen
    (.short (mod64_first hl hle) .nil) (fun hfalse => nomatch hfalse) hblocks
  have hkept := ht.kept
  rw [← hflags (Or.inr hn)] at hkept
  dsimp only at h
  generalize (if complete then ranges else ranges.tail) = kept at h hkept
  cases kept with
  | nil => cases h
  | cons lowest higher =>
    obtain ⟨rfl, rfl⟩ := Prod.mk.inj (Except.ok.inj h)
    refine ⟨rfl, by simp, blocks, hread, ?_⟩
    have hrev := rel_reverse hkept
    simpa using hrev

/-! ## Validated frames -/

/-- The integers of a range. -/
def bounds (r : AckRange) : Int × Int := ((r.first : Int), (r.last : Int))

/-- Ranges that start at small numbers have not wrapped around. -/
theorem bounds_of_mod64 (h : List.Forall₂ Mod64 ranges zs)
    (hz : ∀ z ∈ zs, (z.1 ≤ z.2 ∨ z.1 = z.2 + 1 ∧ 0 ≤ z.2) ∧ z.2 < 2 ^ 48 ∧ -(2 ^ 60) ≤ z.1)
    (hr : ∀ r ∈ ranges, r.first < 2 ^ 48) : ranges.map bounds = zs := by
  induction h with
  | nil => rfl
  | @cons r z ranges zs hmod _ ih =>
    have hbounds := hz z mem_cons_self
    have hsmall := hr r mem_cons_self
    have hfirst := hmod.first
    have hlast := hmod.last
    rw [map_cons, ih (fun z hz' => hz z (mem_cons_of_mem _ hz'))
      (fun r hr' => hr r (mem_cons_of_mem _ hr')), bounds]
    congr 1
    ext <;> dsimp only <;> omega

/-- Neighbouring ranges are not adjacent, if `Last + 1` does not wrap around. -/
theorem separated_of_rangesDescend (h : AckedPackets.rangesDescend ranges = true)
    (hle : ∀ r ∈ ranges, r.first ≤ r.last) (hlt : ∀ r ∈ ranges, r.last < 2 ^ 48) :
    ranges.Pairwise fun r r' => r'.last + 1 < r.first := by
  induction ranges with
  | nil => exact .nil
  | cons r rest ih =>
    cases rest with
    | nil => exact pairwise_singleton ..
    | cons r' rest =>
      simp only [AckedPackets.rangesDescend, Bool.and_eq_true, Bool.not_eq_true',
        decide_eq_false_iff_not, not_le] at h
      obtain ⟨⟨-, hnext⟩, hrest⟩ := h
      have hmem : ∀ x ∈ r' :: rest, x ∈ r :: r' :: rest := fun x hx => mem_cons_of_mem _ hx
      have hsorted := ih hrest (fun x hx => hle x (hmem x hx)) fun x hx => hlt x (hmem x hx)
      have hlast := hlt r' (hmem r' mem_cons_self)
      have hfirst := hle r' (hmem r' mem_cons_self)
      rw [add64_of_lt (by omega)] at hnext
      refine pairwise_cons.mpr ⟨?_, hsorted⟩
      intro x hx
      rcases mem_cons.mp hx with rfl | hx
      · exact hnext
      · have := (pairwise_cons.mp hsorted).1 x hx
        omega

/-- What is known of a frame that was parsed: the packets it acknowledges are in descending
ranges with gaps between them, and they are those of `zs`. -/
structure Strict (f : AckedPackets) (zs : List (Int × Int)) : Prop where
  largest_lt : f.largestAcked < 2 ^ 48
  nonempty : ∀ r ∈ f.acked, r.first ≤ r.last
  separated : f.acked.Pairwise fun r r' => r'.last + 1 < r.first
  largest : f.acked.head?.map (·.last) = some f.largestAcked
  lowest : f.acked.getLast?.map (·.first) = some f.lowestAcked
  decoded : f.acked.map bounds = zs

/-- `validateAckRanges` compares modulo `2 ^ 64`, and yet only lets ranges pass that did not wrap
around. -/
theorem strict_of_validate (hvalid : f.validateAckRanges = true) (hranges : f.ackRanges ≠ [])
    (hl : f.largestAcked < 2 ^ 48)
    (hlow : f.ackRanges.getLast?.map (·.first) = some f.lowestAcked)
    (hmod : List.Forall₂ Mod64 f.ackRanges zs)
    (hz : ∀ z ∈ zs, (z.1 ≤ z.2 ∨ z.1 = z.2 + 1 ∧ 0 ≤ z.2) ∧ z.2 < 2 ^ 48 ∧ -(2 ^ 60) ≤ z.1) :
    Strict f zs := by
  obtain ⟨r, rs, hv⟩ := (AckedPackets.validRanges_of_validate hvalid).resolve_left hranges
  have hacked : f.acked = f.ackRanges := if_neg hranges
  have hfirst : ∀ r' ∈ r :: rs, r'.first < 2 ^ 48 := by
    intro r' hr'
    have hr := hv.nonempty r mem_cons_self
    have hlast := hv.largest
    rcases mem_cons.mp hr' with rfl | hr'
    · omega
    · have := (pairwise_cons.mp hv.descending).1 r' hr'
      omega
  have hdecoded : f.ackRanges.map bounds = zs :=
    bounds_of_mod64 hmod hz (by rw [hv.ranges]; exact hfirst)
  have hlast : ∀ r' ∈ f.ackRanges, r'.last < 2 ^ 48 := by
    intro r' hr'
    have hmem : bounds r' ∈ zs := hdecoded ▸ mem_map_of_mem hr'
    have hlt := (hz _ hmem).2.1
    rw [bounds] at hlt
    omega
  refine ⟨hl, ?_, ?_, ?_, ?_, ?_⟩
  · rw [hacked, hv.ranges]
    exact hv.nonempty
  · rw [hacked, hv.ranges]
    exact separated_of_rangesDescend hv.descends hv.nonempty (hv.ranges ▸ hlast)
  · rw [hacked, hv.ranges, head?_cons, Option.map_some, hv.largest]
  · rw [hacked, hlow]
  · rw [hacked, hdecoded]

/-- The frames both parsers return, against the ranges on unbounded integers. -/
theorem parseRanges_strict (hlen : len ≤ 6) (hl : largestAcked < 2 ^ 48)
    (hnum : ∀ n ∈ num, 0 < n ∧ n < 256)
    (h : parseRanges o len pathID largestAcked num bs = .ok (f, rest)) :
    f.validateAckRanges = true ∧
      ∃ zs, decodeRanges o len largestAcked num bs = .ok (zs, rest) ∧ Strict f zs := by
  obtain ⟨blockLength, bs₁, hblock, h⟩ := bind_ok h
  split at h
  · cases h
  next hfirst =>
  split at h
  · cases h
  next hle =>
  obtain ⟨f', bs₂, hf', h⟩ := bind_ok h
  split at h
  · cases h
  next hvalid =>
  obtain ⟨rfl, rfl⟩ := Prod.mk.inj (Except.ok.inj h)
  have hvalid : f'.validateAckRanges = true := by simpa using hvalid
  refine ⟨hvalid, ?_⟩
  cases num with
  | none =>
    obtain ⟨rfl, rfl⟩ := Prod.mk.inj (Except.ok.inj hf')
    refine ⟨_, by rw [decodeRanges, bind_of_ok hblock]; rfl, hl, ?_, ?_, rfl, rfl, ?_⟩
    · intro r hr
      obtain rfl := mem_singleton.mp hr
      dsimp only
      split <;> omega
    · exact pairwise_singleton ..
    · simp only [AckedPackets.acked, if_true, map_cons, map_nil, bounds]
      congr 2
      split <;> omega
  | some n =>
    obtain ⟨hpos, hlt⟩ := hnum n rfl
    obtain ⟨rfl, hlow, blocks, hread, hmod⟩ := parseAcked_decodes hlen hl (not_lt.mp hle) hpos hf'
    obtain ⟨hlength, hblocks⟩ := readBlocks_bounds hlen hread
    refine ⟨_, by rw [decodeRanges, bind_of_ok hblock, bind_of_ok hread]; rfl, ?_⟩
    have hranges : f'.ackRanges ≠ [] := by
      intro hnil
      rw [hnil] at hmod
      cases hmod
    refine strict_of_validate hvalid hranges hl hlow hmod ?_
    intro z hz
    rcases mem_cons.mp hz with rfl | hz
    · dsimp only
      omega
    · obtain ⟨hle', hbelow, hlowest⟩ := decodeBlocks_bounds hblocks z hz
      rw [hlength] at hlowest
      omega

theorem Strict.last_le (h : Strict f zs) : ∀ r ∈ f.acked, r.last ≤ f.largestAcked := by
  have hseparated := h.separated
  have hlargest := h.largest
  have hnonempty := h.nonempty
  cases hacked : f.acked with
  | nil => exact nofun
  | cons r rs =>
    rw [hacked] at hseparated hlargest hnonempty
    rw [head?_cons, Option.map_some, Option.some.injEq] at hlargest
    intro r' hr'
    rcases mem_cons.mp hr' with rfl | hr'
    · exact hlargest.le
    · have := (pairwise_cons.mp hseparated).1 r' hr'
      have := hnonempty r mem_cons_self
      omega

/-- What the handlers need of a frame that was parsed. -/
structure Parsed (f : AckedPackets) : Prop where
  largest : f.largestAcked < 2 ^ 48
  valid : f.validateAckRanges = true
  ordered : f.lowestAcked ≤ f.largestAcked
  bounded : ∀ r ∈ f.ackRanges, r.last ≤ f.largestAcked

theorem Strict.parsed (h : Strict f zs) (hvalid : f.validateAckRanges = true) : Parsed f := by
  refine ⟨h.largest_lt, hvalid, ?_, ?_⟩
  · obtain ⟨r, hr, hlow⟩ := Option.map_eq_some_iff.mp h.lowest
    have hmem := mem_of_getLast? hr
    have := h.nonempty r hmem
    have := h.last_le r hmem
    omega
  · intro r hr
    refine h.last_le r ?_
    rw [AckedPackets.acked, if_neg (ne_nil_of_mem hr)]
    exact hr

/-! ## The two frames -/

/-- The lengths of the numbers are at most 6. -/
theorem lengthField_le (b : Byte) :
    lengthField ((b &&& 0x0C) >>> 2) ≤ 6 ∧ lengthField (b &&& 0x03) ≤ 6 := by
  have hlarge : ((b &&& 0x0C) >>> 2).toNat ≤ 3 := by
    rw [UInt8.toNat_shiftRight, UInt8.toNat_and]
    have : b.toNat &&& (0x0C : Byte).toNat ≤ 12 := Nat.and_le_right
    change (b.toNat &&& (0x0C : Byte).toNat) >>> 2 ≤ 3
    rw [Nat.shiftRight_eq_div_pow]
    omega
  have hsmall : (b &&& 0x03).toNat ≤ 3 := by
    rw [UInt8.toNat_and]
    exact Nat.and_le_right
  unfold lengthField
  constructor <;> split <;> omega

theorem parseNumAckBlocks_pos {hasMissingRanges : Bool}
    (h : parseNumAckBlocks hasMissingRanges bs = .ok (num, rest)) : ∀ n ∈ num, 0 < n ∧ n < 256 := by
  cases hasMissingRanges with
  | false =>
    obtain ⟨rfl, -⟩ := Prod.mk.inj (Except.ok.inj h)
    exact nofun
  | true =>
    obtain ⟨b, bs', -, h⟩ := bind_ok h
    dsimp only at h
    split at h
    · cases h
    · next hb =>
      obtain ⟨rfl, -⟩ := Prod.mk.inj (Except.ok.inj h)
      rintro n ⟨⟩
      refine ⟨Nat.pos_of_ne_zero fun hzero => hb ?_, b.toNat_lt⟩
      exact UInt8.toNat_inj.mp hzero

/-- `ParseAckFrame` on unbounded integers, without the checks. -/
def decodeAckFrame (version : Int) : Parser (List (Int × Int)) := do
  let o := getByteOrder version
  let typeByte ← readByte
  let _ ← if typeByte &&& 0x10 = 0x10 then (do return (← readByte).toNat) else pure 0
  let largestAcked ← readUintN o (lengthField ((typeByte &&& 0x0C) >>> 2))
  let _ ← readUfloat16 o
  let numAckBlocks ← parseNumAckBlocks (typeByte &&& 0x20 = 0x20)
  let ranges ← decodeRanges o (lengthField (typeByte &&& 0x03)) largestAcked numAckBlocks
  skipTimestamps o
  return ranges

/-- `ParseClosePathFrame` on unbounded integers, without the checks. -/
def decodeClosePathFrame (version : Int) : Parser (List (Int × Int)) := do
  let o := getByteOrder version
  let _ ← readByte
  let _ ← readByte
  let flags ← readByte
  let numAckBlocks ← parseNumAckBlocks (flags &&& 0x10 = 0x10)
  let largestAcked ← readUintN o (lengthField ((flags &&& 0x0C) >>> 2))
  decodeRanges o (lengthField (flags &&& 0x03)) largestAcked numAckBlocks

theorem parseClosePathFrame_strict {f : ClosePathFrame}
    (h : parseClosePathFrame version bs = .ok (f, rest)) :
    f.validateAckRanges = true ∧ ∃ zs, decodeClosePathFrame version bs = .ok (zs, rest) ∧
      Strict f.toAckedPackets zs := by
  obtain ⟨_, _, hb₁, h⟩ := bind_ok h
  obtain ⟨_, _, hb₂, h⟩ := bind_ok h
  obtain ⟨flags, _, hb₃, h⟩ := bind_ok h
  obtain ⟨num, _, hnum, h⟩ := bind_ok h
  obtain ⟨largest, _, hlargest, h⟩ := bind_ok h
  obtain ⟨f', _, hf', h⟩ := bind_ok h
  obtain ⟨rfl, rfl⟩ := Prod.mk.inj (Except.ok.inj h)
  obtain ⟨ha, hb⟩ := lengthField_le flags
  obtain ⟨hvalid, zs, hdecode, hstrict⟩ :=
    parseRanges_strict hb (blockLength_lt ha hlargest) (parseNumAckBlocks_pos hnum) hf'
  refine ⟨hvalid, zs, ?_, hstrict⟩
  rw [decodeClosePathFrame, bind_of_ok hb₁, bind_of_ok hb₂, bind_of_ok hb₃, bind_of_ok hnum,
    bind_of_ok hlargest]
  exact hdecode

/-- The ranges of an ACK frame that is accepted are those that its bytes encode over the integers.
-/
theorem parseAckFrame_strict {f : AckFrame} (h : parseAckFrame version bs = .ok (f, rest)) :
    f.validateAckRanges = true ∧ ∃ zs, decodeAckFrame version bs = .ok (zs, rest) ∧
      Strict f.toAckedPackets zs := by
  obtain ⟨typeByte, _, hb₁, h⟩ := bind_ok h
  obtain ⟨ha, hb⟩ := lengthField_le typeByte
  rw [decodeAckFrame, bind_of_ok hb₁]
  dsimp only at h ⊢
  -- with and without a path ID
  by_cases hflag : typeByte &&& 0x10 = 0x10
  on_goal 1 => rw [if_pos hflag] at h ⊢
  on_goal 2 => rw [if_neg hflag] at h ⊢
  all_goals
    obtain ⟨_, _, hb₂, h⟩ := bind_ok h
    obtain ⟨largest, _, hlargest, h⟩ := bind_ok h
    obtain ⟨_, _, hdelay, h⟩ := bind_ok h
    obtain ⟨num, _, hnum, h⟩ := bind_ok h
    obtain ⟨f', _, hf', h⟩ := bind_ok h
    obtain ⟨_, _, hskip, h⟩ := bind_ok h
    obtain ⟨rfl, rfl⟩ := Prod.mk.inj (Except.ok.inj h)
    obtain ⟨hvalid, zs, hdecode, hstrict⟩ :=
      parseRanges_strict hb (blockLength_lt ha hlargest) (parseNumAckBlocks_pos hnum) hf'
    refine ⟨hvalid, zs, ?_, hstrict⟩
    rw [bind_of_ok hb₂, bind_of_ok hlargest, bind_of_ok hdelay, bind_of_ok hnum,
      bind_of_ok hdecode, bind_of_ok hskip]
    rfl

theorem parseClosePathFrame_parsed {f : ClosePathFrame}
    (h : parseClosePathFrame version bs = .ok (f, rest)) : Parsed f.toAckedPackets := by
  obtain ⟨hvalid, zs, -, hstrict⟩ := parseClosePathFrame_strict h
  exact hstrict.parsed hvalid

theorem parseAckFrame_parsed {f : AckFrame} (h : parseAckFrame version bs = .ok (f, rest)) :
    Parsed f.toAckedPackets := by
  obtain ⟨hvalid, zs, -, hstrict⟩ := parseAckFrame_strict h
  exact hstrict.parsed hvalid

end Parser
end MpQuic
