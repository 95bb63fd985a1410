import MpQuic.PacketMoves
import MpQuic.ParsedAcks

/-!
# Newly acknowledged packets

`determineNewlyAckedPackets` walks the history upwards and the ranges of the frame with a
cursor that never moves back.  On a history in increasing order and a frame that the
parser accepts, it finds exactly the packets that `AcksPacket` accepts one by one, and
the packet it is looking at is never behind the range under the cursor.
-/
namespace MpQuic
open Systems List AckedPackets

namespace AckedPackets

theorem acksPacket_iff (f : AckedPackets) (p : Nat) :
    f.acksPacket p = true ↔ f.lowestAcked ≤ p ∧ p ≤ f.largestAcked ∧
      (f.ackRanges = [] ∨ ∃ r ∈ f.ackRanges, r.first ≤ p ∧ p ≤ r.last) := by
  rw [acksPacket, hasMissingRanges]
  cases hranges : f.ackRanges with
  | nil =>
    split
    · next hout => exact iff_of_false Bool.false_ne_true (by omega)
    · next hin => exact iff_of_true rfl ⟨by omega, by omega, .inl rfl⟩
  | cons r rs =>
    split
    · next hout => exact iff_of_false Bool.false_ne_true (by omega)
    · next hin =>
      have hbounds : f.lowestAcked ≤ p ∧ p ≤ f.largestAcked := by omega
      simp [hbounds]

/-- The packets of a history that a frame acknowledges. -/
def ackedIn (f : AckedPackets) (history : List Packet) : List Packet :=
  history.filter fun p => f.acksPacket p.packetNumber

variable {f : AckedPackets} {p : Packet}

theorem ackedIn_cons_of_acks (h : f.acksPacket p.packetNumber = true) (rest : List Packet) :
    f.ackedIn (p :: rest) = p :: f.ackedIn rest :=
  filter_cons_of_pos h

theorem ackedIn_cons_of_not_acks (h : f.acksPacket p.packetNumber ≠ true) (rest : List Packet) :
    f.ackedIn (p :: rest) = f.ackedIn rest :=
  filter_cons_of_neg h

/-- Packets beyond the largest one acknowledged. -/
theorem ackedIn_eq_nil {history : List Packet}
    (h : ∀ p ∈ history, f.largestAcked < p.packetNumber) : f.ackedIn history = [] := by
  refine filter_eq_nil_iff.mpr fun p hp hacks => ?_
  have hle := ((f.acksPacket_iff _).mp hacks).2.1
  have hlt := h p hp
  omega

end AckedPackets

namespace SentPacketHandler
variable {κ : Type}

/-! ## The cursor -/

/-- Nonempty ranges, the lowest first. -/
structure Ascending (ranges : List AckRange) : Prop where
  nonempty : ∀ r ∈ ranges, r.first ≤ r.last
  ordered : ranges.Pairwise fun r r' => r.last < r'.first

/-- The ranges the cursor moves past end before the packet. -/
theorem advanceRange_passes (p : Nat) (ranges : List AckRange) :
    ∃ passed, ranges = passed ++ advanceRange p ranges ∧ ∀ r ∈ passed, r.last < p := by
  fun_induction advanceRange p ranges with
  | case1 r next rest hlt ih =>
    obtain ⟨passed, hsplit, hpassed⟩ := ih
    refine ⟨r :: passed, by rw [cons_append, ← hsplit], ?_⟩
    exact forall_mem_cons.mpr ⟨hlt, hpassed⟩
  | case2 => exact ⟨[], rfl, nofun⟩
  | case3 => exact ⟨[], rfl, nofun⟩

variable {ranges : List AckRange} {f : AckedPackets} {zs : List (Int × Int)}

/-- A packet that some range reaches is not behind the range under the cursor. -/
theorem exists_advanceRange {p : Nat} {last : AckRange} (hlast : ranges.getLast? = some last)
    (hp : p ≤ last.last) : ∃ r rest, advanceRange p ranges = r :: rest ∧ p ≤ r.last := by
  fun_induction advanceRange p ranges with
  | case1 r next rest hlt ih => exact ih (by rwa [getLast?_cons_cons] at hlast)
  | case2 r next rest hle => exact ⟨r, next :: rest, rfl, not_lt.mp hle⟩
  | case3 ranges hshort =>
    match ranges, hshort with
    | [r], _ =>
      obtain rfl : r = last := by simpa using hlast
      exact ⟨r, [], rfl, hp⟩
    | r :: next :: rest, hshort => exact absurd rfl (hshort r next rest)

/-- The cursor is at `ranges`: the ranges it has moved past end before every packet that is left,
and the last range ends with the largest packet acknowledged. -/
structure Cursor (f : AckedPackets) (ranges : List AckRange) (history : List Packet) : Prop where
  passed : ∃ passed, f.ackRanges.reverse = passed ++ ranges ∧
    ∀ r ∈ passed, ∀ p ∈ history, r.last < p.packetNumber
  last : ∃ last, ranges.getLast? = some last ∧ last.last = f.largestAcked

namespace Cursor
variable {f : AckedPackets} {ranges : List AckRange} {p : Packet} {rest : List Packet}

theorem tail (h : Cursor f ranges (p :: rest)) : Cursor f ranges rest := by
  obtain ⟨passed, hsplit, hpassed⟩ := h.passed
  exact ⟨⟨passed, hsplit, fun r hr q hq => hpassed r hr q (mem_cons_of_mem _ hq)⟩, h.last⟩

/-- Moving on, the cursor stops at a range that does not end before the packet. -/
theorem advance (h : Cursor f ranges (p :: rest)) (hp : p.packetNumber ≤ f.largestAcked)
    (hordered : (p :: rest).Pairwise (·.packetNumber < ·.packetNumber)) :
    ∃ r rs, advanceRange p.packetNumber ranges = r :: rs ∧ p.packetNumber ≤ r.last ∧
      Cursor f (r :: rs) (p :: rest) := by
  obtain ⟨passed, hsplit, hpassed⟩ := h.passed
  obtain ⟨last, hlast, hlargest⟩ := h.last
  obtain ⟨r, rs, hadvance, hle⟩ := exists_advanceRange (p := p.packetNumber) hlast (by omega)
  obtain ⟨moved, hmoved, hbefore⟩ := advanceRange_passes p.packetNumber ranges
  rw [hadvance] at hmoved
  refine ⟨r, rs, hadvance, hle, ⟨passed ++ moved, ?_, ?_⟩, last, ?_, hlargest⟩
  · rw [hsplit, hmoved, append_assoc]
  · intro i hi q hq
    rcases mem_append.mp hi with hi | hi
    · exact hpassed i hi q hq
    · rcases mem_cons.mp hq with rfl | hq
      · exact hbefore i hi
      · exact (hbefore i hi).trans ((pairwise_cons.mp hordered).1 q hq)
  · rw [hmoved, getLast?_append_of_ne_nil _ (cons_ne_nil r rs)] at hlast
    exact hlast

/-- The packet can only be in the range under the cursor. -/
theorem acks_iff {r : AckRange} {rs : List AckRange} (h : Cursor f (r :: rs) (p :: rest))
    (hascending : Ascending f.ackRanges.reverse) (hle : p.packetNumber ≤ r.last)
    (hlow : f.lowestAcked ≤ p.packetNumber) (hhigh : p.packetNumber ≤ f.largestAcked) :
    f.acksPacket p.packetNumber = true ↔ r.first ≤ p.packetNumber := by
  obtain ⟨passed, hsplit, hpassed⟩ := h.passed
  have hmem (i : AckRange) : i ∈ f.ackRanges ↔ i ∈ passed ++ r :: rs := by
    rw [← hsplit, mem_reverse]
  rw [acksPacket_iff]
  constructor
  · rintro ⟨-, -, hnil | ⟨i, hi, hfirst, hlast⟩⟩
    · have hr := (hmem r).mpr (by simp)
      rw [hnil] at hr
      cases hr
    rcases mem_append.mp ((hmem i).mp hi) with hi | hi
    · have hlt := hpassed i hi p mem_cons_self
      omega
    rcases mem_cons.mp hi with rfl | hi
    · exact hfirst
    · have hordered := hascending.ordered
      rw [hsplit] at hordered
      have hlt := (pairwise_cons.mp (pairwise_append.mp hordered).2.1).1 i hi
      omega
  · intro hfirst
    exact ⟨hlow, hhigh, .inr ⟨r, (hmem r).mpr (by simp), hfirst, hle⟩⟩

end Cursor

/-! ## The loop -/

/-- The loop with its cursor finds the packets of the history that lie in one of the ranges. -/
theorem newlyAcked_eq {history : List Packet} (hascending : Ascending f.ackRanges.reverse)
    (hcursor : f.ackRanges ≠ [] → Cursor f ranges history)
    (hordered : history.Pairwise (·.packetNumber < ·.packetNumber)) :
    newlyAcked f ranges history = .ok (f.ackedIn history) := by
  induction history generalizing ranges with
  | nil => rw [newlyAcked]; rfl
  | cons p rest ih =>
    obtain ⟨hbelow, hrest⟩ := pairwise_cons.mp hordered
    rw [newlyAcked]
    by_cases hlow : p.packetNumber < f.lowestAcked
    · have hnot : f.acksPacket p.packetNumber ≠ true := fun hacks => by
        have hle := ((f.acksPacket_iff _).mp hacks).1
        omega
      rw [if_pos hlow, ackedIn_cons_of_not_acks hnot]
      exact ih (fun hne => (hcursor hne).tail) hrest
    by_cases hhigh : f.largestAcked < p.packetNumber
    · have habove : ∀ q ∈ p :: rest, f.largestAcked < q.packetNumber :=
        forall_mem_cons.mpr ⟨hhigh, fun q hq => hhigh.trans (hbelow q hq)⟩
      rw [if_neg hlow, if_pos hhigh, ackedIn_eq_nil habove]
    rw [if_neg hlow, if_neg hhigh]
    rw [not_lt] at hlow hhigh
    by_cases hne : f.ackRanges = []
    · have hmissing : f.hasMissingRanges = false := by
        rw [hasMissingRanges, hne]
        rfl
      have hacks := (f.acksPacket_iff p.packetNumber).mpr ⟨hlow, hhigh, .inl hne⟩
      rw [hmissing, ih (fun h => absurd hne h) hrest, ackedIn_cons_of_acks hacks]
      rfl
    · have hmissing : f.hasMissingRanges = true := by
        rw [hasMissingRanges, Bool.not_eq_true', isEmpty_eq_false_iff]
        exact hne
      obtain ⟨r, rs, hadvance, hle, hcursor'⟩ := (hcursor hne).advance hhigh hordered
      have hacks := hcursor'.acks_iff hascending hle hlow hhigh
      rw [hmissing, if_pos rfl, hadvance]
      dsimp only
      by_cases hfirst : r.first ≤ p.packetNumber
      · rw [if_pos hfirst, if_neg (not_lt.mpr hle), ih (fun _ => hcursor'.tail) hrest,
          ackedIn_cons_of_acks (hacks.mpr hfirst)]
        rfl
      · rw [if_neg hfirst, ih (fun _ => hcursor'.tail) hrest,
          ackedIn_cons_of_not_acks (mt hacks.mp hfirst)]

/-- The ranges of a frame that was parsed, in the order of the loop. -/
theorem ascending_of_strict (h : Parser.Strict f zs) : Ascending f.ackRanges.reverse := by
  by_cases hne : f.ackRanges = []
  · rw [hne]
    exact ⟨nofun, .nil⟩
  have hacked : f.acked = f.ackRanges := if_neg hne
  have hnonempty := h.nonempty
  have hseparated := h.separated
  rw [hacked] at hnonempty hseparated
  refine ⟨fun r hr => hnonempty r (mem_reverse.mp hr), pairwise_reverse.mpr ?_⟩
  exact hseparated.imp fun hlt => by omega

theorem cursor_of_strict (h : Parser.Strict f zs) (hne : f.ackRanges ≠ []) (history : List Packet) :
    Cursor f f.ackRanges.reverse history := by
  have hacked : f.acked = f.ackRanges := if_neg hne
  obtain ⟨r, hr, hlast⟩ := Option.map_eq_some_iff.mp h.largest
  rw [hacked] at hr
  exact ⟨⟨[], rfl, nofun⟩, r, by rw [getLast?_reverse, hr], hlast⟩

theorem determineNewlyAckedPackets_eq {h : SentPacketHandler κ} (ho : h.Ordered)
    (hf : Parser.Strict f zs) : h.determineNewlyAckedPackets f = .ok (f.ackedIn h.packetHistory) :=
  newlyAcked_eq (ascending_of_strict hf) (fun hne => cursor_of_strict hf hne _) ho

/-- The loop finds packets only that the frame acknowledges. -/
theorem newlyAcked_acks (hranges : ranges ⊆ f.ackRanges) {history ps : List Packet}
    (hps : newlyAcked f ranges history = .ok ps) :
    ∀ p ∈ ps, f.acksPacket p.packetNumber = true := by
  have hadvance : ∀ {n : Nat} {ranges ranges' : List AckRange}, advanceRange n ranges = ranges' →
      ranges ⊆ f.ackRanges → ranges' ⊆ f.ackRanges := by
    intro n ranges ranges' heq hsub
    obtain ⟨passed, hsplit, -⟩ := advanceRange_passes n ranges
    rw [hsplit, heq] at hsub
    exact fun r hr => hsub (mem_append_right _ hr)
  fun_induction newlyAcked f ranges history generalizing ps with
  | case1 | case3 =>
    obtain rfl := Except.ok.inj hps
    exact nofun
  | case2 _ _ _ _ _ ih => exact ih hranges hps
  | case4 | case5 => cases hps
  | case6 _ packet _ n hlow hhigh hmissing r _ heq hfirst hlast ih =>
    have hsub := hadvance heq hranges
    obtain ⟨ps', hps', rfl⟩ := cons_map_ok hps
    refine forall_mem_cons.2 ⟨?_, ih hsub hps'⟩
    exact (f.acksPacket_iff _).2 ⟨not_lt.1 hlow, not_lt.1 hhigh,
      .inr ⟨r, hsub (by simp), hfirst, not_lt.1 hlast⟩⟩
  | case7 _ _ _ _ _ _ _ _ _ heq _ ih => exact ih (hadvance heq hranges) hps
  | case8 _ packet _ n hlow hhigh hmissing ih =>
    obtain ⟨ps', hps', rfl⟩ := cons_map_ok hps
    refine forall_mem_cons.2 ⟨?_, ih hranges hps'⟩
    exact (f.acksPacket_iff _).2 ⟨not_lt.1 hlow, not_lt.1 hhigh,
      .inl (by simpa [hasMissingRanges] using hmissing)⟩

/-- **Newly acknowledged packets are exact**: for a history in increasing order and every ACK or
CLOSE_PATH frame that its parser accepts there is no error, and the packets found are those of the
history that the frame acknowledges, in order. -/
theorem newly_acked_exact (h : SentPacketHandler κ) (ho : h.Ordered) (version : Int)
    (bs rest : List Byte) :
    (∀ f : AckFrame, Parser.parseAckFrame version bs = .ok (f, rest) →
      h.determineNewlyAckedPackets f.toAckedPackets =
        .ok (h.packetHistory.filter fun p => f.acksPacket p.packetNumber)) ∧
    ∀ f : ClosePathFrame, Parser.parseClosePathFrame version bs = .ok (f, rest) →
      h.determineNewlyAckedPackets f.toAckedPackets =
        .ok (h.packetHistory.filter fun p => f.acksPacket p.packetNumber) := by
  refine ⟨fun f hf => ?_, fun f hf => ?_⟩
  · obtain ⟨-, zs, -, hstrict⟩ := Parser.parseAckFrame_strict hf
    exact determineNewlyAckedPackets_eq ho hstrict
  · obtain ⟨-, zs, -, hstrict⟩ := Parser.parseClosePathFrame_strict hf
    exact determineNewlyAckedPackets_eq ho hstrict

/-- A handler with PINGs outstanding under the numbers given. -/
def withOutstanding (numbers : List Nat) : SentPacketHandler FixedWindow :=
  { new (SendAlgorithm.new false) with
    packetHistory := numbers.map fun packetNumber =>
      { packetNumber, frames := [.ping], length := 20, encryptionLevel := .forwardSecure } }

/-- The frame acknowledges the packets 4 to 6 and 9. -/
theorem newly_acked_exact_two_ranges :
    ∃ f : AckFrame, Parser.parseAckFrame 39 [0x60, 9, 0, 0, 1, 1, 2, 3, 0] = .ok (f, []) ∧
      f.ackRanges = [⟨9, 9⟩, ⟨4, 6⟩] ∧
      (withOutstanding [3, 4, 6, 7, 9, 10]).determineNewlyAckedPackets f.toAckedPackets =
        .ok (withOutstanding [4, 6, 9]).packetHistory := by
  let f : AckFrame :=
    { pathID := 0, largestAcked := 9, lowestAcked := 4, ackRanges := [⟨9, 9⟩, ⟨4, 6⟩]
      packetReceivedTime := 0, delayTime := 0 }
  have hf : Parser.parseAckFrame 39 [0x60, 9, 0, 0, 1, 1, 2, 3, 0] = .ok (f, []) := by
    decide +kernel
  have ho : (withOutstanding [3, 4, 6, 7, 9, 10]).Ordered := by
    rw [Ordered]
    decide
  exact ⟨f, hf, rfl, (newly_acked_exact _ ho 39 _ _).1 f hf⟩

end SentPacketHandler
end MpQuic
