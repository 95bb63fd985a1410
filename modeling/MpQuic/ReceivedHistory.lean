import Mathlib.Data.Set.Insert
import MpQuic.ReceivedAcks

/-!
# The received packet history is a set of packet numbers

`receivedPacketHistory` keeps the numbers of the packets received as intervals.  It
refines a set: `ReceivedPacket` inserts a number, unless there are too many intervals,
and `DeleteUpTo` removes the numbers up to a bound.  The intervals that represent a set
are unique, so what `GetAckRanges` returns depends on the set alone.
-/
namespace MpQuic.ReceivedPacketHistory

/-- The intervals of a set of packet numbers: descending, and not adjacent. -/
structure Represents (rs : List AckRange) (packets : Set Nat) : Prop where
  descending : Descending rs
  covers : ∀ n, Covers rs n ↔ n ∈ packets

/-! ## Uniqueness -/

variable {r r' : AckRange} {rs rs' : List AckRange} {packets : Set Nat}

section
variable (h : Descending (r :: rs))
include h

/-- The first interval reaches up to the largest packet and down to the first one missing. -/
theorem Descending.not_covers_pred : ¬Covers (r :: rs) (r.first - 1) := by
  obtain ⟨hbelow, hr, -⟩ := descending_cons.mp h
  have hpos := hr.pos
  intro hcov
  rcases (covers_cons ..).mp hcov with hin | ⟨r', hr', -, hle⟩
  · omega
  · have hlt := hbelow r' hr'
    omega

theorem Descending.covers_tail (n : Nat) : Covers rs n ↔ Covers (r :: rs) n ∧ n < r.first := by
  obtain ⟨hbelow, -, -⟩ := descending_cons.mp h
  constructor
  · rintro ⟨r', hr', hfirst, hlast⟩
    have hlt := hbelow r' hr'
    exact ⟨⟨r', List.mem_cons_of_mem _ hr', hfirst, hlast⟩, by omega⟩
  · rintro ⟨hcov, hlt⟩
    rcases (covers_cons ..).mp hcov with hin | hin
    · omega
    · exact hin

/-- Of two lists that cover the same packets, neither reaches further up. -/
theorem Descending.last_le (h' : Descending (r' :: rs'))
    (hcov : ∀ n, Covers (r' :: rs') n → Covers (r :: rs) n) : r'.last ≤ r.last := by
  obtain ⟨hbelow, hr, -⟩ := descending_cons.mp h
  obtain ⟨-, hr', -⟩ := descending_cons.mp h'
  have hle := hr.le
  have hlast : Covers (r :: rs) r'.last :=
    hcov _ ((covers_cons ..).mpr (.inl ⟨hr'.le, le_rfl⟩))
  rcases (covers_cons ..).mp hlast with hin | ⟨i, hi, -, hi'⟩
  · exact hin.2
  · have hlt := hbelow i hi
    omega

/-- Nor does its first interval reach further down. -/
theorem Descending.first_le_head (hcov : ∀ n, Covers (r' :: rs') n → Covers (r :: rs) n)
    (hlast : r.last ≤ r'.last) : r.first ≤ r'.first := by
  have hle := (descending_cons.mp h).2.1.le
  refine not_lt.mp fun hlt => h.not_covers_pred ?_
  -- the packet before the first interval of `rs` would be covered
  exact hcov _ ((covers_cons ..).mpr (.inl ⟨by omega, by omega⟩))

end

/-- Lists of intervals in order are determined by the numbers that they cover. -/
theorem Descending.eq_of_covers (h : Descending rs) (h' : Descending rs')
    (hcov : ∀ n, Covers rs n ↔ Covers rs' n) : rs = rs' := by
  induction rs generalizing rs' with
  | nil =>
    cases rs' with
    | nil => rfl
    | cons r' rs' =>
      have hr' := (descending_cons.mp h').2.1
      exact absurd ((hcov r'.first).mpr ((covers_cons ..).mpr (.inl ⟨le_rfl, hr'.le⟩)))
        (covers_nil _)
  | cons r rs ih =>
    cases rs' with
    | nil =>
      have hr := (descending_cons.mp h).2.1
      exact absurd ((hcov r.first).mp ((covers_cons ..).mpr (.inl ⟨le_rfl, hr.le⟩))) (covers_nil _)
    | cons r' rs' =>
      have hlast := h.last_le h' fun n => (hcov n).mpr
      have hlast' := h'.last_le h fun n => (hcov n).mp
      have hfirst := h.first_le_head (fun n => (hcov n).mpr) hlast'
      have hfirst' := h'.first_le_head (fun n => (hcov n).mp) hlast
      have hhead : r = r' := by
        cases r
        cases r'
        exact congrArg₂ AckRange.mk (le_antisymm hfirst hfirst') (le_antisymm hlast' hlast)
      subst hhead
      have htail := ih (descending_cons.mp h).2.2 (descending_cons.mp h').2.2 fun n => by
        rw [h.covers_tail, h'.covers_tail, hcov]
      rw [htail]

/-- The representation of a set is unique. -/
theorem Represents.unique (h : Represents rs packets) (h' : Represents rs' packets) : rs = rs' :=
  h.descending.eq_of_covers h'.descending fun n => (h.covers n).trans (h'.covers n).symm

/-! ## The operations -/

theorem represents_empty : Represents [] ∅ :=
  ⟨descending_nil, fun n => iff_of_false (covers_nil n) (Set.notMem_empty n)⟩

theorem Represents.insertPacket (h : Represents rs packets) {p : Nat} (hpos : 1 ≤ p)
    (hlt : p < 2 ^ 64) : Represents (insertPacket p rs) (insert p packets) := by
  obtain ⟨hdesc, hcov⟩ := insertPacket_spec hpos hlt h.descending
  refine ⟨hdesc, fun n => ?_⟩
  rw [hcov, h.covers, Set.mem_insert_iff]

theorem Represents.deleteUpTo (h : Represents rs packets) (q : Nat) :
    Represents (deleteUpTo rs q) {n ∈ packets | q < n} := by
  obtain ⟨hdesc, hcov⟩ := deleteUpTo_spec q h.descending
  refine ⟨hdesc, fun n => ?_⟩
  rw [hcov, h.covers]
  exact and_comm

/-! ## Sequences of calls -/

/-- A call of the handler; numbers are of 64 bits. -/
inductive Call
  | receivedPacket (p : Nat)
  | deleteUpTo (q : Nat)

namespace Call

/-- The packet numbers that can be received. -/
def Valid : Call → Prop
  | receivedPacket p => 1 ≤ p ∧ p < 2 ^ 64
  | deleteUpTo q => q < 2 ^ 64

/-- The intervals after the call, and its error. -/
def apply (rs : List AckRange) : Call → List AckRange × Option Err
  | receivedPacket p =>
    match ReceivedPacketHistory.receivedPacket rs p with
    | .error e => (rs, some e)
    | .ok rs' => (rs', none)
  | deleteUpTo q => (ReceivedPacketHistory.deleteUpTo rs q, none)

/-- What a call that ended with `err` means for the set of packets. -/
def onSet (err : Option Err) (packets : Set Nat) : Call → Set Nat
  | receivedPacket p => if err.isSome then packets else insert p packets
  | deleteUpTo q => {n ∈ packets | q < n}

/-- The intervals and the set they should represent, after one more call. -/
def step (h : List AckRange × Set Nat) (c : Call) : List AckRange × Set Nat :=
  ((c.apply h.1).1, c.onSet (c.apply h.1).2 h.2)

theorem step_represents (h : Represents rs packets) {c : Call} (hc : c.Valid) :
    Represents (c.step (rs, packets)).1 (c.step (rs, packets)).2 := by
  cases c with
  | deleteUpTo q => exact h.deleteUpTo q
  | receivedPacket p =>
    rw [step, apply]
    split
    · exact h
    · next rs' hok =>
      rw [eq_insertPacket_of_ok hok]
      exact h.insertPacket hc.1 hc.2

end Call

/-- The intervals after a sequence of calls, and the set of packets. -/
def run (calls : List Call) : List AckRange × Set Nat := calls.foldl Call.step ([], ∅)

theorem run_represents (calls : List Call) (hcalls : ∀ c ∈ calls, c.Valid) :
    Represents (run calls).1 (run calls).2 := by
  refine List.foldlRecOn calls _
    (motive := fun h : List AckRange × Set Nat => Represents h.1 h.2) represents_empty ?_
  intro h hrep c hc
  exact Call.step_represents hrep (hcalls c hc)

/-- **The history refines a set.**  After every sequence of calls the intervals are nonempty,
descending and not adjacent, they cover the packets that were inserted and not deleted, and
`GetAckRanges` is the only list of such intervals for this set. -/
theorem history_refines_set (calls : List Call) (hcalls : ∀ c ∈ calls, c.Valid) :
    Descending (run calls).1 ∧ (∀ n, Covers (run calls).1 n ↔ n ∈ (run calls).2) ∧
      ∀ rs, Represents rs (run calls).2 ↔ rs = getAckRanges (run calls).1 := by
  have hrep := run_represents calls hcalls
  refine ⟨hrep.descending, hrep.covers, fun rs => ⟨fun hrs => hrs.unique hrep, ?_⟩⟩
  rintro rfl
  exact hrep

/-- Packets that leave gaps, one that closes a gap, and a limit inside an interval. -/
def sampleCalls : List Call :=
  [.receivedPacket 5, .receivedPacket 3, .receivedPacket 9, .receivedPacket 4, .deleteUpTo 3]

theorem history_refines_set_sampleCalls :
    (run sampleCalls).1 = [⟨9, 9⟩, ⟨4, 5⟩] ∧ 4 ∈ (run sampleCalls).2 ∧ 3 ∉ (run sampleCalls).2 ∧
      ∀ rs, Represents rs (run sampleCalls).2 ↔ rs = [⟨9, 9⟩, ⟨4, 5⟩] := by
  have hvalid : ∀ c ∈ sampleCalls, c.Valid := by
    simp [sampleCalls, Call.Valid]
  have hranges : (run sampleCalls).1 = [⟨9, 9⟩, ⟨4, 5⟩] := by decide +kernel
  obtain ⟨-, hcovers, hunique⟩ := history_refines_set sampleCalls hvalid
  rw [hranges] at hcovers hunique
  refine ⟨hranges, (hcovers 4).mp ?_, mt (hcovers 3).mpr ?_, hunique⟩
  · simp [Covers]
  · simp [Covers]

end MpQuic.ReceivedPacketHistory
