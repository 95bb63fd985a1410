import MpQuic.ByteOrder

/-!
# Packet numbers and nonces (`packet_number_generator.go`, `crypto/aesgcm12_aead.go`)

Every path owns a `PacketNumberGenerator`.  The nonce of a packet is the fixed IV
of the key followed by the packet number; nothing in it names the path.
-/
namespace MpQuic
open List

/-- `packetNumberGenerator`. -/
structure PacketNumberGenerator where
  averagePeriod : Nat
  next : Nat
  nextToSkip : Nat
  deriving DecidableEq, Repr

namespace PacketNumberGenerator

/-- `newPacketNumberGenerator`. -/
def new (averagePeriod : Nat) : PacketNumberGenerator :=
  { averagePeriod, next := 1, nextToSkip := 0 }

/-- `Peek`. -/
def peek (p : PacketNumberGenerator) : Nat := p.next

/-- `generateNewSkip`.  `random` is the outcome of `getRandomNumber`: a 16-bit
number, or nothing when reading random bytes failed. -/
def generateNewSkip (p : PacketNumberGenerator) (random : Option UInt16) :
    PacketNumberGenerator :=
  match random with
  | none => p
  | some num =>
    let skip := num.toNat * sub64 p.averagePeriod 1 % 2 ^ 64 / 32767
    { p with nextToSkip := add64 p.next (2 + skip) }

/-- `Pop`: the number for this packet, and the generator for the next one. -/
def pop (p : PacketNumberGenerator) (random : Option UInt16) : Nat × PacketNumberGenerator :=
  let next := add64 p.next 1
  if next = p.nextToSkip then
    (p.next, { p with next := add64 next 1 }.generateNewSkip random)
  else (p.next, { p with next })

@[simp] theorem pop_fst (p : PacketNumberGenerator) (random : Option UInt16) :
    (p.pop random).1 = p.peek := by
  unfold pop
  dsimp only
  split <;> rfl

@[simp] theorem generateNewSkip_next (p : PacketNumberGenerator) (random : Option UInt16) :
    (p.generateNewSkip random).next = p.next := by
  cases random <;> rfl

/-- While the 64-bit counter does not wrap, `Pop` moves past the number it returns. -/
theorem lt_pop_next (p : PacketNumberGenerator) (random : Option UInt16)
    (h : p.next + 2 < 2 ^ 64) : p.next < (p.pop random).2.next := by
  have hone : add64 p.next 1 = p.next + 1 := add64_of_lt (by omega)
  have htwo : add64 (p.next + 1) 1 = p.next + 2 := add64_of_lt (by omega)
  unfold pop
  dsimp only
  split
  · rw [generateNewSkip_next, hone]
    dsimp only
    omega
  · dsimp only
    omega

/-! ## Skipped numbers -/

/-- The numbers that calls of `Pop` return. -/
def numbers (p : PacketNumberGenerator) : List UInt16 → List Nat
  | [] => []
  | r :: rs => (p.pop (some r)).1 :: (p.pop (some r)).2.numbers rs

/-- The generator after the calls. -/
def after (p : PacketNumberGenerator) (randoms : List UInt16) : PacketNumberGenerator :=
  randoms.foldl (fun p r => (p.pop (some r)).2) p

/-- What a new generator is meant to do: the numbers go up from 1, of two in a row at least one is
issued, and among `2 * period + 4` that are issued in a row at least one is left out. -/
structure Skipping (period : Nat) (randoms : List UInt16) : Prop where
  start : ∀ n ∈ ((new period).numbers randoms).head?, n = 1
  increasing : ((new period).numbers randoms).Pairwise (· < ·)
  peek : ∀ r, (((new period).after randoms).pop (some r)).1 = ((new period).after randoms).peek
  apart : ∀ k, 0 < k → k + 1 < ((new period).after randoms).peek →
    k ∈ (new period).numbers randoms ∨ k + 1 ∈ (new period).numbers randoms
  dense : ∀ i first last, ((new period).numbers randoms)[i]? = some first →
    ((new period).numbers randoms)[i + (2 * period + 3)]? = some last →
      ∃ k ∉ (new period).numbers randoms, first < k ∧ k < last

theorem numbers_append (p : PacketNumberGenerator) (rs rs' : List UInt16) :
    p.numbers (rs ++ rs') = p.numbers rs ++ (p.after rs).numbers rs' := by
  induction rs generalizing p with
  | nil => rfl
  | cons r rs ih => exact congrArg (_ :: ·) (ih _)

/-- Without a number to skip, the numbers are issued in order. -/
theorem numbers_of_nextToSkip {p : PacketNumberGenerator} (hskip : p.nextToSkip = 0)
    (rs : List UInt16) (hlt : p.next + rs.length < 2 ^ 64) :
    p.numbers rs = range' p.next rs.length ∧
      p.after rs = { p with next := p.next + rs.length } := by
  induction rs generalizing p with
  | nil => exact ⟨rfl, rfl⟩
  | cons r rs ih =>
    rw [length_cons] at hlt ⊢
    have hpop : p.pop (some r) = (p.next, { p with next := p.next + 1 }) := by
      rw [pop, add64_of_lt (by omega), hskip]
      exact if_neg (Nat.succ_ne_zero _)
    obtain ⟨hnumbers, hafter⟩ := @ih { p with next := p.next + 1 } hskip (by dsimp only; omega)
    rw [numbers, after, foldl_cons, hpop, hnumbers, range'_succ]
    refine ⟨rfl, hafter.trans ?_⟩
    rw [Nat.add_right_comm, Nat.add_assoc]

/-- **A new generator skips no number**: `generateNewSkip` is called only when the number to skip is
reached, and that is 0 at first. -/
theorem skipping_iff (period : Nat) (hperiod : 1 < period ∧ period < 2 ^ 32)
    (randoms : List UInt16) :
    (Skipping period randoms ↔ randoms.length < 2 * period + 4) ∧
      (randoms.length + 1 < 2 ^ 64 →
        (new period).numbers randoms = range' 1 randoms.length) := by
  have hnew (rs : List UInt16) (hlt : rs.length + 1 < 2 ^ 64) :=
    numbers_of_nextToSkip (p := new period) rfl rs (by rw [Nat.add_comm] at hlt; exact hlt)
  refine ⟨⟨fun h => ?_, fun hlt => ?_⟩, fun hlt => (hnew randoms hlt).1⟩
  · by_contra hge
    have hlen : (randoms.take (2 * period + 4)).length = 2 * period + 4 :=
      length_take_of_le (not_lt.mp hge)
    have hfirst := (hnew (randoms.take (2 * period + 4)) (by omega)).1
    have hsplit := (new period).numbers_append (randoms.take (2 * period + 4))
      (randoms.drop (2 * period + 4))
    rw [take_append_drop, hfirst, hlen] at hsplit
    have hget (i : Nat) (hi : i < 2 * period + 4) :
        ((new period).numbers randoms)[i]? = some (1 + i) := by
      rw [hsplit, getElem?_append_left (by rwa [length_range']), getElem?_range' hi,
        Nat.one_mul]
      rfl
    obtain ⟨k, hk, hlow, hhigh⟩ := h.dense 0 _ _ (hget _ (by omega)) (hget _ (by omega))
    rw [hsplit] at hk
    exact hk (mem_append_left _ (mem_range'_1.mpr ⟨hlow.le, show k < 1 + _ by omega⟩))
  · obtain ⟨hnumbers, hafter⟩ := hnew randoms (by omega)
    refine ⟨fun n hn => ?_, ?_, fun _ => pop_fst _ _, fun k hpos hk => ?_, fun i _ last _ hi => ?_⟩
    · cases randoms with
      | nil => cases hn
      | cons r rs => exact (Option.mem_some_iff.mp hn).symm.trans (pop_fst ..)
    · rw [hnumbers]
      exact pairwise_lt_range'
    · rw [hafter] at hk
      rw [hnumbers]
      change k + 1 < 1 + randoms.length at hk
      exact .inl (mem_range'_1.mpr ⟨hpos, show k < 1 + _ by omega⟩)
    · obtain ⟨hi, -⟩ := List.getElem?_eq_some_iff.mp hi
      rw [hnumbers, length_range'] at hi
      omega

/-- With the period 2 the numbers from 1 to 8 are issued, and none is skipped. -/
theorem no_number_skipped : (new 2).numbers (replicate 8 0) = [1, 2, 3, 4, 5, 6, 7, 8] ∧
    ¬Skipping 2 (replicate 8 0) := by
  have hnumbers : (new 2).numbers (replicate 8 0) = [1, 2, 3, 4, 5, 6, 7, 8] := by decide
  refine ⟨hnumbers, fun h => ?_⟩
  obtain ⟨k, hk, hlow, hhigh⟩ := h.dense 0 1 8 (by rw [hnumbers]; rfl) (by rw [hnumbers]; rfl)
  rw [hnumbers] at hk
  refine hk ?_
  simp only [mem_cons, not_mem_nil, or_false]
  omega

theorem skipping_of_short_run : Skipping 2 [0, 65535, 7] :=
  (skipping_iff 2 (by decide) [0, 65535, 7]).1.mpr (by decide)

end PacketNumberGenerator

/-- `aeadAESGCM12.makeNonce`: four bytes of IV, then the packet number in little endian. -/
def makeNonce (iv : List Byte) (packetNumber : Nat) : List Byte :=
  (iv ++ replicate 4 0).take 4 ++ ByteOrder.littleEndian.writeUintN 8 packetNumber

/-- With one IV, the nonce determines the packet number. -/
theorem makeNonce_injective {iv : List Byte} {m n : Nat} (hm : m < 2 ^ 64) (hn : n < 2 ^ 64)
    (h : makeNonce iv m = makeNonce iv n) : m = n :=
  ByteOrder.littleEndian.writeUintN_injective (n := 8) hm hn (append_cancel_left h)

end MpQuic
