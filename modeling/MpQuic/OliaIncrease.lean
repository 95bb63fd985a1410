import Mathlib.Tactic.GCongr
import Mathlib.Tactic.Linarith
import Mathlib.Tactic.Positivity
import Mathlib.Tactic.Zify
import MpQuic.OliaEpsilon

/-!
# The increase of an OLIA window

In congestion avoidance `maybeIncreaseCwnd` multiplies the square of the sum of all rates by
the window and the denominator of the shift.  With windows of up to 2500 packets and
round-trip times between a millisecond and ten seconds the sum and the term of the own window
fit 64 bits for any number of paths, but the square of the sum need not, and neither need the
squared round-trip times and the products with which `getEpsilon` compares two paths.  Nothing
wraps around exactly if these products of the comparisons fit, and two of the increase.
-/
namespace MpQuic.Congestion
open List

/-- The term of the own window fits 64 bits. -/
theorem squareTerm_lt {den window : Int} (hden₀ : 0 ≤ den) (hden : den ≤ 2 ^ 16)
    (hwindow : 0 ≤ window) (hmax : window ≤ 2500) :
    (0 ≤ den * (window * 2 ^ 10) ∧ den * (window * 2 ^ 10) < 2 ^ 64) ∧
      0 ≤ den * (window * 2 ^ 10) * (window * 2 ^ 10) ∧
      den * (window * 2 ^ 10) * (window * 2 ^ 10) < 2 ^ 64 := by
  have hprod : den * (window * 2 ^ 10) ≤ 2 ^ 16 * (2500 * 2 ^ 10) := by gcongr
  have hsquare : den * (window * 2 ^ 10) * (window * 2 ^ 10) ≤
      2 ^ 16 * (2500 * 2 ^ 10) * (2500 * 2 ^ 10) := by gcongr
  exact ⟨⟨by positivity, by omega⟩, by positivity, by omega⟩

theorem Olia.squareTerm_eq (A : Arithmetic) {o : Olia} {window : Int} (hwindow : 0 ≤ window)
    (hmax : window ≤ 2500) (hden : (o.epsilonDen : Int) ≤ 2 ^ 16) :
    o.squareTerm A (window * 2 ^ 10) = o.epsilonDen * (window * 2 ^ 10) ^ 2 := by
  obtain ⟨hprod, hsquare⟩ := squareTerm_lt (Int.natCast_nonneg _) hden hwindow hmax
  rw [Olia.squareTerm, A.uint64_eq _ hprod.1 hprod.2, A.uint64_eq _ hsquare.1 hsquare.2]
  ring

/-- The window after an acknowledgement depends on the arithmetic through the counter only. -/
theorem Olia.congestionWindowAfterAck_congr {A A' : Arithmetic} {o : Olia}
    {window rate scaled : Int}
    (hcounter : o.counterAfterAck A window rate scaled = o.counterAfterAck A' window rate scaled)
    (hwindow : 1 ≤ window) (hmax : window ≤ 2500) :
    o.congestionWindowAfterAck A window rate scaled =
      o.congestionWindowAfterAck A' window rate scaled := by
  have hwindow' (B : Arithmetic) :
      B.uint64 (window + 1) = window + 1 ∧ B.uint64 (window - 1) = window - 1 :=
    ⟨B.uint64_eq _ (by omega) (by omega), B.uint64_eq _ (by omega) (by omega)⟩
  simp only [Olia.congestionWindowAfterAck, hcounter, (hwindow' A).1, (hwindow' A).2,
    (hwindow' A').1,
    (hwindow' A').2]

namespace OliaSenders

/-- Windows between 1 and `DefaultMaxCongestionWindow`, and round-trip times between a millisecond
and ten seconds. -/
structure InRange (t : OliaSenders) : Prop where
  window : ∀ id ∈ t.ids, 1 ≤ (t.sender id).congestionWindow ∧ (t.sender id).congestionWindow ≤ 2500
  rtt : ∀ id ∈ t.ids, 10 ^ 6 ≤ (t.sender id).smoothedRTT ∧ (t.sender id).smoothedRTT ≤ 10 ^ 10

/-- `maybeIncreaseCwnd` of path `id` comes to the formulas of OLIA. -/
structure InCongestionAvoidance (t : OliaSenders) (id bytesInFlight : Nat) : Prop where
  limited : (t.sender id).IsCwndLimited bytesInFlight
  below : (t.sender id).congestionWindow < (t.sender id).maxTCPCongestionWindow
  not_slow : ¬(t.sender id).InSlowStart

section Computed
variable (A : Arithmetic) (t : OliaSenders) (orders : Orders t.ids) (id : Nat)

/-- The state of path `id` after `getEpsilon`. -/
def oliaAfter : Olia := ((t.getEpsilon A orders).sender id).olia

/-- The rate that `maybeIncreaseCwnd` of path `id` computes. -/
def rate : Int := (t.getEpsilon A orders).getRate A orders.rate (t.sender id).smoothedRTT

/-- The denominator of the increase. -/
def incDen : Int :=
  (t.oliaAfter A orders id).incDen A (t.sender id).congestionWindow (t.rate A orders id)

/-- The scaled numerator of the increase. -/
def increment : Int :=
  oliaScale A ((t.oliaAfter A orders id).incNum A (t.rate A orders id)
    (oliaScale A (t.sender id).congestionWindow))

end Computed

variable {A : Arithmetic} {t : OliaSenders} {orders : Orders t.ids} {id bytesInFlight : Nat}

/-! ## The products of a run -/

/-- The products of one comparison of `getEpsilon`. -/
def comparison (t : OliaSenders) (best : Best) (id : Nat) : List Int :=
  [(t.sender id).bytes * best.rtt, best.bytes * (t.sender id).squaredRTT .unbounded]

/-- The products of the first loop of `getEpsilon`. -/
def bestProducts (t : OliaSenders) : Best → List Nat → List Int
  | _, [] => []
  | best, id :: rest =>
    t.comparison best id ++ t.bestProducts (t.bestRound .unbounded best id) rest

/-- The products of `getEpsilon` in 64 bits.  The third loop compares no sender that the second does
not compare. -/
def epsilonProducts (t : OliaSenders) (orders : Orders t.ids) : List Int :=
  t.ids.map (fun id => (t.sender id).squaredRTT .unbounded) ++ t.bestProducts ⟨0, 0⟩ orders.best ++
    (t.ids.filter fun id => (t.sender id).congestionWindow ≠ t.getMaxCwnd orders.max).flatMap
      (t.comparison (t.findBest .unbounded orders.best))

/-- The shift and the product of one round of `getRate` for path `id`. -/
def rateProducts (t : OliaSenders) (id j : Nat) : List Int :=
  [(t.sender j).congestionWindow * 2 ^ 10,
    (t.sender j).congestionWindow * 2 ^ 10 * (t.sender id).smoothedRTT]

/-- The products, the square and the shifts of `getRate` and `CongestionWindowAfterAck` for path
`id`. -/
def increaseProducts (t : OliaSenders) (orders : Orders t.ids) (id : Nat) : List Int :=
  let o := t.oliaAfter .unbounded orders id
  let cwnd : Int := (t.sender id).congestionWindow
  let cwndScaled := cwnd * 2 ^ 10
  let rate := t.rate .unbounded orders id
  t.ids.flatMap (t.rateProducts id) ++
    [rate, o.epsilonDen * cwnd, o.epsilonDen * cwnd * rate, o.epsilonDen * cwndScaled,
      o.epsilonDen * cwndScaled * cwndScaled, t.increment .unbounded orders id] ++
    if o.epsilonNum = -1 then [] else [o.epsilonNum * rate]

/-- No product, square or shift of the run wraps around, and window and counter are those of the
same formulas over the integers. -/
structure ComputedExactly (t : OliaSenders) (orders : Orders t.ids) (id bytesInFlight : Nat) :
    Prop where
  epsilon : ∀ x ∈ t.epsilonProducts orders, 0 ≤ x ∧ x < 2 ^ 63
  increase : ∀ x ∈ t.increaseProducts orders id, 0 ≤ x ∧ x < 2 ^ 64
  window : ((t.maybeIncreaseCwnd .machine orders id bytesInFlight).sender id).congestionWindow =
    ((t.maybeIncreaseCwnd .unbounded orders id bytesInFlight).sender id).congestionWindow
  counter : ((t.maybeIncreaseCwnd .machine orders id bytesInFlight).sender id).olia.sndCwndCnt =
    ((t.maybeIncreaseCwnd .unbounded orders id bytesInFlight).sender id).olia.sndCwndCnt

/-! ## The exact values -/

/-- The rate of path `j`, scaled, in windows per round-trip time of path `id`. -/
def scaledRate (t : OliaSenders) (id j : Nat) : Int :=
  (t.sender j).congestionWindow * 2 ^ 10 * (t.sender id).smoothedRTT / (t.sender j).smoothedRTT

/-- The sum of the rates, which `getRate` squares. -/
def totalRate (t : OliaSenders) (id : Nat) : Int := 1 + (t.ids.map (t.scaledRate id)).sum

/-- The shift of the OLIA definition for path `id`. -/
def exactShift (t : OliaSenders) (id : Nat) : Int × Nat := shift t.ids t.IsLargest t.Maximises id

/-- The denominator of the increase. -/
def exactDen (t : OliaSenders) (id : Nat) : Int :=
  (t.exactShift id).2 * (t.sender id).congestionWindow * t.totalRate id ^ 2

/-- The scaled numerator of the increase, up to its sign. -/
def exactIncrement (t : OliaSenders) (id : Nat) : Int :=
  |(t.exactShift id).1 * t.totalRate id ^ 2 +
    (t.exactShift id).2 * ((t.sender id).congestionWindow * 2 ^ 10) ^ 2| * 2 ^ 10

/-- The two products fit 64 bits. -/
def Fits (t : OliaSenders) (id : Nat) : Prop :=
  t.exactDen id < 2 ^ 64 ∧ t.exactIncrement id < 2 ^ 64

instance : Decidable (t.Fits id) := inferInstanceAs (Decidable (_ ∧ _))

/-- The squares of the round-trip times and the products of the comparisons fit 63 bits.  A path is
compared with every other one, and with itself if it is one of the best and its window is not a
largest one. -/
structure ComparisonsFit (t : OliaSenders) : Prop where
  square : ∀ a ∈ t.ids, (t.sender a).smoothedRTT ^ 2 < 2 ^ 63
  product : ∀ a ∈ t.ids, ∀ b ∈ t.ids, a ≠ b ∨ t.Maximises a ∧ ¬t.IsLargest a →
    (t.sender a).bytes * (t.sender b).smoothedRTT ^ 2 < 2 ^ 63

instance : Decidable t.ComparisonsFit :=
  decidable_of_iff ((∀ a ∈ t.ids, (t.sender a).smoothedRTT ^ 2 < 2 ^ 63) ∧
    ∀ a ∈ t.ids, ∀ b ∈ t.ids, a ≠ b ∨ t.Maximises a ∧ ¬t.IsLargest a →
      (t.sender a).bytes * (t.sender b).smoothedRTT ^ 2 < 2 ^ 63)
    ⟨fun h => ⟨h.1, h.2⟩, fun h => ⟨h.square, h.product⟩⟩

namespace InRange
variable (h : t.InRange)
include h

theorem rtt_pos {j : Nat} (hj : j ∈ t.ids) : 0 < (t.sender j).smoothedRTT :=
  lt_of_lt_of_le (by norm_num) (h.rtt j hj).1

/-- The numerator of a rate fits 64 bits. -/
theorem numerator_le (hid : id ∈ t.ids) {j : Nat} (hj : j ∈ t.ids) :
    0 ≤ (t.sender j).congestionWindow * 2 ^ 10 * (t.sender id).smoothedRTT ∧
      (t.sender j).congestionWindow * 2 ^ 10 * (t.sender id).smoothedRTT ≤
        (2500 * 2 ^ 10 * 10 ^ 10 : Int) := by
  have hpos := h.rtt_pos hid
  have hwindow : ((t.sender j).congestionWindow : Int) ≤ 2500 := by exact_mod_cast (h.window j hj).2
  have hrtt := (h.rtt id hid).2
  exact ⟨by positivity, by gcongr⟩

theorem scaledRate_le (hid : id ∈ t.ids) {j : Nat} (hj : j ∈ t.ids) :
    0 ≤ t.scaledRate id j ∧ t.scaledRate id j ≤ 25600000000 := by
  obtain ⟨hnonneg, hle⟩ := h.numerator_le hid hj
  have hrtt := (h.rtt j hj).1
  exact ⟨Int.ediv_nonneg hnonneg (h.rtt_pos hj).le,
    Int.ediv_le_of_le_mul (h.rtt_pos hj) (by omega)⟩

/-- The loop of `getRate` adds up the rates exactly, whatever the arithmetic. -/
theorem foldl_rateRound (A : Arithmetic) (hid : id ∈ t.ids) {order : List Nat}
    (horder : order.Perm t.ids) :
    order.foldl (t.rateRound A (t.sender id).smoothedRTT) 1 = t.totalRate id := by
  have hlen : order.length ≤ 2 ^ 8 := horder.length_eq ▸ t.length_ids_le
  rw [totalRate, ← (horder.map _).sum_eq]
  refine (Systems.foldl_along (s := (1 : Int)) (P := fun seen rate =>
    rate = 1 + (seen.map (t.scaledRate id)).sum ∧ 1 ≤ rate ∧
      rate ≤ 1 + seen.length * 25600000000) ⟨rfl, le_rfl, le_rfl⟩ order ?_).1
  · rintro seen j rate hinit ⟨hsum, hone, hle⟩
    have hj : j ∈ t.ids := horder.mem_iff.mp (hinit.subset (by simp))
    have hseen : seen.length + 1 ≤ 2 ^ 8 := by
      have := hinit.length_le
      rw [length_append, length_singleton] at this
      omega
    obtain ⟨hnonneg, hnum⟩ := h.numerator_le hid hj
    obtain ⟨hrate₀, hrate⟩ := h.scaledRate_le hid hj
    have hwindow := (h.window j hj).2
    have hrtt := h.rtt id hid
    have hrtt' := h.rtt j hj
    have hround : t.rateRound A (t.sender id).smoothedRTT rate j = rate + t.scaledRate id j := by
      rw [rateRound, if_pos (h.rtt_pos hj).ne', oliaScale,
        A.uint64_eq (_ * 2 ^ 10) (by omega) (by omega),
        A.uint64_eq (t.sender id).smoothedRTT (by omega) (by omega),
        A.uint64_eq (t.sender j).smoothedRTT (by omega) (by omega),
        A.uint64_eq (_ * _) hnonneg (by omega), ← scaledRate, A.uint64_eq _ (by omega) (by omega)]
    rw [hround, map_append, sum_append, map_singleton, sum_singleton,
      length_append, length_singleton, hsum]
    push_cast
    exact ⟨by ring, by omega, by omega⟩

/-- The sum counts the own rate. -/
theorem totalRate_ge (hid : id ∈ t.ids) : 1025 ≤ t.totalRate id := by
  have hown : 1024 ≤ t.scaledRate id id := by
    have hwindow := (h.window id hid).1
    rw [scaledRate, Int.mul_ediv_cancel _ (h.rtt_pos hid).ne']
    omega
  have hle := single_le_sum (l := t.ids.map (t.scaledRate id)) (fun x hx => by
    obtain ⟨j, hj, rfl⟩ := mem_map.mp hx
    exact (h.scaledRate_le hid hj).1) _ (mem_map_of_mem hid)
  rw [totalRate]
  omega

end InRange

/-! ## The computed values -/

/-- The conversions keep the two products, and what is smaller than one of them. -/
def Keeps (A : Arithmetic) (t : OliaSenders) (id : Nat) : Prop :=
  ∀ x, 0 ≤ x → x < 2 ^ 64 ∨ x ≤ t.exactDen id ∨ x ≤ t.exactIncrement id → A.uint64 x = x

theorem keeps_unbounded (t : OliaSenders) (id : Nat) : t.Keeps .unbounded id := fun _ _ _ => rfl

theorem Fits.keeps (hfits : t.Fits id) (A : Arithmetic) : t.Keeps A id := by
  obtain ⟨hden, hinc⟩ := hfits
  intro x hx hle
  exact A.uint64_eq x hx (by omega)

/-- `getEpsilon` writes nothing that `getRate` reads. -/
theorem InRange.rate_eq (h : t.InRange) (hid : id ∈ t.ids) :
    t.rate A orders id = A.uint64 (t.totalRate id * t.totalRate id) := by
  have hfold : orders.rate.foldl ((t.getEpsilon A orders).rateRound A (t.sender id).smoothedRTT) 1 =
      orders.rate.foldl (t.rateRound A (t.sender id).smoothedRTT) 1 := by
    refine foldl_ext _ _ _ fun rate j hj => ?_
    rw [rateRound, rateRound, getEpsilon_sender A t orders (orders.rate_perm.mem_iff.mp hj)]
    rfl
  rw [rate, getRate, hfold, h.foldl_rateRound A hid orders.rate_perm]

theorem oliaAfter_eq (hid : id ∈ t.ids)
    (hbest : ∀ j ∈ t.ids, t.TreatedAsBest A orders j ↔ t.Maximises j) :
    t.oliaAfter A orders id = ((t.sender id).setEpsilon (t.exactShift id)).olia := by
  rw [oliaAfter, getEpsilon_sender A t orders hid, exactShift, shift_congr hbest hid]

section Values
variable (h : t.InRange) (hid : id ∈ t.ids) (hkeeps : t.Keeps A id)
include h hid

theorem exactDen_bounds : 0 < (t.exactShift id).2 ∧ (t.exactShift id).2 ≤ 2 ^ 16 ∧
    t.totalRate id ^ 2 ≤ t.exactDen id ∧
    ((t.exactShift id).2 * (t.sender id).congestionWindow : Int) ≤ t.exactDen id := by
  have hpos : 0 < (t.exactShift id).2 := shift_den_pos hid
  have hle : (t.exactShift id).2 ≤ 2 ^ 8 * 2 ^ 8 :=
    (shift_den_le hid).trans (Nat.mul_le_mul t.length_ids_le t.length_ids_le)
  have hone : (1 : Int) ≤ (t.exactShift id).2 * (t.sender id).congestionWindow := by
    exact_mod_cast Nat.mul_pos hpos (h.window id hid).1
  have hrate : 1 ≤ t.totalRate id ^ 2 := by
    have := h.totalRate_ge hid
    nlinarith
  exact ⟨hpos, hle, le_mul_of_one_le_left (by omega) hone, le_mul_of_one_le_right (by omega) hrate⟩

/-- The term of the own window. -/
theorem squareTerm_eq (hbest : ∀ j ∈ t.ids, t.TreatedAsBest A orders j ↔ t.Maximises j) :
    oliaScale A (t.sender id).congestionWindow = (t.sender id).congestionWindow * 2 ^ 10 ∧
    (t.oliaAfter A orders id).squareTerm A ((t.sender id).congestionWindow * 2 ^ 10) =
      (t.exactShift id).2 * ((t.sender id).congestionWindow * 2 ^ 10) ^ 2 := by
  obtain ⟨-, hle, -⟩ := exactDen_bounds h hid
  have hwindow := h.window id hid
  refine ⟨A.uint64_eq _ (by omega) (by omega), ?_⟩
  rw [oliaAfter_eq hid hbest]
  exact Olia.squareTerm_eq A (by omega) (by omega) (by exact_mod_cast hle)

include hkeeps

theorem rate_exact : t.rate A orders id = t.totalRate id ^ 2 := by
  obtain ⟨-, -, hrate, -⟩ := exactDen_bounds h hid
  rw [h.rate_eq hid, ← sq]
  exact hkeeps _ (sq_nonneg _) (.inr (.inl hrate))

variable (hbest : ∀ j ∈ t.ids, t.TreatedAsBest A orders j ↔ t.Maximises j)
include hbest

theorem incDen_exact : t.incDen A orders id = t.exactDen id := by
  obtain ⟨hpos, -, hrate, hden⟩ := exactDen_bounds h hid
  have hge := h.totalRate_ge hid
  have hden₀ : 0 < t.exactDen id := lt_of_lt_of_le (by positivity) hrate
  rw [incDen, Olia.incDen, rate_exact h hid hkeeps, oliaAfter_eq hid hbest, OliaSender.setEpsilon]
  rw [hkeeps (_ * _) (by positivity) (.inr (.inl hden)), ← exactDen,
    hkeeps _ hden₀.le (.inr (.inl le_rfl)), if_neg hden₀.ne']

/-- The increment is computed exactly, whatever the sign of the epsilon. -/
theorem increment_exact : t.increment A orders id = t.exactIncrement id := by
  obtain ⟨-, -, hrate, -⟩ := exactDen_bounds h hid
  obtain ⟨hscale, hsquare⟩ := squareTerm_eq h hid hbest
  have hnum : (t.exactShift id).1 = -1 ∨ (t.exactShift id).1 = 0 ∨ (t.exactShift id).1 = 1 :=
    shift_num id
  have hrate₀ : 0 ≤ t.totalRate id ^ 2 := sq_nonneg _
  have hsquare₀ : (0 : Int) ≤
      (t.exactShift id).2 * ((t.sender id).congestionWindow * 2 ^ 10) ^ 2 := by
    positivity
  have hepsilon : (t.oliaAfter A orders id).epsilonNum = (t.exactShift id).1 := by
    rw [oliaAfter_eq hid hbest, OliaSender.setEpsilon]
  have hincrement : t.exactIncrement id = |(t.exactShift id).1 * t.totalRate id ^ 2 +
      (t.exactShift id).2 * ((t.sender id).congestionWindow * 2 ^ 10) ^ 2| * 2 ^ 10 := rfl
  suffices hincNum : (t.oliaAfter A orders id).incNum A (t.totalRate id ^ 2)
      ((t.sender id).congestionWindow * 2 ^ 10) = |(t.exactShift id).1 * t.totalRate id ^ 2 +
        (t.exactShift id).2 * ((t.sender id).congestionWindow * 2 ^ 10) ^ 2| by
    rw [increment, hscale, rate_exact h hid hkeeps, hincNum, oliaScale]
    exact hkeeps _ (by positivity) (.inr (.inr le_rfl))
  rw [Olia.incNum, hsquare, hepsilon]
  generalize ((t.exactShift id).2 * ((t.sender id).congestionWindow * 2 ^ 10) ^ 2 : Int) = D at *
  generalize t.totalRate id ^ 2 = R at *
  rcases hnum with hnum | hnum | hnum
  · rw [hnum] at hincrement ⊢
    rw [if_pos rfl]
    split
    · next hlt =>
      rw [hkeeps (R - D) (by omega) (by omega), abs_of_nonpos (by omega)]
      ring
    · next hge =>
      rw [abs_of_nonneg (by omega)] at hincrement ⊢
      rw [hkeeps (D - R) (by omega) (by omega)]
      ring
  · rw [hnum, abs_of_nonneg (by omega)] at hincrement
    rw [hnum, if_neg (by decide), abs_of_nonneg (by omega), A.uint64_eq 0 le_rfl (by decide),
      hkeeps (0 * R) (by omega) (by omega), hkeeps _ (by omega) (by omega)]
  · rw [hnum, abs_of_nonneg (by omega)] at hincrement
    rw [hnum, if_neg (by decide), abs_of_nonneg (by omega), A.uint64_eq 1 (by decide) (by decide),
      hkeeps (1 * R) (by omega) (by omega), hkeeps _ (by omega) (by omega)]

end Values

/-- If the two products fit, the counter is moved by their quotient. -/
theorem counterAfterAck_exact (h : t.InRange) (hid : id ∈ t.ids) (hfits : t.Fits id)
    (hbest : ∀ j ∈ t.ids, t.TreatedAsBest A orders j ↔ t.Maximises j) :
    (t.oliaAfter A orders id).counterAfterAck A (t.sender id).congestionWindow (t.rate A orders id)
        (oliaScale A (t.sender id).congestionWindow) =
      if (t.exactShift id).1 = -1 ∧ (t.exactShift id).2 *
          ((t.sender id).congestionWindow * 2 ^ 10 : Int) ^ 2 < t.totalRate id ^ 2 then
        (t.sender id).olia.sndCwndCnt - t.exactIncrement id / t.exactDen id
      else (t.sender id).olia.sndCwndCnt + t.exactIncrement id / t.exactDen id := by
  have hkeeps := hfits.keeps A
  obtain ⟨hscale, hsquare⟩ := squareTerm_eq h hid hbest
  have hden : 1025 ^ 2 ≤ t.exactDen id :=
    (pow_le_pow_left₀ (by decide) (h.totalRate_ge hid) 2).trans (exactDen_bounds h hid).2.2.1
  have hinc₀ : 0 ≤ t.exactIncrement id := by
    rw [exactIncrement]
    positivity
  have hquot₀ : 0 ≤ t.exactIncrement id / t.exactDen id := Int.ediv_nonneg hinc₀ (by omega)
  have hquot : t.exactIncrement id / t.exactDen id ≤ 2 ^ 62 :=
    Int.ediv_le_of_le_mul (by omega) (by have := hfits.2; omega)
  have hcounter := (t.sender id).olia.counter_lt
  have hterm : A.int64 (t.increment A orders id / t.incDen A orders id) =
      t.exactIncrement id / t.exactDen id := by
    rw [increment_exact h hid hkeeps hbest, incDen_exact h hid hkeeps hbest]
    exact A.int64_eq _ (by omega) (by omega)
  have hnum : (t.oliaAfter A orders id).epsilonNum = (t.exactShift id).1 := by
    rw [oliaAfter_eq hid hbest, OliaSender.setEpsilon]
  have hcnt : (t.oliaAfter A orders id).sndCwndCnt = (t.sender id).olia.sndCwndCnt := by
    rw [oliaAfter_eq hid hbest, OliaSender.setEpsilon]
  rw [Olia.counterAfterAck, ← increment, ← incDen, hterm]
  simp only [Olia.Decreases, hscale, hsquare, rate_exact h hid hkeeps, hnum, hcnt]
  split
  · exact A.int64_eq _ (by omega) (by omega)
  · exact A.int64_eq _ (by omega) (by omega)

theorem maybeIncreaseCwnd_avoiding (havoid : t.InCongestionAvoidance id bytesInFlight)
    (hid : id ∈ t.ids) :
    (t.maybeIncreaseCwnd A orders id bytesInFlight).sender id =
      let result := (t.oliaAfter A orders id).congestionWindowAfterAck A
        (t.sender id).congestionWindow (t.rate A orders id)
        (oliaScale A (t.sender id).congestionWindow)
      { t.sender id with
        congestionWindow := min (t.sender id).maxTCPCongestionWindow result.1.toNat
        olia := result.2 } := by
  have hsender := getEpsilon_sender A t orders hid
  rw [maybeIncreaseCwnd, if_neg (not_not.mpr havoid.limited), if_neg (not_le.mpr havoid.below),
    if_neg havoid.not_slow,
    set_sender_self, oliaAfter, rate, hsender]
  rfl

/-! ## Which products fit -/

section Products
variable (hrtt : ∀ id ∈ t.ids, 0 < (t.sender id).smoothedRTT)
include hrtt

/-- Where nothing wraps around, the comparison separates the best paths. -/
theorem ComparisonsFit.separates (hfit : t.ComparisonsFit) : t.Separates .machine := by
  intro a ha hmax b hb hnb hle
  have hne : a ≠ b := fun heq => hnb (heq ▸ hmax)
  have hexact {a b : Nat} (ha : a ∈ t.ids) (hb : b ∈ t.ids) (hne : a ≠ b) :
      Arithmetic.machine.int64 ((t.sender a).bytes * (t.sender b).smoothedRTT ^ 2) =
        (t.sender a).bytes * (t.sender b).smoothedRTT ^ 2 := by
    refine Arithmetic.machine.int64_eq _ ?_ (hfit.product a ha b hb (.inl hne))
    exact le_trans (by decide) (by positivity : (0 : Int) ≤ _)
  refine separates_unbounded hrtt a ha hmax b hb hnb ((atLeast_asBest_iff ..).mpr ?_)
  rw [atLeast_asBest_iff, hexact ha hb hne, hexact hb ha hne.symm] at hle
  exact hle

omit hrtt in
theorem mem_comparison_asBest {a b : Nat} {x : Int} :
    x ∈ t.comparison (t.asBest .unbounded a) b ↔
      x = (t.sender b).bytes * (t.sender a).smoothedRTT ^ 2 ∨
        x = (t.sender a).bytes * (t.sender b).smoothedRTT ^ 2 := by
  simp [comparison, asBest, OliaSender.squaredRTT, Arithmetic.unbounded, sq]

omit hrtt in
theorem ComparisonsFit.comparison (hfit : t.ComparisonsFit) {a b : Nat} (ha : a ∈ t.ids)
    (hb : b ∈ t.ids) (hab : a ≠ b ∨ t.Maximises a ∧ ¬t.IsLargest a) {x : Int}
    (hx : x ∈ t.comparison (t.asBest .unbounded a) b) : 0 ≤ x ∧ x < 2 ^ 63 := by
  rcases mem_comparison_asBest.mp hx with rfl | rfl
  · refine ⟨by positivity, ?_⟩
    rcases eq_or_ne a b with rfl | hne
    · exact hfit.product a ha a hb hab
    · exact hfit.product b hb a ha (.inl hne.symm)
  · exact ⟨by positivity, hfit.product a ha b hb hab⟩

omit hrtt in
/-- The first loop compares every sender with one it has seen before. -/
theorem ComparisonsFit.bestProducts (hfit : t.ComparisonsFit) {order : List Nat} {best : Best}
    (hnodup : order.Nodup) (horder : ∀ j ∈ order, j ∈ t.ids)
    (hbest : best = ⟨0, 0⟩ ∨ ∃ a ∈ t.ids, a ∉ order ∧ best = t.asBest .unbounded a) :
    ∀ x ∈ t.bestProducts best order, 0 ≤ x ∧ x < 2 ^ 63 := by
  induction order generalizing best with
  | nil => simp [OliaSenders.bestProducts]
  | cons j rest ih =>
    obtain ⟨hj, hnodup⟩ := nodup_cons.mp hnodup
    have hmem : j ∈ t.ids := horder j mem_cons_self
    rw [OliaSenders.bestProducts]
    refine forall_mem_append.mpr ⟨fun x hx => ?_, ih hnodup (fun i hi => horder i (.tail _ hi)) ?_⟩
    · rcases hbest with rfl | ⟨a, ha, hnot, rfl⟩
      · simp_all [OliaSenders.comparison]
      · exact hfit.comparison ha hmem (.inl fun heq => hnot (heq ▸ mem_cons_self)) hx
    · rw [bestRound]
      split
      · exact .inr ⟨j, hmem, hj, rfl⟩
      · rcases hbest with rfl | ⟨a, ha, hnot, rfl⟩
        · exact .inl rfl
        · exact .inr ⟨a, ha, fun h => hnot (.tail _ h), rfl⟩

/-- None of the products of `getEpsilon` wraps around. -/
theorem ComparisonsFit.epsilonProducts (hfit : t.ComparisonsFit) (orders : Orders t.ids) :
    ∀ x ∈ t.epsilonProducts orders, 0 ≤ x ∧ x < 2 ^ 63 := by
  refine forall_mem_append.mpr ⟨forall_mem_append.mpr ⟨?_, ?_⟩, ?_⟩
  · intro x hx
    obtain ⟨a, ha, rfl⟩ := mem_map.mp hx
    have hsquare := hfit.square a ha
    rw [sq] at hsquare
    exact ⟨mul_self_nonneg _, hsquare⟩
  · exact hfit.bestProducts (orders.best_perm.nodup_iff.mpr t.nodup)
      (fun j hj => orders.best_perm.mem_iff.mp hj) (.inl rfl)
  · intro x hx
    obtain ⟨b, hb, hx⟩ := mem_flatMap.mp hx
    obtain ⟨hb, hsmall⟩ := mem_filter.mp hb
    obtain ⟨a, ha, hmax⟩ := exists_maximises (ne_nil_of_mem hb)
    obtain ⟨c, hc, hmc, hbest⟩ :=
      findBest_maximises (separates_unbounded hrtt) orders.best_perm ha hmax
    rw [hbest] at hx
    refine hfit.comparison hc hb ?_ hx
    rcases eq_or_ne c b with rfl | hne
    · exact .inr ⟨hmc, mt (eq_getMaxCwnd_iff orders.max_perm hb).mpr (of_decide_eq_true hsmall)⟩
    · exact .inl hne

omit hrtt in
/-- The first loop visits `a` and `b` first. -/
theorem exists_bestFirst {a b : Nat} (ha : a ∈ t.ids) (hb : b ∈ t.ids) (hne : a ≠ b) :
    ∃ orders : Orders t.ids, ∃ rest, orders.best = a :: b :: rest := by
  have hb' : b ∈ t.ids.erase a := (mem_erase_of_ne hne.symm).mpr hb
  have hperm : (a :: b :: (t.ids.erase a).erase b).Perm t.ids :=
    ((perm_cons_erase hb').symm.cons a).trans (perm_cons_erase ha).symm
  exact ⟨{ t.bestLast ha with best := _, best_perm := hperm }, _, rfl⟩

/-- Every comparison is made in some order. -/
theorem comparisonsFit_of_epsilonProducts
    (h : ∀ orders, ∀ x ∈ t.epsilonProducts orders, 0 ≤ x ∧ x < 2 ^ 63) : t.ComparisonsFit := by
  constructor
  · intro a ha
    rw [sq]
    exact (h (t.bestLast ha) _ (mem_append_left _ (mem_append_left _ (mem_map_of_mem ha)))).2
  · intro a ha b hb hab
    rcases eq_or_ne a b with rfl | hne
    · -- the path is visited last, so that the second loop compares it with itself
      obtain ⟨hmax, hsmall⟩ := hab.resolve_left fun hne => hne rfl
      have hbest := findBest_bestLast ha ((treatedAsBest_iff_maximises hrtt
        (separates_unbounded hrtt) (t.bestLast ha) ha).mpr hmax)
      refine (h (t.bestLast ha) _ (mem_append_right _ (mem_flatMap.mpr ⟨a, mem_filter.mpr
        ⟨ha, decide_eq_true (mt (eq_getMaxCwnd_iff (perm_rfl) ha).mp hsmall)⟩, ?_⟩))).2
      rw [hbest]
      exact mem_comparison_asBest.mpr (.inl rfl)
    · obtain ⟨orders, rest, hfirst⟩ := exists_bestFirst ha hb hne
      refine (h orders _ (mem_append_left _ (mem_append_right _ ?_))).2
      have hround : t.bestRound .unbounded ⟨0, 0⟩ a = t.asBest .unbounded a :=
        if_pos (atLeast_initial _ _)
      rw [hfirst, bestProducts, bestProducts, hround]
      exact mem_append_right _ (mem_append_left _ (mem_comparison_asBest.mpr (.inr rfl)))

end Products

/-- In the given ranges two of the products of `getRate` and `CongestionWindowAfterAck` decide
whether all of them fit. -/
theorem increaseProducts_iff (h : t.InRange) (hid : id ∈ t.ids) (orders : Orders t.ids) :
    (∀ x ∈ t.increaseProducts orders id, 0 ≤ x ∧ x < 2 ^ 64) ↔ t.Fits id := by
  have hkeeps := t.keeps_unbounded id
  have hbest (j : Nat) (hj : j ∈ t.ids) := treatedAsBest_iff_maximises (fun _ => h.rtt_pos)
    (separates_unbounded fun _ => h.rtt_pos) orders hj
  have hproducts : t.increaseProducts orders id = t.ids.flatMap (t.rateProducts id) ++
      [t.totalRate id ^ 2, (t.exactShift id).2 * ((t.sender id).congestionWindow : Int),
        t.exactDen id, (t.exactShift id).2 * ((t.sender id).congestionWindow * 2 ^ 10 : Int),
        (t.exactShift id).2 * ((t.sender id).congestionWindow * 2 ^ 10 : Int) *
          ((t.sender id).congestionWindow * 2 ^ 10), t.exactIncrement id] ++
      if (t.exactShift id).1 = -1 then [] else [(t.exactShift id).1 * t.totalRate id ^ 2] := by
    rw [increaseProducts, rate_exact h hid hkeeps, increment_exact h hid hkeeps hbest,
      oliaAfter_eq hid hbest]
    rfl
  rw [hproducts]
  constructor
  · intro hall
    exact ⟨(hall (t.exactDen id) (by simp)).2, (hall (t.exactIncrement id) (by simp)).2⟩
  · rintro ⟨hden, hinc⟩
    obtain ⟨hpos, hle, hrate, hdenLe⟩ := exactDen_bounds h hid
    have hrate₀ : 0 ≤ t.totalRate id ^ 2 := sq_nonneg _
    have hinc₀ : 0 ≤ t.exactIncrement id := by
      rw [exactIncrement]
      positivity
    have hmax : ((t.sender id).congestionWindow : Int) ≤ 2500 := by
      exact_mod_cast (h.window id hid).2
    obtain ⟨hscaled, hsquare⟩ := squareTerm_lt (Int.natCast_nonneg _)
      (show ((t.exactShift id).2 : Int) ≤ 2 ^ 16 by exact_mod_cast hle) (by omega) hmax
    refine forall_mem_append.mpr ⟨forall_mem_append.mpr ⟨fun x hx => ?_, ?_⟩, ?_⟩
    · obtain ⟨j, hj, hx⟩ := mem_flatMap.mp hx
      have hwindow := (h.window j hj).2
      have hnumerator := h.numerator_le hid hj
      simp only [rateProducts, mem_cons, not_mem_nil, or_false] at hx
      rcases hx with rfl | rfl <;> omega
    · simp only [forall_mem_cons, not_mem_nil, false_implies, implies_true, and_true]
      exact ⟨⟨hrate₀, by omega⟩, ⟨by positivity, by omega⟩, ⟨by omega, hden⟩, hscaled, hsquare,
        hinc₀, hinc⟩
    · have hnum : (t.exactShift id).1 = -1 ∨ (t.exactShift id).1 = 0 ∨ (t.exactShift id).1 = 1 :=
        shift_num id
      rcases hnum with hnum | hnum | hnum
      · simp [hnum]
      · simp [hnum]
      · simpa [hnum] using ⟨hrate₀, hrate.trans_lt hden⟩

/-- **The increase of a window is computed exactly**, in every order of the loops and without any
product, square or shift that wraps around, exactly if the products of the comparisons and the two
products of the increase fit. -/
theorem increase_computed_exactly_iff (t : OliaSenders) (h : t.InRange) (id bytesInFlight : Nat)
    (hid : id ∈ t.ids) (havoid : t.InCongestionAvoidance id bytesInFlight) :
    (∀ orders, t.ComputedExactly orders id bytesInFlight) ↔ t.ComparisonsFit ∧ t.Fits id := by
  have hrtt (j : Nat) (hj : j ∈ t.ids) : 0 < (t.sender j).smoothedRTT := h.rtt_pos hj
  have hunbounded (orders : Orders t.ids) (j : Nat) (hj : j ∈ t.ids) :=
    treatedAsBest_iff_maximises hrtt (separates_unbounded hrtt) orders hj
  constructor
  · intro hexact
    exact ⟨comparisonsFit_of_epsilonProducts hrtt fun orders => (hexact orders).epsilon,
      (increaseProducts_iff h hid _).mp (hexact (t.bestLast hid)).increase⟩
  · rintro ⟨hfit, hfits⟩ orders
    have hbest (j : Nat) (hj : j ∈ t.ids) :=
      treatedAsBest_iff_maximises hrtt (hfit.separates hrtt) orders hj
    have hsender : (t.maybeIncreaseCwnd .machine orders id bytesInFlight).sender id =
        (t.maybeIncreaseCwnd .unbounded orders id bytesInFlight).sender id := by
      have hrate : t.rate .machine orders id = t.rate .unbounded orders id := by
        rw [rate_exact h hid (hfits.keeps .machine), rate_exact h hid (hfits.keeps .unbounded)]
      have hcounter := (counterAfterAck_exact h hid hfits hbest).trans
        (counterAfterAck_exact h hid hfits (hunbounded orders)).symm
      have hscale : oliaScale .machine (t.sender id).congestionWindow =
          oliaScale .unbounded (t.sender id).congestionWindow :=
        (squareTerm_eq h hid hbest).1.trans (squareTerm_eq h hid (hunbounded orders)).1.symm
      have hstate : t.oliaAfter .machine orders id = t.oliaAfter .unbounded orders id :=
        (oliaAfter_eq hid hbest).trans (oliaAfter_eq hid (hunbounded orders)).symm
      have hwindow := h.window id hid
      rw [hrate, hscale, hstate] at hcounter
      rw [maybeIncreaseCwnd_avoiding havoid hid, maybeIncreaseCwnd_avoiding havoid hid, hrate,
        hscale, hstate, Olia.congestionWindowAfterAck_congr hcounter (by omega) (by omega)]
    exact {
      epsilon := hfit.epsilonProducts hrtt orders
      increase := (increaseProducts_iff h hid orders).mpr hfits
      window := by rw [hsender]
      counter := by rw [hsender] }

/-- Windows of 10 and 20 packets, with 10 and 20 ms. -/
theorem increase_computed_exactly_two_paths :
    let t := samplePair (sampleSender 10000000 10 3000) (sampleSender 20000000 20 4000)
    t.InRange ∧ ∀ orders, t.ComputedExactly orders 1 14600 := by
  intro t
  have hrange : t.InRange := ⟨by decide, by decide⟩
  exact ⟨hrange, (increase_computed_exactly_iff t hrange 1 14600 (by decide)
    ⟨by decide, by decide, by decide⟩).mpr (by decide +kernel)⟩

/-- Two paths of 4.29 s and 2.56 ms: the sum of the rates is `2 ^ 32`, and its square 0 in 64 bits.
The window grows at once, where the formulas raise the counter by 512. -/
theorem increase_not_computed_exactly :
    let t := samplePair (sampleSender 4294966271 1 0) (sampleSender 2560000 2500 0)
    let orders := t.bestLast (a := 3) (by decide)
    t.InRange ∧ t.InCongestionAvoidance 1 1460 ∧ ¬t.ComputedExactly orders 1 1460 ∧
      ((t.maybeIncreaseCwnd .machine orders 1 1460).sender 1).congestionWindow = 2 ∧
      ((t.maybeIncreaseCwnd .unbounded orders 1 1460).sender 1).congestionWindow = 1 := by
  intro t orders
  have hmachine : ((t.maybeIncreaseCwnd .machine orders 1 1460).sender 1).congestionWindow = 2 := by
    decide +kernel
  have hexact : ((t.maybeIncreaseCwnd .unbounded orders 1 1460).sender 1).congestionWindow = 1 := by
    decide +kernel
  refine ⟨⟨by decide, by decide⟩, ⟨by decide, by decide, by decide⟩, fun h => ?_, hmachine, hexact⟩
  have hwindow := h.window
  rw [hmachine, hexact] at hwindow
  exact absurd hwindow (by decide)

end OliaSenders
end MpQuic.Congestion
