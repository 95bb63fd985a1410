import Mathlib.Algebra.Order.Field.Rat
import Mathlib.Data.List.Count
import Mathlib.Tactic.FieldSimp
import Mathlib.Tactic.Ring
import MpQuic.Lib.Scan
import MpQuic.Protocol

/-!
# OLIA: coupled congestion control

All paths but the initial one share a table of `OliaSender`s.  In congestion avoidance the
window of a path grows with the rates of all paths (`getRate`) and is shifted by a term
`epsilon` from the paths with the largest windows to the best paths that have smaller ones
(`getEpsilon`).

The source computes in machine integers.  The model takes the arithmetic as a parameter:
with `Arithmetic.machine` it is the code, with `Arithmetic.unbounded` the same formulas over
the integers.  Go iterates over a map in any order, and in another one in each loop, so the
loops take their orders from `Orders`.
-/
namespace MpQuic.Congestion

/-! ## The arithmetic -/

/-- The conversions to the integer types of the source.  A value that fits the type is kept, and a
product of signed values may be converted before or after. -/
structure Arithmetic where
  int64 : Int → Int
  uint64 : Int → Int
  uint32 : Nat → Nat
  uint8 : Nat → Nat
  int64_eq : ∀ x, -2 ^ 63 ≤ x → x < 2 ^ 63 → int64 x = x
  int64_mul : ∀ x y, int64 (int64 x * int64 y) = int64 (x * y)
  uint64_eq : ∀ x, 0 ≤ x → x < 2 ^ 64 → uint64 x = x
  uint32_eq : ∀ n, n < 2 ^ 32 → uint32 n = n
  uint8_eq : ∀ n, n < 2 ^ 8 → uint8 n = n

/-- Two's complement, as Go has it. -/
def Arithmetic.machine : Arithmetic where
  int64 x := x.bmod (2 ^ 64)
  uint64 x := x % 2 ^ 64
  uint32 n := n % 2 ^ 32
  uint8 n := n % 2 ^ 8
  int64_eq x h h' := Int.bmod_eq_of_le (by norm_num; omega) (by norm_num; omega)
  int64_mul x y := by rw [Int.bmod_mul_bmod, Int.mul_bmod_bmod]
  uint64_eq _ := Int.emod_eq_of_lt
  uint32_eq _ := Nat.mod_eq_of_lt
  uint8_eq _ := Nat.mod_eq_of_lt

/-- The integers. -/
def Arithmetic.unbounded : Arithmetic where
  int64 x := x
  uint64 x := x
  uint32 n := n
  uint8 n := n
  int64_eq _ _ _ := rfl
  int64_mul _ _ := rfl
  uint64_eq _ _ _ := rfl
  uint32_eq _ _ := rfl
  uint8_eq _ _ := rfl

/-! ## The senders -/

/-- `Olia`.  The counter is reset as soon as it reaches 1023 on either side. -/
structure Olia where
  loss1 : Nat
  loss2 : Nat
  loss3 : Nat
  epsilonNum : Int
  epsilonDen : Nat
  sndCwndCnt : Int
  counter_lt : -1023 < sndCwndCnt ∧ sndCwndCnt < 1023
  deriving DecidableEq

/-- `NewOlia`. -/
def Olia.new (ackedBytes : Nat) : Olia where
  loss1 := ackedBytes
  loss2 := ackedBytes
  loss3 := ackedBytes
  epsilonNum := 0
  epsilonDen := 1
  sndCwndCnt := 0
  counter_lt := by decide

/-- The difference of two byte counts, in 64 bits. -/
def byteDifference (a b : Nat) : Nat := (a + (2 ^ 64 - b % 2 ^ 64)) % 2 ^ 64

/-- `Olia.SmoothedBytesBetweenLosses`. -/
def Olia.smoothedBytesBetweenLosses (o : Olia) : Nat :=
  max (byteDifference o.loss3 o.loss2) (byteDifference o.loss2 o.loss1)

/-- The fields of `OliaSender` that the increase of the window reads; `smoothedRTT` is that of its
`RTTStats`, in nanoseconds. -/
structure OliaSender where
  smoothedRTT : Int
  congestionWindow : Nat
  slowstartThreshold : Nat
  maxTCPCongestionWindow : Nat
  olia : Olia
  deriving DecidableEq

/-- `map[protocol.PathID]*OliaSender`; path identifiers have 8 bits. -/
structure OliaSenders where
  ids : List Nat
  nodup : ids.Nodup
  below : ∀ id ∈ ids, id < 2 ^ 8
  sender : Nat → OliaSender

/-- The table with another sender of path `id`. -/
def OliaSenders.set (t : OliaSenders) (id : Nat) (s : OliaSender) : OliaSenders :=
  { t with sender := Function.update t.sender id s }

@[simp]
theorem OliaSenders.set_sender_self (t : OliaSenders) (id : Nat) (s : OliaSender) :
    (t.set id s).sender id = s := Function.update_self ..

/-- The orders in which the loops over the table visit it. -/
structure Orders (ids : List Nat) where
  max : List Nat
  best : List Nat
  count : List Nat
  assign : List Nat
  rate : List Nat
  max_perm : max.Perm ids
  best_perm : best.Perm ids
  count_perm : count.Perm ids
  assign_perm : assign.Perm ids
  rate_perm : rate.Perm ids

namespace OliaSender

/-- `GetCongestionWindow`. -/
def getCongestionWindow (s : OliaSender) : Nat := s.congestionWindow * defaultTCPMSS % 2 ^ 64

/-- `GetSlowStartThreshold`. -/
def getSlowStartThreshold (s : OliaSender) : Nat := s.slowstartThreshold * defaultTCPMSS % 2 ^ 64

/-- `InSlowStart`. -/
def InSlowStart (s : OliaSender) : Prop := s.getCongestionWindow < s.getSlowStartThreshold

instance (s : OliaSender) : Decidable s.InSlowStart := inferInstanceAs (Decidable (_ < _))

/-- `isCwndLimited`, with `maxBurstBytes` of three packets. -/
def IsCwndLimited (s : OliaSender) (bytesInFlight : Nat) : Prop :=
  s.getCongestionWindow ≤ bytesInFlight ∨
    (s.InSlowStart ∧ s.getCongestionWindow / 2 < bytesInFlight) ∨
    s.getCongestionWindow - bytesInFlight ≤ 3 * defaultTCPMSS

instance (s : OliaSender) (bytesInFlight : Nat) : Decidable (s.IsCwndLimited bytesInFlight) :=
  inferInstanceAs (Decidable (_ ∨ _ ∨ _))

/-- The bytes between losses. -/
def bytes (s : OliaSender) : Nat := s.olia.smoothedBytesBetweenLosses

/-- `SmoothedRTT() * SmoothedRTT()`. -/
def squaredRTT (A : Arithmetic) (s : OliaSender) : Int := A.int64 (s.smoothedRTT * s.smoothedRTT)

end OliaSender

/-- `bestRTT` and `bestBytes`. -/
structure Best where
  rtt : Int
  bytes : Nat
  deriving DecidableEq

/-- A sender is at least as good as the best one found. -/
def OliaSender.AtLeast (A : Arithmetic) (s : OliaSender) (best : Best) : Prop :=
  A.int64 (A.int64 best.bytes * s.squaredRTT A) ≤ A.int64 (A.int64 s.bytes * best.rtt)

instance (A : Arithmetic) (s : OliaSender) (best : Best) : Decidable (s.AtLeast A best) :=
  inferInstanceAs (Decidable (_ ≤ _))

/-- `M` and `BNotM`. -/
structure Counts where
  M : Nat
  BNotM : Nat
  deriving DecidableEq

/-- The third loop of `getEpsilon`, for one of `n` senders: numerator and denominator. -/
def OliaSender.epsilon (A : Arithmetic) (n maxCwnd : Nat) (best : Best) (counts : Counts)
    (s : OliaSender) : Int × Nat :=
  if counts.BNotM = 0 then (0, 1)
  else if s.congestionWindow < maxCwnd ∧ s.AtLeast A best then
    (1, A.uint32 (A.uint32 n * A.uint32 counts.BNotM))
  else if s.congestionWindow = maxCwnd then (-1, A.uint32 (A.uint32 n * A.uint32 counts.M))
  else (0, 1)

/-- A sender with another epsilon. -/
def OliaSender.setEpsilon (s : OliaSender) (epsilon : Int × Nat) : OliaSender :=
  { s with olia := { s.olia with epsilonNum := epsilon.1, epsilonDen := epsilon.2 } }

/-- `oliaScale` with the scale 10 it is always called with. -/
def oliaScale (A : Arithmetic) (val : Int) : Int := A.uint64 (val * 2 ^ 10)

namespace OliaSenders
variable (A : Arithmetic) (t : OliaSenders)

/-- `getMaxCwnd`. -/
def getMaxCwnd (order : List Nat) : Nat :=
  order.foldl (fun bestCwnd id => max bestCwnd (t.sender id).congestionWindow) 0

/-- A round of the first loop of `getEpsilon`. -/
def bestRound (best : Best) (id : Nat) : Best :=
  let s := t.sender id
  if s.AtLeast A best then ⟨s.squaredRTT A, s.bytes⟩ else best

/-- The first loop of `getEpsilon`. -/
def findBest (order : List Nat) : Best := order.foldl (t.bestRound A) ⟨0, 0⟩

/-- A round of the second loop of `getEpsilon`. -/
def countRound (maxCwnd : Nat) (best : Best) (counts : Counts) (id : Nat) : Counts :=
  let s := t.sender id
  if s.congestionWindow = maxCwnd then { counts with M := A.uint8 (counts.M + 1) }
  else if s.AtLeast A best then { counts with BNotM := A.uint8 (counts.BNotM + 1) }
  else counts

/-- The second loop of `getEpsilon`. -/
def countPaths (maxCwnd : Nat) (best : Best) (order : List Nat) : Counts :=
  order.foldl (t.countRound A maxCwnd best) ⟨0, 0⟩

/-- `getEpsilon`. -/
def getEpsilon (orders : Orders t.ids) : OliaSenders :=
  let maxCwnd := t.getMaxCwnd orders.max
  let best := t.findBest A orders.best
  let counts := t.countPaths A maxCwnd best orders.count
  { t with
    sender := orders.assign.foldl (fun sender id => Function.update sender id
      ((sender id).setEpsilon ((sender id).epsilon A t.ids.length maxCwnd best counts))) t.sender }

/-- A round of the loop of `getRate`. -/
def rateRound (pathRTT : Int) (rate : Int) (id : Nat) : Int :=
  let s := t.sender id
  let scaledNum := A.uint64 (oliaScale A s.congestionWindow * A.uint64 pathRTT)
  if s.smoothedRTT ≠ 0 then A.uint64 (rate + scaledNum / A.uint64 s.smoothedRTT) else rate

/-- `getRate`. -/
def getRate (order : List Nat) (pathRTT : Int) : Int :=
  let rate := order.foldl (t.rateRound A pathRTT) 1
  A.uint64 (rate * rate)

end OliaSenders

namespace Olia
variable (A : Arithmetic) (o : Olia)

/-- The denominator of the increase, which is never zero. -/
def incDen (currentCongestionWindow rate : Int) : Int :=
  let incDen := A.uint64 (A.uint64 (o.epsilonDen * currentCongestionWindow) * rate)
  if incDen = 0 then 1 else incDen

/-- `uint64(o.epsilonDen)*cwndScaled*cwndScaled`. -/
def squareTerm (cwndScaled : Int) : Int :=
  A.uint64 (A.uint64 (o.epsilonDen * cwndScaled) * cwndScaled)

/-- The increase is a decrease. -/
def Decreases (rate cwndScaled : Int) : Prop :=
  o.epsilonNum = -1 ∧ o.squareTerm A cwndScaled < rate

instance (rate cwndScaled : Int) : Decidable (o.Decreases A rate cwndScaled) :=
  inferInstanceAs (Decidable (_ ∧ _))

/-- The numerator of the increase. -/
def incNum (rate cwndScaled : Int) : Int :=
  if o.epsilonNum = -1 then
    if o.squareTerm A cwndScaled < rate then A.uint64 (rate - o.squareTerm A cwndScaled)
    else A.uint64 (o.squareTerm A cwndScaled - rate)
  else A.uint64 (A.uint64 (A.uint64 o.epsilonNum * rate) + o.squareTerm A cwndScaled)

/-- The counter before it is compared with its bounds. -/
def counterAfterAck (currentCongestionWindow rate cwndScaled : Int) : Int :=
  let term := A.int64 (oliaScale A (o.incNum A rate cwndScaled) /
    o.incDen A currentCongestionWindow rate)
  if o.Decreases A rate cwndScaled then A.int64 (o.sndCwndCnt - term)
  else A.int64 (o.sndCwndCnt + term)

/-- `CongestionWindowAfterAck`: the new window, and the state with the new counter. -/
def congestionWindowAfterAck (currentCongestionWindow rate cwndScaled : Int) : Int × Olia :=
  let cnt := o.counterAfterAck A currentCongestionWindow rate cwndScaled
  if h : 1023 ≤ cnt then
    (A.uint64 (currentCongestionWindow + 1), { o with sndCwndCnt := 0, counter_lt := by decide })
  else if h' : cnt ≤ -1023 then
    (max 1 (A.uint64 (currentCongestionWindow - 1)),
      { o with sndCwndCnt := 0, counter_lt := by decide })
  else (currentCongestionWindow, { o with sndCwndCnt := cnt, counter_lt := by omega })

end Olia

/-- `maybeIncreaseCwnd` of the sender of path `id`. -/
def OliaSenders.maybeIncreaseCwnd (A : Arithmetic) (t : OliaSenders) (orders : Orders t.ids)
    (id : Nat) (bytesInFlight : Nat) : OliaSenders :=
  let s := t.sender id
  if ¬s.IsCwndLimited bytesInFlight then t
  else if s.maxTCPCongestionWindow ≤ s.congestionWindow then t
  else if s.InSlowStart then
    t.set id { s with congestionWindow := s.congestionWindow + 1 }
  else
    let t' := t.getEpsilon A orders
    let s' := t'.sender id
    let rate := t'.getRate A orders.rate s'.smoothedRTT
    let cwndScaled := oliaScale A s'.congestionWindow
    let result := s'.olia.congestionWindowAfterAck A s'.congestionWindow rate cwndScaled
    t'.set id
      { s' with
        congestionWindow := min s'.maxTCPCongestionWindow result.1.toNat
        olia := result.2 }

end MpQuic.Congestion
