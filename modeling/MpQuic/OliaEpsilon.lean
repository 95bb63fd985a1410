import Mathlib.Data.Finset.Max
import Mathlib.Data.List.Perm.Subperm
import Mathlib.Data.Rat.Cast.Order
import MpQuic.Olia

/-!
# The shift of traffic between OLIA paths

`getEpsilon` moves traffic from the paths `M` with the largest windows to the paths of `B`,
the best ones, that are not in `M`.  What it assigns is `shift` of the OLIA definition for the
paths it takes for the best ones, whatever the arithmetic, and the shifts of all paths add up
to zero.  The paths it takes for the best ones are those that maximise the bytes between
losses divided by the squared round-trip time exactly if no comparison that wraps around
puts another path on a level with one of them.
-/
namespace MpQuic.Congestion
open List

/-! ## The shift of the OLIA definition -/

section Shift
variable {ι : Type} (ids : List ι) (InM InB : ι → Prop) [DecidablePred InM] [DecidablePred InB]

/-- Numerator and denominator of the shift for a path. -/
def shift (i : ι) : Int × Nat :=
  if ids.countP (fun j => ¬InM j ∧ InB j) = 0 then (0, 1)
  else if InM i then (-1, ids.length * ids.countP fun j => InM j)
  else if InB i then (1, ids.length * ids.countP fun j => ¬InM j ∧ InB j)
  else (0, 1)

variable {ids InM InB}

theorem shift_num (i : ι) : (shift ids InM InB i).1 = -1 ∨ (shift ids InM InB i).1 = 0 ∨
    (shift ids InM InB i).1 = 1 := by
  rw [shift]
  split_ifs <;> simp

variable {i : ι}

theorem shift_num_of_inM (hi : InM i) : (shift ids InM InB i).1 ≠ 1 := by
  rw [shift]
  split_ifs <;> simp

theorem shift_den_pos (hi : i ∈ ids) : 0 < (shift ids InM InB i).2 := by
  have hlen : 0 < ids.length := length_pos_of_mem hi
  rw [shift]
  split_ifs with hnone hM
  · exact one_pos
  · exact Nat.mul_pos hlen (countP_pos_iff.mpr ⟨i, hi, by simpa using hM⟩)
  · exact Nat.mul_pos hlen (Nat.pos_of_ne_zero hnone)
  · exact one_pos

theorem shift_den_le (hi : i ∈ ids) : (shift ids InM InB i).2 ≤ ids.length * ids.length := by
  have hlen : 0 < ids.length := length_pos_of_mem hi
  rw [shift]
  split_ifs
  · exact Nat.mul_pos hlen hlen
  · exact Nat.mul_le_mul_left _ countP_le_length
  · exact Nat.mul_le_mul_left _ countP_le_length
  · exact Nat.mul_pos hlen hlen

theorem sum_by_class (a b : ℚ) :
    (ids.map fun i => if InM i then a else if InB i then b else 0).sum =
      ids.countP (fun i => InM i) * a + ids.countP (fun i => ¬InM i ∧ InB i) * b := by
  induction ids with
  | nil => simp
  | cons i ids ih =>
    rw [map_cons, sum_cons, ih]
    by_cases hM : InM i <;> by_cases hB : InB i <;> simp [hM, hB] <;> ring

/-- **The shifts add up to zero**: what the paths of `M` lose, those of `B` outside `M` gain. -/
theorem shift_sum (h : ∃ i ∈ ids, InM i) :
    (ids.map fun i => ((shift ids InM InB i).1 : ℚ) / (shift ids InM InB i).2).sum = 0 := by
  obtain ⟨i, hi, hM⟩ := h
  have hcount : 0 < ids.countP fun j => InM j := countP_pos_iff.mpr ⟨i, hi, by simpa using hM⟩
  by_cases hnone : ids.countP (fun j => ¬InM j ∧ InB j) = 0
  · have hshift (j : ι) : shift ids InM InB j = (0, 1) := if_pos hnone
    simp [hshift]
  · have hterm (j : ι) : ((shift ids InM InB j).1 : ℚ) / (shift ids InM InB j).2 =
        if InM j then (-1 : ℚ) / (ids.length * ids.countP fun j => InM j : ℕ)
        else if InB j then (1 : ℚ) / (ids.length * ids.countP fun j => ¬InM j ∧ InB j : ℕ)
        else 0 := by
      rw [shift]
      split_ifs <;> simp
    have hM₀ : (ids.countP (fun j => InM j) : ℚ) ≠ 0 := Nat.cast_ne_zero.mpr hcount.ne'
    have hB₀ : (ids.countP (fun j => ¬InM j ∧ InB j) : ℚ) ≠ 0 := Nat.cast_ne_zero.mpr hnone
    rw [funext hterm, sum_by_class, Nat.cast_mul, Nat.cast_mul]
    field_simp
    ring

/-- The shift depends on the two sets of paths only. -/
theorem shift_congr {InB' : ι → Prop} [DecidablePred InB'] (h : ∀ i ∈ ids, InB i ↔ InB' i)
    (hi : i ∈ ids) : shift ids InM InB i = shift ids InM InB' i := by
  have hcount : ids.countP (fun j => ¬InM j ∧ InB j) = ids.countP fun j => ¬InM j ∧ InB' j :=
    countP_congr fun j hj => by simp [h j hj]
  rw [shift, shift, hcount]
  simp only [h i hi]

end Shift

/-! ## What `getEpsilon` assigns -/

namespace OliaSenders
variable {A : Arithmetic} {t : OliaSenders}

/-- The window of path `id` is a largest one: `id` is in `M`. -/
def IsLargest (t : OliaSenders) (id : Nat) : Prop :=
  ∀ j ∈ t.ids, (t.sender j).congestionWindow ≤ (t.sender id).congestionWindow

instance (t : OliaSenders) : DecidablePred t.IsLargest := fun _ =>
  inferInstanceAs (Decidable (∀ _ ∈ _, _))

/-- `getEpsilon` treats path `id` as one of the best. -/
def TreatedAsBest (A : Arithmetic) (t : OliaSenders) (orders : Orders t.ids) (id : Nat) : Prop :=
  (t.sender id).AtLeast A (t.findBest A orders.best)

instance (orders : Orders t.ids) : DecidablePred (t.TreatedAsBest A orders) := fun _ =>
  inferInstanceAs (Decidable (OliaSender.AtLeast _ _ _))

/-- The largest window is an upper bound, and one that is attained unless it is 0. -/
theorem getMaxCwnd_spec (t : OliaSenders) (order : List Nat) :
    (∀ j ∈ order, (t.sender j).congestionWindow ≤ t.getMaxCwnd order) ∧
      (t.getMaxCwnd order = 0 ∨
        ∃ j ∈ order, t.getMaxCwnd order = (t.sender j).congestionWindow) := by
  refine Systems.foldl_seen (P := fun seen m => (∀ j ∈ seen, (t.sender j).congestionWindow ≤ m) ∧
    (m = 0 ∨ ∃ j ∈ seen, m = (t.sender j).congestionWindow)) ⟨by simp, .inl rfl⟩ order ?_
  rintro seen a m _ ⟨hle, hattained⟩
  refine ⟨fun j hj => ?_, ?_⟩
  · rcases mem_append.mp hj with hj | hj
    · exact (hle j hj).trans (le_max_left _ _)
    · exact mem_singleton.mp hj ▸ le_max_right _ _
  · rcases max_choice m (t.sender a).congestionWindow with hm | hm
    · rw [hm]
      exact hattained.imp_right fun ⟨j, hj, hmj⟩ => ⟨j, mem_append_left _ hj, hmj⟩
    · exact .inr ⟨a, by simp, hm⟩

variable {order : List Nat} {id : Nat}

theorem eq_getMaxCwnd_iff (horder : order.Perm t.ids) (hid : id ∈ t.ids) :
    (t.sender id).congestionWindow = t.getMaxCwnd order ↔ t.IsLargest id := by
  obtain ⟨hle, hattained⟩ := t.getMaxCwnd_spec order
  have hupper := hle id (horder.mem_iff.mpr hid)
  constructor
  · intro heq j hj
    exact heq ▸ hle j (horder.mem_iff.mpr hj)
  · intro hlargest
    rcases hattained with hzero | ⟨j, hj, hmax⟩
    · omega
    · exact Nat.le_antisymm hupper (hmax ▸ hlargest j (horder.mem_iff.mp hj))

theorem lt_getMaxCwnd_iff (horder : order.Perm t.ids) (hid : id ∈ t.ids) :
    (t.sender id).congestionWindow < t.getMaxCwnd order ↔ ¬t.IsLargest id := by
  rw [← eq_getMaxCwnd_iff horder hid]
  exact ((t.getMaxCwnd_spec order).1 id (horder.mem_iff.mpr hid)).lt_iff_ne

theorem exists_isLargest (hne : t.ids ≠ []) : ∃ id ∈ t.ids, t.IsLargest id := by
  obtain ⟨hle, hzero | ⟨j, hj, hmax⟩⟩ := t.getMaxCwnd_spec t.ids
  · obtain ⟨id, hid⟩ := exists_mem_of_ne_nil _ hne
    exact ⟨id, hid, fun j hj => by have := hle j hj; omega⟩
  · exact ⟨j, hj, fun i hi => hmax ▸ hle i hi⟩

/-- What the second loop counts, as far as its 8-bit counters can. -/
theorem countPaths_spec (A : Arithmetic) (t : OliaSenders) (maxCwnd : Nat) (best : Best)
    (order : List Nat) :
    (order.countP (fun id => (t.sender id).congestionWindow = maxCwnd) < 2 ^ 8 →
        (t.countPaths A maxCwnd best order).M =
          order.countP fun id => (t.sender id).congestionWindow = maxCwnd) ∧
      (order.countP (fun id => ¬(t.sender id).congestionWindow = maxCwnd ∧
          (t.sender id).AtLeast A best) < 2 ^ 8 →
        (t.countPaths A maxCwnd best order).BNotM = order.countP fun id =>
          ¬(t.sender id).congestionWindow = maxCwnd ∧ (t.sender id).AtLeast A best) := by
  refine Systems.foldl_seen (P := fun seen (counts : Counts) =>
    (seen.countP (fun id => (t.sender id).congestionWindow = maxCwnd) < 2 ^ 8 →
        counts.M = seen.countP fun id => (t.sender id).congestionWindow = maxCwnd) ∧
      (seen.countP (fun id => ¬(t.sender id).congestionWindow = maxCwnd ∧
          (t.sender id).AtLeast A best) < 2 ^ 8 →
        counts.BNotM = seen.countP fun id =>
          ¬(t.sender id).congestionWindow = maxCwnd ∧ (t.sender id).AtLeast A best))
    ⟨fun _ => rfl, fun _ => rfl⟩ order ?_
  rintro seen a counts _ ⟨hM, hB⟩
  rw [countRound, countP_append, countP_append, countP_singleton,
    countP_singleton]
  by_cases hmax : (t.sender a).congestionWindow = maxCwnd
  · simp only [hmax, if_true, decide_true]
    refine ⟨fun hlt => ?_, hB⟩
    rw [hM (Nat.lt_of_succ_lt hlt), A.uint8_eq _ hlt]
  · by_cases hbest : (t.sender a).AtLeast A best
    · simp only [hmax, hbest, if_true, if_false, not_false_eq_true, and_true, decide_true]
      refine ⟨hM, fun hlt => ?_⟩
      rw [hB (Nat.lt_of_succ_lt hlt), A.uint8_eq _ hlt]
    · simp only [hmax, hbest]
      exact ⟨hM, hB⟩

theorem length_ids_le (t : OliaSenders) : t.ids.length ≤ 2 ^ 8 := by
  have hle := t.nodup.length_le_of_subset fun id hid => mem_range.mpr (t.below id hid)
  rwa [length_range] at hle

/-- The third loop visits every path, and what it reads of a sender it does not write. -/
theorem getEpsilon_assigned {orders : Orders t.ids} (hid : id ∈ t.ids) :
    (t.getEpsilon A orders).sender id = (t.sender id).setEpsilon ((t.sender id).epsilon A
      t.ids.length (t.getMaxCwnd orders.max) (t.findBest A orders.best)
      (t.countPaths A (t.getMaxCwnd orders.max) (t.findBest A orders.best) orders.count)) :=
  (Systems.foldl_update (f := fun (_ : Nat) (s : OliaSender) => s.setEpsilon (s.epsilon A
      t.ids.length (t.getMaxCwnd orders.max) (t.findBest A orders.best)
      (t.countPaths A (t.getMaxCwnd orders.max) (t.findBest A orders.best) orders.count)))
    (fun _ _ => rfl) orders.assign t.sender id).trans
    (if_pos (orders.assign_perm.mem_iff.mpr hid))

/-- **`getEpsilon` assigns the shift** of the OLIA definition, for the paths it treats as the best.
Neither the 8-bit counters nor the 32-bit products can overflow where they are used. -/
theorem getEpsilon_sender (A : Arithmetic) (t : OliaSenders) (orders : Orders t.ids)
    (hid : id ∈ t.ids) : (t.getEpsilon A orders).sender id =
      (t.sender id).setEpsilon (shift t.ids t.IsLargest (t.TreatedAsBest A orders) id) := by
  have hperm (j : Nat) (hj : j ∈ orders.count) : j ∈ t.ids := orders.count_perm.mem_iff.mp hj
  have hM : (orders.count.countP fun j =>
      (t.sender j).congestionWindow = t.getMaxCwnd orders.max) =
      t.ids.countP fun j => t.IsLargest j := by
    rw [← orders.count_perm.countP_eq]
    exact countP_congr fun j hj => by simp [eq_getMaxCwnd_iff orders.max_perm (hperm j hj)]
  have hB : (orders.count.countP fun j =>
      ¬(t.sender j).congestionWindow = t.getMaxCwnd orders.max ∧
        (t.sender j).AtLeast A (t.findBest A orders.best)) =
      t.ids.countP fun j => ¬t.IsLargest j ∧ t.TreatedAsBest A orders j := by
    rw [← orders.count_perm.countP_eq]
    refine countP_congr fun j hj => ?_
    rw [decide_eq_true_iff, decide_eq_true_iff, eq_getMaxCwnd_iff orders.max_perm (hperm j hj)]
    exact Iff.rfl
  obtain ⟨hcountM, hcountB⟩ := t.countPaths_spec A (t.getMaxCwnd orders.max)
    (t.findBest A orders.best) orders.count
  rw [hM] at hcountM
  rw [hB] at hcountB
  -- Some path has the largest window, so `BNotM` is below 256; and `M` is if `BNotM` is not 0.
  obtain ⟨largest, hmem, hlargest⟩ := exists_isLargest (ne_nil_of_mem hid)
  have hpos : 0 < t.ids.countP fun j => t.IsLargest j :=
    countP_pos_iff.mpr ⟨largest, hmem, by simpa using hlargest⟩
  have hsplit := t.ids.length_eq_countP_add_countP fun j => t.IsLargest j
  have hsub : (t.ids.countP fun j => ¬t.IsLargest j ∧ t.TreatedAsBest A orders j) ≤
      t.ids.countP fun j => ¬decide (t.IsLargest j) = true :=
    countP_mono_left fun j _ => by simp +contextual
  have hlen := t.length_ids_le
  rw [getEpsilon_assigned hid, OliaSender.epsilon, shift, hcountB (by omega)]
  simp only [lt_getMaxCwnd_iff orders.max_perm hid, eq_getMaxCwnd_iff orders.max_perm hid]
  by_cases hnone : (t.ids.countP fun j => ¬t.IsLargest j ∧ t.TreatedAsBest A orders j) = 0
  · rw [if_pos hnone, if_pos hnone]
  · rw [if_neg hnone, if_neg hnone, hcountM (by omega)]
    have hfits (m : Nat) (hm : m < 2 ^ 8) :
        A.uint32 (A.uint32 t.ids.length * A.uint32 m) = t.ids.length * m := by
      have hle : t.ids.length * m ≤ 2 ^ 8 * 2 ^ 8 := Nat.mul_le_mul hlen hm.le
      rw [A.uint32_eq t.ids.length (by omega), A.uint32_eq m (by omega), A.uint32_eq _ (by omega)]
    rw [hfits _ (by omega), hfits _ (by omega)]
    by_cases hin : t.IsLargest id
    · simp only [hin, not_true, false_and, if_false, if_true]
    · simp only [hin, not_false_eq_true, true_and]
      rfl

/-- **The shifts are balanced** as `getEpsilon` assigns them, on any table and in any order: each
has a numerator of -1, 0 or 1, no path with a largest window gains, and they add up to zero. -/
theorem epsilons_balanced (t : OliaSenders) (orders : Orders t.ids) :
    let t' := t.getEpsilon .machine orders
    (∀ id ∈ t.ids, 0 < (t'.sender id).olia.epsilonDen ∧
      ((t'.sender id).olia.epsilonNum = -1 ∨ (t'.sender id).olia.epsilonNum = 0 ∨
        (t'.sender id).olia.epsilonNum = 1) ∧
      (t'.IsLargest id → (t'.sender id).olia.epsilonNum ≠ 1)) ∧
    (t.ids.map fun id =>
      ((t'.sender id).olia.epsilonNum : ℚ) / (t'.sender id).olia.epsilonDen).sum = 0 := by
  have hsender (id : Nat) (hid : id ∈ t.ids) := getEpsilon_sender .machine t orders hid
  constructor
  · intro id hid
    rw [hsender id hid]
    refine ⟨shift_den_pos hid, shift_num id, fun hlargest => shift_num_of_inM fun j hj => ?_⟩
    have hle := hlargest j hj
    rw [hsender j hj, hsender id hid] at hle
    exact hle
  · by_cases hne : t.ids = []
    · simp [hne]
    · rw [map_congr_left fun id hid => by rw [hsender id hid]]
      exact shift_sum (exists_isLargest hne)

/-! ## The best paths -/

/-- What the loop remembers of a sender it takes for the best. -/
def asBest (A : Arithmetic) (t : OliaSenders) (id : Nat) : Best :=
  ⟨(t.sender id).squaredRTT A, (t.sender id).bytes⟩

/-- Path `id` maximises the bytes between losses divided by the squared round-trip time. -/
def Maximises (t : OliaSenders) (id : Nat) : Prop :=
  ∀ j ∈ t.ids, ((t.sender j).bytes : ℚ) / (t.sender j).smoothedRTT ^ 2 ≤
    (t.sender id).bytes / (t.sender id).smoothedRTT ^ 2

instance (t : OliaSenders) : DecidablePred t.Maximises := fun _ =>
  inferInstanceAs (Decidable (∀ _ ∈ _, _))

/-- The comparison of `getEpsilon` never puts a path that is not one of the best on a level with
one that is. -/
def Separates (A : Arithmetic) (t : OliaSenders) : Prop :=
  ∀ a ∈ t.ids, t.Maximises a → ∀ b ∈ t.ids, ¬t.Maximises b → ¬(t.sender b).AtLeast A (t.asBest A a)

instance : Decidable (t.Separates A) := inferInstanceAs (Decidable (∀ _ ∈ _, _ → ∀ _ ∈ _, _))

/-- The comparison of two senders, with the products converted once. -/
theorem atLeast_asBest_iff (A : Arithmetic) (t : OliaSenders) (a b : Nat) :
    (t.sender b).AtLeast A (t.asBest A a) ↔
      A.int64 ((t.sender a).bytes * (t.sender b).smoothedRTT ^ 2) ≤
        A.int64 ((t.sender b).bytes * (t.sender a).smoothedRTT ^ 2) := by
  rw [OliaSender.AtLeast, asBest, OliaSender.squaredRTT, OliaSender.squaredRTT, A.int64_mul,
    A.int64_mul, sq, sq]

theorem atLeast_asBest_of_not {a b : Nat} (h : ¬(t.sender b).AtLeast A (t.asBest A a)) :
    (t.sender a).AtLeast A (t.asBest A b) := by
  exact (not_le.mp h).le

/-- Before the first round every sender is at least as good as the best one found. -/
theorem atLeast_initial (A : Arithmetic) (s : OliaSender) : s.AtLeast A ⟨0, 0⟩ := by
  have hzero : A.int64 0 = 0 := A.int64_eq 0 (by decide) (by decide)
  simp [OliaSender.AtLeast, hzero]

/-- If the comparison separates the best paths from the others, the loop finds a best one. -/
theorem findBest_maximises (hsep : t.Separates A) (horder : order.Perm t.ids) {a : Nat}
    (ha : a ∈ t.ids) (hmax : t.Maximises a) :
    ∃ b ∈ t.ids, t.Maximises b ∧ t.findBest A order = t.asBest A b := by
  refine Systems.foldl_absorbed (I := fun best => best = ⟨0, 0⟩ ∨ ∃ b ∈ t.ids, best = t.asBest A b)
    (P := fun best => ∃ b ∈ t.ids, t.Maximises b ∧ best = t.asBest A b) (horder.mem_iff.mpr ha)
    ?_ ?_ ?_ (.inl rfl)
  · intro best b hb hI
    rw [bestRound]
    split
    · exact .inr ⟨b, horder.mem_iff.mp hb, rfl⟩
    · exact hI
  · rintro best b hb - ⟨c, hc, hmc, rfl⟩
    rw [bestRound]
    split
    · next hle =>
      have hmb : t.Maximises b := not_imp_not.mp (hsep c hc hmc b (horder.mem_iff.mp hb)) hle
      exact ⟨b, horder.mem_iff.mp hb, hmb, rfl⟩
    · exact ⟨c, hc, hmc, rfl⟩
  · rintro best (rfl | ⟨b, hb, rfl⟩)
    · rw [bestRound, if_pos (atLeast_initial A _)]
      exact ⟨a, ha, hmax, rfl⟩
    · rw [bestRound]
      split
      · exact ⟨a, ha, hmax, rfl⟩
      · next hnot =>
        have hmb : t.Maximises b := by
          by_contra hnb
          exact hnot (atLeast_asBest_of_not (hsep a ha hmax b hb hnb))
        exact ⟨b, hb, hmb, rfl⟩

theorem exists_maximises (hne : t.ids ≠ []) : ∃ id ∈ t.ids, t.Maximises id := by
  obtain ⟨id, hid, hmax⟩ := t.ids.toFinset.exists_max_image
    (fun id => ((t.sender id).bytes : ℚ) / (t.sender id).smoothedRTT ^ 2)
    (toFinset_nonempty_iff _ |>.mpr hne)
  exact ⟨id, mem_toFinset.mp hid, fun j hj => hmax j (mem_toFinset.mpr hj)⟩

section Exact
variable (hrtt : ∀ id ∈ t.ids, 0 < (t.sender id).smoothedRTT)
include hrtt

theorem ratio_le_iff {i j : Nat} (hi : i ∈ t.ids) (hj : j ∈ t.ids) :
    ((t.sender j).bytes : ℚ) / (t.sender j).smoothedRTT ^ 2 ≤
        (t.sender i).bytes / (t.sender i).smoothedRTT ^ 2 ↔
      ((t.sender j).bytes * (t.sender i).smoothedRTT ^ 2 : Int) ≤
        (t.sender i).bytes * (t.sender j).smoothedRTT ^ 2 := by
  have hpos (k : Nat) (hk : k ∈ t.ids) : (0 : ℚ) < ((t.sender k).smoothedRTT : ℚ) ^ 2 :=
    pow_pos (Int.cast_pos.mpr (hrtt k hk)) 2
  rw [div_le_div_iff₀ (hpos j hj) (hpos i hi)]
  exact_mod_cast Iff.rfl

/-- Two best paths compare as equally good, also where the products wrap around. -/
theorem Maximises.atLeast {a b : Nat} (ha : a ∈ t.ids) (hb : b ∈ t.ids) (hma : t.Maximises a)
    (hmb : t.Maximises b) : (t.sender b).AtLeast A (t.asBest A a) := by
  rw [atLeast_asBest_iff, le_antisymm ((ratio_le_iff hrtt hb ha).mp (hmb a ha))
    ((ratio_le_iff hrtt ha hb).mp (hma b hb))]

/-- **The best paths are treated as such in every order** if the comparison separates them. -/
theorem treatedAsBest_iff_maximises (hsep : t.Separates A) (orders : Orders t.ids) {id : Nat}
    (hid : id ∈ t.ids) : t.TreatedAsBest A orders id ↔ t.Maximises id := by
  obtain ⟨a, ha, hmax⟩ := exists_maximises (ne_nil_of_mem hid)
  obtain ⟨b, hb, hmb, hbest⟩ := findBest_maximises hsep orders.best_perm ha hmax
  rw [TreatedAsBest, hbest]
  exact ⟨not_imp_not.mp (hsep b hb hmb id hid), fun hmi => Maximises.atLeast hrtt hb hid hmb hmi⟩

/-- Over the integers the comparison separates the best paths. -/
theorem separates_unbounded : t.Separates .unbounded := by
  intro a ha hmax b hb hnb hle
  refine hnb fun j hj => (hmax j hj).trans ?_
  rw [ratio_le_iff hrtt hb ha]
  exact (atLeast_asBest_iff .unbounded t a b).mp hle

end Exact

/-- The first loop visits `a` last, all others go in the order of the list. -/
def bestLast (t : OliaSenders) {a : Nat} (ha : a ∈ t.ids) : Orders t.ids where
  max := t.ids
  best := t.ids.erase a ++ [a]
  count := t.ids
  assign := t.ids
  rate := t.ids
  max_perm := .refl _
  best_perm := (perm_append_singleton a _).trans (perm_cons_erase ha).symm
  count_perm := .refl _
  assign_perm := .refl _
  rate_perm := .refl _

/-- A path that is visited last and treated as one of the best is the one the loop remembers. -/
theorem findBest_bestLast {a : Nat} (ha : a ∈ t.ids) (h : t.TreatedAsBest A (t.bestLast ha) a) :
    t.findBest A (t.bestLast ha).best = t.asBest A a := by
  have hlast : t.findBest A (t.bestLast ha).best =
      t.bestRound A (t.findBest A (t.ids.erase a)) a := by
    rw [bestLast, findBest, foldl_append]
    rfl
  rw [TreatedAsBest, hlast, bestRound] at h
  rw [hlast]
  split at h
  · next hround => exact if_pos hround
  · next hround => exact absurd h hround

/-- And it has to separate them: the order with a best path at the end shows a path that compares
with it as equally good. -/
theorem separates_of_treatedAsBest
    (h : ∀ orders, ∀ id ∈ t.ids, t.TreatedAsBest A orders id ↔ t.Maximises id) : t.Separates A := by
  intro a ha hmax b hb hnb hle
  have hbest := findBest_bestLast ha ((h (t.bestLast ha) a ha).mpr hmax)
  refine hnb ((h (t.bestLast ha) b hb).mp ?_)
  rwa [TreatedAsBest, hbest]

/-- `getEpsilon` finds the best paths, and assigns the shifts of the OLIA definition. -/
def BestIdentified (t : OliaSenders) : Prop :=
  ∀ orders, ∀ id ∈ t.ids, (t.TreatedAsBest .machine orders id ↔ t.Maximises id) ∧
    (((t.getEpsilon .machine orders).sender id).olia.epsilonNum,
      ((t.getEpsilon .machine orders).sender id).olia.epsilonDen) =
        shift t.ids t.IsLargest t.Maximises id

/-- **The best paths are found**, and shifted traffic to, in every order of the loops exactly if the
comparison of the machine separates them from the others. -/
theorem best_identified_iff (t : OliaSenders) (hrtt : ∀ id ∈ t.ids, 0 < (t.sender id).smoothedRTT) :
    t.BestIdentified ↔ t.Separates .machine := by
  constructor
  · exact fun h => separates_of_treatedAsBest fun orders id hid => (h orders id hid).1
  · intro hsep orders id hid
    have hbest (j : Nat) (hj : j ∈ t.ids) := treatedAsBest_iff_maximises hrtt hsep orders hj
    refine ⟨hbest id hid, ?_⟩
    rw [getEpsilon_sender .machine t orders hid]
    exact shift_congr hbest hid

/-- A sender with an RTT in nanoseconds, a window and a number of bytes acknowledged, and no loss so
far. -/
def sampleSender (smoothedRTT : Int) (congestionWindow ackedBytes : Nat) : OliaSender where
  smoothedRTT := smoothedRTT
  congestionWindow := congestionWindow
  slowstartThreshold := congestionWindow
  maxTCPCongestionWindow := 2500
  olia := { Olia.new 0 with loss3 := ackedBytes }

/-- Two paths. -/
def samplePair (first second : OliaSender) : OliaSenders where
  ids := [1, 3]
  nodup := by decide
  below := by decide
  sender id := if id = 1 then first else second

theorem best_identified_small : (samplePair (sampleSender 10000000 10 3000)
    (sampleSender 20000000 20 4000)).BestIdentified :=
  (best_identified_iff _ (by decide)).mpr (by decide +kernel)

/-- Two paths of a second, with nine and ten bytes since the last loss: the product for the second
one is negative in 64 bits, and only the first path is taken for a best one. -/
theorem best_not_identified :
    let t := samplePair (sampleSender 1000000000 10 9) (sampleSender 1000000000 20 10)
    t.Maximises 3 ∧ ¬t.TreatedAsBest .machine (t.bestLast (a := 3) (by decide)) 3 ∧
      ¬t.BestIdentified := by
  intro t
  have hmax : t.Maximises 3 := by decide +kernel
  have hnot : ¬t.TreatedAsBest .machine (t.bestLast (a := 3) (by decide)) 3 := by decide +kernel
  exact ⟨hmax, hnot, fun h => hnot ((h _ 3 (by decide)).1.mpr hmax)⟩

end OliaSenders
end MpQuic.Congestion
