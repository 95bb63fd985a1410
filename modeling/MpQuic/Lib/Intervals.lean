import Mathlib.Order.Lattice
import Mathlib.Data.List.Pairwise

/-!
# Sorted lists of separated half-open intervals

The set of points still missing from a linearly ordered supply is kept as a list
of half-open intervals, in order and never touching.  `carve` takes the points of
`[s, e)` out of such a list when the interval starts inside one member and ends
inside another: the members between them go, the two outer ones shrink.  The
facts used later are that the result is again separated (`Separated.carve`) and
that exactly the points of `[s, e)` are gone (`covers_carve`).
-/
namespace Systems
open List

/-- The half-open interval `[start, stop)`. -/
structure Interval (α : Type) where
  start : α
  stop : α
  deriving DecidableEq, Repr

namespace Interval
variable {α : Type} [LinearOrder α]

/-- The points of the intervals of a list. -/
def Covers (l : List (Interval α)) (x : α) : Prop :=
  ∃ i ∈ l, i.start ≤ x ∧ x < i.stop

/-- The intervals are nonempty, in order, and there are points between any two. -/
structure Separated (l : List (Interval α)) : Prop where
  ordered : l.Pairwise fun i j => i.stop < j.start
  nonempty : ∀ i ∈ l, i.start < i.stop

/-- `[s, e)` starts inside `first`, ends inside `last`, and the intervals of `mid`
are `first`, `last` and intervals strictly between its two ends. -/
structure Spans (mid : List (Interval α)) (first last : Interval α) (s e : α) : Prop where
  first_mem : first ∈ mid
  last_mem : last ∈ mid
  lt : s < e
  start_le : first.start ≤ s
  lt_stop : s < first.stop
  start_lt : last.start < e
  le_stop : e ≤ last.stop
  after_first : ∀ i ∈ mid, i = first ∨ s < i.start
  before_last : ∀ i ∈ mid, i = last ∨ i.stop < e

/-- What is left of the interval in which `[s, e)` starts. -/
def leftPart (first : Interval α) (s : α) : List (Interval α) :=
  if first.start < s then [⟨first.start, s⟩] else []

/-- What is left of the interval in which `[s, e)` ends. -/
def rightPart (last : Interval α) (e : α) : List (Interval α) :=
  if e < last.stop then [⟨e, last.stop⟩] else []

/-- The list `before ++ mid ++ after` without the points of `[s, e)`, where `mid`
runs from `first` to `last`. -/
def carve (before : List (Interval α)) (first last : Interval α) (s e : α)
    (after : List (Interval α)) : List (Interval α) :=
  before ++ leftPart first s ++ rightPart last e ++ after

variable {s e : α} {l r : List (Interval α)} {i j : Interval α}

@[simp] theorem mem_leftPart {first i : Interval α} :
    i ∈ leftPart first s ↔ first.start < s ∧ i = ⟨first.start, s⟩ := by
  by_cases h : first.start < s <;> simp [leftPart, h]

@[simp] theorem mem_rightPart {last i : Interval α} :
    i ∈ rightPart last e ↔ e < last.stop ∧ i = ⟨e, last.stop⟩ := by
  by_cases h : e < last.stop <;> simp [rightPart, h]

theorem mem_carve {before after : List (Interval α)} {first last i : Interval α} :
    i ∈ carve before first last s e after ↔
      i ∈ before ∨ (first.start < s ∧ i = ⟨first.start, s⟩) ∨
        (e < last.stop ∧ i = ⟨e, last.stop⟩) ∨ i ∈ after := by
  simp only [carve, mem_append, mem_leftPart, mem_rightPart, or_assoc]

/-- Two members are the same or there are points between them. -/
theorem Separated.eq_or_lt (h : Separated l) (hi : i ∈ l) (hj : j ∈ l) :
    i = j ∨ i.stop < j.start ∨ j.stop < i.start := by
  induction l with
  | nil => cases hi
  | cons a l ih =>
    have ha := (pairwise_cons.1 h.ordered).1
    rcases mem_cons.1 hi with rfl | hil <;> rcases mem_cons.1 hj with rfl | hjl
    · exact .inl rfl
    · exact .inr (.inl (ha j hjl))
    · exact .inr (.inr (ha i hil))
    · exact ih ⟨(pairwise_cons.1 h.ordered).2,
        fun k hk => h.nonempty k (mem_cons_of_mem a hk)⟩ hil hjl

theorem Separated.lt_append (h : Separated (l ++ r)) (hi : i ∈ l) (hj : j ∈ r) : i.stop < j.start :=
  (pairwise_append.1 h.ordered).2.2 i hi j hj

theorem Separated.sublist (h : Separated r) (hl : l.Sublist r) : Separated l :=
  ⟨h.ordered.sublist hl, fun i hi => h.nonempty i (hl.subset hi)⟩

theorem Separated.lt_cons (h : Separated (l ++ i :: r)) (hj : j ∈ r) : i.stop < j.start :=
  (pairwise_cons.1 (pairwise_append.1 h.ordered).2.1).1 j hj

section Carve
variable {before mid after : List (Interval α)} {first last : Interval α} {s e : α}

section
variable (h : Separated (before ++ mid ++ after))
include h

theorem Separated.before_lt_mid {i j : Interval α} (hi : i ∈ before) (hj : j ∈ mid) :
    i.stop < j.start :=
  (h.sublist (sublist_append_left ..)).lt_append hi hj

theorem Separated.carve (hs : Spans mid first last s e) :
    Separated (carve before first last s e after) := by
  have hp := pairwise_append.1 (pairwise_append.1 h.ordered).1
  have hbf := fun i hi => h.before_lt_mid (i := i) hi hs.first_mem
  have hla := fun j hj => h.lt_append (j := j) (mem_append_right before hs.last_mem) hj
  refine ⟨?_, ?_⟩
  · unfold Interval.carve
    refine pairwise_append.2 ⟨pairwise_append.2 ⟨pairwise_append.2
      ⟨hp.1, ?_, ?_⟩, ?_, ?_⟩, (pairwise_append.1 h.ordered).2.1, ?_⟩
    · unfold leftPart
      split <;> simp
    · rintro i hi j hj
      obtain ⟨-, rfl⟩ := mem_leftPart.1 hj
      exact hbf i hi
    · unfold rightPart
      split <;> simp
    · rintro i hi j hj
      obtain ⟨-, rfl⟩ := mem_rightPart.1 hj
      rcases mem_append.1 hi with hi | hi
      · exact (hbf i hi).trans_le (hs.start_le.trans hs.lt.le)
      · obtain ⟨-, rfl⟩ := mem_leftPart.1 hi
        exact hs.lt
    · rintro i hi j hj
      rcases mem_append.1 hi with hi | hi
      · rcases mem_append.1 hi with hi | hi
        · exact h.lt_append (mem_append_left _ hi) hj
        · obtain ⟨-, rfl⟩ := mem_leftPart.1 hi
          exact hs.lt.trans (hs.le_stop.trans_lt (hla j hj))
      · obtain ⟨-, rfl⟩ := mem_rightPart.1 hi
        exact hla j hj
  · intro i hi
    rcases mem_carve.1 hi with hi | ⟨hlt, rfl⟩ | ⟨hlt, rfl⟩ | hi
    · exact h.nonempty i (by simp [hi])
    · exact hlt
    · exact hlt
    · exact h.nonempty i (by simp [hi])

/-- Exactly the points of `[s, e)` are taken out. -/
theorem covers_carve (hs : Spans mid first last s e) (x : α) :
    Covers (Interval.carve before first last s e after) x ↔
      Covers (before ++ mid ++ after) x ∧ ¬ (s ≤ x ∧ x < e) := by
  have hbf := fun i hi => h.before_lt_mid (i := i) hi hs.first_mem
  have hla := fun j hj => h.lt_append (j := j) (mem_append_right before hs.last_mem) hj
  constructor
  · rintro ⟨i, hi, hx⟩
    rcases mem_carve.1 hi with hi | ⟨hlt, rfl⟩ | ⟨hlt, rfl⟩ | hi
    · refine ⟨⟨i, by simp [hi], hx⟩, fun hse => ?_⟩
      exact absurd hse.1 (not_le.2 (hx.2.trans ((hbf i hi).trans_le hs.start_le)))
    · exact ⟨⟨first, by simp [hs.first_mem], hx.1, hx.2.trans hs.lt_stop⟩,
        fun hse => absurd hse.1 (not_le.2 hx.2)⟩
    · exact ⟨⟨last, by simp [hs.last_mem], hs.start_lt.le.trans hx.1, hx.2⟩,
        fun hse => absurd hse.2 (not_lt.2 hx.1)⟩
    · refine ⟨⟨i, by simp [hi], hx⟩, fun hse => ?_⟩
      exact absurd hse.2 (not_lt.2 (hs.le_stop.trans ((hla i hi).le.trans hx.1)))
  · rintro ⟨⟨i, hi, hx⟩, hse⟩
    rcases mem_append.1 hi with hi | hi
    · rcases mem_append.1 hi with hi | hi
      · exact ⟨i, mem_carve.2 (.inl hi), hx⟩
      · -- a member of `mid` keeps only what lies outside `[s, e)`
        rcases lt_or_ge x s with hxs | hxs
        · rcases hs.after_first i hi with rfl | hlt
          · exact ⟨_, mem_carve.2 (.inr (.inl ⟨hx.1.trans_lt hxs, rfl⟩)), hx.1, hxs⟩
          · exact absurd (hlt.trans_le hx.1) (not_lt.2 hxs.le)
        · have hex : e ≤ x := not_lt.1 fun hlt => hse ⟨hxs, hlt⟩
          rcases hs.before_last i hi with rfl | hlt
          · exact ⟨_, mem_carve.2 (.inr (.inr (.inl ⟨hex.trans_lt hx.2, rfl⟩))), hex, hx.2⟩
          · exact absurd (hx.2.trans hlt) (not_lt.2 hex)
    · exact ⟨i, mem_carve.2 (.inr (.inr (.inr hi))), hx⟩

end

end Carve
end Interval
end Systems
