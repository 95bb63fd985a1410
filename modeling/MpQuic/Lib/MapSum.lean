import Mathlib.Algebra.BigOperators.Group.Finset.Basic
import Mathlib.Algebra.Order.BigOperators.Group.Finset
import MpQuic.Lib.Entries

/-!
# Sums over the entries of a map

`entrySum m g` adds up `g` over the values of a finite map.  A key without an entry
counts as 0 (`valueAt`), so replacing or erasing an entry changes the sum by the
difference at its key, and sums over maps with different keys compare key by key.
-/
namespace Systems
open Finset
variable {α V W : Type*} [DecidableEq α] {a : α} {m : AList fun _ : α => V} {g : V → Nat}
  {m' : AList fun _ : α => W} {g' : W → Nat}

/-- Two sums whose terms agree but for one index; either is taken over all the indices at which its
terms are not 0. -/
theorem sum_add_of_agree {M : Type*} [AddCommMonoid M] {s t : Finset α} {u v : α → M}
    (hs : ∀ b ∉ s, u b = 0) (ht : ∀ b ∉ t, v b = 0) (h : ∀ b, b ≠ a → v b = u b) :
    ∑ b ∈ t, v b + u a = ∑ b ∈ s, u b + v a := by
  let r := insert a (s ∪ t)
  have ha : a ∈ r := mem_insert_self ..
  have hsr : s ⊆ r := subset_union_left.trans (subset_insert ..)
  have htr : t ⊆ r := subset_union_right.trans (subset_insert ..)
  have hrest : ∑ b ∈ r.erase a, v b = ∑ b ∈ r.erase a, u b :=
    sum_congr rfl fun b hb => h b (ne_of_mem_erase hb)
  rw [sum_subset hsr fun b _ hb => hs b hb, sum_subset htr fun b _ hb => ht b hb,
    ← add_sum_erase r u ha, ← add_sum_erase r v ha, hrest, add_right_comm, add_right_comm (u a),
    add_comm (v a)]

/-- `g` of the entry for a key, 0 if there is none. -/
def valueAt (m : AList fun _ : α => V) (g : V → Nat) (a : α) : Nat := (m.lookup a).elim 0 g

/-- The sum of `g` over the entries. -/
def entrySum (m : AList fun _ : α => V) (g : V → Nat) : Nat := ∑ a ∈ m.keys.toFinset, valueAt m g a

section
variable {m : AList fun _ : α => V} {g : V → Nat} {a b : α} {v : V}

theorem valueAt_of_lookup (h : m.lookup a = some v) : valueAt m g a = g v := by
  rw [valueAt, h]
  rfl

theorem valueAt_of_none (h : m.lookup a = none) : valueAt m g a = 0 := by
  rw [valueAt, h]
  rfl

@[simp] theorem valueAt_insert_self (m : AList fun _ : α => V) (g : V → Nat) (a : α) (v : V) :
    valueAt (m.insert a v) g a = g v :=
  valueAt_of_lookup (AList.lookup_insert m)

theorem valueAt_insert_of_ne (h : b ≠ a) : valueAt (m.insert a v) g b = valueAt m g b := by
  rw [valueAt, valueAt, AList.lookup_insert_ne h]

/-- An entry with the same value is put in. -/
theorem valueAt_insert (h : g v = valueAt m g a) (b : α) :
    valueAt (m.insert a v) g b = valueAt m g b :=
  congr_lookup_insert (F := (·.elim 0 g)) h b

@[simp] theorem valueAt_erase_self (m : AList fun _ : α => V) (g : V → Nat) (a : α) :
    valueAt (m.erase a) g a = 0 :=
  valueAt_of_none (AList.lookup_erase a m)

theorem valueAt_erase_of_ne (h : b ≠ a) : valueAt (m.erase a) g b = valueAt m g b := by
  rw [valueAt, valueAt, AList.lookup_erase_ne h]

theorem mem_keys_of_valueAt_ne_zero (h : valueAt m g a ≠ 0) : a ∈ m.keys.toFinset := by
  rw [List.mem_toFinset]
  by_contra hkeys
  exact h (valueAt_of_none (AList.lookup_eq_none.mpr fun hmem => hkeys (AList.mem_keys.mp hmem)))

/-- Keys without an entry may be added to the sum. -/
theorem entrySum_eq_sum {s : Finset α} (hs : m.keys.toFinset ⊆ s) :
    entrySum m g = ∑ a ∈ s, valueAt m g a := by
  refine sum_subset hs ?_
  intro a _ ha
  by_contra hne
  exact ha (mem_keys_of_valueAt_ne_zero hne)

@[simp] theorem entrySum_empty (g : V → Nat) : entrySum (∅ : AList fun _ : α => V) g = 0 := rfl

/-- Two maps that agree but for one key. -/
theorem entrySum_of_agree {m' : AList fun _ : α => V}
    (h : ∀ b, b ≠ a → valueAt m' g b = valueAt m g b) :
    entrySum m' g + valueAt m g a = entrySum m g + valueAt m' g a :=
  sum_add_of_agree (fun _ hb => by_contra fun hne => hb (mem_keys_of_valueAt_ne_zero hne))
    (fun _ hb => by_contra fun hne => hb (mem_keys_of_valueAt_ne_zero hne)) h

theorem entrySum_insert (m : AList fun _ : α => V) (g : V → Nat) (a : α) (v : V) :
    entrySum (m.insert a v) g + valueAt m g a = entrySum m g + g v := by
  rw [entrySum_of_agree fun b hb => valueAt_insert_of_ne hb, valueAt_insert_self]

theorem entrySum_insert_of_eq (h : g v = valueAt m g a) :
    entrySum (m.insert a v) g = entrySum m g := by
  have hinsert := entrySum_insert m g a v
  omega

theorem entrySum_erase (m : AList fun _ : α => V) (g : V → Nat) (a : α) :
    entrySum (m.erase a) g + valueAt m g a = entrySum m g := by
  rw [entrySum_of_agree fun b hb => valueAt_erase_of_ne hb, valueAt_erase_self, Nat.add_zero]

end

/-- Sums compare key by key. -/
theorem entrySum_le (h : ∀ a, valueAt m g a ≤ valueAt m' g' a) : entrySum m g ≤ entrySum m' g' := by
  have hm : m.keys.toFinset ⊆ m.keys.toFinset ∪ m'.keys.toFinset := subset_union_left
  have hm' : m'.keys.toFinset ⊆ m.keys.toFinset ∪ m'.keys.toFinset := subset_union_right
  rw [entrySum_eq_sum hm, entrySum_eq_sum hm']
  exact sum_le_sum fun a _ => h a

/-- Sums compare key by key, and by more at one of the keys. -/
theorem entrySum_add_le {n : Nat} (ha : valueAt m g a + n ≤ valueAt m' g' a)
    (h : ∀ b, b ≠ a → valueAt m g b ≤ valueAt m' g' b) : entrySum m g + n ≤ entrySum m' g' := by
  have hm := entrySum_erase m g a
  have hm' := entrySum_erase m' g' a
  have hrest : entrySum (m.erase a) g ≤ entrySum (m'.erase a) g' := by
    refine entrySum_le fun b => ?_
    by_cases hb : b = a
    · rw [hb, valueAt_erase_self]
      exact Nat.zero_le _
    · rw [valueAt_erase_of_ne hb, valueAt_erase_of_ne hb]
      exact h b hb
  omega

end Systems
