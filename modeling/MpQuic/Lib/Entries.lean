import Mathlib.Data.List.AList

/-!
# The entries of a map

Putting an entry into a map changes what is found under its key only.  The rules take what is
known of the entries before to the entries after.
-/
namespace Systems
open AList
variable {α V W : Type*} [DecidableEq α] {m : AList fun _ : α => V} {a : α} {v : V}
variable {P : α → V → Prop}

theorem forall_lookup_empty : ∀ b w, (∅ : AList fun _ : α => V).lookup b = some w → P b w := by
  intro b w hw
  cases (lookup_empty b).symm.trans hw

/-- What holds of the entries and of a new one holds after that is put in. -/
theorem forall_lookup_insert (hnew : P a v) (hm : ∀ b w, m.lookup b = some w → P b w) :
    ∀ b w, (m.insert a v).lookup b = some w → P b w := by
  intro b w hw
  by_cases hb : b = a
  · subst hb
    rw [lookup_insert, Option.some.injEq] at hw
    exact hw ▸ hnew
  · rw [lookup_insert_ne hb] at hw
    exact hm b w hw

/-- Every entry is still there or replaced by the new one. -/
theorem exists_lookup_insert {R : V → V → Prop} (hnew : ∀ w, m.lookup a = some w → R w v)
    (hm : ∀ b w, m.lookup b = some w → R w w) :
    ∀ b w, m.lookup b = some w → ∃ w', (m.insert a v).lookup b = some w' ∧ R w w' := by
  intro b w hw
  by_cases hb : b = a
  · subst hb
    exact ⟨v, lookup_insert m, hnew w hw⟩
  · exact ⟨w, (lookup_insert_ne hb).trans hw, hm b w hw⟩

/-- What is read under every key stays the same if it does so under the key of the new entry. -/
theorem congr_lookup_insert {F : Option V → W} (h : F (some v) = F (m.lookup a)) (b : α) :
    F ((m.insert a v).lookup b) = F (m.lookup b) := by
  by_cases hb : b = a
  · rw [hb, lookup_insert, h]
  · rw [lookup_insert_ne hb]

end Systems
