import Mathlib.Data.List.Basic
import Mathlib.Logic.Function.Basic

/-!
# Scans of a list

A loop over a list is a fold; what it knows after each round is about the elements it
has seen so far.  `foldl_along` is the induction for that.  `foldl_absorbed` is for loops
that look for one of several equally good elements: once found, the loop cannot lose it,
and some element is always found.  `foldl_update` is for loops that overwrite one entry
of a table in each round.
-/
namespace Systems
variable {σ α : Type} {step : σ → α → σ}
variable {P : List α → σ → Prop} {s : σ}

/-- **The invariant of a scan**, about the elements seen so far. -/
theorem foldl_along (h : P [] s) (l : List α)
    (hstep : ∀ seen a s, seen ++ [a] <+: l → P seen s → P (seen ++ [a]) (step s a)) :
    P l (l.foldl step s) := by
  suffices hall : ∀ rest seen s, seen ++ rest = l → P seen s →
      P (seen ++ rest) (rest.foldl step s) from hall l [] s rfl h
  intro rest
  induction rest with
  | nil =>
    intro seen s _ hs
    rwa [List.append_nil]
  | cons a rest ih =>
    intro seen s hl hs
    rw [List.append_cons] at hl ⊢
    exact ih _ _ hl (hstep seen a s ⟨rest, hl⟩ hs)

theorem foldl_seen (h : P [] s) (l : List α)
    (hstep : ∀ seen a s, a ∈ l → P seen s → P (seen ++ [a]) (step s a)) : P l (l.foldl step s) :=
  foldl_along h l fun seen a s hinit => hstep seen a s (hinit.subset (by simp))

/-- A scan whose every round keeps `P`, and whose round at `a` establishes it. -/
theorem foldl_absorbed {I P : σ → Prop} {l : List α} {a : α} (ha : a ∈ l)
    (hI : ∀ s, ∀ b ∈ l, I s → I (step s b)) (hP : ∀ s, ∀ b ∈ l, I s → P s → P (step s b))
    (hfound : ∀ s, I s → P (step s a)) (hs : I s) : P (l.foldl step s) := by
  refine (foldl_seen (P := fun seen s => I s ∧ (a ∈ seen → P s)) ⟨hs, by simp⟩ l ?_).2 ha
  rintro seen b s hb ⟨hIs, hPs⟩
  refine ⟨hI s b hb hIs, fun hmem => ?_⟩
  rcases List.mem_append.mp hmem with hseen | hlast
  · exact hP s b hb hIs (hPs hseen)
  · exact List.mem_singleton.mp hlast ▸ hfound s hIs

/-- A loop that overwrites the entry of each key it visits, where doing so twice changes nothing
more, leaves the overwritten entries of the keys visited and no others. -/
theorem foldl_update {β : Type} [DecidableEq α] {f : α → β → β} (hf : ∀ a b, f a (f a b) = f a b)
    (l : List α) (u : α → β) (a : α) :
    l.foldl (fun u a => Function.update u a (f a (u a))) u a =
      if a ∈ l then f a (u a) else u a := by
  induction l generalizing u with
  | nil => rfl
  | cons b l ih =>
    rw [List.foldl_cons, ih]
    by_cases hab : a = b
    · subst hab
      simp [hf]
    · simp [hab]

end Systems
