import Mathlib.Logic.Function.Basic

/-!
# Transition systems, and runs whose steps all meet a condition

A `Machine` is a set of initial states and a labelled step relation.  `Reach C`
collects the states of the runs in which every step taken meets the condition
`C` on the state before it and its label; `Reach` under the condition that is
always met is plain reachability.  Every safety statement of the development is
an instance of `Reach.invariant`: the property holds initially and one step
under `C` keeps it.
-/
namespace Systems

/-- A labelled transition system. -/
structure Machine (State Label : Type) where
  /-- The states a run may start in. -/
  init : State → Prop
  /-- `step s l s'`: from `s` the action `l` may lead to `s'`. -/
  step : State → Label → State → Prop

namespace Machine
variable {State Label : Type} (M : Machine State Label)

/-- The states of the runs of `M` whose steps all meet `C`. -/
inductive Reach (C : State → Label → Prop) : State → Prop
  | init {s : State} : M.init s → Reach C s
  | step {s s' : State} {l : Label} : Reach C s → C s l → M.step s l s' → Reach C s'

/-- The condition every step meets: `Reach Always` is plain reachability. -/
def Always : State → Label → Prop := fun _ _ => True

variable {M} {C P : State → Label → Prop} {s : State} {next : State → Label → State}
  {ls : List Label}

/-- **The invariant rule.** -/
theorem Reach.invariant {P : State → Prop} (h : M.Reach C s) (hinit : ∀ s, M.init s → P s)
    (hstep : ∀ s l s', P s → C s l → M.step s l s' → P s') : P s := by
  induction h with
  | init h0 => exact hinit _ h0
  | step _ hc hs ih => exact hstep _ _ _ ih hc hs

/-- A weaker condition reaches at least the same states. -/
theorem Reach.mono {D : State → Label → Prop} (hCD : ∀ s l, C s l → D s l) (h : M.Reach C s) :
    M.Reach D s := by
  induction h with
  | init h0 => exact .init h0
  | step _ hc hs ih => exact .step ih (hCD _ _ hc) hs

/-- `P` holds of each action of a list in the state `next` computes for it. -/
def Meets (P : State → Label → Prop) (next : State → Label → State) : State → List Label → Prop
  | _, [] => True
  | s, l :: ls => P s l ∧ Meets P next (next s l) ls

instance Meets.decidable {P : State → Label → Prop} {next : State → Label → State}
    [∀ s l, Decidable (P s l)] : (s : State) → (ls : List Label) → Decidable (Meets P next s ls)
  | _, [] => isTrue trivial
  | s, l :: ls =>
    have : Decidable (Meets P next (next s l) ls) := Meets.decidable (next s l) ls
    inferInstanceAs (Decidable (P s l ∧ Meets P next (next s l) ls))

/-- If `P` makes the steps to `next` possible for the actions of a list, the state after the list is
reached. -/
theorem Reach.foldl_of_mem (h : M.Reach C s)
    (hP : ∀ s, ∀ l ∈ ls, P s l → C s l ∧ M.step s l (next s l)) (hls : Meets P next s ls) :
    M.Reach C (ls.foldl next s) := by
  induction ls generalizing s with
  | nil => exact h
  | cons l ls ih =>
    obtain ⟨hc, hstep⟩ := hP s l (by simp) hls.1
    exact ih (.step h hc hstep) (fun s l hl => hP s l (by simp [hl])) hls.2

/-- If `P` makes the steps to `next` possible, the state after the list is reached. -/
theorem Reach.foldl (h : M.Reach C s) (hP : ∀ s l, P s l → C s l ∧ M.step s l (next s l))
    (hls : Meets P next s ls) : M.Reach C (ls.foldl next s) :=
  h.foldl_of_mem (fun s l _ => hP s l) hls

/-! ## Two runs -/

/-- **The unwinding rule.**  If visible actions keep a relation between two states when both take
them, and the others when only the first state takes them, a run is related to the run of its
visible actions. -/
theorem unwinding {R : State → State → Prop} {visible : Label → Bool}
    (hvisible : ∀ s t, ∀ l ∈ ls, visible l = true → R s t → R (next s l) (next t l))
    (hother : ∀ s t, ∀ l ∈ ls, visible l = false → R s t → R (next s l) t) {s t : State}
    (h : R s t) : R (ls.foldl next s) ((ls.filter visible).foldl next t) := by
  induction ls generalizing s t with
  | nil => exact h
  | cons l ls ih =>
    have hrest := @ih (fun s t l hl => hvisible s t l (by simp [hl]))
      (fun s t l hl => hother s t l (by simp [hl]))
    cases hl : visible l with
    | true =>
      rw [List.filter_cons_of_pos hl, List.foldl_cons, List.foldl_cons]
      exact hrest (hvisible s t l (by simp) hl h)
    | false =>
      rw [List.filter_cons_of_neg (by simp [hl]), List.foldl_cons]
      exact hrest (hother s t l (by simp) hl h)

end Machine
end Systems
