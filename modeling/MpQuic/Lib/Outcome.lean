import Mathlib.Data.List.Basic
import Mathlib.Data.Option.Basic

/-!
# Computations that stop early and keep their state

A procedure that changes a state in place and may return an error leaves, when it
does, the state it had reached.  `Outcome σ ε` is such a result: the state, and the
error if there is one.  `andThen` runs a second procedure unless the first stopped,
`forEach` is a loop that stops at the first error, and `ignoring` drops the errors
the caller tolerates.

`Holds P E` is the postcondition of an outcome: `P` of the state in every case and
`E` of the error.  `FailsOnly E` says the same of the errors of a computation in
`Except`, and `Yields Q` of the values it returns.  `StopsWith R` relates the error of
an outcome to the state it was found in, which is the state left.  Each combinator has
one rule for each of them.
-/
namespace Systems

/-! ## Errors of pure computations -/

section Except
universe u v
variable {ε : Type u} {α β : Type v} {E : ε → Prop} {x : Except ε α} {f : α → Except ε β}
  {R : β → Prop}

/-- A computation that returned had a first part that returned. -/
theorem bind_eq_ok {b : β} (h : x >>= f = .ok b) : ∃ a, x = .ok a ∧ f a = .ok b := by
  rcases x with e | a
  · cases h
  · exact ⟨a, rfl, h⟩

/-- Every error the computation can end in meets `E`. -/
structure FailsOnly (E : ε → Prop) (x : Except ε α) : Prop where
  error : ∀ e, x = .error e → E e

@[simp] theorem failsOnly_ok (a : α) : FailsOnly E (.ok a) := ⟨by simp⟩

@[simp] theorem failsOnly_pure (a : α) : FailsOnly E (pure a : Except ε α) := failsOnly_ok a

@[simp] theorem failsOnly_error (e : ε) : FailsOnly E (.error e : Except ε α) ↔ E e :=
  ⟨fun h => h.error e rfl, fun h => ⟨by simpa using h⟩⟩

@[simp] theorem failsOnly_throw (e : ε) : FailsOnly E (throw e : Except ε α) ↔ E e :=
  failsOnly_error e

theorem FailsOnly.bind (hx : FailsOnly E x) (hf : ∀ a, x = .ok a → FailsOnly E (f a)) :
    FailsOnly E (x >>= f) := by
  rcases x with e | a
  · exact (failsOnly_error e).mpr (hx.error e rfl)
  · exact hf a rfl

theorem FailsOnly.ite {c : Prop} [Decidable c] {x y : Except ε α} (hx : FailsOnly E x)
    (hy : FailsOnly E y) : FailsOnly E (if c then x else y) := by
  by_cases hc : c
  · rw [if_pos hc]
    exact hx
  · rw [if_neg hc]
    exact hy

@[simp] theorem failsOnly_throw_bind (e : ε) (f : α → Except ε β) :
    FailsOnly E (throw e >>= f) ↔ E e :=
  failsOnly_error e

@[simp] theorem failsOnly_map (x : Except ε α) (f : α → β) :
    FailsOnly E (f <$> x) ↔ FailsOnly E x := by
  rcases x with e | a
  · exact (failsOnly_error e).trans (failsOnly_error e).symm
  · exact iff_of_true (failsOnly_ok _) (failsOnly_ok _)

theorem FailsOnly.mapM {as : List α} (h : ∀ a ∈ as, FailsOnly E (f a)) :
    FailsOnly E (as.mapM f) := by
  induction as with
  | nil => simp
  | cons a as ih =>
    rw [List.mapM_cons]
    refine FailsOnly.bind (h a (by simp)) fun b _ => ?_
    exact FailsOnly.bind (ih fun a ha => h a (by simp [ha])) (by simp)

theorem FailsOnly.imp {E' : ε → Prop} (h : FailsOnly E x) (hE : ∀ e, E e → E' e) : FailsOnly E' x :=
  ⟨fun e he => hE e (h.error e he)⟩

variable {Q : α → Prop}

/-- Every value the computation can return meets `Q`. -/
structure Yields (Q : α → Prop) (x : Except ε α) : Prop where
  value : ∀ a, x = .ok a → Q a

@[simp] theorem yields_ok (a : α) : Yields Q (.ok a : Except ε α) ↔ Q a :=
  ⟨fun h => h.value a rfl, fun h => ⟨by simpa using h⟩⟩

@[simp] theorem yields_pure (a : α) : Yields Q (pure a : Except ε α) ↔ Q a := yields_ok a

@[simp] theorem yields_error (e : ε) : Yields Q (.error e : Except ε α) := ⟨by simp⟩

theorem Yields.bind (hx : Yields Q x) (hf : ∀ a, Q a → Yields R (f a)) : Yields R (x >>= f) := by
  rcases x with e | a
  · exact yields_error e
  · exact hf a (hx.value a rfl)

@[simp] theorem yields_throw_bind (e : ε) (f : α → Except ε β) :
    Yields R (throw e >>= f) := yields_error e

/-- A computation whose value does not matter. -/
theorem yields_true (x : Except ε α) : Yields (fun _ => True) x := ⟨fun _ _ => trivial⟩

theorem Yields.imp {Q' : α → Prop} (h : Yields Q x) (hQ : ∀ a, Q a → Q' a) : Yields Q' x :=
  ⟨fun a ha => hQ a (h.value a ha)⟩

end Except

/-! ## Outcomes -/

/-- The state a procedure leaves, and the error it stopped with. -/
abbrev Outcome (σ ε : Type*) := σ × Option ε

namespace Outcome
variable {σ ε α : Type*}

/-- Continue with `f` unless there was an error. -/
def andThen (r : Outcome σ ε) (f : σ → Outcome σ ε) : Outcome σ ε :=
  match r.2 with
  | none => f r.1
  | some e => (r.1, some e)

/-- The result of a fallible computation that changes nothing when it fails. -/
def orElseKeep (s : σ) : Except ε α → (α → Outcome σ ε) → Outcome σ ε
  | .error e, _ => (s, some e)
  | .ok a, f => f a

/-- A loop that stops at the first error. -/
def forEach (body : α → σ → Outcome σ ε) : List α → σ → Outcome σ ε
  | [], s => (s, none)
  | a :: as, s => (body a s).andThen (forEach body as)

/-- Go on after an error that `ignored` accepts. -/
def ignoring (ignored : ε → Bool) (r : Outcome σ ε) : Outcome σ ε :=
  (r.1, r.2.filter fun e => !ignored e)

/-- The postcondition `P` on the state and `E` on the error. -/
def Holds (P : σ → Prop) (E : ε → Prop) (r : Outcome σ ε) : Prop :=
  P r.1 ∧ ∀ e, r.2 = some e → E e

section Rules
variable {P : σ → Prop} {E : ε → Prop} {r : Outcome σ ε}

@[simp] theorem andThen_none (s : σ) (f : σ → Outcome σ ε) : andThen (s, none) f = f s := rfl

@[simp] theorem andThen_some (s : σ) (e : ε) (f : σ → Outcome σ ε) :
    andThen (s, some e) f = (s, some e) := rfl

theorem andThen_assoc (r : Outcome σ ε) (f g : σ → Outcome σ ε) :
    (r.andThen f).andThen g = r.andThen fun s => (f s).andThen g := by
  obtain ⟨s, _ | e⟩ := r <;> rfl

variable {s : σ} {e : ε} {f : σ → Outcome σ ε} {x : Except ε α} {body : α → σ → Outcome σ ε}
  {as : List α}

theorem holds_ok (h : P s) : Holds P E (s, none) := ⟨h, by simp⟩

theorem holds_error (h : P s) (he : E e) : Holds P E (s, some e) := by
  refine ⟨h, ?_⟩
  intro e' h'
  obtain rfl : e = e' := by simpa using h'
  exact he

theorem Holds.andThen (h : Holds P E r) (hf : ∀ s, P s → Holds P E (f s)) :
    Holds P E (r.andThen f) := by
  obtain ⟨s, _ | e⟩ := r
  · exact hf s h.1
  · exact h

theorem holds_orElseKeep {f : α → Outcome σ ε} (h : P s) (he : FailsOnly E x)
    (hf : ∀ a, x = .ok a → Holds P E (f a)) : Holds P E (orElseKeep s x f) := by
  rcases x with e | a
  · exact holds_error h (he.error e rfl)
  · exact hf a rfl

/-- The rule of loops: what the body keeps holds after the loop. -/
theorem holds_forEach (hbody : ∀ a ∈ as, ∀ s, P s → Holds P E (body a s)) (h : P s) :
    Holds P E (forEach body as s) := by
  induction as generalizing s with
  | nil => exact holds_ok h
  | cons a as ih =>
    refine (hbody a (by simp) s h).andThen ?_
    intro s' h'
    exact ih (fun b hb => hbody b (by simp [hb])) h'

/-! What is kept whatever the errors are. -/

theorem state_andThen (h : P r.1) (hf : P (f r.1).1) : P (r.andThen f).1 := by
  obtain ⟨s, _ | e⟩ := r
  · exact hf
  · exact h

theorem state_orElseKeep {f : α → Outcome σ ε} (h : P s) (hf : ∀ a, x = .ok a → P (f a).1) :
    P (orElseKeep s x f).1 := by
  rcases x with e | a
  · exact h
  · exact hf a rfl

theorem state_forEach (hbody : ∀ a ∈ as, ∀ s, P s → P (body a s).1) (h : P s) :
    P (forEach body as s).1 := by
  induction as generalizing s with
  | nil => exact h
  | cons a as ih =>
    have hfirst := hbody a (by simp) s h
    exact state_andThen hfirst (ih (fun b hb => hbody b (by simp [hb])) hfirst)

theorem forEach_append (body : α → σ → Outcome σ ε) (as bs : List α) (s : σ) :
    forEach body (as ++ bs) s = (forEach body as s).andThen (forEach body bs) := by
  induction as generalizing s with
  | nil => rfl
  | cons a as ih =>
    rw [List.cons_append, forEach, forEach]
    obtain ⟨s', _ | e⟩ := body a s
    · exact ih s'
    · rfl

theorem Holds.ignoring (h : Holds P E r) (ignored : ε → Bool) : Holds P E (r.ignoring ignored) := by
  refine ⟨h.1, ?_⟩
  intro e he
  exact h.2 e (Option.filter_eq_some_iff.mp he).1

theorem Holds.imp {P' : σ → Prop} {E' : ε → Prop} (h : Holds P E r) (hP : ∀ s, P s → P' s)
    (hE : ∀ e, E e → E' e) : Holds P' E' r :=
  ⟨hP _ h.1, fun e he => hE e (h.2 e he)⟩

/-! Errors and the states they leave. -/

variable {R : σ → ε → Prop}

/-- The error the outcome stopped with, if any, meets `R` with the state it left. -/
structure StopsWith (R : σ → ε → Prop) (r : Outcome σ ε) : Prop where
  error : ∀ e, r.2 = some e → R r.1 e

theorem stopsWith_ok (s : σ) : StopsWith R (s, none) := ⟨by simp⟩

theorem stopsWith_error (h : R s e) : StopsWith R (s, some e) := by
  refine ⟨fun e' he => ?_⟩
  cases he
  exact h

theorem StopsWith.andThen (h : StopsWith R r) (hf : ∀ s, StopsWith R (f s)) :
    StopsWith R (r.andThen f) := by
  obtain ⟨s, _ | e⟩ := r
  · exact hf s
  · exact h

theorem stopsWith_orElseKeep {f : α → Outcome σ ε} (he : FailsOnly (R s) x)
    (hf : ∀ a, x = .ok a → StopsWith R (f a)) : StopsWith R (orElseKeep s x f) := by
  rcases x with e | a
  · exact stopsWith_error (he.error e rfl)
  · exact hf a rfl

theorem stopsWith_forEach (hbody : ∀ a ∈ as, ∀ s, StopsWith R (body a s)) (s : σ) :
    StopsWith R (forEach body as s) := by
  induction as generalizing s with
  | nil => exact stopsWith_ok s
  | cons a as ih =>
    exact (hbody a (by simp) s).andThen fun s' => ih (fun b hb => hbody b (by simp [hb])) s'

theorem StopsWith.ignoring (h : StopsWith R r) (ignored : ε → Bool) :
    StopsWith R (r.ignoring ignored) :=
  ⟨fun e he => h.error e (Option.filter_eq_some_iff.mp he).1⟩

theorem StopsWith.imp {R' : σ → ε → Prop} (h : StopsWith R r) (hR : ∀ s e, R s e → R' s e) :
    StopsWith R' r :=
  ⟨fun e he => hR _ e (h.error e he)⟩

end Rules
end Outcome
end Systems
