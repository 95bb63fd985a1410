import MpQuic.SacLearning

/-!
# Requests to the policy

`sac` and `sacmulti` ask the model server for a new action after eleven calls that reach
the policy.  The probability they have got last also stands for the state of the request:
0 if there has been none, and 1 while the answer to the first one is awaited.  If the first
request fails, or the answer is 1, the schedulers wait for ever.
-/
namespace MpQuic.SacScheduler
open List
variable {σ : Type} {sch : SacScheduler σ} {rewards : RewardTable σ} {stateData : σ}

/-- A call that reaches the policy: the table of the rewards then, and the state observed. -/
abbrev PolicyCall (σ : Type) := RewardTable σ × σ

/-- A call issues a request. -/
def Issues (sch : SacScheduler σ) (call : PolicyCall σ) : Prop :=
  (sch.observe call.1 call.2).1.requests ≠ sch.requests

/-- One of some consecutive calls issues a request. -/
def Consults (sch : SacScheduler σ) : List (PolicyCall σ) → Prop
  | [] => False
  | call :: calls => sch.Issues call ∨ (sch.observe call.1 call.2).1.Consults calls

/-- The payload of the current action is one of the scheduler's own type, if there is any. -/
def Recognises (sch : SacScheduler σ) (rewards : RewardTable σ) : Prop :=
  ∀ payload, rewards sch.currentProb = some payload → payload.kind = sch.kind

theorem issues_of_no_action (h : sch.currentProb = 0) (call : PolicyCall σ) : sch.Issues call := by
  rw [Issues, observe, if_pos h]
  exact fun heq => absurd (congrArg length heq) (by simp [getActionAsync])

theorem observe_waiting (h : sch.currentProb = 1) : (sch.observe rewards stateData).1 = sch := by
  rw [observe, if_neg (by simp [h]), if_pos h]

section Acting
variable (h0 : sch.currentProb ≠ 0) (h1 : sch.currentProb ≠ 1)
include h0 h1

theorem observe_counting (hcount : ¬ 10 < sch.countAction) :
    (sch.observe rewards stateData).1 = { sch with countAction := sch.countAction + 1 } := by
  rw [observe, if_neg h0, if_neg h1, if_neg hcount]

theorem issues_of_recognises {call : PolicyCall σ} (hcount : 10 < sch.countAction)
    (hown : sch.Recognises call.1) : sch.Issues call := by
  rw [Issues, observe, if_neg h0, if_neg h1, if_pos hcount]
  have hlonger : (({ sch with countAction := 0 }).getActionAsync call.2).requests ≠ sch.requests :=
    fun heq => absurd (congrArg length heq) (by simp [getActionAsync])
  cases hpayload : call.1 sch.currentProb with
  | none => exact hlonger
  | some payload =>
    dsimp only
    rw [if_neg (by simp [hown payload hpayload])]
    exact hlonger

theorem observe_unrecognised (hcount : 10 < sch.countAction) (hother : ¬ sch.Recognises rewards)
    (stateData : σ) : (sch.observe rewards stateData).1 = sch := by
  simp only [Recognises, not_forall] at hother
  obtain ⟨payload, hpayload, hkind⟩ := hother
  rw [observe, if_neg h0, if_neg h1, if_pos hcount, hpayload]
  dsimp only
  rw [if_pos hkind]

end Acting

/-- Without an answer to wait for, the calls count up to the request, which is issued by the first
call after that whose payload is recognised. -/
theorem consults_acting (calls : List (PolicyCall σ)) (h0 : sch.currentProb ≠ 0)
    (h1 : sch.currentProb ≠ 1) : sch.Consults calls ↔
      ∃ i, ∃ call, calls[i]? = some call ∧ 10 < sch.countAction + i ∧ sch.Recognises call.1 := by
  induction calls generalizing sch with
  | nil => simp [Consults]
  | cons call calls ih =>
    rw [Consults]
    by_cases hcount : 10 < sch.countAction
    · by_cases hown : sch.Recognises call.1
      · exact iff_of_true (.inl (issues_of_recognises h0 h1 hcount hown))
          ⟨0, call, rfl, hcount, hown⟩
      · have hsame := observe_unrecognised h0 h1 hcount hown call.2
        rw [Issues, hsame, ih h0 h1]
        constructor
        · rintro (hne | ⟨i, call', hcall, -, hown'⟩)
          · exact absurd rfl hne
          · exact ⟨i + 1, call', hcall, by omega, hown'⟩
        · rintro ⟨i, call', hcall, -, hown'⟩
          cases i with
          | zero =>
            cases hcall
            exact absurd hown' hown
          | succ i => exact .inr ⟨i, call', hcall, by omega, hown'⟩
    · have hnext := @ih { sch with countAction := sch.countAction + 1 } h0 h1
      rw [Issues, observe_counting h0 h1 hcount, hnext]
      constructor
      · rintro (hne | ⟨i, call', hcall, hi, hown'⟩)
        · exact absurd rfl hne
        · exact ⟨i + 1, call', hcall, by dsimp only at hi; omega, hown'⟩
      · rintro ⟨i, call', hcall, hi, hown'⟩
        cases i with
        | zero => omega
        | succ i => exact .inr ⟨i, call', hcall, by dsimp only; omega, hown'⟩

theorem consults_waiting (calls : List (PolicyCall σ)) (h : sch.currentProb = 1) :
    ¬ sch.Consults calls := by
  induction calls with
  | nil => exact id
  | cons call calls ih =>
    rw [Consults, Issues, observe_waiting h]
    rintro (hne | hconsults)
    · exact hne rfl
    · exact ih hconsults

/-- One of thirteen calls in a row issues a request exactly if there has been no action yet, or
there is one that is not 1 and its payload is recognised by a call after the first eleven. -/
theorem policy_consulted_iff (sch : SacScheduler σ) (calls : Fin 13 → PolicyCall σ) :
    sch.Consults (ofFn calls) ↔ sch.currentProb = 0 ∨ sch.currentProb ≠ 1 ∧
      ∃ i : Fin 13, 10 < sch.countAction + i ∧ sch.Recognises (calls i).1 := by
  by_cases h0 : sch.currentProb = 0
  · refine iff_of_true ?_ (.inl h0)
    rw [ofFn_succ]
    exact .inl (issues_of_no_action h0 _)
  by_cases h1 : sch.currentProb = 1
  · exact iff_of_false (consults_waiting _ h1) (by simp [h1])
  rw [consults_acting _ h0 h1]
  simp only [h0, h1, false_or, ne_eq, not_false_eq_true, true_and]
  constructor
  · rintro ⟨i, call, hcall, hi, hown⟩
    obtain ⟨hlt, heq⟩ := List.getElem?_eq_some_iff.mp hcall
    rw [length_ofFn] at hlt
    rw [List.getElem_ofFn] at heq
    exact ⟨⟨i, hlt⟩, hi, heq ▸ hown⟩
  · rintro ⟨i, hi, hown⟩
    exact ⟨i, calls i, by rw [List.getElem?_ofFn, dif_pos i.isLt], hi, hown⟩

/-- A scheduler whose first request has got the given answer. -/
def answered (probability : Option ℚ) : SacScheduler Unit × RewardTable Unit :=
  let (sch, rewards) := SacScheduler.observe { kind := .dqn, modelID := 1 } (fun _ => none) ()
  sch.receiveAction rewards 0 probability

/-- If the first request fails, or the answer is 1, no request is awaited, and no more is issued. -/
theorem policy_not_consulted_again :
    (answered none).1.requests = [] ∧
      ¬ (answered none).1.Consults (ofFn fun _ : Fin 13 => ((answered none).2, ())) ∧
    (answered (some 1)).1.requests = [] ∧
      ¬ (answered (some 1)).1.Consults (ofFn fun _ : Fin 13 => ((answered (some 1)).2, ())) :=
  ⟨rfl, consults_waiting _ rfl, rfl, consults_waiting _ rfl⟩

end MpQuic.SacScheduler
