import Mathlib.Data.List.Permutation
import MpQuic.QLearning

/-!
# Actions selected and actions credited

With three paths, the initial one and two others, the learning schedulers choose between
two actions.  A selection takes the action for an index into the list of the two paths
in the order in which it has met them; a reward is for the action 0 or 1 by the ID of its
path alone.  Here is when the action that a reward on a path is credited to is one whose
selection sends on that path.
-/
namespace MpQuic
open Session List

/-- The schedulers that are rewarded for their actions. -/
inductive RewardedScheduler
  | sac | sacmulti | qsat | fuzzyqsat | multiclients
  deriving DecidableEq, Repr

namespace SacScheduler

/-- The action whose probability is the weight of a reward on a path. -/
def creditIndex (pathID : Nat) : Nat := if pathID = 1 then 1 else 0

/-- A reward is shared out by the probability of the action it is credited to. -/
theorem weight_eq_creditIndex (action : ℚ) (pathID : Nat) :
    weight action pathID = if creditIndex pathID = 1 then action else 1 - action := by
  rw [weight, creditIndex]
  split <;> rfl

end SacScheduler

namespace RewardedScheduler
variable {κ : Type} [SendAlgorithm κ]

/-- The action that a reward on a path is credited to. -/
def creditIndex (name : RewardedScheduler) (s : Session κ) (env : Env) (pathID : Nat) : Nat :=
  match name with
  | .sac | .sacmulti => SacScheduler.creditIndex pathID
  | .qsat | .fuzzyqsat | .multiclients => QLearner.column s env pathID

/-- The selection of a path when an action is to be taken. -/
def selectAction (name : RewardedScheduler) (sch : Scheduler) (s : Session κ) (r : Retransmission)
    (env : Env) (action : Nat) : Selected :=
  match name with
  | .sac | .sacmulti => s.chooseByProbability false false (action = 1) r env
  | .qsat => withAction (s.availablePaths env) action fun _ => s.actQSAT r.hasRetransmission
  | .fuzzyqsat =>
    withAction (s.availablePaths env) action fun _ => s.actQlearning r.hasRetransmission
  | .multiclients =>
    withAction (s.availablePaths env) action (s.actWithin (spareCapacity (s.updatedS2 sch env)))

/-- The order in which a selection meets the paths `x` and `y`, and for some schedulers their RTTs
and the capacity that is left, make the action credited for `x` one that sends on `x`. -/
def Matches (name : RewardedScheduler) (sch : Scheduler) (s : Session κ) (env : Env) (x y : Nat) :
    Prop :=
  let inOrder := s.availablePaths env = [min x y, max x y]
  let col := if x < y then 0 else 1
  let spare := spareCapacity (s.updatedS2 sch env)
  match name with
  | .sac | .sacmulti => s.availablePaths env = if x = 1 then [y, x] else [x, y]
  | .qsat => s.smoothedRTTOf x < s.smoothedRTTOf y ∨
      inOrder ∧ s.smoothedRTTOf x = s.smoothedRTTOf y
  | .fuzzyqsat => inOrder
  | .multiclients => inOrder ∧ spare col ∨
      ¬ inOrder ∧ ¬ spare col ∧ spare (1 - col) ∧ s.smoothedRTTOf x < s.smoothedRTTOf y

/-! ## Three paths -/

/-- A table of three paths, the initial one and two others that may send. -/
structure TwoPaths (s : Session κ) (x y : Nat) : Prop where
  table : s.paths.keys.Perm [initialPathID, x, y]
  isByte : x < 2 ^ 8 ∧ y < 2 ^ 8
  maySend : ∀ id ∈ [x, y], ∃ pth, s.paths.lookup id = some pth ∧ pth.sendingAllowed = true

section
variable {s : Session κ} {x y : Nat} (h : TwoPaths s x y) {env : Env} (henv : env.Valid)
include h

theorem TwoPaths.nodup : x ≠ 0 ∧ y ≠ 0 ∧ x ≠ y := by
  have hnodup : [initialPathID, x, y].Nodup := h.table.nodup_iff.mp s.paths.keys_nodup
  simp only [nodup_cons, mem_cons, not_mem_nil, or_false, not_or] at hnodup
  exact ⟨Ne.symm hnodup.1.1, Ne.symm hnodup.1.2, hnodup.2.1⟩

include henv in
/-- A loop over the paths meets the two in one of two orders. -/
theorem TwoPaths.others (i : Nat) :
    (env.order i s.paths.keys).filter (· ≠ initialPathID) = [x, y] ∨
      (env.order i s.paths.keys).filter (· ≠ initialPathID) = [y, x] := by
  obtain ⟨hx, hy, -⟩ := h.nodup
  refine perm_pair.mp ?_
  have hperm := ((henv i s.paths.keys).trans h.table).filter (· ≠ initialPathID)
  simpa [initialPathID, hx, hy] using hperm

theorem TwoPaths.ifAllowed {id : Nat} (hid : id ∈ [x, y]) (otherwise : Selected) :
    s.ifAllowed id otherwise = .ok (some id) := by
  obtain ⟨pth, hpth, hallowed⟩ := h.maySend id hid
  rw [Session.ifAllowed, hpth]
  exact if_pos hallowed

include henv in
/-- The column of a path only depends on the two IDs. -/
theorem TwoPaths.column : QLearner.column s env x = if x < y then 0 else 1 := by
  obtain ⟨-, -, hne⟩ := h.nodup
  obtain ⟨hx, hy⟩ := h.isByte
  have hfirst : (QLearner.firstAndSecond s env).1 = min x y := by
    rw [QLearner.firstAndSecond, QLearner.observedPaths]
    rcases h.others henv 30 with hothers | hothers
    all_goals
      rw [hothers]
      simp only [firstAndSecondPath, foldl_cons, foldl_nil, if_true]
      split_ifs <;> dsimp only <;> omega
  rw [QLearner.column, hfirst]
  by_cases hlt : x < y
  · rw [if_pos hlt, if_pos (by omega)]
  · rw [if_neg hlt, if_neg (by omega)]

end

/-! ## Each scheduler -/

section
variable {s : Session κ} {x y : Nat} (h : TwoPaths s x y) {env : Env} (henv : env.Valid)
include h henv

/-- With the action that is credited for `x`, a SAC scheduler sends on `x` exactly if the paths are
available in the right order. -/
theorem sac_sends_iff (r : Retransmission) :
    s.chooseByProbability false false (SacScheduler.creditIndex x = 1) r env = .ok (some x) ↔
      s.availablePaths env = if x = 1 then [y, x] else [x, y] := by
  obtain ⟨-, -, hne⟩ := h.nodup
  -- the path that the action stands for is selected, so it has to be `x`
  have hchosen (id : Nat) (hid : id ∈ [x, y]) :
      s.ifAllowed id (s.orInitialPath r.hasRetransmission) = .ok (some x) ↔ id = x := by
    rw [h.ifAllowed hid, Except.ok.injEq, Option.some_inj]
  rw [chooseByProbability, SacScheduler.creditIndex, availablePaths]
  by_cases hone : x = 1
  · rcases h.others henv 20 with hothers | hothers
    · rw [hothers, if_pos hone, if_pos hone]
      refine (hchosen y (by simp)).trans ⟨fun hyx => absurd hyx.symm hne, ?_⟩
      intro heq
      exact (cons.inj heq).1.symm
    · rw [hothers, if_pos hone, if_pos hone]
      exact (hchosen x (by simp)).trans ⟨fun _ => rfl, fun _ => rfl⟩
  · rcases h.others henv 20 with hothers | hothers
    · rw [hothers, if_neg hone, if_neg hone]
      exact (hchosen x (by simp)).trans ⟨fun _ => rfl, fun _ => rfl⟩
    · rw [hothers, if_neg hone, if_neg hone]
      refine (hchosen y (by simp)).trans ⟨fun hyx => absurd hyx.symm hne, ?_⟩
      intro heq
      exact (cons.inj heq).1

/-- The action of the column of `x` stands for `x` exactly if the paths were met in order. -/
theorem withAction_column (act : Nat → Nat → Nat → Selected) :
    withAction (s.availablePaths env) (if x < y then 0 else 1) act =
      if s.availablePaths env = [min x y, max x y] then act (if x < y then 0 else 1) x y
      else act (if x < y then 0 else 1) y x := by
  obtain ⟨-, -, hne⟩ := h.nodup
  rw [availablePaths]
  by_cases hlt : x < y
  · rw [if_pos hlt, min_eq_left hlt.le, max_eq_right hlt.le]
    rcases h.others henv 20 with hothers | hothers
    · rw [hothers, if_pos rfl]
      rfl
    · rw [hothers, if_neg fun heq => hne (cons.inj heq).1.symm]
      rfl
  · have hle : y ≤ x := Nat.not_lt.mp hlt
    rw [if_neg hlt, min_eq_right hle, max_eq_left hle]
    rcases h.others henv 20 with hothers | hothers
    · rw [hothers, if_neg fun heq => hne (cons.inj heq).1]
      rfl
    · rw [hothers, if_pos rfl]
      rfl

omit henv in
theorem actQSAT_eq {id id' : Nat} (hid : id ∈ [x, y]) (hid' : id' ∈ [x, y]) (b : Bool) :
    s.actQSAT b id id' =
      .ok (some (if s.smoothedRTTOf id' < s.smoothedRTTOf id then id' else id)) := by
  rw [actQSAT, h.ifAllowed hid, h.ifAllowed hid']
  split_ifs <;> rfl

/-- With the action of the column of `x`, QSAT sends on `x` if it is faster, and at equal times if
the order is right. -/
theorem qsat_sends_iff (b : Bool) :
    withAction (s.availablePaths env) (if x < y then 0 else 1) (fun _ => s.actQSAT b) =
        .ok (some x) ↔
      s.smoothedRTTOf x < s.smoothedRTTOf y ∨ s.availablePaths env = [min x y, max x y] ∧
        s.smoothedRTTOf x = s.smoothedRTTOf y := by
  obtain ⟨-, -, hne⟩ := h.nodup
  rw [withAction_column h henv, actQSAT_eq h (by simp) (by simp), actQSAT_eq h (by simp) (by simp)]
  by_cases horder : s.availablePaths env = [min x y, max x y]
  · rw [if_pos horder, Except.ok.injEq, Option.some_inj]
    by_cases hfaster : s.smoothedRTTOf y < s.smoothedRTTOf x
    · rw [if_pos hfaster]
      refine ⟨fun hyx => absurd hyx.symm hne, ?_⟩
      rintro (hlt | ⟨-, heq⟩) <;> omega
    · rw [if_neg hfaster]
      refine ⟨fun _ => ?_, fun _ => rfl⟩
      rcases Int.lt_or_eq_of_le (Int.not_lt.mp hfaster) with hlt | heq
      · exact .inl hlt
      · exact .inr ⟨horder, heq⟩
  · rw [if_neg horder, Except.ok.injEq, Option.some_inj]
    by_cases hfaster : s.smoothedRTTOf x < s.smoothedRTTOf y
    · rw [if_pos hfaster]
      exact ⟨fun _ => .inl hfaster, fun _ => rfl⟩
    · rw [if_neg hfaster]
      refine ⟨fun hyx => absurd hyx.symm hne, ?_⟩
      rintro (hlt | ⟨hin, -⟩)
      · exact absurd hlt hfaster
      · exact absurd hin horder

theorem fuzzyqsat_sends_iff (b : Bool) :
    withAction (s.availablePaths env) (if x < y then 0 else 1) (fun _ => s.actQlearning b) =
        .ok (some x) ↔ s.availablePaths env = [min x y, max x y] := by
  obtain ⟨-, -, hne⟩ := h.nodup
  rw [withAction_column h henv, actQlearning, actQlearning, h.ifAllowed (by simp),
    h.ifAllowed (by simp)]
  split_ifs with horder
  · exact ⟨fun _ => horder, fun _ => rfl⟩
  · rw [Except.ok.injEq, Option.some_inj]
    exact ⟨fun hyx => absurd hyx.symm hne, fun hin => absurd hin horder⟩

theorem multiclients_sends_iff (spare : Nat → Bool) :
    let col := if x < y then 0 else 1
    withAction (s.availablePaths env) col (s.actWithin spare) = .ok (some x) ↔
      s.availablePaths env = [min x y, max x y] ∧ spare col ∨
        ¬ s.availablePaths env = [min x y, max x y] ∧ ¬ spare col ∧ spare (1 - col) ∧
          s.smoothedRTTOf x < s.smoothedRTTOf y := by
  intro col
  obtain ⟨-, -, hne⟩ := h.nodup
  have hact (id id' : Nat) (hid : id ∈ [x, y]) (hid' : id' ∈ [x, y]) :
      s.actWithin spare col id id' = .ok (if spare col then some id
        else if s.smoothedRTTOf id' < s.smoothedRTTOf id ∧ spare (1 - col) then some id'
        else none) := by
    rw [actWithin, h.ifAllowed hid, h.ifAllowed hid']
    split_ifs <;> rfl
  rw [withAction_column h henv, hact x y (by simp) (by simp), hact y x (by simp) (by simp)]
  by_cases horder : s.availablePaths env = [min x y, max x y]
  · rw [if_pos horder, Except.ok.injEq]
    split_ifs with hspare hother
    · exact ⟨fun _ => .inl ⟨horder, hspare⟩, fun _ => rfl⟩
    · simp [horder, hspare, hne.symm]
    · simp [horder, hspare]
  · rw [if_neg horder, Except.ok.injEq]
    split_ifs with hspare hother
    · simp [horder, hspare, hne.symm]
    · exact ⟨fun _ => .inr ⟨horder, hspare, hother.2, hother.1⟩, fun _ => rfl⟩
    · simp only [horder, hspare, reduceCtorEq, false_and, false_or, not_false_eq_true, true_and,
        false_iff]
      exact fun hboth => hother ⟨hboth.2, hboth.1⟩

end

/-- **Credit matches selection** exactly under a condition on the order in which the selection meets
the two paths, and for `qsat` and `multiclients` on their RTTs and the capacity left. -/
theorem credited_action_sends_iff (name : RewardedScheduler) (sch : Scheduler) {s : Session κ}
    {x y : Nat} (h : TwoPaths s x y) (r : Retransmission) {env env' : Env} (henv : env.Valid)
    (henv' : env'.Valid) :
    name.selectAction sch s r env (name.creditIndex s env' x) = .ok (some x) ↔
      name.Matches sch s env x y := by
  have hcolumn := h.column henv'
  cases name with
  | sac => exact sac_sends_iff h henv r
  | sacmulti => exact sac_sends_iff h henv r
  | qsat =>
    rw [selectAction, creditIndex, hcolumn]
    exact qsat_sends_iff h henv r.hasRetransmission
  | fuzzyqsat =>
    rw [selectAction, creditIndex, hcolumn]
    exact fuzzyqsat_sends_iff h henv r.hasRetransmission
  | multiclients =>
    rw [selectAction, creditIndex, hcolumn]
    exact multiclients_sends_iff h henv (spareCapacity (s.updatedS2 sch env))

/-! ## Two orders -/

/-- A client with the paths 0, 1 and 3. -/
def threePaths : Session FixedWindow :=
  let pth (id : Nat) : Path FixedWindow :=
    Path.setup id (sampleAddr 1 443) (sampleAddr 2 443) versionMP (SendAlgorithm.new true) 0
  ((sample .client).setPath 1 (pth 1)).setPath 3 (pth 3)

theorem twoPaths_threePaths : TwoPaths threePaths 1 3 where
  table := by decide +kernel
  isByte := by decide
  maySend := by
    have hall : ∀ id ∈ [1, 3], (threePaths.paths.lookup id).any (·.sendingAllowed) = true := by
      decide +kernel
    intro id hid
    have hany := hall id hid
    cases hpth : threePaths.paths.lookup id with
    | none =>
      rw [hpth] at hany
      cases hany
    | some pth =>
      rw [hpth] at hany
      exact ⟨pth, rfl, hany⟩

/-- Loops that meet the paths in one order or the other. -/
def forwards : Env := { now := 1 }

/-- The other order. -/
def backwards : Env := { now := 1, order := fun _ keys => keys.reverse }

theorem valid_forwards : forwards.Valid := fun _ _ => .refl _

theorem valid_backwards : backwards.Valid := fun _ keys => keys.reverse_perm

/-- If path 1 is met last, a reward on it is for the action that sends on it. -/
theorem sac_credit_matches :
    RewardedScheduler.sac.Matches { schedulerName := .sac } threePaths forwards 1 3 ∧
      RewardedScheduler.sac.selectAction { schedulerName := .sac } threePaths {} forwards
        (RewardedScheduler.sac.creditIndex threePaths backwards 1) = .ok (some 1) := by
  have hmatches : RewardedScheduler.sac.Matches { schedulerName := .sac } threePaths
      forwards 1 3 := by
    change threePaths.availablePaths forwards = [3, 1]
    decide +kernel
  exact ⟨hmatches, (credited_action_sends_iff .sac _ twoPaths_threePaths {} valid_forwards
    valid_backwards).mpr hmatches⟩

/-- If path 1 is met first, a reward on it is for the action that sends on path 3. -/
theorem sac_credits_other_path :
    TwoPaths threePaths 1 3 ∧ backwards.Valid ∧ forwards.Valid ∧
      RewardedScheduler.sac.selectAction { schedulerName := .sac } threePaths {} backwards
        (RewardedScheduler.sac.creditIndex threePaths forwards 1) = .ok (some 3) :=
  ⟨twoPaths_threePaths, valid_backwards, valid_forwards, by decide +kernel⟩

end RewardedScheduler
end MpQuic
