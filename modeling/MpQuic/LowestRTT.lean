import Mathlib.Data.Prod.Lex
import MpQuic.Lib.Scan
import MpQuic.SafeSelection

/-!
# The path with the lowest RTT

The loop of `rtt` finds a path of the lowest rank among those that are eligible: the
probed ones are ranked by their RTT, before the unprobed ones, which are ranked by
their quota.  The loops of `ecf` and `blest` go through the same states as far as the
best path is concerned, and what they do to find a second one is never used: the best
path they consider may always send.
-/
namespace MpQuic
open Systems List
namespace Session
variable {κ : Type} [SendAlgorithm κ] {s : Session κ} {any : Bool} {id : Nat} {pth : Path κ}

/-! ## The paths that are considered -/

/-- A path that may be selected: not the initial one, not potentially failed, and allowed to send
unless any window will do. -/
structure Eligible (s : Session κ) (any : Bool) (id : Nat) (pth : Path κ) : Prop where
  lookup : s.paths.lookup id = some pth
  notInitial : id ≠ initialPathID
  working : pth.potentiallyFailed = false
  allowed : any = true ∨ pth.sendingAllowed = true

/-- Probed paths by their RTT, before unprobed ones by their quota. -/
def rank (s : Session κ) (id : Nat) (pth : Path κ) : Bool ×ₗ Int :=
  toLex (pth.rttStats.smoothedRTT = 0,
    if pth.rttStats.smoothedRTT = 0 then (s.quotas id : Int) else pth.rttStats.smoothedRTT)

omit [SendAlgorithm κ] in
theorem rank_of_probed (h : pth.rttStats.smoothedRTT ≠ 0) :
    s.rank id pth = toLex (false, pth.rttStats.smoothedRTT) := by
  rw [rank, if_neg h, decide_eq_false h]

omit [SendAlgorithm κ] in
theorem rank_of_unprobed (h : pth.rttStats.smoothedRTT = 0) :
    s.rank id pth = toLex (true, (s.quotas id : Int)) := by
  rw [rank, if_pos h, decide_eq_true h]

variable {b : Nat} {best : Path κ} {l : LowLatency} {t : TwoBest}

omit [SendAlgorithm κ] in
theorem probed_of_rank_le (h : pth.rttStats.smoothedRTT ≠ 0) (hle : s.rank b best ≤ s.rank id pth) :
    best.rttStats.smoothedRTT ≠ 0 ∧
      best.rttStats.smoothedRTT ≤ pth.rttStats.smoothedRTT := by
  rw [rank_of_probed h] at hle
  by_cases hbest : best.rttStats.smoothedRTT = 0
  · rw [rank_of_unprobed hbest, Prod.Lex.toLex_le_toLex] at hle
    exact absurd hle (by simp)
  · rw [rank_of_probed hbest, Prod.Lex.toLex_le_toLex] at hle
    exact ⟨hbest, by simpa using hle⟩

/-- Whether the loops keep the best path so far instead of the one they come to. -/
def keepsBest (s : Session κ) (best : Option Nat) (lowerRTT : Int) (id : Nat) (pth : Path κ) :
    Bool :=
  s.unprobedSkipped best lowerRTT pth.rttStats.smoothedRTT id ||
    (pth.rttStats.smoothedRTT ≠ 0 && lowerRTT ≠ 0 && best.isSome &&
      lowerRTT ≤ pth.rttStats.smoothedRTT)

theorem lowLatencyRound_of_eligible (h : s.Eligible any id pth) (l : LowLatency) :
    s.lowLatencyRound any l id =
      if s.keepsBest l.selectedPath l.lowerRTT id pth then l
      else { selectedPath := some id, lowerRTT := pth.rttStats.smoothedRTT } := by
  have hallowed : ¬ (!any && !pth.sendingAllowed) = true := by
    rcases h.allowed with hany | hsend <;> simp [*]
  rw [lowLatencyRound, h.lookup]
  dsimp only
  rw [if_neg hallowed, if_neg (by simp [h.working]), if_neg h.notInitial, keepsBest]
  by_cases hskip : s.unprobedSkipped l.selectedPath l.lowerRTT pth.rttStats.smoothedRTT id = true
  · simp [hskip]
  · simp [hskip, and_assoc]

theorem lowLatencyRound_of_not_eligible (h : ∀ pth, ¬ s.Eligible any id pth) (l : LowLatency) :
    s.lowLatencyRound any l id = l := by
  rw [lowLatencyRound]
  split
  · rfl
  · next pth hpth =>
    dsimp only
    split_ifs with hallowed hfailed hinitial hskip hslower
    · rfl
    · rfl
    · rfl
    · rfl
    · rfl
    · refine absurd ⟨hpth, hinitial, by simpa using hfailed, ?_⟩ (h pth)
      by_contra hnot
      simp_all

omit [SendAlgorithm κ] in
/-- The loops only keep a path of at most the rank of the other one, and only replace it by such a
path. -/
theorem keepsBest_rank (s : Session κ) (b : Nat) (best : Path κ) (id : Nat) (pth : Path κ) :
    if s.keepsBest (some b) best.rttStats.smoothedRTT id pth then s.rank b best ≤ s.rank id pth
    else s.rank id pth ≤ s.rank b best := by
  by_cases hnew : pth.rttStats.smoothedRTT = 0
  · by_cases hold : best.rttStats.smoothedRTT = 0
    · simp only [keepsBest, unprobedSkipped, rank_of_unprobed hnew,
        rank_of_unprobed hold, hnew, hold,
        Prod.Lex.toLex_le_toLex]
      split
      · simp_all
        omega
      · simp_all
    · simp [keepsBest, unprobedSkipped, rank_of_unprobed hnew, rank_of_probed hold, hnew, hold,
        Prod.Lex.toLex_le_toLex]
  · by_cases hold : best.rttStats.smoothedRTT = 0
    · simp [keepsBest, unprobedSkipped, rank_of_probed hnew, rank_of_unprobed hold, hnew, hold,
        Prod.Lex.toLex_le_toLex]
    · simp only [keepsBest, unprobedSkipped, rank_of_probed hnew, rank_of_probed hold, hnew,
        Prod.Lex.toLex_le_toLex]
      split
      · simp_all
      · simp_all
        omega

/-! ## `rtt` -/

/-- What the loop of `rtt` knows of the paths it has seen. -/
structure LowLatency.Lowest (s : Session κ) (any : Bool) (seen : List Nat) (l : LowLatency) :
    Prop where
  nothing : l.selectedPath = none → l.lowerRTT = 0 ∧ ∀ id ∈ seen, ∀ pth, ¬ s.Eligible any id pth
  found : ∀ b, l.selectedPath = some b → ∃ best, s.Eligible any b best ∧
    l.lowerRTT = best.rttStats.smoothedRTT ∧
    ∀ id ∈ seen, ∀ pth, s.Eligible any id pth → s.rank b best ≤ s.rank id pth

/-- One iteration of `rtt`, for a path that is skipped, one that is faster and one that is not. -/
theorem LowLatency.Lowest.round {seen : List Nat} (h : l.Lowest s any seen) (id : Nat) :
    (s.lowLatencyRound any l id).Lowest s any (seen ++ [id]) := by
  by_cases hid : ∃ pth, s.Eligible any id pth
  · obtain ⟨pth, hpth⟩ := hid
    -- what holds for the path of this ID holds for the one that was just looked up
    have hlast {P : Path κ → Prop} (hP : P pth) : ∀ pth', s.Eligible any id pth' → P pth' :=
      fun pth' hpth' => Option.some.inj (hpth.lookup.symm.trans hpth'.lookup) ▸ hP
    rw [lowLatencyRound_of_eligible hpth]
    cases hbest : l.selectedPath with
    | none =>
      obtain ⟨hzero, hnone⟩ := h.nothing hbest
      have hkeeps : s.keepsBest none l.lowerRTT id pth = false := by
        simp [keepsBest, unprobedSkipped, hzero]
      rw [hkeeps]
      refine ⟨nofun, ?_⟩
      rintro _ ⟨⟩
      refine ⟨pth, hpth, rfl, forall_mem_append.mpr ⟨fun id' hid' pth' hpth' =>
        absurd hpth' (hnone id' hid' pth'), forall_mem_singleton.mpr (hlast le_rfl)⟩⟩
    | some b =>
      obtain ⟨best, hb, hlower, hlowest⟩ := h.found b hbest
      have hrank := s.keepsBest_rank b best id pth
      rw [hlower]
      by_cases hkeeps : s.keepsBest (some b) best.rttStats.smoothedRTT id pth = true
      · rw [if_pos hkeeps] at hrank ⊢
        refine ⟨fun hnone => by simp [hbest] at hnone, fun b' hb' => ?_⟩
        cases hbest.symm.trans hb'
        exact ⟨best, hb, hlower,
          forall_mem_append.mpr ⟨hlowest, forall_mem_singleton.mpr (hlast hrank)⟩⟩
      · rw [if_neg hkeeps] at hrank ⊢
        refine ⟨nofun, ?_⟩
        rintro _ ⟨⟩
        refine ⟨pth, hpth, rfl, forall_mem_append.mpr ⟨fun id' hid' pth' hpth' =>
          hrank.trans (hlowest id' hid' pth' hpth'), forall_mem_singleton.mpr (hlast le_rfl)⟩⟩
  · rw [not_exists] at hid
    rw [lowLatencyRound_of_not_eligible hid]
    have hlast {P : Path κ → Prop} (pth' : Path κ) (hpth' : s.Eligible any id pth') : P pth' :=
      absurd hpth' (hid pth')
    refine ⟨fun hnone => ?_, fun b hb => ?_⟩
    · obtain ⟨hzero, hnot⟩ := h.nothing hnone
      exact ⟨hzero, forall_mem_append.mpr ⟨hnot, forall_mem_singleton.mpr hid⟩⟩
    · obtain ⟨best, hbest, hlower, hlowest⟩ := h.found b hb
      exact ⟨best, hbest, hlower,
        forall_mem_append.mpr ⟨hlowest, forall_mem_singleton.mpr hlast⟩⟩

/-- The loop of `selectPathLowLatency`. -/
def lowLatency (s : Session κ) (any : Bool) (env : Env) : LowLatency :=
  (env.order 23 s.paths.keys).foldl (s.lowLatencyRound any) {}

theorem lowest_lowLatency (s : Session κ) (any : Bool) (env : Env) :
    (s.lowLatency any env).Lowest s any (env.order 23 s.paths.keys) :=
  foldl_seen ⟨fun _ => ⟨rfl, by simp⟩, nofun⟩ _ fun _ id _ _ h => h.round id

omit [SendAlgorithm κ] in
theorem mem_order {env : Env} (henv : env.Valid) (h : s.paths.lookup id = some pth) (i : Nat) :
    id ∈ env.order i s.paths.keys :=
  (henv i _).mem_iff.mpr (AList.lookup_isSome.mp (Option.isSome_of_mem h))

/-- `rtt` selects nothing exactly if no path is eligible.  Otherwise it selects an eligible path:
one of the lowest RTT among the probed ones, or if all are unprobed, one of the lowest quota. -/
theorem lowest_rtt_selected (s : Session κ) (r : Retransmission) (env : Env) (henv : env.Valid)
    (hlen : 2 ≤ s.paths.keys.length) (hquota : s.byLowQuota r env = .ok none) :
    (s.selectPathLowLatency r env = .ok none ↔
      ∀ id pth, ¬ s.Eligible r.hasRetransmission id pth) ∧
    ((∃ id pth, s.Eligible r.hasRetransmission id pth) →
      ∃ id pth, s.selectPathLowLatency r env = .ok (some id) ∧
        s.Eligible r.hasRetransmission id pth ∧
        ((∃ id' pth', s.Eligible r.hasRetransmission id' pth' ∧ pth'.rttStats.smoothedRTT ≠ 0) →
          pth.rttStats.smoothedRTT ≠ 0 ∧
          ∀ id' pth', s.Eligible r.hasRetransmission id' pth' → pth'.rttStats.smoothedRTT ≠ 0 →
            pth.rttStats.smoothedRTT ≤ pth'.rttStats.smoothedRTT) ∧
        ((∀ id' pth', s.Eligible r.hasRetransmission id' pth' → pth'.rttStats.smoothedRTT = 0) →
          ∀ id' pth', s.Eligible r.hasRetransmission id' pth' → s.quotas id ≤ s.quotas id')) := by
  have hselect : s.selectPathLowLatency r env =
      .ok (s.lowLatency r.hasRetransmission env).selectedPath := by
    rw [selectPathLowLatency, amongPaths, if_neg (by omega), orByLowQuota, hquota]
    rfl
  have hlowest := s.lowest_lowLatency r.hasRetransmission env
  rw [hselect]
  cases hbest : (s.lowLatency r.hasRetransmission env).selectedPath with
  | none =>
    have hnone (id : Nat) (pth : Path κ) : ¬ s.Eligible r.hasRetransmission id pth := fun h =>
      (hlowest.nothing hbest).2 id (mem_order henv h.lookup 23) pth h
    refine ⟨iff_of_true rfl hnone, ?_⟩
    rintro ⟨id, pth, h⟩
    exact absurd h (hnone id pth)
  | some b =>
    obtain ⟨best, heligible, -, hrank⟩ := hlowest.found b hbest
    have hprobed (id' : Nat) (pth' : Path κ) (h' : s.Eligible r.hasRetransmission id' pth')
        (hnew : pth'.rttStats.smoothedRTT ≠ 0) : best.rttStats.smoothedRTT ≠ 0 ∧
          best.rttStats.smoothedRTT ≤ pth'.rttStats.smoothedRTT :=
      probed_of_rank_le hnew (hrank id' (mem_order henv h'.lookup 23) pth' h')
    refine ⟨iff_of_false (by simp) fun hnone => hnone b best heligible, fun _ =>
      ⟨b, best, rfl, heligible, ?_, fun hunprobed id' pth' h' => ?_⟩⟩
    · rintro ⟨id', pth', h', hnew⟩
      exact ⟨(hprobed id' pth' h' hnew).1, fun id' pth' h' hnew => (hprobed id' pth' h' hnew).2⟩
    · have hle := hrank id' (mem_order henv h'.lookup 23) pth' h'
      rw [rank_of_unprobed (hunprobed b best heligible), rank_of_unprobed (hunprobed id' pth' h'),
        Prod.Lex.toLex_le_toLex] at hle
      simpa using hle

/-- Path 3 of a server whose client has created the paths 1 and 3 may send, so one is selected. -/
theorem lowest_rtt_selects_created_path :
    (serverWith [1, 3]).selectPathLowLatency {} { now := 0 } ≠ .ok none := by
  have hiff := (lowest_rtt_selected (serverWith [1, 3]) {} { now := 0 } (fun _ _ => .refl _)
    (by decide) rfl).1
  exact fun hnone => hiff.mp hnone 3 _ ⟨rfl, by decide, rfl, .inr rfl⟩

/-! ## `ecf` and `blest` -/

/-- Whether a round looks up the quota of a path: the path is considered, and neither it nor the
best one so far is probed. -/
def readsQuota (s : Session κ) (any : Bool) (lowerRTT : Int) (id : Nat) : Bool :=
  match s.paths.lookup id with
  | none => false
  | some pth => (any || pth.sendingAllowed) && !pth.potentiallyFailed && id ≠ initialPathID &&
      lowerRTT = 0 && pth.rttStats.smoothedRTT = 0

/-- `sch.quotas` after a round: a path without a quota gets one when it is looked up. -/
def quotasRound (s : Session κ) (any : Bool) (lowerRTT : Int) (quotas : GoMap Nat) (id : Nat) :
    GoMap Nat :=
  if s.readsQuota any lowerRTT id && (quotas.lookup id).isNone then quotas.insert id 0 else quotas

/-- `sch.quotas` after a selection whose loop goes through the given rounds. -/
def quotasAfter {σ : Type} (s : Session κ) (r : Retransmission) (env : Env) (quotas : GoMap Nat)
    (round : σ → Nat → σ) (lowerRTT : σ → Int) (start : σ) : GoMap Nat :=
  if 1 < s.paths.keys.length && (s.byLowQuota r env).toOption == some none then
    ((env.order 23 s.paths.keys).foldl (fun v id =>
      (round v.1 id, s.quotasRound r.hasRetransmission (lowerRTT v.1) v.2 id)) (start, quotas)).2
  else quotas

/-- `sch.quotas` after `selectPathLowLatency`. -/
def selectPathLowLatencyQuotas (s : Session κ) (r : Retransmission) (env : Env)
    (quotas : GoMap Nat) : GoMap Nat :=
  s.quotasAfter r env quotas (s.lowLatencyRound r.hasRetransmission) (·.lowerRTT) {}

/-- `sch.quotas` after `selectECF`. -/
def selectECFQuotas (s : Session κ) (r : Retransmission) (env : Env) (quotas : GoMap Nat) :
    GoMap Nat :=
  s.quotasAfter r env quotas (s.twoBestRound r.hasRetransmission) (·.lowerRTT) {}

/-- `sch.quotas` after `selectBLEST`. -/
def selectBLESTQuotas (s : Session κ) (r : Retransmission) (env : Env) (quotas : GoMap Nat) :
    GoMap Nat :=
  s.quotasAfter r env quotas (s.twoBestRound r.hasRetransmission) (·.lowerRTT) {}

theorem twoBestRound_of_eligible (h : s.Eligible any id pth) (t : TwoBest) :
    s.twoBestRound any t id =
      if s.unprobedSkipped t.bestPath t.lowerRTT pth.rttStats.smoothedRTT id then t
      else t.update id pth := by
  have hallowed : ¬ (!any && !pth.sendingAllowed) = true := by
    rcases h.allowed with hany | hsend <;> simp [*]
  rw [twoBestRound, h.lookup]
  dsimp only
  rw [if_neg hallowed, if_neg (by simp [h.working]), if_neg h.notInitial]

theorem twoBestRound_of_not_eligible (h : ∀ pth, ¬ s.Eligible any id pth) (t : TwoBest) :
    s.twoBestRound any t id = t := by
  rw [twoBestRound]
  split
  · rfl
  · next pth hpth =>
    split_ifs with hallowed hfailed hinitial hskip
    · rfl
    · rfl
    · rfl
    · rfl
    · refine absurd ⟨hpth, hinitial, by simpa using hfailed, ?_⟩ (h pth)
      by_contra hnot
      simp_all

/-- The loop for two paths follows the one for the best path. -/
structure TwoBest.Follows (s : Session κ) (any : Bool) (l : LowLatency) (t : TwoBest) : Prop where
  best : t.bestPath = l.selectedPath
  lower : t.lowerRTT = l.lowerRTT
  second : t.bestPath = none → t.secondBestPath = none
  eligible : ∀ b, t.bestPath = some b → ∃ best, s.Eligible any b best

/-- The loop that remembers two paths has the best path of the other one after each iteration. -/
theorem TwoBest.Follows.round (h : t.Follows s any l) (id : Nat) :
    (s.twoBestRound any t id).Follows s any (s.lowLatencyRound any l id) := by
  by_cases hid : ∃ pth, s.Eligible any id pth
  · obtain ⟨pth, hpth⟩ := hid
    rw [twoBestRound_of_eligible hpth, lowLatencyRound_of_eligible hpth, keepsBest, ← h.best,
      ← h.lower]
    by_cases hskip : s.unprobedSkipped t.bestPath t.lowerRTT pth.rttStats.smoothedRTT id = true
    · rw [if_pos hskip, if_pos (by rw [hskip, Bool.true_or])]
      exact h
    · rw [if_neg hskip, TwoBest.update]
      by_cases hslower : t.lowerRTT ≤ pth.rttStats.smoothedRTT ∧ pth.rttStats.smoothedRTT ≠ 0 ∧
          t.lowerRTT ≠ 0 ∧ t.bestPath.isSome = true
      · rw [if_pos hslower, if_pos (by simp [hslower])]
        have hsome : t.bestPath ≠ none := Option.isSome_iff_ne_none.mp hslower.2.2.2
        split
        · exact ⟨h.best, h.lower, fun hnone => absurd hnone hsome, h.eligible⟩
        · exact h
      · rw [if_neg hslower,
          if_neg (by simpa [hskip] using fun h₁ h₂ h₃ h₄ => hslower ⟨h₄, h₁, h₂, h₃⟩)]
        refine ⟨rfl, rfl, (fun h => by cases h), ?_⟩
        rintro _ ⟨⟩
        exact ⟨pth, hpth⟩
  · rw [not_exists] at hid
    rw [twoBestRound_of_not_eligible hid, lowLatencyRound_of_not_eligible hid]
    exact h

theorem follows_start : TwoBest.Follows s any {} {} := ⟨rfl, rfl, fun _ => rfl, nofun⟩

theorem twoBest_follows (s : Session κ) (any : Bool) (env : Env) :
    (s.twoBest any env).Follows s any (s.lowLatency any env) := by
  rw [twoBest, lowLatency]
  exact foldl_rel (r := fun t l => TwoBest.Follows s any l t) follows_start
    fun id _ _ _ h => h.round id

/-- The best path may send if it has to, so the second one is not needed. -/
theorem TwoBest.Follows.chooseBest (h : t.Follows s any l) (useSecond : Path κ → Path κ → Bool) :
    s.chooseBest any t useSecond = .ok l.selectedPath := by
  rw [Session.chooseBest, ← h.best]
  cases hbest : t.bestPath with
  | none => exact congrArg Except.ok (h.second hbest)
  | some b =>
    obtain ⟨best, heligible⟩ := h.eligible b hbest
    dsimp only
    rw [heligible.lookup]
    dsimp only
    rw [if_pos (by rcases heligible.allowed with hany | hsend <;> simp [*])]

theorem quotasAfter_twoBest (s : Session κ) (r : Retransmission) (env : Env) (quotas : GoMap Nat) :
    s.quotasAfter r env quotas (s.twoBestRound r.hasRetransmission) (·.lowerRTT) {} =
      s.selectPathLowLatencyQuotas r env quotas := by
  rw [selectPathLowLatencyQuotas, quotasAfter, quotasAfter]
  refine if_congr Iff.rfl
    (foldl_rel (r := fun (v : TwoBest × GoMap Nat) (w : LowLatency × GoMap Nat) =>
    TwoBest.Follows s r.hasRetransmission w.1 v.1 ∧ v.2 = w.2) ⟨follows_start, rfl⟩ ?_).2 rfl
  rintro id - v w ⟨hfollows, hquotas⟩
  exact ⟨hfollows.round id, by rw [hfollows.lower, hquotas]⟩

/-- `ecf` and `blest` select the path that `rtt` selects, and leave the quotas that `rtt` leaves. -/
theorem ecf_and_blest_select_lowest_rtt (sch : Scheduler) (s : Session κ) (r : Retransmission)
    (env : Env) (quotas : GoMap Nat) :
    s.selectECF sch r env = s.selectPathLowLatency r env ∧
      s.selectBLEST r env = s.selectPathLowLatency r env ∧
      s.selectECFQuotas r env quotas = s.selectPathLowLatencyQuotas r env quotas ∧
      s.selectBLESTQuotas r env quotas = s.selectPathLowLatencyQuotas r env quotas := by
  have hfollows := s.twoBest_follows r.hasRetransmission env
  have hquotas := s.quotasAfter_twoBest r env quotas
  refine ⟨?_, ?_, hquotas, hquotas⟩
  · rw [selectECF, hfollows.chooseBest]
    rfl
  · rw [selectBLEST, hfollows.chooseBest]
    rfl

end Session
end MpQuic
