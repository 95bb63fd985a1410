import MpQuic.HandlePacket
import MpQuic.RespectsWindow

/-!
# Path selection and missing paths

Every algorithm but `random` only uses the paths it has found in the table: the loops
visit its keys, and the learning schedulers index the list of the paths beside the
initial one, of which there are two when they come to it.  `random` chooses between the
IDs 1 and 3, whether they exist or not.
-/
namespace MpQuic
namespace Session
variable {κ : Type} {s : Session κ} {x : Selected} {pathID : Nat} {r : Retransmission} {env : Env}

/-- The selection returns a path or the nil path. -/
def Returns (x : Selected) : Prop := ∃ best, x = .ok best

@[simp] theorem returns_ok (best : Option Nat) : Returns (.ok best) := ⟨best, rfl⟩

@[simp] theorem not_returns_error (e : Err) : ¬ Returns (.error e) := nofun

/-! ## Retransmissions -/

/-- The path a retransmission comes from is in the table. -/
def FromTable (s : Session κ) (r : Retransmission) : Prop :=
  r.hasRetransmission = true → ∃ id ∈ s.paths, r.fromPth = some id

/-- A retransmission of stream data from an unprobed path finds a path with a lower quota. -/
def HasLowQuota (s : Session κ) (r : Retransmission) : Prop :=
  r.hasRetransmission = true ∧ r.hasStreamRetransmission = true ∧
    ∃ fromPth, (r.fromPth.bind fun id => s.paths.lookup id) = some fromPth ∧
      fromPth.rttStats.smoothedRTT = 0 ∧
      ∃ id ∈ s.paths, id ≠ initialPathID ∧ id ≠ fromPth.pathID ∧
        s.quotas id < s.quotas fromPth.pathID

theorem byLowQuota_returns (henv : env.Valid) (hfrom : s.FromTable r) :
    ∃ best, s.byLowQuota r env = .ok best ∧ (best.isSome ↔ s.HasLowQuota r) := by
  rw [byLowQuota, HasLowQuota]
  by_cases hr : r.hasRetransmission = true ∧ r.hasStreamRetransmission = true
  · obtain ⟨id, hid, heq⟩ := hfrom hr.1
    obtain ⟨fromPth, hpth⟩ := Option.isSome_iff_exists.mp (AList.lookup_isSome.mpr hid)
    have hbind : (r.fromPth.bind fun id => s.paths.lookup id) = some fromPth := by
      rw [heq, Option.bind_some, hpth]
    simp only [hr, Bool.and_self, if_true, hbind, true_and, Option.some.injEq, exists_eq_left']
    by_cases hrtt : fromPth.rttStats.smoothedRTT = 0
    · rw [if_pos hrtt]
      refine ⟨_, rfl, ?_⟩
      rw [List.find?_isSome]
      simp only [Bool.and_eq_true, decide_eq_true_eq, hrtt, true_and, (henv 21 _).mem_iff,
        AList.mem_keys, and_assoc]
    · rw [if_neg hrtt]
      exact ⟨none, rfl, by simp [hrtt]⟩
  · rw [if_neg (by simpa using hr)]
    exact ⟨none, rfl, by simpa using fun h h' => absurd ⟨h, h'⟩ hr⟩

theorem orByLowQuota_returns (henv : env.Valid) (hfrom : s.FromTable r) :
    Returns (s.orByLowQuota r env x) ↔ s.HasLowQuota r ∨ Returns x := by
  obtain ⟨best, heq, hsome⟩ := byLowQuota_returns henv hfrom
  rw [orByLowQuota, heq, ← hsome]
  cases best <;> simp

/-! ## The paths beside the initial one -/

/-- A loop over the paths visits all but the initial one besides it. -/
theorem length_others (hinit : initialPathID ∈ s.paths) (henv : env.Valid) (i : Nat) :
    ((env.order i s.paths.keys).filter (· ≠ initialPathID)).length + 1 = s.paths.keys.length := by
  have hmem : initialPathID ∈ s.paths.keys := AList.mem_keys.mp hinit
  have hpos := List.length_pos_of_mem hmem
  have hothers : s.paths.keys.filter (· ≠ initialPathID) = s.paths.keys.erase initialPathID := by
    rw [s.paths.keys_nodup.erase_eq_filter]
    refine List.filter_congr fun id _ => ?_
    rw [bne, beq_eq_decide, decide_not]
  rw [((henv i _).filter _).length_eq, hothers, List.length_erase_of_mem hmem]
  omega

theorem find?_other_isSome (hinit : initialPathID ∈ s.paths) (henv : env.Valid) (i : Nat)
    (hlen : 2 ≤ s.paths.keys.length) :
    ((env.order i s.paths.keys).find? (· ≠ initialPathID)).isSome := by
  have hothers := length_others hinit henv i
  rw [List.find?_isSome]
  obtain ⟨id, hid⟩ := List.exists_mem_of_length_pos
    (l := (env.order i s.paths.keys).filter (· ≠ initialPathID)) (by omega)
  exact ⟨id, List.mem_of_mem_filter hid, (List.mem_filter.mp hid).2⟩

/-! ## The beginnings of the algorithms -/

variable [SendAlgorithm κ]

section

variable (hinit : initialPathID ∈ s.paths)
include hinit

theorem returns_onlyInitialPath (hasRetransmission : Bool) :
    Returns (s.onlyInitialPath hasRetransmission) := by
  obtain ⟨pth, hpth⟩ := Option.isSome_iff_exists.mp (AList.lookup_isSome.mpr hinit)
  rw [onlyInitialPath, hpth]
  dsimp only
  split
  · exact returns_ok _
  · exact returns_ok _

theorem returns_amongPaths (hfrom : s.FromTable r) (henv : env.Valid) (hx : Returns x) :
    Returns (s.amongPaths r env x) := by
  rw [amongPaths]
  split
  · exact returns_onlyInitialPath hinit _
  · exact (orByLowQuota_returns henv hfrom).mpr (Or.inr hx)

/-- With a second path it is returned, and with more the quotas or the algorithm decide. -/
theorem amongManyPaths_returns (hfrom : s.FromTable r) (henv : env.Valid) :
    Returns (s.amongManyPaths r env x) ↔
      (3 ≤ s.paths.keys.length → s.HasLowQuota r ∨ Returns x) := by
  rw [amongManyPaths]
  by_cases hone : s.paths.keys.length ≤ 1
  · rw [if_pos hone]
    exact iff_of_true (returns_onlyInitialPath hinit _) fun h => by omega
  rw [if_neg hone]
  by_cases htwo : s.paths.keys.length = 2
  · obtain ⟨id, hid⟩ := Option.isSome_iff_exists.mp (find?_other_isSome hinit henv 22 htwo.ge)
    rw [if_pos htwo, hid]
    exact iff_of_true (returns_ok _) fun h => by omega
  · rw [if_neg htwo, orByLowQuota_returns henv hfrom]
    exact ⟨fun h _ => h, fun h => h (by omega)⟩

end

theorem returns_ifAllowed (hid : pathID ∈ s.paths) (hx : Returns x) :
    Returns (s.ifAllowed pathID x) := by
  obtain ⟨pth, hpth⟩ := Option.isSome_iff_exists.mp (AList.lookup_isSome.mpr hid)
  rw [ifAllowed, hpth]
  dsimp only
  split
  · exact returns_ok _
  · exact hx

theorem returns_orInitialPath (hinit : initialPathID ∈ s.paths) (hasRetransmission : Bool) :
    Returns (s.orInitialPath hasRetransmission) := by
  rw [orInitialPath]
  split
  · exact returns_ifAllowed hinit (returns_ok _)
  · exact returns_ok _

/-! ## `rtt`, `blest`, `ecf` and `peek` -/

theorem returns_selectPathLowLatency (hinit : initialPathID ∈ s.paths) (hfrom : s.FromTable r)
    (henv : env.Valid) : Returns (s.selectPathLowLatency r env) :=
  returns_amongPaths hinit hfrom henv (returns_ok _)

/-- The paths the loops have found are in the table. -/
structure Found (s : Session κ) (t : TwoBest) : Prop where
  best : ∀ id, t.bestPath = some id → id ∈ s.paths
  second : ∀ id, t.secondBestPath = some id → id ∈ s.paths

theorem Found.update {t : TwoBest} (h : s.Found t) (hid : pathID ∈ s.paths) (pth : Path κ) :
    s.Found (t.update pathID pth) := by
  have hnew : ∀ id, some pathID = some id → id ∈ s.paths := by
    rintro _ ⟨⟩
    exact hid
  rw [TwoBest.update]
  split_ifs
  · exact ⟨h.best, hnew⟩
  · exact h
  · exact ⟨hnew, hnew⟩
  · exact ⟨hnew, h.second⟩

theorem found_twoBest (anyWindow : Bool) (env : Env) : s.Found (s.twoBest anyWindow env) := by
  refine List.foldlRecOn _ _ ⟨nofun, nofun⟩ fun t h pathID _ => ?_
  rw [twoBestRound]
  split
  · exact h
  · next pth hpth =>
    have hid : pathID ∈ s.paths := AList.lookup_isSome.mp (by rw [hpth]; rfl)
    split_ifs
    · exact h
    · exact h
    · exact h
    · exact h
    · exact h.update hid pth

theorem returns_chooseBest {t : TwoBest} (h : s.Found t) (hasRetransmission : Bool)
    (useSecond : Path κ → Path κ → Bool) :
    Returns (s.chooseBest hasRetransmission t useSecond) := by
  rw [chooseBest]
  split
  · exact returns_ok _
  · next bestPath hbest =>
    obtain ⟨best, hpth⟩ := Option.isSome_iff_exists.mp (AList.lookup_isSome.mpr (h.best _ hbest))
    rw [hpth]
    dsimp only
    split
    · exact returns_ok _
    split
    · exact returns_ok _
    · next secondBestPath hsecond =>
      obtain ⟨second, hpth'⟩ :=
        Option.isSome_iff_exists.mp (AList.lookup_isSome.mpr (h.second _ hsecond))
      rw [hpth']
      exact returns_ok _

theorem returns_peekChoose (sch : Scheduler) (d : Draws) {t : TwoBest} (h : s.Found t)
    (hasRetransmission : Bool) : Returns (s.peekChoose sch d hasRetransmission t) := by
  rw [peekChoose]
  split
  · exact returns_ok _
  · next bestPath hbest _ => exact returns_ifAllowed (h.best _ hbest) (returns_ok _)
  · next bestPath secondBestPath hbest hsecond =>
    refine returns_ifAllowed (h.best _ hbest) ?_
    split
    · exact returns_ifAllowed (h.second _ hsecond) (returns_ok _)
    · exact returns_chooseBest h _ _

/-! ## The learning schedulers -/

theorem returns_actWithin (spare : Nat → Bool) (action : Nat) {pathID pathID₂ : Nat}
    (hid : pathID ∈ s.paths) (hid₂ : pathID₂ ∈ s.paths) :
    Returns (s.actWithin spare action pathID pathID₂) := by
  have hsecond : Returns (s.ifAllowed pathID₂ (.ok none)) := returns_ifAllowed hid₂ (returns_ok _)
  rw [actWithin]
  split_ifs
  · exact returns_ifAllowed hid hsecond
  · exact returns_ifAllowed hid (returns_ok _)
  · exact hsecond
  · exact returns_ok _

section Learning
variable (hinit : initialPathID ∈ s.paths) (henv : env.Valid) (hlen : 3 ≤ s.paths.keys.length)
include hinit henv hlen

omit [SendAlgorithm κ] in
/-- The list of the paths beside the initial one has an entry for each of the two actions. -/
theorem availablePaths_action {action : Nat} (haction : action ≤ 1) :
    ∃ pathID ∈ s.paths, (s.availablePaths env)[action]? = some pathID := by
  have hothers := length_others hinit henv 20
  have hlt : action < (s.availablePaths env).length := by
    rw [availablePaths]
    omega
  refine ⟨_, ?_, List.getElem?_eq_getElem hlt⟩
  have hmem := List.mem_of_mem_filter (List.getElem_mem hlt)
  exact AList.mem_keys.mpr ((henv 20 _).mem_iff.mp hmem)

omit [SendAlgorithm κ] in
theorem returns_withActions {q₀ q₁ : Float} {act : Nat → Nat → Nat → Selected}
    (hact : ∀ action, ∀ pathID ∈ s.paths, ∀ pathID₂ ∈ s.paths,
      Returns (act action pathID pathID₂)) :
    Returns (withActions (s.availablePaths env) q₀ q₁ act) := by
  have haction : (if q₀ > q₁ then 0 else 1) ≤ 1 := by split <;> omega
  obtain ⟨pathID, hid, heq⟩ := availablePaths_action hinit henv hlen haction
  obtain ⟨pathID₂, hid₂, heq₂⟩ := availablePaths_action hinit henv hlen
    (Nat.sub_le 1 (if q₀ > q₁ then 0 else 1))
  rw [withActions, withAction, heq, heq₂]
  exact hact _ pathID hid pathID₂ hid₂

end Learning

section Learning
variable (hinit : initialPathID ∈ s.paths) (hfrom : s.FromTable r) (henv : env.Valid)
  (sch : Scheduler) (d : Draws)
include hinit hfrom henv

theorem returns_selectByProbability (payload : RewardPayload) :
    Returns (selectByProbability payload sch d s r env) := by
  refine (amongManyPaths_returns hinit hfrom henv).mpr fun hlen => Or.inr ?_
  rw [chooseByProbability]
  split
  · exact returns_selectPathLowLatency hinit hfrom henv
  split
  · exact returns_ok _
  · have haction : (if decide (sch.currentProb > d.float64) then 1 else 0) ≤ 1 := by
      split <;> omega
    obtain ⟨pathID, hid, heq⟩ := availablePaths_action hinit henv hlen haction
    rw [heq]
    exact returns_ifAllowed hid (returns_orInitialPath hinit _)

theorem returns_selectPathQSAT : Returns (s.selectPathQSAT sch d r env) := by
  have hlow := returns_selectPathLowLatency hinit hfrom henv
  rw [selectPathQSAT]
  split
  · exact hlow
  refine (amongManyPaths_returns hinit hfrom henv).mpr fun hlen => Or.inr ?_
  split
  · exact hlow
  · refine returns_withActions hinit henv hlen fun _ pathID hid pathID₂ hid₂ => ?_
    have hlast : Returns (s.ifAllowed pathID (s.orInitialPath r.hasRetransmission)) :=
      returns_ifAllowed hid (returns_orInitialPath hinit _)
    rw [actQSAT]
    split
    · exact returns_ifAllowed hid₂ hlast
    · exact hlast

theorem returns_selectPathQlearning : Returns (s.selectPathQlearning sch d r env) := by
  have hlow := returns_selectPathLowLatency hinit hfrom henv
  rw [selectPathQlearning]
  split
  · exact hlow
  refine (amongManyPaths_returns hinit hfrom henv).mpr fun hlen => Or.inr ?_
  split
  · exact hlow
  · refine returns_withActions hinit henv hlen fun _ pathID hid pathID₂ hid₂ => ?_
    have hlast := returns_orInitialPath hinit r.hasRetransmission
    refine returns_ifAllowed hid ?_
    split
    · exact returns_ifAllowed hid₂ hlast
    · exact hlast

theorem returns_selectPathQlearningMultiClients :
    Returns (s.selectPathQlearningMultiClients sch d r env) := by
  have hlow := returns_selectPathLowLatency hinit hfrom henv
  rw [selectPathQlearningMultiClients]
  split
  · exact hlow
  refine (amongManyPaths_returns hinit hfrom henv).mpr fun hlen => Or.inr ?_
  split
  · exact hlow
  · exact returns_withActions hinit henv hlen fun action _ hid _ hid₂ =>
      returns_actWithin _ action hid hid₂

/-! ## All schedulers -/

/-- **No scheduler but the random one panics** in selecting a path. -/
theorem returns_selectPath (hname : sch.schedulerName ≠ .random) :
    Returns (s.selectPath sch d r env) := by
  rw [selectPath]
  split
  · exact returns_selectPathLowLatency hinit hfrom henv
  · next heq => exact absurd heq hname
  · exact returns_amongPaths hinit hfrom henv (returns_peekChoose sch d (found_twoBest _ env) _)
  · exact returns_selectPathLowLatency hinit hfrom henv
  · exact returns_amongPaths hinit hfrom henv (returns_chooseBest (found_twoBest _ env) _ _)
  · exact returns_amongPaths hinit hfrom henv (returns_chooseBest (found_twoBest _ env) _ _)
  · exact (amongManyPaths_returns hinit hfrom henv).mpr fun _ =>
      Or.inr (returns_orInitialPath hinit _)
  · exact returns_selectByProbability hinit hfrom henv sch d .dqn
  · exact returns_selectByProbability hinit hfrom henv sch d .sacMulti
  · exact returns_selectPathQSAT hinit hfrom henv sch d
  · exact returns_selectPathQlearning hinit hfrom henv sch d
  · exact returns_selectPathQlearningMultiClients hinit hfrom henv sch d

/-- `random` returns if the path it has drawn exists. -/
theorem selectPathRandom_returns : Returns (s.selectPathRandom sch d r env) ↔
    (3 ≤ s.paths.keys.length → s.HasLowQuota r ∨
      (if sch.currentProb > d.float64 then 3 else 1) ∈ s.paths) := by
  rw [selectPathRandom, amongManyPaths_returns hinit hfrom henv]
  generalize (if sch.currentProb > d.float64 then 3 else 1) = action
  have hiff : Returns (s.ifAllowed action (s.orInitialPath r.hasRetransmission)) ↔
      action ∈ s.paths := by
    refine ⟨fun h => ?_, fun h => returns_ifAllowed h (returns_orInitialPath hinit _)⟩
    by_contra hmem
    rw [ifAllowed, AList.lookup_eq_none.mpr hmem] at h
    exact not_returns_error _ h
  rw [hiff]

end Learning

/-- The scheduler does not draw a path that is not there: it is not `random`, or there are fewer
than two paths beside the initial one, or the quotas decide, or the path drawn exists. -/
def DrawsExisting (sch : Scheduler) (d : Draws) (s : Session κ) (r : Retransmission) : Prop :=
  sch.schedulerName = .random → 3 ≤ s.paths.keys.length →
    s.HasLowQuota r ∨ (if sch.currentProb > d.float64 then 3 else 1) ∈ s.paths

/-- Whatever the order in which it visits the paths, the selection neither uses a missing path nor
indexes a list out of range, exactly if it does not draw a path that is not there. -/
theorem selection_never_crashes_iff (sch : Scheduler) (d : Draws) (s : Session κ)
    (r : Retransmission) (hinit : initialPathID ∈ s.paths) (hfrom : s.FromTable r) :
    (∀ env : Env, env.Valid → Returns (s.selectPath sch d r env)) ↔ s.DrawsExisting sch d r := by
  by_cases hname : sch.schedulerName = .random
  · have hrandom (env : Env) : s.selectPath sch d r env = s.selectPathRandom sch d r env := by
      rw [selectPath, hname]
    simp only [DrawsExisting, hname, true_implies, hrandom]
    constructor
    · intro h
      have henv : (Env.mk 0 (fun _ _ => none) fun _ keys => keys).Valid := fun _ _ => .refl _
      exact (selectPathRandom_returns hinit hfrom henv sch d).mp (h _ henv)
    · intro h env henv
      exact (selectPathRandom_returns hinit hfrom henv sch d).mpr h
  · exact iff_of_true (fun env henv => returns_selectPath hinit hfrom henv sch d hname)
      fun h => absurd h hname

/-! ## Examples -/

/-- A packet for a path. -/
def packetFor (pathID : Nat) : ReceivedPacket :=
  { pathID, packetNumber := 1, packetNumberLen := 1, localAddr := sampleAddr 1 443
    remoteAddr := sampleAddr 2 443, rcvTime := 0, opened := none }

/-- A server whose client has created the paths with the given IDs. -/
def serverWith (pathIDs : List Nat) : Session FixedWindow :=
  pathIDs.foldl (fun s pathID => (s.createPathFromRemote (packetFor pathID) { now := 0 }).1)
    (sample .server)

/-- With the paths 1 and 3, which a client creates first, `random` selects one of them. -/
theorem random_selects_created_path :
    Returns ((serverWith [1, 3]).selectPath { schedulerName := .random, currentProb := 0.5 }
      { float64 := 0 } {} { now := 0 }) := by
  refine (selection_never_crashes_iff _ _ _ _ (by decide) (by exact nofun)).mpr (fun _ _ => ?_) _
    (by simp [Env.Valid])
  refine Or.inr ?_
  split <;> decide

/-- A client may as well create the paths 5 and 7.  Then neither path `random` can draw exists. -/
theorem random_draws_missing_path :
    (serverWith [5, 7]).paths.keys = [7, 5, 0] ∧ ∀ d : Draws,
      (serverWith [5, 7]).selectPath { schedulerName := .random, currentProb := 0.5 } d {}
        { now := 0 } = .error (.panic .nilPath) := by
  refine ⟨by decide, fun d => ?_⟩
  rw [selectPath]
  dsimp only
  rw [selectPathRandom]
  split <;> rfl

end Session
end MpQuic
