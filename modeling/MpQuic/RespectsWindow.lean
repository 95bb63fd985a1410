import MpQuic.SelectPath

/-!
# Selection and the congestion window

Without a retransmission, a path is selected either by a loop that skips the paths that
may not send, or after a check of the path itself: `Respects` holds of every part of the
algorithms but one.  The schedulers that look for a unique path beside the initial one
return it as it is; `selectPath_parts` says which schedulers do, and for which draws.
-/
namespace MpQuic
namespace Session
variable {κ : Type} [SendAlgorithm κ] {s : Session κ} {x : Selected} {pathID : Nat}

/-- A path of the session for which `SendingAllowed` holds. -/
def AllowsSending (s : Session κ) (pathID : Nat) : Prop :=
  ∃ pth, s.paths.lookup pathID = some pth ∧ pth.sendingAllowed = true

/-- Any path a selection returns may send. -/
structure Respects (s : Session κ) (x : Selected) : Prop where
  allowed : ∀ pathID, x = .ok (some pathID) → s.AllowsSending pathID

/-! ## The parts of the algorithms -/

@[simp] theorem respects_error (e : Err) : Respects s (.error e) := ⟨by simp⟩

@[simp] theorem respects_none : Respects s (.ok none) := ⟨by simp⟩

theorem respects_ok {best : Option Nat} (h : ∀ id, best = some id → s.AllowsSending id) :
    Respects s (.ok best) := ⟨fun id hid => h id (Except.ok.inj hid)⟩

theorem respects_onlyInitialPath : Respects s (s.onlyInitialPath false) := by
  unfold onlyInitialPath
  split
  · simp
  · rename_i pth hpth
    split
    · exact respects_none
    · rename_i hallowed
      exact respects_ok (by rintro _ ⟨⟩; exact ⟨pth, hpth, by simpa using hallowed⟩)

theorem Respects.ifAllowed (h : Respects s x) : Respects s (s.ifAllowed pathID x) := by
  unfold Session.ifAllowed
  split
  · exact respects_error _
  · rename_i pth hpth
    split
    · rename_i hallowed
      exact respects_ok (by rintro _ ⟨⟩; exact ⟨pth, hpth, hallowed⟩)
    · exact h

@[simp] theorem orInitialPath_false : s.orInitialPath false = .ok none := rfl

theorem respects_withActions {available : List Nat} {q₀ q₁ : Float}
    {act : Nat → Nat → Nat → Selected} (h : ∀ a id id', Respects s (act a id id')) :
    Respects s (withActions available q₀ q₁ act) := by
  rw [withActions, withAction]
  split
  · exact h _ _ _
  · exact respects_error _

theorem respects_actWithin (spare : Nat → Bool) (action pathID pathID₂ : Nat) :
    Respects s (s.actWithin spare action pathID pathID₂) := by
  have hsecond : Respects s (s.ifAllowed pathID₂ (.ok none)) := respects_none.ifAllowed
  unfold actWithin
  dsimp only
  split_ifs
  · exact hsecond.ifAllowed
  · exact respects_none.ifAllowed
  · exact hsecond
  · exact respects_none

section NoRetransmission
variable {r : Retransmission} (hr : r.hasRetransmission = false) (env : Env)
include hr

omit [SendAlgorithm κ] in
theorem orByLowQuota_eq : s.orByLowQuota r env x = x := by
  simp [orByLowQuota, byLowQuota, hr]

theorem Respects.amongPaths (h : Respects s x) : Respects s (s.amongPaths r env x) := by
  unfold Session.amongPaths
  split
  · rw [hr]
    exact respects_onlyInitialPath
  · rwa [orByLowQuota_eq hr]

theorem Respects.amongManyPaths (h : Respects s x) (hlen : s.paths.keys.length ≠ 2) :
    Respects s (s.amongManyPaths r env x) := by
  have heq : s.amongManyPaths r env x = s.amongPaths r env x := by
    simp [Session.amongManyPaths, Session.amongPaths, hlen]
  rw [heq]
  exact h.amongPaths hr env

/-- A unique path beside the initial one is returned without a look at its window. -/
theorem amongManyPaths_two (hlen : s.paths.keys.length = 2) : s.amongManyPaths r env x =
    ((env.order 22 s.paths.keys).find? (· ≠ initialPathID)).elim x (.ok ∘ some) := by
  unfold Session.amongManyPaths
  rw [if_neg (by omega), if_pos hlen, orByLowQuota_eq hr]
  cases List.find? _ (env.order 22 s.paths.keys) <;> rfl

end NoRetransmission

/-! ## The loops -/

/-- The loop of `rtt` only considers paths that may send. -/
theorem allowsSending_lowLatencyRound (l : LowLatency)
    (h : ∀ id, l.selectedPath = some id → s.AllowsSending id) (pathID : Nat) :
    ∀ id, (s.lowLatencyRound false l pathID).selectedPath = some id → s.AllowsSending id := by
  unfold lowLatencyRound
  split
  · exact h
  · rename_i pth hpth
    by_cases hallowed : pth.sendingAllowed
    · have hnew : s.AllowsSending pathID := ⟨pth, hpth, hallowed⟩
      simp only [hallowed]
      split_ifs <;> first | exact h | (rintro id ⟨⟩; exact hnew)
    · simpa [hallowed] using h

variable {r : Retransmission} {t : TwoBest}

theorem respects_selectPathLowLatency (hr : r.hasRetransmission = false) (env : Env) :
    Respects s (s.selectPathLowLatency r env) := by
  refine (respects_ok ?_).amongPaths hr env
  rw [hr]
  exact List.foldlRecOn _ _ (by simp) fun l h id _ => allowsSending_lowLatencyRound l h id

/-- The second best path of `blest`, `ecf` and `peek` may send, whichever paths they consider. -/
theorem allowsSending_twoBestRound (anyWindow : Bool) (t : TwoBest)
    (h : ∀ id, t.secondBestPath = some id → s.AllowsSending id) (pathID : Nat) :
    ∀ id, (s.twoBestRound anyWindow t pathID).secondBestPath = some id → s.AllowsSending id := by
  unfold twoBestRound
  split
  · exact h
  · rename_i pth hpth
    by_cases hallowed : pth.sendingAllowed
    · have hnew : s.AllowsSending pathID := ⟨pth, hpth, hallowed⟩
      simp only [TwoBest.update, hallowed]
      split_ifs <;> first | exact h | (rintro id ⟨⟩; exact hnew)
    · simp only [TwoBest.update, hallowed, Bool.false_eq_true, and_false, if_false]
      split_ifs <;> exact h

theorem allowsSending_twoBest (anyWindow : Bool) (env : Env) :
    ∀ id, (s.twoBest anyWindow env).secondBestPath = some id → s.AllowsSending id :=
  List.foldlRecOn _ _ (by simp) fun t h id _ => allowsSending_twoBestRound anyWindow t h id

/-- The best path is checked before it is returned. -/
theorem respects_chooseBest {useSecond : Path κ → Path κ → Bool}
    (h : ∀ id, t.secondBestPath = some id → s.AllowsSending id) :
    Respects s (s.chooseBest false t useSecond) := by
  unfold chooseBest
  split
  · exact respects_ok h
  · split
    · exact respects_error _
    · rename_i bestPath _ best hbest
      split
      · rename_i hallowed
        exact respects_ok (by rintro _ ⟨⟩; exact ⟨best, hbest, by simpa using hallowed⟩)
      · split
        · exact respects_none
        · rename_i secondBestPath hsecond
          split
          · exact respects_error _
          · refine respects_ok fun id hid => h id ?_
            split at hid
            · exact hsecond.trans hid
            · cases hid

theorem respects_peekChoose (sch : Scheduler) (d : Draws)
    (h : ∀ id, t.secondBestPath = some id → s.AllowsSending id) :
    Respects s (s.peekChoose sch d false t) := by
  unfold peekChoose
  split
  · rename_i second _ hsecond
    exact respects_ok h
  · exact respects_none.ifAllowed
  · exact (respects_chooseBest h).ifAllowed

/-! ## The learning schedulers -/

/-- A selection that looks for a unique path, and respects the windows if there is none. -/
def UniqueOrRespects (s : Session κ) (r : Retransmission) (env : Env) (x : Selected) : Prop :=
  ∃ y, Respects s y ∧ x = s.amongManyPaths r env y

section Learning
variable (sch : Scheduler) (d : Draws) {r : Retransmission} (hr : r.hasRetransmission = false)
  (env : Env)
include hr

theorem respects_orInitialPath : Respects s (s.orInitialPath r.hasRetransmission) := by
  rw [hr]
  exact respects_none

theorem selectByProbability_parts (payload : RewardPayload) :
    UniqueOrRespects s r env (selectByProbability payload sch d s r env) := by
  refine ⟨_, ?_, rfl⟩
  rw [chooseByProbability]
  split
  · exact respects_selectPathLowLatency hr env
  · split
    · exact respects_none
    · split
      · exact respects_error _
      · exact (respects_orInitialPath hr).ifAllowed

theorem selectPathQSAT_parts (h : ¬ d.float64 > sch.epsilon) :
    UniqueOrRespects s r env (s.selectPathQSAT sch d r env) := by
  unfold selectPathQSAT
  rw [if_neg h]
  refine ⟨_, ?_, rfl⟩
  split
  · exact respects_selectPathLowLatency hr env
  · refine respects_withActions fun _ pathID pathID₂ => ?_
    have hlast : Respects s (s.ifAllowed pathID (s.orInitialPath r.hasRetransmission)) :=
      (respects_orInitialPath hr).ifAllowed
    rw [actQSAT]
    split
    · exact hlast.ifAllowed
    · exact hlast

theorem selectPathQlearning_parts (h : ¬ d.float64 ≤ sch.epsilon) :
    UniqueOrRespects s r env (s.selectPathQlearning sch d r env) := by
  unfold selectPathQlearning
  rw [if_neg h]
  refine ⟨_, ?_, rfl⟩
  split
  · exact respects_selectPathLowLatency hr env
  · refine respects_withActions fun _ pathID pathID₂ => Respects.ifAllowed ?_
    split
    · exact (respects_orInitialPath hr).ifAllowed
    · exact respects_orInitialPath hr

theorem selectPathQlearningMultiClients_parts (h : ¬ d.float64 ≤ sch.epsilon) :
    UniqueOrRespects s r env (s.selectPathQlearningMultiClients sch d r env) := by
  unfold selectPathQlearningMultiClients
  rw [if_neg h]
  refine ⟨_, ?_, rfl⟩
  split
  · exact respects_selectPathLowLatency hr env
  · exact respects_withActions fun action pathID pathID₂ =>
      respects_actWithin _ action pathID pathID₂

end Learning

/-! ## All schedulers -/

/-- The schedulers, and the draws, for which a selection looks for a unique path. -/
def TakesUniquePath (sch : Scheduler) (d : Draws) : Prop :=
  match sch.schedulerName with
  | .random | .dqn | .sac | .sacmulti => True
  | .qsat => ¬ d.float64 > sch.epsilon
  | .fuzzyqsat | .multiclients => ¬ d.float64 ≤ sch.epsilon
  | .rtt | .peek | .lowband | .ecf | .blest => False

section
variable {sch : Scheduler} {d : Draws} {r : Retransmission} (hr : r.hasRetransmission = false)
  (env : Env)
include hr

/-- Every scheduler that does not look for a unique path selects a path that may send. -/
theorem selectPath_respects (h : ¬ TakesUniquePath sch d) :
    Respects s (s.selectPath sch d r env) := by
  have hlow := respects_selectPathLowLatency (s := s) hr env
  cases hname : sch.schedulerName <;>
    simp only [TakesUniquePath, hname, not_true_eq_false, not_not] at h <;>
    simp only [selectPath, hname]
  case rtt | lowband => exact hlow
  case blest | ecf =>
    refine Respects.amongPaths hr env ?_
    rw [hr]
    exact respects_chooseBest (allowsSending_twoBest _ env)
  case peek =>
    refine Respects.amongPaths hr env ?_
    rw [hr]
    exact respects_peekChoose sch d (allowsSending_twoBest true env)
  case qsat => simpa only [selectPathQSAT, if_pos h] using hlow
  case fuzzyqsat => simpa only [selectPathQlearning, if_pos h] using hlow
  case multiclients => simpa only [selectPathQlearningMultiClients, if_pos h] using hlow

theorem selectPath_parts (h : TakesUniquePath sch d) :
    UniqueOrRespects s r env (s.selectPath sch d r env) := by
  cases hname : sch.schedulerName <;> simp only [TakesUniquePath, hname] at h <;>
    simp only [selectPath, hname]
  case random => exact ⟨_, (respects_orInitialPath hr).ifAllowed, rfl⟩
  case dqn => exact ⟨_, respects_orInitialPath hr, rfl⟩
  case sac | sacmulti => exact selectByProbability_parts sch d hr env _
  case qsat => exact selectPathQSAT_parts sch d hr env h
  case fuzzyqsat => exact selectPathQlearning_parts sch d hr env h
  case multiclients => exact selectPathQlearningMultiClients_parts sch d hr env h

end

/-- The path selected may send, or it is the unique one beside the initial path. -/
theorem selectPath_selects {sch : Scheduler} {d : Draws} (hr : r.hasRetransmission = false)
    {env : Env} (henv : env.Valid) (hselect : s.selectPath sch d r env = .ok (some pathID)) :
    s.AllowsSending pathID ∨ TakesUniquePath sch d ∧ s.paths.keys.length = 2 ∧
      pathID ≠ initialPathID ∧ ∃ pth, s.paths.lookup pathID = some pth := by
  by_cases htakes : TakesUniquePath sch d
  · obtain ⟨y, hy, heq⟩ := selectPath_parts hr (s := s) env htakes
    rw [heq] at hselect
    by_cases hlen : s.paths.keys.length = 2
    · rw [amongManyPaths_two hr _ hlen] at hselect
      cases hfind : (env.order 22 s.paths.keys).find? (· ≠ initialPathID) with
      | none =>
        rw [hfind] at hselect
        exact .inl (hy.allowed pathID hselect)
      | some id =>
        rw [hfind] at hselect
        obtain rfl : id = pathID := Option.some.inj (Except.ok.inj hselect)
        have hmem : id ∈ s.paths.keys := (henv 22 _).subset (List.mem_of_find?_eq_some hfind)
        obtain ⟨pth, hpth⟩ := Option.isSome_iff_exists.mp (AList.lookup_isSome.mpr hmem)
        exact .inr ⟨htakes, hlen, by simpa using List.find?_some hfind, pth, hpth⟩
    · exact .inl ((hy.amongManyPaths hr env hlen).allowed pathID hselect)
  · exact .inl ((selectPath_respects hr env htakes).allowed pathID hselect)

/-- An iteration that visits one key first. -/
def visitingFirst (pathID : Nat) : Env where
  now := 0
  order _ keys := if pathID ∈ keys then pathID :: keys.erase pathID else keys

theorem visitingFirst_valid (pathID : Nat) : (visitingFirst pathID).Valid := by
  intro i keys
  unfold visitingFirst
  dsimp only
  split
  · rename_i h
    exact (List.perm_cons_erase h).symm
  · rfl

/-- Every scheduler respects the windows of the paths it selects, in whatever order it visits
them, exactly if it does not look for a unique path, or there is none, or it may send. -/
theorem selection_respects_window_iff (sch : Scheduler) (d : Draws) (s : Session κ)
    (hasStreamRetransmission : Bool) (fromPth : Option Nat) :
    (∀ env : Env, env.Valid → ∀ pathID,
        s.selectPath sch d { hasStreamRetransmission, fromPth } env = .ok (some pathID) →
        ∃ pth, s.paths.lookup pathID = some pth ∧ pth.sendingAllowed = true) ↔
      (TakesUniquePath sch d → s.paths.keys.length = 2 →
        ∀ pathID pth, s.paths.lookup pathID = some pth → pathID ≠ initialPathID →
          pth.sendingAllowed = true) := by
  set r : Retransmission := { hasStreamRetransmission, fromPth }
  have hr : r.hasRetransmission = false := rfl
  constructor
  · intro h htakes hlen pathID pth hpth hinit
    obtain ⟨y, -, heq⟩ := selectPath_parts hr (s := s) (visitingFirst pathID) htakes
    have hmem : pathID ∈ s.paths.keys :=
      AList.mem_keys.mp (AList.lookup_isSome.mp (by rw [hpth]; rfl))
    rw [amongManyPaths_two hr _ hlen] at heq
    simp only [visitingFirst, if_pos hmem, List.find?_cons, hinit, ne_eq, not_false_eq_true,
      decide_true, Option.elim_some, Function.comp_apply] at heq
    obtain ⟨pth', hpth', hallowed⟩ := h _ (visitingFirst_valid pathID) pathID heq
    obtain rfl : pth = pth' := Option.some.inj (hpth.symm.trans hpth')
    exact hallowed
  · intro h env henv pathID hselect
    rcases selectPath_selects hr henv hselect with hallowed | ⟨htakes, hlen, hne, pth, hpth⟩
    · exact hallowed
    · exact ⟨pth, hpth, h htakes hlen pathID pth hpth hne⟩

/-- A session with a second path whose packets in flight exceed its congestion window. -/
def congested : Session FixedWindow :=
  let pth := Path.setup 1 (sampleAddr 3 443) (sampleAddr 2 443) versionMP (SendAlgorithm.new true) 0
  (sample .client).setPath 1
    { pth with sentPacketHandler := { pth.sentPacketHandler with bytesInFlight := 50000 } }

/-- The scheduler `random` selects the only path beside the initial one although its window is
exceeded. -/
theorem unique_path_selected_beyond_window :
    congested.selectPath { schedulerName := .random } { float64 := 0 } {} { now := 0 } =
        .ok (some 1) ∧
      (congested.paths.lookup 1).map (·.sendingAllowed) = some false :=
  ⟨rfl, rfl⟩

end Session
end MpQuic
