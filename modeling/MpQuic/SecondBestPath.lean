import MpQuic.LowestRTT
import MpQuic.RespectsWindow

/-!
# The second best path of `peek`

When the path with the lowest RTT may not send, `peek` decides between waiting for it and
an alternative found in the same loop.  A path that is faster than all those seen before
it becomes the best one and is not considered as an alternative, neither then nor when a
still faster one takes its place.  So the alternative is the right one exactly if there
is a path at least as fast for every path passed over like this.
-/
namespace MpQuic
open Systems List
namespace Session
variable {κ : Type} [SendAlgorithm κ] {s : Session κ} {id : Nat}

/-- All paths but the initial one are probed, and not potentially failed. -/
structure AllProbed (s : Session κ) : Prop where
  probed : ∀ id pth, s.paths.lookup id = some pth → id ≠ initialPathID →
    pth.potentiallyFailed = false ∧ 0 < pth.rttStats.smoothedRTT

/-- The paths but the initial one, in the order in which the loop visits them. -/
def visited (s : Session κ) (env : Env) : List Nat :=
  (env.order 23 s.paths.keys).filter (· ≠ initialPathID)

/-- A path that may send and is visited first, or after one that is at least as fast. -/
def Considered (s : Session κ) (visited : List Nat) (id : Nat) : Prop :=
  s.AllowsSending id ∧ ∃ i, visited[i]? = some id ∧
    (i = 0 ∨ ∃ before ∈ visited.take i, s.smoothedRTTOf before ≤ s.smoothedRTTOf id)

theorem considered_nil : ¬ s.Considered [] id := by
  rintro ⟨-, i, hi, -⟩
  simp at hi

variable {seen : List Nat} {t : TwoBest}

theorem considered_append {last : Nat} :
    s.Considered (seen ++ [last]) id ↔ s.Considered seen id ∨ id = last ∧ s.AllowsSending last ∧
      (seen = [] ∨ ∃ before ∈ seen, s.smoothedRTTOf before ≤ s.smoothedRTTOf last) := by
  constructor
  · rintro ⟨hallows, i, hi, hbefore⟩
    rcases Nat.lt_trichotomy i seen.length with hlt | rfl | hgt
    · rw [getElem?_append_left hlt] at hi
      rw [take_append_of_le_length hlt.le] at hbefore
      exact .inl ⟨hallows, i, hi, hbefore⟩
    · obtain rfl : last = id := by simpa using hi
      rw [take_left, length_eq_zero_iff] at hbefore
      exact .inr ⟨rfl, hallows, hbefore⟩
    · rw [getElem?_eq_none (by rw [length_append]; exact hgt)] at hi
      cases hi
  · rintro (⟨hallows, i, hi, hbefore⟩ | ⟨rfl, hallows, hbefore⟩)
    · have hlt : i < seen.length := (List.getElem?_eq_some_iff.mp hi).1
      exact ⟨hallows, i, (getElem?_append_left hlt).trans hi,
        by rwa [take_append_of_le_length hlt.le]⟩
    · refine ⟨hallows, seen.length, by simp, ?_⟩
      rwa [take_left, length_eq_zero_iff]

theorem Considered.mem {visited : List Nat} (h : s.Considered visited id) : id ∈ visited := by
  obtain ⟨-, i, hi, -⟩ := h
  exact mem_of_getElem? hi

/-! ## The loop -/

/-- What the loop of `peek` knows of the paths it has seen. -/
structure TwoBest.Found (s : Session κ) (seen : List Nat) (t : TwoBest) : Prop where
  start : seen = [] → t.lowerRTT = 0
  best : seen ≠ [] → ∃ b ∈ seen, t.bestPath = some b ∧ t.lowerRTT = s.smoothedRTTOf b ∧
    0 < t.lowerRTT ∧ ∀ id ∈ seen, s.smoothedRTTOf b ≤ s.smoothedRTTOf id
  nothing : t.secondBestPath = none → t.secondLowerRTT = 0 ∧ ∀ id, ¬ s.Considered seen id
  second : ∀ a, t.secondBestPath = some a → t.secondLowerRTT = s.smoothedRTTOf a ∧
    0 < t.secondLowerRTT ∧ s.Considered seen a ∧
    ∀ id, s.Considered seen id → s.smoothedRTTOf a ≤ s.smoothedRTTOf id

/-- The alternative after another path, which is considered or not. -/
theorem TwoBest.Found.alternative (h : t.Found s seen) (hpos : 0 < s.smoothedRTTOf id) {C : Prop}
    [Decidable C] (hlast : ∀ j, s.Considered (seen ++ [id]) j ↔ s.Considered seen j ∨ j = id ∧ C)
    (t' : TwoBest)
    (ht' : t' = if C ∧ (t.secondLowerRTT = 0 ∨ s.smoothedRTTOf id < t.secondLowerRTT) then
      { t with secondLowerRTT := s.smoothedRTTOf id, secondBestPath := some id } else t) :
    (t'.secondBestPath = none → t'.secondLowerRTT = 0 ∧ ∀ j, ¬ s.Considered (seen ++ [id]) j) ∧
    ∀ a, t'.secondBestPath = some a → t'.secondLowerRTT = s.smoothedRTTOf a ∧
      0 < t'.secondLowerRTT ∧ s.Considered (seen ++ [id]) a ∧
      ∀ j, s.Considered (seen ++ [id]) j → s.smoothedRTTOf a ≤ s.smoothedRTTOf j := by
  by_cases hnew : C ∧ (t.secondLowerRTT = 0 ∨ s.smoothedRTTOf id < t.secondLowerRTT)
  · rw [if_pos hnew] at ht'
    subst ht'
    refine ⟨nofun, ?_⟩
    rintro _ ⟨⟩
    refine ⟨rfl, hpos, (hlast id).mpr (.inr ⟨rfl, hnew.1⟩), fun j hj => ?_⟩
    rcases (hlast j).mp hj with hj | ⟨rfl, -⟩
    · cases hbest : t.secondBestPath with
      | none => exact absurd hj ((h.nothing hbest).2 j)
      | some a =>
        obtain ⟨hlower, hlowerPos, -, hlowest⟩ := h.second a hbest
        have := hlowest j hj
        omega
    · exact le_rfl
  · rw [if_neg hnew] at ht'
    subst ht'
    refine ⟨fun hnone => ?_, fun a ha => ?_⟩
    · obtain ⟨hzero, hnot⟩ := h.nothing hnone
      refine ⟨hzero, fun j hj => ?_⟩
      rcases (hlast j).mp hj with hj | ⟨-, hC⟩
      · exact hnot j hj
      · exact hnew ⟨hC, .inl hzero⟩
    · obtain ⟨hlower, hlowerPos, hconsidered, hlowest⟩ := h.second a ha
      refine ⟨hlower, hlowerPos, (hlast a).mpr (.inl hconsidered), fun j hj => ?_⟩
      rcases (hlast j).mp hj with hj | ⟨rfl, hC⟩
      · exact hlowest j hj
      · exact hlower ▸ not_lt.mp fun hlt => hnew ⟨hC, .inr hlt⟩

/-- One iteration of `peek`: a path displaces the best one, the second one or neither. -/
theorem TwoBest.Found.round (h : t.Found s seen) {pth : Path κ} (hpth : s.Eligible true id pth)
    (hpos : 0 < pth.rttStats.smoothedRTT) : (s.twoBestRound true t id).Found s (seen ++ [id]) := by
  have hrtt : pth.rttStats.smoothedRTT = s.smoothedRTTOf id := by
    rw [smoothedRTTOf, hpth.lookup]
    rfl
  have hallows : s.AllowsSending id ↔ pth.sendingAllowed = true := by
    refine ⟨fun ⟨pth', hpth', hsend⟩ => ?_, fun hsend => ⟨pth, hpth.lookup, hsend⟩⟩
    cases hpth'.symm.trans hpth.lookup
    exact hsend
  rw [twoBestRound_of_eligible hpth, if_neg (by simp [unprobedSkipped, hpos.ne']), TwoBest.update,
    hrtt]
  rw [hrtt] at hpos
  -- a path is considered if it is not faster than the best one so far
  have hbefore : (seen = [] ∨ ∃ before ∈ seen, s.smoothedRTTOf before ≤ s.smoothedRTTOf id) ↔
      t.lowerRTT ≤ s.smoothedRTTOf id := by
    by_cases hseen : seen = []
    · exact iff_of_true (.inl hseen) ((h.start hseen).trans_le hpos.le)
    · obtain ⟨b, hb, -, hlower, -, hlowest⟩ := h.best hseen
      rw [hlower]
      refine ⟨?_, fun hle => .inr ⟨b, hb, hle⟩⟩
      rintro (hnil | ⟨before, hmem, hle⟩)
      · exact absurd hnil hseen
      · exact (hlowest before hmem).trans hle
  obtain ⟨hnothing, hsecond⟩ := h.alternative hpos
    (C := t.lowerRTT ≤ s.smoothedRTTOf id ∧ pth.sendingAllowed = true)
    (fun j => by rw [considered_append, hbefore, hallows, and_comm (b := t.lowerRTT ≤ _)])
    (if t.lowerRTT ≤ s.smoothedRTTOf id ∧
        (t.secondLowerRTT = 0 ∨ s.smoothedRTTOf id < t.secondLowerRTT) ∧ pth.sendingAllowed = true
      then { t with secondLowerRTT := s.smoothedRTTOf id, secondBestPath := some id } else t)
    (if_congr (by tauto) rfl rfl)
  have hother : seen ++ [id] ≠ [] := append_ne_nil_of_right_ne_nil _ (cons_ne_nil _ _)
  have hmem : id ∈ seen ++ [id] := mem_append_right _ (mem_singleton_self id)
  by_cases hslower : t.lowerRTT ≤ s.smoothedRTTOf id ∧ s.smoothedRTTOf id ≠ 0 ∧ t.lowerRTT ≠ 0 ∧
      t.bestPath.isSome = true
  · rw [if_pos hslower]
    refine ⟨fun hnil => absurd hnil hother, fun _ => ?_, hnothing, hsecond⟩
    obtain ⟨b, hb, hbest, hlower, hlowerPos, hlowest⟩ :=
      h.best fun hseen => hslower.2.2.1 (h.start hseen)
    refine ⟨b, mem_append_left _ hb, ?_, ?_, ?_, forall_mem_append.mpr ⟨hlowest,
      forall_mem_singleton.mpr (hlower ▸ hslower.1)⟩⟩
    · split <;> exact hbest
    · split <;> exact hlower
    · split <;> exact hlowerPos
  · rw [if_neg hslower]
    refine ⟨fun hnil => absurd hnil hother, fun _ => ⟨id, hmem, rfl, rfl, hpos,
      forall_mem_append.mpr ⟨fun id' hid' => ?_, forall_mem_singleton.mpr le_rfl⟩⟩,
      hnothing, hsecond⟩
    obtain ⟨b, hb, hbest, hlower, hlowerPos, hlowest⟩ := h.best (ne_nil_of_mem hid')
    have hfaster : ¬ t.lowerRTT ≤ s.smoothedRTTOf id := fun hle =>
      hslower ⟨hle, hpos.ne', hlowerPos.ne', Option.isSome_of_eq_some hbest⟩
    exact (hlower ▸ not_le.mp hfaster).le.trans (hlowest id' hid')

theorem found_twoBest_visited (hprobed : s.AllProbed) {env : Env} (henv : env.Valid) :
    (s.twoBest true env).Found s (s.visited env) := by
  have hfilter : s.twoBest true env = (s.visited env).foldl (s.twoBestRound true) {} := by
    rw [twoBest, visited, foldl_filter]
    congr 1
    funext t id
    by_cases hid : id = initialPathID
    · rw [if_neg (by simp [hid]), twoBestRound_of_not_eligible fun pth h => h.notInitial hid]
    · rw [if_pos (by simp [hid])]
  rw [hfilter]
  refine foldl_seen ⟨fun _ => rfl, fun h => absurd rfl h, fun _ => ⟨rfl, fun _ => considered_nil⟩,
    fun _ h => by cases h⟩ _ fun seen id t hid h => ?_
  obtain ⟨hmem, hother⟩ := mem_filter.mp hid
  obtain ⟨pth, hpth⟩ := Option.isSome_iff_exists.mp
    (AList.lookup_isSome.mpr (AList.mem_keys.mpr ((henv 23 _).mem_iff.mp hmem)))
  have hid' : id ≠ initialPathID := by simpa using hother
  obtain ⟨hworking, hpos⟩ := hprobed.probed id pth hpth hid'
  exact h.round ⟨hpth, hid', hworking, .inl rfl⟩ hpos

/-! ## The alternative -/

/-- An alternative to the best path: one of the lowest RTT among the other paths that may send, and
none only if there is none. -/
structure RightAlternative (s : Session κ) (best : Nat) (second : Option Nat) : Prop where
  nothing : second = none ↔
    ∀ id ∈ s.paths, id ≠ initialPathID → id ≠ best → ¬ s.AllowsSending id
  lowest : ∀ a, second = some a → a ≠ initialPathID ∧ a ≠ best ∧ s.AllowsSending a ∧
    ∀ id ∈ s.paths, id ≠ initialPathID → id ≠ best → s.AllowsSending id →
      s.smoothedRTTOf a ≤ s.smoothedRTTOf id

/-- For every path that may send, one at least as fast is considered. -/
def PassesOverNone (s : Session κ) (env : Env) : Prop :=
  ∀ id ∈ s.paths, id ≠ initialPathID → s.AllowsSending id →
    ∃ a, s.Considered (s.visited env) a ∧ s.smoothedRTTOf a ≤ s.smoothedRTTOf id

/-- The best path of `peek` has the lowest RTT.  If it may not send, the alternative is the right
one exactly if no path that may send is passed over. -/
theorem peek_alternative_right_iff (s : Session κ) (env : Env) (henv : env.Valid)
    (hthree : 3 ≤ (s.paths.keys.filter (· ≠ initialPathID)).length) (hprobed : s.AllProbed) :
    ∃ best, (s.twoBest true env).bestPath = some best ∧ best ≠ initialPathID ∧
      (∀ id ∈ s.paths, id ≠ initialPathID → s.smoothedRTTOf best ≤ s.smoothedRTTOf id) ∧
      (¬ s.AllowsSending best →
        (s.RightAlternative best (s.twoBest true env).secondBestPath ↔ s.PassesOverNone env)) := by
  have hfound := found_twoBest_visited hprobed henv
  have hvisited (id : Nat) : id ∈ s.visited env ↔ id ∈ s.paths ∧ id ≠ initialPathID := by
    rw [visited, mem_filter, (henv 23 _).mem_iff, AList.mem_keys]
    simp
  have hne : s.visited env ≠ [] := by
    refine ne_nil_of_length_pos ?_
    rw [visited, ((henv 23 _).filter _).length_eq]
    omega
  obtain ⟨best, hbest, hsome, -, -, hlowest⟩ := hfound.best hne
  refine ⟨best, hsome, ((hvisited best).mp hbest).2,
    fun id hid hother => hlowest id ((hvisited id).mpr ⟨hid, hother⟩), fun hblocked => ?_⟩
  have hnot {id : Nat} (hallows : s.AllowsSending id) : id ≠ best := by
    rintro rfl
    exact hblocked hallows
  constructor
  · intro hright id hid hother hallows
    cases hsecond : (s.twoBest true env).secondBestPath with
    | none => exact absurd hallows (hright.nothing.mp hsecond id hid hother (hnot hallows))
    | some a =>
      exact ⟨a, (hfound.second a hsecond).2.2.1,
        (hright.lowest a hsecond).2.2.2 id hid hother (hnot hallows) hallows⟩
  · intro hpasses
    refine ⟨⟨fun hnone id hid hother _ hallows => ?_, fun hnobody => ?_⟩, fun a ha => ?_⟩
    · obtain ⟨a, ha, -⟩ := hpasses id hid hother hallows
      exact (hfound.nothing hnone).2 a ha
    · by_contra hsome
      obtain ⟨a, ha⟩ := Option.ne_none_iff_exists'.mp hsome
      obtain ⟨-, -, hconsidered, -⟩ := hfound.second a ha
      obtain ⟨hmem, hother⟩ := (hvisited a).mp hconsidered.mem
      exact hnobody a hmem hother (hnot hconsidered.1) hconsidered.1
    · obtain ⟨-, -, hconsidered, hleast⟩ := hfound.second a ha
      refine ⟨((hvisited a).mp hconsidered.mem).2, hnot hconsidered.1, hconsidered.1,
        fun id hid hother _ hallows => ?_⟩
      obtain ⟨a', ha', hle⟩ := hpasses id hid hother hallows
      exact (hleast a' ha').trans hle

/-- A path with its smoothed RTT and the bytes in flight on it. -/
def measured (s : Session FixedWindow) (path : Nat × Int × Nat) : Session FixedWindow :=
  match s.paths.lookup path.1 with
  | none => s
  | some pth =>
    let sentPacketHandler := { pth.sentPacketHandler with
      rttStats := { smoothedRTT := path.2.1 }, bytesInFlight := path.2.2 }
    { s with paths := s.paths.insert path.1 { pth with sentPacketHandler } }

/-- A server with three paths beside the initial one, the fastest of which has used its window. -/
def blockedFastest : Session FixedWindow :=
  [(1, 30, 0), (3, 20, 0), (5, 10, 50000)].foldl measured (serverWith [1, 3, 5])

theorem mem_blockedFastest (h : id ∈ blockedFastest.paths) (hother : id ≠ initialPathID) :
    id ∈ [5, 3, 1] := by
  have hmem : id ∈ [5, 3, 1] ++ [initialPathID] := h
  exact (mem_append.mp hmem).resolve_right fun hinit => hother (mem_singleton.mp hinit)

theorem blockedFastest_probed : blockedFastest.AllProbed := by
  refine ⟨fun id pth hpth hother => ?_⟩
  have hall : ∀ id ∈ [5, 3, 1], (blockedFastest.paths.lookup id).all fun pth =>
      !pth.potentiallyFailed && 0 < pth.rttStats.smoothedRTT := by decide
  have hpath :=
    hall id (mem_blockedFastest (AList.lookup_isSome.mp (Option.isSome_of_mem hpth)) hother)
  simpa [hpth] using hpath

theorem blockedFastest_blocked : ¬ blockedFastest.AllowsSending 5 := by
  rintro ⟨pth, hpth, hsend⟩
  cases hpth
  exact absurd hsend (by decide)

/-- Visited first, the fastest path does not get another one passed over. -/
theorem fastest_first_passes_over_none :
    blockedFastest.RightAlternative 5
      (blockedFastest.twoBest true { now := 0 }).secondBestPath := by
  obtain ⟨best, hbest, -, -, hiff⟩ := peek_alternative_right_iff blockedFastest { now := 0 }
    (fun _ _ => .refl _) (by decide) blockedFastest_probed
  cases (show (blockedFastest.twoBest true { now := 0 }).bestPath = some 5 from rfl).symm.trans
    hbest
  refine (hiff blockedFastest_blocked).mpr fun id hid hother hallows =>
    ⟨3, ⟨⟨_, rfl, rfl⟩, 1, rfl, .inr ⟨5, by decide, by decide⟩⟩, ?_⟩
  have hmem := mem_blockedFastest hid hother
  simp only [mem_cons, not_mem_nil, or_false] at hmem
  rcases hmem with rfl | rfl | rfl
  · exact absurd hallows blockedFastest_blocked
  · decide
  · decide

/-- Visited last, it takes the place of path 3, which is passed over: the alternative is path 1. -/
theorem peek_passes_over_faster_path :
    blockedFastest.AllProbed ∧
      (blockedFastest.twoBest true { now := 0, order := fun _ keys => keys.reverse }).bestPath =
        some 5 ∧ ¬ blockedFastest.AllowsSending 5 ∧
      (blockedFastest.twoBest true
        { now := 0, order := fun _ keys => keys.reverse }).secondBestPath = some 1 ∧
          blockedFastest.AllowsSending 3 ∧
      blockedFastest.smoothedRTTOf 3 < blockedFastest.smoothedRTTOf 1 :=
  ⟨blockedFastest_probed, rfl, blockedFastest_blocked, rfl, ⟨_, rfl, rfl⟩, by decide⟩

end Session
end MpQuic
