import Mathlib.Data.List.ReduceOption
import Mathlib.Tactic.Linarith
import Mathlib.Tactic.NormNum
import MpQuic.SacLearning

/-!
# The states of the schedulers for several clients

`sacmulti` and `multiclients` observe the first and the second path of their own session
and of all sessions in `multiclients.S2`.  If the two paths are exchanged everywhere, the
components of the state should be exchanged, and nothing else.  Two components break the
symmetry: `sacmulti` sums up the bytes in flight of the first path in place of those of
the second one, and `multiclients` compares the rate of the other clients on the second
path with its thresholds the wrong way round.
-/
namespace MpQuic
open List

/-! ## `multiclients` -/

/-- The thresholds `clv_state` and `clv_state2` of `setup`. -/
def clvThreshold : Nat → ℚ
  | 0 => 3 / 10
  | 1 => 5 / 10
  | 2 => 7 / 10
  | _ => 9 / 10

/-- The share of the first of two paths in their sending rates, as an exact rational; a path without
an RTT has the rate 0 here. -/
def exactRate (cwnd : Nat) (rtt : Int) (cwnd' : Nat) (rtt' : Int) : ℚ :=
  (cwnd / rtt : ℚ) / (cwnd / rtt + cwnd' / rtt')

namespace StateMulti

/-- The share of the first path. -/
def fRate (state : StateMulti) : ℚ := exactRate state.fCWND state.fRTT state.sCWND state.sRTT

/-- The share of the second path.  The source adds the two rates in the same order for both. -/
def sRate (state : StateMulti) : ℚ :=
  (state.sCWND / state.sRTT : ℚ) / (state.fCWND / state.fRTT + state.sCWND / state.sRTT)

end StateMulti

/-- What `selectPathQlearningMultiClients` computes: the sending rates of the own session and the
mean ones of the other clients, the sums of the windows, and the levels of the rates. -/
structure MultiClientState where
  fRate : ℚ
  sRate : ℚ
  frRate : ℚ
  srRate : ℚ
  frCap : Nat
  srCap : Nat
  fLevel : Nat
  sLevel : Nat
  frLevel : Nat
  srLevel : Nat
  deriving DecidableEq

namespace Measured

/-- The mean rate of the other clients. -/
def othersRate (s2 : List (Option StateMulti)) (rate : StateMulti → ℚ) (own : ℚ) : ℚ :=
  if 1 < s2.length then
    (s2.reduceOption.foldl (fun sum state => sum + rate state) 0 - own) / (s2.length - 1 : Nat)
  else 0

/-- The state of `selectPathQlearningMultiClients`. -/
def multiClientState (m : Measured) (s2 : List (Option StateMulti)) : MultiClientState :=
  let fr := othersRate s2 (·.fRate) m.own.fRate
  let sr := othersRate s2 (·.sRate) m.own.sRate
  { fRate := m.own.fRate, sRate := m.own.sRate, frRate := fr, srRate := sr
    frCap := totalBytes s2 (·.fCWND), srCap := totalBytes s2 (·.sCWND)
    fLevel := Session.level 4 fun i => m.own.fRate < clvThreshold i
    sLevel := Session.level 4 fun i => m.own.sRate < clvThreshold i
    frLevel := Session.level 4 fun i => fr < clvThreshold i
    -- the only comparison the other way round
    srLevel := Session.level 4 fun i => sr ≥ clvThreshold i }

/-- `multiclients.S2` after the session has refreshed its entry, if it has one. -/
def refreshed (m : Measured) (connectionID : Nat) (s2 : List (Nat × Option StateMulti)) :
    List (Option StateMulti) :=
  s2.map fun (id, state) => if id = connectionID then some m.own else state

end Measured

/-! ## Exchanging the paths -/

/-- The values of the two paths exchanged. -/
def StateMulti.exchange (state : StateMulti) : StateMulti :=
  { fRTT := state.sRTT, sRTT := state.fRTT, fCWND := state.sCWND, sCWND := state.fCWND
    fInP := state.sInP, sInP := state.fInP }

/-- The values of the two paths exchanged. -/
def Measured.exchange (m : Measured) : Measured :=
  { own := m.own.exchange, sRTTf := m.sRTTs, sRTTs := m.sRTTf }

/-- The f-components and the s-components exchanged. -/
def StateDQN.exchange (state : StateDQN) : StateDQN :=
  { cwndf := state.cwnds, inpf := state.inps, srttf := state.srtts
    cwnds := state.cwndf, inps := state.inpf, srtts := state.srttf }

/-- The f-components and the s-components exchanged. -/
def StateSACMulti.exchange (state : StateSACMulti) : StateSACMulti :=
  { state.toStateDQN.exchange with
    cwndfAll := state.cwndsAll, inpfAll := state.inpsAll, srttfAll := state.srttsAll
    cwndsAll := state.cwndfAll, inpsAll := state.inpfAll, srttsAll := state.srttfAll
    cNumber := state.cNumber }

/-- The f-components and the s-components exchanged. -/
def MultiClientState.exchange (state : MultiClientState) : MultiClientState :=
  { fRate := state.sRate, sRate := state.fRate, frRate := state.srRate, srRate := state.frRate
    frCap := state.srCap, srCap := state.frCap, fLevel := state.sLevel, sLevel := state.fLevel
    frLevel := state.srLevel, srLevel := state.frLevel }

/-- The paths exchanged in every entry of `multiclients.S2`. -/
def exchangeEntries (s2 : List (Nat × Option StateMulti)) : List (Nat × Option StateMulti) :=
  s2.map fun (id, state) => (id, state.map StateMulti.exchange)

/-- The schedulers that look at the other clients. -/
inductive MultiScheduler
  | sacmulti
  | multiclients
  deriving DecidableEq

/-- Exchanging the paths of all sessions exchanges the components of the state, and nothing else. -/
def MultiScheduler.Symmetric (scheduler : MultiScheduler) (m : Measured) (connectionID : Nat)
    (s2 : List (Nat × Option StateMulti)) : Prop :=
  let before := m.refreshed connectionID s2
  let after := m.exchange.refreshed connectionID (exchangeEntries s2)
  match scheduler with
  | .sacmulti => m.exchange.stateSACMulti after = (m.stateSACMulti before).exchange
  | .multiclients => m.exchange.multiClientState after = (m.multiClientState before).exchange

namespace Measured
variable {m : Measured} {s2 : List (Option StateMulti)}

theorem refreshed_exchange (m : Measured) (connectionID : Nat)
    (s2 : List (Nat × Option StateMulti)) :
    m.exchange.refreshed connectionID (exchangeEntries s2) =
      (m.refreshed connectionID s2).map (·.map StateMulti.exchange) := by
  rw [refreshed, refreshed, exchangeEntries, map_map, map_map]
  refine map_congr_left fun ⟨id, state⟩ _ => ?_
  by_cases hid : id = connectionID
  · simp [hid, exchange]
  · simp [hid]

theorem totalBytes_exchange (bytes : StateMulti → Nat) :
    totalBytes (s2.map (·.map StateMulti.exchange)) bytes = totalBytes s2 (bytes ·.exchange) := by
  rw [totalBytes, totalBytes, length_map, reduceOption_map, foldl_map]

theorem totalTime_exchange (rtt : StateMulti → Int) :
    totalTime (s2.map (·.map StateMulti.exchange)) rtt = totalTime s2 (rtt ·.exchange) := by
  rw [totalTime, totalTime, length_map, reduceOption_map, foldl_map]

theorem othersRate_exchange (rate : StateMulti → ℚ) (own : ℚ) :
    othersRate (s2.map (·.map StateMulti.exchange)) rate own =
      othersRate s2 (rate ·.exchange) own := by
  rw [othersRate, othersRate, length_map, reduceOption_map, foldl_map]

theorem share_inj {a b : Nat} : share a = share b ↔ a = b := by
  have hpos : ((defaultMaxCongestionWindow * 1024 : Nat) : ℚ) ≠ 0 := by decide
  rw [share, share]
  push_cast at hpos
  rw [div_left_inj' hpos, Nat.cast_inj]

/-- The sums of `sacmulti` are symmetric but for the bytes in flight on the second path. -/
theorem stateSACMulti_symmetric_iff :
    m.exchange.stateSACMulti (s2.map (·.map StateMulti.exchange)) =
      (m.stateSACMulti s2).exchange ↔
      totalBytes s2 (·.fInP) = totalBytes s2 (·.sInP) := by
  rw [stateSACMulti, stateSACMulti, StateSACMulti.mk.injEq]
  simp only [totalBytes_exchange, totalTime_exchange, length_map, stateDQN, exchange,
    StateMulti.exchange, StateSACMulti.exchange, StateDQN.exchange, share_inj, and_true, true_and]
  exact ⟨fun h => h.1.symm, fun h => ⟨h.symm, h.symm⟩⟩

theorem fRate_exchange (state : StateMulti) : state.exchange.fRate = state.sRate := by
  rw [StateMulti.fRate, StateMulti.sRate, exactRate, add_comm]
  rfl

/-- The two ways to compare a rate with the thresholds never give the same level. -/
theorem level_lt_ne_level_ge (rate : ℚ) : (Session.level 4 fun i => rate < clvThreshold i) ≠
    Session.level 4 fun i => rate ≥ clvThreshold i := by
  have hrange : range 4 = [0, 1, 2, 3] := rfl
  simp only [Session.level, hrange, find?, clvThreshold]
  by_cases hlow : rate < 3 / 10
  · have h₁ : ¬ rate ≥ 5 / 10 := by linarith
    have h₂ : ¬ rate ≥ 7 / 10 := by linarith
    have h₃ : ¬ rate ≥ 9 / 10 := by linarith
    simp only [decide_eq_true hlow, decide_eq_false (not_le.mpr hlow), decide_eq_false h₁,
      decide_eq_false h₂, decide_eq_false h₃]
    decide
  · rw [decide_eq_false hlow, decide_eq_true (not_lt.mp hlow)]
    dsimp only
    split
    · decide
    · split
      · decide
      · split <;> decide

/-- The levels of `multiclients` are never symmetric. -/
theorem multiClientState_not_symmetric :
    m.exchange.multiClientState (s2.map (·.map StateMulti.exchange)) ≠
      (m.multiClientState s2).exchange := by
  intro h
  have hlevel := congrArg MultiClientState.frLevel h
  simp only [multiClientState, MultiClientState.exchange, othersRate_exchange, exchange,
    fRate_exchange] at hlevel
  exact level_lt_ne_level_ge _ hlevel

end Measured

/-- The state is symmetric in the two paths exactly for `sacmulti`, and only if the sessions have
the same number of bytes in flight on both. -/
theorem multi_client_state_symmetric_iff (scheduler : MultiScheduler) (m : Measured)
    (connectionID : Nat) (s2 : List (Nat × Option StateMulti)) :
    scheduler.Symmetric m connectionID s2 ↔ scheduler = .sacmulti ∧
      totalBytes (m.refreshed connectionID s2) (·.fInP) =
        totalBytes (m.refreshed connectionID s2) (·.sInP) := by
  cases scheduler with
  | sacmulti =>
    rw [MultiScheduler.Symmetric, Measured.refreshed_exchange, eq_self, true_and]
    exact Measured.stateSACMulti_symmetric_iff
  | multiclients =>
    rw [MultiScheduler.Symmetric, Measured.refreshed_exchange]
    exact iff_of_false Measured.multiClientState_not_symmetric nofun

/-- Two clients with equal paths, and 1000 bytes in flight on the first path of the first one. -/
def twoClients : List (Nat × Option StateMulti) :=
  [(1, some ⟨1, 1, 1000, 1000, 1000, 0⟩), (2, some ⟨1, 1, 1000, 1000, 0, 0⟩)]

/-- For `sacmulti` the bytes are counted for both paths, and after the exchange for none.  For
`multiclients` the other client is on level 2 on its first path, and on level 0 on its second. -/
theorem multi_client_state_asymmetric :
    ¬ MultiScheduler.sacmulti.Symmetric ⟨⟨1, 1, 1000, 1000, 1000, 0⟩, 1, 1⟩ 1 twoClients ∧
      ¬ MultiScheduler.multiclients.Symmetric ⟨⟨1, 1, 1000, 1000, 1000, 0⟩, 1, 1⟩ 1 twoClients := by
  constructor
  · intro h
    exact absurd (congrArg (·.inpsAll) h) (by decide +kernel)
  · intro h
    exact absurd (congrArg (·.frLevel) h) (by decide +kernel)

end MpQuic
