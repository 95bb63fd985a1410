import MpQuic.FlowControl
import MpQuic.HandshakeMessage
import MpQuic.Lib.Outcome

/-!
# Negotiating the parameters (`internal/handshake/connection_parameters_manager.go`)

The client sends its parameters in the CHLO (`GetHelloMap`), the server takes them
over subject to its own limits (`SetFromMap`) and answers with its own in the SHLO.
The session reads the result through the getters, whose values are
`ConnectionParameters`.
-/
namespace MpQuic
open Systems List

/-- A second, in nanoseconds. -/
def second : Int := 1000 * millisecond

/-- `protocol.MaxStreamsPerConnection`. -/
def maxStreamsPerConnection : Nat := 100

/-- `protocol.MaxIncomingDynamicStreamsPerConnection`. -/
def maxIncomingDynamicStreamsPerConnection : Nat := 100

/-- `connectionParametersManager`. -/
structure ConnectionParametersManager where
  perspective : Perspective
  flowControlNegotiated : Bool := false
  truncateConnectionID : Bool := false
  maxStreamsPerConnection : Nat := MpQuic.maxStreamsPerConnection
  maxIncomingDynamicStreamsPerConnection : Nat := MpQuic.maxStreamsPerConnection
  idleConnectionStateLifetime : Int
  sendStreamFlowControlWindow : Nat := 2 ^ 14
  sendConnectionFlowControlWindow : Nat := 2 ^ 14
  receiveStreamFlowControlWindow : Nat := 32 * 2 ^ 10
  receiveConnectionFlowControlWindow : Nat := 48 * 2 ^ 10
  maxReceiveStreamFlowControlWindow : Nat
  maxReceiveConnectionFlowControlWindow : Nat
  deriving DecidableEq, Repr

namespace ConnectionParametersManager

/-- `NewConnectionParamatersManager`. -/
def new (pers : Perspective) (maxReceiveStreamFlowControlWindow
    maxReceiveConnectionFlowControlWindow : Nat) (idleTimeout : Int) :
    ConnectionParametersManager :=
  { perspective := pers
    idleConnectionStateLifetime := idleTimeout
    maxReceiveStreamFlowControlWindow
    maxReceiveConnectionFlowControlWindow }

/-- `GetMaxIncomingStreams`: the larger of `MaxIncomingDynamicStreamsPerConnection` plus 10 and
its 1.1 fold. -/
def getMaxIncomingStreams : Nat :=
  max (MpQuic.maxIncomingDynamicStreamsPerConnection + 10)
    (MpQuic.maxIncomingDynamicStreamsPerConnection * 11 / 10)

/-- The values of the getters. -/
def parameters (h : ConnectionParametersManager) : ConnectionParameters :=
  { sendStreamFlowControlWindow := h.sendStreamFlowControlWindow
    sendConnectionFlowControlWindow := h.sendConnectionFlowControlWindow
    receiveStreamFlowControlWindow := h.receiveStreamFlowControlWindow
    maxReceiveStreamFlowControlWindow := h.maxReceiveStreamFlowControlWindow
    receiveConnectionFlowControlWindow := h.receiveConnectionFlowControlWindow
    maxReceiveConnectionFlowControlWindow := h.maxReceiveConnectionFlowControlWindow
    -- the name of the field is seen from the peer
    maxOutgoingStreams := h.maxIncomingDynamicStreamsPerConnection
    maxIncomingStreams := getMaxIncomingStreams
    idleConnectionStateLifetime := h.idleConnectionStateLifetime
    truncateConnectionID := h.perspective == .server && h.truncateConnectionID }

/-! ## `SetFromMap` -/

/-- A parameter of `SetFromMap`: a missing tag changes nothing, and a value of fewer than four
bytes is malformed. -/
def setParameter (params : TagMap) (tag : Nat)
    (set : ConnectionParametersManager → Nat → ConnectionParametersManager)
    (h : ConnectionParametersManager) : Outcome ConnectionParametersManager HandshakeError :=
  match params.lookup tag with
  | none => (h, none)
  | some value =>
    if value.length < 4 then (h, some .malformedTag)
    else (set h (HandshakeMessage.uint32 value), none)

/-- A flow control window, which may be negotiated only once. -/
def setWindow (params : TagMap) (tag : Nat)
    (set : ConnectionParametersManager → Nat → ConnectionParametersManager)
    (h : ConnectionParametersManager) : Outcome ConnectionParametersManager HandshakeError :=
  if (params.lookup tag).isSome && h.flowControlNegotiated then
    (h, some .flowControlRenegotiationNotSupported)
  else setParameter params tag set h

def setTCID (params : TagMap) (h : ConnectionParametersManager) :
    Outcome ConnectionParametersManager HandshakeError :=
  match h.perspective with
  | .server => setParameter params tagTCID (fun h v => { h with truncateConnectionID := v == 0 }) h
  | .client => (h, none)

def setMSPC (params : TagMap) :
    ConnectionParametersManager → Outcome ConnectionParametersManager HandshakeError :=
  setParameter params tagMSPC fun h v =>
    { h with maxStreamsPerConnection := min v MpQuic.maxStreamsPerConnection }

def setMIDS (params : TagMap) :
    ConnectionParametersManager → Outcome ConnectionParametersManager HandshakeError :=
  setParameter params tagMIDS fun h v =>
    { h with
      maxIncomingDynamicStreamsPerConnection :=
        min v MpQuic.maxIncomingDynamicStreamsPerConnection }

def setICSL (params : TagMap) :
    ConnectionParametersManager → Outcome ConnectionParametersManager HandshakeError :=
  setParameter params tagICSL fun h v =>
    { h with idleConnectionStateLifetime := min (v * second) h.idleConnectionStateLifetime }

def setSFCW (params : TagMap) :
    ConnectionParametersManager → Outcome ConnectionParametersManager HandshakeError :=
  setWindow params tagSFCW fun h v => { h with sendStreamFlowControlWindow := v }

def setCFCW (params : TagMap) :
    ConnectionParametersManager → Outcome ConnectionParametersManager HandshakeError :=
  setWindow params tagCFCW fun h v => { h with sendConnectionFlowControlWindow := v }

/-- Whether a message carries a flow control window. -/
def negotiatesFlowControl (params : TagMap) : Bool :=
  (params.lookup tagCFCW).isSome || (params.lookup tagSFCW).isSome

/-- `SetFromMap`. -/
def setFromMap (h : ConnectionParametersManager) (params : TagMap) :
    Outcome ConnectionParametersManager HandshakeError :=
  (setTCID params h).andThen fun h => (setMSPC params h).andThen fun h =>
  (setMIDS params h).andThen fun h => (setICSL params h).andThen fun h =>
  (setSFCW params h).andThen fun h => (setCFCW params h).andThen fun h =>
  if negotiatesFlowControl params then ({ h with flowControlNegotiated := true }, none)
  else (h, none)

/-! ## The parameters one by one -/

/-- The parameters of `SetFromMap`. -/
inductive Parameter
  | tcid | mspc | mids | icsl | sfcw | cfcw
  deriving DecidableEq, Repr

namespace Parameter

/-- The order in which `SetFromMap` takes them. -/
def order : List Parameter := [.tcid, .mspc, .mids, .icsl, .sfcw, .cfcw]

def tag : Parameter → Nat
  | .tcid => tagTCID
  | .mspc => tagMSPC
  | .mids => tagMIDS
  | .icsl => tagICSL
  | .sfcw => tagSFCW
  | .cfcw => tagCFCW

def isWindow : Parameter → Bool
  | .sfcw | .cfcw => true
  | _ => false

/-- The assignment of `SetFromMap` for the value `v`. -/
def store (h : ConnectionParametersManager) (v : Nat) : Parameter → ConnectionParametersManager
  | .tcid => { h with truncateConnectionID := v == 0 }
  | .mspc => { h with maxStreamsPerConnection := min v MpQuic.maxStreamsPerConnection }
  | .mids =>
    { h with
      maxIncomingDynamicStreamsPerConnection :=
        min v MpQuic.maxIncomingDynamicStreamsPerConnection }
  | .icsl =>
    { h with idleConnectionStateLifetime := min (v * second) h.idleConnectionStateLifetime }
  | .sfcw => { h with sendStreamFlowControlWindow := v }
  | .cfcw => { h with sendConnectionFlowControlWindow := v }

/-- `SetFromMap` for one parameter. -/
def set (params : TagMap) :
    Parameter → ConnectionParametersManager → Outcome ConnectionParametersManager HandshakeError
  | .tcid => setTCID params
  | .mspc => setMSPC params
  | .mids => setMIDS params
  | .icsl => setICSL params
  | .sfcw => setSFCW params
  | .cfcw => setCFCW params

variable (h : ConnectionParametersManager) (params : TagMap) (p q : Parameter)

/-- The value of the parameter in a message; a client has no use for TCID. -/
def value : Option (List Byte) :=
  if p = .tcid ∧ h.perspective = .client then none else params.lookup p.tag

/-- The error for the value in a message. -/
def err : Option HandshakeError :=
  match p.value h params with
  | none => none
  | some value =>
    if p.isWindow && h.flowControlNegotiated then some .flowControlRenegotiationNotSupported
    else if value.length < 4 then some .malformedTag else none

/-- The manager once the value in a message is stored. -/
def stored : ConnectionParametersManager :=
  match p.value h params with
  | none => h
  | some value => p.store h (HandshakeMessage.uint32 value)

theorem set_eq : p.set params h =
    match p.err h params with
    | none => (p.stored h params, none)
    | some e => (h, some e) := by
  cases p <;> cases hpers : h.perspective <;>
    simp only [set, setTCID, setMSPC, setMIDS, setICSL, setSFCW, setCFCW, setWindow,
      setParameter, err, stored, value, hpers] <;> grind [tag, isWindow, store]

theorem stored_kept : (q.stored h params).perspective = h.perspective ∧
    (q.stored h params).flowControlNegotiated = h.flowControlNegotiated := by
  rw [stored]
  split
  · exact ⟨rfl, rfl⟩
  · cases q <;> exact ⟨rfl, rfl⟩

@[simp] theorem value_stored : p.value (q.stored h params) params = p.value h params := by
  rw [value, value, (stored_kept h params q).1]

@[simp] theorem err_stored : p.err (q.stored h params) params = p.err h params := by
  rw [err, err, value_stored, (stored_kept h params q).2]

end Parameter

open Parameter
/-- Whether a message is accepted depends on the manager before it only. -/
theorem forEach_set_err (params : TagMap) (ps : List Parameter) (h : ConnectionParametersManager) :
    (Outcome.forEach (set params) ps h).2 = ps.findSome? (·.err h params) := by
  induction ps generalizing h with
  | nil => rfl
  | cons p ps ih =>
    rw [Outcome.forEach, set_eq, findSome?_cons]
    cases hp : p.err h params with
    | none => simp only [Outcome.andThen_none, ih, err_stored]
    | some e => rfl

/-- The parameters before the first error are stored. -/
theorem forEach_set_state (params : TagMap) (ps : List Parameter)
    (h : ConnectionParametersManager) :
    (Outcome.forEach (set params) ps h).1 =
      (ps.takeWhile fun p => (p.err h params).isNone).foldl (fun h p => p.stored h params) h := by
  induction ps generalizing h with
  | nil => rfl
  | cons p ps ih =>
    rw [Outcome.forEach, set_eq, takeWhile_cons]
    cases hp : p.err h params with
    | none => simp [ih]
    | some e => rfl

theorem setFromMap_eq (h : ConnectionParametersManager) (params : TagMap) :
    h.setFromMap params = (Outcome.forEach (set params) order h).andThen fun h =>
      if negotiatesFlowControl params then ({ h with flowControlNegotiated := true }, none)
      else (h, none) := by
  simp only [order, Outcome.forEach, Outcome.andThen_assoc, Outcome.andThen_none]
  rfl

variable {h : ConnectionParametersManager} {params : TagMap} {b : Bool}

theorem setFromMap_err :
    (h.setFromMap params).2 = order.findSome? (·.err h params) := by
  rw [← forEach_set_err, setFromMap_eq]
  obtain ⟨h', _ | e⟩ := Outcome.forEach (set params) order h
  · rw [Outcome.andThen_none]
    split <;> rfl
  · rfl

/-- What storing the accepted parameters keeps holds after all of them. -/
theorem forEach_set_keeps {P : ConnectionParametersManager → Prop} (hP : P h)
    (hstored : ∀ (p : Parameter) h', p.err h params = none → P h' → P (p.stored h' params)) :
    P (Outcome.forEach (set params) order h).1 := by
  rw [forEach_set_state]
  refine foldlRecOn _ _ hP fun h' hP' p hp => hstored p h' ?_ hP'
  exact Option.isNone_iff_eq_none.mp (all_eq_true.mp all_takeWhile p hp)

theorem setFromMap_keeps {P : ConnectionParametersManager → Prop} (hP : P h)
    (hstored : ∀ (p : Parameter) h', p.err h params = none → P h' → P (p.stored h' params))
    (hwindows : ∀ h', P h' → P { h' with flowControlNegotiated := true }) :
    P (h.setFromMap params).1 := by
  have hall := forEach_set_keeps hP hstored
  rw [setFromMap_eq]
  refine Outcome.state_andThen hall ?_
  split
  · exact hwindows _ hall
  · exact hall

/-- Windows are negotiated once: a second message with a window is refused. -/
theorem setFromMap_eq_none (hb : h.flowControlNegotiated = b)
    (hok : (h.setFromMap params).2 = none) :
    (negotiatesFlowControl params && b) = false ∧
      (h.setFromMap params).1.flowControlNegotiated = (negotiatesFlowControl params || b) := by
  have hkept : (Outcome.forEach (set params) order h).1.flowControlNegotiated
      = b :=
    forEach_set_keeps (P := fun h' => h'.flowControlNegotiated = b) hb fun p h' _ hb' =>
      (p.stored_kept h' params).2.trans hb'
  have hnone := hok
  rw [setFromMap_err, findSome?_eq_none_iff] at hnone
  have hsfcw := hnone .sfcw (by decide)
  have hcfcw := hnone .cfcw (by decide)
  refine ⟨?_, ?_⟩
  · simp only [err, value, hb] at hsfcw hcfcw
    grind [negotiatesFlowControl, tag, isWindow]
  · rw [setFromMap_eq] at hok ⊢
    generalize Outcome.forEach (set params) order h = r at hok hkept ⊢
    obtain ⟨h', _ | e⟩ := r
    · rw [Outcome.andThen_none]
      cases negotiatesFlowControl params
      · exact hkept
      · rfl
    · cases hok

/-- The limit on streams after `SetFromMap`: the old one, or the value of MIDS up to the
maximum. -/
theorem setFromMap_maxOutgoing (h : ConnectionParametersManager) (params : TagMap) :
    (h.setFromMap params).1.maxIncomingDynamicStreamsPerConnection =
        h.maxIncomingDynamicStreamsPerConnection ∨
      ∃ value, params.lookup tagMIDS = some value ∧ 4 ≤ value.length ∧
        (h.setFromMap params).1.maxIncomingDynamicStreamsPerConnection =
          min (HandshakeMessage.uint32 value) MpQuic.maxIncomingDynamicStreamsPerConnection := by
  let P : ConnectionParametersManager → Prop := fun h' =>
    h'.maxIncomingDynamicStreamsPerConnection = h.maxIncomingDynamicStreamsPerConnection ∨
      ∃ value, params.lookup tagMIDS = some value ∧ 4 ≤ value.length ∧
        h'.maxIncomingDynamicStreamsPerConnection =
          min (HandshakeMessage.uint32 value) MpQuic.maxIncomingDynamicStreamsPerConnection
  refine setFromMap_keeps (P := P) (Or.inl rfl) (fun p h' herr hP => ?_) fun _ hP => hP
  rw [stored]
  cases hvalue : p.value h' params with
  | none => exact hP
  | some value =>
    cases p with
    | mids =>
      refine Or.inr ⟨value, hvalue, ?_, rfl⟩
      grind [err, value]
    | _ => exact hP

/-! ## All or nothing -/

namespace Parameter
variable (h params) (p q : Parameter)

/-- A value for the parameter in the message is the one in force already. -/
def InForce : Prop :=
  ∀ value, p.value h params = some value → p.store h (HandshakeMessage.uint32 value) = h

theorem inForce_iff : p.InForce h params ↔ p.stored h params = h := by
  rw [InForce, stored]
  cases p.value h params <;> simp

theorem inForce_stored_self : p.InForce (p.stored h params) params := by
  intro value hvalue
  rw [value_stored] at hvalue
  rw [stored, hvalue]
  cases p <;> simp [store]

/-- The parameters are stored in different fields. -/
theorem inForce_stored (hne : p ≠ q) :
    p.InForce (q.stored h params) params ↔ p.InForce h params := by
  rw [InForce, InForce, value_stored, stored]
  cases q.value h params with
  | none => rfl
  | some value =>
    refine forall₂_congr fun value' _ => ?_
    cases h
    cases p <;> cases q <;> simp_all [store]

end Parameter

/-- Parameters that are stored one after the other change nothing exactly if each is in force
already. -/
theorem foldl_stored_eq_iff {ps : List Parameter} (hnodup : ps.Nodup) :
    ps.foldl (fun h p => p.stored h params) h = h ↔ ∀ p ∈ ps, p.InForce h params := by
  induction ps generalizing h with
  | nil => simp
  | cons p ps ih =>
    obtain ⟨hp, hps⟩ := nodup_cons.mp hnodup
    rw [foldl_cons, forall_mem_cons, inForce_iff]
    constructor
    · intro hfold
      -- nothing after `p` touches its field, so `p` is in force in the end, which is `h`
      have hforce :
          p.InForce (ps.foldl (fun h p => p.stored h params) (p.stored h params)) params :=
        foldlRecOn ps _ (motive := fun h' => p.InForce h' params)
          (p.inForce_stored_self h params)
          fun h' hforce q hq => (p.inForce_stored h' params q fun heq => hp (heq ▸ hq)).mpr hforce
      rw [hfold, inForce_iff] at hforce
      rw [hforce] at hfold
      exact ⟨hforce, (ih hps).mp hfold⟩
    · rintro ⟨hforce, hrest⟩
      rw [hforce]
      exact (ih hps).mpr hrest

/-- A message takes effect as a whole or not at all, and its windows only once: a message with
the same windows, and possibly others of its parameters, is refused after it. -/
structure AllOrNothing (h : ConnectionParametersManager) (params : TagMap) : Prop where
  unchanged : (h.setFromMap params).2 ≠ none → (h.setFromMap params).1 = h
  renegotiation : (h.setFromMap params).2 = none → negotiatesFlowControl params = true →
    ∀ params' : TagMap, (∀ p : Parameter, params'.lookup p.tag = params.lookup p.tag ∨
      p.isWindow = false ∧ params'.lookup p.tag = none) →
    ((h.setFromMap params).1.setFromMap params').2 = some .flowControlRenegotiationNotSupported

/-- A second message with the same windows is refused, even if it leaves out other parameters. -/
theorem setFromMap_renegotiation (hok : (h.setFromMap params).2 = none)
    (hwindows : negotiatesFlowControl params = true) {params' : TagMap}
    (hsame : ∀ p : Parameter, params'.lookup p.tag = params.lookup p.tag ∨
      p.isWindow = false ∧ params'.lookup p.tag = none) :
    ((h.setFromMap params).1.setFromMap params').2 =
      some .flowControlRenegotiationNotSupported := by
  have hnegotiated : (h.setFromMap params).1.flowControlNegotiated = true := by
    rw [(setFromMap_eq_none rfl hok).2, hwindows, Bool.true_or]
  have hpers : (h.setFromMap params).1.perspective = h.perspective :=
    setFromMap_keeps (P := fun h' => h'.perspective = h.perspective) rfl
      (fun p h' _ hpers => (p.stored_kept h' params).1.trans hpers) fun _ hpers => hpers
  rw [setFromMap_err, findSome?_eq_none_iff] at hok
  generalize (h.setFromMap params).1 = h' at hnegotiated hpers
  have herr : ∀ p : Parameter, p.err h' params' =
      if p.isWindow && (params.lookup p.tag).isSome then
        some .flowControlRenegotiationNotSupported else none := by
    intro p
    have hp := hok p (by cases p <;> decide)
    rcases hsame p with hlookup | ⟨hnot, hlookup⟩
    · simp only [err, value, hlookup, hpers, hnegotiated] at hp ⊢
      generalize params.lookup p.tag = value at hp ⊢
      generalize h.perspective = pers at hp ⊢
      cases p <;> cases pers <;> cases value <;> simp_all [isWindow]
    · simp [err, value, hlookup, hnot]
  rw [setFromMap_err]
  simp only [herr, order, findSome?_cons, isWindow, tag]
  rw [negotiatesFlowControl] at hwindows
  grind

theorem setFromMap_of_err (hfailed : (h.setFromMap params).2 ≠ none) :
    (h.setFromMap params).1 =
      (Outcome.forEach (set params) order h).1 := by
  rw [setFromMap_eq] at hfailed ⊢
  generalize Outcome.forEach (set params) order h = r at hfailed ⊢
  obtain ⟨h', _ | e⟩ := r
  · rw [Outcome.andThen_none] at hfailed
    split at hfailed <;> exact absurd rfl hfailed
  · rfl

/-- The parameters before the first one with an error must be in force already. -/
theorem setFromMap_allOrNothing_iff (h : ConnectionParametersManager) (params : TagMap) :
    AllOrNothing h params ↔
      ((∃ p : Parameter, p.err h params ≠ none) →
        ∀ p ∈ order.takeWhile (fun p => (p.err h params).isNone), p.InForce h params) := by
  have herr : (h.setFromMap params).2 ≠ none ↔ ∃ p : Parameter, p.err h params ≠ none := by
    rw [setFromMap_err, Ne, findSome?_eq_none_iff]
    push Not
    refine exists_congr fun p => and_iff_right ?_
    cases p <;> decide
  have hunchanged (hfailed : (h.setFromMap params).2 ≠ none) : (h.setFromMap params).1 = h ↔
      ∀ p ∈ order.takeWhile (fun p => (p.err h params).isNone), p.InForce h params := by
    rw [setFromMap_of_err hfailed, forEach_set_state]
    exact foldl_stored_eq_iff ((takeWhile_sublist _).nodup (by decide))
  constructor
  · intro hall hrefused
    exact (hunchanged (herr.mpr hrefused)).mp (hall.unchanged (herr.mpr hrefused))
  · intro hforce
    exact ⟨fun hfailed => (hunchanged hfailed).mpr (hforce (herr.mp hfailed)),
      fun hok hwindows _ hsame => setFromMap_renegotiation hok hwindows hsame⟩

/-- A server that is sent a TCID of zero and a malformed limit on streams truncates connection
identifiers, though it has refused the parameters. -/
theorem truncation_stored_before_error :
    ¬AllOrNothing (new .server 0 0 0)
      (((∅ : TagMap).insert tagTCID [0, 0, 0, 0]).insert tagMSPC [0]) := by
  intro hall
  have hkept := congrArg truncateConnectionID (hall.unchanged (by decide))
  revert hkept
  decide

/-! ## `GetHelloMap` -/

/-- A duration as the ICSL parameter has it: in whole seconds, cut off to 32 bits. -/
def inSeconds (d : Int) : Nat := (d.tdiv second % 2 ^ 32).toNat

/-- `GetHelloMap`. -/
def getHelloMap (h : ConnectionParametersManager) : TagMap :=
  let o := ByteOrder.littleEndian
  (∅ : TagMap).insert tagICSL (o.writeUintN 4 (inSeconds h.idleConnectionStateLifetime))
    |>.insert tagMSPC (o.writeUintN 4 h.maxStreamsPerConnection)
    |>.insert tagMIDS (o.writeUintN 4 MpQuic.maxIncomingDynamicStreamsPerConnection)
    |>.insert tagCFCW (o.writeUintN 4 h.receiveConnectionFlowControlWindow)
    |>.insert tagSFCW (o.writeUintN 4 h.receiveStreamFlowControlWindow)

end ConnectionParametersManager
end MpQuic
