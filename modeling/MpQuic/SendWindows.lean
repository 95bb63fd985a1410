import MpQuic.Lib.MapSum
import MpQuic.StreamData

/-!
# The sending side of flow control

The framer sends on a stream what `SendWindowSize` allows.  So the bytes sent on a stream
and on the connection stay within their windows, the connection's counter is the sum over
the streams that contribute to it, and no frame reaches beyond what its stream has sent.
-/
namespace MpQuic
open Systems FlowController

/-! ## Controllers -/

namespace FlowController

/-- What a stream counts for the connection. -/
def contribution (g : FlowController → Nat) (c : FlowController) : Nat :=
  if c.contributesToConnection then g c else 0

variable {c c' : FlowController} {params : ConnectionParameters} {n : Nat}

theorem contribution_pos (h : c.contributesToConnection = true) (g : FlowController → Nat) :
    contribution g c = g c :=
  if_pos h

theorem contribution_neg (h : ¬c.contributesToConnection = true) (g : FlowController → Nat) :
    contribution g c = 0 :=
  if_neg h

theorem valueAt_contribution_le {m : GoMap FlowController} {g g' : FlowController → Nat} {id : Nat}
    (h : ∀ c, m.lookup id = some c → g c ≤ g' c) :
    valueAt m (contribution g) id ≤ valueAt m (contribution g') id := by
  cases hc : m.lookup id with
  | none => rw [valueAt_of_none hc, valueAt_of_none hc]
  | some c =>
    rw [valueAt_of_lookup hc, valueAt_of_lookup hc, contribution, contribution]
    split
    · exact h c hc
    · exact le_rfl

/-- The sending side of a controller. -/
structure Sends (params : ConnectionParameters) (c : FlowController) : Prop where
  sent : c.bytesSent ≤ c.getSendWindow params
  lt : c.getSendWindow params < 2 ^ 64

/-- The fields of the sending side are the same. -/
structure SameSending (c c' : FlowController) : Prop where
  streamID : c'.streamID = c.streamID
  contributes : c'.contributesToConnection = c.contributesToConnection
  bytesSent : c'.bytesSent = c.bytesSent
  sendWindow : c'.sendWindow = c.sendWindow

theorem SameSending.getSendWindow (h : c.SameSending c') (params : ConnectionParameters) :
    c'.getSendWindow params = c.getSendWindow params := by
  unfold FlowController.getSendWindow
  rw [h.sendWindow, h.streamID]

theorem SameSending.sends (h : c.SameSending c') (hc : c.Sends params) : c'.Sends params where
  sent := by rw [h.bytesSent, h.getSendWindow]; exact hc.sent
  lt := by rw [h.getSendWindow]; exact hc.lt

theorem addBytesSent_eq (h : c.Sends params) (hn : n ≤ c.sendWindowSize params) :
    c.addBytesSent n = { c with bytesSent := c.bytesSent + n } := by
  have hsent := h.sent
  have hlt := h.lt
  unfold sendWindowSize at hn
  unfold addBytesSent
  rw [add64_of_lt (by omega)]

theorem Sends.addBytesSent (h : c.Sends params) (hn : n ≤ c.sendWindowSize params) :
    (c.addBytesSent n).Sends params := by
  have hsent := h.sent
  rw [addBytesSent_eq h hn]
  unfold sendWindowSize at hn
  exact ⟨show c.bytesSent + n ≤ c.getSendWindow params by omega, h.lt⟩

/-- A WINDOW_UPDATE frame does not lower the window if it is not below the initial one. -/
theorem getSendWindow_updateSendWindow {offset : Nat}
    (hoffset : c.sendWindow = 0 → c.getSendWindow params ≤ offset) :
    c.getSendWindow params ≤ (c.updateSendWindow offset).getSendWindow params ∧
      (c.updateSendWindow offset).getSendWindow params ≤ max (c.getSendWindow params) offset := by
  unfold updateSendWindow
  split
  · next hlt =>
    have hnew : ({ c with sendWindow := offset } : FlowController).getSendWindow params = offset :=
      if_neg (by dsimp only; omega)
    rw [hnew]
    refine ⟨?_, le_max_right _ _⟩
    by_cases h0 : c.sendWindow = 0
    · exact hoffset h0
    · rw [getSendWindow, if_neg h0]
      exact hlt.le
  · exact ⟨le_rfl, le_max_left _ _⟩

end FlowController

/-! ## The sending side -/

namespace FlowControlManager
open FlowController

/-- The streams whose data counts for the connection. -/
def contributes (id : Nat) : Bool := !(id == 1 || id == 3)

/-- The number of bytes sent on a stream. -/
def sentOn (f : FlowControlManager) (id : Nat) : Nat :=
  valueAt f.streamFlowController (·.bytesSent) id

variable {f : FlowControlManager} {id : Nat} {params : ConnectionParameters}

theorem modify_of_none (h : f.streamFlowController.lookup id = none)
    (change : FlowController → FlowController) : f.modify id change = f := by
  unfold modify
  rw [h]

theorem modify_of_some {c : FlowController} (h : f.streamFlowController.lookup id = some c)
    (change : FlowController → FlowController) :
    f.modify id change =
      { streamFlowController := f.streamFlowController.insert id (change c)
        connFlowController :=
          if c.contributesToConnection then change f.connFlowController
          else f.connFlowController } := by
  unfold modify
  rw [h]

/-- What the counters of the sending side have to do with each other. -/
structure Sends (params : ConnectionParameters) (f : FlowControlManager) : Prop where
  stream : ∀ id c, f.streamFlowController.lookup id = some c →
    c.Sends params ∧ c.streamID = id ∧ c.contributesToConnection = contributes id
  conn : f.connFlowController.Sends params ∧ f.connFlowController.streamID = 0
  sum : f.connFlowController.bytesSent =
    entrySum f.streamFlowController (contribution (·.bytesSent))

/-- A controller that is put in the place of another. -/
theorem Sends.insert (h : f.Sends params) {c c' conn : FlowController}
    (hc : f.streamFlowController.lookup id = some c) (hsends : c'.Sends params)
    (hid : c'.streamID = c.streamID)
    (hcontributes : c'.contributesToConnection = c.contributesToConnection)
    (hconn : conn.Sends params ∧ conn.streamID = 0)
    (hsum : conn.bytesSent + contribution (·.bytesSent) c =
      f.connFlowController.bytesSent + contribution (·.bytesSent) c') :
    Sends params ⟨f.streamFlowController.insert id c', conn⟩ where
  stream := by
    obtain ⟨-, hid', hcontributes'⟩ := h.stream _ c hc
    exact forall_lookup_insert ⟨hsends, hid.trans hid', hcontributes.trans hcontributes'⟩ h.stream
  conn := hconn
  sum := by
    have hinsert := entrySum_insert f.streamFlowController (contribution (·.bytesSent)) id c'
    rw [valueAt_of_lookup hc, ← h.sum] at hinsert
    dsimp only
    omega

theorem Sends.modify (h : f.Sends params) (change : FlowController → FlowController)
    (hchange : ∀ c : FlowController, c.SameSending (change c)) (id : Nat) :
    (f.modify id change).Sends params ∧ ∀ id', (f.modify id change).sentOn id' = f.sentOn id' := by
  cases hc : f.streamFlowController.lookup id with
  | none =>
    rw [modify_of_none hc]
    exact ⟨h, fun _ => rfl⟩
  | some c =>
    have hsame := hchange c
    have hconn : f.connFlowController.SameSending (if c.contributesToConnection then
        change f.connFlowController else f.connFlowController) := by
      split
      · exact hchange _
      · exact ⟨rfl, rfl, rfl, rfl⟩
    have hcontribution : contribution (·.bytesSent) (change c) = contribution (·.bytesSent) c := by
      rw [contribution, contribution, hsame.contributes, hsame.bytesSent]
    rw [modify_of_some hc]
    refine ⟨h.insert hc (hsame.sends (h.stream id c hc).1) hsame.streamID hsame.contributes
      ⟨hconn.sends h.conn.1, hconn.streamID.trans h.conn.2⟩ ?_, ?_⟩
    · rw [hcontribution, hconn.bytesSent]
    · exact valueAt_insert (hsame.bytesSent.trans (valueAt_of_lookup hc).symm)

/-- The effective windows are the same. -/
structure SameWindows (params : ConnectionParameters) (f f' : FlowControlManager) : Prop where
  stream : ∀ id, (f'.streamFlowController.lookup id).map (·.getSendWindow params) =
    (f.streamFlowController.lookup id).map (·.getSendWindow params)
  conn : f'.connFlowController.getSendWindow params = f.connFlowController.getSendWindow params

theorem SameWindows.refl (params : ConnectionParameters) (f : FlowControlManager) :
    SameWindows params f f :=
  ⟨fun _ => rfl, rfl⟩

theorem SameWindows.modify {f f' : FlowControlManager} (h : SameWindows params f f')
    (change : FlowController → FlowController)
    (hchange : ∀ c : FlowController, (change c).getSendWindow params = c.getSendWindow params)
    (id : Nat) : SameWindows params f (f'.modify id change) := by
  cases hc : f'.streamFlowController.lookup id with
  | none => rwa [modify_of_none hc]
  | some c =>
    rw [modify_of_some hc]
    constructor
    · intro id'
      rw [← h.stream id']
      refine congr_lookup_insert
        (F := Option.map fun d : FlowController => d.getSendWindow params) ?_ id'
      rw [hc, Option.map_some, Option.map_some, hchange]
    · rw [← h.conn]
      split
      · exact hchange _
      · rfl

theorem Sends.addBytesRetrans (h : f.Sends params) (id n : Nat) :
    (f.addBytesRetrans id n).Sends params ∧
      ∀ id', (f.addBytesRetrans id n).sentOn id' = f.sentOn id' :=
  h.modify (·.addBytesRetrans n) (fun _ => ⟨rfl, rfl, rfl, rfl⟩) id

/-- Bytes sent within the window. -/
theorem Sends.addBytesSent (h : f.Sends params) {id n : Nat} (hn : n ≤ f.sendWindowSize params id) :
    (f.addBytesSent id n).Sends params ∧ (f.addBytesSent id n).sentOn id = f.sentOn id + n ∧
      ∀ id', id' ≠ id → (f.addBytesSent id n).sentOn id' = f.sentOn id' := by
  unfold FlowControlManager.addBytesSent
  unfold sendWindowSize at hn
  cases hc : f.streamFlowController.lookup id with
  | none =>
    rw [hc] at hn
    obtain rfl := Nat.le_zero.mp hn
    rw [modify_of_none hc]
    exact ⟨h, rfl, fun _ _ => rfl⟩
  | some c =>
    rw [hc] at hn
    dsimp only at hn
    have hsends := (h.stream id c hc).1
    have hstream : n ≤ c.sendWindowSize params := by
      split at hn
      · exact hn.trans (Nat.min_le_left _ _)
      · exact hn
    have hbytes : (c.addBytesSent n).bytesSent = c.bytesSent + n := by
      rw [addBytesSent_eq hsends hstream]
    rw [modify_of_some hc]
    refine ⟨?_, ?_, fun id' hne => valueAt_insert_of_ne hne⟩
    · split
      · next hcontributes =>
        rw [if_pos hcontributes] at hn
        have hconn := hn.trans (Nat.min_le_right _ _)
        refine h.insert hc (hsends.addBytesSent hstream) rfl rfl
          ⟨h.conn.1.addBytesSent hconn, h.conn.2⟩ ?_
        rw [addBytesSent_eq h.conn.1 hconn, contribution_pos hcontributes,
          contribution_pos (by exact hcontributes), hbytes]
        dsimp only
        omega
      · next hcontributes =>
        refine h.insert hc (hsends.addBytesSent hstream) rfl rfl h.conn ?_
        rw [contribution_neg hcontributes, contribution_neg (by exact hcontributes)]
    · unfold sentOn
      rw [valueAt_insert_self, valueAt_of_lookup hc, hbytes]

theorem Sends.newStream (h : f.Sends params) (hid : id ≠ 0)
    (hlt : params.sendStreamFlowControlWindow < 2 ^ 64) :
    (f.newStream params id (contributes id)).Sends params ∧
      ∀ id', (f.newStream params id (contributes id)).sentOn id' = f.sentOn id' := by
  unfold FlowControlManager.newStream
  split
  · exact ⟨h, fun _ => rfl⟩
  · next hnone =>
    have hnew : FlowController.new params id (contributes id) = _ := if_neg hid
    have hwindow : (FlowController.new params id (contributes id)).getSendWindow params =
        params.sendStreamFlowControlWindow := by
      rw [hnew, getSendWindow, if_pos rfl, if_neg hid]
    have hbytes : (FlowController.new params id (contributes id)).bytesSent = 0 := by rw [hnew]
    refine ⟨⟨?_, h.conn, ?_⟩, ?_⟩
    · refine forall_lookup_insert ⟨⟨?_, ?_⟩, by rw [hnew], by rw [hnew]⟩ h.stream
      · rw [hbytes]
        exact Nat.zero_le _
      · rw [hwindow]
        exact hlt
    · refine h.sum.trans (entrySum_insert_of_eq ?_).symm
      rw [contribution, hbytes, ite_self, valueAt_of_none hnone]
    · exact valueAt_insert (hbytes.trans (valueAt_of_none hnone).symm)

theorem sends_new (params : ConnectionParameters)
    (hlt : params.sendConnectionFlowControlWindow < 2 ^ 64) :
    (FlowControlManager.new params).Sends params := by
  have hnew : FlowController.new params 0 false = _ := if_pos rfl
  have hwindow : (FlowController.new params 0 false).getSendWindow params =
      params.sendConnectionFlowControlWindow := by
    rw [hnew, getSendWindow, if_pos rfl, if_pos rfl]
  have hbytes : (FlowController.new params 0 false).bytesSent = 0 := by rw [hnew]
  refine ⟨?_, ⟨⟨?_, ?_⟩, ?_⟩, ?_⟩
  · exact forall_lookup_empty
  · exact hbytes.le.trans (Nat.zero_le _)
  · exact hwindow.trans_lt hlt
  · exact congrArg streamID hnew
  · exact hbytes

/-- The smallest window that may be announced for a stream, or the connection if it is 0. -/
def initialSendWindow (params : ConnectionParameters) (id : Nat) : Nat :=
  if id = 0 then params.sendConnectionFlowControlWindow else params.sendStreamFlowControlWindow

/-- A WINDOW_UPDATE raises a window or is ignored; the bytes sent stay what they are. -/
theorem Sends.updateWindow (h : f.Sends params) {id offset : Nat}
    (hoffset : initialSendWindow params id ≤ offset) (hlt : offset < 2 ^ 64) :
    (f.updateWindow id offset).1.Sends params ∧
      ∀ id', (f.updateWindow id offset).1.sentOn id' = f.sentOn id' := by
  have hupdate {c : FlowController} (hc : c.Sends params) (hid : c.streamID = id) :
      (c.updateSendWindow offset).Sends params ∧
        (c.updateSendWindow offset).bytesSent = c.bytesSent ∧
        (c.updateSendWindow offset).streamID = c.streamID ∧
        (c.updateSendWindow offset).contributesToConnection = c.contributesToConnection := by
    have hinitial : c.sendWindow = 0 → c.getSendWindow params ≤ offset := by
      intro h0
      rw [getSendWindow, if_pos h0, hid]
      exact hoffset
    obtain ⟨hle, hmax⟩ := getSendWindow_updateSendWindow hinitial
    have hbytes : (c.updateSendWindow offset).bytesSent = c.bytesSent := by
      unfold updateSendWindow
      split <;> rfl
    refine ⟨⟨?_, hmax.trans_lt (max_lt hc.lt hlt)⟩, hbytes, ?_, ?_⟩
    · rw [hbytes]
      exact hc.sent.trans hle
    all_goals
      unfold updateSendWindow
      split <;> rfl
  unfold FlowControlManager.updateWindow
  split
  · next h0 =>
    obtain ⟨hsends, hbytes, hid, -⟩ := hupdate h.conn.1 (h.conn.2.trans h0.symm)
    exact ⟨⟨h.stream, ⟨hsends, hid.trans h.conn.2⟩, hbytes.trans h.sum⟩, fun _ => rfl⟩
  · split
    · exact ⟨h, fun _ => rfl⟩
    · next c hc =>
      obtain ⟨hsends, hid, -⟩ := h.stream id c hc
      obtain ⟨hsends', hbytes, hid', hcontributes⟩ := hupdate hsends hid
      refine ⟨h.insert hc hsends' hid' hcontributes h.conn ?_, ?_⟩
      · rw [contribution, contribution, hcontributes, hbytes]
      · exact valueAt_insert (hbytes.trans (valueAt_of_lookup hc).symm)

end FlowControlManager

/-- The framer's streams and the frames it has made agree with the counters. -/
structure SendSide (params : ConnectionParameters) (streams : GoMap Stream)
    (f : FlowControlManager) (handed : List StreamFrame) : Prop where
  flow : f.Sends params
  streamID : ∀ id str, streams.lookup id = some str → str.streamID = id
  offset : ∀ id str, streams.lookup id = some str → id ≠ 1 → str.writeOffset = f.sentOn id
  unopened : ∀ id, streams.lookup id = none → f.sentOn id = 0
  handed : ∀ g ∈ handed, g.offset + g.dataLen ≤ f.sentOn g.streamID

namespace SendSide
open StreamFramer
variable {params : ConnectionParameters} {streams : GoMap Stream} {f f' : FlowControlManager}
  {handed : List StreamFrame} {id : Nat}

/-- A change of the controllers that leaves what was sent. -/
theorem congr_flow (h : SendSide params streams f handed)
    (hf : f'.Sends params ∧ ∀ id, f'.sentOn id = f.sentOn id) :
    SendSide params streams f' handed := by
  obtain ⟨hflow, hsent⟩ := hf
  refine ⟨hflow, h.streamID, ?_, ?_, ?_⟩
  · simpa only [hsent] using h.offset
  · simpa only [hsent] using h.unopened
  · simpa only [hsent] using h.handed

/-- A stream in its place, with what has now been sent on it; nothing is sent on the others. -/
theorem insert (h : SendSide params streams f handed) {str : Stream} {handed' : List StreamFrame}
    (hflow : f'.Sends params) (hother : ∀ id', id' ≠ id → f'.sentOn id' = f.sentOn id')
    (hid : str.streamID = id) (hoffset : id ≠ 1 → str.writeOffset = f'.sentOn id)
    (hhanded : ∀ g ∈ handed', g.offset + g.dataLen ≤ f'.sentOn g.streamID) :
    SendSide params (streams.insert id str) f' handed' := by
  refine ⟨hflow, ?_, ?_, ?_, hhanded⟩
  · exact forall_lookup_insert hid h.streamID
  · intro id' str' hstr hcrypto
    by_cases hne : id' = id
    · subst hne
      rw [AList.lookup_insert] at hstr
      exact Option.some.inj hstr ▸ hoffset hcrypto
    · rw [AList.lookup_insert_ne hne] at hstr
      rw [hother id' hne]
      exact h.offset id' str' hstr hcrypto
  · intro id' hnone
    by_cases hne : id' = id
    · subst hne
      rw [AList.lookup_insert] at hnone
      cases hnone
    · rw [AList.lookup_insert_ne hne] at hnone
      rw [hother id' hne]
      exact h.unopened id' hnone

/-- A frame that is made counts its bytes for the stream, and for the connection if it contributes.
-/
theorem push {st st' : NormalState} {maxBytes : Nat} {s s' : Stream} {frame : StreamFrame}
    (h : SendSide params streams st.flowControlManager st.handed)
    (hs : streams.lookup id = some s) (hpush : Pushes params maxBytes s s' st st' frame) :
    SendSide params (streams.insert id s') st'.flowControlManager st'.handed := by
  have hid := h.streamID id s hs
  have hoffset := h.offset id s hs (hid ▸ hpush.notCrypto)
  have hwindow := hpush.window
  rw [hid] at hwindow
  obtain ⟨hflow, hself, hother⟩ := h.flow.addBytesSent hwindow
  rw [hpush.flow, hpush.handed, hid]
  refine h.insert hflow hother (hpush.sameStream.trans hid) ?_ ?_
  · intro _
    rw [hpush.writeOffset, hself, hoffset]
  · intro g hg
    rcases List.mem_append.mp hg with hg | hg
    · refine (h.handed g hg).trans ?_
      by_cases hne : g.streamID = id
      · rw [hne, hself]
        exact Nat.le_add_right _ _
      · exact (hother _ hne).ge
    · rw [List.mem_singleton.mp hg, hpush.streamID, hpush.offset, hid, hself, hoffset]

theorem popNormalFrame {st : NormalState} {s : Stream}
    (h : SendSide params streams st.flowControlManager st.handed)
    (hs : streams.lookup id = some s) (maxBytes : Nat) :
    SendSide params (streams.insert id (StreamFramer.popNormalFrame params maxBytes s st).1)
      (StreamFramer.popNormalFrame params maxBytes s st).2.1.flowControlManager
      (StreamFramer.popNormalFrame params maxBytes s st).2.1.handed := by
  rcases popNormalFrame_pushes params maxBytes s st with ⟨hstream, hsame⟩ | ⟨frame, hpush⟩
  · rw [hstream, hsame]
    exact h.insert h.flow (fun _ _ => rfl) (h.streamID id s hs) (h.offset id s hs) h.handed
  · exact h.push hs hpush

end SendSide

namespace StreamFramer

/-- The send side of a framer. -/
def Sends (f : StreamFramer) : Prop :=
  SendSide f.connectionParameters f.streamsMap.streams f.flowControlManager f.handed

/-- The framer has gone on sending within the same windows. -/
structure Progress (f : StreamFramer) (streams : GoMap Stream) (fc : FlowControlManager)
    (handed : List StreamFrame) : Prop where
  side : SendSide f.connectionParameters streams fc handed
  windows : f.flowControlManager.SameWindows f.connectionParameters fc
  sent : ∀ id, f.flowControlManager.sentOn id ≤ fc.sentOn id

variable {f : StreamFramer} {streams : GoMap Stream} {fc : FlowControlManager} {fs : List FrameRef}

theorem Progress.refl (hf : f.Sends) :
    f.Progress f.streamsMap.streams f.flowControlManager f.handed :=
  ⟨hf, .refl _ _, fun _ => le_rfl⟩

theorem Progress.popNormalFrame {st : NormalState}
    (h : f.Progress streams st.flowControlManager st.handed) {id : Nat} {s : Stream}
    (hs : streams.lookup id = some s) (maxBytes : Nat) :
    f.Progress
      (streams.insert id (StreamFramer.popNormalFrame f.connectionParameters maxBytes s st).1)
      (StreamFramer.popNormalFrame f.connectionParameters maxBytes s st).2.1.flowControlManager
      (StreamFramer.popNormalFrame f.connectionParameters maxBytes s st).2.1.handed := by
  refine ⟨h.side.popNormalFrame hs maxBytes, ?_, ?_⟩ <;>
    rcases popNormalFrame_pushes f.connectionParameters maxBytes s st with
      ⟨-, hsame⟩ | ⟨frame, hpush⟩
  · rw [hsame]
    exact h.windows
  · rw [hpush.flow]
    exact h.windows.modify (·.addBytesSent frame.dataLen) (fun _ => rfl) _
  · rw [hsame]
    exact h.sent
  · rw [hpush.flow]
    obtain ⟨-, hself, hother⟩ := h.side.flow.addBytesSent hpush.window
    intro id'
    refine (h.sent id').trans ?_
    by_cases hne : id' = s.streamID
    · rw [hne, hself]
      exact Nat.le_add_right _ _
    · exact (hother id' hne).ge

theorem Progress.addBytesRetrans {handed : List StreamFrame} (h : f.Progress streams fc handed)
    (id n : Nat) : f.Progress streams (fc.addBytesRetrans id n) handed := by
  have hretrans := h.side.flow.addBytesRetrans id n
  exact ⟨h.side.congr_flow hretrans,
    h.windows.modify (·.addBytesRetrans n) (fun _ => rfl) id,
    fun id' => (h.sent id').trans (hretrans.2 id').ge⟩

theorem maybePopNormalFrames_progress {f₀ f f' : StreamFramer} {maxBytes : Nat}
    (hparams : f.connectionParameters = f₀.connectionParameters)
    (hf : f₀.Progress f.streamsMap.streams f.flowControlManager f.handed)
    (h : f.maybePopNormalFrames maxBytes = .ok (f', fs)) :
    f₀.Progress f'.streamsMap.streams f'.flowControlManager f'.handed ∧
      f'.connectionParameters = f₀.connectionParameters := by
  unfold maybePopNormalFrames at h
  dsimp only at h
  rw [hparams] at h
  generalize hiter : f.streamsMap.roundRobinIterate _ _ = r at h
  rcases r with e | ⟨m, st⟩
  · cases h
  have hprogress := StreamsMap.roundRobinIterate_rule
    (P := fun (m : StreamsMap) (st : NormalState) =>
      f₀.Progress m.streams st.flowControlManager st.handed)
    (fun _ _ _ _ h hlookup => h.popNormalFrame hlookup maxBytes) (fun _ _ _ _ h => h) (by exact hf)
    hiter
  obtain ⟨rfl, rfl⟩ := Prod.mk.inj (Except.ok.inj h)
  exact ⟨hprogress, rfl⟩

/-- What counting retransmitted bytes keeps holds after the loop over the queue. -/
theorem popRetransmissions_flow {P : FlowControlManager → Prop}
    (hP : ∀ f id n, P f → P (f.addBytesRetrans id n)) (maxLen : Nat) (queue : List FrameRef)
    (heap : FrameHeap) (res : List FrameRef) (currentLen : Nat) (h : P fc) :
    P (popRetransmissions maxLen heap fc res currentLen queue).flowControlManager := by
  induction queue generalizing heap fc res currentLen with
  | nil => exact h
  | cons r rest ih =>
    unfold popRetransmissions
    dsimp only
    split
    · exact h
    split
    · exact ih _ _ _ (hP _ _ _ h)
    · exact hP _ _ _ h

/-- Popping frames, first those to retransmit, keeps within the send windows. -/
theorem popStreamFrames_progress {f f' : StreamFramer} {maxLen : Nat} (hf : f.Sends)
    (h : f.popStreamFrames maxLen = .ok (f', fs)) :
    f.Progress f'.streamsMap.streams f'.flowControlManager f'.handed ∧
      f'.connectionParameters = f.connectionParameters := by
  have hretrans := popRetransmissions_flow
    (P := fun fc => f.Progress f.streamsMap.streams fc f.handed)
    (fun _ id n h => h.addBytesRetrans id n) maxLen f.retransmissionQueue f.heap [] 0 (.refl hf)
  unfold popStreamFrames maybePopFramesForRetransmission at h
  dsimp only at h
  generalize popRetransmissions maxLen f.heap f.flowControlManager [] 0 f.retransmissionQueue = st
    at h hretrans
  generalize hnormal : maybePopNormalFrames _ (maxLen - st.currentLen) = r at h
  rcases r with e | ⟨f₂, fs₂⟩
  · cases h
  obtain ⟨rfl, rfl⟩ := Prod.mk.inj (Except.ok.inj h)
  refine maybePopNormalFrames_progress ?_ ?_ hnormal
  · rfl
  · exact hretrans

end StreamFramer
end MpQuic
