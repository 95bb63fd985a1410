import MpQuic.Lib.Machine
import MpQuic.ReceiveWindows

/-!
# Flow control between honest peers

A sender whose framer keeps to `SendWindowSize` and a receiver that counts what it gets,
with STREAM and WINDOW_UPDATE frames lost, repeated and reordered in between: a frame that
has been sent may arrive any number of times, at any time, or never.  The receiver finds
no violation as long as no window it has announced is taken back.
-/
namespace MpQuic
open Systems FlowControlManager

/-- A sender and a receiver.  The STREAM frames that have been sent are the frames the sender's
framer has handed out, and parts of them. -/
structure Peers where
  sender : StreamFramer
  receiver : FlowControlManager
  receiverParameters : ConnectionParameters
  windowUpdates : List (Nat × Nat) := []
  errors : List Err := []

inductive PeerEvent
  -- the sender
  | openStream (id : Nat)
  | write (id : Nat) (data : List Byte)
  | close (id : Nat)
  | addFrameForRetransmission (frame : FrameRef)
  | popStreamFrames (maxLen : Nat)
  | receiveWindowUpdate (id offset : Nat)
  -- the receiver
  | acceptStream (id : Nat)
  | receiveStreamFrame (id byteOffset : Nat)
  | read (id n : Nat) (now : Int)
  | getWindowUpdates (rtt : Int) (remoteRTTs : List Int) (now : Int) (force : Bool)
      (order : List Nat)

namespace Peers

/-- Frames arrive only if they were sent, and only what has arrived is read. -/
def Possible (s : Peers) : PeerEvent → Prop
  | .openStream id => id ≠ 0
  | .acceptStream id => id ≠ 0
  | .receiveStreamFrame id byteOffset =>
    ∃ g ∈ s.sender.handed, g.streamID = id ∧ byteOffset ≤ g.offset + g.dataLen
  | .read id n _ => ∃ c, s.receiver.streamFlowController.lookup id = some c ∧
    c.bytesRead + n ≤ c.highestReceived
  | .receiveWindowUpdate id offset => (id, offset) ∈ s.windowUpdates
  | _ => True

instance (s : Peers) (e : PeerEvent) : Decidable (s.Possible e) := by
  cases e <;> (unfold Possible; infer_instance)

/-- A change of one of the sender's streams. -/
def changeStream (s : Peers) (id : Nat) (change : Stream → Stream) : Peers :=
  match s.sender.streamsMap.streams.lookup id with
  | none => s
  | some str => { s with sender := s.sender.setStream id (change str) }

def apply (s : Peers) : PeerEvent → Peers
  | .openStream id =>
    let sender := { s.sender with streamsMap := s.sender.streamsMap.putStream (.new id) }
    { s with sender := sender.newStream id }
  | .write id data => s.changeStream id (·.write data)
  | .close id => s.changeStream id (·.close)
  | .addFrameForRetransmission frame =>
    { s with sender := s.sender.addFrameForRetransmission frame }
  | .popStreamFrames maxLen =>
    match s.sender.popStreamFrames maxLen with
    | .ok (sender, _) => { s with sender }
    | .error _ => s
  | .receiveWindowUpdate id offset =>
    { s with sender := { s.sender with
        flowControlManager := (s.sender.flowControlManager.updateWindow id offset).1 } }
  | .acceptStream id => { s with
      receiver := s.receiver.newStream s.receiverParameters id (contributes id) }
  | .receiveStreamFrame id byteOffset =>
    let (receiver, err) := s.receiver.updateHighestReceived id byteOffset
    { s with receiver, errors := s.errors ++ err.toList }
  | .read id n now => { s with receiver := s.receiver.addBytesRead id n now }
  | .getWindowUpdates rtt remoteRTTs now force order =>
    let (receiver, updates) := s.receiver.getWindowUpdates rtt remoteRTTs now force order
    { s with receiver, windowUpdates := s.windowUpdates ++ updates }

/-- Nothing has happened yet, and the windows the sender starts with are those the receiver
has announced in the handshake. -/
structure Initial (s : Peers) : Prop where
  streams : s.sender.streamsMap.streams = ∅
  handed : s.sender.handed = []
  sendFlow : s.sender.flowControlManager = .new s.sender.connectionParameters
  receiveFlow : s.receiver = .new s.receiverParameters
  streamWindow : s.sender.connectionParameters.sendStreamFlowControlWindow =
    s.receiverParameters.receiveStreamFlowControlWindow
  connectionWindow : s.sender.connectionParameters.sendConnectionFlowControlWindow =
    s.receiverParameters.receiveConnectionFlowControlWindow
  streamWindowLt : s.receiverParameters.receiveStreamFlowControlWindow < 2 ^ 64
  connectionWindowLt : s.receiverParameters.receiveConnectionFlowControlWindow < 2 ^ 64
  windowUpdates : s.windowUpdates = []
  errors : s.errors = []

/-- The protocol. -/
def machine : Machine Peers PeerEvent where
  init := Initial
  step s e s' := s.Possible e ∧ s' = s.apply e

/-- When windows are updated, none of them is taken back. -/
def WindowsCanGrow (s : Peers) : PeerEvent → Prop
  | .getWindowUpdates .. => s.receiver.Grows
  | _ => True

instance (s : Peers) (e : PeerEvent) : Decidable (s.WindowsCanGrow e) := by
  cases e <;> (unfold WindowsCanGrow; infer_instance)

/-! ## The invariant -/

/-- What sender and receiver know of each other. -/
structure Agrees (s : Peers) : Prop where
  sends : s.sender.Sends
  receives : s.receiver.Receives s.receiverParameters
  streamWindow : s.sender.connectionParameters.sendStreamFlowControlWindow =
    s.receiverParameters.receiveStreamFlowControlWindow
  connectionWindow : s.sender.connectionParameters.sendConnectionFlowControlWindow =
    s.receiverParameters.receiveConnectionFlowControlWindow
  streamWindowLt : s.receiverParameters.receiveStreamFlowControlWindow < 2 ^ 64
  received : ∀ id c, s.receiver.streamFlowController.lookup id = some c →
    c.highestReceived ≤ s.sender.flowControlManager.sentOn id
  within : s.sender.flowControlManager.Within s.sender.connectionParameters s.receiverParameters
    s.receiver
  updates : ∀ u ∈ s.windowUpdates, s.receiver.Announced s.receiverParameters u
  errors : ∀ id, Err.flowControlReceivedTooMuchData id ∉ s.errors

/-- No window, announced or effective, is taken back. -/
structure WindowsGrow (s s' : Peers) : Prop where
  receiveStream : ∀ id c, s.receiver.streamFlowController.lookup id = some c →
    ∃ c', s'.receiver.streamFlowController.lookup id = some c' ∧
      c.receiveWindow ≤ c'.receiveWindow
  receiveConn : s.receiver.connFlowController.receiveWindow ≤
    s'.receiver.connFlowController.receiveWindow
  send : s.sender.flowControlManager.SendWindowsGrow s.sender.connectionParameters
    s'.sender.flowControlManager
  parameters : s'.sender.connectionParameters = s.sender.connectionParameters

variable {s : Peers}

/-- All data the receiver has counted for the connection was sent within its window. -/
theorem Agrees.conn_sent_le (h : s.Agrees) :
    s.sender.flowControlManager.connFlowController.bytesSent ≤
      s.receiver.connFlowController.receiveWindow :=
  h.sends.flow.conn.1.sent.trans h.within.conn

/-- All data of a stream was sent within the window it has. -/
theorem Agrees.sent_le (h : s.Agrees) (id : Nat) :
    s.sender.flowControlManager.sentOn id ≤ s.receiver.receiveWindowOn s.receiverParameters id := by
  unfold sentOn
  cases hc : s.sender.flowControlManager.streamFlowController.lookup id with
  | none =>
    rw [valueAt_of_none hc]
    exact Nat.zero_le _
  | some c =>
    rw [valueAt_of_lookup hc]
    exact (h.sends.flow.stream id c hc).1.sent.trans (h.within.stream id c hc)

theorem Agrees.initial (h : s.Initial) : s.Agrees := by
  have hconnLt := h.connectionWindowLt
  rw [← h.connectionWindow] at hconnLt
  have hsends := sends_new s.sender.connectionParameters hconnLt
  have hreceives := receives_new s.receiverParameters h.connectionWindowLt
  have hsent (id : Nat) : s.sender.flowControlManager.sentOn id = 0 := by
    rw [h.sendFlow]
    exact valueAt_of_none (AList.lookup_empty id)
  refine ⟨⟨?_, ?_, ?_, ?_, ?_⟩, ?_, h.streamWindow, h.connectionWindow, h.streamWindowLt, ?_,
    ⟨?_, ?_⟩, ?_, ?_⟩
  · rw [h.sendFlow]
    exact hsends
  · rw [h.streams]
    exact forall_lookup_empty
  · rw [h.streams]
    exact forall_lookup_empty
  · exact fun id _ => hsent id
  · simp [h.handed]
  · rw [h.receiveFlow]
    exact hreceives
  · rw [h.receiveFlow]
    exact forall_lookup_empty
  · rw [h.sendFlow]
    exact forall_lookup_empty
  · rw [h.sendFlow, h.receiveFlow]
    exact h.connectionWindow.le
  · simp [h.windowUpdates]
  · simp [h.errors]

/-! ## Steps of the sender -/

section Steps
variable {s : Peers}

/-- The sender goes on, within the receiver's windows. -/
theorem Agrees.setSender (h : s.Agrees) {f : StreamFramer} (hsends : f.Sends)
    (hparams : f.connectionParameters = s.sender.connectionParameters)
    (hsent : ∀ id, s.sender.flowControlManager.sentOn id ≤ f.flowControlManager.sentOn id)
    (hwithin : f.flowControlManager.Within s.sender.connectionParameters s.receiverParameters
      s.receiver) : Agrees { s with sender := f } where
  sends := hsends
  receives := h.receives
  streamWindow := by rw [hparams]; exact h.streamWindow
  connectionWindow := by rw [hparams]; exact h.connectionWindow
  streamWindowLt := h.streamWindowLt
  received id c hc := (h.received id c hc).trans (hsent id)
  within := by rw [hparams]; exact hwithin
  updates := h.updates
  errors := h.errors

variable {id byteOffset : Nat}

theorem Agrees.openStream (h : s.Agrees) (hid : id ≠ 0) :
    (s.apply (.openStream id)).Agrees ∧ s.WindowsGrow (s.apply (.openStream id)) := by
  have hlt := h.streamWindowLt
  rw [← h.streamWindow] at hlt
  have hinitial := h.receives.initial_le id
  rw [← h.streamWindow] at hinitial
  obtain ⟨hsends, hsent⟩ := h.sends.flow.newStream hid hlt
  obtain ⟨hwithin, hgrow⟩ := h.within.newStream hid hinitial
  have hput : SendSide s.sender.connectionParameters
      (s.sender.streamsMap.putStream (.new id)).streams s.sender.flowControlManager
      s.sender.handed := by
    unfold StreamsMap.putStream
    split
    · exact h.sends
    · next hnone =>
      refine h.sends.insert h.sends.flow (fun _ _ => rfl) rfl ?_ h.sends.handed
      exact fun _ => (h.sends.unopened id hnone).symm
  refine ⟨h.setSender (hput.congr_flow ⟨hsends, hsent⟩) rfl (fun id' => (hsent id').ge) hwithin,
    fun _ c hc => ⟨c, hc, le_rfl⟩, le_rfl, hgrow, rfl⟩

theorem Agrees.changeStream (h : s.Agrees) (id : Nat) {change : Stream → Stream}
    (hid : ∀ str, (change str).streamID = str.streamID)
    (hoffset : ∀ str, (change str).writeOffset = str.writeOffset) :
    (s.changeStream id change).Agrees ∧ s.WindowsGrow (s.changeStream id change) := by
  unfold Peers.changeStream
  split
  · exact ⟨h, fun _ c hc => ⟨c, hc, le_rfl⟩, le_rfl, .refl _ _, rfl⟩
  · next str hstr =>
    have hsends := h.sends.insert h.sends.flow (fun _ _ => rfl)
      ((hid str).trans (h.sends.streamID id str hstr))
      (fun hcrypto => (hoffset str).trans (h.sends.offset id str hstr hcrypto)) h.sends.handed
    exact ⟨h.setSender hsends rfl (fun _ => le_rfl) h.within, fun _ c hc => ⟨c, hc, le_rfl⟩,
      le_rfl, .refl _ _, rfl⟩

theorem Agrees.popStreamFrames (h : s.Agrees) (maxLen : Nat) :
    (s.apply (.popStreamFrames maxLen)).Agrees ∧
      s.WindowsGrow (s.apply (.popStreamFrames maxLen)) := by
  unfold Peers.apply
  dsimp only
  split
  · next f fs hpop =>
    obtain ⟨hprogress, hparams⟩ := StreamFramer.popStreamFrames_progress h.sends hpop
    refine ⟨h.setSender ?_ hparams hprogress.sent (hprogress.windows.within h.within),
      fun _ c hc => ⟨c, hc, le_rfl⟩, le_rfl, hprogress.windows.grow, hparams⟩
    rw [StreamFramer.Sends, hparams]
    exact hprogress.side
  · exact ⟨h, fun _ c hc => ⟨c, hc, le_rfl⟩, le_rfl, .refl _ _, rfl⟩

/-- A WINDOW_UPDATE frame, however late it arrives, announces no more than the receiver has granted.
-/
theorem Agrees.receiveWindowUpdate (h : s.Agrees) {id offset : Nat}
    (hsent : (id, offset) ∈ s.windowUpdates) :
    (s.apply (.receiveWindowUpdate id offset)).Agrees ∧
      s.WindowsGrow (s.apply (.receiveWindowUpdate id offset)) := by
  have hannounced := h.updates _ hsent
  have hlimits : initialSendWindow s.sender.connectionParameters id ≤ offset ∧
      (id = 0 → offset ≤ s.receiver.connFlowController.receiveWindow) ∧
      (id ≠ 0 → offset ≤ s.receiver.receiveWindowOn s.receiverParameters id) := by
    unfold initialSendWindow
    unfold FlowControlManager.Announced at hannounced
    by_cases h0 : id = 0
    · rw [if_pos h0] at hannounced ⊢
      exact ⟨h.connectionWindow.le.trans hannounced.1, fun _ => hannounced.2, (absurd h0 ·)⟩
    · rw [if_neg h0] at hannounced ⊢
      exact ⟨h.streamWindow.le.trans hannounced.1, (absurd · h0), fun _ => hannounced.2⟩
  obtain ⟨hinitial, hconn, hstream⟩ := hlimits
  have hlt : offset < 2 ^ 64 := by
    by_cases h0 : id = 0
    · exact (hconn h0).trans_lt h.receives.conn.lt
    · refine (hstream h0).trans_lt ?_
      unfold receiveWindowOn
      cases hc : s.receiver.streamFlowController.lookup id with
      | none => exact h.streamWindowLt
      | some c => exact (h.receives.stream id c hc).1.lt
  have hupdate := h.sends.flow.updateWindow hinitial hlt
  obtain ⟨hwithin, hgrow⟩ := h.within.updateWindow h.sends.flow hinitial hconn hstream
  exact ⟨h.setSender (h.sends.congr_flow hupdate) rfl (fun id' => (hupdate.2 id').ge) hwithin,
    fun _ c hc => ⟨c, hc, le_rfl⟩, le_rfl, hgrow, rfl⟩

/-! ## Steps of the receiver -/

section

variable (h : s.Agrees)
include h

/-- The receiver goes on, and takes no window back. -/
theorem Agrees.setReceiver {f : FlowControlManager} (hreceives : f.Receives s.receiverParameters)
    (hreceived : ∀ id c, f.streamFlowController.lookup id = some c →
      c.highestReceived ≤ s.sender.flowControlManager.sentOn id)
    (hstream : ∀ id, s.receiver.receiveWindowOn s.receiverParameters id ≤
      f.receiveWindowOn s.receiverParameters id)
    (hconn : s.receiver.connFlowController.receiveWindow ≤ f.connFlowController.receiveWindow) :
    Agrees { s with receiver := f } where
  sends := h.sends
  receives := hreceives
  streamWindow := h.streamWindow
  connectionWindow := h.connectionWindow
  streamWindowLt := h.streamWindowLt
  received := hreceived
  within := h.within.mono hstream hconn
  updates u hu := (h.updates u hu).mono hconn (hstream u.1)
  errors := h.errors

/-- The receiver goes on with one of its streams, and the windows stay what they are. -/
theorem Agrees.setReceiverStream {c c' conn' : FlowController}
    (hc : s.receiver.streamFlowController.lookup id = some c)
    (hreceives : FlowControlManager.Receives s.receiverParameters
      ⟨s.receiver.streamFlowController.insert id c', conn'⟩)
    (hreceived : c'.highestReceived ≤ s.sender.flowControlManager.sentOn id)
    (hwindow : c'.receiveWindow = c.receiveWindow)
    (hconn : conn'.receiveWindow = s.receiver.connFlowController.receiveWindow) :
    Agrees { s with receiver := ⟨s.receiver.streamFlowController.insert id c', conn'⟩ } ∧
      s.WindowsGrow
        { s with receiver := ⟨s.receiver.streamFlowController.insert id c', conn'⟩ } := by
  refine ⟨h.setReceiver hreceives (forall_lookup_insert hreceived h.received) ?_ hconn.ge,
    exists_lookup_insert ?_ fun _ _ _ => le_rfl, hconn.ge, .refl _ _, rfl⟩
  · exact fun id' => (receiveWindowOn_insert hc hwindow _ _ id').ge
  · intro d hd
    exact Option.some.inj (hc.symm.trans hd) ▸ hwindow.ge

theorem Agrees.acceptStream (hid : id ≠ 0) :
    (s.apply (.acceptStream id)).Agrees ∧ s.WindowsGrow (s.apply (.acceptStream id)) := by
  have haccept := h.receives.newStream hid h.streamWindowLt
  unfold Peers.apply newStream at *
  dsimp only at *
  split at haccept
  · exact ⟨h, fun _ c hc => ⟨c, hc, le_rfl⟩, le_rfl, .refl _ _, rfl⟩
  · next hnone =>
    obtain ⟨hreceives, hwindows⟩ := haccept
    have hnew : FlowController.new s.receiverParameters id (contributes id) = _ :=
      if_neg hid
    refine ⟨h.setReceiver hreceives (forall_lookup_insert ?_ h.received)
      (fun id' => (hwindows id').ge) le_rfl, exists_lookup_insert ?_ fun _ _ _ => le_rfl, le_rfl,
      .refl _ _, rfl⟩
    · rw [hnew]
      exact Nat.zero_le _
    · intro c hc
      cases hnone.symm.trans hc

/-- What was sent on a stream that contributes to the connection's window. -/
theorem Agrees.contribution_sent (id : Nat) :
    valueAt s.sender.flowControlManager.streamFlowController
      (FlowController.contribution (·.bytesSent)) id =
      if contributes id then s.sender.flowControlManager.sentOn id else 0 := by
  unfold sentOn
  cases hc : s.sender.flowControlManager.streamFlowController.lookup id with
  | none => rw [valueAt_of_none hc, valueAt_of_none hc, ite_self]
  | some c =>
    rw [valueAt_of_lookup hc, valueAt_of_lookup hc, FlowController.contribution,
      (h.sends.flow.stream id c hc).2.2]

/-- Data that was sent on a stream is within the connection's window. -/
theorem Agrees.conn_received_le {c : FlowController}
    (hc : s.receiver.streamFlowController.lookup id = some c)
    (hsent : byteOffset ≤ s.sender.flowControlManager.sentOn id)
    (hcontributes : c.contributesToConnection = true) :
    s.receiver.connFlowController.highestReceived + (byteOffset - c.highestReceived) ≤
      s.receiver.connFlowController.receiveWindow := by
  have hreceived := h.received id c hc
  refine le_trans ?_ h.conn_sent_le
  rw [h.receives.highest, h.sends.flow.sum]
  refine entrySum_add_le (a := id) ?_ fun id' _ => ?_
  · rw [h.contribution_sent, valueAt_of_lookup hc, FlowController.contribution_pos hcontributes,
      ← (h.receives.stream id c hc).2.1, if_pos hcontributes]
    omega
  · rw [h.contribution_sent]
    cases hd : s.receiver.streamFlowController.lookup id' with
    | none =>
      rw [valueAt_of_none hd]
      exact Nat.zero_le _
    | some d =>
      rw [valueAt_of_lookup hd, FlowController.contribution, (h.receives.stream id' d hd).2.1]
      split
      · exact h.received id' d hd
      · exact le_rfl

/-- Data that the sender has handed out is within the windows of the receiver, and causes no error.
-/
theorem Agrees.receiveStreamFrame
    (hsent : ∃ g ∈ s.sender.handed, g.streamID = id ∧ byteOffset ≤ g.offset + g.dataLen) :
    (s.apply (.receiveStreamFrame id byteOffset)).Agrees ∧
      s.WindowsGrow (s.apply (.receiveStreamFrame id byteOffset)) := by
  obtain ⟨g, hg, rfl, hle⟩ := hsent
  have hhanded := hle.trans (h.sends.handed g hg)
  unfold Peers.apply
  dsimp only
  cases hc : s.receiver.streamFlowController.lookup g.streamID with
  | none =>
    unfold updateHighestReceived
    rw [hc]
    refine ⟨⟨h.sends, h.receives, h.streamWindow, h.connectionWindow, h.streamWindowLt, h.received,
      h.within, h.updates, ?_⟩, fun _ c hc => ⟨c, hc, le_rfl⟩, le_rfl, .refl _ _, rfl⟩
    intro id hmem
    rcases List.mem_append.mp hmem with hmem | hmem
    · exact h.errors id hmem
    · simp at hmem
  | some c =>
    have hwindow : byteOffset ≤ c.receiveWindow := by
      have hsent := h.sent_le g.streamID
      rw [receiveWindowOn, hc] at hsent
      exact hhanded.trans hsent
    obtain ⟨c', conn', heq, hreceives, hwindow', hhighest, hconn'⟩ :=
      h.receives.updateHighestReceived hc hwindow (h.conn_received_le hc hhanded)
    rw [heq]
    rw [Option.toList_none, List.append_nil]
    refine h.setReceiverStream hc hreceives ?_ hwindow' hconn'
    rw [hhighest]
    exact max_le (h.received _ c hc) hhanded

theorem Agrees.read {id n : Nat} (now : Int)
    (hread : ∃ c, s.receiver.streamFlowController.lookup id = some c ∧
      c.bytesRead + n ≤ c.highestReceived) :
    (s.apply (.read id n now)).Agrees ∧ s.WindowsGrow (s.apply (.read id n now)) := by
  obtain ⟨c, hc, hn⟩ := hread
  obtain ⟨c', conn', heq, hreceives, hwindow, hhighest, hconn⟩ :=
    h.receives.addBytesRead hc hn now
  unfold Peers.apply
  dsimp only
  rw [heq] at hreceives ⊢
  exact h.setReceiverStream hc hreceives (hhighest ▸ h.received id c hc) hwindow hconn

theorem Agrees.getWindowUpdates (hgrows : s.receiver.Grows) (rtt : Int) (remoteRTTs : List Int)
    (now : Int) (force : Bool) (order : List Nat) :
    (s.apply (.getWindowUpdates rtt remoteRTTs now force order)).Agrees ∧
      s.WindowsGrow (s.apply (.getWindowUpdates rtt remoteRTTs now force order)) := by
  obtain ⟨hupdates, hannounced⟩ := getWindowUpdates_updates
    h.receives.readWithin hgrows rtt remoteRTTs now force order
  have hagrees := h.setReceiver (hupdates.receives h.receives) ?_
    (hupdates.receiveWindowOn s.receiverParameters) hupdates.conn.window
  · refine ⟨⟨hagrees.sends, hagrees.receives, hagrees.streamWindow, hagrees.connectionWindow,
      hagrees.streamWindowLt, hagrees.received, hagrees.within, ?_, hagrees.errors⟩, ?_,
      hupdates.conn.window, .refl _ _, rfl⟩
    · intro u hu
      rcases List.mem_append.mp hu with hu | hu
      · exact hagrees.updates u hu
      · exact hannounced _ h.receives u hu
    · intro id c hc
      obtain ⟨c', hc', hupdated⟩ := hupdates.stream id c hc
      exact ⟨c', hc', hupdated.window⟩
  · intro id c' hc'
    obtain ⟨c, hc, hupdated⟩ := hupdates.before hc'
    rw [hupdated.highestReceived]
    exact h.received id c hc

/-- The two sides agree after every event, in whatever order frames arrive and however often. -/
theorem Agrees.step {e : PeerEvent} (hcan : s.WindowsCanGrow e) (hpossible : s.Possible e) :
    (s.apply e).Agrees ∧ s.WindowsGrow (s.apply e) := by
  cases e with
  | openStream id => exact h.openStream hpossible
  | write id data =>
    refine h.changeStream id (fun str => ?_) (fun str => ?_) <;>
      (unfold Stream.write; split <;> rfl)
  | close id => exact h.changeStream id (fun _ => rfl) (fun _ => rfl)
  | addFrameForRetransmission frame =>
    exact ⟨h.setSender h.sends rfl (fun _ => le_rfl) h.within, fun _ c hc => ⟨c, hc, le_rfl⟩,
      le_rfl, .refl _ _, rfl⟩
  | popStreamFrames maxLen => exact h.popStreamFrames maxLen
  | receiveWindowUpdate id offset => exact h.receiveWindowUpdate hpossible
  | acceptStream id => exact h.acceptStream hpossible
  | receiveStreamFrame id byteOffset => exact h.receiveStreamFrame hpossible
  | read id n now => exact h.read now hpossible
  | getWindowUpdates rtt remoteRTTs now force order =>
    exact h.getWindowUpdates hcan rtt remoteRTTs now force order

end

end Steps

/-! ## Every run -/

/-- The receiver has found no violation, and the sender is within its send windows. -/
structure FlowControlKept (s : Peers) : Prop where
  errors : ∀ id, Err.flowControlReceivedTooMuchData id ∉ s.errors
  stream : ∀ id c, s.sender.flowControlManager.streamFlowController.lookup id = some c →
    c.bytesSent ≤ c.getSendWindow s.sender.connectionParameters
  conn : s.sender.flowControlManager.connFlowController.bytesSent ≤
    s.sender.flowControlManager.connFlowController.getSendWindow s.sender.connectionParameters

theorem Agrees.flowControlKept (h : s.Agrees) : s.FlowControlKept where
  errors := h.errors
  stream id c hc := (h.sends.flow.stream id c hc).1.sent
  conn := h.sends.flow.conn.1.sent

theorem agrees_of_reach (h : machine.Reach WindowsCanGrow s) : s.Agrees := by
  refine h.invariant (fun s hinit => .initial hinit) ?_
  rintro s e s' hagrees hcan ⟨hpossible, rfl⟩
  exact (hagrees.step hcan hpossible).1

/-- **Honest peers keep to flow control** as long as every window that is updated can grow. -/
theorem honest_peers_keep_flow_control {s : Peers} (h : machine.Reach WindowsCanGrow s) :
    s.FlowControlKept ∧
      ∀ e s', s.WindowsCanGrow e → machine.step s e s' → s.WindowsGrow s' := by
  have hagrees := agrees_of_reach h
  refine ⟨hagrees.flowControlKept, ?_⟩
  rintro e s' hcan ⟨hpossible, rfl⟩
  exact (hagrees.step hcan hpossible).2

/-! ## A maximum that is less than half the window -/

/-- Both sides have agreed on windows of 16 bytes; the receiver lets a stream's window grow
to `maxWindow`. -/
def samplePeers (maxWindow : Nat) : Peers :=
  let parameters : ConnectionParameters :=
    { sendStreamFlowControlWindow := 16
      sendConnectionFlowControlWindow := 16
      receiveStreamFlowControlWindow := 16
      maxReceiveStreamFlowControlWindow := maxWindow
      receiveConnectionFlowControlWindow := 16
      maxReceiveConnectionFlowControlWindow := 64
      maxOutgoingStreams := 100
      maxIncomingStreams := 100
      idleConnectionStateLifetime := 30000000000
      truncateConnectionID := false }
  { sender :=
      { streamsMap := .new .client
        flowControlManager := .new parameters
        connectionParameters := parameters }
    receiver := .new parameters
    receiverParameters := parameters }

theorem samplePeers_initial (maxWindow : Nat) : (samplePeers maxWindow).Initial :=
  ⟨rfl, rfl, rfl, rfl, rfl, rfl, show 16 < 2 ^ 64 by decide, show 16 < 2 ^ 64 by decide, rfl, rfl⟩

/-- Nine bytes are sent, received and read, and seven more sent; then the window is updated and
the seven bytes arrive. -/
def sampleEvents : List PeerEvent :=
  [.openStream 3, .acceptStream 3,
    .write 3 (List.replicate 9 0), .popStreamFrames 100, .receiveStreamFrame 3 9, .read 3 9 0,
    .write 3 (List.replicate 7 0), .popStreamFrames 100, .getWindowUpdates 100 [] 0 false [3],
    .receiveStreamFrame 3 16]

theorem reach_sampleEvents {maxWindow : Nat} {C : Peers → PeerEvent → Prop}
    {P : Peers → PeerEvent → Prop}
    (hP : ∀ s e, P s e → C s e ∧ s.Possible e)
    (hevents : Machine.Meets P apply (samplePeers maxWindow) sampleEvents) :
    machine.Reach C (sampleEvents.foldl apply (samplePeers maxWindow)) :=
  Machine.Reach.foldl (.init (samplePeers_initial maxWindow))
    (fun s e h => ⟨(hP s e h).1, (hP s e h).2, rfl⟩) hevents

/-- With a maximum of 64 bytes the window of the stream grows to 41 bytes. -/
theorem growing_window_is_kept :
    (sampleEvents.foldl apply (samplePeers 64)).windowUpdates = [(3, 41)] ∧
      (sampleEvents.foldl apply (samplePeers 64)).FlowControlKept := by
  refine ⟨by decide +kernel, (honest_peers_keep_flow_control ?_).1⟩
  refine reach_sampleEvents (P := fun s e => s.WindowsCanGrow e ∧ s.Possible e)
    (fun _ _ h => h) ?_
  decide +kernel

/-- With a maximum of 4 bytes the window of the stream shrinks from 16 to 13 bytes, and the
data that was sent within the window of 16 bytes is a violation. -/
theorem window_taken_back_is_violated :
    machine.Reach Machine.Always (sampleEvents.foldl apply (samplePeers 4)) ∧
      (sampleEvents.foldl apply (samplePeers 4)).windowUpdates = [(3, 13)] ∧
      (sampleEvents.foldl apply (samplePeers 4)).errors = [.flowControlReceivedTooMuchData 3] := by
  refine ⟨reach_sampleEvents (P := Possible) (fun _ _ h => ⟨trivial, h⟩) ?_, ?_, ?_⟩
  all_goals decide +kernel

end Peers
end MpQuic
