import MpQuic.HandlePacket
import MpQuic.SelectPath

/-!
# Sending (`getRetransmission`, `performPacketSending`, `ackRemainingPaths` and
`sendPacket` of `scheduler.go`)

`sendPacket` is a loop: every round takes the packets queued for retransmission
apart, selects a path and sends one packet on it, until there is no path or nothing to
send.  `sendRound` is one round; the window updates that are queued again after the
first packet are the state of the loop.

The functions pass a `*path` along; here it is looked up again by its ID.
-/
namespace MpQuic
open Systems Outcome

namespace Session
variable {κ : Type} [SendAlgorithm κ]

/-- `QueueControlFrame`. -/
def queueControlFrame (s : Session κ) (frame : ControlFrame) (pathID : Nat) : Session κ :=
  { s with packer := s.packer.queueControlFrame frame pathID }

/-- `getWindowUpdateFrames`. -/
def getWindowUpdateFrames (s : Session κ) (force : Bool) (env : Env) :
    Session κ × List WindowUpdateFrame :=
  let fc := s.streamFramer.flowControlManager
  let (flowControlManager, updates) := fc.getWindowUpdates s.smoothedRTT
    (s.remoteRTTs.entries.map (·.2)) env.now force (env.order 1 fc.streamFlowController.keys)
  (s.setFramer { s.streamFramer with flowControlManager },
    updates.map fun (streamID, byteOffset) => { streamID, byteOffset })

/-- The window updates queued for a path. -/
def queueWindowUpdates (s : Session κ) (windowUpdateFrames : List WindowUpdateFrame)
    (pathID : Nat) : Session κ :=
  windowUpdateFrames.foldl (fun s f => s.queueControlFrame (.windowUpdate f) pathID) s

/-! ## Retransmissions -/

/-- A frame of a packet to be retransmitted: data goes back to the framer, the other frames are
queued again unless they are out of date. -/
def requeueFrame (pathID : Nat) (env : Env) (s : Session κ) (frame : Frame FrameRef) :
    Session κ :=
  match frame.split with
  | .inl f => s.setFramer (s.streamFramer.addFrameForRetransmission f)
  | .inr (.windowUpdate f) =>
    match s.streamFramer.flowControlManager.getReceiveWindow f.streamID with
    | none => s
    | some currentOffset =>
      if currentOffset ≤ f.byteOffset then s.queueControlFrame (.windowUpdate f) pathID else s
  | .inr (.paths _) => s.schedulePathsFrame env
  | .inr frame => s.queueControlFrame frame pathID

/-- `DequeuePacketForRetransmission` on a path. -/
def dequeueFrom (s : Session κ) (pathID : Nat) : Option (Session κ × Nat × Packet) :=
  match s.paths.lookup pathID with
  | none => none
  | some pth =>
    match pth.sentPacketHandler.dequeuePacketForRetransmission with
    | (_, none) => none
    | (sentPacketHandler, some packet) =>
      some (s.setPath pathID { pth with sentPacketHandler }, pathID, packet)

/-- What `getRetransmission` returns, with the session. -/
structure Dequeued (κ : Type) where
  session : Session κ
  hasRetransmission : Bool := false
  retransmitPacket : Option Packet := none
  pth : Option Nat := none

/-- The loop of `getRetransmission`, for at most `n` packets. -/
def getRetransmissionLoop (env : Env) : Nat → Dequeued κ → Dequeued κ
  | 0, r => r
  | n + 1, r =>
    let s := r.session
    match (env.order (100 + n) s.paths.keys).findSome? s.dequeueFrom with
    | none => r
    | some (s, pathID, packet) =>
      if packet.encryptionLevel ≠ .forwardSecure then
        if s.handshakeComplete then
          -- handshake packets are not retransmitted when the handshake is complete
          getRetransmissionLoop env n
            { session := s, hasRetransmission := true, pth := some pathID }
        else
          { session := s, hasRetransmission := true, retransmitPacket := some packet,
            pth := some pathID }
      else
        let s := packet.getFramesForRetransmission.foldl (requeueFrame pathID env) s
        getRetransmissionLoop env n { session := s, hasRetransmission := true, pth := some pathID }

/-- The number of packets queued for retransmission on all paths. -/
def queuedPackets (s : Session κ) : Nat :=
  (s.paths.entries.map fun e => e.2.sentPacketHandler.retransmissionQueue.length).sum

/-- `getRetransmission`. -/
def getRetransmission (s : Session κ) (env : Env) : Dequeued κ :=
  getRetransmissionLoop env s.queuedPackets { session := s }

/-- The retransmission of a handshake packet on a path. -/
def retransmitHandshakePacket (s : Session κ) (packet : Packet) (pth : Path κ) (env : Env) :
    Outcome (Session κ) Err :=
  let (pth, swf) := pth.getStopWaitingFrame true
  let s := s.setPath pth.pathID pth
  let s := { s with packer := s.packer.setStopWaiting pth.pathID swf }
  let packing := s.packer.packHandshakeRetransmission s.handshakeComplete packet pth env.now
    (env.randomFor pth)
  orElseKeep s packing fun (packer, pth, packet) => s.sendPackedPacket packer pth packet env

/-! ## One packet -/

/-- `performPacketSending`; the packet is nothing if there was nothing to send. -/
def performPacketSending (s : Session κ) (windowUpdateFrames : List WindowUpdateFrame)
    (pth : Path κ) (env : Env) : Outcome (Session κ) Err × Option Packet :=
  let s := if pth.sentPacketHandler.shouldSendRetransmittablePacket then
    s.queueControlFrame .ping pth.pathID else s
  match s.packer.packPacket s.handshakeComplete pth env.now (env.randomFor pth) with
  | .error e => ((s, some e), none)
  | .ok (packer, _, none) => (({ s with packer }, none), none)
  | .ok (packer, pth, some packet) =>
    let sent := (s.sendPackedPacket packer pth packet env).andThen fun s =>
      let s := s.queueWindowUpdates windowUpdateFrames pth.pathID
      let quotas := Function.update s.quotas pth.pathID (s.quotas pth.pathID + 1)
      ({ s with quotas }, none)
    let pkt : Packet :=
      { packetNumber := packet.number
        frames := packet.frames
        length := packet.length
        encryptionLevel := packet.encryptionLevel
        written := packet.written }
    (sent, some pkt)

/-- The packet of `ackRemainingPaths` for a path: an ACK, or window updates. -/
def sendAck (s : Session κ) (pth : Path κ) (ack : Option AckFrame) (env : Env) :
    Outcome (Session κ) Err :=
  let s := { s with packer := s.packer.setAckFrame pth.pathID ack }
  match ack with
  | some _ =>
    orElseKeep s (s.packer.packAckPacket s.handshakeComplete pth env.now (env.randomFor pth))
      fun (packer, pth, packet) => s.sendPackedPacket packer pth packet env
  | none =>
    orElseKeep s (s.packer.packPacket s.handshakeComplete pth env.now (env.randomFor pth)) fun
      | (_, _, none) => (s, some (.panic .nilPacket))
      | (packer, pth, some packet) => s.sendPackedPacket packer pth packet env

/-- `GetStopWaitingFrame` of a path, with the frame queued if there is one. -/
def queueStopWaiting (s : Session κ) (pth : Path κ) (force : Bool) : Session κ × Path κ :=
  let (pth, swf) := pth.getStopWaitingFrame force
  let s := s.setPath pth.pathID pth
  match swf with
  | none => (s, pth)
  | some swf => (s.queueControlFrame (.stopWaiting swf) pth.pathID, pth)

/-- A round of the loop of `ackRemainingPaths`. -/
def ackPath (windowUpdateFrames : List WindowUpdateFrame) (env : Env) (pathID : Nat)
    (s : Session κ) : Outcome (Session κ) Err :=
  match s.paths.lookup pathID with
  | none => (s, none)
  | some pth =>
    orElseKeep s (pth.getAckFrame env.now) fun (pth, ack) =>
      let s := (s.setPath pathID pth).queueWindowUpdates windowUpdateFrames pathID
      if ack.isNone ∧ (windowUpdateFrames = [] ∨ pathID = initialPathID) then (s, none)
      else
        let (s, pth) := s.queueStopWaiting pth false
        s.sendAck pth ack env

/-- `ackRemainingPaths`. -/
def ackRemainingPaths (s : Session κ) (totalWindowUpdateFrames : List WindowUpdateFrame)
    (env : Env) : Outcome (Session κ) Err :=
  let (s, windowUpdateFrames) := match totalWindowUpdateFrames with
    | [] => s.getWindowUpdateFrames s.peerBlocked env
    | frames => (s, frames)
  let acked := forEach (ackPath windowUpdateFrames env) (env.order 2 s.paths.keys) s
  acked.andThen fun s => ({ s with peerBlocked := false }, none)

/-! ## The loop of `sendPacket` -/

/-- `SetLeastUnacked` on a path of the table. -/
def setLeastUnacked (s : Session κ) (pathID : Nat) : Session κ :=
  match s.paths.lookup pathID with
  | none => s
  | some pth => s.setPath pathID pth.setLeastUnacked

/-- `sendPacket` before its loop: the window updates to be queued again. -/
def startSending (s : Session κ) (env : Env) : Session κ × List WindowUpdateFrame :=
  let s := s.paths.keys.foldl setLeastUnacked s
  let (s, windowUpdateFrames) := s.getWindowUpdateFrames false env
  (s.queueWindowUpdates windowUpdateFrames initialPathID, windowUpdateFrames)

/-- The frames of the framer that are no stream data: CLOSE_PATH, ADD_ADDRESS and PATHS frames,
queued for the next packet. -/
def queueFramerFrames (s : Session κ) : Session κ :=
  let f := s.streamFramer
  let frames : List ControlFrame := f.closePathFrameQueue.map .closePath ++
    f.addAddressFrameQueue.map .addAddress ++ f.pathsFrame.toList.map .paths
  { s with packer := { s.packer with
      controlFrames := s.packer.controlFrames ++ frames
      streamFramer := { f with
        closePathFrameQueue := [], addAddressFrameQueue := [], pathsFrame := none } } }

/-- The ACK and STOP_WAITING frames for the next packet on a path. -/
def queueAck (s : Session κ) (pth : Path κ) (ack : Option AckFrame)
    (hasStreamRetransmission : Bool) : Session κ × Path κ :=
  let s := s.setPath pth.pathID pth
  let s := match ack with
    | none => s
    | some ack => s.queueControlFrame (.ack ack) pth.pathID
  if ack.isSome || hasStreamRetransmission then s.queueStopWaiting pth hasStreamRetransmission
  else (s, pth)

/-- The duplication of a packet that was sent on an unprobed path, if another path has sent fewer
packets.  The copy is queued on the same path. -/
def duplicateIfUnprobed (s : Session κ) (pathID : Nat) (pkt : Packet) (env : Env) : Session κ :=
  match s.paths.lookup pathID with
  | none => s
  | some pth =>
    let other := fun id => id ≠ initialPathID ∧ id ≠ pathID ∧ s.quotas id < s.quotas pathID ∧
      (s.paths.lookup id).any (·.sentPacketHandler.sendingAllowed)
    if pth.rttStats.smoothedRTT = 0 ∧ (env.order 3 s.paths.keys).any other then
      s.setPath pathID { pth with
        sentPacketHandler := pth.sentPacketHandler.duplicatePacket pkt }
    else s

/-- The PING on the path a retransmission comes from, if that path has potentially failed. -/
def pingIfFailed (s : Session κ) (fromPth : Option Nat) (env : Env) : Outcome (Session κ) Err :=
  match fromPth.bind fun id => s.paths.lookup id with
  | none => (s, none)
  | some pth => if pth.potentiallyFailed then s.sendPing pth env else (s, none)

/-- A round of the loop on the path selected, when there is no handshake packet to retransmit;
the flag says whether there is another round. -/
def sendOn (s : Session κ) (windowUpdateFrames : List WindowUpdateFrame) (r : Retransmission)
    (pth : Path κ) (env : Env) : Outcome (Session κ) Err × Bool :=
  match pth.getAckFrame env.now with
  | .error e => ((s, some e), false)
  | .ok (pth, ack) =>
    let (s, pth) := s.queueAck pth ack r.hasStreamRetransmission
    match s.queueFramerFrames.performPacketSending windowUpdateFrames pth env with
    | (unsent, none) => (unsent.andThen fun s => s.ackRemainingPaths [] env, false)
    | (sent, some pkt) =>
      (sent.andThen fun s =>
        (s.duplicateIfUnprobed pth.pathID pkt env).pingIfFailed r.fromPth env, true)

/-- What a selection is told about the packets that `getRetransmission` has taken apart. -/
def Dequeued.retransmission (got : Dequeued κ) : Retransmission :=
  { hasRetransmission := got.hasRetransmission
    hasStreamRetransmission := got.session.streamFramer.hasFramesForRetransmission
    fromPth := got.pth }

/-- The rest of a round of the loop of `sendPacket`, for the path selected: the session, an error,
and the window updates for the next round if there is one. -/
def sendSelected (got : Dequeued κ) (windowUpdateFrames : List WindowUpdateFrame)
    (selected : Selected) (env : Env) :
    Outcome (Session κ) Err × Option (List WindowUpdateFrame) :=
  let s := got.session
  match selected with
  | .error e => ((s, some e), none)
  | .ok none =>
    let (s, windowUpdateFrames) := s.getWindowUpdateFrames false env
    (s.ackRemainingPaths windowUpdateFrames env, none)
  | .ok (some pathID) =>
    match s.paths.lookup pathID, got.retransmitPacket with
    | none, _ => ((s, some (.panic .nilPath)), none)
    | some pth, some packet =>
      (s.retransmitHandshakePacket packet pth env, some windowUpdateFrames)
    | some pth, none =>
      let (sent, again) := s.sendOn windowUpdateFrames got.retransmission pth env
      (sent, if again then some [] else none)

/-- A round of the loop of `sendPacket`. -/
def sendRound (s : Session κ) (windowUpdateFrames : List WindowUpdateFrame) (sch : Scheduler)
    (d : Draws) (env : Env) : Outcome (Session κ) Err × Option (List WindowUpdateFrame) :=
  let got := s.getRetransmission env
  sendSelected got windowUpdateFrames (got.session.selectPath sch d got.retransmission env) env

end Session
end MpQuic
