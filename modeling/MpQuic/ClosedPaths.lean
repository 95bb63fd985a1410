import MpQuic.AckOnlyPackets
import MpQuic.FramerActs
import MpQuic.HandshakePackets
import MpQuic.RespectsWindow

/-!
# Packets on closed paths

A closed path stays in the table.  A selection that has nothing to retransmit looks at
the flag of a path, unless the path is unique, but retransmissions, `ackRemainingPaths`
and the PINGs to a potentially failed path do not.  Nothing is sent on the closed paths
in a round that finds nothing queued for retransmission, no ACK due on them, no window
update due if one of them is not the initial path, and no closed unique path.
-/
namespace MpQuic
open Systems Outcome List Option

/-! ## Window updates that are due -/

namespace FlowController
variable {c c' : FlowController}

/-- `MaybeUpdateWindow` finds an update necessary. -/
def updateDue (c : FlowController) : Bool :=
  sub64 c.receiveWindow c.bytesRead < c.receiveWindowIncrement / 2

theorem maybeUpdateWindow_of_not_due (h : c.updateDue = false) (rtt : Int) (remoteRTTs : List Int)
    (now : Int) : c.maybeUpdateWindow rtt remoteRTTs now =
      (c, false, c.receiveWindowIncrement, c.receiveWindow) := by
  rw [maybeUpdateWindow, if_neg (of_decide_eq_false h)]

theorem updateDue_of_receiveSide (h : c'.receiveSide = c.receiveSide) :
    c'.updateDue = c.updateDue := by
  have hside (c : FlowController) : c.updateDue = c.receiveSide.updateDue := rfl
  rw [hside c', h, ← hside]

end FlowController

namespace FlowControlManager
variable {f f' : FlowControlManager}

/-- No window update is due. -/
structure Settled (f : FlowControlManager) : Prop where
  connection : f.connFlowController.updateDue = false
  stream : ∀ id c, f.streamFlowController.lookup id = some c → c.updateDue = false

theorem Settled.of_sameReceiving (h : f.Settled) (hsame : f.SameReceiving f') : f'.Settled := by
  refine ⟨(FlowController.updateDue_of_receiveSide hsame.connection).trans h.connection, ?_⟩
  intro id c' hc'
  have hside := hsame.stream id
  rw [hc'] at hside
  obtain ⟨c, hc, heq⟩ := map_eq_some_iff.mp hside.symm
  exact (FlowController.updateDue_of_receiveSide heq.symm).trans (h.stream id c hc)

theorem Settled.streamWindowUpdate (h : f.Settled) (rtt : Int) (remoteRTTs : List Int) (now : Int)
    (id : Nat) : (streamWindowUpdate rtt remoteRTTs now false f id).1.Settled ∧
      (streamWindowUpdate rtt remoteRTTs now false f id).2 = [] := by
  rw [FlowControlManager.streamWindowUpdate]
  split
  · exact ⟨h, rfl⟩
  next c hc =>
  have hdue := h.stream id c hc
  rw [FlowController.maybeUpdateWindow_of_not_due hdue]
  exact ⟨⟨h.connection, forall_lookup_insert hdue h.stream⟩, rfl⟩

/-- `GetWindowUpdates` finds nothing to announce, and changes nothing that would be. -/
theorem Settled.getWindowUpdates (h : f.Settled) (rtt : Int) (remoteRTTs : List Int) (now : Int)
    (order : List Nat) : (f.getWindowUpdates rtt remoteRTTs now false order).1.Settled ∧
      (f.getWindowUpdates rtt remoteRTTs now false order).2 = [] := by
  rw [FlowControlManager.getWindowUpdates]
  have hloop := foldlRecOn order (fun (r : FlowControlManager × List (Nat × Nat)) id =>
      ((FlowControlManager.streamWindowUpdate rtt remoteRTTs now false r.1 id).1,
        r.2 ++ (FlowControlManager.streamWindowUpdate rtt remoteRTTs now false r.1 id).2))
    (motive := fun r => r.1.Settled ∧ r.2 = []) (b := (f, [])) ⟨h, rfl⟩ ?_
  · dsimp only
    obtain ⟨hr, hnil⟩ := hloop
    rw [FlowController.maybeUpdateWindow_of_not_due hr.connection]
    exact ⟨⟨hr.connection, hr.stream⟩, hnil⟩
  · rintro ⟨f', res⟩ ⟨hf', hres⟩ id -
    obtain ⟨hsettled, hnil⟩ := hf'.streamWindowUpdate rtt remoteRTTs now id
    exact ⟨hsettled, by rw [hres, hnil]; rfl⟩

end FlowControlManager

/-! ## Procedures that leave a path alone -/

/-- Without an ACK due, `GetAckFrame` changes nothing. -/
theorem Path.getAckFrame_of_not_due {κ : Type} {pth : Path κ} {now : Int}
    (h : pth.ackDue now = false) : pth.getAckFrame now = .ok (pth, none) := by
  have hhandler : pth.receivedPacketHandler.getAckFrame pth.pathID now =
      .ok (pth.receivedPacketHandler, none) := by
    obtain ⟨hqueued, halarm⟩ := Bool.or_eq_false_iff.mp h
    rw [ReceivedPacketHandler.getAckFrame, hqueued]
    cases hnone : pth.receivedPacketHandler.ackAlarm with
    | none => rfl
    | some ackAlarm =>
      rw [hnone] at halarm
      have hlater : decide (ackAlarm ≤ now) = false := halarm
      refine if_pos ?_
      dsimp only
      rw [hlater]
      rfl
  rw [Path.getAckFrame, hhandler]
  rfl

namespace Session
variable {κ : Type} {s s' s'' : Session κ} {id : Nat}
open PacketPacker

/-- The packets sealed for a path. -/
def sealedFor (s : Session κ) (id : Nat) : List SealedPacket :=
  s.packer.sealLog.filter (·.pathID = id)

/-- A path is as it was, and no packet has been sealed for it. -/
structure Spares (id : Nat) (s s' : Session κ) : Prop where
  path : s'.paths.lookup id = s.paths.lookup id
  packets : s'.sealedFor id = s.sealedFor id

theorem Spares.refl (id : Nat) (s : Session κ) : Spares id s s := ⟨rfl, rfl⟩

theorem Spares.trans (h : Spares id s s') (h' : Spares id s' s'') : Spares id s s'' :=
  ⟨h'.path.trans h.path, h'.packets.trans h.packets⟩

theorem Spares.of_same (hpaths : s'.paths = s.paths)
    (hlog : s'.packer.sealLog = s.packer.sealLog) : Spares id s s' :=
  ⟨by rw [hpaths], congrArg (filter _) hlog⟩

variable {pathID : Nat} {pth : Path κ} {s₀ : Session κ} {env : Env}

theorem Spares.setPath (hne : pathID ≠ id) (s : Session κ) (pth : Path κ) :
    Spares id s (s.setPath pathID pth) :=
  ⟨lookup_setPath_of_ne s pth hne.symm, rfl⟩

theorem Spares.queueControlFrame (s : Session κ) (frame : ControlFrame) (pathID : Nat) :
    Spares id s (s.queueControlFrame frame pathID) := by
  refine .of_same ?_ (queueControlFrame_sameKeys s frame pathID).sealLog
  rfl

theorem Spares.queueWindowUpdates (s : Session κ) (frames : List WindowUpdateFrame) (pathID : Nat) :
    Spares id s (s.queueWindowUpdates frames pathID) :=
  foldlRecOn frames _ (motive := Spares id s) (.refl id s) fun s' h f _ =>
    h.trans (.queueControlFrame s' (.windowUpdate f) pathID)

theorem Spares.getWindowUpdateFrames (s : Session κ) (force : Bool) (env : Env) :
    Spares id s (s.getWindowUpdateFrames force env).1 := .of_same rfl rfl

theorem Spares.queueStopWaiting (hne : pth.pathID ≠ id) (s : Session κ) (force : Bool) :
    Spares id s (s.queueStopWaiting pth force).1 ∧
      (s.queueStopWaiting pth force).2.pathID = pth.pathID := by
  have hset : Spares id s (s.setPath pth.pathID (pth.getStopWaitingFrame force).1) :=
    .setPath hne s _
  rw [Session.queueStopWaiting]
  dsimp only
  split
  · exact ⟨hset, rfl⟩
  · exact ⟨hset.trans (.queueControlFrame _ _ _), rfl⟩

theorem Spares.queueAck (hne : pth.pathID ≠ id) (s : Session κ) (ack : Option AckFrame)
    (hasStreamRetransmission : Bool) :
    Spares id s (s.queueAck pth ack hasStreamRetransmission).1 ∧
      (s.queueAck pth ack hasStreamRetransmission).2.pathID = pth.pathID := by
  have hset : Spares id s (s.setPath pth.pathID pth) := .setPath hne s pth
  cases ack with
  | none =>
    cases hasStreamRetransmission with
    | true =>
      have hstop := queueStopWaiting hne (s.setPath pth.pathID pth) true
      exact ⟨hset.trans hstop.1, hstop.2⟩
    | false => exact ⟨hset, rfl⟩
  | some ack =>
    have hqueued := hset.trans (.queueControlFrame (s.setPath pth.pathID pth) (.ack ack) pth.pathID)
    have hstop := queueStopWaiting hne ((s.setPath pth.pathID pth).queueControlFrame (.ack ack)
      pth.pathID) hasStreamRetransmission
    exact ⟨hqueued.trans hstop.1, hstop.2⟩

variable [SendAlgorithm κ]

/-- A packet for another path. -/
theorem Spares.send {call : Call} {pth pth' : Path κ} (hne : pth.pathID ≠ id)
    {packer : PacketPacker} {packet : PackedPacket} {now : Int} {random : Option UInt16}
    (hrun : call.run s.packer s.handshakeComplete pth now random = .ok (packer, pth', some packet))
    (env : Env) : Spares id s (s.sendPackedPacket packer pth' packet env).1 := by
  obtain ⟨hseals, -⟩ := (Call.run_sealing hrun).packet packet rfl
  have hlog : packer.sealLog.filter (·.pathID = id) = s.sealedFor id := by
    rw [hseals.log, sealedFor]
    simp [hne]
  have hset (pth'' : Path κ) :
      Spares id s (({ s with packer } : Session κ).setPath pth'.pathID pth'') := by
    refine ⟨lookup_setPath_of_ne _ _ ?_, hlog⟩
    rw [hseals.pathID]
    exact hne.symm
  rw [sendPackedPacket]
  split
  · exact hset _
  · exact hset _

theorem Spares.sendAck (hne : pth.pathID ≠ id) (s : Session κ) (ack : Option AckFrame) (env : Env) :
    Spares id s (s.sendAck pth ack env).1 := by
  have hset : Spares id s { s with packer := s.packer.setAckFrame pth.pathID ack } :=
    .of_same rfl rfl
  cases ack with
  | some ack =>
    refine state_orElseKeep (P := Spares id s) hset ?_
    rintro ⟨packer, pth', packet⟩ hpack
    exact hset.trans (.send hne (run_packAckPacket hpack) env)
  | none =>
    refine state_orElseKeep (P := Spares id s) hset ?_
    rintro ⟨packer, pth', _ | packet⟩ hpack
    · exact hset
    · have hrun : Call.run .packPacket (s.packer.setAckFrame pth.pathID none)
          s.handshakeComplete pth
          env.now (env.randomFor pth) = .ok (packer, pth', some packet) := hpack
      exact hset.trans (.send hne hrun env)

/-- `ackRemainingPaths` leaves a path without an ACK alone, unless there are window updates. -/
theorem Spares.ackPath (hkeyed : s.WellKeyed) (frames : List WindowUpdateFrame) (env : Env)
    (hquiet : ∀ pth, s.paths.lookup id = some pth → pth.ackDue env.now = false ∧
      (frames = [] ∨ id = initialPathID)) (pathID : Nat) :
    Spares id s (ackPath frames env pathID s).1 := by
  rw [Session.ackPath]
  split
  · exact .refl id s
  next pth hpth =>
  have hid := hkeyed.pathID _ _ hpth
  by_cases hne : pathID = id
  · subst hne
    obtain ⟨hdue, hframes⟩ := hquiet pth hpth
    rw [Path.getAckFrame_of_not_due hdue]
    have hset : Spares pathID s (s.setPath pathID pth) :=
      ⟨(lookup_setPath_self s pathID pth).trans hpth.symm, rfl⟩
    have hqueued := hset.trans (.queueWindowUpdates (s.setPath pathID pth) frames pathID)
    change Spares pathID s (if _ then _ else _ : Outcome (Session κ) Err).1
    rw [if_pos ⟨rfl, hframes⟩]
    exact hqueued
  · refine state_orElseKeep (P := Spares id s) (.refl id s) ?_
    rintro ⟨pth', ack⟩ hack
    have hid' : pth'.pathID = pathID := (getAckFrame_sameSender hack).pathID.trans hid
    have hqueued : Spares id s ((s.setPath pathID pth').queueWindowUpdates frames pathID) :=
      (Spares.setPath hne s pth').trans (.queueWindowUpdates _ frames pathID)
    dsimp only
    split_ifs
    · exact hqueued
    · have hstop := Spares.queueStopWaiting (hid' ▸ hne : pth'.pathID ≠ id)
        ((s.setPath pathID pth').queueWindowUpdates frames pathID) false
      generalize ((s.setPath pathID pth').queueWindowUpdates frames pathID).queueStopWaiting pth'
        false = q at hstop
      exact (hqueued.trans hstop.1).trans (.sendAck (hstop.2.trans hid' ▸ hne) q.1 ack env)

theorem Spares.forEach_ackPath (frames : List WindowUpdateFrame) (env : Env)
    (hquiet : ∀ pth, s.paths.lookup id = some pth → pth.ackDue env.now = false ∧
      (frames = [] ∨ id = initialPathID)) (ids : List Nat) (h : Reaches Act.Sends s₀ s) :
    Spares id s (forEach (Session.ackPath frames env) ids s).1 := by
  induction ids generalizing s with
  | nil => exact .refl id s
  | cons pathID ids ih =>
    have hstep := Spares.ackPath h.wellKeyed frames env hquiet pathID
    refine state_andThen hstep (hstep.trans (ih ?_ (ackPath_reaches (fun _ ha => ha) h _ _ _)))
    rw [hstep.path]
    exact hquiet

/-- No window update is due, nor asked for, and none will be when the packer opens the crypto
stream, since it is there. -/
structure Settled (s : Session κ) : Prop where
  flow : s.streamFramer.flowControlManager.Settled
  peer : s.peerBlocked = false
  crypto : (s.streamFramer.streamsMap.streams.lookup 1).isSome = true

omit [SendAlgorithm κ] in
theorem Settled.of_framer (h : s.Settled) (hframer : s'.streamFramer = s.streamFramer)
    (hpeer : s'.peerBlocked = s.peerBlocked) : s'.Settled := by
  refine ⟨?_, hpeer.trans h.peer, ?_⟩
  · rw [hframer]
    exact h.flow
  · rw [hframer]
    exact h.crypto

omit [SendAlgorithm κ] in
theorem Settled.getWindowUpdateFrames (h : s.Settled) (env : Env) :
    (s.getWindowUpdateFrames false env).1.Settled ∧ (s.getWindowUpdateFrames false env).2 = [] := by
  have hflow := h.flow.getWindowUpdates s.smoothedRTT (s.remoteRTTs.entries.map (·.2)) env.now
    (env.order 1 s.streamFramer.flowControlManager.streamFlowController.keys)
  exact ⟨⟨hflow.1, h.peer, h.crypto⟩, map_eq_nil_iff.mpr hflow.2⟩

/-- `ackRemainingPaths` leaves a path alone that has no ACK due and, unless it is the initial one,
no window update to carry. -/
theorem Spares.ackRemainingPaths (h : Reaches Act.Sends s₀ s)
    (hack : ∀ pth, s.paths.lookup id = some pth → pth.ackDue env.now = false)
    {frames : List WindowUpdateFrame} (hframes : id ≠ initialPathID → s.Settled ∧ frames = []) :
    Spares id s (s.ackRemainingPaths frames env).1 := by
  have hloop {s : Session κ} (h : Reaches Act.Sends s₀ s) {frames : List WindowUpdateFrame}
      (hack : ∀ pth, s.paths.lookup id = some pth → pth.ackDue env.now = false)
      (hframes : frames = [] ∨ id = initialPathID) :
      Spares id s ((forEach (Session.ackPath frames env) (env.order 2 s.paths.keys) s).andThen
        fun s => ({ s with peerBlocked := false }, none)).1 := by
    have hacked := Spares.forEach_ackPath frames env (fun pth hpth => ⟨hack pth hpth, hframes⟩)
      (env.order 2 s.paths.keys) h
    exact state_andThen hacked (hacked.trans (.of_same rfl rfl))
  cases frames with
  | nil =>
    refine (Spares.getWindowUpdateFrames s s.peerBlocked env).trans (hloop
      (getWindowUpdateFrames_reaches (fun _ _ _ _ _ => .windowUpdates ..) h _ env) hack ?_)
    by_cases hid : id = initialPathID
    · exact .inr hid
    · obtain ⟨hsettled, -⟩ := hframes hid
      rw [hsettled.peer]
      exact .inl (hsettled.getWindowUpdateFrames env).2
  | cons f frames =>
    refine hloop h hack ?_
    by_cases hid : id = initialPathID
    · exact .inr hid
    · cases (hframes hid).2

omit [SendAlgorithm κ] in
/-- A call of the packer leaves no window update due. -/
theorem Settled.run (h : s.Settled) {call : Call} {pth pth' : Path κ} {packer : PacketPacker}
    {now : Int} {random : Option UInt16} {packet : Option PackedPacket}
    (hrun : call.run s.packer s.handshakeComplete pth now random = .ok (packer, pth', packet)) :
    ({ s with packer } : Session κ).Settled := by
  have hcrypto : (s.packer.streamFramer.streamsMap.streams.lookup 1).isSome = true := h.crypto
  have hopen : (s.packer.streamFramer.getOrOpenStream 1).1 = s.packer.streamFramer := by
    rw [StreamFramer.getOrOpenStream, StreamsMap.getOrOpenStream, if_pos hcrypto]
    rfl
  have hsends : s.packer.streamFramer.SendsData packer.streamFramer := by
    rcases Call.run_sendsData hrun with hsends | hsends
    · exact hsends
    · rw [hopen] at hsends
      exact hsends
  refine ⟨h.flow.of_sameReceiving hsends.flow, h.peer, ?_⟩
  have hstream := congrArg isSome (hsends.streams.stream 1)
  rw [isSome_map, isSome_map] at hstream
  exact hstream.trans hcrypto

/-- A packet with data goes on the path it is packed for; no window update is due if there was
none, and nothing to send. -/
theorem Spares.performPacketSending (hne : pth.pathID ≠ id) (s : Session κ)
    (frames : List WindowUpdateFrame) (env : Env) :
    Spares id s (s.performPacketSending frames pth env).1.1 ∧
      ((s.performPacketSending frames pth env).2 = none → s.Settled →
        (s.performPacketSending frames pth env).1.1.Settled) := by
  rw [Session.performPacketSending]
  obtain ⟨s₁, hs₁, hspares, hsettled⟩ : ∃ s₁, (if
      pth.sentPacketHandler.shouldSendRetransmittablePacket then
        s.queueControlFrame .ping pth.pathID else s) = s₁ ∧ Spares id s s₁ ∧
      (s.Settled → s₁.Settled) := by
    split_ifs
    · exact ⟨_, rfl, .queueControlFrame s .ping pth.pathID, fun h => h.of_framer rfl rfl⟩
    · exact ⟨s, rfl, .refl id s, fun h => h⟩
  rw [hs₁]
  split
  · exact ⟨hspares, fun _ h => hsettled h⟩
  · next packer pth' hpack =>
    have hrun : Call.run .packPacket s₁.packer s₁.handshakeComplete pth env.now
        (env.randomFor pth) = .ok (packer, pth', none) := hpack
    have hlog := (Call.run_sealing hrun).nothing rfl
    exact ⟨hspares.trans (.of_same rfl hlog), fun _ h => (hsettled h).run hrun⟩
  · next packer pth' packet hpack =>
    have hrun : Call.run .packPacket s₁.packer s₁.handshakeComplete pth env.now
        (env.randomFor pth) = .ok (packer, pth', some packet) := hpack
    have hsent := hspares.trans (.send hne hrun env)
    refine ⟨state_andThen hsent (hsent.trans ?_), fun h => by cases h⟩
    exact (Spares.queueWindowUpdates _ frames pth'.pathID).trans (.of_same rfl rfl)

theorem Spares.duplicateIfUnprobed (hne : pathID ≠ id) (s : Session κ) (pkt : Packet) (env : Env) :
    Spares id s (s.duplicateIfUnprobed pathID pkt env) := by
  rw [Session.duplicateIfUnprobed]
  split
  · exact .refl id s
  · dsimp only
    split
    · exact .setPath hne s _
    · exact .refl id s

omit [SendAlgorithm κ] in
theorem Settled.queueStopWaiting (h : s.Settled) (pth : Path κ) (force : Bool) :
    (s.queueStopWaiting pth force).1.Settled := by
  rw [Session.queueStopWaiting]
  dsimp only
  split <;> exact h.of_framer rfl rfl

omit [SendAlgorithm κ] in
theorem Settled.queueAck (h : s.Settled) (pth : Path κ) (ack : Option AckFrame)
    (hasStreamRetransmission : Bool) :
    (s.queueAck pth ack hasStreamRetransmission).1.Settled := by
  have hset : (s.setPath pth.pathID pth).Settled := h.of_framer rfl rfl
  cases ack with
  | none =>
    cases hasStreamRetransmission with
    | true => exact hset.queueStopWaiting pth true
    | false => exact hset
  | some ack =>
    have hqueued : ((s.setPath pth.pathID pth).queueControlFrame (.ack ack) pth.pathID).Settled :=
      hset.of_framer rfl rfl
    exact hqueued.queueStopWaiting pth hasStreamRetransmission

/-! ## Rounds -/

/-- A round on another path leaves a path alone that has nothing to acknowledge. -/
theorem Spares.sendOn (h : Reaches Act.Sends s₀ s) (hpth : s.paths.lookup pth.pathID = some pth)
    (hne : pth.pathID ≠ id)
    (hack : ∀ pth, s.paths.lookup id = some pth → pth.ackDue env.now = false)
    (hsettled : id ≠ initialPathID → s.Settled) (frames : List WindowUpdateFrame)
    {r : Retransmission} (hr : r.fromPth = none) : Spares id s (s.sendOn frames r pth env).1.1 := by
  rw [Session.sendOn]
  split
  · exact .refl id s
  next pth' ack hack' =>
  have hsame := getAckFrame_sameSender hack'
  have hqueued := Spares.queueAck (hsame.pathID ▸ hne : pth'.pathID ≠ id) s ack
    r.hasStreamRetransmission
  have hreached := queueAck_reaches (fun _ ha => ha) h hpth hsame ack r.hasStreamRetransmission
  have hsettled' (hid : id ≠ initialPathID) :=
    (hsettled hid).queueAck pth' ack r.hasStreamRetransmission
  generalize s.queueAck pth' ack r.hasStreamRetransmission = q at *
  obtain ⟨s₁, pth₁⟩ := q
  have hne₁ : pth₁.pathID ≠ id := (hqueued.2.trans hsame.pathID) ▸ hne
  have hframes : Spares id s s₁.queueFramerFrames := hqueued.1.trans (.of_same rfl rfl)
  have hreaches := hreached.reaches.act .queueFramerFrames (.queueFramerFrames s₁)
  have hsent := Spares.performPacketSending hne₁ s₁.queueFramerFrames frames env
  have hperform := performPacketSending_reaches (fun _ ha => ha) hreaches
      hreached.lookup frames env
  dsimp only
  generalize s₁.queueFramerFrames.performPacketSending frames pth₁ env = sent at *
  obtain ⟨⟨s₂, err⟩, _ | pkt⟩ := sent
  · have hspares := hframes.trans hsent.1
    refine state_andThen hspares (hspares.trans (.ackRemainingPaths hperform.1 ?_ ?_))
    · rw [hspares.path]
      exact hack
    · intro hid
      refine ⟨hsent.2 rfl ?_, rfl⟩
      have hs₁ := hsettled' hid
      exact ⟨hs₁.flow, hs₁.peer, hs₁.crypto⟩
  · have hspares := (hframes.trans hsent.1).trans (.duplicateIfUnprobed hne₁ s₂ pkt env)
    refine state_andThen (hframes.trans hsent.1) ?_
    rw [hr]
    exact hspares

/-- What keeps a round from sending on the closed paths. -/
structure ClosedPathsRest (s : Session κ) (sch : Scheduler) (d : Draws) (now : Int) : Prop where
  queues : ∀ id pth, s.paths.lookup id = some pth → pth.sentPacketHandler.retransmissionQueue = []
  acks : ∀ id pth, s.paths.lookup id = some pth → pth.isOpen = false → pth.ackDue now = false
  updates : ∀ id pth, s.paths.lookup id = some pth → pth.isOpen = false → id ≠ initialPathID →
    s.Settled
  unique : TakesUniquePath sch d → s.paths.keys.length = 2 → ∀ id pth,
    s.paths.lookup id = some pth → id ≠ initialPathID → pth.isOpen = true

omit [SendAlgorithm κ] in
/-- With nothing queued there is nothing to retransmit. -/
theorem getRetransmission_of_empty (h : ∀ id pth, s.paths.lookup id = some pth →
    pth.sentPacketHandler.retransmissionQueue = []) (env : Env) :
    s.getRetransmission env = { session := s } := by
  have hqueued : s.queuedPackets = 0 := by
    rw [queuedPackets, sum_eq_zero_iff]
    intro n hn
    obtain ⟨entry, hentry, rfl⟩ := mem_map.mp hn
    have hlookup := mem_dlookup s.paths.nodupKeys hentry
    rw [h entry.1 entry.2 hlookup]
    rfl
  rw [getRetransmission, hqueued, getRetransmissionLoop]

/-- **A round leaves a closed path as it is**, under the condition `ClosedPathsRest`. -/
theorem Spares.sendRound (hkeyed : s.WellKeyed) {sch : Scheduler} {d : Draws} (henv : env.Valid)
    (hrest : s.ClosedPathsRest sch d env.now) (hpth : s.paths.lookup id = some pth)
    (hclosed : pth.isOpen = false) (frames : List WindowUpdateFrame) :
    Spares id s (s.sendRound frames sch d env).1.1 := by
  have hack (pth' : Path κ) (hpth' : s.paths.lookup id = some pth') :
      pth'.ackDue env.now = false := by
    obtain rfl : pth = pth' := some.inj (hpth.symm.trans hpth')
    exact hrest.acks id pth hpth hclosed
  have hsettled := hrest.updates id pth hpth hclosed
  have hstart : Reaches Act.Sends s s := .refl hkeyed
  rw [Session.sendRound, getRetransmission_of_empty hrest.queues]
  rcases hselect : s.selectPath sch d (Dequeued.retransmission { session := s }) env with
    e | _ | pathID
  · exact .refl id s
  · refine (Spares.getWindowUpdateFrames s false env).trans (.ackRemainingPaths
      (getWindowUpdateFrames_reaches (fun _ _ _ _ _ => .windowUpdates ..) hstart false env) hack ?_)
    exact fun hid => (hsettled hid).getWindowUpdateFrames env
  · rw [sendSelected]
    split
    · exact .refl id s
    · next hnone => cases hnone
    · next pth' hpth' _ =>
      obtain rfl := hkeyed.pathID _ _ hpth'
      refine .sendOn hstart hpth' (fun heq => ?_) hack hsettled frames rfl
      -- a closed path is not selected
      obtain rfl : pth = pth' := by
        rw [heq, hpth, some.injEq] at hpth'
        exact hpth'
      rcases selectPath_selects rfl henv hselect with ⟨pth'', hpth'', hallowed⟩ | hunique
      · obtain rfl : pth = pth'' := some.inj (hpth'.symm.trans hpth'')
        rw [Path.sendingAllowed, hclosed] at hallowed
        cases hallowed
      · obtain ⟨htakes, hlen, hne, -⟩ := hunique
        rw [hrest.unique htakes hlen _ pth hpth' hne] at hclosed
        cases hclosed

omit [SendAlgorithm κ] in
theorem sealedFor_startSending (s : Session κ) (env : Env) (id : Nat) :
    (s.startSending env).1.sealedFor id = s.sealedFor id := by
  have hleast : (s.paths.keys.foldl setLeastUnacked s).packer = s.packer := by
    refine foldlRecOn _ _ (motive := fun s' : Session κ => s'.packer = s.packer) rfl ?_
    intro s' hs' pathID _
    rw [setLeastUnacked]
    split
    · exact hs'
    · exact hs'
  have hupdates : Spares id (s.paths.keys.foldl setLeastUnacked s) (s.startSending env).1 :=
    (Spares.getWindowUpdateFrames _ false env).trans (.queueWindowUpdates _ _ initialPathID)
  refine hupdates.packets.trans ?_
  rw [sealedFor, hleast]
  rfl

end Session

namespace Connection
variable {κ : Type} [SendAlgorithm κ]
open Session

/-- What keeps the rounds of `sendPacket` from sending on the closed paths. -/
def RestsClosedPaths (c : Connection κ) : Event κ → Prop
  | .sendRound sch d env => c.session.ClosedPathsRest sch d env.now
  | _ => True

/-- **Nothing is sent on a closed path** by `sendPacket`, in any reachable state, if the round
finds nothing to send there. -/
theorem closed_paths_rest {c : Connection κ} (h : c.Reachable) {e : Event κ}
    (he : e.isSendPacket = true) (henabled : c.Enabled e) (hrest : c.RestsClosedPaths e) {id : Nat}
    {pth : Path κ} (hpth : c.session.paths.lookup id = some pth) (hclosed : pth.isOpen = false) :
    (c.apply e).session.sealedFor id = c.session.sealedFor id := by
  cases e with
  | startSending env => exact sealedFor_startSending c.session env id
  | sendRound sch d env =>
    exact (Spares.sendRound (Reachable.wellKeyed h) henabled.2.2 hrest hpth hclosed _).packets
  | _ => cases he

/-- A packet of the peer on path 1. -/
def packetOnPath (packetNumber : Nat) (frames : List Byte) : Event FixedWindow :=
  receiveFrames 1 packetNumber frames 2

/-- The peer opens path 1 with a PING, which is acknowledged, and closes it with its second
packet. -/
def openAndClose (now : Int) : List (Event FixedWindow) :=
  [packetOnPath 1 [7], .startSending { now := 2 }, sendLowestRTT 2, sendLowestRTT 2,
    packetOnPath 2 [0x11, 1, 0, 0, 0], .pathClosed 1, .startSending { now }]

theorem openAndClose_env (now : Int) : ∀ e ∈ openAndClose now, ∀ env ∈ e.env, env.Valid := by
  simp [openAndClose, packetOnPath, receiveFrames, sendLowestRTT, Event.env, Env.Valid]

/-- The ACK for the second packet is not due yet. -/
theorem closed_paths_rest_early :
    ∃ c : Connection FixedWindow, c.Reachable ∧ c.Enabled (sendLowestRTT 3) ∧
      c.RestsClosedPaths (sendLowestRTT 3) ∧
      (c.session.paths.lookup 1).map (·.isOpen) = some false ∧
      (c.apply (sendLowestRTT 3)).session.sealedFor 1 = c.session.sealedFor 1 := by
  have hreach : Reachable ((openAndClose 3).foldl apply (sample .server)) :=
    reach_foldl (.init (initial_sample .server)) (by decide +kernel) (openAndClose_env 3)
      fun _ _ _ => trivial
  have hready : ready ((openAndClose 3).foldl apply (sample .server)) (sendLowestRTT 3) = true := by
    decide +kernel
  have hclosed : (((openAndClose 3).foldl apply (sample .server)).session.paths.lookup 1).map
      (·.isOpen) = some false := by decide +kernel
  have hpaths : ∀ entry ∈ ((openAndClose 3).foldl apply (sample .server)).session.paths.entries,
      entry.2.sentPacketHandler.retransmissionQueue.isEmpty = true ∧
        entry.2.ackDue 3 = false := by decide +kernel
  have hflow : ∀ entry ∈ ((openAndClose 3).foldl apply
      (sample .server)).session.streamFramer.flowControlManager.streamFlowController.entries,
      entry.2.updateDue = false := by decide +kernel
  have hconnection : ((openAndClose 3).foldl apply
      (sample .server)).session.streamFramer.flowControlManager.connFlowController.updateDue =
      false := by decide +kernel
  have hpeer : ((openAndClose 3).foldl apply (sample .server)).session.peerBlocked = false := by
    decide +kernel
  have hcrypto : (((openAndClose 3).foldl apply
      (sample .server)).session.streamFramer.streamsMap.streams.lookup 1).isSome = true := by
    decide +kernel
  generalize (openAndClose 3).foldl apply (sample .server) = c at *
  have henabled : c.Enabled (sendLowestRTT 3) :=
    enabled_of_ready hready (by simp [sendLowestRTT, Event.env, Env.Valid])
  have hrest : c.RestsClosedPaths (sendLowestRTT 3) := by
    refine ⟨fun id pth hpth => ?_, fun id pth hpth _ => ?_, fun _ _ _ _ _ => ?_, fun htakes => ?_⟩
    · exact isEmpty_iff.mp (hpaths _ (of_mem_dlookup hpth)).1
    · exact (hpaths _ (of_mem_dlookup hpth)).2
    · exact ⟨⟨hconnection, fun id c hc => hflow _ (of_mem_dlookup hc)⟩, hpeer, hcrypto⟩
    · exact htakes.elim
  obtain ⟨pth, hpth, hopen⟩ := map_eq_some_iff.mp hclosed
  exact ⟨c, hreach, henabled, hrest, hclosed,
    closed_paths_rest hreach rfl henabled hrest hpth hopen⟩

/-- The ACK for the second packet is sent on the path it has closed. -/
theorem ack_on_closed_path :
    ∃ c : Connection FixedWindow, c.Reachable ∧ c.Enabled (sendLowestRTT 10000000000) ∧
      (c.session.paths.lookup 1).map (·.isOpen) = some false ∧
      c.session.sealedFor 1 = [⟨.unencrypted, 1, 1⟩] ∧
      (c.apply (sendLowestRTT 10000000000)).session.sealedFor 1 =
        [⟨.unencrypted, 1, 1⟩, ⟨.unencrypted, 1, 2⟩] := by
  have hreach : Reachable ((openAndClose 10000000000).foldl apply (sample .server)) :=
    reach_foldl (.init (initial_sample .server)) (by decide +kernel) (openAndClose_env _)
      fun _ _ _ => trivial
  refine ⟨_, hreach, enabled_of_ready (by decide +kernel) ?_, by decide +kernel, by decide +kernel,
    by decide +kernel⟩
  simp [sendLowestRTT, Event.env, Env.Valid]

end Connection
end MpQuic
