import MpQuic.ReceiveActs

/-!
# The acts of sending

A round of `sendPacket` takes packets from the retransmission queues, queues control
frames and sends packets.  Which path is selected makes no difference to the kind of
acts, only to the path they are on.
-/
namespace MpQuic
open Systems Outcome List

namespace Act
variable {κ : Type}

/-- The acts of sending. -/
inductive Sends : Act κ → Prop
  | note : Sends .note
  | queueFrame (frame : ControlFrame) (pathID : Nat) : Sends (.queueFrame frame pathID)
  | setAckFrame (pathID : Nat) (ack : Option AckFrame) : Sends (.setAckFrame pathID ack)
  | setStopWaiting (pathID : Nat) (swf : Option StopWaitingFrame) :
      Sends (.setStopWaiting pathID swf)
  | queueFramerFrames : Sends .queueFramerFrames
  | windowUpdates (rtt : Int) (remoteRTTs : List Int) (now : Int) (force : Bool)
      (order : List Nat) : Sends (.flowControl (.getWindowUpdates rtt remoteRTTs now force order))
  | path (pathID : Nat) : Sends (.path pathID)
  | getStopWaitingFrame (pathID : Nat) (force : Bool) :
      Sends (.handler pathID (.getStopWaitingFrame force))
  | retransmit (pathID : Nat) (packet : Packet) : Sends (.retransmit pathID packet)
  | drop (pathID : Nat) (packet : Packet) : Sends (.drop pathID packet)
  | take (pathID : Nat) (packet : Packet) : Sends (.take pathID packet)
  | duplicate (pathID : Nat) (packet : Packet) : Sends (.duplicate pathID packet)
  | packNothing (call : PacketPacker.Call) (pathID : Nat) : Sends (.packNothing call pathID)
  | send (call : PacketPacker.Call) (pathID : Nat) (packet : PackedPacket) :
      Sends (.send call pathID packet)

/-- The acts of `getRetransmission`. -/
inductive Dequeues : Act κ → Prop
  | retransmit (pathID : Nat) (packet : Packet) : Dequeues (.retransmit pathID packet)
  | drop (pathID : Nat) (packet : Packet) : Dequeues (.drop pathID packet)
  | take (pathID : Nat) (packet : Packet) : Dequeues (.take pathID packet)

variable {a : Act κ}

theorem Dequeues.sends (h : a.Dequeues) : a.Sends := by
  cases h with
  | retransmit pathID packet => exact .retransmit pathID packet
  | drop pathID packet => exact .drop pathID packet
  | take pathID packet => exact .take pathID packet

/-- The acts before the first round. -/
inductive Starts : Act κ → Prop
  | path (pathID : Nat) : Starts (.path pathID)
  | windowUpdates (rtt : Int) (remoteRTTs : List Int) (now : Int) (force : Bool)
      (order : List Nat) : Starts (.flowControl (.getWindowUpdates rtt remoteRTTs now force order))
  | queueFrame (frame : ControlFrame) (pathID : Nat) : Starts (.queueFrame frame pathID)

theorem Starts.sends (h : a.Starts) : a.Sends := by
  cases h with
  | path pathID => exact .path pathID
  | windowUpdates => exact .windowUpdates ..
  | queueFrame frame pathID => exact .queueFrame frame pathID

end Act

namespace Session
variable {κ : Type} [SendAlgorithm κ] {K : Act κ → Prop} {s₀ s : Session κ}

/-! ## Control frames -/

variable {pathID : Nat} {pth pth' : Path κ}

theorem queueWindowUpdates_reaches (frames : List WindowUpdateFrame)
    (hK : ∀ f ∈ frames, K (.queueFrame (.windowUpdate f) pathID)) (h : Reaches K s₀ s) :
    Reaches K s₀ (s.queueWindowUpdates frames pathID) :=
  foldlRecOn frames _ (motive := Reaches K s₀) h fun _ h' f hf => h'.queueFrame (hK f hf)

omit [SendAlgorithm κ] in
theorem paths_queueWindowUpdates (frames : List WindowUpdateFrame) (pathID : Nat) :
    (s.queueWindowUpdates frames pathID).paths = s.paths :=
  foldlRecOn frames _ (motive := fun s' : Session κ => s'.paths = s.paths) rfl
    fun _ h' _ _ => h'

theorem getWindowUpdateFrames_reaches
    (hK : ∀ rtt rtts now force order, K (.flowControl (.getWindowUpdates rtt rtts now force order)))
    (h : Reaches K s₀ s) (force : Bool) (env : Env) :
    Reaches K s₀ (s.getWindowUpdateFrames force env).1 := by
  have hdoes := Act.Does.flowControl s (.getWindowUpdates s.smoothedRTT
    (s.remoteRTTs.entries.map (·.2)) env.now force
    (env.order 1 s.streamFramer.flowControlManager.streamFlowController.keys))
  rw [getWindowUpdateFrames]
  exact h.act (hK _ _ _ _ _) hdoes

/-! ## Packets -/

theorem Reaches.send (h : Reaches K s₀ s) {pth pth' : Path κ}
    (hpth : s.paths.lookup pth.pathID = some pth) {call : PacketPacker.Call} {packet : PackedPacket}
    (hK : K (.send call pth.pathID packet)) {packer : PacketPacker} {now : Int}
    {random : Option UInt16} (hrun : call.run s.packer s.handshakeComplete pth now random =
      .ok (packer, pth', some packet)) (env : Env) :
    Reaches K s₀ (s.sendPackedPacket packer pth' packet env).1 := h.act hK (.send hpth hrun env)

/-- A packet that was sent is in the history of its path. -/
theorem sendPackedPacket_hasSent {packer : PacketPacker} {pth : Path κ} {packet : PackedPacket}
    {env : Env} (h : (s.sendPackedPacket packer pth packet env).2 = none) :
    ∃ pth', (s.sendPackedPacket packer pth packet env).1.paths.lookup pth.pathID = some pth' ∧
      pth'.HasSent ⟨packet.number, packet.frames, packet.length, packet.encryptionLevel, 0,
        packet.written⟩ := by
  rw [sendPackedPacket] at h ⊢
  split at h
  · cases h
  · next handler hsent =>
    refine ⟨_, lookup_setPath_self _ _ _, ?_⟩
    have hhistory := (SentPacketHandler.sends_of_sentPacket hsent).history
    by_cases hstrip : stripNonRetransmittableFrames packet.frames = []
    · exact Or.inl hstrip
    · rw [if_pos (mt length_eq_zero_iff.mp hstrip)] at hhistory
      refine Or.inr ⟨⟨packet.number, stripNonRetransmittableFrames packet.frames, packet.length,
        packet.encryptionLevel, env.now, packet.written⟩, ?_, rfl, rfl, rfl, rfl⟩
      rw [hhistory]
      exact mem_append_right _ (mem_singleton_self _)

/-! ## Retransmissions -/

theorem getRetransmissionLoop_reaches (hK : ∀ a : Act κ, a.Dequeues → K a) (env : Env) (n : Nat)
    {r : Dequeued κ} (h : Reaches K s₀ r.session) :
    Reaches K s₀ (getRetransmissionLoop env n r).session := by
  induction n generalizing r with
  | zero => exact h
  | succ n ih =>
    rw [getRetransmissionLoop]
    split
    · exact h
    next s' pathID packet hfound =>
    obtain ⟨id, -, hdequeue⟩ := exists_of_findSome?_eq_some hfound
    obtain ⟨rfl, pth, rest, -, -, hs'⟩ := dequeueFrom_eq hdequeue
    have hsame : s'.handshakeComplete = r.session.handshakeComplete := by rw [hs']; rfl
    split_ifs with hlevel hcomplete
    · exact ih (h.act (hK _ (.drop pathID packet)) (.drop hdequeue hlevel (hsame ▸ hcomplete)))
    · exact h.act (hK _ (.take pathID packet))
        (.take hdequeue hlevel (by rw [← hsame]; exact Bool.eq_false_of_not_eq_true hcomplete))
    · exact ih (h.act (hK _ (.retransmit pathID packet))
        (.retransmit hdequeue (not_not.mp hlevel) env))

theorem retransmitHandshakePacket_reaches (hK : ∀ a : Act κ, a.Sends → K a)
    (h : Reaches K s₀ s) (hpth : s.paths.lookup pth.pathID = some pth) (packet : Packet)
    (env : Env) : Reaches K s₀ (s.retransmitHandshakePacket packet pth env).1 := by
  rw [retransmitHandshakePacket]
  have hswf := h.act (hK _ (.getStopWaitingFrame pth.pathID true)) (.handler hpth trivial)
  have hstop := hswf.act (hK _ (.setStopWaiting pth.pathID (pth.getStopWaitingFrame true).2))
    (.setStopWaiting _ _ _)
  refine state_orElseKeep hstop ?_
  rintro ⟨packer, pth', sent⟩ hrun
  exact hstop.send (lookup_setPath_self _ _ _) (hK _ (.send _ _ _))
    (PacketPacker.run_packHandshakeRetransmission hrun) env

/-! ## One packet -/

/-- A path in the table after something else was done. -/
structure Holding (K : Act κ → Prop) (s₀ : Session κ) (r : Session κ × Path κ) (pathID : Nat) :
    Prop where
  reaches : Reaches K s₀ r.1
  lookup : r.1.paths.lookup r.2.pathID = some r.2
  pathID : r.2.pathID = pathID

section

variable (hK : ∀ a : Act κ, a.Sends → K a)
include hK

theorem queueStopWaiting_reaches (h : Reaches K s₀ s)
    (hpth : s.paths.lookup pth.pathID = some pth) (force : Bool) :
    Holding K s₀ (s.queueStopWaiting pth force) pth.pathID := by
  have hswf := h.act (hK _ (.getStopWaitingFrame pth.pathID force)) (.handler hpth trivial)
  rw [queueStopWaiting]
  dsimp only
  split
  · exact ⟨hswf, lookup_setPath_self _ _ _, rfl⟩
  · exact ⟨hswf.queueFrame (hK _ (.queueFrame _ _)), lookup_setPath_self _ _ _, rfl⟩

theorem queueAck_reaches (h : Reaches K s₀ s) (hpth : s.paths.lookup pth.pathID = some pth)
    (hsame : pth.SameSender pth') (ack : Option AckFrame) (hasStreamRetransmission : Bool) :
    Holding K s₀ (s.queueAck pth' ack hasStreamRetransmission) pth.pathID := by
  have hset : Reaches K s₀ (s.setPath pth'.pathID pth') := by
    rw [hsame.pathID]
    exact h.path (hK _ (.path _)) hpth hsame
  have hlookup : (s.setPath pth'.pathID pth').paths.lookup pth'.pathID = some pth' :=
    lookup_setPath_self _ _ _
  rw [← hsame.pathID]
  cases ack with
  | none =>
    simp only [queueAck, Option.isSome_none, Bool.false_or]
    split_ifs
    · exact queueStopWaiting_reaches hK hset hlookup hasStreamRetransmission
    · exact ⟨hset, hlookup, rfl⟩
  | some ack =>
    simp only [queueAck, Option.isSome_some, Bool.true_or, if_true]
    exact queueStopWaiting_reaches hK (hset.queueFrame (hK _ (.queueFrame _ _))) hlookup
      hasStreamRetransmission

/-- A packet sent on a path without error is in its history. -/
theorem performPacketSending_reaches (h : Reaches K s₀ s)
    (hpth : s.paths.lookup pth.pathID = some pth) (windowUpdateFrames : List WindowUpdateFrame)
    (env : Env) :
    Reaches K s₀ (s.performPacketSending windowUpdateFrames pth env).1.1 ∧
      ∀ pkt, (s.performPacketSending windowUpdateFrames pth env).2 = some pkt →
        (s.performPacketSending windowUpdateFrames pth env).1.2 = none →
        ∃ pth', (s.performPacketSending windowUpdateFrames pth env).1.1.paths.lookup pth.pathID =
          some pth' ∧ pth'.HasSent pkt := by
  have hping : Reaches K s₀ (if pth.sentPacketHandler.shouldSendRetransmittablePacket then
      s.queueControlFrame .ping pth.pathID else s) ∧ (if
        pth.sentPacketHandler.shouldSendRetransmittablePacket then
      s.queueControlFrame .ping pth.pathID else s).paths = s.paths := by
    split_ifs
    · exact ⟨h.queueFrame (hK _ (.queueFrame _ _)), rfl⟩
    · exact ⟨h, rfl⟩
  rw [performPacketSending]
  generalize (if pth.sentPacketHandler.shouldSendRetransmittablePacket then
    s.queueControlFrame .ping pth.pathID else s) = s₁ at hping
  obtain ⟨h₁, hpaths⟩ := hping
  rw [← hpaths] at hpth
  split
  · exact ⟨h₁, nofun⟩
  · next packer pth' hrun =>
    have hrun : PacketPacker.Call.run .packPacket s₁.packer s₁.handshakeComplete pth env.now
      (env.randomFor pth) = .ok (packer, pth', none) := hrun
    exact ⟨h₁.act (hK _ (.packNothing _ _)) (.packNothing hpth hrun), nofun⟩
  · next packer pth' packet hrun =>
    have hrun : PacketPacker.Call.run .packPacket s₁.packer s₁.handshakeComplete pth env.now
      (env.randomFor pth) = .ok (packer, pth', some packet) := hrun
    have hid : pth'.pathID = pth.pathID := (PacketPacker.Call.run_sealing hrun).path.pathID
    have hsent := h₁.send hpth (hK _ (.send _ _ _)) hrun env
    have hhas := @sendPackedPacket_hasSent κ _ s₁ packer pth' packet env
    generalize s₁.sendPackedPacket packer pth' packet env = sent at hsent hhas
    obtain ⟨s₂, _ | e⟩ := sent
    · obtain ⟨pth₂, hpth₂, hsent₂⟩ := hhas rfl
      have hqueued := queueWindowUpdates_reaches windowUpdateFrames
        (fun f _ => hK _ (.queueFrame (.windowUpdate f) pth'.pathID)) hsent
      refine ⟨hqueued.note (hK _ .note) ⟨rfl, rfl, rfl, rfl, rfl, rfl, rfl⟩, ?_⟩
      rintro pkt ⟨⟩ -
      refine ⟨pth₂, ?_, hsent₂⟩
      rw [← hid, ← hpth₂]
      exact congrArg (AList.lookup _) (paths_queueWindowUpdates windowUpdateFrames _)
    · exact ⟨hsent, fun _ _ herr => by cases herr⟩

end

theorem duplicateIfUnprobed_reaches (hK : ∀ packet, K (.duplicate pathID packet))
    (h : Reaches K s₀ s) (hpth : s.paths.lookup pathID = some pth) {pkt : Packet}
    (hsent : pth.HasSent pkt) (env : Env) :
    Reaches K s₀ (s.duplicateIfUnprobed pathID pkt env) := by
  rw [duplicateIfUnprobed, hpth]
  dsimp only
  split
  · exact h.act (hK pkt) (.duplicate hpth hsent)
  · exact h

theorem pingIfFailed_reaches (hK : ∀ a : Act κ, a.Sends → K a)
    (h : Reaches K s₀ s)
    (fromPth : Option Nat) (env : Env) : Reaches K s₀ (s.pingIfFailed fromPth env).1 := by
  rw [pingIfFailed]
  split
  · exact h
  next pth hpth =>
  split_ifs
  · obtain ⟨id, -, hlookup⟩ := Option.bind_eq_some_iff.mp hpth
    have hid := h.wellKeyed.pathID _ _ hlookup
    exact sendPing_reaches (hK _ (.packNothing _ _)) (fun _ => hK _ (.send _ _ _)) h
      (hid ▸ hlookup) env
  · exact h

/-! ## Acknowledging -/

omit [SendAlgorithm κ] in
theorem getAckFrame_sameSender {now : Int} {ack : Option AckFrame}
    (h : pth.getAckFrame now = .ok (pth', ack)) : pth.SameSender pth' := by
  rw [Path.getAckFrame] at h
  obtain ⟨⟨handler, ack'⟩, -, h⟩ := bind_eq_ok h
  cases h
  exact ⟨rfl, rfl, rfl, id⟩

section

variable (hK : ∀ a : Act κ, a.Sends → K a)
include hK

theorem sendAck_reaches (h : Reaches K s₀ s) (hpth : s.paths.lookup pth.pathID = some pth)
    (ack : Option AckFrame) (env : Env) : Reaches K s₀ (s.sendAck pth ack env).1 := by
  have hset := h.act (hK _ (.setAckFrame pth.pathID ack)) (.setAckFrame s pth.pathID ack)
  cases ack with
  | some ack =>
    refine state_orElseKeep hset ?_
    rintro ⟨packer, pth', packet⟩ hrun
    exact hset.send hpth (hK _ (.send _ _ _)) (PacketPacker.run_packAckPacket hrun) env
  | none =>
    refine state_orElseKeep hset ?_
    rintro ⟨packer, pth', _ | packet⟩ hrun
    · exact hset
    · have hrun : PacketPacker.Call.run .packPacket (s.packer.setAckFrame pth.pathID none)
          s.handshakeComplete pth env.now (env.randomFor pth) = .ok (packer, pth', some packet) :=
        hrun
      exact hset.send hpth (hK _ (.send _ _ _)) hrun env

theorem ackPath_reaches (h : Reaches K s₀ s) (windowUpdateFrames : List WindowUpdateFrame)
    (env : Env) (pathID : Nat) : Reaches K s₀ (s.ackPath windowUpdateFrames env pathID).1 := by
  rw [ackPath]
  split
  · exact h
  next pth hpth =>
  obtain rfl := h.wellKeyed.pathID _ _ hpth
  refine state_orElseKeep h ?_
  rintro ⟨pth', ack⟩ hack
  have hsame := getAckFrame_sameSender hack
  have hqueued := queueWindowUpdates_reaches windowUpdateFrames
    (fun f _ => hK _ (.queueFrame (.windowUpdate f) pth.pathID))
    (h.path (hK _ (.path pth.pathID)) hpth hsame)
  have hlookup : ((s.setPath pth.pathID pth').queueWindowUpdates windowUpdateFrames
      pth.pathID).paths.lookup pth'.pathID = some pth' := by
    rw [paths_queueWindowUpdates, hsame.pathID]
    exact lookup_setPath_self _ _ _
  dsimp only
  split_ifs
  · exact hqueued
  · have hstop := queueStopWaiting_reaches hK hqueued hlookup false
    exact sendAck_reaches hK hstop.reaches hstop.lookup ack env

theorem ackRemainingPaths_reaches (h : Reaches K s₀ s)
    (totalWindowUpdateFrames : List WindowUpdateFrame) (env : Env) :
    Reaches K s₀ (s.ackRemainingPaths totalWindowUpdateFrames env).1 := by
  have hacks (s : Session κ) (h : Reaches K s₀ s) (frames : List WindowUpdateFrame) :
      Reaches K s₀ ((forEach (ackPath frames env) (env.order 2 s.paths.keys) s).andThen fun s =>
        ({ s with peerBlocked := false }, none)).1 := by
    have hacked : Reaches K s₀ (forEach (ackPath frames env) (env.order 2 s.paths.keys) s).1 :=
      state_forEach (P := Reaches K s₀)
        (fun pathID _ s h => ackPath_reaches hK h frames env pathID) h
    exact state_andThen hacked (hacked.note (hK _ .note) ⟨rfl, rfl, rfl, rfl, rfl, rfl, rfl⟩)
  cases totalWindowUpdateFrames with
  | nil =>
    have hupdates :=
      fun rtt rtts now force order => hK _ (.windowUpdates rtt rtts now force order)
    exact hacks _ (getWindowUpdateFrames_reaches hupdates h _ env) _
  | cons f frames => exact hacks s h (f :: frames)

end

/-! ## Rounds -/

section

variable (hK : ∀ a : Act κ, a.Sends → K a)
include hK

/-- Sending on a path: its ACK is queued and packets are sent; the last one is copied to a path
without measurements, and a path that has failed gets a PING. -/
theorem sendOn_reaches (h : Reaches K s₀ s) (hpth : s.paths.lookup pth.pathID = some pth)
    (windowUpdateFrames : List WindowUpdateFrame) (r : Retransmission) (env : Env) :
    Reaches K s₀ (s.sendOn windowUpdateFrames r pth env).1.1 := by
  rw [sendOn]
  split
  · exact h
  next pth' ack hack =>
  have hqueued := queueAck_reaches hK h hpth (getAckFrame_sameSender hack) ack
    r.hasStreamRetransmission
  generalize s.queueAck pth' ack r.hasStreamRetransmission = q at hqueued
  obtain ⟨s₁, pth₁⟩ := q
  have hframes := hqueued.reaches.act (hK _ .queueFramerFrames) (.queueFramerFrames s₁)
  have hperform := performPacketSending_reaches hK hframes hqueued.lookup windowUpdateFrames env
  dsimp only
  generalize s₁.queueFramerFrames.performPacketSending windowUpdateFrames pth₁ env =
    sent at hperform
  obtain ⟨⟨s₂, err⟩, _ | pkt⟩ := sent
  · exact state_andThen hperform.1 (ackRemainingPaths_reaches hK hperform.1 [] env)
  · cases err with
    | some e => exact hperform.1
    | none =>
      obtain ⟨pth₂, hpth₂, hsent⟩ := hperform.2 pkt rfl rfl
      have hduplicated := duplicateIfUnprobed_reaches (fun _ => hK _ (.duplicate _ _)) hperform.1
        hpth₂ hsent env
      exact pingIfFailed_reaches hK hduplicated r.fromPth env

theorem sendSelected_reaches {got : Dequeued κ} (hgot : Reaches K s₀ got.session)
    (windowUpdateFrames : List WindowUpdateFrame) (selected : Selected) (env : Env) :
    Reaches K s₀ (sendSelected got windowUpdateFrames selected env).1.1 := by
  rcases selected with e | _ | pathID
  · exact hgot
  · have hupdates :=
      fun rtt rtts now force order => hK _ (.windowUpdates rtt rtts now force order)
    exact ackRemainingPaths_reaches hK (getWindowUpdateFrames_reaches hupdates hgot false env) _ env
  · rw [sendSelected]
    split
    · exact hgot
    · next pth packet hpth _ =>
      obtain rfl := hgot.wellKeyed.pathID _ _ hpth
      exact retransmitHandshakePacket_reaches hK hgot hpth packet env
    · next pth hpth _ =>
      obtain rfl := hgot.wellKeyed.pathID _ _ hpth
      exact sendOn_reaches hK hgot hpth windowUpdateFrames _ env

/-- **A round of `sendPacket` leads to the acts of sending.** -/
theorem sendRound_reaches (h : Reaches K s₀ s) (windowUpdateFrames : List WindowUpdateFrame)
    (sch : Scheduler) (d : Draws) (env : Env) :
    Reaches K s₀ (s.sendRound windowUpdateFrames sch d env).1.1 :=
  have hgot := getRetransmissionLoop_reaches (fun a ha => hK a ha.sends) env _ h
  sendSelected_reaches hK hgot windowUpdateFrames _ env

end

theorem startSending_reaches (hK : ∀ a : Act κ, a.Starts → K a) (h : Reaches K s₀ s) (env : Env) :
    Reaches K s₀ (s.startSending env).1 := by
  have hleast : Reaches K s₀ (s.paths.keys.foldl setLeastUnacked s) := by
    refine foldlRecOn _ _ (motive := Reaches K s₀) h fun s' h' pathID _ => ?_
    rw [setLeastUnacked]
    split
    · exact h'
    · next pth hpth => exact h'.path (hK _ (.path pathID)) hpth ⟨rfl, rfl, rfl, id⟩
  have hupdated := getWindowUpdateFrames_reaches (fun _ _ _ _ _ => hK _ (.windowUpdates ..)) hleast
    false env
  exact queueWindowUpdates_reaches _ (fun f _ => hK _ (.queueFrame (.windowUpdate f) _)) hupdated

end Session
end MpQuic
