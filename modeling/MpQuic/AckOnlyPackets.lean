import MpQuic.Retransmissions
import MpQuic.RetransmittablePackets

/-!
# Runs of packets without retransmittable frames

`performPacketSending` adds a PING to the packet when the count of its path has reached
the limit.  `ackRemainingPaths` sends the ACKs of the other paths, or of all of them if
none is selected, without a look at the count.  The count stays within its limit if a
path that has reached it has no ACK due, or is the only path and may send.
-/
namespace MpQuic
open Systems Outcome List

/-! ## ACKs that are due -/

namespace ReceivedPacketHandler

/-- An ACK is due: it is queued, or its alarm has passed. -/
def ackDue (h : ReceivedPacketHandler) (now : Int) : Bool :=
  h.ackQueued || h.ackAlarm.any (· ≤ now)

/-- `GetAckFrame` returns a frame if one is due, and none is due afterwards. -/
theorem getAckFrame_due {h h' : ReceivedPacketHandler} {pathID : Nat} {now : Int}
    {ack : Option AckFrame} (hok : h.getAckFrame pathID now = .ok (h', ack)) :
    (ack.isSome = true → h.ackDue now = true) ∧ h'.ackDue now = false := by
  rw [getAckFrame] at hok
  dsimp only at hok
  have hcond : (!h.ackQueued && !h.ackAlarm.any (· ≤ now)) = !h.ackDue now := (Bool.not_or ..).symm
  cases halarm : h.ackAlarm
  all_goals
    rw [halarm] at hok hcond
    erw [hcond] at hok
    split at hok
    · next hnot =>
      cases hok
      exact ⟨(fun h => by cases h), by simpa using hnot⟩
    · next hnot =>
      split at hok
      · cases hok
      · cases hok
        exact ⟨fun _ => by simpa using hnot, rfl⟩

end ReceivedPacketHandler

namespace Path
variable {κ : Type}

/-- An ACK is due on the path. -/
def ackDue (pth : Path κ) (now : Int) : Bool := pth.receivedPacketHandler.ackDue now

theorem getAckFrame_due {pth pth' : Path κ} {now : Int} {ack : Option AckFrame}
    (h : pth.getAckFrame now = .ok (pth', ack)) :
    (ack.isSome = true → pth.ackDue now = true) ∧ pth'.ackDue now = false := by
  rw [getAckFrame] at h
  obtain ⟨⟨handler, ack'⟩, hhandler, h⟩ := bind_eq_ok h
  cases h
  exact ReceivedPacketHandler.getAckFrame_due hhandler

end Path

/-! ## Packets of a path -/

namespace Session
variable {κ : Type} [SendAlgorithm κ] {s s' s'' : Session κ} {pathID : Nat}
open PacketPacker SentPacketHandler

/-- All counts are within the limit. -/
abbrev InLimit (s : Session κ) : Prop := s.Handlers SentPacketHandler.InLimit

variable {P : SentPacketHandler κ → Prop} {pth : Path κ} {ack : Option AckFrame} {env : Env}
  {now : Int}

omit [SendAlgorithm κ] in
theorem Handlers.of_paths (hs : s.Handlers P) (hpaths : s'.paths = s.paths) : s'.Handlers P := by
  rw [Handlers, hpaths]
  exact hs

omit [SendAlgorithm κ] in
theorem Handlers.of_insert (hs : s.Handlers P) (hpaths : s'.paths = s.paths.insert pathID pth)
    (hpth : P pth.sentPacketHandler) : s'.Handlers P := by
  rw [Handlers, hpaths]
  exact forall_lookup_insert hpth hs

/-- A step that only concerns one path, and leaves all counts within the limit. -/
structure OnPath (pathID : Nat) (s s' : Session κ) : Prop where
  inLimit : s'.InLimit
  others : ∀ id, id ≠ pathID → s'.paths.lookup id = s.paths.lookup id

omit [SendAlgorithm κ] in
theorem OnPath.of_paths (hs : s.InLimit) (hpaths : s'.paths = s.paths) : OnPath pathID s s' :=
  ⟨hs.of_paths hpaths, fun _ _ => by rw [hpaths]⟩

omit [SendAlgorithm κ] in
theorem OnPath.of_insert (hs : s.InLimit) (hpaths : s'.paths = s.paths.insert pathID pth)
    (hpth : pth.sentPacketHandler.InLimit) : OnPath pathID s s' :=
  ⟨hs.of_insert hpaths hpth, fun _ hid => by rw [hpaths, AList.lookup_insert_ne hid]⟩

omit [SendAlgorithm κ] in
theorem OnPath.trans (h : OnPath pathID s s') (h' : OnPath pathID s' s'') : OnPath pathID s s'' :=
  ⟨h'.inLimit, fun id hid => (h'.others id hid).trans (h.others id hid)⟩

/-- A packet that the count of its path allows. -/
theorem sendPackedPacket_onPath (hs : s.InLimit) (packer : PacketPacker) {packet : PackedPacket}
    (hallows : pth.sentPacketHandler.Allows packet.frames) (env : Env) :
    OnPath pth.pathID s (s.sendPackedPacket packer pth packet env).1 := by
  rw [sendPackedPacket]
  split
  · exact .of_insert hs rfl hallows.inLimit
  · next handler hsent => exact .of_insert hs rfl (hallows.sentPacket hsent)

omit [SendAlgorithm κ] in
theorem queueStopWaiting_paths (s : Session κ) (pth : Path κ) (force : Bool) :
    (s.queueStopWaiting pth force).1.paths = s.paths.insert pth.pathID
      (s.queueStopWaiting pth force).2 ∧
    (s.queueStopWaiting pth force).2 = (pth.getStopWaitingFrame force).1 ∧
    (s.queueStopWaiting pth force).1.packer.ackFrame = s.packer.ackFrame := by
  rw [queueStopWaiting]
  dsimp only
  split <;> exact ⟨rfl, rfl, rfl⟩

/-- The packet of `ackRemainingPaths` for a path with an ACK and a count that allows it, or with a
window update queued last. -/
theorem sendAck_onPath (hstandard : s.packer.Standard) (hs : s.InLimit)
    (hpth : pth.sentPacketHandler.InLimit)
    (hack : ack.isSome = true →
      pth.sentPacketHandler.numNonRetransmittablePackets < maxNonRetransmittablePackets)
    (hupdate : ack = none → ∃ q f, s.packer.controlFrames = q ++ [.windowUpdate f]) (env : Env) :
    OnPath pth.pathID s (s.sendAck pth ack env).1 := by
  have hset : OnPath pth.pathID s { s with packer := s.packer.setAckFrame pth.pathID ack } :=
    .of_paths hs rfl
  cases ack with
  | some ack =>
    refine state_orElseKeep (P := OnPath pth.pathID s) hset ?_
    rintro ⟨packer, pth', packet⟩ hpack
    have hof := (Call.run_sealing (run_packAckPacket hpack)).path
    rw [← hof.pathID] at hset ⊢
    refine hset.trans (sendPackedPacket_onPath hset.inLimit packer (.inl ?_) env)
    rw [hof.handler]
    exact hack rfl
  | none =>
    refine state_orElseKeep (P := OnPath pth.pathID s) hset ?_
    rintro ⟨packer, pth', _ | packet⟩ hpack
    · exact hset
    · have hof := (packing_of_packPacket hpack).sealing.path
      obtain ⟨q, f, hlast⟩ := hupdate rfl
      have hurges : (s.packer.setAckFrame pth.pathID none).Urges pth.pathID := by
        refine .inr ⟨q, .windowUpdate f, _, hlast, rfl, rfl, ?_⟩
        have hnone : (s.packer.setAckFrame pth.pathID none).ackFrame pth.pathID = none :=
          Function.update_self ..
        rw [hnone]
        decide
      have hstandard' : (s.packer.setAckFrame pth.pathID none).Standard :=
        ⟨hstandard.overhead, hstandard.perspective⟩
      have hframes := (packing_of_packPacket hpack).retransmittable hstandard' hurges packet rfl
      rw [← hof.pathID] at hset ⊢
      refine hset.trans (sendPackedPacket_onPath hset.inLimit packer (.inr ⟨?_, hframes⟩) env)
      rw [hof.handler]
      exact hpth

/-- A path with an ACK due has a count that allows it. -/
def AllowsAck (s : Session κ) (now : Int) (pathID : Nat) : Prop :=
  ∀ pth, s.paths.lookup pathID = some pth → pth.ackDue now = true →
    pth.sentPacketHandler.numNonRetransmittablePackets < maxNonRetransmittablePackets

/-- One iteration of `ackRemainingPaths` sends at most the ACK of its path, which the count allows.
-/
theorem ackPath_onPath (hkeyed : s.WellKeyed) (hstandard : s.packer.Standard) (hs : s.InLimit)
    (hallows : s.AllowsAck env.now pathID) (frames : List WindowUpdateFrame) :
    OnPath pathID s (ackPath frames env pathID s).1 := by
  rw [ackPath]
  split
  · exact .of_paths hs rfl
  next pth hpth =>
  obtain rfl := hkeyed.pathID _ _ hpth
  refine state_orElseKeep (P := OnPath pth.pathID s) (.of_paths hs rfl) ?_
  rintro ⟨pth', ack⟩ hack
  have hsame := getAckFrame_sameSender hack
  have hlimit : pth'.sentPacketHandler.InLimit := hsame.handler ▸ hs _ _ hpth
  have hqueued : OnPath pth.pathID s ((s.setPath pth.pathID pth').queueWindowUpdates frames
      pth.pathID) := .of_insert hs (paths_queueWindowUpdates ..) hlimit
  have hcontrols := controlFrames_queueWindowUpdates (s.setPath pth.pathID pth') frames pth.pathID
  have hconfig := config_queueWindowUpdates (s.setPath pth.pathID pth') frames pth.pathID
  dsimp only
  split_ifs with hskip
  · exact hqueued
  generalize (s.setPath pth.pathID pth').queueWindowUpdates frames pth.pathID = s₁ at *
  obtain ⟨hpaths, hpth₁, -⟩ := queueStopWaiting_paths s₁ pth' false
  rw [← controlFrames_queueStopWaiting s₁ pth' false] at hcontrols
  rw [← config_queueStopWaiting s₁ pth' false] at hconfig
  generalize s₁.queueStopWaiting pth' false = q at *
  obtain ⟨s₂, pth₁⟩ := q
  dsimp only at hpaths hpth₁ hcontrols hconfig
  have hid : pth₁.pathID = pth.pathID := by rw [hpth₁]; exact hsame.pathID
  have hcount : pth₁.sentPacketHandler.numNonRetransmittablePackets =
      pth.sentPacketHandler.numNonRetransmittablePackets := by
    rw [hpth₁, ← hsame.handler]
    rfl
  have hlimit₁ : pth₁.sentPacketHandler.InLimit := hcount.trans_le (hs _ _ hpth)
  rw [hsame.pathID] at hpaths
  have hstop : OnPath pth.pathID s s₂ := hqueued.trans (.of_insert hqueued.inLimit hpaths hlimit₁)
  refine hstop.trans ?_
  rw [← hid]
  refine sendAck_onPath (hstandard.of_config hconfig) hstop.inLimit hlimit₁ ?_ ?_ env
  · intro hsome
    exact hcount.trans_lt (hallows pth hpth ((Path.getAckFrame_due hack).1 hsome))
  · rintro rfl
    have hframes : frames ≠ [] := fun hnil => hskip ⟨rfl, .inl hnil⟩
    obtain ⟨front, last, rfl⟩ : ∃ front last, frames = front ++ [last] :=
      ⟨_, _, (dropLast_append_getLast hframes).symm⟩
    rw [map_append, ← append_assoc] at hcontrols
    exact ⟨_, last, hcontrols⟩

variable {s₀ : Session κ}

/-- Every path is visited once, so that its count only grows by one. -/
theorem forEach_ackPath_inLimit (hstandard : s₀.packer.Standard) (frames : List WindowUpdateFrame)
    {ids : List Nat} (hids : ids.Nodup) (h : Reaches Act.Sends s₀ s) (hs : s.InLimit)
    (hallows : ∀ id ∈ ids, s.AllowsAck env.now id) :
    (forEach (ackPath frames env) ids s).1.InLimit := by
  induction ids generalizing s with
  | nil => exact hs
  | cons id ids ih =>
    obtain ⟨hid, hids⟩ := nodup_cons.mp hids
    have hstep := ackPath_onPath h.wellKeyed (standard_of_reaches hstandard h) hs
      (hallows id mem_cons_self) frames
    refine state_andThen hstep.inLimit
      (ih hids (ackPath_reaches (fun _ ha => ha) h frames env id) hstep.inLimit ?_)
    intro id' hid' pth hpth
    rw [hstep.others id' fun heq => hid (heq ▸ hid')] at hpth
    exact hallows id' (mem_cons_of_mem _ hid') pth hpth

theorem ackRemainingPaths_inLimit (hstandard : s₀.packer.Standard) (h : Reaches Act.Sends s₀ s)
    (hs : s.InLimit) (henv : env.Valid) (hallows : ∀ id, s.AllowsAck env.now id)
    (frames : List WindowUpdateFrame) : (s.ackRemainingPaths frames env).1.InLimit := by
  have hloop (s : Session κ) (h : Reaches Act.Sends s₀ s) (hs : s.InLimit)
      (hallows : ∀ id, s.AllowsAck env.now id) (frames : List WindowUpdateFrame) :
      ((forEach (ackPath frames env) (env.order 2 s.paths.keys) s).andThen fun s =>
        ({ s with peerBlocked := false }, none)).1.InLimit := by
    have hids : (env.order 2 s.paths.keys).Nodup := (henv 2 _).nodup_iff.mpr s.paths.keys_nodup
    have hacked := forEach_ackPath_inLimit hstandard frames hids h hs fun id _ => hallows id
    exact state_andThen (P := InLimit) hacked hacked
  cases frames with
  | nil =>
    exact hloop _ (getWindowUpdateFrames_reaches (fun _ _ _ _ _ => .windowUpdates ..) h _ env) hs
      hallows _
  | cons f frames => exact hloop s h hs hallows (f :: frames)

/-! ## Packets of a round -/

/-- The ACK frame queued for a path leaves room for a PING. -/
def ShortAck (s : Session κ) (pathID : Nat) : Prop :=
  ∀ ack, s.packer.ackFrame pathID = some ack → ack.minLength ≤ 1306

/-- A path that has reached the limit sends a PING with its packet. -/
theorem performPacketSending_inLimit (hstandard : s.packer.Standard) (hs : s.InLimit)
    (hpth : pth.sentPacketHandler.InLimit)
    (hshort : pth.sentPacketHandler.shouldSendRetransmittablePacket = true → s.ShortAck pth.pathID)
    (frames : List WindowUpdateFrame) (env : Env) :
    (s.performPacketSending frames pth env).1.1.InLimit ∧
      ((s.performPacketSending frames pth env).2 = none →
        (s.performPacketSending frames pth env).1.1.paths = s.paths) := by
  have hallowed : Yields (fun r => ∀ packet, r.2.2 = some packet →
      pth.sentPacketHandler.Allows packet.frames)
      ((if pth.sentPacketHandler.shouldSendRetransmittablePacket then
        s.queueControlFrame .ping pth.pathID else s).packer.packPacket
        (if pth.sentPacketHandler.shouldSendRetransmittablePacket then
          s.queueControlFrame .ping pth.pathID else s).handshakeComplete pth env.now
        (env.randomFor pth)) := by
    by_cases hshould : pth.sentPacketHandler.shouldSendRetransmittablePacket = true
    · rw [if_pos hshould]
      have hurges : (s.queueControlFrame .ping pth.pathID).packer.Urges pth.pathID := by
        refine .inr ⟨_, .ping, 1, rfl, rfl, rfl, ?_⟩
        have hack : (s.queueControlFrame .ping pth.pathID).packer.ackFrame = s.packer.ackFrame :=
          rfl
        rw [hack]
        cases hqueued : s.packer.ackFrame pth.pathID with
        | none => decide
        | some ack => exact Nat.succ_le_succ (hshort hshould ack hqueued)
      have hstandard' : (s.queueControlFrame .ping pth.pathID).packer.Standard :=
        ⟨hstandard.overhead, hstandard.perspective⟩
      refine ⟨fun r hr packet hpacket => .inr ⟨hpth, ?_⟩⟩
      exact (packing_of_packPacket hr).retransmittable hstandard' hurges packet hpacket
    · rw [if_neg hshould]
      rw [shouldSendRetransmittablePacket_iff, not_not] at hshould
      exact (yields_true _).imp fun _ _ _ _ => .inl hshould
  have hpaths : (if pth.sentPacketHandler.shouldSendRetransmittablePacket then
      s.queueControlFrame .ping pth.pathID else s).paths = s.paths := by
    split_ifs <;> rfl
  rw [performPacketSending]
  generalize (if pth.sentPacketHandler.shouldSendRetransmittablePacket then
    s.queueControlFrame .ping pth.pathID else s) = s₁ at hallowed hpaths
  have hs₁ : s₁.InLimit := hs.of_paths hpaths
  split
  · exact ⟨hs₁, fun _ => hpaths⟩
  · exact ⟨hs₁.of_paths rfl, fun _ => hpaths⟩
  · next packer pth' packet hpack =>
    have hof := (packing_of_packPacket hpack).sealing.path
    have hpacket : pth'.sentPacketHandler.Allows packet.frames := by
      rw [hof.handler]
      exact hallowed.value _ hpack packet rfl
    have hsent := (sendPackedPacket_onPath hs₁ packer hpacket env).inLimit
    refine ⟨state_andThen (P := InLimit) hsent (hsent.of_paths ?_), fun h => by cases h⟩
    exact paths_queueWindowUpdates ..

theorem pingIfFailed_inLimit (hstandard : s.packer.Standard) (hs : s.InLimit)
    (fromPth : Option Nat) (env : Env) : (s.pingIfFailed fromPth env).1.InLimit := by
  rw [pingIfFailed]
  split
  · exact hs
  next pth hpth =>
  obtain ⟨id, -, hlookup⟩ := Option.bind_eq_some_iff.mp hpth
  split_ifs
  · rw [sendPing]
    refine state_orElseKeep (P := InLimit) hs ?_
    rintro ⟨packer, pth', _ | packet⟩ hpack
    · exact hs.of_paths rfl
    · have hof := (Call.run_sealing (run_packPing hpack)).path
      have hframes := packPing_retransmittable hpack hstandard packet rfl
      refine (sendPackedPacket_onPath hs packer (.inr ⟨?_, hframes⟩) env).inLimit
      rw [hof.handler]
      exact hs _ _ hlookup
  · exact hs

theorem duplicateIfUnprobed_inLimit (hs : s.InLimit) (pathID : Nat) (pkt : Packet) (env : Env) :
    (s.duplicateIfUnprobed pathID pkt env).InLimit ∧
      (s.duplicateIfUnprobed pathID pkt env).packer = s.packer := by
  rw [duplicateIfUnprobed]
  split
  · exact ⟨hs, rfl⟩
  next pth hpth =>
  have hpth := hs _ _ hpth
  dsimp only
  split
  · exact ⟨hs.of_insert rfl hpth, rfl⟩
  · exact ⟨hs, rfl⟩

theorem retransmitHandshakePacket_inLimit (hs : s.InLimit) {packet : Packet}
    (hallows : pth.sentPacketHandler.Allows packet.frames) (env : Env) :
    (s.retransmitHandshakePacket packet pth env).1.InLimit := by
  rw [retransmitHandshakePacket]
  have hset : (s.setPath pth.pathID (pth.getStopWaitingFrame true).1).InLimit :=
    hs.of_insert rfl hallows.inLimit
  refine state_orElseKeep (P := InLimit) (hset.of_paths rfl) ?_
  rintro ⟨packer, pth', sent⟩ hpack
  refine (sendPackedPacket_onPath (hset.of_paths rfl) packer ?_ env).inLimit
  -- the STOP_WAITING frame in front does not count
  cases Call.ran (run_packHandshakeRetransmission hpack) with
  | packHandshakeRetransmission _ _ _ hsealed =>
    cases hsealed
    exact hallows

omit [SendAlgorithm κ] in
/-- What `queueAck` leaves: the path, and the ACK frame for its next packet. -/
theorem queueAck_paths (s : Session κ) (pth : Path κ) (ack : Option AckFrame) (force : Bool) :
    (s.queueAck pth ack force).1.paths = s.paths.insert pth.pathID (s.queueAck pth ack force).2 ∧
    ((s.queueAck pth ack force).2 = pth ∨
      (s.queueAck pth ack force).2 = (pth.getStopWaitingFrame force).1) ∧
    ∀ f, (s.queueAck pth ack force).1.packer.ackFrame pth.pathID = some f →
      ack = some f ∨ s.packer.ackFrame pth.pathID = some f := by
  have hstop (s' : Session κ) (hs' : s'.paths = s.paths.insert pth.pathID pth) :
      (s'.queueStopWaiting pth force).1.paths =
        s.paths.insert pth.pathID (s'.queueStopWaiting pth force).2 := by
    rw [(queueStopWaiting_paths s' pth force).1, hs', AList.insert_insert]
  cases ack with
  | none =>
    simp only [queueAck, Option.isSome_none, Bool.false_or]
    split_ifs
    · obtain ⟨-, hpth, hack⟩ := queueStopWaiting_paths (s.setPath pth.pathID pth) pth force
      exact ⟨hstop _ rfl, .inr hpth, fun f hf => .inr (by rwa [hack] at hf)⟩
    · exact ⟨rfl, .inl rfl, fun f hf => .inr hf⟩
  | some ack =>
    simp only [queueAck, Option.isSome_some, Bool.true_or, if_true]
    obtain ⟨-, hpth, hack⟩ := queueStopWaiting_paths
      ((s.setPath pth.pathID pth).queueControlFrame (.ack ack) pth.pathID) pth force
    refine ⟨hstop _ rfl, .inr hpth, fun f hf => .inl ?_⟩
    have hset : ((s.setPath pth.pathID pth).queueControlFrame (.ack ack) pth.pathID).packer.ackFrame
        pth.pathID = some ack := Function.update_self ..
    rw [hack, hset] at hf
    exact hf

/-- The ACK frames a path can send in a round leave room for a PING. -/
def ShortAcks (s : Session κ) (now : Int) (pathID : Nat) (pth : Path κ) : Prop :=
  s.ShortAck pathID ∧ ∀ pth' ack, pth.getAckFrame now = .ok (pth', some ack) → ack.minLength ≤ 1306

/-- A path whose count is at the limit gets a PING into its packet, for which the ACK leaves room.
-/
theorem sendOn_inLimit (hstandard : s₀.packer.Standard) (h : Reaches Act.Sends s₀ s)
    (hs : s.InLimit) (henv : env.Valid) (hpth : s.paths.lookup pth.pathID = some pth)
    (hshort : pth.sentPacketHandler.shouldSendRetransmittablePacket = true →
      s.ShortAcks env.now pth.pathID pth)
    (hothers : ∀ id, id ≠ pth.pathID → s.AllowsAck env.now id) (frames : List WindowUpdateFrame)
    (r : Retransmission) : (s.sendOn frames r pth env).1.1.InLimit := by
  rw [sendOn]
  split
  · exact hs
  next pth' ack hack =>
  have hsame := getAckFrame_sameSender hack
  have hqueued := queueAck_reaches (fun _ ha => ha) h hpth hsame ack r.hasStreamRetransmission
  obtain ⟨hpaths, hpath, hframe⟩ := queueAck_paths s pth' ack r.hasStreamRetransmission
  generalize s.queueAck pth' ack r.hasStreamRetransmission = q at *
  obtain ⟨s₁, pth₁⟩ := q
  dsimp only at hpaths hpath hframe
  have hcount : pth₁.sentPacketHandler.numNonRetransmittablePackets =
      pth.sentPacketHandler.numNonRetransmittablePackets := by
    rw [← hsame.handler]
    rcases hpath with rfl | rfl
    · rfl
    · rfl
  have hnotDue : pth₁.ackDue env.now = false := by
    rcases hpath with rfl | rfl
    · exact (Path.getAckFrame_due hack).2
    · exact (Path.getAckFrame_due hack).2
  have hlimit : pth₁.sentPacketHandler.InLimit := hcount.trans_le (hs _ _ hpth)
  rw [hsame.pathID] at hpaths hframe
  have hid : pth₁.pathID = pth.pathID := hqueued.pathID
  have hreaches : Reaches Act.Sends s₀ s₁.queueFramerFrames :=
    hqueued.reaches.act .queueFramerFrames (.queueFramerFrames s₁)
  have hs₁ : s₁.queueFramerFrames.InLimit := hs.of_insert hpaths hlimit
  have hperform := performPacketSending_reaches (fun _ ha => ha) hreaches
      hqueued.lookup frames env
  have hsent := performPacketSending_inLimit (standard_of_reaches hstandard hreaches) hs₁ hlimit
    (fun hshould f hf => ?_) frames env
  · dsimp only
    generalize s₁.queueFramerFrames.performPacketSending frames pth₁ env = sent at hperform hsent
    obtain ⟨⟨s₂, err⟩, _ | pkt⟩ := sent
    · have hpaths₂ : s₂.paths = s.paths.insert pth.pathID pth₁ := (hsent.2 rfl).trans hpaths
      refine state_andThen (P := InLimit) hsent.1
        (ackRemainingPaths_inLimit hstandard hperform.1 hsent.1 henv ?_ [])
      intro id pth₂ hpth₂ hdue
      rw [hpaths₂] at hpth₂
      by_cases heq : id = pth.pathID
      · rw [heq, AList.lookup_insert, Option.some.injEq] at hpth₂
        rw [← hpth₂, hnotDue] at hdue
        cases hdue
      · rw [AList.lookup_insert_ne heq] at hpth₂
        exact hothers id heq pth₂ hpth₂ hdue
    · obtain ⟨hcopied, hpacker⟩ := duplicateIfUnprobed_inLimit hsent.1 pth₁.pathID pkt env
      have hstandard₂ : s₂.packer.Standard := standard_of_reaches hstandard hperform.1
      exact state_andThen (P := InLimit) hsent.1
        (pingIfFailed_inLimit (hpacker ▸ hstandard₂) hcopied r.fromPth env)
  · have hshould' : pth.sentPacketHandler.shouldSendRetransmittablePacket = true := by
      rw [shouldSendRetransmittablePacket, ← hcount]
      exact hshould
    rw [hid] at hf
    rcases hframe f hf with rfl | hstored
    · exact (hshort hshould').2 pth' f hack
    · exact (hshort hshould').1 f hstored

/-! ## Rounds -/

/-- What a path needs in a round if it has reached the limit: an ACK that is due finds it the only
path, which may send, the ACK frames leave room for a PING, and a handshake packet that is sent
again has a frame to retransmit. -/
structure Relieved (s : Session κ) (now : Int) (pathID : Nat) (pth : Path κ) : Prop where
  ack : pth.ackDue now = true → s.paths.keys = [initialPathID] ∧ pth.sendingAllowed = true
  short : s.ShortAcks now pathID pth
  handshake : ∀ packet, s.FromQueue packet → stripNonRetransmittableFrames packet.frames ≠ []

/-- The paths that have reached the limit get what they need. -/
def Relieves (s : Session κ) (now : Int) : Prop :=
  ∀ id pth, s.paths.lookup id = some pth →
    pth.sentPacketHandler.shouldSendRetransmittablePacket = true → s.Relieved now id pth

omit [SendAlgorithm κ] in
/-- The ACK frame of a path does not depend on the packets it has sent. -/
theorem getAckFrame_congr {pth pth' pth₁ : Path κ}
    (hreceived : pth'.receivedPacketHandler = pth.receivedPacketHandler)
    (hid : pth'.pathID = pth.pathID) (h : pth'.getAckFrame now = .ok (pth₁, ack)) :
    ∃ pth₂, pth.getAckFrame now = .ok (pth₂, ack) := by
  rw [Path.getAckFrame, hreceived, hid] at h
  obtain ⟨⟨handler, ack'⟩, hhandler, h⟩ := bind_eq_ok h
  cases h
  rw [Path.getAckFrame, hhandler]
  exact ⟨_, rfl⟩

/-- What the paths that have reached the limit need is still there after `getRetransmission`. -/
theorem Retransmits.relieved (h : Retransmits s s') (hrelieves : s.Relieves now) {id : Nat}
    {pth' : Path κ} (hpth' : s'.paths.lookup id = some pth')
    (hreached : pth'.sentPacketHandler.shouldSendRetransmittablePacket = true) :
    s'.ShortAcks now id pth' ∧
    (∀ packet, s.FromQueue packet → stripNonRetransmittableFrames packet.frames ≠ []) ∧
    (pth'.ackDue now = true → s'.paths.keys = [initialPathID] ∧
      ∃ pth, s.paths.lookup id = some pth ∧ pth.sendingAllowed = true) := by
  obtain ⟨pth, queue, n, hpth, -, rfl⟩ := h.paths id pth' hpth'
  have hrelieved := hrelieves id pth hpth hreached
  refine ⟨⟨fun ack hack => ?_, fun pth₁ ack hack => ?_⟩, hrelieved.handshake, fun hdue => ?_⟩
  · rw [h.ackFrame] at hack
    exact hrelieved.short.1 ack hack
  · have hreceived : (pth.withQueue queue n).receivedPacketHandler = pth.receivedPacketHandler :=
      rfl
    have hid : (pth.withQueue queue n).pathID = pth.pathID := rfl
    obtain ⟨pth₂, hack₂⟩ := getAckFrame_congr hreceived hid hack
    exact hrelieved.short.2 pth₂ ack hack₂
  · obtain ⟨hkeys, hallowed⟩ := hrelieved.ack hdue
    exact ⟨h.keys hkeys, pth, hpth, hallowed⟩

/-- **A round keeps the counts within the limit.** -/
theorem sendRound_inLimit (hkeyed : s.WellKeyed) (hstandard : s.packer.Standard) (hs : s.InLimit)
    (henv : env.Valid) (hrelieves : s.Relieves env.now) (frames : List WindowUpdateFrame)
    (sch : Scheduler) (d : Draws) : (s.sendRound frames sch d env).1.1.InLimit := by
  obtain ⟨hgot, hpacket⟩ := getRetransmission_retransmits s env
  have hreaches : Reaches Act.Sends s (s.getRetransmission env).session :=
    getRetransmissionLoop_reaches (fun _ ha => ha.sends) env _ (.refl hkeyed)
  have hsession := getRetransmission_session s env
  rw [sendRound]
  generalize s.getRetransmission env = got at *
  have hgotLimit : got.session.InLimit := by
    intro id pth' hpth'
    obtain ⟨pth, queue, n, hpth, -, rfl⟩ := hgot.paths id pth' hpth'
    exact hs id pth hpth
  rcases hselect : got.session.selectPath sch d got.retransmission env with e | _ | pathID
  · exact hgotLimit
  · refine ackRemainingPaths_inLimit hstandard (getWindowUpdateFrames_reaches
      (fun _ _ _ _ _ => .windowUpdates ..) hreaches false env) hgotLimit henv ?_ _
    intro id pth' hpth' hdue
    change got.session.paths.lookup id = some pth' at hpth'
    by_contra hnot
    obtain ⟨hkeys, pth, hpth, hallowed⟩ :=
      (hgot.relieved hrelieves hpth' (shouldSendRetransmittablePacket_iff.mpr hnot)).2.2 hdue
    obtain rfl := eq_initialPathID hkeys hpth'
    -- the only path is selected, so that this cannot be
    have hsends : got.hasRetransmission = true ∨ pth'.sendingAllowed = true := by
      refine hsession.imp_right fun heq => ?_
      rw [heq, hpth, Option.some.injEq] at hpth'
      exact hpth' ▸ hallowed
    have honly : got.session.selectPath sch d got.retransmission env = .ok (some initialPathID) :=
      selectPath_only hkeys hpth' hsends sch d env
    rw [honly] at hselect
    cases hselect
  · rw [sendSelected]
    split
    · exact hgotLimit
    · next pth packet hpth hretransmit =>
      refine retransmitHandshakePacket_inLimit hgotLimit ?_ env
      by_cases hcount : pth.sentPacketHandler.numNonRetransmittablePackets <
          maxNonRetransmittablePackets
      · exact .inl hcount
      · have hrelieved :=
          hgot.relieved hrelieves hpth (shouldSendRetransmittablePacket_iff.mpr hcount)
        exact .inr ⟨hgotLimit _ _ hpth, hrelieved.2.1 packet (hpacket packet hretransmit).2⟩
    · next pth hpth _ =>
      obtain rfl := hreaches.wellKeyed.pathID _ _ hpth
      refine sendOn_inLimit hstandard hreaches hgotLimit henv hpth
        (fun hshould => (hgot.relieved hrelieves hpth hshould).1) ?_ frames _
      intro id hid pth₂ hpth₂ hdue
      by_contra hnot
      obtain ⟨hkeys, -⟩ :=
        (hgot.relieved hrelieves hpth₂ (shouldSendRetransmittablePacket_iff.mpr hnot)).2.2 hdue
      exact hid ((eq_initialPathID hkeys hpth₂).trans (eq_initialPathID hkeys hpth).symm)

end Session

/-! ## Runs -/

namespace Act
variable {κ : Type} [SendAlgorithm κ]

/-- The acts other than sending and copying a packet, PINGs excepted. -/
def PingsOnly : Act κ → Prop
  | .send call _ _ => call = .packPing
  | .duplicate .. => False
  | _ => True

variable {s s' : Session κ} {a : Act κ}

theorem Does.ping_retransmittable {pathID : Nat} {packet : PackedPacket}
    (hstandard : s.packer.Standard) (h : Act.Does (.send .packPing pathID packet) s s') :
    stripNonRetransmittableFrames packet.frames ≠ [] := by
  cases h with
  | send h hrun => exact PacketPacker.packPing_retransmittable hrun hstandard packet rfl

/-- These acts keep the counts within the limit. -/
theorem Does.inLimit (hstandard : s.packer.Standard) (hs : s.InLimit) (ha : a.PingsOnly)
    (h : a.Does s s') : s'.InLimit := by
  refine hs.does (fun congestion => Nat.zero_le _) ?_ h
  intro id op handler hop hlimit
  cases hop with
  | send call pathID packet now =>
    obtain rfl : call = .packPing := ha
    rw [SentPacketHandler.Op.apply]
    cases hsent : handler.sentPacket _ now with
    | error e => exact hlimit
    | ok handler' =>
      have hallows : handler.Allows packet.frames := .inr ⟨hlimit, h.ping_retransmittable hstandard⟩
      exact SentPacketHandler.Allows.sentPacket (by exact hallows) hsent
  | handler _ _ hquiet =>
    refine (SentPacketHandler.numNonRetransmittablePackets_apply handler ?_).trans_le hlimit
    cases op with
    | sentPacket => cases hquiet
    | _ => rfl
  | _ => exact (SentPacketHandler.numNonRetransmittablePackets_apply handler rfl).trans_le hlimit

omit [SendAlgorithm κ] in
theorem Creates.pingsOnly (h : a.Creates) : a.PingsOnly := by
  cases h with
  | send => exact rfl
  | _ => exact trivial

omit [SendAlgorithm κ] in
theorem Starts.pingsOnly (h : a.Starts) : a.PingsOnly := by
  cases h <;> exact trivial

end Act

namespace Event
variable {κ : Type}

/-- Only `sendPacket` sends other packets than PINGs. -/
theorem Acts.pingsOnly [SendAlgorithm κ] {s : Session κ} {e : Event κ} {a : Act κ} (h : Acts s e a)
    (he : e.isSendPacket = false) : a.PingsOnly := by
  cases h with
  | receive h =>
    cases h with
    | frame _ h =>
      cases h with
      | addAddress _ h => exact h.pingsOnly
      | _ => exact trivial
    | _ => exact trivial
  | startSending | sendRound => cases he
  | runPathManager h => exact h.pingsOnly
  | _ => exact trivial

end Event

namespace Connection
variable {κ : Type} [SendAlgorithm κ]
open Session

/-- In the rounds of `sendPacket`, the paths that have reached the limit get what they need. -/
def RelievesPaths (c : Connection κ) : Event κ → Prop
  | .sendRound _ _ env => c.session.Relieves env.now
  | _ => True

variable {c : Connection κ}

theorem apply_inLimit (hkeyed : c.session.WellKeyed) (hstandard : c.session.packer.Standard)
    (hc : c.session.InLimit) {e : Event κ} (hrelieves : c.RelievesPaths e)
    (henabled : c.Enabled e) : (c.apply e).session.InLimit := by
  have hkeeps {K : Act κ → Prop} {s : Session κ} (hreaches : Reaches K c.session s)
      (hK : ∀ a, K a → a.PingsOnly) : s.InLimit := by
    refine (hreaches.keeps (P := fun s => s.packer.Standard ∧ s.InLimit) ?_ ⟨hstandard, hc⟩).2
    intro s a s' _ hs ha hdoes
    exact ⟨hs.1.of_config hdoes.packerConfig, hdoes.inLimit hs.1 hs.2 (hK a ha)⟩
  by_cases he : e.isSendPacket = true
  · cases e with
    | startSending env =>
      exact hkeeps (startSending_reaches (K := Act.Starts) (fun _ ha => ha) (.refl hkeyed) env)
        fun _ ha => ha.pingsOnly
    | sendRound sch d env =>
      exact sendRound_inLimit hkeyed hstandard hc henabled.2.2 hrelieves _ sch d
    | _ => cases he
  · exact hkeeps (c.apply_reaches hkeyed henabled) fun _ ha =>
      ha.pingsOnly (Bool.eq_false_of_not_eq_true he)

/-- **At most 19 packets in a row go without a frame to retransmit** on any path, in the runs in
which the paths that have reached this limit get what they need. -/
theorem ack_only_packets_bounded {c : Connection κ} (h : (machine κ).Reach RelievesPaths c) :
    ∀ id pth, c.session.paths.lookup id = some pth →
      pth.sentPacketHandler.numNonRetransmittablePackets ≤ maxNonRetransmittablePackets := by
  refine (h.invariant (P := fun c => (c.session.WellKeyed ∧ c.session.packer.Standard) ∧
    c.session.InLimit) ?_ ?_).2
  · intro c hinit
    exact ⟨⟨hinit.wellKeyed, hinit.standard⟩, hinit.handlers fun _ => Nat.zero_le _⟩
  · rintro c e _ ⟨⟨hkeyed, hstandard⟩, hc⟩ hrelieves ⟨henabled, rfl⟩
    have hreaches := c.apply_reaches hkeyed henabled
    exact ⟨⟨hreaches.wellKeyed, standard_of_reaches hstandard hreaches⟩,
      apply_inLimit hkeyed hstandard hc hrelieves henabled⟩

/-- No path has reached the limit. -/
theorem relievesPaths_of_below (e : Event κ)
    (hbelow : ∀ entry ∈ c.session.paths.entries,
      entry.2.sentPacketHandler.shouldSendRetransmittablePacket = false) : c.RelievesPaths e := by
  cases e with
  | sendRound =>
    intro id pth hpth hreached
    rw [hbelow _ (of_mem_dlookup hpth)] at hreached
    cases hreached
  | _ => exact trivial

/-! ## A path that is not selected -/

/-- The peer has opened path 1, and its first packet there has been acknowledged. -/
def openPathOne : List (Event FixedWindow) :=
  [receiveFrames 1 1 [7] 1, .startSending { now := 500000000 }, sendLowestRTT 500000000,
    sendLowestRTT 500000000]

/-- A packet with a PING arrives on path 0, and is acknowledged half a second later. -/
def acknowledgePing (n : Nat) : List (Event FixedWindow) :=
  [receiveFrames 0 n [7] (n * 1000000000), .startSending { now := n * 1000000000 + 500000000 },
    sendLowestRTT (n * 1000000000 + 500000000)]

theorem openPathOne_env : ∀ e ∈ openPathOne, ∀ env ∈ e.env, env.Valid := by
  simp [openPathOne, receiveFrames, sendLowestRTT, Event.env, Env.Valid]

theorem acknowledgePing_env (n : Nat) : ∀ e ∈ acknowledgePing n, ∀ env ∈ e.env, env.Valid := by
  simp [acknowledgePing, receiveFrames, sendLowestRTT, Event.env, Env.Valid]

/-- One ACK on the initial path, while the scheduler selects the other path. -/
theorem ack_only_packets_bounded_one_ack :
    ∃ c : Connection FixedWindow, (machine FixedWindow).Reach RelievesPaths c ∧
      (c.session.paths.lookup 0).map (·.sentPacketHandler.numNonRetransmittablePackets) = some 1 ∧
      ∀ id pth, c.session.paths.lookup id = some pth →
        pth.sentPacketHandler.numNonRetransmittablePackets ≤ maxNonRetransmittablePackets := by
  have hreach : (machine FixedWindow).Reach RelievesPaths
      ((openPathOne ++ acknowledgePing 1).foldl apply (sample .server)) := by
    refine Machine.Reach.foldl_of_mem (P := fun c e => c.ready e = true ∧
      ∀ entry ∈ c.session.paths.entries,
        entry.2.sentPacketHandler.shouldSendRetransmittablePacket = false)
      (.init (initial_sample .server)) ?_ (by decide +kernel)
    rintro c e he ⟨hready, hbelow⟩
    have henv := (mem_append.mp he).elim (openPathOne_env e) (acknowledgePing_env 1 e)
    exact ⟨relievesPaths_of_below e hbelow, enabled_of_ready hready henv, rfl⟩
  exact ⟨_, hreach, by decide +kernel, ack_only_packets_bounded hreach⟩

/-- With a second path open the scheduler selects that one, and the initial path acknowledges one
packet after the other without a PING. -/
theorem twenty_acks_in_a_row :
    ∃ c : Connection FixedWindow, c.Reachable ∧ c.Running ∧
      (∀ entry ∈ c.session.paths.entries, entry.2.sentPacketHandler.sendingAllowed = true) ∧
      (c.session.paths.lookup 0).map (·.sentPacketHandler.numNonRetransmittablePackets) =
        some 20 := by
  let es := openPathOne ++ (range' 1 20).flatMap acknowledgePing
  have henv : ∀ e ∈ es, ∀ env ∈ e.env, env.Valid := by
    intro e he
    rcases mem_append.mp he with he | he
    · exact openPathOne_env e he
    · obtain ⟨n, -, he⟩ := mem_flatMap.mp he
      exact acknowledgePing_env n e he
  have hreach : Reachable (es.foldl apply (sample .server)) :=
    reach_foldl (.init (initial_sample .server)) (by decide +kernel) henv fun _ _ _ => trivial
  exact ⟨_, hreach, ⟨by decide +kernel, by decide +kernel⟩, by decide +kernel, by decide +kernel⟩

end Connection
end MpQuic
