import MpQuic.HandlerRuns
import MpQuic.PacketSizes
import MpQuic.Retransmissions

/-!
# Handshake packets are sent again

Before the handshake is complete a lost packet is sent again as a whole, together with
a STOP_WAITING frame.  The frame is the one of the path that is selected, not of the
path that lost the packet, and the packet has left its queue before a path is
selected.  It is resent exactly if there is a path to select, the manager of that path
has a frame, and the packet can be written once more with it.
-/
namespace MpQuic
open Systems Outcome List

/-! ## Packing a handshake packet again -/

namespace PacketPacker
variable {κ : Type} {p : PacketPacker} {packet : Packet} {pth : Path κ} {now : Int}
  {ph : PublicHeader} {frames : List (Frame FrameRef)} {encLevel : EncryptionLevel}

/-- Header and frames can be written, and are not too long for a packet. -/
def Writes (p : PacketPacker) (ph : PublicHeader) (frames : List (Frame FrameRef))
    (encLevel : EncryptionLevel) (now : Int) : Prop :=
  ∃ header payload, ph.write p.version p.perspective = .ok header ∧
    (frames.map p.streamFramer.heap.read).mapM (·.write p.version now) = .ok payload ∧
    header.length + payload.flatten.length + p.cryptoSetup.overhead encLevel ≤ maxPacketSize

instance : Decidable (p.Writes ph frames encLevel now) :=
  match hheader : ph.write p.version p.perspective,
    hpayload : (frames.map p.streamFramer.heap.read).mapM (·.write p.version now) with
  | .ok header, .ok payload =>
    decidable_of_iff (header.length + payload.flatten.length +
      p.cryptoSetup.overhead encLevel ≤ maxPacketSize) (by simp [Writes, *])
  | .error _, _ => .isFalse (by simp [Writes, *])
  | _, .error _ => .isFalse (by simp [Writes, *])

/-- `writeAndSealPacket` returns a packet exactly if the packet can be written: the number it
takes from the generator is the one in the header. -/
theorem exists_writeAndSealPacket_iff
    (hnumber : ph.packetNumber = pth.packetNumberGenerator.next) (random : Option UInt16) :
    (∃ r, p.writeAndSealPacket ph frames encLevel pth now random = .ok r) ↔
      p.Writes ph frames encLevel now := by
  constructor
  · rintro ⟨r, h⟩
    rw [writeAndSealPacket] at h
    obtain ⟨header, hheader, h⟩ := bind_eq_ok h
    obtain ⟨payload, hpayload, h⟩ := bind_eq_ok h
    dsimp only at h
    split at h
    · cases h
    · next hsize => exact ⟨header, payload, hheader, hpayload, not_lt.mp hsize⟩
  · rintro ⟨header, payload, hheader, hpayload, hsize⟩
    have hpop : (pth.packetNumberGenerator.pop random).1 = ph.packetNumber :=
      (pth.packetNumberGenerator.pop_fst random).trans hnumber.symm
    rw [writeAndSealPacket, hheader]
    dsimp only [Bind.bind, Except.bind]
    rw [hpayload]
    dsimp only
    rw [if_neg (not_lt.mpr hsize), hpop, if_neg (not_not.mpr rfl)]
    exact ⟨_, rfl⟩

/-- The packet can be written again, after the header of the next packet of the path and after a
STOP_WAITING frame that has the number of that packet. -/
def FitsAgain (p : PacketPacker) (swf : StopWaitingFrame) (packet : Packet) (pth : Path κ)
    (now : Int) : Prop :=
  let ph := p.getPublicHeader false packet.encryptionLevel pth
  let swf := { swf with packetNumber := ph.packetNumber, packetNumberLen := ph.packetNumberLen }
  p.Writes ph (.stopWaiting swf :: packet.frames) packet.encryptionLevel now

instance {swf : StopWaitingFrame} : Decidable (p.FitsAgain swf packet pth now) := by
  unfold FitsAgain
  infer_instance

/-- `PackHandshakeRetransmission` needs the key of the packet's level and a STOP_WAITING frame. -/
theorem exists_packHandshakeRetransmission_iff (p : PacketPacker) (pth : Path κ) (now : Int)
    (hlevel : packet.encryptionLevel ≠ .forwardSecure) (random : Option UInt16) :
    (∃ r, p.packHandshakeRetransmission false packet pth now random = .ok r) ↔
      p.cryptoSetup.hasSealer packet.encryptionLevel = true ∧
        ∃ swf ∈ p.stopWaiting pth.pathID, p.FitsAgain swf packet pth now := by
  have hnumber := p.getPublicHeader_packetNumber false packet.encryptionLevel pth
  rw [packHandshakeRetransmission, if_neg hlevel]
  cases hkey : p.cryptoSetup.hasSealer packet.encryptionLevel with
  | false => simp
  | true =>
    cases hswf : p.stopWaiting pth.pathID with
    | none => simp [numberStopWaiting, setStopWaiting, hswf]
    | some swf =>
      simp only [numberStopWaiting, setStopWaiting, hswf, Option.map_some, Function.update_self,
        Option.mem_some_iff, exists_eq_left', true_and, Bool.not_true, if_neg Bool.false_ne_true]
      exact exists_writeAndSealPacket_iff hnumber random

/-- The limit on tracked packets is none of the errors of packing. -/
theorem packHandshakeRetransmission_untracked (p : PacketPacker) (packet : Packet) (pth : Path κ)
    (now : Int) (random : Option UInt16) :
    FailsOnly (· ≠ .tooManyTrackedSentPackets)
      (p.packHandshakeRetransmission false packet pth now random) := by
  rw [packHandshakeRetransmission]
  split_ifs
  · simp
  · simp
  · dsimp only
    split
    · simp
    · unfold writeAndSealPacket
      refine ((PublicHeader.write_fromWire ..).imp fun _ h => h.2.2).bind fun _ _ => ?_
      refine (FailsOnly.mapM fun f _ => (f.write_fromWire _ _).imp fun _ h => h.2.2).bind
        fun _ _ => ?_
      dsimp only
      split
      · simp
      · split <;> simp

end PacketPacker

/-! ## Sending a handshake packet again -/

namespace Session
variable {κ : Type} [SendAlgorithm κ] {s s' : Session κ} {packet : Packet}
  {pth : Path κ} {env : Env}
open PacketPacker

/-- The packet has been sealed once more, for the path, and is in the history of the path if it
has frames to retransmit. -/
def Resent (s s' : Session κ) (pathID : Nat) (packet : Packet) : Prop :=
  ∃ n pth', s'.packer.sealLog = s.packer.sealLog ++ [⟨packet.encryptionLevel, pathID, n⟩] ∧
    s'.paths.lookup pathID = some pth' ∧
    (stripNonRetransmittableFrames packet.frames = [] ∨
      ∃ p ∈ pth'.sentPacketHandler.packetHistory, p.packetNumber = n ∧
        p.encryptionLevel = packet.encryptionLevel ∧
        p.frames = stripNonRetransmittableFrames packet.frames)

/-- What it takes to send a handshake packet again on a path: the key of its level, a STOP_WAITING
frame of this path that fits into the packet, and a number above those sent. -/
structure CanResend (s : Session κ) (packet : Packet) (pth : Path κ) (now : Int) : Prop where
  key : s.packer.cryptoSetup.hasSealer packet.encryptionLevel = true
  stopWaiting : ∃ swf ∈ (pth.getStopWaitingFrame true).2, s.packer.FitsAgain swf packet pth now
  number : pth.sentPacketHandler.lastSentPacketNumber < pth.packetNumberGenerator.next

instance {now : Int} : Decidable (s.CanResend packet pth now) :=
  decidable_of_iff (_ ∧ _ ∧ _)
    ⟨fun h => ⟨h.1, h.2.1, h.2.2⟩, fun h => ⟨h.key, h.stopWaiting, h.number⟩⟩

/-- A handler refuses a packet because it tracks too many, or because its number is not above the
last one. -/
theorem sendPackedPacket_outcome (s : Session κ) (packer : PacketPacker) (packed : PackedPacket)
    (env : Env) :
    ((s.sendPackedPacket packer pth packed env).2 = some .tooManyTrackedSentPackets ∨
      (s.sendPackedPacket packer pth packed env).2 = none) ↔
    pth.sentPacketHandler.lastSentPacketNumber < packed.number := by
  rw [sendPackedPacket]
  split
  · next e herr =>
    rw [SentPacketHandler.sentPacket] at herr
    split_ifs at herr with hle
    · cases herr
      simpa using hle
    · cases herr
      simpa using hle
  · next handler hsent =>
    simpa using (SentPacketHandler.sends_of_sentPacket hsent).increasing

/-- A handshake packet that has been packed again is sent. -/
theorem retransmitHandshakePacket_eq {packer : PacketPacker} {pth' : Path κ} {sent : PackedPacket}
    (hpack : (s.packer.setStopWaiting pth.pathID
      (pth.getStopWaitingFrame true).2).packHandshakeRetransmission s.handshakeComplete packet
        (pth.getStopWaitingFrame true).1 env.now (env.randomFor (pth.getStopWaitingFrame true).1) =
      .ok (packer, pth', sent)) :
    ∃ s₁, s.retransmitHandshakePacket packet pth env = sendPackedPacket s₁ packer pth' sent env :=
  ⟨_, congrArg (orElseKeep _ · _) hpack⟩

/-- **On a given path** a handshake packet is sent again, up to the limit on tracked packets,
exactly if all that it takes is there. -/
theorem retransmitHandshakePacket_resends_iff (pth : Path κ) (env : Env)
    (hlevel : packet.encryptionLevel ≠ .forwardSecure) (hcomplete : s.handshakeComplete = false) :
    ((s.retransmitHandshakePacket packet pth env).2 = some .tooManyTrackedSentPackets ∨
      (s.retransmitHandshakePacket packet pth env).2 = none ∧
        s.Resent (s.retransmitHandshakePacket packet pth env).1 pth.pathID packet) ↔
    s.CanResend packet pth env.now := by
  set p := s.packer.setStopWaiting pth.pathID (pth.getStopWaitingFrame true).2 with hp
  set random := env.randomFor (pth.getStopWaitingFrame true).1
  have hpacks := exists_packHandshakeRetransmission_iff p (pth.getStopWaitingFrame true).1 env.now
    hlevel random
  -- the frame of the path is queued before the packet is packed
  have hstop : p.stopWaiting (pth.getStopWaitingFrame true).1.pathID =
      (pth.getStopWaitingFrame true).2 := Function.update_self ..
  rw [hstop] at hpacks
  cases hpack : p.packHandshakeRetransmission false packet (pth.getStopWaitingFrame true).1
      env.now random with
  | error e =>
    have hne := (packHandshakeRetransmission_untracked p packet (pth.getStopWaitingFrame true).1
      env.now random).error e hpack
    rw [hpack] at hpacks
    rw [← hcomplete] at hpack
    have heq : (s.retransmitHandshakePacket packet pth env).2 = some e :=
      congrArg (fun packing => (orElseKeep _ packing _).2) hpack
    rw [heq]
    refine iff_of_false (by simpa using hne) fun h => ?_
    obtain ⟨_, hok⟩ := hpacks.mpr ⟨h.key, h.stopWaiting⟩
    cases hok
  | ok r =>
    obtain ⟨packer, pth', sent⟩ := r
    obtain ⟨hkey, hfits⟩ := hpacks.mp ⟨_, hpack⟩
    have hsealed := Call.ran (run_packHandshakeRetransmission hpack)
    rw [← hcomplete] at hpack
    obtain ⟨s₁, heq⟩ := retransmitHandshakePacket_eq hpack
    rw [heq]
    cases hsealed with
    | packHandshakeRetransmission _ _ _ hsealed =>
    cases hsealed with
    | mk length =>
    constructor
    · intro hsent
      exact ⟨hkey, hfits, (sendPackedPacket_outcome ..).mp (hsent.imp_right And.left)⟩
    · intro hcan
      refine ((sendPackedPacket_outcome ..).mpr hcan.number).imp_right fun hnone => ⟨hnone, ?_⟩
      obtain ⟨pth', hpth', hsent⟩ := sendPackedPacket_hasSent hnone
      refine ⟨pth.packetNumberGenerator.next, pth', ?_, hpth', hsent.imp_right ?_⟩
      · rw [packer_sendPackedPacket]
        rfl
      · rintro ⟨p', hmem, hframes, hnumber, hlevel, -⟩
        exact ⟨p', hmem, hnumber, hlevel, hframes⟩

/-- The handshake packet that `getRetransmission` takes from a queue is resent in the round, on the
path that is selected, unless the handler of the path tracks too many packets. -/
def ResendsHandshakePacket (s : Session κ) (windowUpdateFrames : List WindowUpdateFrame)
    (sch : Scheduler) (d : Draws) (env : Env) : Prop :=
  ∀ packet, (s.getRetransmission env).retransmitPacket = some packet →
    ∃ pathID, (s.getRetransmission env).session.selectPath sch d
        (s.getRetransmission env).retransmission env = .ok (some pathID) ∧
      ((s.sendRound windowUpdateFrames sch d env).1.2 = some .tooManyTrackedSentPackets ∨
        (s.sendRound windowUpdateFrames sch d env).1.2 = none ∧
          s.Resent (s.sendRound windowUpdateFrames sch d env).1.1 pathID packet)

/-- For the handshake packet that `getRetransmission` takes from a queue a path is selected on
which it can be sent again. -/
def SelectsForHandshakePacket (s : Session κ) (sch : Scheduler) (d : Draws) (env : Env) : Prop :=
  ∀ packet, (s.getRetransmission env).retransmitPacket = some packet →
    ∃ pathID pth, (s.getRetransmission env).session.selectPath sch d
        (s.getRetransmission env).retransmission env = .ok (some pathID) ∧
      (s.getRetransmission env).session.paths.lookup pathID = some pth ∧
      (s.getRetransmission env).session.CanResend packet pth env.now

/-- **In a round** the handshake packet from a queue is resent exactly if a path is selected on
which it can be. -/
theorem sendRound_resends_iff (hkeyed : s.WellKeyed) (windowUpdateFrames : List WindowUpdateFrame)
    (sch : Scheduler) (d : Draws) (env : Env) :
    s.ResendsHandshakePacket windowUpdateFrames sch d env ↔
      s.SelectsForHandshakePacket sch d env := by
  refine forall₂_congr fun packet hpacket => ?_
  obtain ⟨hgot, hfrom⟩ := getRetransmission_retransmits s env
  obtain ⟨-, hcomplete, hlevel, -⟩ := hfrom packet hpacket
  have hgotKeyed : (s.getRetransmission env).session.WellKeyed :=
    (getRetransmissionLoop_reaches (K := Act.Sends) (fun _ ha => ha.sends) env _
      (.refl hkeyed)).wellKeyed
  have hlog : (s.getRetransmission env).session.packer.sealLog = s.packer.sealLog :=
    congrArg (·.2.2.2.2.2.2.1) hgot.packer
  rw [sendRound]
  generalize s.getRetransmission env = got at *
  refine exists_congr fun pathID => ?_
  rw [exists_and_left]
  refine and_congr_right fun hselect => ?_
  rw [hselect, sendSelected, hpacket]
  cases hpth : got.session.paths.lookup pathID with
  | none => simp
  | some pth =>
    have hresends := retransmitHandshakePacket_resends_iff pth env hlevel
      (hgot.handshakeComplete.trans hcomplete)
    rw [hgotKeyed.pathID _ _ hpth] at hresends
    simpa [Resent, hlog] using hresends

end Session

namespace Connection
variable {κ : Type} [SendAlgorithm κ]
open Session

theorem Reachable.wellKeyed {c : Connection κ} (h : c.Reachable) : c.session.WellKeyed := by
  refine Machine.Reach.invariant (P := fun c => c.session.WellKeyed) h ?_ ?_
  · exact fun c hinit => hinit.wellKeyed
  · rintro c e _ hkeyed - ⟨henabled, rfl⟩
    exact (c.apply_reaches hkeyed henabled).wellKeyed

/-- **Handshake packets are sent again** in a round of `sendPacket`, in every reachable state, with
any paths and by any scheduler, exactly if a path is selected that has what it takes: the key, a
STOP_WAITING frame with which the packet fits, and a new number. -/
theorem handshake_packets_resent_iff {c : Connection κ} (h : c.Reachable) (sch : Scheduler)
    (d : Draws) (env : Env) :
    c.session.ResendsHandshakePacket (c.sending.getD []) sch d env ↔
      c.session.SelectsForHandshakePacket sch d env :=
  sendRound_resends_iff (Reachable.wellKeyed h) _ sch d env

/-- The first packet of the peer on another path. -/
def openSecondPath : Event FixedWindow := receiveFrames 1 1 [7] 2

/-- The crypto stream has data, which is sent. -/
def sendHandshake : List (Event FixedWindow) :=
  [.write 1 [1], .startSending { now := 3 }, sendLowestRTT 3, sendLowestRTT 3]

/-- A late alarm declares the packets of a path lost. -/
def loseOnPath (pathID : Nat) : List (Event FixedWindow) :=
  [.alarm pathID { now := 10000000000 }, .startSending { now := 10000000000 }]

/-- A packet of the handshake that a second path has sent and lost is sent on that path again. -/
theorem handshake_packets_resent_second_path :
    ∃ c : Connection FixedWindow, ∃ env : Env, c.Reachable ∧ c.session.paths.keys.length = 2 ∧
      (c.session.getRetransmission env).retransmitPacket.isSome = true ∧
      c.session.ResendsHandshakePacket (c.sending.getD []) { schedulerName := .rtt }
        { float64 := 0 } env := by
  set env : Env := { now := 10000000000 }
  set c := (openSecondPath :: (sendHandshake ++ sendLowestRTT 3 :: loseOnPath 1)).foldl apply
    (sample .server)
  have hreach : Reachable c := by
    refine reach_foldl (.init (initial_sample .server)) (by decide +kernel) ?_ fun _ _ _ => trivial
    simp [openSecondPath, receiveFrames, sendHandshake, loseOnPath, sendLowestRTT, Event.env,
      Env.Valid]
  set got := c.session.getRetransmission env
  have hselect : got.session.selectPath { schedulerName := .rtt } { float64 := 0 }
      got.retransmission env = .ok (some 1) := by decide +kernel
  have hcan : ∀ packet ∈ got.retransmitPacket, ∃ pth ∈ got.session.paths.lookup 1,
      got.session.CanResend packet pth env.now := by decide +kernel
  refine ⟨c, env, hreach, by decide +kernel, by decide +kernel,
    (handshake_packets_resent_iff hreach _ _ _).mpr fun packet hpacket => ?_⟩
  obtain ⟨pth, hpth, hresend⟩ := hcan packet hpacket
  exact ⟨1, pth, hselect, hpth, hresend⟩

/-- The peer has opened a second path, on which nothing has been acknowledged or lost. -/
theorem handshake_packet_without_stop_waiting :
    ∃ c : Connection FixedWindow, c.Reachable ∧ c.Running ∧ c.session.handshakeComplete = false ∧
      c.sending.isSome = true ∧
      (c.session.getRetransmission { now := 10000000000 }).retransmitPacket.isSome = true ∧
      (c.session.sendRound (c.sending.getD []) { schedulerName := .rtt } { float64 := 0 }
        { now := 10000000000 }).1.2 = some .handshakeRetransmissionWithoutStopWaiting ∧
      ¬c.session.ResendsHandshakePacket (c.sending.getD []) { schedulerName := .rtt }
        { float64 := 0 } { now := 10000000000 } := by
  set c := (sendHandshake ++ openSecondPath :: loseOnPath 0).foldl apply (sample .server) with hc
  have hreach : Reachable c := by
    refine reach_foldl (.init (initial_sample .server)) (by decide +kernel) ?_ fun _ _ _ => trivial
    simp [openSecondPath, receiveFrames, sendHandshake, loseOnPath, sendLowestRTT, Event.env,
      Env.Valid]
  have hpacket : (c.session.getRetransmission { now := 10000000000 }).retransmitPacket.isSome =
      true := by decide +kernel
  have herr : (c.session.sendRound (c.sending.getD []) { schedulerName := .rtt } { float64 := 0 }
      { now := 10000000000 }).1.2 = some .handshakeRetransmissionWithoutStopWaiting := by
    decide +kernel
  refine ⟨c, hreach, ⟨by decide +kernel, by decide +kernel⟩, by decide +kernel, by decide +kernel,
    hpacket, herr, fun hresends => ?_⟩
  clear_value c
  obtain ⟨packet, hsome⟩ := Option.isSome_iff_exists.mp hpacket
  obtain ⟨_, -, htracked | ⟨hnone, -⟩⟩ := hresends packet hsome
  · rw [herr] at htracked
    cases htracked
  · rw [herr] at hnone
    cases hnone

end Connection
end MpQuic
