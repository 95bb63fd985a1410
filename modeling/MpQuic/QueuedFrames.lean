import MpQuic.PackerCalls

/-!
# Queued control frames

The packer has one queue of control frames for all paths and, for every path, room
for one ACK and one STOP_WAITING frame.  Each packet takes some of them.  A packet
of `composeNextPacket` starts with the STOP_WAITING and the ACK frame of its path, so
`PackPacket` may forget both afterwards.  A PING that is first in the queue goes
alone, but the other two are forgotten all the same; and if a STOP_WAITING frame is
queued, the packet with the PING is taken for one with nothing but that frame
and is not sent.
-/
namespace MpQuic
open Systems List Option

namespace PacketPacker
variable {κ : Type} {p p' : PacketPacker} {pth : Path κ} {hc : Bool} {random : Option UInt16}

/-- Every control frame that was queued, and the ACK and STOP_WAITING frames of a path, are among
the frames of the packet or still queued.  The packer may have numbered the STOP_WAITING
frame. -/
structure KeepsQueued (p p' : PacketPacker) (pathID : Nat) (frames : List (Frame FrameRef)) :
    Prop where
  controls : (p.controlFrames.map Frame.ofControl).Subperm
    (frames ++ p'.controlFrames.map Frame.ofControl)
  ack : ∀ f, p.ackFrame pathID = some f → .ack f ∈ frames ∨ p'.ackFrame pathID = some f
  stopWaiting : ∀ f, p.stopWaiting pathID = some f → ∃ packetNumber packetNumberLen,
    .stopWaiting { f with packetNumber, packetNumberLen } ∈ frames ∨
      p'.stopWaiting pathID = some { f with packetNumber, packetNumberLen }

/-- The ACK and STOP_WAITING frames of a path, in the order in which a packet starts with them. -/
def head (p : PacketPacker) (pathID : Nat) : List (Frame FrameRef) :=
  ((p.stopWaiting pathID).map Frame.stopWaiting).toList ++
    ((p.ackFrame pathID).map Frame.ack).toList

/-- Control frames are taken from the front, and at least one if it fits. -/
theorem popControlFrames_splits (maxFrameSize : Nat) (frames : List ControlFrame) (n : Nat) :
    Yields (fun (rest, taken, _) => frames = taken ++ rest ∧
        (taken = [] → ∀ f ∈ frames.head?, ∀ len, (Frame.ofControl f).minLength = .ok len →
          maxFrameSize < n + len))
      (popControlFrames maxFrameSize frames n) := by
  fun_induction popControlFrames maxFrameSize frames n with
  | case1 => simp
  | case2 frame rest n ih =>
    refine Yields.bind (Q := fun len => (Frame.ofControl frame).minLength = .ok len) ⟨fun _ => id⟩
      fun len hlen => ?_
    split
    · next hfull =>
      refine (yields_pure _).mpr ⟨rfl, fun _ f hf len' hlen' => ?_⟩
      obtain rfl : frame = f := by simpa using hf
      obtain rfl := Except.ok.inj (hlen.symm.trans hlen')
      exact hfull
    · refine (ih len).bind ?_
      rintro ⟨rest', taken, n'⟩ ⟨rfl, -⟩
      simp

theorem headFrames_head (p : PacketPacker) (pathID : Nat) :
    Yields (fun (head, _) => head.map Frame.ofControl = p.head pathID) (p.headFrames pathID) := by
  unfold headFrames stopWaitingFrames ackFrames PacketPacker.head
  refine Yields.bind (Q := fun r => r.1.map Frame.ofControl =
    ((p.stopWaiting pathID).map (Frame.stopWaiting (σ := FrameRef))).toList) ?_ ?_
  · split
    · next h => simp [h]
    · next f h =>
      rw [h]
      exact (yields_true _).bind (by simp [Frame.ofControl])
  · rintro ⟨stopWaiting, n⟩ hstop
    dsimp only at hstop ⊢
    cases p.ackFrame pathID <;> simp [hstop, Frame.ofControl]

/-- What `composeNextPacket` takes from the queues. -/
structure Takes (p p' : PacketPacker) (pathID : Nat) (frames : List (Frame FrameRef))
    (taken rest : List ControlFrame) : Prop where
  splits : p.controlFrames = rest ++ taken
  frames : ∃ streams, frames = p.head pathID ++ taken.reverse.map Frame.ofControl ++ streams
  controls : ∃ blocked : List BlockedFrame, p'.controlFrames = rest ++ blocked.map Frame.blocked
  ackFrame : p'.ackFrame = p.ackFrame
  stopWaiting : p'.stopWaiting = p.stopWaiting

/-- The last control frame queued does not fit into a packet of the path. -/
def LastTooLong (p : PacketPacker) (maxFrameSize pathID : Nat) : Prop :=
  ∀ f ∈ p.controlFrames.getLast?, ∀ len, (Frame.ofControl f).minLength = .ok len →
    ∀ head headLength, p.headFrames pathID = .ok (head, headLength) →
      maxFrameSize < headLength + len

variable {maxFrameSize pathID headerLength : Nat} {frames : List (Frame FrameRef)}
  {framer : StreamFramer} {p'' : PacketPacker} {taken rest : List ControlFrame}
  {encLevel : EncryptionLevel}

theorem takes_of_popControlFrames {head rest taken : List ControlFrame}
    {headLength payloadLength : Nat} {streams : List (Frame FrameRef)}
    {blocked : List BlockedFrame} (hhead : p.headFrames pathID = .ok (head, headLength))
    (htaken : popControlFrames maxFrameSize p.controlFrames.reverse headLength =
      .ok (rest, taken, payloadLength))
    (hcontrols : p'.controlFrames = rest.reverse ++ blocked.map Frame.blocked)
    (hack : p'.ackFrame = p.ackFrame) (hstop : p'.stopWaiting = p.stopWaiting) :
    ∃ taken' rest', Takes p p' pathID ((head ++ taken).map Frame.ofControl ++ streams)
      taken' rest' ∧
      (taken' = [] → p.LastTooLong maxFrameSize pathID) := by
  obtain ⟨hsplit, hfull⟩ := (popControlFrames_splits ..).value _ htaken
  refine ⟨taken.reverse, rest.reverse, ⟨?_, ⟨streams, ?_⟩, ⟨blocked, hcontrols⟩, hack, hstop⟩, ?_⟩
  · rw [← reverse_append, ← hsplit, reverse_reverse]
  · rw [map_append, (headFrames_head p pathID).value _ hhead, reverse_reverse]
  · intro hnil f hf len hlen head' headLength' hhead'
    cases hhead.symm.trans hhead'
    rw [← head?_reverse] at hf
    exact hfull (reverse_eq_nil_iff.mp hnil) f hf len hlen

theorem Composed.takes {canSend : Bool} (h : Composed p maxFrameSize pathID canSend p' frames) :
    ∃ taken rest, Takes p p' pathID frames taken rest ∧
      (taken = [] → p.LastTooLong maxFrameSize pathID) := by
  cases h with
  | controls hhead htaken =>
    rw [← append_nil (map _ _)]
    exact takes_of_popControlFrames hhead htaken
      (show _ = _ ++ map Frame.blocked [] from (append_nil _).symm) rfl rfl
  | streams hhead htaken => exact takes_of_popControlFrames hhead htaken rfl rfl rfl

/-! ## Packets -/

/-- Queues that are the same have lost nothing. -/
theorem keepsQueued_of_eq (hcontrols : p'.controlFrames = p.controlFrames)
    (hack : p'.ackFrame = p.ackFrame) (hstop : p'.stopWaiting = p.stopWaiting) (pathID : Nat)
    (frames : List (Frame FrameRef)) : KeepsQueued p p' pathID frames := by
  refine ⟨?_, ?_, ?_⟩
  · rw [hcontrols]
    exact (sublist_append_right _ _).subperm
  · intro f hf
    exact .inr (by rw [hack, hf])
  · intro f hf
    exact ⟨f.packetNumber, f.packetNumberLen, .inr (by rw [hstop, hf])⟩

theorem stopWaiting_numberStopWaiting (p : PacketPacker) (ph : PublicHeader)
    {f : StopWaitingFrame} (hf : p.stopWaiting pathID = some f) :
    (p.numberStopWaiting ph pathID).stopWaiting pathID =
      some { f with packetNumber := ph.packetNumber, packetNumberLen := ph.packetNumberLen } := by
  simp [numberStopWaiting, setStopWaiting, hf]

/-- Numbering the STOP_WAITING frame of the path loses nothing. -/
theorem KeepsQueued.of_numbered
    (h : KeepsQueued (({ p with streamFramer := framer } : PacketPacker).numbered hc pth) p'
      pth.pathID frames) : KeepsQueued p p' pth.pathID frames := by
  refine ⟨h.controls, h.ack, ?_⟩
  intro f hf
  have hkept := h.stopWaiting _ (stopWaiting_numberStopWaiting _ _ hf)
  exact hkept

/-- The frames of a packet, if one is sent. -/
def sentFrames (packet : Option PackedPacket) : List (Frame FrameRef) :=
  packet.elim [] (·.frames)

section

variable (h : Takes p p' pathID frames taken rest)
include h

/-- A packet with all the frames taken may forget the ACK and STOP_WAITING frames of its path. -/
theorem Takes.keepsQueued (hcontrols : p''.controlFrames = p'.controlFrames) :
    KeepsQueued p p'' pathID frames := by
  obtain ⟨streams, rfl⟩ := h.frames
  obtain ⟨blocked, hblocked⟩ := h.controls
  refine ⟨?_, ?_, ?_⟩
  · rw [h.splits, hcontrols, hblocked, map_append, map_append, map_reverse]
    have hperm : (rest.map (Frame.ofControl (σ := FrameRef)) ++ taken.map Frame.ofControl).Perm
        ((taken.map Frame.ofControl).reverse ++ rest.map Frame.ofControl) :=
      perm_append_comm.trans (List.Perm.append_right _ (reverse_perm _).symm)
    refine hperm.subperm.trans (List.Sublist.subperm ?_)
    refine List.Sublist.append ?_ (sublist_append_left _ _)
    exact (sublist_append_right _ _).trans (sublist_append_left _ _)
  · intro f hf
    exact .inl (by simp [PacketPacker.head, hf])
  · intro f hf
    exact ⟨f.packetNumber, f.packetNumberLen, .inl (by simp [PacketPacker.head, hf])⟩

/-- A packet that is not sent has taken nothing from the queue, and has no ACK frame. -/
theorem Takes.eq_nil
    (hnone : frames.length = 0 ∨ frames.length = 1 ∧ (p'.stopWaiting pathID).isSome) :
    taken = [] ∧ p.ackFrame pathID = none := by
  have hack (hlen : ((p.ackFrame pathID).map (Frame.ack (σ := FrameRef))).toList.length = 0) :
      p.ackFrame pathID = none := by
    cases hf : p.ackFrame pathID with
    | none => rfl
    | some f => simp [hf] at hlen
  obtain ⟨streams, rfl⟩ := h.frames
  rcases hnone with hlen | ⟨hlen, hsome⟩
  · simp only [PacketPacker.head, length_append, length_map, length_reverse] at hlen
    exact ⟨length_eq_zero_iff.mp (by omega), hack (by omega)⟩
  · rw [h.stopWaiting] at hsome
    obtain ⟨f, hf⟩ := isSome_iff_exists.mp hsome
    simp only [PacketPacker.head, hf, map_some, toList_some, length_append,
      length_map, length_reverse, length_singleton] at hlen
    exact ⟨length_eq_zero_iff.mp (by omega), hack (by omega)⟩

theorem Takes.sameQueues
    (hnone : frames.length = 0 ∨ frames.length = 1 ∧ (p'.stopWaiting pathID).isSome) :
    KeepsQueued p p' pathID [] := by
  obtain ⟨htaken, -⟩ := h.eq_nil hnone
  obtain ⟨blocked, hblocked⟩ := h.controls
  refine ⟨?_, ?_, ?_⟩
  · rw [h.splits, htaken, hblocked, append_nil, nil_append, map_append]
    exact (sublist_append_left _ _).subperm
  · intro f hf
    exact .inr (by rw [h.ackFrame, hf])
  · intro f hf
    exact ⟨f.packetNumber, f.packetNumberLen, .inr (by rw [h.stopWaiting, hf])⟩

end

/-- A PING is first in the queue, and an ACK or STOP_WAITING frame is queued for the path. -/
def PingFirst (p : PacketPacker) (pathID : Nat) : Prop :=
  p.controlFrames.head? = some .ping ∧
    ((p.stopWaiting pathID).isSome ∨ (p.ackFrame pathID).isSome)

instance (p : PacketPacker) (pathID : Nat) : Decidable (p.PingFirst pathID) :=
  inferInstanceAs (Decidable (_ ∧ _))

/-- `HasCryptoStreamFrame`. -/
def hasCryptoData (p : PacketPacker) : Bool :=
  match p.streamFramer.hasCryptoStreamFrame with
  | .error _ => false
  | .ok (_, _, hasCrypto) => hasCrypto

theorem isSome_stopWaiting_numbered (p : PacketPacker) (hc : Bool) (pth : Path κ) :
    ((p.numbered hc pth).stopWaiting pth.pathID).isSome = (p.stopWaiting pth.pathID).isSome := by
  simp [numbered, numberStopWaiting, setStopWaiting]

/-- A PING that goes alone. -/
theorem keepsQueued_ping_iff (hping : p.controlFrames = .ping :: rest)
    (hrest : p'.controlFrames = rest) (hack : p'.ackFrame pathID = none)
    (hstop : p.stopWaiting pathID = none) :
    KeepsQueued p p' pathID [.ping] ↔ ¬ p.PingFirst pathID := by
  by_cases hnone : p.ackFrame pathID = none
  · refine iff_of_true ⟨?_, fun f hf => ?_, fun f hf => ?_⟩ ?_
    · rw [hping, hrest]
      exact List.Subperm.refl _
    · cases hnone.symm.trans hf
    · cases hstop.symm.trans hf
    · rintro ⟨-, hsome | hsome⟩
      · simp [hstop] at hsome
      · simp [hnone] at hsome
  · have hdrops : p.PingFirst pathID :=
      ⟨by rw [hping]; rfl, .inr (isSome_iff_ne_none.mpr hnone)⟩
    refine iff_of_false ?_ (not_not.mpr hdrops)
    intro hkeeps
    obtain ⟨f, hf⟩ := ne_none_iff_exists'.mp hnone
    rcases hkeeps.ack f hf with hmem | hkept
    · simp at hmem
    · simp [hack] at hkept

section

variable (h : Payload (({ p with streamFramer := framer } : PacketPacker).numbered hc pth)
  encLevel headerLength pth.pathID p' frames)
include h

/-- The frames of a packet that is not sent are lost if a PING has been taken for the STOP_WAITING
frame. -/
theorem Payload.keepsQueued_nothing_iff
    (hnone : frames.length = 0 ∨ frames.length = 1 ∧ (p'.stopWaiting pth.pathID).isSome) :
    KeepsQueued p p' pth.pathID [] ↔ ¬ p.PingFirst pth.pathID := by
  cases h with
  | @ping rest hping =>
    have hping : p.controlFrames = .ping :: rest := hping
    have hsome := (hnone.resolve_left Nat.one_ne_zero).2
    rw [isSome_stopWaiting_numbered] at hsome
    refine iff_of_false (fun hkeeps => ?_) (not_not.mpr ⟨by rw [hping]; rfl, .inl hsome⟩)
    have hlen := hkeeps.controls.length_le
    simp only [hping, nil_append, length_map, length_cons] at hlen
    omega
  | composed hfirst h =>
    obtain ⟨taken, rest, htakes, -⟩ := h.takes
    exact iff_of_true (htakes.sameQueues hnone).of_numbered fun hdrops => hfirst hdrops.1

theorem Payload.keepsQueued_iff
    (hsome : ¬(frames.length = 0 ∨ frames.length = 1 ∧ (p'.stopWaiting pth.pathID).isSome))
    (hcontrols : p''.controlFrames = p'.controlFrames) (hack : p''.ackFrame pth.pathID = none) :
    KeepsQueued p p'' pth.pathID frames ↔ ¬ p.PingFirst pth.pathID := by
  cases h with
  | @ping rest hping =>
    refine keepsQueued_ping_iff (p := p) hping hcontrols hack ?_
    by_contra hstop
    refine hsome (.inr ⟨rfl, ?_⟩)
    exact (isSome_stopWaiting_numbered _ hc pth).trans (isSome_iff_ne_none.mpr hstop)
  | composed hfirst h =>
    obtain ⟨taken, rest, htakes, -⟩ := h.takes
    exact iff_of_true (htakes.keepsQueued hcontrols).of_numbered fun hdrops => hfirst hdrops.1

end

theorem Packing.keepsQueued_iff {r : PacketPacker × Path κ × Option PackedPacket}
    (h : Packing p hc pth random r) :
    KeepsQueued p r.1 pth.pathID (sentFrames r.2.2) ↔
      ¬ (p.hasCryptoData = false ∧ p.PingFirst pth.pathID) := by
  rw [hasCryptoData]
  cases h with
  | crypto maxLen hcrypto hsealed =>
    cases hsealed
    rw [hcrypto]
    exact iff_of_true (keepsQueued_of_eq (by rfl) (by rfl) (by rfl) ..)
      (fun h => Bool.noConfusion h.1)
  | nothing hcrypto _ hpayload hnone =>
    rw [hcrypto, and_iff_right rfl]
    exact hpayload.keepsQueued_nothing_iff hnone
  | data hcrypto _ hpayload hsome hsealed =>
    rw [hcrypto, and_iff_right rfl]
    cases hsealed
    exact hpayload.keepsQueued_iff hsome rfl (Function.update_self ..)

/-! ## The packer's interface -/

/-- The packer with the frame that is queued by the call itself. -/
def Call.queue : Call → PacketPacker → PacketPacker
  | .packPing, p => { p with controlFrames := .ping :: p.controlFrames }
  | _, p => p

/-- The calls that pack a PING alone while an ACK or STOP_WAITING frame is queued for the path. -/
def Call.Drops (call : Call) (p : PacketPacker) (pathID : Nat) : Prop :=
  match call with
  | .packPacket | .packPing => p.hasCryptoData = false ∧ (call.queue p).PingFirst pathID
  | _ => False

/-- **A call loses no queued frame exactly if** it does not come to pack a PING alone while an
ACK or STOP_WAITING frame is queued for the path. -/
theorem queued_frames_kept_iff (call : Call) (p : PacketPacker) (hc : Bool) (pth : Path κ)
    (now : Int) (random : Option UInt16) (r : PacketPacker × Path κ × Option PackedPacket)
    (hr : call.run p hc pth now random = .ok r) :
    KeepsQueued (call.queue p) r.1 pth.pathID (sentFrames r.2.2) ↔ ¬ call.Drops p pth.pathID := by
  cases Call.ran hr with
  | packPacket h => exact h.keepsQueued_iff
  | packPing h => exact h.keepsQueued_iff
  | @packAckPacket ack _ _ _ hack h =>
    cases h
    refine iff_of_true ⟨(sublist_append_right _ _).subperm, fun f hf => ?_, fun f hf => ?_⟩ id
    · cases hack.symm.trans hf
      exact .inl mem_cons_self
    · have hnumbered : (p.numbered hc pth).stopWaiting pth.pathID = some _ :=
        stopWaiting_numberStopWaiting p _ hf
      rw [sentFrames, elim_some, hnumbered]
      exact ⟨_, _, .inl (mem_cons_of_mem _ mem_cons_self)⟩
  | packHandshakeRetransmission _ _ hswf h =>
    cases h
    refine iff_of_true ⟨(sublist_append_right _ _).subperm, fun f => .inr, fun f hf => ?_⟩ id
    rw [stopWaiting_numberStopWaiting p _ hf, some.injEq] at hswf
    rw [sentFrames, elim_some, ← hswf]
    exact ⟨_, _, .inl mem_cons_self⟩
  | packConnectionClose h =>
    cases h
    exact iff_of_true (keepsQueued_of_eq (by rfl) (by rfl) (by rfl) ..) id

/-- A path that has sent nothing. -/
def freshPath : Path FixedWindow :=
  .setup initialPathID { ip := [10, 0, 0, 1], port := 443 } { ip := [10, 0, 0, 2], port := 443 }
    versionMP ⟨10000⟩ 0

/-- A packer with an ACK of packet 1 queued and, if asked for, a STOP_WAITING frame. -/
def queuedPacker (controlFrames : List ControlFrame) (stopWaiting : Bool) : PacketPacker :=
  { connectionID := 1
    perspective := .server
    version := versionMP
    cryptoSetup := { perspective := .server }
    streamFramer :=
      { streamsMap := (StreamsMap.new .server).putStream (.new 1)
        flowControlManager := .new (.new 0 0 0)
        connectionParameters := .new 0 0 0 }
    controlFrames
    stopWaiting := fun _ => if stopWaiting then some { leastUnacked := 1 } else none
    ackFrame := fun _ => some
      { pathID := 0, largestAcked := 1, lowestAcked := 1, ackRanges := [], packetReceivedTime := 0,
        delayTime := 0 } }

/-- All queued frames are sent if the PING is not the first. -/
theorem queued_frames_kept_blocked :
    ∃ r, Call.packPacket.run (queuedPacker [.blocked ⟨5⟩, .ping] true) false freshPath 0 none =
        .ok r ∧
      KeepsQueued (queuedPacker [.blocked ⟨5⟩, .ping] true) r.1 0 (sentFrames r.2.2) := by
  have hok : (Call.packPacket.run (queuedPacker [.blocked ⟨5⟩, .ping] true) false freshPath 0
      none).isOk = true := by decide +kernel
  rcases hr : Call.packPacket.run (queuedPacker [.blocked ⟨5⟩, .ping] true) false freshPath 0
      none with e | r
  · rw [hr] at hok
    exact absurd hok (by simp [Except.isOk, Except.toBool])
  · refine ⟨r, rfl, (queued_frames_kept_iff .packPacket _ false freshPath 0 none r hr).mpr ?_⟩
    rintro ⟨-, hping, -⟩
    exact absurd hping (by decide +kernel)

/-- A PING that is first is sent alone and the ACK is forgotten; with a STOP_WAITING frame
queued, nothing is sent and the PING is forgotten. -/
theorem ping_drops_queued_frames :
    ((Call.packPacket.run (queuedPacker [.ping] false) false freshPath 0 none).toOption.map
        fun r => (sentFrames r.2.2, r.1.ackFrame 0)) = some ([.ping], none) ∧
      ((Call.packPacket.run (queuedPacker [.ping] true) false freshPath 0 none).toOption.map
        fun r => (sentFrames r.2.2, r.1.controlFrames)) = some ([], []) := by
  decide +kernel

end PacketPacker
end MpQuic
