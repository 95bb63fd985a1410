import MpQuic.NilPointers
import MpQuic.Nonces
import MpQuic.PacketSizes
import MpQuic.QueuedFrames

/-!
# Nil packets

`ackRemainingPaths` sends what `PackPacket` gives it without asking whether there is a
packet.  It has just queued a window update, which always fits, so a packet is
composed; but a PING that is first in the queue goes alone, and if a STOP_WAITING
frame is queued for the path, a single frame is taken for that one and there is no
packet.  Without PINGs, neither among the control frames nor in the packets that wait
for their retransmission, and without further paths, this does not happen.
-/
namespace MpQuic
open Systems Outcome List

/-! ## Packing -/

namespace PacketPacker
variable {κ : Type} {p p' : PacketPacker} {pth : Path κ} {hc : Bool} {random : Option UInt16}

/-- The packer of a session: its keys are for the session's side, and their AEADs add at most 16
bytes. -/
structure Standard (p : PacketPacker) : Prop where
  overhead : ∀ encLevel, p.cryptoSetup.overhead encLevel ≤ 16
  perspective : p.cryptoSetup.perspective = p.perspective

theorem Standard.of_config (h : p.Standard) (hconfig : p'.config = p.config) : p'.Standard := by
  simp only [config, Prod.mk.injEq] at hconfig
  obtain ⟨hside, hkeys, hoverhead⟩ := hconfig
  refine ⟨?_, ?_⟩
  · rw [hoverhead]
    exact h.overhead
  · rw [hside, hkeys]
    exact h.perspective

variable {q : List ControlFrame} {frame : ControlFrame}
  {r : PacketPacker × Path κ × Option PackedPacket} {frames : List (Frame FrameRef)}

/-- A short frame that is queued last fits behind the STOP_WAITING and ACK frames of a path. -/
theorem not_lastTooLong (h : p.Standard) {len headerLen : Nat}
    (hqueue : p.controlFrames = q ++ [frame]) (hlen : (Frame.ofControl frame).minLength = .ok len)
    (hshort : (p.ackFrame pth.pathID).elim 0 AckFrame.minLength + len ≤ 1307)
    (hheader : (p.getPublicHeader hc p.cryptoSetup.getSealer pth).getLength p.perspective =
      .ok headerLen) :
    ¬(p.numbered hc pth).LastTooLong (maxPacketSize -
      (p.numbered hc pth).cryptoSetup.overhead p.cryptoSetup.getSealer - headerLen) pth.pathID := by
  intro hlast
  obtain ⟨_, hle, hok⟩ := p.getPublicHeader_getLength hc p.cryptoSetup.getSealer pth
    (getSealer_level p h.perspective)
  obtain rfl := Except.ok.inj (hok.symm.trans hheader)
  obtain ⟨head, hhead, -⟩ :=
    headFrames_length fun f hf => (p.numbered_packetNumberLen hc pth f hf).1
  have hlong := hlast frame (by rw [Option.mem_def]; exact hqueue ▸ getLast?_concat) len hlen
    head _ hhead
  have hheadLength := p.numbered_headLength_le hc pth
  have hoverhead : (p.numbered hc pth).cryptoSetup.overhead p.cryptoSetup.getSealer ≤ 16 :=
    h.overhead _
  rw [maxPacketSize] at hlong
  omega

/-- There is a packet as soon as a short frame is queued last, unless a PING is first. -/
theorem Packing.nil (h : Packing p hc pth random r) (hstandard : p.Standard) {len : Nat}
    (hqueue : p.controlFrames = q ++ [frame]) (hlen : (Frame.ofControl frame).minLength = .ok len)
    (hshort : len ≤ 100) (hnil : r.2.2 = none) : p.controlFrames.head? = some .ping := by
  cases h with
  | crypto | data => cases hnil
  | @nothing framer _ _ _ _ _ hheader hpayload hnone =>
    cases hpayload with
    | ping hping => exact congrArg head? hping
    | composed _ h =>
      obtain ⟨taken, rest, htakes, hlast⟩ := h.takes
      obtain ⟨htaken, hack⟩ := htakes.eq_nil hnone
      have hack : p.ackFrame pth.pathID = none := hack
      have hp : ({ p with streamFramer := framer } : PacketPacker).Standard :=
        ⟨hstandard.overhead, hstandard.perspective⟩
      refine absurd (hlast htaken) (not_lastTooLong hp hqueue hlen ?_ hheader)
      rw [hack, Option.elim_none]
      omega

/-- The control frames that are queued after a packet are those there were and BLOCKED frames. -/
def OnlyBlocks (p p' : PacketPacker) : Prop :=
  ∀ f ∈ p'.controlFrames, f ∈ p.controlFrames ∨ ∃ b, f = .blocked b

theorem Takes.onlyBlocks {pathID : Nat} {taken rest : List ControlFrame}
    (h : Takes p p' pathID frames taken rest) : OnlyBlocks p p' := by
  intro f hf
  obtain ⟨blocked, hblocked⟩ := h.controls
  rw [hblocked] at hf
  rcases mem_append.mp hf with hf | hf
  · exact .inl (h.splits ▸ mem_append_left _ hf)
  · obtain ⟨b, -, rfl⟩ := mem_map.mp hf
    exact .inr ⟨b, rfl⟩

theorem Payload.onlyBlocks {encLevel : EncryptionLevel} {headerLength pathID : Nat}
    (h : Payload p encLevel headerLength pathID p' frames) : OnlyBlocks p p' := by
  cases h with
  | ping hping => exact fun f hf => .inl (hping ▸ mem_cons_of_mem _ hf)
  | composed _ h =>
    obtain ⟨taken, rest, htakes, -⟩ := h.takes
    exact htakes.onlyBlocks

theorem Packing.onlyBlocks (h : Packing p hc pth random r) : OnlyBlocks p r.1 := by
  cases h with
  | crypto _ _ hsealed =>
    cases hsealed
    exact fun f => .inl
  | nothing _ _ hpayload => exact hpayload.onlyBlocks
  | data _ _ hpayload _ hsealed =>
    cases hsealed
    exact hpayload.onlyBlocks

/-- A PING that is first is taken from the queue, even if it is not sent. -/
theorem Packing.controlFrames_nil (h : Packing p hc pth random r) (hnil : r.2.2 = none)
    {rest : List ControlFrame} (hping : p.controlFrames = .ping :: rest) :
    r.1.controlFrames = rest := by
  cases h with
  | crypto | data => cases hnil
  | nothing _ _ hpayload _ =>
    cases hpayload with
    | ping hping' => exact (cons.inj (hping'.symm.trans hping)).2
    | composed hfirst _ => exact absurd (congrArg head? hping) hfirst

/-- No PING is queued. -/
def PingFree (p : PacketPacker) : Prop := .ping ∉ p.controlFrames

instance (p : PacketPacker) : Decidable p.PingFree := inferInstanceAs (Decidable (¬_))

theorem PingFree.onlyBlocks (h : p.PingFree) (hblocks : OnlyBlocks p p') : p'.PingFree := by
  intro hping
  rcases hblocks _ hping with hmem | ⟨b, hb⟩
  · exact h hmem
  · cases hb

/-- A PING behind other frames is sent; alone, it is taken from the queue in any case. -/
theorem Packing.last_ping (h : Packing (p.queueControlFrame .ping pth.pathID) hc pth random r)
    (hstandard : p.Standard) (hfree : p.PingFree) (hnil : r.2.2 = none) : r.1.PingFree := by
  have hqueue : (p.queueControlFrame .ping pth.pathID).controlFrames = p.controlFrames ++ [.ping] :=
    rfl
  have hfirst := h.nil ⟨hstandard.overhead, hstandard.perspective⟩ hqueue rfl (by decide) hnil
  rw [hqueue] at hfirst
  have hempty : p.controlFrames = [] := by
    cases hq : p.controlFrames with
    | nil => rfl
    | cons f q =>
      obtain rfl : f = .ping := by simpa [hq] using hfirst
      exact absurd (hq ▸ mem_cons_self) hfree
  have hrest := h.controlFrames_nil hnil (show _ = [Frame.ping] by
    rw [hqueue, hempty, nil_append])
  rw [PingFree, hrest]
  exact not_mem_nil

end PacketPacker

/-! ## The paths and the queue during a round -/

namespace Session
variable {κ : Type} {s : Session κ}
open PacketPacker

/-- The session has no path but the initial one. -/
def OnlyInitial (s : Session κ) : Prop := ∀ id ∈ s.paths, id = initialPathID

variable {id : Nat} {pth : Path κ} {s' : Session κ}

theorem mem_paths_of_lookup (h : s.paths.lookup id = some pth) : id ∈ s.paths :=
  AList.lookup_isSome.mp (by rw [h]; rfl)

theorem OnlyInitial.insert {pth pth' : Path κ} (h : s.OnlyInitial)
    (hpth : s.paths.lookup id = some pth) (hpaths : s'.paths = s.paths.insert id pth') :
    s'.OnlyInitial := by
  intro id' hid'
  rw [hpaths, AList.mem_insert] at hid'
  rcases hid' with rfl | hid'
  · exact h _ (mem_paths_of_lookup hpth)
  · exact h _ hid'

theorem queueControlFrame_pingFree (h : s.packer.PingFree) {frame : ControlFrame}
    (hframe : frame ≠ .ping) (pathID : Nat) :
    (s.queueControlFrame frame pathID).packer.PingFree := by
  have happend : .ping ∉ s.packer.controlFrames ++ [frame] := by
    rw [mem_append, mem_singleton]
    rintro (hmem | hping)
    · exact h hmem
    · exact hframe hping.symm
  cases frame with
  | ack | stopWaiting => exact h
  | _ => exact happend

/-- The window updates are the last frames of the queue. -/
theorem controlFrames_queueWindowUpdates (s : Session κ) (frames : List WindowUpdateFrame)
    (pathID : Nat) : (s.queueWindowUpdates frames pathID).packer.controlFrames =
      s.packer.controlFrames ++ frames.map .windowUpdate := by
  induction frames generalizing s with
  | nil => exact (append_nil _).symm
  | cons f frames ih =>
    have hrest := ih (s.queueControlFrame (.windowUpdate f) pathID)
    rw [map_cons, append_cons]
    exact hrest

theorem queueWindowUpdates_pingFree (h : s.packer.PingFree) (frames : List WindowUpdateFrame)
    (pathID : Nat) : (s.queueWindowUpdates frames pathID).packer.PingFree := by
  rw [PingFree, controlFrames_queueWindowUpdates, mem_append]
  rintro (hmem | hmem)
  · exact h hmem
  · obtain ⟨f, -, hf⟩ := mem_map.mp hmem
    cases hf

theorem controlFrames_queueStopWaiting (s : Session κ) (pth : Path κ) (force : Bool) :
    (s.queueStopWaiting pth force).1.packer.controlFrames = s.packer.controlFrames := by
  rw [queueStopWaiting]
  dsimp only
  split
  · rfl
  · rfl

theorem controlFrames_queueAck (s : Session κ) (pth : Path κ) (ack : Option AckFrame)
    (hasStreamRetransmission : Bool) :
    (s.queueAck pth ack hasStreamRetransmission).1.packer.controlFrames =
      s.packer.controlFrames := by
  cases ack with
  | none =>
    simp only [queueAck, Option.isSome_none, Bool.false_or]
    split_ifs
    · exact controlFrames_queueStopWaiting ..
    · rfl
  | some ack =>
    simp only [queueAck, Option.isSome_some, Bool.true_or, if_true]
    exact controlFrames_queueStopWaiting ..

theorem config_queueWindowUpdates (s : Session κ) (frames : List WindowUpdateFrame) (pathID : Nat) :
    (s.queueWindowUpdates frames pathID).packer.config = s.packer.config :=
  foldlRecOn frames _ (motive := fun s' : Session κ => s'.packer.config = s.packer.config) rfl
    fun _ h _ _ => h

theorem config_queueStopWaiting (s : Session κ) (pth : Path κ) (force : Bool) :
    (s.queueStopWaiting pth force).1.packer.config = s.packer.config := by
  rw [queueStopWaiting]
  dsimp only
  split
  · rfl
  · rfl

theorem queueFramerFrames_pingFree (h : s.packer.PingFree) :
    s.queueFramerFrames.packer.PingFree := by
  intro hping
  rcases mem_append.mp hping with hmem | hmem
  · exact h hmem
  · simp at hmem

/-- No PING is queued or waits for its retransmission. -/
structure NoPings (s : Session κ) : Prop where
  queue : s.packer.PingFree
  packets : ∀ id pth, s.paths.lookup id = some pth →
    ∀ packet ∈ pth.sentPacketHandler.retransmissionQueue,
      packet.encryptionLevel = .forwardSecure → .ping ∉ packet.frames

theorem noPings_of_nothing_queued (hfree : s.packer.PingFree)
    (hqueues : ∀ e ∈ s.paths.entries, e.2.sentPacketHandler.retransmissionQueue.isEmpty = true) :
    s.NoPings := by
  refine ⟨hfree, fun id pth hpth packet hpacket => ?_⟩
  have hempty := isEmpty_iff.mp (hqueues _ (of_mem_dlookup hpth))
  rw [hempty] at hpacket
  cases hpacket

theorem requeueFrame_pingFree (h : s.packer.PingFree) {frame : Frame FrameRef}
    (hframe : frame ≠ .ping) (pathID : Nat) (env : Env) :
    (requeueFrame pathID env s frame).packer.PingFree := by
  rw [requeueFrame]
  split
  · exact h
  · split
    · exact h
    · split_ifs
      · exact queueControlFrame_pingFree h (by rintro ⟨⟩) pathID
      · exact h
  · exact h
  · next f hsplit =>
    refine queueControlFrame_pingFree h ?_ pathID
    rintro rfl
    cases frame <;> cases hsplit
    exact hframe rfl

theorem NoPings.dequeue (h : s.NoPings) {pathID id : Nat} {packet : Packet}
    (hdequeue : s.dequeueFrom pathID = some (s', id, packet)) :
    s'.NoPings ∧ (packet.encryptionLevel = .forwardSecure → .ping ∉ packet.frames) := by
  obtain ⟨-, pth, rest, hpth, hqueue, rfl⟩ := dequeueFrom_eq hdequeue
  have hpackets := h.packets pathID pth hpth
  rw [hqueue] at hpackets
  refine ⟨⟨h.queue, forall_lookup_insert ?_ h.packets⟩, hpackets packet mem_cons_self⟩
  exact fun packet' hpacket' => hpackets packet' (mem_cons_of_mem _ hpacket')

theorem getRetransmissionLoop_noPings (env : Env) (n : Nat) {r : Dequeued κ}
    (h : r.session.NoPings) : (getRetransmissionLoop env n r).session.NoPings := by
  induction n generalizing r with
  | zero => exact h
  | succ n ih =>
    rw [getRetransmissionLoop]
    split
    · exact h
    · next s' pathID packet hfound =>
      obtain ⟨id, -, hdequeue⟩ := exists_of_findSome?_eq_some hfound
      obtain ⟨hs', hpacket⟩ := h.dequeue hdequeue
      split_ifs with hlevel hcomplete
      · exact ih hs'
      · exact hs'
      · refine ih ⟨?_, ?_⟩
        · refine foldlRecOn _ _ (motive := fun s : Session κ => s.packer.PingFree) hs'.queue ?_
          intro s'' hs'' frame hframe
          refine requeueFrame_pingFree hs'' ?_ pathID env
          rintro rfl
          exact hpacket (not_not.mp hlevel) (mem_filter.mp hframe).1
        · dsimp only
          rw [paths_foldl_requeueFrame]
          exact hs'.packets

/-! ## A round -/

/-- The errors other than the use of a packet that is nil. -/
def Packed (e : Err) : Prop := e ≠ .panic .nilPacket

theorem stopsWith_packed {r : Outcome (Session κ) Err} (h : StopsWith (Explains False) r) :
    StopsWith (fun _ => Packed) r :=
  h.imp fun _ _ he hnil => he.nilPacket hnil

variable [SendAlgorithm κ] {s₀ : Session κ}

theorem packer_sendPackedPacket (s : Session κ) (packer : PacketPacker) (pth : Path κ)
    (packet : PackedPacket) (env : Env) :
    (s.sendPackedPacket packer pth packet env).1.packer = packer := by
  rw [sendPackedPacket]
  split
  · rfl
  · rfl

theorem sendAck_pingFree (h : s.packer.PingFree) (pth : Path κ) (ack : Option AckFrame)
    (env : Env) : (s.sendAck pth ack env).1.packer.PingFree := by
  have hset : (s.packer.setAckFrame pth.pathID ack).PingFree := h
  cases ack with
  | some ack =>
    refine state_orElseKeep (P := fun s' : Session κ => s'.packer.PingFree) hset ?_
    rintro ⟨packer, pth', packet⟩ hpack
    rw [packer_sendPackedPacket]
    cases Call.ran (run_packAckPacket hpack) with
    | packAckPacket _ hsealed =>
      cases hsealed
      exact h
  | none =>
    refine state_orElseKeep (P := fun s' : Session κ => s'.packer.PingFree) hset ?_
    rintro ⟨packer, pth', _ | packet⟩ hpack
    · exact hset
    · dsimp only
      rw [packer_sendPackedPacket]
      exact hset.onlyBlocks (packing_of_packPacket hpack).onlyBlocks

theorem ackPath_pingFree (h : s.packer.PingFree) (windowUpdateFrames : List WindowUpdateFrame)
    (env : Env) (pathID : Nat) : (ackPath windowUpdateFrames env pathID s).1.packer.PingFree := by
  rw [ackPath]
  split
  · exact h
  · refine state_orElseKeep (P := fun s' : Session κ => s'.packer.PingFree) h ?_
    rintro ⟨pth, ack⟩ -
    have hset : (s.setPath pathID pth).packer.PingFree := h
    have hqueued := queueWindowUpdates_pingFree hset windowUpdateFrames pathID
    dsimp only
    split_ifs
    · exact hqueued
    · refine sendAck_pingFree ?_ _ ack env
      rw [PingFree, controlFrames_queueStopWaiting]
      exact hqueued

/-- The packets of `ackRemainingPaths` for another path start with a window update. -/
theorem ackPath_not_nil (hstandard : s.packer.Standard)
    (hquiet : s.OnlyInitial ∨ s.packer.PingFree) (windowUpdateFrames : List WindowUpdateFrame)
    (env : Env) (pathID : Nat) :
    StopsWith (Explains False) (ackPath windowUpdateFrames env pathID s) := by
  rw [ackPath]
  split
  · exact stopsWith_ok _
  next pth hpth =>
  refine stopsWith_orElseKeep ((getAckFrame_fails ..).imp fun e => explains_of_ofLookup) ?_
  rintro ⟨pth', ack⟩ -
  dsimp only
  split_ifs with hskip
  · exact stopsWith_ok _
  refine sendAck_explained ?_
  rintro rfl r hnone hpack
  have hother : ¬(windowUpdateFrames = [] ∨ pathID = initialPathID) := fun h => hskip ⟨rfl, h⟩
  obtain ⟨hframes, hid⟩ := not_or.mp hother
  have hfree : s.packer.PingFree :=
    hquiet.resolve_left fun honly => hid (honly pathID (mem_paths_of_lookup hpth))
  have hqueued : ((s.setPath pathID pth').queueWindowUpdates windowUpdateFrames
      pathID).packer.PingFree :=
    queueWindowUpdates_pingFree (s := s.setPath pathID pth') hfree windowUpdateFrames pathID
  obtain ⟨front, last, rfl⟩ : ∃ front last, windowUpdateFrames = front ++ [last] :=
    ⟨_, _, (dropLast_append_getLast hframes).symm⟩
  have hcontrols := controlFrames_queueWindowUpdates (s.setPath pathID pth')
      (front ++ [last]) pathID
  have hconfig := config_queueWindowUpdates (s.setPath pathID pth') (front ++ [last]) pathID
  generalize (s.setPath pathID pth').queueWindowUpdates (front ++ [last]) pathID = s₁ at *
  rw [← controlFrames_queueStopWaiting s₁ pth' false] at hcontrols
  rw [PingFree, ← controlFrames_queueStopWaiting s₁ pth' false] at hqueued
  rw [← config_queueStopWaiting s₁ pth' false] at hconfig
  generalize s₁.queueStopWaiting pth' false = q at *
  have hset : (q.1.packer.setAckFrame q.2.pathID none).Standard := hstandard.of_config hconfig
  rw [map_append, ← append_assoc] at hcontrols
  have hfirst := (packing_of_packPacket hpack).nil hset hcontrols rfl (by decide) hnone
  exact hqueued (mem_of_mem_head? hfirst)

theorem standard_of_reaches (h : s₀.packer.Standard) {K : Act κ → Prop}
    (hreaches : Reaches K s₀ s) :
    s.packer.Standard := by
  refine hreaches.keeps (P := fun s => s.packer.Standard) ?_ h
  intro s a s' _ hs _ hdoes
  exact hs.of_config hdoes.packerConfig

theorem OnlyInitial.reaches (h : s₀.OnlyInitial) (hreaches : Reaches Act.Sends s₀ s) :
    s.OnlyInitial := by
  refine hreaches.keeps (P := OnlyInitial) ?_ h
  intro s a s' _ hs hsends hdoes
  cases hdoes.pathsChange with
  | same hpaths =>
    rw [OnlyInitial, hpaths]
    exact hs
  | creates _ hact =>
    rcases hact with ⟨rfl, -⟩ | ⟨rfl, -⟩
    · cases hsends
    · cases hsends
  | changes hpth hpaths => exact hs.insert hpth hpaths
  | seals hpth hpaths => exact hs.insert hpth hpaths

/-- A session that a round has come to without queueing a PING, or that has one path only. -/
structure Sending (s₀ s : Session κ) : Prop where
  reaches : Reaches Act.Sends s₀ s
  quiet : s₀.OnlyInitial ∨ s.packer.PingFree

theorem ackPath_sending (hstandard : s₀.packer.Standard) (h : Sending s₀ s)
    (windowUpdateFrames : List WindowUpdateFrame) (env : Env) (pathID : Nat) :
    Holds (Sending s₀) Packed (ackPath windowUpdateFrames env pathID s) := by
  have hquiet : s.OnlyInitial ∨ s.packer.PingFree :=
    h.quiet.imp_left fun honly => honly.reaches h.reaches
  have hnil := stopsWith_packed
    (ackPath_not_nil (standard_of_reaches hstandard h.reaches) hquiet windowUpdateFrames env pathID)
  refine ⟨⟨ackPath_reaches (fun _ ha => ha) h.reaches windowUpdateFrames env pathID, ?_⟩,
    hnil.error⟩
  exact h.quiet.imp_right fun hfree => ackPath_pingFree hfree windowUpdateFrames env pathID

theorem getWindowUpdateFrames_sending (h : Sending s₀ s) (force : Bool) (env : Env) :
    Sending s₀ (s.getWindowUpdateFrames force env).1 :=
  ⟨getWindowUpdateFrames_reaches (fun _ _ _ _ _ => .windowUpdates ..) h.reaches force env, h.quiet⟩

theorem ackRemainingPaths_packed (hstandard : s₀.packer.Standard) (h : Sending s₀ s)
    (totalWindowUpdateFrames : List WindowUpdateFrame) (env : Env) :
    StopsWith (fun _ => Packed) (s.ackRemainingPaths totalWindowUpdateFrames env) := by
  have hloop (frames : List WindowUpdateFrame) (s : Session κ) (h : Sending s₀ s) :
      StopsWith (fun _ => Packed)
        ((forEach (ackPath frames env) (env.order 2 s.paths.keys) s).andThen
        fun s => ({ s with peerBlocked := false }, none)) := by
    refine StopsWith.andThen ⟨?_⟩ fun s => stopsWith_ok _
    exact (holds_forEach (fun pathID _ s hs => ackPath_sending hstandard hs frames env pathID) h).2
  cases totalWindowUpdateFrames with
  | nil => exact hloop _ _ (getWindowUpdateFrames_sending h s.peerBlocked env)
  | cons f fs => exact hloop _ _ h

/-- If there was nothing to send, a PING the path needed is not left in the queue. -/
theorem performPacketSending_pingFree (hstandard : s.packer.Standard) (h : s.packer.PingFree)
    (windowUpdateFrames : List WindowUpdateFrame) (pth : Path κ) (env : Env) :
    (s.performPacketSending windowUpdateFrames pth env).2 = none →
      (s.performPacketSending windowUpdateFrames pth env).1.2 = none →
        (s.performPacketSending windowUpdateFrames pth env).1.1.packer.PingFree := by
  have hping : Yields (fun r => r.2.2 = none → r.1.PingFree)
      ((if pth.sentPacketHandler.shouldSendRetransmittablePacket then
        s.queueControlFrame .ping pth.pathID else s).packer.packPacket
          s.handshakeComplete pth env.now
          (env.randomFor pth)) := by
    refine ⟨fun r hr hnil => ?_⟩
    have hpacking := packing_of_packPacket hr
    split_ifs at hpacking
    · exact hpacking.last_ping hstandard h hnil
    · exact h.onlyBlocks hpacking.onlyBlocks
  have hsame : (if pth.sentPacketHandler.shouldSendRetransmittablePacket then
      s.queueControlFrame .ping pth.pathID else s).handshakeComplete = s.handshakeComplete := by
    split_ifs
    · rfl
    · rfl
  rw [performPacketSending]
  rw [← hsame] at hping
  split
  · intro _ h
    cases h
  · next packer pth' hpack => exact fun _ _ => hping.value _ hpack rfl
  · intro h
    cases h

/-- Sending on a path uses no nil packet, neither its own nor one with the ACK of another path. -/
theorem sendOn_packed (hstandard : s₀.packer.Standard) (h : Sending s₀ s)
    (hpth : s.paths.lookup pth.pathID = some pth) (windowUpdateFrames : List WindowUpdateFrame)
    (r : Retransmission) (env : Env) :
    StopsWith (fun _ => Packed) (s.sendOn windowUpdateFrames r pth env).1 := by
  rw [sendOn]
  split
  · next e he =>
    have hexplained : Explains False s e :=
      explains_of_ofLookup ((getAckFrame_fails ..).error e he)
    exact stopsWith_packed (stopsWith_error hexplained)
  next pth' ack hack =>
  have hqueued := queueAck_reaches (fun _ ha => ha) h.reaches hpth
      (getAckFrame_sameSender hack) ack
    r.hasStreamRetransmission
  have hcontrols := controlFrames_queueAck s pth' ack r.hasStreamRetransmission
  generalize s.queueAck pth' ack r.hasStreamRetransmission = q at hqueued hcontrols
  obtain ⟨s₁, pth₁⟩ := q
  have hframes : Reaches Act.Sends s₀ s₁.queueFramerFrames :=
    hqueued.reaches.act .queueFramerFrames (.queueFramerFrames s₁)
  have hreaches := (performPacketSending_reaches (fun _ ha => ha) hframes hqueued.lookup
    windowUpdateFrames env).1
  have hfree (hs : s.packer.PingFree) : s₁.queueFramerFrames.packer.PingFree := by
    refine queueFramerFrames_pingFree ?_
    rw [PingFree, hcontrols]
    exact hs
  have hnothing (hs : s.packer.PingFree) := performPacketSending_pingFree
    (standard_of_reaches hstandard hframes) (hfree hs) windowUpdateFrames pth₁ env
  have hsent : StopsWith (fun _ => Packed)
      (s₁.queueFramerFrames.performPacketSending windowUpdateFrames pth₁ env).1 :=
    stopsWith_packed (performPacketSending_explained ..)
  dsimp only
  generalize s₁.queueFramerFrames.performPacketSending windowUpdateFrames pth₁ env = sent at *
  obtain ⟨⟨s₂, _ | e⟩, _ | pkt⟩ := sent
  · have hsending : Sending s₀ s₂ :=
      ⟨hreaches, h.quiet.imp_right fun hs => hnothing hs rfl rfl⟩
    exact ackRemainingPaths_packed hstandard hsending [] env
  · exact stopsWith_packed (pingIfFailed_explained ..)
  · exact hsent
  · exact hsent

/-- No packet of a round is nil that starts without PINGs, or with the initial path only. -/
theorem sendRound_packed (hkeyed : s.WellKeyed) (hstandard : s.packer.Standard)
    (hquiet : s.OnlyInitial ∨ s.NoPings) (windowUpdateFrames : List WindowUpdateFrame)
    (sch : Scheduler) (d : Draws) (env : Env) :
    StopsWith (fun _ => Packed) (s.sendRound windowUpdateFrames sch d env).1 := by
  have hgot : Sending s (s.getRetransmission env).session := by
    refine ⟨getRetransmissionLoop_reaches (fun _ ha => ha.sends) env _ (.refl hkeyed), ?_⟩
    exact hquiet.imp_right fun hs => (getRetransmissionLoop_noPings env _ hs).queue
  rw [sendRound]
  generalize s.getRetransmission env = got at hgot
  have hselect : FailsOnly Err.OfLookup (got.session.selectPath sch d got.retransmission env) :=
    selectPath_fails sch d
  generalize got.session.selectPath sch d got.retransmission env = selected at hselect
  rcases selected with e | _ | pathID
  · have hexplained : Explains False got.session e :=
      explains_of_ofLookup ((failsOnly_error e).mp hselect)
    exact stopsWith_packed (stopsWith_error hexplained)
  · exact ackRemainingPaths_packed hstandard (getWindowUpdateFrames_sending hgot false env) _ env
  · rw [sendSelected]
    split
    · exact stopsWith_error fun h => by cases h
    · exact stopsWith_packed (retransmitHandshakePacket_explained ..)
    · next pth hpth _ =>
      obtain rfl := hgot.reaches.wellKeyed.pathID _ _ hpth
      exact sendOn_packed hstandard hgot hpth windowUpdateFrames _ env

end Session

/-! ## Runs -/

namespace Connection
variable {κ : Type} [SendAlgorithm κ]
open Session

/-- The rounds of sending start without PINGs, or with the initial path only. -/
def SendsNoPings (c : Connection κ) : Event κ → Prop
  | .sendRound .. => c.session.OnlyInitial ∨ c.session.NoPings
  | _ => True

theorem Initial.standard {c : Connection κ} (h : Initial c) : c.session.packer.Standard := by
  cases h with
  | new _ _ _ _ _ _ _ hoverhead => exact ⟨hoverhead, rfl⟩

/-- **No packet that is sent is nil** in the runs in which no PING is queued when a session with
several paths sends. -/
theorem no_nil_packets {c : Connection κ} (h : (machine κ).Reach SendsNoPings c) :
    c.error ≠ some (.panic .nilPacket) := by
  refine (h.invariant (P := fun c => (c.session.WellKeyed ∧ c.session.packer.Standard) ∧
    c.error ≠ some (.panic .nilPacket)) ?_ ?_).2
  · intro c hinit
    refine ⟨⟨hinit.wellKeyed, hinit.standard⟩, ?_⟩
    cases hinit with
    | new => exact nofun
  · rintro c e _ ⟨⟨hkeyed, hstandard⟩, herror⟩ hquiet ⟨henabled, rfl⟩
    have hreaches := c.apply_reaches hkeyed henabled
    refine ⟨⟨hreaches.wellKeyed, standard_of_reaches hstandard hreaches⟩, ?_⟩
    by_cases hround : ∃ sch d env, e = .sendRound sch d env
    · obtain ⟨sch, d, env, rfl⟩ := hround
      intro hnil
      exact (sendRound_packed hkeyed hstandard hquiet _ sch d env).error _ hnil rfl
    · have hnot (sch : Scheduler) (d : Draws) (env : Env) (he : e = .sendRound sch d env) : False :=
        hround ⟨sch, d, env, he⟩
      rcases c.apply_explained hnot with hsame | hexplained
      · rw [hsame]
        exact herror
      · intro hnil
        exact (hexplained _ hnil).nilPacket rfl

/-! ## Clients with three paths -/

/-- The client opens the paths 1 and 3 and sends a byte on one of them. -/
def sendOnThreePaths : List (Event FixedWindow) :=
  openPaths ++ [.openStream, .write 3 [1], .startSending { now := 2 }, sendLowestRTT 3]

theorem no_nil_packets_sendOnThreePaths :
    ∃ c : Connection FixedWindow, (machine FixedWindow).Reach SendsNoPings c ∧
      c.session.paths.keys.length = 3 ∧ c.session.packer.sealLog.length = 3 ∧
      c.error ≠ some (.panic .nilPacket) := by
  have henv : ∀ e ∈ sendOnThreePaths, ∀ env ∈ e.env, env.Valid := by
    simp [sendOnThreePaths, openPaths, sendLowestRTT, Event.env, Env.Valid]
  have hreach : (machine FixedWindow).Reach SendsNoPings
      (sendOnThreePaths.foldl apply (sample .client)) := by
    refine Machine.Reach.foldl_of_mem (P := fun c e => c.ready e = true ∧
      c.session.packer.PingFree ∧ ∀ e ∈ c.session.paths.entries,
        e.2.sentPacketHandler.retransmissionQueue.isEmpty = true)
      (.init (initial_sample .client)) ?_ (by decide +kernel)
    rintro c e he ⟨hready, hfree, hqueues⟩
    refine ⟨?_, enabled_of_ready hready (henv e he), rfl⟩
    cases e with
    | sendRound sch d env => exact .inr (noPings_of_nothing_queued hfree hqueues)
    | _ => trivial
  exact ⟨_, hreach, by decide +kernel, by decide +kernel, no_nil_packets hreach⟩

/-- A packet on path 1 with an ACK for the PING on that path and a BLOCKED frame. -/
def ackedAndBlocked : ReceivedPacket where
  pathID := 1
  packetNumber := 1
  packetNumberLen := 1
  localAddr := sampleAddr 3 443
  remoteAddr := sampleAddr 2 443
  rcvTime := 10
  opened := some ([0x50, 1, 1, 0, 0, 1, 0, 0x05, 0, 0, 0, 0], .forwardSecure)

/-- The packet arrives, and the client keeps its connection alive with a PING for every path. -/
def keepPathsAlive : List (Event FixedWindow) :=
  openPaths ++ [.receive ackedAndBlocked { now := 10 }, .keepAlive, .startSending { now := 11 },
    sendLowestRTT 12]

/-- The first PING is taken for the STOP_WAITING frame that path 1 owes, and is not sent.  Then
window updates are sent for all paths, and on path 1 the next PING is in their way. -/
theorem keep_alive_sends_nil_packet :
    ∃ c : Connection FixedWindow, c.Reachable ∧ c.error = some (.panic .nilPacket) := by
  have henv : ∀ e ∈ keepPathsAlive, ∀ env ∈ e.env, env.Valid := by
    simp [keepPathsAlive, openPaths, sendLowestRTT, Event.env, Env.Valid]
  have hreach : Reachable (keepPathsAlive.foldl apply (sample .client)) :=
    reach_foldl (.init (initial_sample .client)) (by decide +kernel) henv fun _ _ _ => trivial
  exact ⟨_, hreach, by decide +kernel⟩

end Connection
end MpQuic
