import MpQuic.Lib.Outcome
import MpQuic.PacketPacker

/-!
# What a call of the packer can do

The functions of the packer end in `writeAndSealPacket`, if there is anything to send.
`Call.Ran` lists the ways in which a call comes to its result, with the packer, the path
and the packet it leaves, so that what a packet does is said once per way.
-/
namespace MpQuic
open Systems

namespace CryptoSetup

theorem hasSealer_getSealer (c : CryptoSetup) : c.hasSealer c.getSealer = true := by
  rw [getSealer]
  by_cases hforward : c.forwardSecureAEAD = true
  · rw [if_pos hforward]
    exact hforward
  · rw [if_neg hforward]
    by_cases hsecure : c.secureAEAD = true
    · cases c.perspective with
      | client =>
        rw [if_pos hsecure]
        exact hsecure
      | server => rfl
    · cases c.perspective with
      | client =>
        rw [if_neg hsecure]
        rfl
      | server => rfl

theorem hasSealer_getSealerForCryptoStream (c : CryptoSetup) :
    c.hasSealer c.getSealerForCryptoStream = true := by
  rw [getSealerForCryptoStream]
  cases c.perspective with
  | client => rfl
  | server =>
    by_cases hsecure : c.secureAEAD = true
    · dsimp only
      rw [if_pos hsecure]
      exact hsecure
    · dsimp only
      rw [if_neg hsecure]
      rfl

end CryptoSetup

theorem StreamFramer.hasCryptoStreamFrame_eq {f framer : StreamFramer} {cs : Stream}
    {hasCrypto : Bool} (h : f.hasCryptoStreamFrame = .ok (framer, cs, hasCrypto)) :
    framer = (f.getOrOpenStream 1).1 ∧ framer.streamsMap.streams.lookup 1 = some cs := by
  rw [hasCryptoStreamFrame] at h
  generalize f.getOrOpenStream 1 = opened at h ⊢
  obtain ⟨framer', err⟩ := opened
  dsimp only at h ⊢
  split at h
  · cases h
  · next cs' hcs =>
    cases h
    exact ⟨rfl, hcs⟩

namespace PacketPacker
variable {κ : Type} {p p' : PacketPacker} {pth pth' : Path κ} {hc : Bool} {now : Int}
  {random : Option UInt16}

theorem getPublicHeader_packetNumber (p : PacketPacker) (hc : Bool) (encLevel : EncryptionLevel)
    (pth : Path κ) :
    (p.getPublicHeader hc encLevel pth).packetNumber = pth.packetNumberGenerator.next := by
  rw [getPublicHeader]
  split_ifs <;> rfl

theorem getPublicHeader_packetNumberLen (p : PacketPacker) (hc : Bool) (encLevel : EncryptionLevel)
    (pth : Path κ) :
    (p.getPublicHeader hc encLevel pth).packetNumberLen =
      getPacketNumberLengthForPublicHeader pth.packetNumberGenerator.peek pth.leastUnacked := by
  rw [getPublicHeader]
  split_ifs <;> rfl

/-- The packer that `PackPacket` composes a packet with. -/
def numbered (p : PacketPacker) (handshakeComplete : Bool) (pth : Path κ) : PacketPacker :=
  p.numberStopWaiting (p.getPublicHeader handshakeComplete p.cryptoSetup.getSealer pth) pth.pathID

/-! ## Sealing -/

/-- What `writeAndSealPacket` returns for a header with the next number of the path. -/
inductive Sealed (p : PacketPacker) (pth : Path κ) (random : Option UInt16)
    (frames : List (Frame FrameRef)) (encLevel : EncryptionLevel) :
    PacketPacker × Path κ × PackedPacket → Prop
  | mk (length : Nat) : Sealed p pth random frames encLevel
      ({ p with sealLog := p.sealLog ++ [⟨encLevel, pth.pathID, pth.packetNumberGenerator.next⟩] },
        { pth with packetNumberGenerator := (pth.packetNumberGenerator.pop random).2 },
        { number := pth.packetNumberGenerator.next, length, frames, encryptionLevel := encLevel,
          written := frames.map p.streamFramer.heap.read })

variable {q : PacketPacker} {frames : List (Frame FrameRef)}
  {maxFrameSize pathID headerLength : Nat} {canSend : Bool} {encLevel : EncryptionLevel}
  {r : PacketPacker × Path κ × Option PackedPacket} {call : Call} {packet : PackedPacket}

theorem sealed_of_writeAndSealPacket {encLevel encLevel' : EncryptionLevel}
    {r : PacketPacker × Path κ × PackedPacket}
    (h : p.writeAndSealPacket (q.getPublicHeader hc encLevel' pth) frames encLevel pth now random =
      .ok r) : Sealed p pth random frames encLevel r := by
  rw [writeAndSealPacket] at h
  obtain ⟨header, -, h⟩ := bind_eq_ok h
  obtain ⟨payload, -, h⟩ := bind_eq_ok h
  dsimp only at h
  split at h
  · cases h
  split at h
  · cases h
  · rw [getPublicHeader_packetNumber] at h
    cases h
    exact .mk _

/-! ## Composing -/

/-- The two ways in which `composeNextPacket` comes to its frames. -/
inductive Composed (p : PacketPacker) (maxFrameSize pathID : Nat) :
    Bool → PacketPacker → List (Frame FrameRef) → Prop
  | controls {head rest taken : List ControlFrame} {headLength payloadLength : Nat}
      (hhead : p.headFrames pathID = .ok (head, headLength))
      (htaken : popControlFrames maxFrameSize p.controlFrames.reverse headLength =
        .ok (rest, taken, payloadLength)) :
      Composed p maxFrameSize pathID false { p with controlFrames := rest.reverse }
        ((head ++ taken).map Frame.ofControl)
  | streams {head rest taken : List ControlFrame} {headLength payloadLength : Nat}
      {framer : StreamFramer} {fs : List FrameRef}
      (hhead : p.headFrames pathID = .ok (head, headLength))
      (htaken : popControlFrames maxFrameSize p.controlFrames.reverse headLength =
        .ok (rest, taken, payloadLength))
      (hpop : p.streamFramer.popStreamFrames (maxFrameSize + 2 - payloadLength) =
        .ok (framer, fs)) :
      Composed p maxFrameSize pathID true
        { p with
          controlFrames := rest.reverse ++ framer.blockedFrameQueue.map Frame.blocked
          streamFramer :=
            { framer with heap := omitLength framer.heap fs.getLast?, blockedFrameQueue := [] } }
        ((head ++ taken).map Frame.ofControl ++ fs.map Frame.stream)

theorem composed_of_composeNextPacket
    (h : p.composeNextPacket maxFrameSize canSend pathID = .ok (p', frames)) :
    Composed p maxFrameSize pathID canSend p' frames := by
  rw [composeNextPacket] at h
  obtain ⟨⟨head, headLength⟩, hhead, h⟩ := bind_eq_ok h
  obtain ⟨⟨rest, taken, payloadLength⟩, htaken, h⟩ := bind_eq_ok h
  dsimp only at h
  split at h
  · cases h
  cases canSend with
  | false =>
    cases h
    exact .controls hhead htaken
  | true =>
    rw [if_pos rfl, popStreamFrames] at h
    obtain ⟨_, hpop, h⟩ := bind_eq_ok h
    obtain ⟨⟨framer, fs⟩, hpop', hfs⟩ := bind_eq_ok hpop
    cases hfs
    cases h
    exact .streams hhead htaken hpop'

/-- The frames of `PackPacket`: a PING that is first goes alone. -/
inductive Payload (p : PacketPacker) (encLevel : EncryptionLevel) (headerLength pathID : Nat) :
    PacketPacker → List (Frame FrameRef) → Prop
  | ping {rest : List ControlFrame} (hping : p.controlFrames = .ping :: rest) :
      Payload p encLevel headerLength pathID { p with controlFrames := rest } [.ping]
  | composed {p' : PacketPacker} {frames : List (Frame FrameRef)}
      (hfirst : p.controlFrames.head? ≠ some .ping)
      (h : Composed p (maxPacketSize - p.cryptoSetup.overhead encLevel - headerLength) pathID
        (p.canSendData encLevel) p' frames) :
      Payload p encLevel headerLength pathID p' frames

theorem payload_of_payloadFrames
    (h : p.payloadFrames encLevel headerLength pathID = .ok (p', frames)) :
    Payload p encLevel headerLength pathID p' frames := by
  rw [payloadFrames] at h
  split at h
  · next rest hping =>
    cases h
    exact .ping hping
  · next hnot =>
    refine .composed (fun hfirst => ?_) (composed_of_composeNextPacket h)
    exact hnot _ (List.eq_cons_of_mem_head? hfirst)

/-! ## Packing -/

/-- The ways of `PackPacket`: crypto data goes first, a packet without frames or with nothing but
a STOP_WAITING frame is not sent, and every other one forgets the STOP_WAITING and ACK frames. -/
inductive Packing (p : PacketPacker) (hc : Bool) (pth : Path κ) (random : Option UInt16) :
    PacketPacker × Path κ × Option PackedPacket → Prop
  | crypto {framer : StreamFramer} {cs : Stream} {p' : PacketPacker} {pth' : Path κ}
      {packet : PackedPacket} (maxLen : Nat)
      (hcrypto : p.streamFramer.hasCryptoStreamFrame = .ok (framer, cs, true))
      (hsealed : Sealed { p with streamFramer := (framer.popCryptoStreamFrame cs maxLen).1 } pth
        random
        [.stream (framer.popCryptoStreamFrame cs maxLen).2] p.cryptoSetup.getSealerForCryptoStream
        (p', pth', packet)) :
      Packing p hc pth random ({ p' with packed := p'.packed ++ [packet.written] }, pth',
        some packet)
  | nothing {framer : StreamFramer} {cs : Stream} {p' : PacketPacker} {headerLength : Nat}
      {frames : List (Frame FrameRef)}
      (hcrypto : p.streamFramer.hasCryptoStreamFrame = .ok (framer, cs, false))
      (hheader : (({ p with streamFramer := framer } : PacketPacker).getPublicHeader hc
        p.cryptoSetup.getSealer pth).getLength p.perspective = .ok headerLength)
      (hpayload : Payload (({ p with streamFramer := framer } : PacketPacker).numbered hc pth)
        p.cryptoSetup.getSealer headerLength pth.pathID p' frames)
      (hnone : frames.length = 0 ∨ frames.length = 1 ∧ (p'.stopWaiting pth.pathID).isSome) :
      Packing p hc pth random (p', pth, none)
  | data {framer : StreamFramer} {cs : Stream} {p₁ p' : PacketPacker} {pth' : Path κ}
      {headerLength : Nat} {frames : List (Frame FrameRef)} {packet : PackedPacket}
      (hcrypto : p.streamFramer.hasCryptoStreamFrame = .ok (framer, cs, false))
      (hheader : (({ p with streamFramer := framer } : PacketPacker).getPublicHeader hc
        p.cryptoSetup.getSealer pth).getLength p.perspective = .ok headerLength)
      (hpayload : Payload (({ p with streamFramer := framer } : PacketPacker).numbered hc pth)
        p.cryptoSetup.getSealer headerLength pth.pathID p₁ frames)
      (hsome : ¬(frames.length = 0 ∨ frames.length = 1 ∧ (p₁.stopWaiting pth.pathID).isSome))
      (hsealed : Sealed ((p₁.setStopWaiting pth.pathID none).setAckFrame pth.pathID none) pth random
        frames p.cryptoSetup.getSealer (p', pth', packet)) :
      Packing p hc pth random ({ p' with packed := p'.packed ++ [packet.written] }, pth',
        some packet)

theorem packing_of_packPacket (h : p.packPacket hc pth now random = .ok r) :
    Packing p hc pth random r := by
  rw [packPacket] at h
  obtain ⟨⟨framer, cs, hasCrypto⟩, hcrypto, h⟩ := bind_eq_ok h
  cases hasCrypto with
  | true =>
    obtain ⟨⟨p₁, pth₁, packet⟩, hpack, h⟩ := bind_eq_ok h
    rw [packCryptoPacket] at hpack
    obtain ⟨headerLength, -, hpack⟩ := bind_eq_ok hpack
    cases h
    exact .crypto _ hcrypto (sealed_of_writeAndSealPacket hpack)
  | false =>
    dsimp only at h
    rw [if_neg Bool.false_ne_true, packDataPacket] at h
    obtain ⟨headerLength, hheader, h⟩ := bind_eq_ok h
    obtain ⟨⟨p₁, frames⟩, hpayload, h⟩ := bind_eq_ok h
    dsimp only at h
    split at h
    · next hnone =>
      cases h
      exact .nothing hcrypto hheader (payload_of_payloadFrames hpayload) hnone
    · next hsome =>
      obtain ⟨⟨p₂, pth₂, packet⟩, hpack, h⟩ := bind_eq_ok h
      cases h
      exact .data hcrypto hheader (payload_of_payloadFrames hpayload) hsome
        (sealed_of_writeAndSealPacket hpack)

/-- **The ways in which a call of the packer comes to its result.** -/
inductive Call.Ran (p : PacketPacker) (hc : Bool) (pth : Path κ) (random : Option UInt16) :
    Call → PacketPacker × Path κ × Option PackedPacket → Prop
  | packPacket {r : PacketPacker × Path κ × Option PackedPacket} (h : Packing p hc pth random r) :
      Ran p hc pth random .packPacket r
  | packPing {r : PacketPacker × Path κ × Option PackedPacket}
      (h : Packing { p with controlFrames := .ping :: p.controlFrames } hc
        pth.setLeastUnacked random
        r) : Ran p hc pth random .packPing r
  | packAckPacket {ack : AckFrame} {p' : PacketPacker} {pth' : Path κ} {packet : PackedPacket}
      (hack : p.ackFrame pth.pathID = some ack)
      (h : Sealed (((p.numbered hc pth).setStopWaiting pth.pathID none).setAckFrame pth.pathID none)
        pth random (.ack ack ::
          (((p.numbered hc pth).stopWaiting pth.pathID).map Frame.stopWaiting).toList)
        p.cryptoSetup.getSealer (p', pth', packet)) :
      Ran p hc pth random .packAckPacket (p', pth', some packet)
  | packHandshakeRetransmission {packet : Packet} {swf : StopWaitingFrame} {p' : PacketPacker}
      {pth' : Path κ} {sent : PackedPacket} (hlevel : packet.encryptionLevel ≠ .forwardSecure)
      (hkey : p.cryptoSetup.hasSealer packet.encryptionLevel = true)
      (hswf : (p.numberStopWaiting (p.getPublicHeader hc packet.encryptionLevel pth)
        pth.pathID).stopWaiting pth.pathID = some swf)
      (h : Sealed (p.setStopWaiting pth.pathID none) pth random (.stopWaiting swf :: packet.frames)
        packet.encryptionLevel (p', pth', sent)) :
      Ran p hc pth random (.packHandshakeRetransmission packet) (p', pth', some sent)
  | packConnectionClose {ccf : ConnectionCloseFrame} {p' : PacketPacker} {pth' : Path κ}
      {packet : PackedPacket}
      (h : Sealed p pth random [.connectionClose ccf] p.cryptoSetup.getSealer (p', pth', packet)) :
      Ran p hc pth random (.packConnectionClose ccf) (p', pth', some packet)

theorem Call.ran (h : call.run p hc pth now random = .ok r) : call.Ran p hc pth random r := by
  cases call with
  | packPacket => exact .packPacket (packing_of_packPacket h)
  | packPing => exact .packPing (packing_of_packPacket h)
  | packAckPacket =>
    obtain ⟨⟨p', pth', packet⟩, hpack, h⟩ := bind_eq_ok ((map_eq_pure_bind _ _).symm.trans h)
    cases h
    rw [PacketPacker.packAckPacket] at hpack
    split at hpack
    · cases hpack
    · next ack hack => exact .packAckPacket hack (sealed_of_writeAndSealPacket hpack)
  | packHandshakeRetransmission packet =>
    obtain ⟨⟨p', pth', sent⟩, hpack, h⟩ := bind_eq_ok ((map_eq_pure_bind _ _).symm.trans h)
    cases h
    rw [PacketPacker.packHandshakeRetransmission] at hpack
    split_ifs at hpack with hlevel hkey
    dsimp only at hpack
    split at hpack
    · cases hpack
    · next swf hswf =>
      exact .packHandshakeRetransmission hlevel (by simpa using hkey) hswf
        (sealed_of_writeAndSealPacket hpack)
  | packConnectionClose ccf =>
    obtain ⟨⟨p', pth', packet⟩, hpack, h⟩ := bind_eq_ok ((map_eq_pure_bind _ _).symm.trans h)
    cases h
    exact .packConnectionClose (sealed_of_writeAndSealPacket hpack)

theorem run_packPing (h : p.packPing hc pth now random = .ok r) :
    Call.run .packPing p hc pth now random = .ok r := h

theorem run_packAckPacket (h : p.packAckPacket hc pth now random = .ok (p', pth', packet)) :
    Call.run .packAckPacket p hc pth now random = .ok (p', pth', some packet) := by
  rw [Call.run, h]
  rfl

theorem run_packHandshakeRetransmission {packet : Packet} {sent : PackedPacket}
    (h : p.packHandshakeRetransmission hc packet pth now random = .ok (p', pth', sent)) :
    Call.run (.packHandshakeRetransmission packet) p hc pth now random =
      .ok (p', pth', some sent) := by
  rw [Call.run, h]
  rfl

theorem run_packConnectionClose {ccf : ConnectionCloseFrame}
    (h : p.packConnectionClose hc ccf pth now random = .ok (p', pth', packet)) :
    Call.run (.packConnectionClose ccf) p hc pth now random = .ok (p', pth', some packet) := by
  rw [Call.run, h]
  rfl

/-! ## What a call seals -/

/-- Packing changes nothing of a path but its generator and `leastUnacked`. -/
structure OfPath (pth pth' : Path κ) : Prop where
  pathID : pth'.pathID = pth.pathID
  handler : pth'.sentPacketHandler = pth.sentPacketHandler
  isOpen : pth'.isOpen = pth.isOpen

/-- A packet sealed on a path. -/
structure Seals (p p' : PacketPacker) (pth pth' : Path κ) (packet : PackedPacket) : Prop where
  log : p'.sealLog = p.sealLog ++
    [⟨packet.encryptionLevel, pth.pathID, pth.packetNumberGenerator.next⟩]
  number : packet.number = pth.packetNumberGenerator.next
  generator : ∃ random, pth'.packetNumberGenerator = (pth.packetNumberGenerator.pop random).2
  pathID : pth'.pathID = pth.pathID
  handler : pth'.sentPacketHandler = pth.sentPacketHandler
  written : packet.written = packet.frames.map p'.streamFramer.heap.read

/-- What a call of the packer gives: nothing is sealed, or a packet with one of the keys. -/
structure Sealing (p : PacketPacker) (pth : Path κ)
    (r : PacketPacker × Path κ × Option PackedPacket) : Prop where
  perspective : r.1.perspective = p.perspective
  cryptoSetup : r.1.cryptoSetup = p.cryptoSetup
  path : OfPath pth r.2.1
  nothing : r.2.2 = none → r.1.sealLog = p.sealLog
  packet : ∀ packet, r.2.2 = some packet → Seals p r.1 pth r.2.1 packet ∧
    p.cryptoSetup.hasSealer packet.encryptionLevel = true

/-- Nothing is sealed, and the keys are the same. -/
structure SameKeys (p p' : PacketPacker) : Prop where
  perspective : p'.perspective = p.perspective
  cryptoSetup : p'.cryptoSetup = p.cryptoSetup
  sealLog : p'.sealLog = p.sealLog

theorem SameKeys.trans {p'' : PacketPacker} (h : SameKeys p p') (h' : SameKeys p' p'') :
    SameKeys p p'' :=
  ⟨h'.perspective.trans h.perspective, h'.cryptoSetup.trans h.cryptoSetup,
    h'.sealLog.trans h.sealLog⟩

theorem Composed.sameKeys (h : Composed p maxFrameSize pathID canSend p' frames) :
    SameKeys p p' := by
  cases h <;> exact ⟨rfl, rfl, rfl⟩

theorem Payload.sameKeys (h : Payload p encLevel headerLength pathID p' frames) :
    SameKeys p p' := by
  cases h with
  | ping => exact ⟨rfl, rfl, rfl⟩
  | composed _ h => exact h.sameKeys

/-- A packet sealed by a packer with the same keys; the log of packed packets does not matter. -/
theorem Sealed.sealing (h : Sealed q pth random frames encLevel (p', pth', packet))
    (hq : SameKeys p q) (hkey : p.cryptoSetup.hasSealer encLevel = true)
    (packed : List (List (Frame StreamFrame))) :
    Sealing p pth ({ p' with packed }, pth', some packet) := by
  cases h
  refine ⟨hq.perspective, hq.cryptoSetup, ⟨rfl, rfl, rfl⟩, nofun, ?_⟩
  rintro _ ⟨⟩
  exact ⟨⟨by rw [hq.sealLog], rfl, ⟨random, rfl⟩, rfl, rfl, rfl⟩, hkey⟩

theorem Packing.sealing (h : Packing p hc pth random r) : Sealing p pth r := by
  cases h with
  | crypto maxLen _ hsealed =>
    exact hsealed.sealing (p := p) ⟨rfl, rfl, rfl⟩
      p.cryptoSetup.hasSealer_getSealerForCryptoStream _
  | nothing _ _ hpayload =>
    obtain ⟨hperspective, hcrypto, hlog⟩ := hpayload.sameKeys
    exact ⟨hperspective, hcrypto, ⟨rfl, rfl, rfl⟩, fun _ => hlog, nofun⟩
  | data _ _ hpayload _ hsealed =>
    obtain ⟨hperspective, hcrypto, hlog⟩ := hpayload.sameKeys
    exact hsealed.sealing (p := p) ⟨hperspective, hcrypto, hlog⟩
      p.cryptoSetup.hasSealer_getSealer _

/-- **What a call of the packer seals.** -/
theorem Call.run_sealing (hrun : call.run p hc pth now random = .ok r) : Sealing p pth r := by
  cases Call.ran hrun with
  | packPacket h => exact h.sealing
  | packPing h =>
    obtain ⟨hperspective, hcrypto, hpath, hnothing, hpacket⟩ := h.sealing
    refine ⟨hperspective, hcrypto, ⟨hpath.pathID, hpath.handler, hpath.isOpen⟩, hnothing, ?_⟩
    intro packet hsome
    obtain ⟨hseals, hkey⟩ := hpacket packet hsome
    exact ⟨⟨hseals.log, hseals.number, hseals.generator, hseals.pathID, hseals.handler,
      hseals.written⟩, hkey⟩
  | packAckPacket _ h =>
    exact h.sealing (p := p) ⟨rfl, rfl, rfl⟩ p.cryptoSetup.hasSealer_getSealer _
  | packHandshakeRetransmission _ hkey _ h => exact h.sealing (p := p) ⟨rfl, rfl, rfl⟩ hkey _
  | packConnectionClose h =>
    exact h.sealing (p := p) ⟨rfl, rfl, rfl⟩ p.cryptoSetup.hasSealer_getSealer _

end PacketPacker
end MpQuic
