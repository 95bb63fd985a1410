import MpQuic.Connection
import MpQuic.Lib.Entries
import MpQuic.PackerCalls
import MpQuic.PacketMoves

/-!
# The elementary changes of a session

Everything that happens to a session is a sequence of acts: a control frame is
queued, a stream changes, a packet is taken from a retransmission queue or sent.
`Act.Does` says what each of them does to the session, and `Reaches K` collects the
sessions that acts of the kind `K` lead to.  What an act keeps is kept by every
procedure made of such acts (`Reaches.keeps`).
-/
namespace MpQuic
open Systems

/-! ## Parts of a session -/

/-- What happens to a stream. -/
inductive StreamOp
  | addStreamFrame (frame : StreamFrame)
  | registerRemoteError (err : String)
  | write (p : List Byte)
  | close
  | reset (err : Option String)
  | read (clock : Nat → Int) (len : Nat)

/-- The stream after an operation. -/
def StreamOp.apply : StreamOp → Stream → Stream
  | .addStreamFrame frame, str => (str.addStreamFrame frame).1
  | .registerRemoteError err, str => (str.registerRemoteError err).1
  | .write p, str => str.write p
  | .close, str => str.close
  | .reset err, str => (str.reset err).1
  | .read clock len, str => (str.read clock len).1

/-- What happens to the flow control manager, apart from the sending and opening of streams. -/
inductive FlowOp
  | updateHighestReceived (id byteOffset : Nat)
  | resetStream (id byteOffset : Nat)
  | updateWindow (id offset : Nat)
  | addBytesRead (id n : Nat) (now : Int)
  | getWindowUpdates (rtt : Int) (remoteRTTs : List Int) (now : Int) (force : Bool)
      (order : List Nat)

/-- The manager after an operation. -/
def FlowOp.apply : FlowOp → FlowControlManager → FlowControlManager
  | .updateHighestReceived id byteOffset, f => (f.updateHighestReceived id byteOffset).1
  | .resetStream id byteOffset, f => (f.resetStream id byteOffset).1
  | .updateWindow id offset, f => (f.updateWindow id offset).1
  | .addBytesRead id n now, f => f.addBytesRead id n now
  | .getWindowUpdates rtt remoteRTTs now force order, f =>
    (f.getWindowUpdates rtt remoteRTTs now force order).1

/-- An operation of a handler that neither sends a packet nor takes one from the queue nor copies
one. -/
def SentPacketHandler.Op.Quiet {κ : Type} : SentPacketHandler.Op κ → Prop
  | .receivedAck .. | .receivedClosePath .. | .onAlarm .. | .getStopWaitingFrame _ | .shared .. =>
    True
  | _ => False

/-- A packet sent on a path: its frames are in the history, unless none is retransmittable. -/
def Path.HasSent {κ : Type} (pth : Path κ) (packet : Packet) : Prop :=
  stripNonRetransmittableFrames packet.frames = [] ∨
    ∃ p ∈ pth.sentPacketHandler.packetHistory,
      p.frames = stripNonRetransmittableFrames packet.frames ∧
        p.packetNumber = packet.packetNumber ∧ p.encryptionLevel = packet.encryptionLevel ∧
        p.written = packet.written

/-- A change of a path that has nothing to do with the packets it has sent.  A closed path is
never opened again. -/
structure Path.SameSender {κ : Type} (pth pth' : Path κ) : Prop where
  pathID : pth'.pathID = pth.pathID
  handler : pth'.sentPacketHandler = pth.sentPacketHandler
  generator : pth'.packetNumberGenerator = pth.packetNumberGenerator
  isOpen : pth'.isOpen = true → pth.isOpen = true

namespace PathManager

/-- What the path manager knows about path IDs. -/
def ids (pm : PathManager) : Nat × List Nat := (pm.nxtPathID, pm.oliaSenders)

end PathManager

namespace Session
variable {κ : Type}

/-- Every path is in the table under its own ID. -/
structure WellKeyed (s : Session κ) : Prop where
  pathID : ∀ id pth, s.paths.lookup id = some pth → pth.pathID = id

/-- A change of fields that neither the streams nor the paths and their packets depend on. -/
structure Notes (s s' : Session κ) : Prop where
  perspective : s'.perspective = s.perspective
  version : s'.version = s.version
  createPaths : s'.createPaths = s.createPaths
  handshakeComplete : s'.handshakeComplete = s.handshakeComplete
  paths : s'.paths = s.paths
  packer : s'.packer = s.packer
  pathManager : s'.pathManager.map PathManager.ids = s.pathManager.map PathManager.ids

/-- The session creates paths of its own. -/
structure CreatesPaths (s : Session κ) : Prop where
  client : s.perspective = .client
  createPaths : s.createPaths = true

end Session

/-! ## Acts -/

/-- The elementary changes of a session. -/
inductive Act (κ : Type)
  | note
  | handshakeCompleted
  | installKeys (encLevel : EncryptionLevel) (diversificationNonce : List Byte)
  | setParameters (params : ConnectionParameters)
  -- frames that carry no stream data
  | queueFrame (frame : ControlFrame) (pathID : Nat)
  | setAckFrame (pathID : Nat) (ack : Option AckFrame)
  | setStopWaiting (pathID : Nat) (swf : Option StopWaitingFrame)
  | framerFrames
  | queueFramerFrames
  -- streams
  | flowControl (op : FlowOp)
  | getOrOpenStream (id : Nat)
  | openStream
  | acceptStream
  | stream (id : Nat) (op : StreamOp)
  | removeStream (id : Nat)
  -- paths
  | createPath (pathID : Nat)
  | createPathFromRemote (pathID : Nat)
  | path (pathID : Nat)
  | handler (pathID : Nat) (op : SentPacketHandler.Op κ)
  -- packets
  | retransmit (pathID : Nat) (packet : Packet)
  | drop (pathID : Nat) (packet : Packet)
  | take (pathID : Nat) (packet : Packet)
  | duplicate (pathID : Nat) (packet : Packet)
  | packNothing (call : PacketPacker.Call) (pathID : Nat)
  | send (call : PacketPacker.Call) (pathID : Nat) (packet : PackedPacket)
  | sealOnly (ccf : ConnectionCloseFrame) (pathID : Nat) (packet : PackedPacket)

namespace Act
variable {κ : Type} [SendAlgorithm κ]
open Session

/-- What the acts do. -/
inductive Does : Act κ → Session κ → Session κ → Prop
  | note {s s' : Session κ} (h : Notes s s') : Does .note s s'
  | handshakeCompleted (s : Session κ) :
      Does .handshakeCompleted s { s with handshakeComplete := true }
  | installKeys (s : Session κ) (encLevel : EncryptionLevel) (nonce : List Byte) :
      Does (.installKeys encLevel nonce) s (s.installKeys encLevel nonce)
  | setParameters (s : Session κ) (connectionParameters : ConnectionParameters) :
      Does (.setParameters connectionParameters) s
        (s.setFramer { s.streamFramer with connectionParameters })
  | queueFrame (s : Session κ) (frame : ControlFrame) (pathID : Nat) :
      Does (.queueFrame frame pathID) s (s.queueControlFrame frame pathID)
  | setAckFrame (s : Session κ) (pathID : Nat) (ack : Option AckFrame) :
      Does (.setAckFrame pathID ack) s { s with packer := s.packer.setAckFrame pathID ack }
  | setStopWaiting (s : Session κ) (pathID : Nat) (swf : Option StopWaitingFrame) :
      Does (.setStopWaiting pathID swf) s { s with packer := s.packer.setStopWaiting pathID swf }
  | framerFrames (s : Session κ) (addAddressFrameQueue : List AddAddressFrame)
      (pathsFrame : Option PathsFrame) :
      Does .framerFrames s (s.setFramer { s.streamFramer with addAddressFrameQueue, pathsFrame })
  | queueFramerFrames (s : Session κ) : Does .queueFramerFrames s s.queueFramerFrames
  | flowControl (s : Session κ) (op : FlowOp) :
      Does (.flowControl op) s (s.setFramer { s.streamFramer with
        flowControlManager := op.apply s.streamFramer.flowControlManager })
  | getOrOpenStream (s : Session κ) (id : Nat) :
      Does (.getOrOpenStream id) s (s.setFramer (s.streamFramer.getOrOpenStream id).1)
  | openStream (s : Session κ) : Does .openStream s (s.setFramer s.streamFramer.openStream.1)
  | acceptStream (s : Session κ) :
      Does .acceptStream s (s.setFramer { s.streamFramer with
        streamsMap := s.streamsMap.acceptStream.1 })
  | stream {s : Session κ} {id : Nat} {str : Stream} (op : StreamOp)
      (h : s.streamsMap.streams.lookup id = some str) :
      Does (.stream id op) s (s.setFramer (s.streamFramer.setStream id (op.apply str)))
  | removeStream {s : Session κ} {id : Nat} {str : Stream}
      (h : s.streamsMap.streams.lookup id = some str) (hfinished : str.finished = true) :
      Does (.removeStream id) s (s.setFramer { s.streamFramer with
        streamsMap := s.streamsMap.removeStream id
        flowControlManager := s.streamFramer.flowControlManager.removeStream id })
  | createPath {s : Session κ} {pm : PathManager} (h : s.pathManager = some pm)
      (hcreates : s.CreatesPaths) (localAddr remoteAddr : UDPAddr) (env : Env) :
      Does (.createPath pm.nxtPathID) s
        (s.addPath { pm with nxtPathID := (pm.nxtPathID + 2) % 2 ^ 8 } pm.nxtPathID localAddr
          remoteAddr env)
  | createPathFromRemote {s : Session κ} {pm : PathManager} {pathID : Nat}
      (h : s.pathManager = some pm) (hnew : s.paths.lookup pathID = none)
      (localAddr remoteAddr : UDPAddr) (env : Env) :
      Does (.createPathFromRemote pathID) s (s.addPath pm pathID localAddr remoteAddr env)
  | path {s : Session κ} {pathID : Nat} {pth pth' : Path κ}
      (h : s.paths.lookup pathID = some pth) (hsame : pth.SameSender pth') :
      Does (.path pathID) s (s.setPath pathID pth')
  | handler {s : Session κ} {pathID : Nat} {pth : Path κ} {op : SentPacketHandler.Op κ}
      (h : s.paths.lookup pathID = some pth) (hquiet : op.Quiet) :
      Does (.handler pathID op) s
        (s.setPath pathID { pth with sentPacketHandler := op.apply pth.sentPacketHandler })
  | retransmit {s s' : Session κ} {pathID : Nat} {packet : Packet}
      (h : s.dequeueFrom pathID = some (s', pathID, packet))
      (hlevel : packet.encryptionLevel = .forwardSecure) (env : Env) :
      Does (.retransmit pathID packet) s
        (packet.getFramesForRetransmission.foldl (requeueFrame pathID env) s')
  | drop {s s' : Session κ} {pathID : Nat} {packet : Packet}
      (h : s.dequeueFrom pathID = some (s', pathID, packet))
      (hlevel : packet.encryptionLevel ≠ .forwardSecure) (hcomplete : s.handshakeComplete = true) :
      Does (.drop pathID packet) s s'
  | take {s s' : Session κ} {pathID : Nat} {packet : Packet}
      (h : s.dequeueFrom pathID = some (s', pathID, packet))
      (hlevel : packet.encryptionLevel ≠ .forwardSecure)
      (hcomplete : s.handshakeComplete = false) :
      Does (.take pathID packet) s s'
  | duplicate {s : Session κ} {pathID : Nat} {pth : Path κ} {packet : Packet}
      (h : s.paths.lookup pathID = some pth) (hsent : pth.HasSent packet) :
      Does (.duplicate pathID packet) s (s.setPath pathID
        { pth with sentPacketHandler := pth.sentPacketHandler.duplicatePacket packet })
  | packNothing {s : Session κ} {call : PacketPacker.Call} {pth pth' : Path κ}
      {packer : PacketPacker} {now : Int} {random : Option UInt16}
      (h : s.paths.lookup pth.pathID = some pth)
      (hrun : call.run s.packer s.handshakeComplete pth now random = .ok (packer, pth', none)) :
      Does (.packNothing call pth.pathID) s { s with packer }
  | send {s : Session κ} {call : PacketPacker.Call} {pth pth' : Path κ}
      {packer : PacketPacker} {packet : PackedPacket} {now : Int} {random : Option UInt16}
      (h : s.paths.lookup pth.pathID = some pth)
      (hrun : call.run s.packer s.handshakeComplete pth now random =
        .ok (packer, pth', some packet)) (env : Env) :
      Does (.send call pth.pathID packet) s (s.sendPackedPacket packer pth' packet env).1
  | sealOnly {s : Session κ} {ccf : ConnectionCloseFrame} {pth pth' : Path κ}
      {packer : PacketPacker} {packet : PackedPacket} {now : Int} {random : Option UInt16}
      (h : s.paths.lookup pth.pathID = some pth)
      (hrun : s.packer.packConnectionClose s.handshakeComplete ccf pth now random =
        .ok (packer, pth', packet)) :
      Does (.sealOnly ccf pth.pathID packet) s ({ s with packer }.setPath pth.pathID pth')

end Act

/-! ## Tables of paths -/

namespace Session
variable {κ : Type} {s s' : Session κ}

theorem WellKeyed.setPath (h : s.WellKeyed) {pathID : Nat} {pth : Path κ}
    (hpth : pth.pathID = pathID) : (s.setPath pathID pth).WellKeyed := by
  exact ⟨forall_lookup_insert hpth h.pathID⟩

theorem WellKeyed.of_paths (h : s.WellKeyed) (hpaths : s'.paths = s.paths) : s'.WellKeyed := by
  refine ⟨fun id pth hlookup => ?_⟩
  rw [hpaths] at hlookup
  exact h.pathID id pth hlookup

theorem dequeueFrom_eq {pathID id : Nat} {packet : Packet}
    (h : s.dequeueFrom pathID = some (s', id, packet)) :
    id = pathID ∧ ∃ pth rest, s.paths.lookup pathID = some pth ∧
      pth.sentPacketHandler.retransmissionQueue = packet :: rest ∧
      s' = s.setPath pathID { pth with sentPacketHandler := { pth.sentPacketHandler with
        retransmissionQueue := rest
        retransmissions := add64 pth.sentPacketHandler.retransmissions 1 } } := by
  rw [dequeueFrom] at h
  cases hpth : s.paths.lookup pathID with
  | none => simp [hpth] at h
  | some pth =>
    cases hqueue : pth.sentPacketHandler.retransmissionQueue with
    | nil => simp [hpth, SentPacketHandler.dequeuePacketForRetransmission, hqueue] at h
    | cons packet' rest =>
      simp only [hpth, SentPacketHandler.dequeuePacketForRetransmission, hqueue] at h
      obtain ⟨rfl, rfl, rfl⟩ := h
      exact ⟨rfl, pth, rest, rfl, hqueue, rfl⟩

@[simp] theorem paths_queueControlFrame (s : Session κ) (frame : ControlFrame) (pathID : Nat) :
    (s.queueControlFrame frame pathID).paths = s.paths := rfl

theorem paths_requeueFrame (pathID : Nat) (env : Env) (s : Session κ) (frame : Frame FrameRef) :
    (requeueFrame pathID env s frame).paths = s.paths := by
  rw [requeueFrame]
  split
  · rfl
  · split
    · rfl
    · split_ifs <;> rfl
  · rfl
  · rfl

theorem paths_foldl_requeueFrame (pathID : Nat) (env : Env) (frames : List (Frame FrameRef))
    (s : Session κ) : (frames.foldl (requeueFrame pathID env) s).paths = s.paths :=
  List.foldlRecOn frames _ (motive := fun s' => s'.paths = s.paths) rfl fun s' h frame _ =>
    (paths_requeueFrame pathID env s' frame).trans h

/-- The part of a session that is fixed when it is set up. -/
structure SameConfig (s s' : Session κ) : Prop where
  perspective : s'.perspective = s.perspective
  createPaths : s'.createPaths = s.createPaths

theorem SameConfig.trans {s s' s'' : Session κ} (h : SameConfig s s') (h' : SameConfig s' s'') :
    SameConfig s s'' :=
  ⟨h'.perspective.trans h.perspective, h'.createPaths.trans h.createPaths⟩

theorem CreatesPaths.congr (h : s.CreatesPaths) (hs : SameConfig s s') :
    s'.CreatesPaths := ⟨hs.perspective.trans h.client, hs.createPaths.trans h.createPaths⟩

theorem requeueFrame_sameConfig (pathID : Nat) (env : Env) (s : Session κ)
    (frame : Frame FrameRef) : SameConfig s (requeueFrame pathID env s frame) := by
  rw [requeueFrame]
  split
  · exact ⟨rfl, rfl⟩
  · split
    · exact ⟨rfl, rfl⟩
    · split_ifs <;> exact ⟨rfl, rfl⟩
  · exact ⟨rfl, rfl⟩
  · exact ⟨rfl, rfl⟩

theorem sameConfig_foldl_requeueFrame (pathID : Nat) (env : Env) (frames : List (Frame FrameRef))
    (s : Session κ) : SameConfig s (frames.foldl (requeueFrame pathID env) s) :=
  List.foldlRecOn frames _ (motive := SameConfig s) ⟨rfl, rfl⟩ fun s' h frame _ =>
    h.trans (requeueFrame_sameConfig pathID env s' frame)

variable [SendAlgorithm κ]

theorem sendPackedPacket_sameConfig (s : Session κ) (packer : PacketPacker) (pth : Path κ)
    (packet : PackedPacket) (env : Env) :
    SameConfig s (s.sendPackedPacket packer pth packet env).1 := by
  rw [sendPackedPacket]
  split
  · exact ⟨rfl, rfl⟩
  · exact ⟨rfl, rfl⟩

theorem WellKeyed.sendPackedPacket (h : s.WellKeyed) (packer : PacketPacker) (pth : Path κ)
    (packet : PackedPacket) (env : Env) :
    (s.sendPackedPacket packer pth packet env).1.WellKeyed := by
  have hpacker : ({ s with packer } : Session κ).WellKeyed := h.of_paths rfl
  rw [Session.sendPackedPacket]
  split
  · exact hpacker.setPath rfl
  · exact hpacker.setPath rfl

theorem WellKeyed.addPath (h : s.WellKeyed) (pm : PathManager) (pathID : Nat)
    (localAddr remoteAddr : UDPAddr) (env : Env) :
    (s.addPath pm pathID localAddr remoteAddr env).WellKeyed := by
  have hset (congestion : κ) : (s.setPath pathID
      (Path.setup pathID localAddr remoteAddr s.version congestion env.now)).WellKeyed :=
    h.setPath rfl
  exact (hset _).of_paths rfl

end Session

namespace Act
variable {κ : Type} [SendAlgorithm κ]
open Session
variable {a : Act κ} {s s' : Session κ}

/-- Every act leaves the paths under their IDs. -/
theorem Does.wellKeyed (h : a.Does s s') (hs : s.WellKeyed) : s'.WellKeyed := by
  cases h with
  | note h => exact hs.of_paths h.paths
  | createPath => exact hs.addPath ..
  | createPathFromRemote => exact hs.addPath ..
  | path h hsame => exact hs.setPath (hsame.pathID.trans (hs.pathID _ _ h))
  | handler h =>
    have hid := hs.pathID _ _ h
    exact hs.setPath hid
  | retransmit h =>
    obtain ⟨-, pth, rest, hpth, -, rfl⟩ := dequeueFrom_eq h
    have hid := hs.pathID _ _ hpth
    refine WellKeyed.of_paths ?_ (paths_foldl_requeueFrame _ _ _ _)
    exact hs.setPath hid
  | drop h =>
    obtain ⟨-, pth, rest, hpth, -, rfl⟩ := dequeueFrom_eq h
    have hid := hs.pathID _ _ hpth
    exact hs.setPath hid
  | take h =>
    obtain ⟨-, pth, rest, hpth, -, rfl⟩ := dequeueFrom_eq h
    have hid := hs.pathID _ _ hpth
    exact hs.setPath hid
  | duplicate h =>
    have hid := hs.pathID _ _ h
    exact hs.setPath hid
  | send => exact hs.sendPackedPacket ..
  | @sealOnly _ ccf pth pth' packer packet now random h hrun =>
    have hpacker : ({ s with packer } : Session κ).WellKeyed := hs.of_paths rfl
    have hsealing := PacketPacker.Call.run_sealing (PacketPacker.run_packConnectionClose hrun)
    exact hpacker.setPath hsealing.path.pathID
  | _ => exact hs.of_paths rfl

/-- The configuration of a session is for its whole life. -/
theorem Does.sameConfig (h : a.Does s s') : SameConfig s s' := by
  cases h with
  | note h => exact ⟨h.perspective, h.createPaths⟩
  | retransmit h =>
    obtain ⟨-, pth, rest, hpth, -, rfl⟩ := dequeueFrom_eq h
    refine SameConfig.trans ?_ (sameConfig_foldl_requeueFrame _ _ _ _)
    exact ⟨rfl, rfl⟩
  | drop h =>
    obtain ⟨-, pth, rest, hpth, -, rfl⟩ := dequeueFrom_eq h
    exact ⟨rfl, rfl⟩
  | take h =>
    obtain ⟨-, pth, rest, hpth, -, rfl⟩ := dequeueFrom_eq h
    exact ⟨rfl, rfl⟩
  | send => exact sendPackedPacket_sameConfig ..
  | _ => exact ⟨rfl, rfl⟩

end Act

/-! ## Sequences of acts -/

namespace Session
variable {κ : Type} [SendAlgorithm κ]

/-- The acts that start with a session. -/
def acting (s₀ : Session κ) : Machine (Session κ) (Act κ) where
  init s := s = s₀ ∧ s.WellKeyed
  step s a s' := a.Does s s'

/-- The session `s` is reached from `s₀` by acts of the kind `K`. -/
def Reaches (K : Act κ → Prop) (s₀ s : Session κ) : Prop := (acting s₀).Reach (fun _ a => K a) s

variable {K : Act κ → Prop} {s₀ s s' : Session κ}

theorem Reaches.refl (h : s.WellKeyed) : Reaches K s s := .init ⟨rfl, h⟩

section

variable (h : Reaches K s₀ s)
include h

theorem Reaches.act {a : Act κ} (ha : K a) (hdoes : a.Does s s') :
    Reaches K s₀ s' := .step h ha hdoes

theorem Reaches.wellKeyed : s.WellKeyed :=
  Machine.Reach.invariant (P := WellKeyed) h (fun _ h => h.2) fun _ _ _ hs _ hdoes =>
    hdoes.wellKeyed hs

/-- **What the acts keep is kept.** -/
theorem Reaches.keeps {P : Session κ → Prop}
    (hstep : ∀ s a s', s.WellKeyed → P s → K a → a.Does s s' → P s') (h₀ : P s₀) : P s := by
  refine (Machine.Reach.invariant (P := fun s => s.WellKeyed ∧ P s) h ?_ ?_).2
  · rintro s ⟨rfl, hs⟩
    exact ⟨hs, h₀⟩
  · intro s a s' hs ha hdoes
    exact ⟨hdoes.wellKeyed hs.1, hstep s a s' hs.1 hs.2 ha hdoes⟩

theorem Reaches.sameConfig : SameConfig s₀ s :=
  h.keeps (fun _ _ _ _ hs _ hdoes => hs.trans hdoes.sameConfig) ⟨rfl, rfl⟩

end

theorem Reaches.mono {K' : Act κ → Prop} (hK : ∀ a, K a → K' a) (h : Reaches K s₀ s) :
    Reaches K' s₀ s := Machine.Reach.mono (fun _ a => hK a) h

end Session
end MpQuic
