import MpQuic.Lib.Outcome
import MpQuic.PacketPacker
import MpQuic.ParseFrame

/-!
# Sessions (`session.go`, `path_manager.go` and the receiving half of `path.go`)

The session owns the paths, the packer (with the framer and the streams) and the
scheduler's quotas.  A stream or path pointer of the source is a lookup in one of
its maps.  What the learning schedulers remember between calls is not part of the
session.

Writing to a socket is taken to succeed: a failed write ends the session like any
other error of `sendPacket`.
-/
namespace MpQuic
open Systems Outcome

/-- What a step of the session finds in its surroundings: the time, the random numbers drawn by
the packet number generator of a path for a packet number, and the orders in which the `range`
loops of the step visit the keys of a map. -/
structure Env where
  now : Int
  random : Nat → Nat → Option UInt16 := fun _ _ => none
  order : Nat → List Nat → List Nat := fun _ keys => keys

/-- A `range` loop visits every key once. -/
def Env.Valid (env : Env) : Prop := ∀ i keys, (env.order i keys).Perm keys

/-- The random number `Pop` draws for the next packet of a path, if it needs one. -/
def Env.randomFor {κ : Type} (env : Env) (pth : Path κ) : Option UInt16 :=
  env.random pth.pathID pth.packetNumberGenerator.next

/-- `pathManager`; `localAddrs` are those of its `pconnMgr`, and `oliaSenders` the keys of the
table of OLIA senders. -/
structure PathManager where
  nxtPathID : Nat
  remoteAddrs4 : List UDPAddr := []
  remoteAddrs6 : List UDPAddr := []
  localAddrs : List UDPAddr := []
  advertisedLocAddrs : List UDPAddr := []
  oliaSenders : List Nat := []
  deriving DecidableEq, Repr

/-- `session`.  `closing` is a value waiting in `closeChan`. -/
structure Session (κ : Type) where
  perspective : Perspective
  version : Int
  paths : GoMap (Path κ)
  closedPaths : List Nat := []
  createPaths : Bool := false
  remoteRTTs : GoMap Int := ∅
  lastPathsFrameSent : Option Int := none
  packer : PacketPacker
  peerBlocked : Bool := false
  closing : Bool := false
  handshakeComplete : Bool := false
  lastNetworkActivityTime : Int
  keepAlivePingSent : Bool := false
  pathManager : Option PathManager := none
  quotas : Nat → Nat := fun _ => 0

namespace Session
variable {κ : Type}

/-- `session.streamFramer`. -/
def streamFramer (s : Session κ) : StreamFramer := s.packer.streamFramer

/-- `session.streamsMap`. -/
def streamsMap (s : Session κ) : StreamsMap := s.packer.streamFramer.streamsMap

/-- An update of the framer. -/
def setFramer (s : Session κ) (streamFramer : StreamFramer) : Session κ :=
  { s with packer := { s.packer with streamFramer } }

/-- An update of a path. -/
def setPath (s : Session κ) (pathID : Nat) (pth : Path κ) : Session κ :=
  { s with paths := s.paths.insert pathID pth }

@[simp] theorem lookup_setPath_self (s : Session κ) (pathID : Nat) (pth : Path κ) :
    (s.setPath pathID pth).paths.lookup pathID = some pth := AList.lookup_insert _

theorem lookup_setPath_of_ne (s : Session κ) {pathID id : Nat} (pth : Path κ) (h : id ≠ pathID) :
    (s.setPath pathID pth).paths.lookup id = s.paths.lookup id := AList.lookup_insert_ne h

/-! ## Setting up -/

variable [SendAlgorithm κ]

/-- The framer of a new session, with the crypto stream opened. -/
def newFramer (perspective : Perspective) (params : ConnectionParameters) : StreamFramer :=
  let framer : StreamFramer :=
    { streamsMap := .new perspective
      flowControlManager := .new params
      connectionParameters := params }
  match perspective with
  | .server =>
    let (framer, _) := framer.getOrOpenStream 1
    { framer with streamsMap := framer.streamsMap.acceptStream.1 }
  | .client => framer.openStream.1

/-- `newSession` and `newClientSession`.  `localAddrs` are the addresses of the `pconnManager`;
without one, as in the benchmarks, there is no path manager. -/
def new (perspective : Perspective) (version : Int) (connectionID : Nat) (createPaths : Bool)
    (params : ConnectionParameters) (overhead : EncryptionLevel → Nat)
    (localAddr remoteAddr : UDPAddr) (localAddrs : Option (List UDPAddr)) (now : Int) :
    Session κ :=
  let pth := Path.setup initialPathID localAddr remoteAddr version (SendAlgorithm.new false) now
  { perspective, version, createPaths
    paths := AList.singleton initialPathID pth
    packer :=
      { connectionID, perspective, version
        cryptoSetup := { perspective, overhead }
        streamFramer := newFramer perspective params }
    lastNetworkActivityTime := now
    pathManager := localAddrs.map fun localAddrs =>
      { nxtPathID := match perspective with | .client => 1 | .server => 2
        remoteAddrs4 := if remoteAddr.to4.isSome then [remoteAddr] else []
        remoteAddrs6 := if remoteAddr.to4.isSome then [] else [remoteAddr]
        localAddrs } }

/-- An IPv4 address with a port. -/
def sampleAddr (host : Byte) (port : Nat) : UDPAddr := { ip := [10, 0, 0, host], port }

/-- A new multipath session between two hosts with fixed congestion windows. -/
def sample (perspective : Perspective) : Session FixedWindow :=
  .new perspective versionMP 0x1337 true (.new (2 ^ 20) (2 ^ 20) (30 * millisecond)) (fun _ => 12)
    (sampleAddr 1 443) (sampleAddr 2 443) (some [sampleAddr 1 443]) 0

/-! ## Frames about the session itself -/

/-- The entry of a PATHS frame for a path: `time.Hour` says that it has potentially failed. -/
def pathEntry (s : Session κ) (pathID : Nat) : Int :=
  match s.paths.lookup pathID with
  | none => 0
  | some pth => if pth.potentiallyFailed then 60 * minute else pth.rttStats.smoothedRTT

/-- `schedulePathsFrame`, with `AddPathsFrameForTransmission`. -/
def schedulePathsFrame (s : Session κ) (env : Env) : Session κ :=
  let pathIDs := env.order 0 s.paths.keys
  let pathsFrame : PathsFrame :=
    { maxNumPaths := 255
      numPaths := pathIDs.length % 2 ^ 8
      pathIDs
      remoteRTTs := pathIDs.map s.pathEntry }
  { s with lastPathsFrameSent := some env.now }.setFramer
    { s.streamFramer with pathsFrame := some pathsFrame }

/-- `queueResetStreamFrame`, for the offset `Reset` or `RegisterRemoteError` gives, if any. -/
def queueResetStreamFrame (s : Session κ) (id : Nat) (offset : Option Nat) : Session κ :=
  match offset with
  | none => s
  | some byteOffset =>
    let frame : RstStreamFrame := { streamID := id, errorCode := 0, byteOffset }
    { s with packer := s.packer.queueControlFrame (.rstStream frame) initialPathID }

/-! ## Sending one packet -/

/-- `sendPackedPacket`, for the packer and the path as packing left them.  The packet is sealed
even if the handler then refuses it. -/
def sendPackedPacket (s : Session κ) (packer : PacketPacker) (pth : Path κ)
    (packet : PackedPacket) (env : Env) : Outcome (Session κ) Err :=
  let s := { s with packer }
  let sent : Packet :=
    { packetNumber := packet.number
      frames := packet.frames
      length := packet.length
      encryptionLevel := packet.encryptionLevel
      written := packet.written }
  match pth.sentPacketHandler.sentPacket sent env.now with
  | .error e => (s.setPath pth.pathID pth, some e)
  | .ok sentPacketHandler => (s.setPath pth.pathID { pth with sentPacketHandler }, none)

/-- `sendPing`. -/
def sendPing (s : Session κ) (pth : Path κ) (env : Env) : Outcome (Session κ) Err :=
  let packing := s.packer.packPing s.handshakeComplete pth env.now (env.randomFor pth)
  orElseKeep s packing fun
    | (packer, _, none) => ({ s with packer }, some .pingPacketNil)
    | (packer, pth, some packet) => s.sendPackedPacket packer pth packet env

/-! ## Creating paths -/

/-- Whether two addresses have the same `String()`. -/
def sameAddr (a b : UDPAddr) : Bool :=
  a.to4.getD a.ip == b.to4.getD b.ip && a.port == b.port

/-- A new path put into the table, with its OLIA sender registered. -/
def addPath (s : Session κ) (pm : PathManager) (pathID : Nat) (localAddr remoteAddr : UDPAddr)
    (env : Env) : Session κ :=
  let olia : Bool := versionMP ≤ s.version ∧ pathID ≠ initialPathID
  let pth := Path.setup pathID localAddr remoteAddr s.version (SendAlgorithm.new olia) env.now
  let oliaSenders := if olia then pm.oliaSenders.insert pathID else pm.oliaSenders
  { s.setPath pathID pth with pathManager := some { pm with oliaSenders } }

theorem isSome_lookup_addPath (s : Session κ) (pm : PathManager) (pathID : Nat)
    (localAddr remoteAddr : UDPAddr) (env : Env) :
    ((s.addPath pm pathID localAddr remoteAddr env).paths.lookup pathID).isSome := by
  simp [addPath, setPath]

/-- Whether a path between two addresses exists. -/
def hasPath (s : Session κ) (locAddr remAddr : UDPAddr) : Bool :=
  s.paths.entries.any fun e =>
    sameAddr locAddr e.2.localAddr && sameAddr remAddr e.2.remoteAddr

/-- `createPath`.  The IDs are bytes, so after 128 paths the new path takes the place of an
old one. -/
def createPath (s : Session κ) (locAddr remAddr : UDPAddr) (env : Env) :
    Outcome (Session κ) Err :=
  match s.pathManager with
  | none => (s, none)
  | some pm =>
    if s.hasPath locAddr remAddr then (s, none)
    else
      let nxtPathID := (pm.nxtPathID + 2) % 2 ^ 8
      let s := s.addPath { pm with nxtPathID } pm.nxtPathID locAddr remAddr env
      match s.paths.lookup pm.nxtPathID with
      | none => (s, some (.panic .nilPath))
      | some pth => s.sendPing pth env

/-- The pairs of addresses `createPaths` tries on the client. -/
def addrPairs (pm : PathManager) : List (UDPAddr × UDPAddr) :=
  pm.localAddrs.flatMap fun locAddr =>
    (if locAddr.to4.isSome then pm.remoteAddrs4 else pm.remoteAddrs6).map (locAddr, ·)

/-- One round of `advertiseAddresses`. -/
def advertiseAddress (s : Session κ) (addr : UDPAddr) : Session κ :=
  match s.pathManager with
  | none => s
  | some pm =>
    if pm.advertisedLocAddrs.any (sameAddr addr) then s
    else
      let frame : AddAddressFrame := { ipVersion := if addr.to4.isSome then 4 else 6, addr }
      let pm := { pm with advertisedLocAddrs := pm.advertisedLocAddrs ++ [addr] }
      { s with pathManager := some pm }.setFramer { s.streamFramer with
        addAddressFrameQueue := s.streamFramer.addAddressFrameQueue ++ [frame] }

/-- `pathManager.createPaths`, with `advertiseAddresses` on the server. -/
def createPathsNow (s : Session κ) (pm : PathManager) (env : Env) : Outcome (Session κ) Err :=
  match s.perspective with
  | .server => (pm.localAddrs.foldl advertiseAddress s, none)
  | .client =>
    let created := forEach (fun addrs s => s.createPath addrs.1 addrs.2 env) (addrPairs pm) s
    created.andThen fun s => (s.schedulePathsFrame env, none)

end Session
end MpQuic
