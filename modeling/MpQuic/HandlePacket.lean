import MpQuic.Session

/-!
# Receiving packets (`handlePacketImpl` and the frame handlers of `session.go`)

The path ID in an ACK, CLOSE_PATH or PATHS frame is whatever byte the peer sent,
and the path it is about is looked up in the session's table.  In Go the lookup of
a missing path is a nil pointer, and using it is a panic.

The learning schedulers look at the acknowledged packet in `handleAckFrame`; they
change no path and are not modelled here.
-/
namespace MpQuic
open Systems Outcome

/-- `receivedPacket`, with the packet number as in the header and with what `aead.Open` returns
for it. -/
structure ReceivedPacket where
  pathID : Nat
  packetNumber : Nat
  packetNumberLen : Nat
  localAddr : UDPAddr
  remoteAddr : UDPAddr
  rcvTime : Int
  opened : Option (List Byte × EncryptionLevel)

namespace Session
variable {κ : Type} [SendAlgorithm κ]

/-! ## Stream frames -/

/-- The flow control manager's answer, stored in the session. -/
def withFlowControl (s : Session κ) (r : FlowControlManager × Option Err) :
    Outcome (Session κ) Err :=
  (s.setFramer { s.streamFramer with flowControlManager := r.1 }, r.2)

/-- `GetOrOpenStream`, and then `f` for the stream or `missing` if there is none. -/
def withStream (s : Session κ) (id : Nat) (missing : Option Err)
    (f : Session κ → Stream → Outcome (Session κ) Err) : Outcome (Session κ) Err :=
  let (streamFramer, err) := s.streamFramer.getOrOpenStream id
  let s := s.setFramer streamFramer
  match err, s.streamsMap.streams.lookup id with
  | some e, _ => (s, some e)
  | none, none => (s, missing)
  | none, some str => f s str

/-- `handleStreamFrame`, with `AddStreamFrame`. -/
def handleStreamFrame (s : Session κ) (frame : StreamFrame) : Outcome (Session κ) Err :=
  s.withStream frame.streamID none fun s str =>
    let maxOffset := add64 frame.offset frame.dataLen
    let fc := s.streamFramer.flowControlManager.updateHighestReceived frame.streamID maxOffset
    (s.withFlowControl fc).andThen fun s =>
      let (str, err) := str.addStreamFrame frame
      (s.setFramer (s.streamFramer.setStream frame.streamID str), err.map .streamFrame)

/-- `handleRstStreamFrame`. -/
def handleRstStreamFrame (s : Session κ) (frame : RstStreamFrame) : Outcome (Session κ) Err :=
  s.withStream frame.streamID (some .rstStreamOnInvalidStream) fun s str =>
    let (str, offset) := str.registerRemoteError s!"RST_STREAM received with code {frame.errorCode}"
    let s := s.setFramer (s.streamFramer.setStream frame.streamID str)
    let s := s.queueResetStreamFrame frame.streamID offset
    s.withFlowControl
      (s.streamFramer.flowControlManager.resetStream frame.streamID frame.byteOffset)

/-- `handleWindowUpdateFrame`. -/
def handleWindowUpdateFrame (s : Session κ) (frame : WindowUpdateFrame) :
    Outcome (Session κ) Err :=
  let update (s : Session κ) : Outcome (Session κ) Err := s.withFlowControl
    (s.streamFramer.flowControlManager.updateWindow frame.streamID frame.byteOffset)
  if frame.streamID ≠ 0 then
    s.withStream frame.streamID (some .windowUpdateOnClosedStream) fun s _ => update s
  else update s

/-! ## Frames that name a path -/

/-- `s.rttStats.SmoothedRTT()`; the session's RTT statistics are those of the initial path. -/
def smoothedRTT (s : Session κ) : Int :=
  match s.paths.lookup initialPathID with
  | none => 0
  | some pth => pth.rttStats.smoothedRTT

/-- `UpdateSessionRTT` of `s.rttStats`. -/
def updateSessionRTT (s : Session κ) (rtt : Int) : Session κ :=
  match s.paths.lookup initialPathID with
  | none => s
  | some pth =>
    let rttStats := { pth.rttStats with smoothedRTT := rtt }
    let sentPacketHandler := { pth.sentPacketHandler with rttStats }
    s.setPath initialPathID { pth with sentPacketHandler }

/-- `handleAckFrame`. -/
def handleAckFrame (s : Session κ) (frame : AckFrame) (env : Env) : Outcome (Session κ) Err :=
  match s.paths.lookup frame.pathID with
  | none => (s, some (.panic .nilPath))
  | some pth =>
    let (sentPacketHandler, err) := pth.sentPacketHandler.receivedAck frame
      pth.lastRcvdPacketNumber pth.lastNetworkActivityTime env.now
    let s := s.setPath frame.pathID { pth with sentPacketHandler }
    let rtt := sentPacketHandler.rttStats.smoothedRTT
    (if err.isNone ∧ s.smoothedRTT < rtt then s.updateSessionRTT rtt else s, err)

/-- `closePath(pthID, false)`, with `pathManager.closePath`. -/
def closePath (s : Session κ) (pthID : Nat) : Outcome (Session κ) Err :=
  match s.paths.lookup pthID with
  | none => (s, some .unknownPathToClose)
  | some pth =>
    if pthID ∈ s.closedPaths then (s, none)
    else
      let s := if s.pathManager.isSome ∧ pth.isOpen then
        s.setPath pthID { pth with closeRequested := true } else s
      ({ s with closedPaths := pthID :: s.closedPaths }, none)

/-- `handleClosePathFrame`. -/
def handleClosePathFrame (s : Session κ) (frame : ClosePathFrame) : Outcome (Session κ) Err :=
  (s.closePath frame.pathID).andThen fun s =>
    match s.paths.lookup frame.pathID with
    | none => (s, some (.panic .nilPath))
    | some pth =>
      let (sentPacketHandler, err) :=
        pth.sentPacketHandler.receivedClosePath frame pth.lastRcvdPacketNumber
      (s.setPath frame.pathID { pth with sentPacketHandler }, err)

/-- The RTT from which on a PATHS frame says that a path has potentially failed. -/
def failedRTT : Int := 30 * minute

/-- The body of the loop over the entries of a PATHS frame. -/
def handlePathEntry (frame : PathsFrame) (i : Nat) (s : Session κ) : Outcome (Session κ) Err :=
  match frame.pathIDs[i]?, frame.remoteRTTs[i]? with
  | some pathID, some rtt =>
    let s := { s with remoteRTTs := s.remoteRTTs.insert pathID rtt }
    if failedRTT ≤ rtt then
      match s.paths.lookup pathID with
      | none => (s, some (.panic .nilPath))
      | some pth => (s.setPath pathID { pth with potentiallyFailed := true }, none)
    else (s, none)
  | _, _ => (s, some (.panic .indexOutOfRange))

/-- The case of `handleFrames` for PATHS frames. -/
def handlePathsFrame (s : Session κ) (frame : PathsFrame) : Outcome (Session κ) Err :=
  forEach (handlePathEntry frame) (List.range frame.numPaths) s

/-- `handleAddAddressFrame` of the path manager `pm`. -/
def handleAddAddressFrame (s : Session κ) (pm : PathManager) (frame : AddAddressFrame)
    (env : Env) : Outcome (Session κ) Err :=
  let pm? : Option PathManager := match frame.ipVersion with
    | 4 => some { pm with remoteAddrs4 := pm.remoteAddrs4 ++ [frame.addr] }
    | 6 => some { pm with remoteAddrs6 := pm.remoteAddrs6 ++ [frame.addr] }
    | _ => none
  match pm? with
  | none => (s, some .unknownIPVersion)
  | some pm =>
    let s := { s with pathManager := some pm }
    if s.createPaths then s.createPathsNow pm env else (s, none)

/-! ## All frames -/

/-- `SetLowerLimit` for a STOP_WAITING frame that arrived on a path. -/
def handleStopWaitingFrame (s : Session κ) (pathID : Nat) (frame : StopWaitingFrame) :
    Outcome (Session κ) Err :=
  match s.paths.lookup pathID with
  | none => (s, some (.panic .nilPath))
  | some pth =>
    let receivedPacketHandler :=
      pth.receivedPacketHandler.setLowerLimit (sub64 frame.leastUnacked 1)
    (s.setPath pathID { pth with receivedPacketHandler }, none)

/-- The cases of `handleFrames`, for a frame that arrived on a path. -/
def handleFrame (pathID : Nat) (env : Env) (frame : Frame StreamFrame) (s : Session κ) :
    Outcome (Session κ) Err :=
  match frame with
  | .stream f => s.handleStreamFrame f
  | .ack f => s.handleAckFrame f env
  | .connectionClose _ => ({ s with closing := true }, none)
  | .goaway _ => (s, some .goawayUnimplemented)
  | .stopWaiting f => s.handleStopWaitingFrame pathID f
  | .rstStream f => s.handleRstStreamFrame f
  | .windowUpdate f => s.handleWindowUpdateFrame f
  | .blocked _ => ({ s with peerBlocked := true }, none)
  | .ping => (s, none)
  | .addAddress f =>
    match s.pathManager with
    | none => (s, none)
    | some pm =>
      let (s, err) := s.handleAddAddressFrame pm f env
      (s.schedulePathsFrame env, err)
  | .closePath f => (s.handleClosePathFrame f).ignoring (!·.isPanic)
  | .paths f => s.handlePathsFrame f

/-- The errors `handleFrames` goes on after. -/
def ignoredError (e : Err) : Bool :=
  e == .duplicateOrOutOfOrderAck || e == .rstStreamOnInvalidStream ||
    e == .windowUpdateOnClosedStream

/-- `handleFrames`. -/
def handleFrames (s : Session κ) (fs : List (Frame StreamFrame)) (pathID : Nat) (env : Env) :
    Outcome (Session κ) Err :=
  forEach (fun f s => (s.handleFrame pathID env f).ignoring ignoredError) fs s

/-! ## Packets -/

/-- `createPathFromRemote`. -/
def createPathFromRemote (s : Session κ) (p : ReceivedPacket) (env : Env) :
    Outcome (Session κ) Err :=
  match s.pathManager with
  | none => (s, some (.panic .nilPathManager))
  | some pm =>
    if (s.paths.lookup p.pathID).isSome then (s, some .pathAlreadyExists)
    else if s.perspective = .client ∧ p.pathID % 2 ≠ 0 then (s, some .serverCreatesOddPath)
    else if s.perspective = .server ∧ p.pathID % 2 = 0 then (s, some .clientCreatesEvenPath)
    else (s.addPath pm p.pathID p.localAddr p.remoteAddr env, none)

/-- `path.handlePacketImpl` up to the frames, for the path of the packet; the frames are to be
handled if there is no error. -/
def openPacket (s : Session κ) (p : ReceivedPacket) (env : Env) :
    Outcome (Session κ) Err × List (Frame StreamFrame) :=
  match s.paths.lookup p.pathID with
  | none => ((s, some (.panic .nilPath)), [])
  | some pth =>
    if !pth.isOpen then ((s, none), [])
    else
      let pth := { pth with lastNetworkActivityTime := p.rcvTime, potentiallyFailed := false }
      let packetNumber :=
        inferPacketNumber p.packetNumberLen pth.largestRcvdPacketNumber p.packetNumber
      match unpack s.version packetNumber p.packetNumberLen p.opened with
      | .error .decryptionFailure => ((s.setPath p.pathID pth, some .decryptionFailure), [])
      | unpacked =>
        let pth := if s.perspective = .server then { pth with remoteAddr := p.remoteAddr } else pth
        match unpacked with
        | .error e => ((s.setPath p.pathID pth, some e), [])
        | .ok fs =>
          let (receivedPacketHandler, err) := pth.receivedPacketHandler.receivedPacket packetNumber
            (fs.any Frame.isRetransmittable) env.now
          let pth := { pth with
            lastRcvdPacketNumber := packetNumber
            largestRcvdPacketNumber := max pth.largestRcvdPacketNumber packetNumber
            receivedPacketHandler }
          ((s.setPath p.pathID pth, err), fs)

/-- `path.handlePacketImpl`. -/
def handlePathPacket (s : Session κ) (p : ReceivedPacket) (env : Env) : Outcome (Session κ) Err :=
  let (opened, fs) := s.openPacket p env
  opened.andThen fun s => s.handleFrames fs p.pathID env

/-- `session.handlePacketImpl`. -/
def handlePacketImpl (s : Session κ) (p : ReceivedPacket) (env : Env) : Outcome (Session κ) Err :=
  let s := { s with lastNetworkActivityTime := p.rcvTime, keepAlivePingSent := false }
  let found : Outcome (Session κ) Err :=
    if (s.paths.lookup p.pathID).isSome then (s, none) else s.createPathFromRemote p env
  found.andThen fun s => s.handlePathPacket p env

end Session
end MpQuic
