import MpQuic.Congestion
import MpQuic.Errors

/-!
# Flow control (`internal/flowcontrol`)

One controller per stream and one for the connection.  The negotiated parameters
are those of `handshake.ConnectionParametersManager`; they change during the
handshake, so every function that reads them takes them as an argument.
-/
namespace MpQuic

/-- The values of `handshake.ConnectionParametersManager` that the session reads. -/
structure ConnectionParameters where
  sendStreamFlowControlWindow : Nat
  sendConnectionFlowControlWindow : Nat
  receiveStreamFlowControlWindow : Nat
  maxReceiveStreamFlowControlWindow : Nat
  receiveConnectionFlowControlWindow : Nat
  maxReceiveConnectionFlowControlWindow : Nat
  maxOutgoingStreams : Nat
  maxIncomingStreams : Nat
  idleConnectionStateLifetime : Int
  truncateConnectionID : Bool
  deriving DecidableEq, Repr

/-- `NewConnectionParamatersManager`.  Stream and connection windows start at the protocol's
values, and `GetMaxIncomingStreams` is a constant. -/
def ConnectionParameters.new (maxReceiveStreamFlowControlWindow
    maxReceiveConnectionFlowControlWindow : Nat) (idleTimeout : Int) : ConnectionParameters :=
  { sendStreamFlowControlWindow := 2 ^ 14
    sendConnectionFlowControlWindow := 2 ^ 14
    receiveStreamFlowControlWindow := 32 * 2 ^ 10
    maxReceiveStreamFlowControlWindow
    receiveConnectionFlowControlWindow := 48 * 2 ^ 10
    maxReceiveConnectionFlowControlWindow
    maxOutgoingStreams := 100
    maxIncomingStreams := 110
    idleConnectionStateLifetime := idleTimeout
    truncateConnectionID := false }

/-- `flowController`. -/
structure FlowController where
  streamID : Nat
  contributesToConnection : Bool
  bytesSent : Nat := 0
  sendWindow : Nat := 0
  bytesRetrans : Nat := 0
  lastWindowUpdateTime : Option Int := none
  bytesRead : Nat := 0
  highestReceived : Nat := 0
  receiveWindow : Nat
  receiveWindowIncrement : Nat
  maxReceiveWindowIncrement : Nat
  deriving DecidableEq, Repr

namespace FlowController

/-- `newFlowController`. -/
def new (params : ConnectionParameters) (streamID : Nat) (contributesToConnection : Bool) :
    FlowController :=
  if streamID = 0 then
    { streamID, contributesToConnection
      receiveWindow := params.receiveConnectionFlowControlWindow
      receiveWindowIncrement := params.receiveConnectionFlowControlWindow
      maxReceiveWindowIncrement := params.maxReceiveConnectionFlowControlWindow }
  else
    { streamID, contributesToConnection
      receiveWindow := params.receiveStreamFlowControlWindow
      receiveWindowIncrement := params.receiveStreamFlowControlWindow
      maxReceiveWindowIncrement := params.maxReceiveStreamFlowControlWindow }

/-- `getSendWindow`. -/
def getSendWindow (c : FlowController) (params : ConnectionParameters) : Nat :=
  if c.sendWindow = 0 then
    if c.streamID = 0 then params.sendConnectionFlowControlWindow
    else params.sendStreamFlowControlWindow
  else c.sendWindow

/-- `AddBytesSent`. -/
def addBytesSent (c : FlowController) (n : Nat) : FlowController :=
  { c with bytesSent := add64 c.bytesSent n }

/-- `AddBytesRetrans`. -/
def addBytesRetrans (c : FlowController) (n : Nat) : FlowController :=
  { c with bytesRetrans := add64 c.bytesRetrans n }

/-- `UpdateSendWindow`. -/
def updateSendWindow (c : FlowController) (newOffset : Nat) : FlowController :=
  if c.sendWindow < newOffset then { c with sendWindow := newOffset } else c

/-- `SendWindowSize`. -/
def sendWindowSize (c : FlowController) (params : ConnectionParameters) : Nat :=
  c.getSendWindow params - c.bytesSent

/-- `UpdateHighestReceived`: the increment, or nothing for `ErrReceivedSmallerByteOffset`. -/
def updateHighestReceived (c : FlowController) (byteOffset : Nat) : FlowController × Option Nat :=
  if byteOffset = c.highestReceived then (c, some 0)
  else if c.highestReceived < byteOffset then
    ({ c with highestReceived := byteOffset }, some (byteOffset - c.highestReceived))
  else (c, none)

/-- `IncrementHighestReceived`. -/
def incrementHighestReceived (c : FlowController) (increment : Nat) : FlowController :=
  { c with highestReceived := add64 c.highestReceived increment }

/-- `AddBytesRead`. -/
def addBytesRead (c : FlowController) (n : Nat) (now : Int) : FlowController :=
  let c := if c.bytesRead = 0 then { c with lastWindowUpdateTime := some now } else c
  { c with bytesRead := add64 c.bytesRead n }

/-- `maybeAdjustWindowIncrement`. -/
def maybeAdjustWindowIncrement (c : FlowController) (rtt : Int) (remoteRTTs : List Int)
    (now : Int) : FlowController :=
  match c.lastWindowUpdateTime with
  | none => c
  | some lastWindowUpdateTime =>
    if rtt = 0 then c
    else
      let maxRemoteRTT := remoteRTTs.foldl max 0
      if 2 * max rtt maxRemoteRTT ≤ now - lastWindowUpdateTime then c
      else
        let receiveWindowIncrement :=
          min (2 * c.receiveWindowIncrement % 2 ^ 64) c.maxReceiveWindowIncrement
        { c with receiveWindowIncrement }

/-- `MaybeUpdateWindow`: whether an update is necessary, the new increment and the offset. -/
def maybeUpdateWindow (c : FlowController) (rtt : Int) (remoteRTTs : List Int) (now : Int) :
    FlowController × Bool × Nat × Nat :=
  let diff := sub64 c.receiveWindow c.bytesRead
  if diff < c.receiveWindowIncrement / 2 then
    let oldWindowIncrement := c.receiveWindowIncrement
    let c := c.maybeAdjustWindowIncrement rtt remoteRTTs now
    let newWindowIncrement :=
      if c.receiveWindowIncrement ≠ oldWindowIncrement then c.receiveWindowIncrement else 0
    let c := { c with
      lastWindowUpdateTime := some now
      receiveWindow := add64 c.bytesRead c.receiveWindowIncrement }
    (c, true, newWindowIncrement, c.receiveWindow)
  else (c, false, c.receiveWindowIncrement, c.receiveWindow)

/-- `EnsureMinimumWindowIncrement`. -/
def ensureMinimumWindowIncrement (c : FlowController) (inc : Nat) : FlowController :=
  if c.receiveWindowIncrement < inc then
    { c with
      receiveWindowIncrement := min inc c.maxReceiveWindowIncrement
      lastWindowUpdateTime := none }
  else c

/-- `CheckFlowControlViolation`. -/
def checkFlowControlViolation (c : FlowController) : Bool := c.receiveWindow < c.highestReceived

end FlowController

/-- `flowControlManager`. -/
structure FlowControlManager where
  streamFlowController : GoMap FlowController := ∅
  connFlowController : FlowController

namespace FlowControlManager

/-- `NewFlowControlManager`. -/
def new (params : ConnectionParameters) : FlowControlManager :=
  { connFlowController := .new params 0 false }

/-- `NewStream`. -/
def newStream (f : FlowControlManager) (params : ConnectionParameters) (streamID : Nat)
    (contributesToConnection : Bool) : FlowControlManager :=
  match f.streamFlowController.lookup streamID with
  | some _ => f
  | none => { f with streamFlowController :=
      f.streamFlowController.insert streamID (.new params streamID contributesToConnection) }

/-- `RemoveStream`. -/
def removeStream (f : FlowControlManager) (streamID : Nat) : FlowControlManager :=
  { f with streamFlowController := f.streamFlowController.erase streamID }

/-- A change of the controller of a stream and, if the stream contributes to it, of the
connection. -/
def modify (f : FlowControlManager) (streamID : Nat) (change : FlowController → FlowController) :
    FlowControlManager :=
  match f.streamFlowController.lookup streamID with
  | none => f
  | some fc =>
    { streamFlowController := f.streamFlowController.insert streamID (change fc)
      connFlowController :=
        if fc.contributesToConnection then change f.connFlowController else f.connFlowController }

/-- The checks `ResetStream` and `UpdateHighestReceived` end with. -/
def countReceived (f : FlowControlManager) (streamID : Nat) (fc : FlowController)
    (increment : Nat) : FlowControlManager × Option Err :=
  let f := { f with streamFlowController := f.streamFlowController.insert streamID fc }
  if fc.checkFlowControlViolation then (f, some (.flowControlReceivedTooMuchData streamID))
  else if fc.contributesToConnection then
    let conn := f.connFlowController.incrementHighestReceived increment
    ({ f with connFlowController := conn },
      if conn.checkFlowControlViolation then some (.flowControlReceivedTooMuchData 0) else none)
  else (f, none)

/-- `ResetStream`. -/
def resetStream (f : FlowControlManager) (streamID byteOffset : Nat) :
    FlowControlManager × Option Err :=
  match f.streamFlowController.lookup streamID with
  | none => (f, some .flowControllerMapAccess)
  | some fc =>
    match fc.updateHighestReceived byteOffset with
    | (_, none) => (f, some .streamDataAfterTermination)
    | (fc, some increment) => f.countReceived streamID fc increment

/-- `UpdateHighestReceived`. -/
def updateHighestReceived (f : FlowControlManager) (streamID byteOffset : Nat) :
    FlowControlManager × Option Err :=
  match f.streamFlowController.lookup streamID with
  | none => (f, some .flowControllerMapAccess)
  | some fc =>
    let (fc, increment) := fc.updateHighestReceived byteOffset
    f.countReceived streamID fc (increment.getD 0)

/-- `AddBytesRead`. -/
def addBytesRead (f : FlowControlManager) (streamID n : Nat) (now : Int) : FlowControlManager :=
  f.modify streamID (·.addBytesRead n now)

/-- `AddBytesSent`. -/
def addBytesSent (f : FlowControlManager) (streamID n : Nat) : FlowControlManager :=
  f.modify streamID (·.addBytesSent n)

/-- `AddBytesRetrans`. -/
def addBytesRetrans (f : FlowControlManager) (streamID n : Nat) : FlowControlManager :=
  f.modify streamID (·.addBytesRetrans n)

/-- `GetReceiveWindow`. -/
def getReceiveWindow (f : FlowControlManager) (streamID : Nat) : Option Nat :=
  if streamID = 0 then some f.connFlowController.receiveWindow
  else (f.streamFlowController.lookup streamID).map (·.receiveWindow)

/-- `SendWindowSize`, 0 with `errMapAccess`, as its callers ignore the error. -/
def sendWindowSize (f : FlowControlManager) (params : ConnectionParameters) (streamID : Nat) :
    Nat :=
  match f.streamFlowController.lookup streamID with
  | none => 0
  | some fc =>
    if fc.contributesToConnection then
      min (fc.sendWindowSize params) (f.connFlowController.sendWindowSize params)
    else fc.sendWindowSize params

/-- `RemainingConnectionWindowSize`. -/
def remainingConnectionWindowSize (f : FlowControlManager) (params : ConnectionParameters) : Nat :=
  f.connFlowController.sendWindowSize params

/-- `UpdateWindow`. -/
def updateWindow (f : FlowControlManager) (streamID offset : Nat) :
    FlowControlManager × Option Err :=
  if streamID = 0 then
    ({ f with connFlowController := f.connFlowController.updateSendWindow offset }, none)
  else
    match f.streamFlowController.lookup streamID with
    | none => (f, some .flowControllerMapAccess)
    | some fc =>
      ({ f with streamFlowController :=
          f.streamFlowController.insert streamID (fc.updateSendWindow offset) }, none)

/-- One round of the loop of `GetWindowUpdates` over the streams. -/
def streamWindowUpdate (rtt : Int) (remoteRTTs : List Int) (now : Int) (force : Bool)
    (f : FlowControlManager) (id : Nat) : FlowControlManager × List (Nat × Nat) :=
  match f.streamFlowController.lookup id with
  | none => (f, [])
  | some fc =>
    let (fc, necessary, newIncrement, offset) := fc.maybeUpdateWindow rtt remoteRTTs now
    let f := { f with streamFlowController := f.streamFlowController.insert id fc }
    if force || necessary then
      let conn :=
        if fc.contributesToConnection && newIncrement != 0 then
          f.connFlowController.ensureMinimumWindowIncrement
            (Float.ofNat newIncrement * 1.5).toUInt64.toNat
        else f.connFlowController
      ({ f with connFlowController := conn }, [(id, offset)])
    else (f, [])

/-- `GetWindowUpdates`: the streams and offsets to announce.  `order` is the order in which the
map of controllers is visited. -/
def getWindowUpdates (f : FlowControlManager) (rtt : Int) (remoteRTTs : List Int) (now : Int)
    (force : Bool) (order : List Nat) : FlowControlManager × List (Nat × Nat) :=
  let (f, res) := order.foldl (fun (f, res) id =>
    let (f, update) := streamWindowUpdate rtt remoteRTTs now force f id
    (f, res ++ update)) (f, [])
  let (conn, necessary, _, offset) := f.connFlowController.maybeUpdateWindow rtt remoteRTTs now
  ({ f with connFlowController := conn },
    if force || necessary then res ++ [(0, offset)] else res)

end FlowControlManager
end MpQuic
