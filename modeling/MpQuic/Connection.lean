import MpQuic.Lib.Machine
import MpQuic.Scheduler

/-!
# Connections: the goroutines of a session (`session.run`, `pathManager.run`,
`path.run`, and the application)

A connection is a session together with the place its run loop is at: idle, in the
loop of `sendPacket`, stopped by an error, or closed.  An event is one step of one of
the goroutines; the run loop's events that receive packets, run timers and complete the
handshake happen between two calls of `sendPacket`, those of the path manager, the
paths, the handshake and the application at any time.

The timers are not modelled: whatever waits for one may happen at any time.
-/
namespace MpQuic
open Systems Outcome

namespace Session
variable {κ : Type} [SendAlgorithm κ]

/-! ## The rest of the run loop -/

/-- `OnAlarm` of a path, with `onRTO`, if its alarm is due. -/
def onAlarm (s : Session κ) (pathID : Nat) (env : Env) : Session κ :=
  match s.paths.lookup pathID with
  | none => s
  | some pth =>
    let h := pth.sentPacketHandler
    if h.alarm.any (· < env.now) then
      if h.rtoDue ∧ h.lastSentTime.any (pth.lastNetworkActivityTime < ·) then
        (s.setPath pathID { pth with
          sentPacketHandler := h.onAlarm true env.now
          potentiallyFailed := true }).schedulePathsFrame env
      else s.setPath pathID { pth with sentPacketHandler := h.onAlarm false env.now }
    else s

/-- The removal of a finished stream in `garbageCollectStreams`. -/
def collectStream (s : Session κ) (id : Nat) (str : Stream) : Session κ :=
  if str.finished then
    s.setFramer { s.streamFramer with
      streamsMap := s.streamsMap.removeStream id
      flowControlManager := s.streamFramer.flowControlManager.removeStream id }
  else s

/-- The iteration of `garbageCollectStreams`, which ends at a stream that is not in the map. -/
def collectStreams : List Nat → Session κ → Session κ
  | [], s => s
  | id :: ids, s =>
    match s.streamsMap.streams.lookup id with
    | none => s
    | some str => collectStreams ids (s.collectStream id str)

/-- `garbageCollectStreams`. -/
def garbageCollectStreams (s : Session κ) : Session κ := collectStreams s.streamsMap.openStreams s

/-- The PING frames of a connection that is kept alive. -/
def keepAlive (s : Session κ) : Session κ :=
  let s := s.paths.keys.foldl (fun s pathID => s.queueControlFrame .ping pathID) s
  { s with keepAlivePingSent := true }

/-- The close request for a path of the table, if it is open. -/
def requestClose (s : Session κ) (pathID : Nat) : Session κ :=
  match s.paths.lookup pathID with
  | none => s
  | some pth => if pth.isOpen then s.setPath pathID { pth with closeRequested := true } else s

/-- `pathManager.closePaths`. -/
def closePaths (s : Session κ) : Session κ := s.paths.keys.foldl requestClose s

/-- `sendConnectionClose`. -/
def sendConnectionClose (s : Session κ) (ccf : ConnectionCloseFrame) (env : Env) :
    Outcome (Session κ) Err :=
  match s.paths.lookup initialPathID with
  | none => (s, some (.panic .nilPath))
  | some pth =>
    let pth := pth.setLeastUnacked
    let s := s.setPath initialPathID pth
    orElseKeep s (s.packer.packConnectionClose s.handshakeComplete ccf pth env.now
        (env.randomFor pth)) fun (packer, pth, _) =>
      ({ s with packer }.setPath initialPathID pth, none)

/-! ## The other goroutines -/

/-- A round of `pathManager.run`; only an error of the first one closes the paths. -/
def runPathManager (s : Session κ) (localAddrs : List UDPAddr) (first : Bool) (env : Env) :
    Outcome (Session κ) Err :=
  match s.pathManager with
  | none => (s, none)
  | some pm =>
    let pm := { pm with localAddrs }
    match { s with pathManager := some pm }.createPathsNow pm env with
    | (s, none) => (s, none)
    | (s, some e) =>
      if e.isPanic then (s, some e) else (if first then s.closePaths else s, none)

/-- The end of `path.run`. -/
def pathClosed (s : Session κ) (pathID : Nat) : Session κ :=
  match s.paths.lookup pathID with
  | none => s
  | some pth => if pth.closeRequested then s.setPath pathID { pth with isOpen := false } else s

/-- A change of the congestion controller of a path by those of the other paths. -/
def setCongestion (s : Session κ) (pathID : Nat) (congestion : κ) : Session κ :=
  match s.paths.lookup pathID with
  | none => s
  | some pth =>
    s.setPath pathID { pth with sentPacketHandler := { pth.sentPacketHandler with congestion } }

/-- The keys for a level installed by the handshake. -/
def installKeys (s : Session κ) (encLevel : EncryptionLevel) (diversificationNonce : List Byte) :
    Session κ :=
  let c := s.packer.cryptoSetup
  { s with packer := { s.packer with cryptoSetup := { c with
      secureAEAD := c.secureAEAD || encLevel == .secure
      forwardSecureAEAD := c.forwardSecureAEAD || encLevel == .forwardSecure
      diversificationNonce } } }

/-- A call of a method of a stream by the application or, for stream 1, by the handshake. -/
def onStream (s : Session κ) (id : Nat) (f : Stream → Stream) : Session κ :=
  match s.streamsMap.streams.lookup id with
  | none => s
  | some str => s.setFramer (s.streamFramer.setStream id (f str))

/-- `Reset` of a stream. -/
def resetStream (s : Session κ) (id : Nat) (err : Option String) : Session κ :=
  match s.streamsMap.streams.lookup id with
  | none => s
  | some str =>
    let (str, offset) := str.reset err
    (s.setFramer (s.streamFramer.setStream id str)).queueResetStreamFrame id offset

/-- `Read` of a stream. -/
def readStream (s : Session κ) (id : Nat) (len : Nat) (clock : Nat → Int) : Session κ :=
  match s.streamsMap.streams.lookup id with
  | none => s
  | some str =>
    let str' := (str.read clock len).1
    let fc := s.streamFramer.flowControlManager
    let n := str'.readOffset - str.readOffset
    let fc := if str.resetRemotely ∨ n = 0 then fc else fc.addBytesRead id n (clock 0)
    s.setFramer ({ s.streamFramer with flowControlManager := fc }.setStream id str')

end Session

/-! ## The machine -/

/-- A session and its run loop.  `sending` is set in the loop of `sendPacket`, and `error` is what
has stopped the run loop: the connection can only be closed then, or has crashed. -/
structure Connection (κ : Type) where
  session : Session κ
  sending : Option (List WindowUpdateFrame) := none
  error : Option Err := none
  closed : Bool := false

/-- What the goroutines of a connection do next. -/
inductive Event (κ : Type)
  -- the run loop
  | receive (p : ReceivedPacket) (env : Env)
  | alarm (pathID : Nat) (env : Env)
  | handshakeCompleted
  | keepAlive
  | startSending (env : Env)
  | sendRound (sch : Scheduler) (d : Draws) (env : Env)
  | schedulePathsFrame (env : Env)
  | garbageCollect
  | close (ccf : Option ConnectionCloseFrame) (env : Env)
  -- the handshake
  | installKeys (encLevel : EncryptionLevel) (diversificationNonce : List Byte)
  | setParameters (params : ConnectionParameters)
  -- the path manager, the paths and their congestion controllers
  | runPathManager (localAddrs : List UDPAddr) (first : Bool) (env : Env)
  | pathClosed (pathID : Nat)
  | setCongestion (pathID : Nat) (congestion : κ)
  -- the streams
  | openStream
  | acceptStream
  | read (id len : Nat) (clock : Nat → Int)
  | write (id : Nat) (p : List Byte)
  | closeStream (id : Nat)
  | resetStream (id : Nat) (err : Option String)

/-- The surroundings of an event. -/
def Event.env {κ : Type} : Event κ → Option Env
  | .receive _ env | .alarm _ env | .startSending env | .sendRound _ _ env
  | .schedulePathsFrame env | .close _ env | .runPathManager _ _ env => some env
  | _ => none

namespace Connection
variable {κ : Type} [SendAlgorithm κ]

/-- The session is running: no error has stopped it, and it is not closed. -/
structure Running (c : Connection κ) : Prop where
  error : c.error = none
  closed : c.closed = false

/-- The run loop waits for something to happen. -/
structure Idle (c : Connection κ) : Prop extends Running c where
  sending : c.sending = none

/-- The goroutines go on after an error of the run loop, but not after a panic. -/
def Alive (c : Connection κ) : Prop := c.closed = false ∧ ∀ e ∈ c.error, e.isPanic = false

/-- When an event is possible. -/
def Enabled (c : Connection κ) : Event κ → Prop
  | .receive _ env => c.Idle ∧ env.Valid
  | .alarm _ env => c.Idle ∧ env.Valid
  | .handshakeCompleted => c.Idle ∧ c.session.packer.cryptoSetup.forwardSecureAEAD = true
  | .keepAlive => c.Idle ∧ c.session.handshakeComplete = true
  | .startSending env => c.Idle ∧ env.Valid
  | .sendRound _ _ env => c.Running ∧ c.sending.isSome ∧ env.Valid
  | .schedulePathsFrame env => c.Idle ∧ env.Valid
  | .garbageCollect => c.Idle
  | .close _ env => c.Alive ∧ c.sending = none ∧ env.Valid
  | .runPathManager _ _ env => c.Alive ∧ c.session.handshakeComplete = true ∧
      c.session.createPaths = true ∧ env.Valid
  | _ => c.Alive

/-- The connection after a procedure of its run loop. -/
def after (c : Connection κ) (r : Outcome (Session κ) Err) : Connection κ :=
  { c with session := r.1, error := r.2 }

/-- The connection after a procedure of another goroutine, which only stops it by a panic. -/
def withSession (c : Connection κ) (session : Session κ) : Connection κ := { c with session }

/-- The connection after an event. -/
def apply (c : Connection κ) : Event κ → Connection κ
  | .receive p env =>
    c.after ((c.session.handlePacketImpl p env).ignoring (· == .decryptionFailure))
  | .alarm pathID env => c.withSession (c.session.onAlarm pathID env)
  | .handshakeCompleted => c.withSession { c.session with handshakeComplete := true }
  | .keepAlive => c.withSession c.session.keepAlive
  | .startSending env =>
    let (session, windowUpdateFrames) := c.session.startSending env
    { c with session, sending := some windowUpdateFrames }
  | .sendRound sch d env =>
    let (sent, next) := c.session.sendRound (c.sending.getD []) sch d env
    { c.after sent with sending := if sent.2.isSome then none else next }
  | .schedulePathsFrame env => c.withSession (c.session.schedulePathsFrame env)
  | .garbageCollect => c.withSession c.session.garbageCollectStreams
  | .close none _ => { c with closed := true }
  | .close (some ccf) env =>
    { c with session := (c.session.sendConnectionClose ccf env).1, closed := true }
  | .installKeys encLevel nonce => c.withSession (c.session.installKeys encLevel nonce)
  | .setParameters connectionParameters => c.withSession (c.session.setFramer
      { c.session.streamFramer with connectionParameters })
  | .runPathManager localAddrs first env =>
    match c.session.runPathManager localAddrs first env with
    | (session, none) => c.withSession session
    | (session, some e) => { c with session, error := some e }
  | .pathClosed pathID => c.withSession (c.session.pathClosed pathID)
  | .setCongestion pathID congestion => c.withSession (c.session.setCongestion pathID congestion)
  | .openStream => c.withSession (c.session.setFramer c.session.streamFramer.openStream.1)
  | .acceptStream => c.withSession (c.session.setFramer { c.session.streamFramer with
      streamsMap := c.session.streamsMap.acceptStream.1 })
  | .read id len clock => c.withSession (c.session.readStream id len clock)
  | .write id p => c.withSession (c.session.onStream id (·.write p))
  | .closeStream id => c.withSession (c.session.onStream id Stream.close)
  | .resetStream id err => c.withSession (c.session.resetStream id err)

/-- A new connection: any session that has just been set up.  The AEADs of the source add between 8
and 16 bytes. -/
inductive Initial : Connection κ → Prop
  | new (perspective : Perspective) (version : Int) (connectionID : Nat) (createPaths : Bool)
      (maxReceiveStreamWindow maxReceiveConnectionWindow : Nat) (idleTimeout : Int)
      {overhead : EncryptionLevel → Nat} (hoverhead : ∀ encLevel, overhead encLevel ≤ 16)
      (localAddr remoteAddr : UDPAddr) (localAddrs : Option (List UDPAddr)) (now : Int) :
      Initial ⟨.new perspective version connectionID createPaths
        (.new maxReceiveStreamWindow maxReceiveConnectionWindow idleTimeout) overhead
        localAddr remoteAddr localAddrs now, none, none, false⟩

/-- The connections of this implementation. -/
def machine (κ : Type) [SendAlgorithm κ] : Machine (Connection κ) (Event κ) where
  init := Initial
  step c e c' := c.Enabled e ∧ c' = c.apply e

/-- The states of all runs. -/
def Reachable (c : Connection κ) : Prop := (machine κ).Reach Machine.Always c

/-! ## Runs of given events -/

/-- An event is possible, whatever it finds in its surroundings. -/
def ready (c : Connection κ) (e : Event κ) : Bool :=
  c.error.isNone && !c.closed &&
    match e with
    | .sendRound .. => c.sending.isSome
    | .handshakeCompleted => c.sending.isNone && c.session.packer.cryptoSetup.forwardSecureAEAD
    | .keepAlive => c.sending.isNone && c.session.handshakeComplete
    | .receive .. | .alarm .. | .startSending _ | .schedulePathsFrame _ | .garbageCollect
    | .close .. => c.sending.isNone
    | .runPathManager .. => c.session.handshakeComplete && c.session.createPaths
    | _ => true

omit [SendAlgorithm κ] in
/-- The executable check of an event implies that the event is possible. -/
theorem enabled_of_ready {c : Connection κ} {e : Event κ} (h : c.ready e = true)
    (henv : ∀ env ∈ e.env, env.Valid) : c.Enabled e := by
  unfold ready at h
  rw [Bool.and_eq_true, Bool.and_eq_true, Option.isNone_iff_eq_none, Bool.not_eq_true'] at h
  obtain ⟨⟨herror, hclosed⟩, hrest⟩ := h
  have hrunning : c.Running := ⟨herror, hclosed⟩
  have halive : c.Alive := ⟨hclosed, by simp [herror]⟩
  have hidle (hsending : c.sending.isNone = true) : c.Idle :=
    ⟨hrunning, Option.isNone_iff_eq_none.mp hsending⟩
  cases e with
  | receive p env => exact ⟨hidle hrest, henv env rfl⟩
  | alarm pathID env => exact ⟨hidle hrest, henv env rfl⟩
  | handshakeCompleted =>
    rw [Bool.and_eq_true] at hrest
    exact ⟨hidle hrest.1, hrest.2⟩
  | keepAlive =>
    rw [Bool.and_eq_true] at hrest
    exact ⟨hidle hrest.1, hrest.2⟩
  | startSending env => exact ⟨hidle hrest, henv env rfl⟩
  | sendRound sch d env => exact ⟨hrunning, hrest, henv env rfl⟩
  | schedulePathsFrame env => exact ⟨hidle hrest, henv env rfl⟩
  | garbageCollect => exact hidle hrest
  | close ccf env => exact ⟨halive, Option.isNone_iff_eq_none.mp hrest, henv env rfl⟩
  | runPathManager localAddrs first env =>
    rw [Bool.and_eq_true] at hrest
    exact ⟨halive, hrest.1, hrest.2, henv env rfl⟩
  | _ => exact halive

/-- Events that are possible one after the other lead on from a state that is reached. -/
theorem reach_foldl {C : Connection κ → Event κ → Prop} {c : Connection κ} {es : List (Event κ)}
    (h : (machine κ).Reach C c) (hready : Machine.Meets (fun c e => c.ready e = true) apply c es)
    (henv : ∀ e ∈ es, ∀ env ∈ e.env, env.Valid) (hC : ∀ c, ∀ e ∈ es, C c e) :
    (machine κ).Reach C (es.foldl apply c) := by
  refine h.foldl_of_mem ?_ hready
  intro c e he hc
  exact ⟨hC c e he, enabled_of_ready hc (henv e he), rfl⟩

/-- A new connection between two hosts with fixed congestion windows. -/
def sample (perspective : Perspective) : Connection FixedWindow :=
  ⟨.sample perspective, none, none, false⟩

theorem initial_sample (perspective : Perspective) : Initial (sample perspective) :=
  .new _ _ _ _ _ _ _ (fun _ => by decide) ..

/-- A round with the default scheduler at a point in time. -/
def sendLowestRTT (now : Int) : Event FixedWindow :=
  .sendRound { schedulerName := .rtt } { float64 := 0 } { now }

/-- A packet of the peer, in which `Open` finds the frames. -/
def receiveFrames (pathID packetNumber : Nat) (frames : List Byte) (now : Int) :
    Event FixedWindow :=
  .receive { pathID, packetNumber, packetNumberLen := 2, localAddr := Session.sampleAddr 1 443,
             remoteAddr := Session.sampleAddr 2 443, rcvTime := now,
             opened := some (frames, .unencrypted) } { now }

end Connection
end MpQuic
