import MpQuic.Connection
import MpQuic.Panics
import MpQuic.QuietUnpack

/-!
# The nil pointers of a session

A session can come upon a stream or a packet that is nil in two places only.  The
crypto stream is missing when a packet is composed, and `ackRemainingPaths` finds that
there is nothing to pack.  `Explains` says so of an error and of the session it was
found in; one lemma per procedure, up to the events of a connection.
-/
namespace MpQuic
open Systems Outcome

/-- The panics of the lookups in tables. -/
def Err.OfLookup (e : Err) : Prop := e = .panic .nilPath ∨ e = .panic .indexOutOfRange

namespace Session
variable {κ : Type} {s : Session κ}

/-! ## Selecting a path -/

section Selection
variable [SendAlgorithm κ] {r : Retransmission} {env : Env}

theorem onlyInitialPath_fails (s : Session κ) (hasRetransmission : Bool) :
    FailsOnly Err.OfLookup (s.onlyInitialPath hasRetransmission) := by
  rw [onlyInitialPath]
  split
  · split_ifs
    · exact failsOnly_ok _
    · exact (failsOnly_error _).mpr (.inl rfl)
  · split_ifs
    · exact failsOnly_ok _
    · exact failsOnly_ok _

variable {x : Selected}

omit [SendAlgorithm κ] in
theorem orByLowQuota_fails (hx : FailsOnly Err.OfLookup x) :
    FailsOnly Err.OfLookup (s.orByLowQuota r env x) := by
  have hquota : FailsOnly Err.OfLookup (s.byLowQuota r env) := by
    rw [byLowQuota]
    split_ifs
    · split
      · exact (failsOnly_error _).mpr (.inl rfl)
      · split_ifs
        · exact failsOnly_ok _
        · exact failsOnly_ok _
    · exact failsOnly_ok _
  rw [orByLowQuota]
  split
  · next e he => exact (failsOnly_error _).mpr (hquota.error e he)
  · exact failsOnly_ok _
  · exact hx

theorem amongPaths_fails (hx : FailsOnly Err.OfLookup x) :
    FailsOnly Err.OfLookup (s.amongPaths r env x) := by
  rw [amongPaths]
  split_ifs
  · exact onlyInitialPath_fails ..
  · exact orByLowQuota_fails hx

theorem amongManyPaths_fails (hx : FailsOnly Err.OfLookup x) :
    FailsOnly Err.OfLookup (s.amongManyPaths r env x) := by
  rw [amongManyPaths]
  split_ifs
  · exact onlyInitialPath_fails ..
  · split
    · exact failsOnly_ok _
    · exact orByLowQuota_fails hx
  · exact orByLowQuota_fails hx

theorem ifAllowed_fails (hx : FailsOnly Err.OfLookup x) (pathID : Nat) :
    FailsOnly Err.OfLookup (s.ifAllowed pathID x) := by
  rw [ifAllowed]
  split
  · exact (failsOnly_error _).mpr (.inl rfl)
  · split_ifs
    · exact failsOnly_ok _
    · exact hx

theorem orInitialPath_fails (hasRetransmission : Bool) :
    FailsOnly Err.OfLookup (s.orInitialPath hasRetransmission) := by
  rw [orInitialPath]
  split_ifs
  · exact ifAllowed_fails (failsOnly_ok _) _
  · exact failsOnly_ok _

omit [SendAlgorithm κ] in
theorem withActions_fails {available : List Nat} {q₀ q₁ : Float} {act : Nat → Nat → Nat → Selected}
    (hact : ∀ action pathID pathID₂, FailsOnly Err.OfLookup (act action pathID pathID₂)) :
    FailsOnly Err.OfLookup (withActions available q₀ q₁ act) := by
  rw [withActions, withAction]
  split
  · exact hact ..
  · exact (failsOnly_error _).mpr (.inr rfl)

theorem chooseBest_fails (hasRetransmission : Bool) (t : TwoBest)
    (useSecond : Path κ → Path κ → Bool) :
    FailsOnly Err.OfLookup (s.chooseBest hasRetransmission t useSecond) := by
  rw [chooseBest]
  split
  · exact failsOnly_ok _
  split
  · exact (failsOnly_error _).mpr (.inl rfl)
  split_ifs
  · exact failsOnly_ok _
  split
  · exact failsOnly_ok _
  split
  · exact (failsOnly_error _).mpr (.inl rfl)
  · exact failsOnly_ok _

theorem peekChoose_fails (sch : Scheduler) (d : Draws) (hasRetransmission : Bool) (t : TwoBest) :
    FailsOnly Err.OfLookup (s.peekChoose sch d hasRetransmission t) := by
  rw [peekChoose]
  split
  · exact failsOnly_ok _
  · exact ifAllowed_fails (failsOnly_ok _) _
  · refine ifAllowed_fails ?_ _
    split_ifs
    · exact ifAllowed_fails (failsOnly_ok _) _
    · exact chooseBest_fails ..

theorem selectPathLowLatency_fails : FailsOnly Err.OfLookup (s.selectPathLowLatency r env) :=
  amongPaths_fails (failsOnly_ok _)

theorem actQSAT_fails (hasRetransmission : Bool) (pathID pathID₂ : Nat) :
    FailsOnly Err.OfLookup (s.actQSAT hasRetransmission pathID pathID₂) := by
  have hlast : FailsOnly Err.OfLookup (s.ifAllowed pathID (s.orInitialPath hasRetransmission)) :=
    ifAllowed_fails (orInitialPath_fails _) _
  rw [actQSAT]
  split_ifs
  · exact ifAllowed_fails hlast _
  · exact hlast

theorem actQlearning_fails (hasRetransmission : Bool) (pathID pathID₂ : Nat) :
    FailsOnly Err.OfLookup (s.actQlearning hasRetransmission pathID pathID₂) := by
  have hlast : FailsOnly Err.OfLookup (s.orInitialPath hasRetransmission) := orInitialPath_fails _
  rw [actQlearning]
  refine ifAllowed_fails ?_ _
  split_ifs
  · exact ifAllowed_fails hlast _
  · exact hlast

theorem actWithin_fails (spare : Nat → Bool) (action pathID pathID₂ : Nat) :
    FailsOnly Err.OfLookup (s.actWithin spare action pathID pathID₂) := by
  rw [actWithin]
  split_ifs
  · exact ifAllowed_fails (ifAllowed_fails (failsOnly_ok _) _) _
  · exact ifAllowed_fails (failsOnly_ok _) _
  · exact ifAllowed_fails (failsOnly_ok _) _
  · exact failsOnly_ok _

theorem selectByProbability_fails (payload : RewardPayload) (sch : Scheduler) (d : Draws) :
    FailsOnly Err.OfLookup (selectByProbability payload sch d s r env) := by
  refine amongManyPaths_fails ?_
  rw [chooseByProbability]
  split
  · exact selectPathLowLatency_fails
  split
  · exact failsOnly_ok _
  split
  · exact (failsOnly_error _).mpr (.inr rfl)
  · exact ifAllowed_fails (orInitialPath_fails _) _

/-- **The errors of a selection** are those of looking up a path. -/
theorem selectPath_fails (sch : Scheduler) (d : Draws) :
    FailsOnly Err.OfLookup (s.selectPath sch d r env) := by
  have hlow : FailsOnly Err.OfLookup (s.selectPathLowLatency r env) := selectPathLowLatency_fails
  rw [selectPath]
  split
  · exact hlow
  · exact amongManyPaths_fails (ifAllowed_fails (orInitialPath_fails _) _)
  · exact amongPaths_fails (peekChoose_fails ..)
  · exact hlow
  · exact amongPaths_fails (chooseBest_fails ..)
  · exact amongPaths_fails (chooseBest_fails ..)
  · exact amongManyPaths_fails (orInitialPath_fails _)
  · exact selectByProbability_fails ..
  · exact selectByProbability_fails ..
  · rw [selectPathQSAT]
    split_ifs
    · exact hlow
    · refine amongManyPaths_fails ?_
      split_ifs
      · exact hlow
      · exact withActions_fails fun _ => actQSAT_fails _
  · rw [selectPathQlearning]
    split_ifs
    · exact hlow
    · refine amongManyPaths_fails ?_
      split_ifs
      · exact hlow
      · exact withActions_fails fun _ => actQlearning_fails _
  · rw [selectPathQlearningMultiClients]
    split_ifs
    · exact hlow
    · refine amongManyPaths_fails ?_
      split_ifs
      · exact hlow
      · exact withActions_fails (actWithin_fails _)

end Selection

/-! ## Errors and the session they are found in -/

/-- A stream that is nil is the missing crypto stream, and a packet is only nil if `nilPackets`. -/
structure Explains (nilPackets : Prop) (s : Session κ) (e : Err) : Prop where
  nilStream : e = .panic .nilStream → s.packer.cryptoStreamMissing
  nilPacket : e = .panic .nilPacket → nilPackets

variable {nilPackets : Prop} {e : Err}

theorem explains_of_notNil (h : e.NotNil) : Explains nilPackets s e :=
  ⟨fun he => absurd he h.2.1, fun he => absurd he h.2.2⟩

theorem explains_of_ofLookup (h : e.OfLookup) : Explains nilPackets s e := by
  rcases h with rfl | rfl
  · exact ⟨nofun, nofun⟩
  · exact ⟨nofun, nofun⟩

theorem explains_of_isPanic (h : e.isPanic = false) : Explains nilPackets s e := by
  constructor
  · rintro rfl
    cases h
  · rintro rfl
    cases h

theorem stopsWith_of_notNil {err : Option Err} (h : NotNil err) :
    StopsWith (Explains nilPackets) (s, err) := ⟨fun e he => explains_of_notNil (h.error e he)⟩

/-! ## Receiving packets -/

theorem withStream_explained (id : Nat) {missing : Option Err}
    {f : Session κ → Stream → Outcome (Session κ) Err} (hm : NotNil missing)
    (hf : ∀ s str, StopsWith (Explains nilPackets) (f s str)) :
    StopsWith (Explains nilPackets) (s.withStream id missing f) := by
  have herr := StreamFramer.getOrOpenStream_notNil s.streamFramer id
  rw [withStream]
  generalize s.streamFramer.getOrOpenStream id = opened at herr
  obtain ⟨framer, err⟩ := opened
  dsimp only at herr ⊢
  split
  · exact stopsWith_of_notNil herr
  · exact stopsWith_of_notNil hm
  · exact hf _ _

theorem handleStreamFrame_explained (f : StreamFrame) :
    StopsWith (Explains nilPackets) (s.handleStreamFrame f) := by
  refine withStream_explained _ notNil_none fun s str => ?_
  refine StopsWith.andThen ?_ fun s => ?_
  · exact stopsWith_of_notNil (FlowControlManager.updateHighestReceived_notNil ..)
  · generalize str.addStreamFrame f = added
    obtain ⟨str', _ | err⟩ := added
    · exact stopsWith_ok _
    · exact stopsWith_error ⟨nofun, nofun⟩

theorem handleRstStreamFrame_explained (f : RstStreamFrame) :
    StopsWith (Explains nilPackets) (s.handleRstStreamFrame f) :=
  withStream_explained _ (by simp [Err.NotNil]) fun _ _ =>
    stopsWith_of_notNil (FlowControlManager.resetStream_notNil ..)

theorem handleWindowUpdateFrame_explained (f : WindowUpdateFrame) :
    StopsWith (Explains nilPackets) (s.handleWindowUpdateFrame f) := by
  rw [handleWindowUpdateFrame]
  split
  · exact withStream_explained _ (by simp [Err.NotNil]) fun _ _ =>
      stopsWith_of_notNil (FlowControlManager.updateWindow_notNil ..)
  · exact stopsWith_of_notNil (FlowControlManager.updateWindow_notNil ..)

theorem handlePathEntry_explained (f : PathsFrame) (i : Nat) :
    StopsWith (Explains nilPackets) (handlePathEntry f i s) := by
  rw [handlePathEntry]
  split
  · dsimp only
    split
    · split
      · exact stopsWith_error ⟨nofun, nofun⟩
      · exact stopsWith_ok _
    · exact stopsWith_ok _
  · exact stopsWith_error ⟨nofun, nofun⟩

theorem handleStopWaitingFrame_explained (pathID : Nat) (f : StopWaitingFrame) :
    StopsWith (Explains nilPackets) (s.handleStopWaitingFrame pathID f) := by
  rw [handleStopWaitingFrame]
  split
  · exact stopsWith_error ⟨nofun, nofun⟩
  · exact stopsWith_ok _

theorem packPacket_explained {p : PacketPacker} (hp : p.streamFramer = s.streamFramer) (hc : Bool)
    (pth : Path κ) (now : Int) (random : Option UInt16) :
    FailsOnly (Explains nilPackets s) (p.packPacket hc pth now random) := by
  refine (p.packPacket_fails hc pth now random).imp fun e he => ?_
  rcases he with hnot | ⟨rfl, hmissing⟩
  · exact explains_of_notNil hnot
  · rw [PacketPacker.cryptoStreamMissing, hp] at hmissing
    exact ⟨fun _ => hmissing, fun h => by cases h⟩

theorem openPacket_explained (p : ReceivedPacket) (env : Env) :
    StopsWith (Explains nilPackets) (s.openPacket p env).1 := by
  rw [openPacket]
  split
  · exact stopsWith_error ⟨nofun, nofun⟩
  split
  · exact stopsWith_ok _
  dsimp only
  split
  · exact stopsWith_error ⟨nofun, nofun⟩
  · split
    · next e he => exact stopsWith_error (explains_of_isPanic ((unpack_quiet ..).error e he))
    · exact stopsWith_of_notNil (ReceivedPacketHandler.receivedPacket_notNil ..)

variable [SendAlgorithm κ]

theorem handleAckFrame_explained (f : AckFrame) (env : Env) :
    StopsWith (Explains nilPackets) (s.handleAckFrame f env) := by
  rw [handleAckFrame]
  split
  · exact stopsWith_error ⟨nofun, nofun⟩
  · exact stopsWith_of_notNil (SentPacketHandler.receivedAck_notNil ..)

theorem handleClosePathFrame_explained (f : ClosePathFrame) :
    StopsWith (Explains nilPackets) (s.handleClosePathFrame f) := by
  refine StopsWith.andThen ?_ fun s => ?_
  · rw [closePath]
    split
    · exact stopsWith_error ⟨nofun, nofun⟩
    · split
      · exact stopsWith_ok _
      · exact stopsWith_ok _
  · split
    · exact stopsWith_error ⟨nofun, nofun⟩
    · exact stopsWith_of_notNil (SentPacketHandler.receivedClosePath_notNil ..)

theorem sendPackedPacket_explained (packer : PacketPacker) (pth : Path κ) (packet : PackedPacket)
    (env : Env) : StopsWith (Explains nilPackets) (s.sendPackedPacket packer pth packet env) := by
  rw [sendPackedPacket]
  split
  · next e he =>
    exact stopsWith_error (explains_of_notNil ((SentPacketHandler.sentPacket_notNil ..).error e he))
  · exact stopsWith_ok _

theorem sendPing_explained (pth : Path κ) (env : Env) :
    StopsWith (Explains nilPackets) (s.sendPing pth env) := by
  rw [sendPing]
  refine stopsWith_orElseKeep ?_ ?_
  · rw [PacketPacker.packPing]
    exact packPacket_explained (by rfl) ..
  · rintro ⟨packer, pth', _ | packet⟩ -
    · exact stopsWith_error ⟨nofun, nofun⟩
    · exact sendPackedPacket_explained ..

theorem createPath_explained (locAddr remAddr : UDPAddr) (env : Env) :
    StopsWith (Explains nilPackets) (s.createPath locAddr remAddr env) := by
  rw [createPath]
  split
  · exact stopsWith_ok _
  split
  · exact stopsWith_ok _
  dsimp only
  split
  · exact stopsWith_error ⟨nofun, nofun⟩
  · exact sendPing_explained ..

theorem createPathsNow_explained (pm : PathManager) (env : Env) :
    StopsWith (Explains nilPackets) (s.createPathsNow pm env) := by
  rw [createPathsNow]
  split
  · exact stopsWith_ok _
  · refine StopsWith.andThen (stopsWith_forEach (fun addrs _ s => ?_) s) fun s => stopsWith_ok _
    exact createPath_explained ..

theorem handleAddAddressFrame_explained (pm : PathManager) (f : AddAddressFrame) (env : Env) :
    StopsWith (Explains nilPackets) (s.handleAddAddressFrame pm f env) := by
  rw [handleAddAddressFrame]
  dsimp only
  split
  · exact stopsWith_error ⟨nofun, nofun⟩
  · split
    · exact createPathsNow_explained ..
    · exact stopsWith_ok _

/-- A frame that is handled uses a nil stream only if that is the crypto stream. -/
theorem handleFrame_explained (pathID : Nat) (env : Env) (f : Frame StreamFrame) :
    StopsWith (Explains nilPackets) (s.handleFrame pathID env f) := by
  cases f with
  | stream f => exact handleStreamFrame_explained f
  | ack f => exact handleAckFrame_explained f env
  | connectionClose f => exact stopsWith_ok _
  | goaway f => exact stopsWith_error ⟨nofun, nofun⟩
  | stopWaiting f => exact handleStopWaitingFrame_explained pathID f
  | rstStream f => exact handleRstStreamFrame_explained f
  | windowUpdate f => exact handleWindowUpdateFrame_explained f
  | blocked f => exact stopsWith_ok _
  | ping => exact stopsWith_ok _
  | addAddress f =>
    rw [handleFrame]
    split
    · exact stopsWith_ok _
    · next pm _ =>
      have hadded : StopsWith (Explains nilPackets) (s.handleAddAddressFrame pm f env) :=
        handleAddAddressFrame_explained pm f env
      generalize s.handleAddAddressFrame pm f env = added at hadded
      obtain ⟨s', err⟩ := added
      -- the PATHS frame scheduled in any case has nothing to do with the streams
      refine ⟨fun e he => ⟨fun hnil => ?_, (hadded.error e he).nilPacket⟩⟩
      have hmissing := (hadded.error e he).nilStream hnil
      rw [PacketPacker.cryptoStreamMissing, StreamFramer.streamsMap_getOrOpenStream] at hmissing ⊢
      exact hmissing
  | closePath f => exact (handleClosePathFrame_explained f).ignoring _
  | paths f => exact stopsWith_forEach (fun i _ s => handlePathEntry_explained f i) s

theorem handlePacketImpl_explained (p : ReceivedPacket) (env : Env) :
    StopsWith (Explains nilPackets) (s.handlePacketImpl p env) := by
  rw [handlePacketImpl]
  refine StopsWith.andThen ?_ fun s => ?_
  · split_ifs
    · exact stopsWith_ok _
    · rw [createPathFromRemote]
      split
      · exact stopsWith_error ⟨nofun, nofun⟩
      · split_ifs
        · exact stopsWith_error ⟨nofun, nofun⟩
        · exact stopsWith_error ⟨nofun, nofun⟩
        · exact stopsWith_ok _
  · refine (openPacket_explained p env).andThen fun s => ?_
    exact stopsWith_forEach (fun f _ s => (handleFrame_explained ..).ignoring _) s

theorem runPathManager_explained (localAddrs : List UDPAddr) (first : Bool) (env : Env) :
    StopsWith (Explains nilPackets) (s.runPathManager localAddrs first env) := by
  rw [runPathManager]
  split
  · exact stopsWith_ok _
  next pm _ =>
  dsimp only
  have hcreated : StopsWith (Explains nilPackets)
      (({ s with pathManager := some { pm with localAddrs } } : Session κ).createPathsNow
        { pm with localAddrs } env) := createPathsNow_explained ..
  generalize ({ s with pathManager := some { pm with localAddrs } } : Session κ).createPathsNow
    { pm with localAddrs } env = created at hcreated
  obtain ⟨s', _ | e⟩ := created
  · exact stopsWith_ok _
  · dsimp only
    split_ifs
    · exact hcreated
    · exact stopsWith_ok _
    · exact stopsWith_ok _

/-! ## Sending packets -/

omit [SendAlgorithm κ] in
theorem getAckFrame_fails (pth : Path κ) (now : Int) :
    FailsOnly Err.OfLookup (pth.getAckFrame now) := by
  rw [Path.getAckFrame]
  refine FailsOnly.bind ?_ fun _ _ => failsOnly_pure _
  refine .ite (failsOnly_ok _) ?_
  split
  · exact (failsOnly_error _).mpr (.inr rfl)
  · exact failsOnly_ok _

theorem performPacketSending_explained (windowUpdateFrames : List WindowUpdateFrame) (pth : Path κ)
    (env : Env) :
    StopsWith (Explains nilPackets) (s.performPacketSending windowUpdateFrames pth env).1 := by
  rw [performPacketSending]
  split
  · next e he => exact stopsWith_error ((packPacket_explained rfl ..).error e he)
  · exact stopsWith_ok _
  · exact (sendPackedPacket_explained ..).andThen fun s => stopsWith_ok _

theorem retransmitHandshakePacket_explained (packet : Packet) (pth : Path κ) (env : Env) :
    StopsWith (Explains nilPackets) (s.retransmitHandshakePacket packet pth env) := by
  refine stopsWith_orElseKeep ?_ fun _ _ => sendPackedPacket_explained ..
  exact (PacketPacker.packHandshakeRetransmission_notNil ..).imp fun _ => explains_of_notNil

theorem sendAck_explained {pth : Path κ} {ack : Option AckFrame} {env : Env}
    (hnil : ack = none → ∀ r, r.2.2 = none →
      (s.packer.setAckFrame pth.pathID none).packPacket s.handshakeComplete pth env.now
        (env.randomFor pth) = .ok r → nilPackets) :
    StopsWith (Explains nilPackets) (s.sendAck pth ack env) := by
  cases ack with
  | some ack =>
    refine stopsWith_orElseKeep ?_ fun _ _ => sendPackedPacket_explained ..
    exact (PacketPacker.packAckPacket_notNil ..).imp fun _ => explains_of_notNil
  | none =>
    refine stopsWith_orElseKeep (packPacket_explained rfl ..) ?_
    rintro ⟨packer, pth', _ | packet⟩ hpack
    · exact stopsWith_error ⟨nofun, fun _ => hnil rfl _ rfl hpack⟩
    · exact sendPackedPacket_explained ..

theorem ackPath_explained (hnil : nilPackets) (windowUpdateFrames : List WindowUpdateFrame)
    (env : Env) (pathID : Nat) :
    StopsWith (Explains nilPackets) (ackPath windowUpdateFrames env pathID s) := by
  rw [ackPath]
  split
  · exact stopsWith_ok _
  · refine stopsWith_orElseKeep ((getAckFrame_fails ..).imp fun e => explains_of_ofLookup) ?_
    rintro ⟨pth, ack⟩ -
    dsimp only
    split_ifs
    · exact stopsWith_ok _
    · exact sendAck_explained fun _ _ _ _ => hnil

theorem ackRemainingPaths_explained (hnil : nilPackets)
    (totalWindowUpdateFrames : List WindowUpdateFrame) (env : Env) :
    StopsWith (Explains nilPackets) (s.ackRemainingPaths totalWindowUpdateFrames env) := by
  have hloop (frames : List WindowUpdateFrame) (s : Session κ) : StopsWith (Explains nilPackets)
      ((forEach (ackPath frames env) (env.order 2 s.paths.keys) s).andThen
        fun s => ({ s with peerBlocked := false }, none)) := by
    refine StopsWith.andThen (stopsWith_forEach (fun pathID _ s => ?_) _) fun s => stopsWith_ok _
    exact ackPath_explained hnil ..
  cases totalWindowUpdateFrames with
  | nil => exact hloop _ _
  | cons f fs => exact hloop _ _

theorem pingIfFailed_explained (fromPth : Option Nat) (env : Env) :
    StopsWith (Explains nilPackets) (s.pingIfFailed fromPth env) := by
  rw [pingIfFailed]
  split
  · exact stopsWith_ok _
  · split_ifs
    · exact sendPing_explained ..
    · exact stopsWith_ok _

/-- Sending on a path may use a nil packet when it goes on to acknowledge the other paths. -/
theorem sendOn_explained (hnil : nilPackets) (windowUpdateFrames : List WindowUpdateFrame)
    (r : Retransmission) (pth : Path κ) (env : Env) :
    StopsWith (Explains nilPackets) (s.sendOn windowUpdateFrames r pth env).1 := by
  rw [sendOn]
  split
  · next e he => exact stopsWith_error (explains_of_ofLookup ((getAckFrame_fails ..).error e he))
  · next pth' ack _ =>
    generalize s.queueAck pth' ack r.hasStreamRetransmission = queued
    obtain ⟨s', pth''⟩ := queued
    have hsent : StopsWith (Explains nilPackets)
        (s'.queueFramerFrames.performPacketSending windowUpdateFrames pth'' env).1 :=
      performPacketSending_explained ..
    dsimp only
    generalize s'.queueFramerFrames.performPacketSending windowUpdateFrames pth'' env =
      sent at hsent
    obtain ⟨sent, _ | pkt⟩ := sent
    · dsimp only at hsent ⊢
      exact hsent.andThen fun s => ackRemainingPaths_explained hnil [] env
    · dsimp only at hsent ⊢
      exact hsent.andThen fun s => pingIfFailed_explained r.fromPth env

theorem sendRound_explained (hnil : nilPackets) (windowUpdateFrames : List WindowUpdateFrame)
    (sch : Scheduler) (d : Draws) (env : Env) :
    StopsWith (Explains nilPackets) (s.sendRound windowUpdateFrames sch d env).1 := by
  rw [sendRound]
  generalize s.getRetransmission env = got
  have hselect : FailsOnly Err.OfLookup (got.session.selectPath sch d got.retransmission env) :=
    selectPath_fails sch d
  generalize got.session.selectPath sch d got.retransmission env = selected at hselect
  rcases selected with e | _ | pathID
  · exact stopsWith_error (explains_of_ofLookup ((failsOnly_error e).mp hselect))
  · exact ackRemainingPaths_explained hnil ..
  · rw [sendSelected]
    split
    · exact stopsWith_error ⟨nofun, nofun⟩
    · exact retransmitHandshakePacket_explained ..
    · exact sendOn_explained hnil ..

end Session

namespace Connection
variable {κ : Type} [SendAlgorithm κ]
open Session

/-- **The errors of a connection**: an event leaves the error there was, or its error is explained
by the session it leaves.  Packets can only be nil in the rounds of `sendPacket`. -/
theorem apply_explained {nilPackets : Prop} (c : Connection κ) {e : Event κ}
    (hnil : ∀ sch d env, e = .sendRound sch d env → nilPackets) :
    (c.apply e).error = c.error ∨
      ∀ err, (c.apply e).error = some err → Explains nilPackets (c.apply e).session err := by
  cases e with
  | receive p env =>
    right
    exact ((handlePacketImpl_explained p env).ignoring _).error
  | sendRound sch d env =>
    right
    exact (sendRound_explained (hnil _ _ _ rfl) _ sch d env).error
  | runPathManager localAddrs first env =>
    have hrun : StopsWith (Explains nilPackets) (c.session.runPathManager localAddrs first env) :=
      runPathManager_explained ..
    rw [apply]
    generalize c.session.runPathManager localAddrs first env = run at hrun
    obtain ⟨s, _ | err⟩ := run
    · exact .inl rfl
    · exact .inr hrun.error
  | close ccf env => cases ccf <;> exact .inl rfl
  | _ => exact .inl rfl

end Connection
end MpQuic
