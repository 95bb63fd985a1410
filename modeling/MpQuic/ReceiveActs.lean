import MpQuic.SessionActs

/-!
# The acts of receiving a packet

`handlePacketImpl` creates the path of the packet if it is new, and then handles the
frames one by one.  `OfFrame f` are the acts a frame can lead to, and `Receives fs`
those of a packet with the frames `fs`.
-/
namespace MpQuic
open Systems Outcome

namespace Act
variable {κ : Type}

/-- The acts of creating paths, and of the PINGs that are sent on them. -/
inductive Creates : Act κ → Prop
  | note : Creates .note
  | framerFrames : Creates .framerFrames
  | createPath (pathID : Nat) : Creates (.createPath pathID)
  | packNothing (pathID : Nat) : Creates (.packNothing .packPing pathID)
  | send (pathID : Nat) (packet : PackedPacket) : Creates (.send .packPing pathID packet)

/-- The acts a frame can lead to. -/
inductive OfFrame : Frame StreamFrame → Act κ → Prop
  | note (f : Frame StreamFrame) : OfFrame f .note
  | streamOpen (f : StreamFrame) : OfFrame (.stream f) (.getOrOpenStream f.streamID)
  | streamReceived (f : StreamFrame) : OfFrame (.stream f)
      (.flowControl (.updateHighestReceived f.streamID (add64 f.offset f.dataLen)))
  | streamAdd (f : StreamFrame) : OfFrame (.stream f) (.stream f.streamID (.addStreamFrame f))
  | rstOpen (f : RstStreamFrame) : OfFrame (.rstStream f) (.getOrOpenStream f.streamID)
  | rstError (f : RstStreamFrame) (err : String) :
      OfFrame (.rstStream f) (.stream f.streamID (.registerRemoteError err))
  | rstQueue (f : RstStreamFrame) (byteOffset : Nat) : OfFrame (.rstStream f)
      (.queueFrame (.rstStream ⟨f.streamID, 0, byteOffset⟩) initialPathID)
  | rstReceived (f : RstStreamFrame) :
      OfFrame (.rstStream f) (.flowControl (.resetStream f.streamID f.byteOffset))
  | windowOpen (f : WindowUpdateFrame) (h : f.streamID ≠ 0) :
      OfFrame (.windowUpdate f) (.getOrOpenStream f.streamID)
  | windowUpdate (f : WindowUpdateFrame) :
      OfFrame (.windowUpdate f) (.flowControl (.updateWindow f.streamID f.byteOffset))
  | ack (f : AckFrame) (withPacketNumber : Nat) (rcvTime now : Int) : OfFrame (.ack f)
      (.handler f.pathID (.receivedAck f withPacketNumber rcvTime now))
  | sessionRTT (f : AckFrame) (rttStats : RTTStats) (congestion : κ) :
      OfFrame (.ack f) (.handler initialPathID (.shared rttStats congestion))
  | closeRequest (f : ClosePathFrame) : OfFrame (.closePath f) (.path f.pathID)
  | closePath (f : ClosePathFrame) (withPacketNumber : Nat) : OfFrame (.closePath f)
      (.handler f.pathID (.receivedClosePath f withPacketNumber))
  | failed (f : PathsFrame) (pathID : Nat) : OfFrame (.paths f) (.path pathID)
  | lowerLimit (f : StopWaitingFrame) (pathID : Nat) : OfFrame (.stopWaiting f) (.path pathID)
  | addAddress (f : AddAddressFrame) {a : Act κ} (h : a.Creates) : OfFrame (.addAddress f) a

/-- The acts of receiving a packet for a path, with the frames `fs`. -/
inductive Receives (pathID : Nat) (fs : List (Frame StreamFrame)) : Act κ → Prop
  | note : Receives pathID fs .note
  | createPathFromRemote : Receives pathID fs (.createPathFromRemote pathID)
  | path : Receives pathID fs (.path pathID)
  | frame {f : Frame StreamFrame} {a : Act κ} (hf : f ∈ fs) (h : OfFrame f a) :
      Receives pathID fs a

end Act

namespace Session
variable {κ : Type} [SendAlgorithm κ] {K : Act κ → Prop} {s₀ s : Session κ}

/-! ## Single acts -/

theorem Reaches.note (h : Reaches K s₀ s) (hK : K .note) {s' : Session κ} (hs : Notes s s') :
    Reaches K s₀ s' := h.act hK (.note hs)

theorem Reaches.flowControl (h : Reaches K s₀ s) {op : FlowOp} (hK : K (.flowControl op))
    {r : FlowControlManager × Option Err}
    (hr : r.1 = op.apply s.streamFramer.flowControlManager) :
    Reaches K s₀ (s.withFlowControl r).1 := by
  rw [withFlowControl, hr]
  exact h.act hK (.flowControl s op)

variable {pathID id : Nat} {pth : Path κ} {f : AckFrame} {p : ReceivedPacket}

theorem Reaches.queueFrame (h : Reaches K s₀ s) {frame : ControlFrame}
    (hK : K (.queueFrame frame pathID)) : Reaches K s₀ (s.queueControlFrame frame pathID) :=
  h.act hK (.queueFrame s frame pathID)

theorem Reaches.path (h : Reaches K s₀ s) (hK : K (.path pathID))
    (hpth : s.paths.lookup pathID = some pth) {pth' : Path κ} (hsame : pth.SameSender pth') :
    Reaches K s₀ (s.setPath pathID pth') := h.act hK (.path hpth hsame)

/-- A PATHS frame scheduled. -/
theorem Reaches.schedulePathsFrame (h : Reaches K s₀ s) (hnote : K .note)
    (hframes : K .framerFrames) (env : Env) : Reaches K s₀ (s.schedulePathsFrame env) := by
  have hnoted : Reaches K s₀ { s with lastPathsFrameSent := some env.now } :=
    h.note hnote ⟨rfl, rfl, rfl, rfl, rfl, rfl, rfl⟩
  exact hnoted.act hframes (.framerFrames _ _ _)

/-! ## Creating paths -/

theorem sendPing_reaches (hnothing : K (.packNothing .packPing pth.pathID))
    (hsend : ∀ packet, K (.send .packPing pth.pathID packet)) (h : Reaches K s₀ s)
    (hpth : s.paths.lookup pth.pathID = some pth) (env : Env) :
    Reaches K s₀ (s.sendPing pth env).1 := by
  rw [sendPing]
  refine state_orElseKeep h ?_
  rintro ⟨packer, pth', _ | packet⟩ hrun
  · exact h.act hnothing (.packNothing hpth hrun)
  · have hrun : PacketPacker.Call.run .packPing s.packer s.handshakeComplete pth env.now
        (env.randomFor pth) = .ok (packer, pth', some packet) := hrun
    exact h.act (hsend packet) (.send hpth hrun env)

section

variable (hK : ∀ a : Act κ, a.Creates → K a)
include hK

theorem createPath_reaches (h : Reaches K s₀ s) (hs : s₀.CreatesPaths) (locAddr remAddr : UDPAddr)
    (env : Env) : Reaches K s₀ (s.createPath locAddr remAddr env).1 := by
  rw [createPath]
  split
  · exact h
  · next pm hpm =>
    split_ifs
    · exact h
    dsimp only
    have hcreated := h.act (hK _ (.createPath pm.nxtPathID))
      (.createPath hpm (hs.congr h.sameConfig) locAddr remAddr env)
    split
    · exact hcreated
    · next pth hpth =>
      refine sendPing_reaches (hK _ (.packNothing _)) (fun _ => hK _ (.send _ _)) hcreated ?_ env
      rw [hcreated.wellKeyed.pathID _ pth hpth]
      exact hpth

theorem advertiseAddress_reaches (h : Reaches K s₀ s) (addr : UDPAddr) :
    Reaches K s₀ (s.advertiseAddress addr) := by
  rw [advertiseAddress]
  split
  · exact h
  · next pm hpm =>
    split
    · exact h
    · have hnoted : Reaches K s₀ { s with pathManager := some { pm with
          advertisedLocAddrs := pm.advertisedLocAddrs ++ [addr] } } :=
        h.note (hK _ .note) ⟨rfl, rfl, rfl, rfl, rfl, rfl, by rw [hpm]; rfl⟩
      exact hnoted.act (hK _ .framerFrames) (.framerFrames _ _ _)

theorem createPathsNow_reaches (h : Reaches K s₀ s) (hcreates : s₀.createPaths = true)
    (pm : PathManager) (env : Env) : Reaches K s₀ (s.createPathsNow pm env).1 := by
  rw [createPathsNow]
  split
  · exact List.foldlRecOn _ _ h fun s' h' addr _ => advertiseAddress_reaches hK h' addr
  · next hclient =>
    have hs : s₀.CreatesPaths := ⟨h.sameConfig.perspective.symm.trans hclient, hcreates⟩
    have hcreated : Reaches K s₀
        (forEach (fun addrs s => s.createPath addrs.1 addrs.2 env) (addrPairs pm) s).1 :=
      state_forEach (P := Reaches K s₀)
        (fun addrs _ s' h' => createPath_reaches hK h' hs addrs.1 addrs.2 env) h
    exact state_andThen hcreated (hcreated.schedulePathsFrame (hK _ .note) (hK _ .framerFrames) env)

end

/-! ## Frames -/

theorem withStream_reaches (hopen : K (.getOrOpenStream id)) (h : Reaches K s₀ s)
    (missing : Option Err) {f : Session κ → Stream → Outcome (Session κ) Err}
    (hf : ∀ s str, Reaches K s₀ s → s.streamsMap.streams.lookup id = some str →
      Reaches K s₀ (f s str).1) : Reaches K s₀ (s.withStream id missing f).1 := by
  rw [withStream]
  dsimp only
  have hopened := h.act hopen (.getOrOpenStream s id)
  split
  · exact hopened
  · exact hopened
  · next str _ hstr => exact hf _ str hopened hstr

theorem Reaches.onStream (h : Reaches K s₀ s) {op : StreamOp} (hK : K (.stream id op))
    {str : Stream} (hstr : s.streamsMap.streams.lookup id = some str) :
    Reaches K s₀ (s.setFramer (s.streamFramer.setStream id (op.apply str))) :=
  h.act hK (.stream op hstr)

theorem handleStreamFrame_reaches {f : StreamFrame}
    (hK : ∀ a : Act κ, a.OfFrame (.stream f) → K a) (h : Reaches K s₀ s) :
    Reaches K s₀ (s.handleStreamFrame f).1 := by
  refine withStream_reaches (hK _ (.streamOpen f)) h _ fun s str h hstr => ?_
  have hfc :
      Reaches K s₀ (s.withFlowControl (s.streamFramer.flowControlManager.updateHighestReceived
      f.streamID (add64 f.offset f.dataLen))).1 := h.flowControl (hK _ (.streamReceived f)) rfl
  exact state_andThen hfc (hfc.onStream (hK _ (.streamAdd f)) hstr)

theorem queueResetStreamFrame_reaches
    (hK : ∀ byteOffset, K (.queueFrame (.rstStream ⟨id, 0, byteOffset⟩) initialPathID))
    (h : Reaches K s₀ s) (offset : Option Nat) :
    Reaches K s₀ (s.queueResetStreamFrame id offset) := by
  cases offset with
  | none => exact h
  | some byteOffset => exact h.queueFrame (hK byteOffset)

theorem handleRstStreamFrame_reaches {f : RstStreamFrame}
    (hK : ∀ a : Act κ, a.OfFrame (.rstStream f) → K a) (h : Reaches K s₀ s) :
    Reaches K s₀ (s.handleRstStreamFrame f).1 := by
  refine withStream_reaches (hK _ (.rstOpen f)) h _ fun s str h hstr => ?_
  have hstream := h.onStream
    (hK _ (.rstError f s!"RST_STREAM received with code {f.errorCode}")) hstr
  have hqueued := queueResetStreamFrame_reaches (fun n => hK _ (.rstQueue f n)) hstream
    (str.registerRemoteError s!"RST_STREAM received with code {f.errorCode}").2
  exact hqueued.flowControl (hK _ (.rstReceived f)) rfl

theorem handleWindowUpdateFrame_reaches {f : WindowUpdateFrame}
    (hK : ∀ a : Act κ, a.OfFrame (.windowUpdate f) → K a) (h : Reaches K s₀ s) :
    Reaches K s₀ (s.handleWindowUpdateFrame f).1 := by
  have hupdate (s : Session κ) (h : Reaches K s₀ s) : Reaches K s₀ (s.withFlowControl
      (s.streamFramer.flowControlManager.updateWindow f.streamID f.byteOffset)).1 :=
    h.flowControl (hK _ (.windowUpdate f)) rfl
  rw [handleWindowUpdateFrame]
  split_ifs with hid
  · exact withStream_reaches (hK _ (.windowOpen f hid)) h _ fun s _ h _ => hupdate s h
  · exact hupdate s h

theorem updateSessionRTT_reaches (hK : ∀ a : Act κ, a.OfFrame (.ack f) → K a) (h : Reaches K s₀ s)
    (rtt : Int) : Reaches K s₀ (s.updateSessionRTT rtt) := by
  rw [updateSessionRTT]
  split
  · exact h
  · next pth hpth =>
    exact h.act (hK _ (.sessionRTT f { pth.rttStats with smoothedRTT := rtt }
      pth.sentPacketHandler.congestion)) (.handler hpth trivial)

theorem handleAckFrame_reaches (hK : ∀ a : Act κ, a.OfFrame (.ack f) → K a) (h : Reaches K s₀ s)
    (env : Env) : Reaches K s₀ (s.handleAckFrame f env).1 := by
  rw [handleAckFrame]
  split
  · exact h
  · next pth hpth =>
    dsimp only
    have hacked :=
      h.act (hK _ (.ack f pth.lastRcvdPacketNumber pth.lastNetworkActivityTime env.now))
      (.handler hpth trivial)
    split_ifs
    · exact updateSessionRTT_reaches hK hacked _
    · exact hacked

theorem closePath_reaches {f : ClosePathFrame} (hK : ∀ a : Act κ, a.OfFrame (.closePath f) → K a)
    (h : Reaches K s₀ s) : Reaches K s₀ (s.closePath f.pathID).1 := by
  rw [closePath]
  split
  · exact h
  · next pth hpth =>
    split_ifs
    · exact h
    · have hrequested : Reaches K s₀ (s.setPath f.pathID { pth with closeRequested := true }) :=
        h.path (hK _ (.closeRequest f)) hpth ⟨rfl, rfl, rfl, id⟩
      exact hrequested.note (hK _ (.note _)) ⟨rfl, rfl, rfl, rfl, rfl, rfl, rfl⟩
    · exact h.note (hK _ (.note _)) ⟨rfl, rfl, rfl, rfl, rfl, rfl, rfl⟩

theorem handleClosePathFrame_reaches {f : ClosePathFrame}
    (hK : ∀ a : Act κ, a.OfFrame (.closePath f) → K a) (h : Reaches K s₀ s) :
    Reaches K s₀ (s.handleClosePathFrame f).1 := by
  have hclosed := closePath_reaches hK h
  refine state_andThen hclosed ?_
  split
  · exact hclosed
  · next pth hpth =>
    exact hclosed.act (hK _ (.closePath f pth.lastRcvdPacketNumber)) (.handler hpth trivial)

theorem handlePathsFrame_reaches {f : PathsFrame} (hK : ∀ a : Act κ, a.OfFrame (.paths f) → K a)
    (h : Reaches K s₀ s) : Reaches K s₀ (s.handlePathsFrame f).1 := by
  rw [handlePathsFrame]
  refine state_forEach (P := Reaches K s₀) (fun i _ s h => ?_) h
  rw [handlePathEntry]
  split
  · next pathID rtt _ _ =>
    have hnoted : Reaches K s₀ { s with remoteRTTs := s.remoteRTTs.insert pathID rtt } :=
      h.note (hK _ (.note _)) ⟨rfl, rfl, rfl, rfl, rfl, rfl, rfl⟩
    dsimp only
    split_ifs
    · split
      · exact hnoted
      · next pth hpth => exact hnoted.path (hK _ (.failed f pathID)) hpth ⟨rfl, rfl, rfl, id⟩
    · exact hnoted
  · exact h

theorem handleStopWaitingFrame_reaches {f : StopWaitingFrame}
    (hK : ∀ a : Act κ, a.OfFrame (.stopWaiting f) → K a) (h : Reaches K s₀ s) (pathID : Nat) :
    Reaches K s₀ (s.handleStopWaitingFrame pathID f).1 := by
  rw [handleStopWaitingFrame]
  split
  · exact h
  · next pth hpth => exact h.path (hK _ (.lowerLimit f pathID)) hpth ⟨rfl, rfl, rfl, id⟩

/-- An ADD_ADDRESS frame is noted, and leads to new paths if the session creates paths. -/
theorem handleAddAddressFrame_reaches {f : AddAddressFrame}
    (hK : ∀ a : Act κ, a.OfFrame (.addAddress f) → K a) (h : Reaches K s₀ s) {pm : PathManager}
    (hpm : s.pathManager = some pm) (env : Env) :
    Reaches K s₀ (s.handleAddAddressFrame pm f env).1 := by
  have hcreates (a : Act κ) (ha : a.Creates) : K a := hK a (.addAddress f ha)
  have hadd (pm' : PathManager) (hids : pm'.ids = pm.ids) : Reaches K s₀
      (if s.createPaths then { s with pathManager := some pm' }.createPathsNow pm' env
        else ({ s with pathManager := some pm' }, none)).1 := by
    have hnoted : Reaches K s₀ { s with pathManager := some pm' } :=
      h.note (hK _ (.note _)) ⟨rfl, rfl, rfl, rfl, rfl, rfl, by rw [hpm]; exact congrArg some hids⟩
    split_ifs with hcreate
    · have hcreate₀ := h.sameConfig.createPaths.symm.trans hcreate
      exact createPathsNow_reaches hcreates hnoted hcreate₀ pm' env
    · exact hnoted
  rw [handleAddAddressFrame]
  split
  · exact h
  · next pm' hpm' =>
    refine hadd pm' ?_
    split at hpm'
    · obtain rfl := Option.some.inj hpm'
      rfl
    · obtain rfl := Option.some.inj hpm'
      rfl
    · cases hpm'

/-- **Every frame leads to its acts.** -/
theorem handleFrame_reaches {f : Frame StreamFrame} (hK : ∀ a : Act κ, a.OfFrame f → K a)
    (h : Reaches K s₀ s) (pathID : Nat) (env : Env) :
    Reaches K s₀ (s.handleFrame pathID env f).1 := by
  have hnote {s' : Session κ} (hs : Notes s s') : Reaches K s₀ s' := h.note (hK _ (.note f)) hs
  cases f with
  | stream f => exact handleStreamFrame_reaches hK h
  | ack f => exact handleAckFrame_reaches hK h env
  | connectionClose f => exact hnote ⟨rfl, rfl, rfl, rfl, rfl, rfl, rfl⟩
  | goaway f => exact h
  | stopWaiting f => exact handleStopWaitingFrame_reaches hK h pathID
  | rstStream f => exact handleRstStreamFrame_reaches hK h
  | windowUpdate f => exact handleWindowUpdateFrame_reaches hK h
  | blocked f => exact hnote ⟨rfl, rfl, rfl, rfl, rfl, rfl, rfl⟩
  | ping => exact h
  | addAddress f =>
    rw [handleFrame]
    split
    · exact h
    · next pm hpm =>
      exact (handleAddAddressFrame_reaches hK h hpm env).schedulePathsFrame (hK _ (.note _))
        (hK _ (.addAddress f .framerFrames)) env
  | closePath f => exact handleClosePathFrame_reaches hK h
  | paths f => exact handlePathsFrame_reaches hK h

theorem handleFrames_reaches {fs : List (Frame StreamFrame)}
    (hK : ∀ f ∈ fs, ∀ a : Act κ, a.OfFrame f → K a) (h : Reaches K s₀ s) (pathID : Nat)
    (env : Env) : Reaches K s₀ (s.handleFrames fs pathID env).1 := by
  refine state_forEach (P := Reaches K s₀) (fun f hf s h => ?_) h
  exact handleFrame_reaches (hK f hf) h pathID env

/-! ## Packets -/

/-- The frames of a packet, if it can be opened and parsed. -/
def receivedFrames (s : Session κ) (p : ReceivedPacket) : List (Frame StreamFrame) :=
  let largest := ((s.paths.lookup p.pathID).map (·.largestRcvdPacketNumber)).getD 0
  let packetNumber := inferPacketNumber p.packetNumberLen largest p.packetNumber
  (unpack s.version packetNumber p.packetNumberLen p.opened).toOption.getD []

theorem openPacket_reaches (hpath : K (.path p.pathID)) (h : Reaches K s₀ s) (env : Env) :
    Reaches K s₀ (s.openPacket p env).1.1 := by
  rw [openPacket]
  split
  · exact h
  next pth hpth =>
  have hset (pth' : Path κ) (hsame : pth.SameSender pth') :
      Reaches K s₀ (s.setPath p.pathID pth') :=
    h.path hpath hpth hsame
  split
  · exact h
  dsimp only
  split
  · exact hset _ ⟨rfl, rfl, rfl, id⟩
  · split
    · exact hset _ (by split <;> exact ⟨rfl, rfl, rfl, id⟩)
    · exact hset _ (by split <;> exact ⟨rfl, rfl, rfl, id⟩)

omit [SendAlgorithm κ] in
/-- The frames of a packet that was opened are those in it. -/
theorem mem_openPacket {env : Env} {f : Frame StreamFrame} (hf : f ∈ (s.openPacket p env).2) :
    f ∈ s.receivedFrames p := by
  rw [openPacket] at hf
  split at hf
  · cases hf
  next pth hpth =>
  split at hf
  · cases hf
  dsimp only at hf
  rw [receivedFrames, hpth]
  split at hf
  · cases hf
  split at hf
  · cases hf
  · next hunpacked =>
    dsimp only [Option.map_some, Option.getD_some]
    rw [hunpacked]
    exact hf

section

variable (hK : ∀ a : Act κ, a.Receives p.pathID (s.receivedFrames p) → K a)
include hK

theorem handlePathPacket_reaches (h : Reaches K s₀ s) (env : Env) :
    Reaches K s₀ (s.handlePathPacket p env).1 := by
  have hopened := openPacket_reaches (hK _ .path) h env
  rw [handlePathPacket]
  refine state_andThen hopened (handleFrames_reaches (fun f hf a ha => ?_) hopened p.pathID env)
  exact hK a (.frame (mem_openPacket hf) ha)

/-- **Receiving a packet leads to the acts of its frames.** -/
theorem handlePacketImpl_reaches (h : Reaches K s₀ s) (env : Env) :
    Reaches K s₀ (s.handlePacketImpl p env).1 := by
  have hnoted : Reaches K s₀ { s with lastNetworkActivityTime := p.rcvTime
                                      keepAlivePingSent := false } :=
    h.note (hK _ .note) ⟨rfl, rfl, rfl, rfl, rfl, rfl, rfl⟩
  rw [handlePacketImpl]
  by_cases hknown : (s.paths.lookup p.pathID).isSome
  · rw [if_pos hknown, andThen_none]
    refine handlePathPacket_reaches (fun a ha => ?_) hnoted env
    exact hK a ha
  · rw [if_neg hknown]
    have hnone := Option.not_isSome_iff_eq_none.mp hknown
    rw [createPathFromRemote]
    split
    · exact hnoted
    next pm hpm =>
    split_ifs
    · exact hnoted
    · exact hnoted
    · exact hnoted
    · have hcreated := hnoted.act (hK _ .createPathFromRemote)
        (.createPathFromRemote hpm hnone p.localAddr p.remoteAddr env)
      rw [andThen_none]
      refine handlePathPacket_reaches (fun a ha => hK a ?_) hcreated env
      have hframes : s.receivedFrames p = (addPath { s with lastNetworkActivityTime := p.rcvTime
                                                            keepAlivePingSent := false }
          pm p.pathID p.localAddr p.remoteAddr env).receivedFrames p := by
        rw [receivedFrames, receivedFrames, addPath, lookup_setPath_self, hnone]
        rfl
      rw [hframes]
      exact ha

end

end Session
end MpQuic
