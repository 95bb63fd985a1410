import MpQuic.SendStreams
import MpQuic.SessionActs

/-!
# What acts do to the streams of a session

Most acts leave the streams and the flow control manager alone, or take data from them
to send it.  `FramerChange` lists the others.
-/
namespace MpQuic
open Systems

/-- What an act does to the framer, with its streams and their flow control. -/
inductive FramerChange {κ : Type} (f : StreamFramer) : Act κ → StreamFramer → Prop
  | sends {a : Act κ} {f' : StreamFramer} (h : f.SendsData f') : FramerChange f a f'
  | sendsCrypto {a : Act κ} {f' : StreamFramer} (h : (f.getOrOpenStream 1).1.SendsData f') :
      FramerChange f a f'
  | setParameters (connectionParameters : ConnectionParameters) :
      FramerChange f (.setParameters connectionParameters) { f with connectionParameters }
  | flowControl (op : FlowOp) :
      FramerChange f (.flowControl op) { f with
        flowControlManager := op.apply f.flowControlManager }
  | getOrOpenStream (id : Nat) :
      FramerChange f (.getOrOpenStream id) (f.getOrOpenStream id).1
  | openStream : FramerChange f .openStream f.openStream.1
  | acceptStream :
      FramerChange f .acceptStream { f with streamsMap := f.streamsMap.acceptStream.1 }
  | stream {id : Nat} {str : Stream} (op : StreamOp)
      (h : f.streamsMap.streams.lookup id = some str) :
      FramerChange f (.stream id op) (f.setStream id (op.apply str))
  | removeStream {id : Nat} {str : Stream} (h : f.streamsMap.streams.lookup id = some str)
      (hfinished : str.finished = true) :
      FramerChange f (.removeStream id) { f with
        streamsMap := f.streamsMap.removeStream id
        flowControlManager := f.flowControlManager.removeStream id }

namespace Session
variable {κ : Type}

@[simp] theorem streamFramer_queueControlFrame (s : Session κ) (frame : ControlFrame)
    (pathID : Nat) : (s.queueControlFrame frame pathID).streamFramer = s.streamFramer := by
  cases frame <;> rfl

theorem requeueFrame_sendsData (pathID : Nat) (env : Env) (s : Session κ)
    (frame : Frame FrameRef) :
    s.streamFramer.SendsData (requeueFrame pathID env s frame).streamFramer := by
  have hqueue (frame : ControlFrame) :
      s.streamFramer.SendsData (s.queueControlFrame frame pathID).streamFramer := by
    rw [streamFramer_queueControlFrame]
    exact .refl _
  rw [requeueFrame]
  split
  · exact ⟨.refl _, .refl _, rfl⟩
  · split
    · exact .refl _
    · split_ifs
      · exact hqueue _
      · exact .refl _
  · exact ⟨.refl _, .refl _, rfl⟩
  · exact hqueue _

theorem streamFramer_dequeueFrom {s s' : Session κ} {pathID id : Nat} {packet : Packet}
    (h : s.dequeueFrom pathID = some (s', id, packet)) : s'.streamFramer = s.streamFramer := by
  obtain ⟨-, pth, rest, -, -, rfl⟩ := dequeueFrom_eq h
  rfl

theorem streamFramer_sendPackedPacket [SendAlgorithm κ] (s : Session κ) (packer : PacketPacker)
    (pth : Path κ) (packet : PackedPacket) (env : Env) :
    (s.sendPackedPacket packer pth packet env).1.streamFramer = packer.streamFramer := by
  rw [sendPackedPacket]
  split <;> rfl

end Session

namespace Act
variable {κ : Type} [SendAlgorithm κ]
open Session

/-- **Every act is one of these changes of the framer.** -/
theorem Does.framer {a : Act κ} {s s' : Session κ} (h : a.Does s s') :
    FramerChange s.streamFramer a s'.streamFramer := by
  have hsame {a : Act κ} {f' : StreamFramer} (hf' : f' = s.streamFramer) :
      FramerChange s.streamFramer a f' := by
    rw [hf']
    exact .sends (.refl _)
  have hcall {a : Act κ} {call : PacketPacker.Call} {pth : Path κ} {now : Int}
      {random : Option UInt16} {r : PacketPacker × Path κ × Option PackedPacket}
      (hrun : call.run s.packer s.handshakeComplete pth now random = .ok r) :
      FramerChange s.streamFramer a r.1.streamFramer :=
    (PacketPacker.Call.run_sendsData hrun).elim .sends .sendsCrypto
  cases h with
  | note h => exact hsame (congrArg PacketPacker.streamFramer h.packer)
  | setParameters => exact .setParameters _
  | queueFrame => exact hsame (streamFramer_queueControlFrame ..)
  | framerFrames => exact .sends ⟨.refl _, .refl _, rfl⟩
  | queueFramerFrames => exact .sends ⟨.refl _, .refl _, rfl⟩
  | flowControl => exact .flowControl _
  | getOrOpenStream => exact .getOrOpenStream _
  | openStream => exact .openStream
  | acceptStream => exact .acceptStream
  | stream op h => exact .stream op h
  | removeStream h hfinished => exact .removeStream h hfinished
  | @retransmit _ s₁ pathID packet h _ env =>
    have hframer : s₁.streamFramer = s.streamFramer := streamFramer_dequeueFrom h
    refine .sends (List.foldlRecOn _ _ (motive := fun s' : Session κ =>
      s.streamFramer.SendsData s'.streamFramer) (hframer ▸ .refl _) fun s' h' frame _ => ?_)
    exact h'.trans (requeueFrame_sendsData pathID env s' frame)
  | drop h => exact hsame (streamFramer_dequeueFrom h)
  | take h => exact hsame (streamFramer_dequeueFrom h)
  | packNothing h hrun => exact hcall hrun
  | send h hrun env =>
    rw [streamFramer_sendPackedPacket]
    exact hcall hrun
  | sealOnly h hrun => exact hcall (PacketPacker.run_packConnectionClose hrun)
  | _ => exact hsame rfl

end Act
end MpQuic
