import MpQuic.PackerCalls
import MpQuic.SendWindows
import MpQuic.StreamLimits

/-!
# What sending leaves of the streams

A packet takes data from the streams, and the flow controllers count it.  Whatever a
stream and its controller know about received data stays as it is, and no stream is
opened or removed, apart from the crypto stream that `HasCryptoStreamFrame` asks for.
-/
namespace MpQuic
open Systems Option

/-! ## Streams and flow controllers -/

/-- A controller without what sending changes. -/
def FlowController.receiveSide (c : FlowController) : FlowController :=
  { c with bytesSent := 0, sendWindow := 0, bytesRetrans := 0 }

namespace FlowControlManager
variable {f f' f'' : FlowControlManager}

/-- The controllers have received and read the same. -/
structure SameReceiving (f f' : FlowControlManager) : Prop where
  connection : f'.connFlowController.receiveSide = f.connFlowController.receiveSide
  stream : ∀ id, (f'.streamFlowController.lookup id).map FlowController.receiveSide =
    (f.streamFlowController.lookup id).map FlowController.receiveSide

theorem SameReceiving.refl (f : FlowControlManager) : f.SameReceiving f := ⟨rfl, fun _ => rfl⟩

theorem SameReceiving.trans (h : f.SameReceiving f') (h' : f'.SameReceiving f'') :
    f.SameReceiving f'' :=
  ⟨h'.connection.trans h.connection, fun id => (h'.stream id).trans (h.stream id)⟩

/-- A change of controllers that leaves what they have received. -/
theorem SameReceiving.modify (h : f.SameReceiving f') (change : FlowController → FlowController)
    (hchange : ∀ c, (change c).receiveSide = c.receiveSide) (id : Nat) :
    f.SameReceiving (f'.modify id change) := by
  cases hc : f'.streamFlowController.lookup id with
  | none => rwa [modify_of_none hc]
  | some c =>
    rw [FlowControlManager.modify, hc]
    refine ⟨?_, fun id' => ?_⟩
    · dsimp only
      split_ifs
      · exact (hchange _).trans h.connection
      · exact h.connection
    · rw [← h.stream id']
      refine congr_lookup_insert (F := Option.map FlowController.receiveSide) ?_ id'
      rw [hc, map_some, map_some, hchange]

end FlowControlManager

namespace StreamsMap
variable {m m' m'' : StreamsMap}

/-- The same streams are open, and have received and read the same. -/
structure SameReading (m m' : StreamsMap) : Prop extends SameStreams m m' where
  stream : ∀ id, (m'.streams.lookup id).map Stream.readSide =
    (m.streams.lookup id).map Stream.readSide

theorem SameReading.refl (m : StreamsMap) : m.SameReading m := ⟨⟨rfl, .refl _⟩, fun _ => rfl⟩

theorem SameReading.trans (h : m.SameReading m') (h' : m'.SameReading m'') : m.SameReading m'' :=
  ⟨⟨h'.cursors.trans h.cursors, h'.keys.trans h.keys⟩,
    fun id => (h'.stream id).trans (h.stream id)⟩

theorem SameReading.insert (h : m.SameReading m') {id : Nat} {str str' : Stream}
    (hstr : m'.streams.lookup id = some str) (hsame : str'.readSide = str.readSide) :
    m.SameReading { m' with streams := m'.streams.insert id str' } := by
  refine ⟨h.toSameStreams.insert hstr str', fun id' => ?_⟩
  rw [← h.stream id']
  refine congr_lookup_insert (F := Option.map Stream.readSide) ?_ id'
  rw [hstr, map_some, map_some, hsame]

end StreamsMap

/-! ## The framer -/

namespace StreamFramer
variable {f f' f'' : StreamFramer}

/-- Data may have been sent. -/
structure SendsData (f f' : StreamFramer) : Prop where
  streams : f.streamsMap.SameReading f'.streamsMap
  flow : f.flowControlManager.SameReceiving f'.flowControlManager
  params : f'.connectionParameters = f.connectionParameters

theorem SendsData.refl (f : StreamFramer) : f.SendsData f := ⟨.refl _, .refl _, rfl⟩

theorem SendsData.trans (h : f.SendsData f') (h' : f'.SendsData f'') : f.SendsData f'' :=
  ⟨h.streams.trans h'.streams, h.flow.trans h'.flow, h'.params.trans h.params⟩

/-- A call for one stream takes data from it. -/
theorem popNormalFrame_sendsData {m : StreamsMap} {id : Nat} {s : Stream}
    {st : NormalState} (params : ConnectionParameters) (maxBytes : Nat) {m₀ : StreamsMap}
    {fc₀ : FlowControlManager} (hm : m₀.SameReading m)
    (hfc : fc₀.SameReceiving st.flowControlManager)
    (hs : m.streams.lookup id = some s) :
    m₀.SameReading { m with
        streams := m.streams.insert id (popNormalFrame params maxBytes s st).1 } ∧
      fc₀.SameReceiving (popNormalFrame params maxBytes s st).2.1.flowControlManager := by
  rcases popNormalFrame_pushes params maxBytes s st with ⟨hstream, hsame⟩ | ⟨frame, hpush⟩
  · rw [hstream, hsame]
    exact ⟨hm.insert hs rfl, hfc⟩
  · rw [hpush.flow]
    exact ⟨hm.insert hs hpush.readSide,
      hfc.modify (·.addBytesSent frame.dataLen) (fun _ => rfl) s.streamID⟩

theorem maybePopNormalFrames_sendsData {maxBytes : Nat} {fs : List FrameRef}
    (h : f.maybePopNormalFrames maxBytes = .ok (f', fs)) : f.SendsData f' := by
  rw [maybePopNormalFrames] at h
  dsimp only at h
  generalize hiter : f.streamsMap.roundRobinIterate _ _ = r at h
  rcases r with e | ⟨m, st⟩
  · cases h
  have hsent := StreamsMap.roundRobinIterate_rule
    (P := fun (m : StreamsMap) (st : NormalState) => f.streamsMap.SameReading m ∧
      f.flowControlManager.SameReceiving st.flowControlManager)
    (fun _ _ _ _ h hlookup => popNormalFrame_sendsData _ maxBytes h.1 h.2 hlookup)
    (fun _ _ _ _ h => ⟨⟨⟨h.1.cursors, h.1.keys⟩, h.1.stream⟩, h.2⟩) ⟨.refl _, .refl _⟩ hiter
  obtain ⟨rfl, rfl⟩ := Prod.mk.inj (Except.ok.inj h)
  exact ⟨hsent.1, hsent.2, rfl⟩

theorem maybePopFramesForRetransmission_sendsData (f : StreamFramer) (maxLen : Nat) :
    f.SendsData (f.maybePopFramesForRetransmission maxLen).1 := by
  have hflow := popRetransmissions_flow (P := f.flowControlManager.SameReceiving)
    (fun _ id n h => h.modify (·.addBytesRetrans n) (fun _ => rfl) id)
    maxLen f.retransmissionQueue f.heap [] 0 (.refl _)
  exact ⟨.refl _, hflow, rfl⟩

theorem popStreamFrames_sendsData (f : StreamFramer) (maxLen : Nat) :
    Yields (fun r => f.SendsData r.1) (f.popStreamFrames maxLen) := by
  have hretrans := maybePopFramesForRetransmission_sendsData f maxLen
  rw [popStreamFrames]
  generalize f.maybePopFramesForRetransmission maxLen = popped at hretrans
  obtain ⟨f₁, fs, currentLen⟩ := popped
  refine Yields.bind (Q := fun r => f.SendsData r.1)
    ⟨fun r hr => hretrans.trans (maybePopNormalFrames_sendsData hr)⟩ fun r hr => ?_
  exact (yields_pure _).mpr hr

theorem popCryptoStreamFrame_sendsData {cs : Stream} (hcs : f.streamsMap.streams.lookup 1 = some cs)
    (maxLen : Nat) : f.SendsData (f.popCryptoStreamFrame cs maxLen).1 :=
  ⟨(StreamsMap.SameReading.refl _).insert hcs (takes_getDataForWriting cs _).1.readSide,
    .refl _, rfl⟩

end StreamFramer

/-! ## The packer -/

namespace PacketPacker
variable {κ : Type} {p p' : PacketPacker} {pth : Path κ} {hc : Bool} {random : Option UInt16}
  {frames : List (Frame FrameRef)} {r : PacketPacker × Path κ × Option PackedPacket}

theorem Composed.sendsData {maxFrameSize pathID : Nat} {canSend : Bool}
    (h : Composed p maxFrameSize pathID canSend p' frames) :
    p.streamFramer.SendsData p'.streamFramer := by
  cases h with
  | controls => exact .refl _
  | streams _ _ hpop =>
    have hsends := (p.streamFramer.popStreamFrames_sendsData _).value _ hpop
    exact ⟨hsends.streams, hsends.flow, hsends.params⟩

theorem Payload.sendsData {encLevel : EncryptionLevel} {headerLength pathID : Nat}
    (h : Payload p encLevel headerLength pathID p' frames) :
    p.streamFramer.SendsData p'.streamFramer := by
  cases h with
  | ping => exact .refl _
  | composed _ h => exact h.sendsData

theorem Packing.sendsData (h : Packing p hc pth random r) :
    (p.streamFramer.getOrOpenStream 1).1.SendsData r.1.streamFramer := by
  cases h with
  | crypto maxLen hcrypto hsealed =>
    obtain ⟨rfl, hcs⟩ := StreamFramer.hasCryptoStreamFrame_eq hcrypto
    cases hsealed
    exact StreamFramer.popCryptoStreamFrame_sendsData hcs maxLen
  | nothing hcrypto _ hpayload =>
    obtain ⟨rfl, -⟩ := StreamFramer.hasCryptoStreamFrame_eq hcrypto
    exact hpayload.sendsData
  | data hcrypto _ hpayload _ hsealed =>
    obtain ⟨rfl, -⟩ := StreamFramer.hasCryptoStreamFrame_eq hcrypto
    cases hsealed
    exact hpayload.sendsData

/-- **Packing a packet sends data of the streams**, after the crypto stream has been looked up. -/
theorem Call.run_sendsData {call : Call} {now : Int} (hrun : call.run p hc pth now random = .ok r) :
    p.streamFramer.SendsData r.1.streamFramer ∨
      (p.streamFramer.getOrOpenStream 1).1.SendsData r.1.streamFramer := by
  cases Call.ran hrun with
  | packPacket h => exact .inr h.sendsData
  | packPing h => exact .inr h.sendsData
  | packAckPacket _ h | packHandshakeRetransmission _ _ _ h | packConnectionClose h =>
    cases h
    exact .inl (.refl _)

end PacketPacker
end MpQuic
