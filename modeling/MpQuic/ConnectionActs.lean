import MpQuic.SendActs

/-!
# The acts of the events of a connection

`Event.Acts` lists for every event the acts it can be made of, and `apply_reaches`
proves that it is made of these.  A property of sessions that no act of an event can
break is therefore kept by the event.
-/
namespace MpQuic
open Systems Outcome

/-- The events of `sendPacket`. -/
def Event.isSendPacket {κ : Type} : Event κ → Bool
  | .startSending _ | .sendRound .. => true
  | _ => false

/-- The acts of the events of a connection with the session `s`. -/
inductive Event.Acts {κ : Type} [SendAlgorithm κ] (s : Session κ) : Event κ → Act κ → Prop
  | receive {p : ReceivedPacket} {env : Env} {a : Act κ}
      (h : a.Receives p.pathID (s.receivedFrames p)) : Acts s (.receive p env) a
  | alarm {pathID : Nat} {env : Env} (failed : Bool) :
      Acts s (.alarm pathID env) (.handler pathID (.onAlarm failed env.now))
  | alarmFailed {pathID : Nat} {env : Env} : Acts s (.alarm pathID env) (.path pathID)
  | alarmNote {pathID : Nat} {env : Env} : Acts s (.alarm pathID env) .note
  | alarmPaths {pathID : Nat} {env : Env} : Acts s (.alarm pathID env) .framerFrames
  | handshakeCompleted : Acts s .handshakeCompleted .handshakeCompleted
  | keepAlive (pathID : Nat) : Acts s .keepAlive (.queueFrame .ping pathID)
  | keepAliveNote : Acts s .keepAlive .note
  | startSending {env : Env} {a : Act κ} (h : a.Sends) : Acts s (.startSending env) a
  | sendRound {sch : Scheduler} {d : Draws} {env : Env} {a : Act κ} (h : a.Sends) :
      Acts s (.sendRound sch d env) a
  | schedulePathsFrame {env : Env} : Acts s (.schedulePathsFrame env) .framerFrames
  | scheduleNote {env : Env} : Acts s (.schedulePathsFrame env) .note
  | garbageCollect {id : Nat} {str : Stream} (h : s.streamsMap.streams.lookup id = some str)
      (hfinished : str.finished = true) : Acts s .garbageCollect (.removeStream id)
  | close {ccf : ConnectionCloseFrame} {env : Env} (packet : PackedPacket) :
      Acts s (.close (some ccf) env) (.sealOnly ccf initialPathID packet)
  | closePath {ccf : ConnectionCloseFrame} {env : Env} :
      Acts s (.close (some ccf) env) (.path initialPathID)
  | installKeys {encLevel : EncryptionLevel} {nonce : List Byte} :
      Acts s (.installKeys encLevel nonce) (.installKeys encLevel nonce)
  | setParameters {params : ConnectionParameters} :
      Acts s (.setParameters params) (.setParameters params)
  | runPathManager {localAddrs : List UDPAddr} {first : Bool} {env : Env} {a : Act κ}
      (h : a.Creates) : Acts s (.runPathManager localAddrs first env) a
  | closePaths {localAddrs : List UDPAddr} {first : Bool} {env : Env} (pathID : Nat) :
      Acts s (.runPathManager localAddrs first env) (.path pathID)
  | pathClosed {pathID : Nat} : Acts s (.pathClosed pathID) (.path pathID)
  | setCongestion {pathID : Nat} {congestion : κ} (rttStats : RTTStats) :
      Acts s (.setCongestion pathID congestion) (.handler pathID (.shared rttStats congestion))
  | openStream : Acts s .openStream .openStream
  | acceptStream : Acts s .acceptStream .acceptStream
  | read {id len : Nat} {clock : Nat → Int} :
      Acts s (.read id len clock) (.stream id (.read clock len))
  | bytesRead {id len : Nat} {clock : Nat → Int} {str : Stream}
      (h : s.streamsMap.streams.lookup id = some str) :
      Acts s (.read id len clock) (.flowControl (.addBytesRead id
        ((str.read clock len).1.readOffset - str.readOffset) (clock 0)))
  | write {id : Nat} {p : List Byte} : Acts s (.write id p) (.stream id (.write p))
  | closeStream {id : Nat} : Acts s (.closeStream id) (.stream id .close)
  | resetStream {id : Nat} {err : Option String} :
      Acts s (.resetStream id err) (.stream id (.reset err))
  | resetQueue {id : Nat} {err : Option String} (byteOffset : Nat) :
      Acts s (.resetStream id err)
        (.queueFrame (.rstStream ⟨id, 0, byteOffset⟩) initialPathID)

namespace Event
variable {κ : Type} [SendAlgorithm κ] {s : Session κ} {e : Event κ}

/-- Streams are accepted by the application only. -/
theorem Acts.eq_acceptStream (h : Acts s e .acceptStream) : e = .acceptStream := by
  cases h with
  | acceptStream => rfl
  | receive h =>
    cases h with
    | frame _ h =>
      cases h with
      | addAddress _ h => cases h
  | startSending h => cases h
  | sendRound h => cases h
  | runPathManager h => cases h

/-- Streams are removed by the garbage collection only, and are finished then. -/
theorem Acts.eq_garbageCollect {id : Nat} (h : Acts s e (.removeStream id)) :
    e = .garbageCollect ∧
      ∃ str, s.streamsMap.streams.lookup id = some str ∧ str.finished = true := by
  cases h with
  | garbageCollect hstr hfinished => exact ⟨rfl, _, hstr, hfinished⟩
  | receive h =>
    cases h with
    | frame _ h =>
      cases h with
      | addAddress _ h => cases h
  | startSending h => cases h
  | sendRound h => cases h
  | runPathManager h => cases h

end Event

namespace Session
variable {κ : Type} [SendAlgorithm κ] {K : Act κ → Prop} {s₀ s : Session κ}

omit [SendAlgorithm κ] in
theorem setPath_setPath (s : Session κ) (pathID : Nat) (pth pth' : Path κ) :
    (s.setPath pathID pth).setPath pathID pth' = s.setPath pathID pth' := by
  simp only [setPath, AList.insert_insert]

variable {pathID id : Nat} {env : Env}

/-- An alarm changes the handler of its path; if the path has failed, a PATHS frame is scheduled. -/
theorem onAlarm_reaches (hK : ∀ a, Event.Acts s₀ (.alarm pathID env) a → K a) (h : Reaches K s₀ s) :
    Reaches K s₀ (s.onAlarm pathID env) := by
  rw [onAlarm]
  split
  · exact h
  next pth hpth =>
  have halarm (failed : Bool) := h.act (hK _ (.alarm failed)) (.handler hpth trivial)
  dsimp only
  split_ifs
  · have hfailed : Reaches K s₀ (s.setPath pathID { pth with
        sentPacketHandler := pth.sentPacketHandler.onAlarm true env.now
        potentiallyFailed := true }) := by
      rw [← setPath_setPath s pathID
        { pth with sentPacketHandler := pth.sentPacketHandler.onAlarm true env.now }]
      exact (halarm true).path (hK _ .alarmFailed) (lookup_setPath_self _ _ _) ⟨rfl, rfl, rfl, id⟩
    exact hfailed.schedulePathsFrame (hK _ .alarmNote) (hK _ .alarmPaths) env
  · exact halarm false
  · exact h

/-- The streams that are removed are finished ones of the session at the start. -/
theorem collectStreams_reaches (ids : List Nat)
    (hK : ∀ id str, s.streamsMap.streams.lookup id = some str → str.finished = true →
      K (.removeStream id))
    (h : Reaches K s₀ s) : Reaches K s₀ (collectStreams ids s) := by
  induction ids generalizing s with
  | nil => exact h
  | cons id ids ih =>
    rw [collectStreams]
    split
    · exact h
    next str hstr =>
    rw [collectStream]
    split_ifs with hfinished
    · refine ih (fun id' str' hlookup => ?_)
        (h.act (hK id str hstr hfinished) (.removeStream hstr hfinished))
      have herased : (s.streamsMap.streams.erase id).lookup id' = some str' := by
        rw [← StreamsMap.streams_removeStream]
        exact hlookup
      refine hK id' str' ?_
      by_cases hid : id' = id
      · rw [hid, AList.lookup_erase] at herased
        cases herased
      · rwa [AList.lookup_erase_ne hid] at herased
    · exact ih hK h

theorem keepAlive_reaches (hK : ∀ a, Event.Acts s₀ .keepAlive a → K a) (h : Reaches K s₀ s) :
    Reaches K s₀ s.keepAlive := by
  have hpings : Reaches K s₀
      (s.paths.keys.foldl (fun s pathID => s.queueControlFrame .ping pathID) s) :=
    List.foldlRecOn _ _ (motive := Reaches K s₀) h fun s' h' pathID _ =>
      h'.queueFrame (hK _ (.keepAlive pathID))
  exact hpings.note (hK _ .keepAliveNote) ⟨rfl, rfl, rfl, rfl, rfl, rfl, rfl⟩

theorem closePaths_reaches (hK : ∀ pathID, K (.path pathID)) (h : Reaches K s₀ s) :
    Reaches K s₀ s.closePaths := by
  refine List.foldlRecOn _ _ (motive := Reaches K s₀) h fun s' h' pathID _ => ?_
  rw [requestClose]
  split
  · exact h'
  next pth hpth =>
  split_ifs
  · exact h'.path (hK pathID) hpth ⟨rfl, rfl, rfl, id⟩
  · exact h'

theorem sendConnectionClose_reaches {ccf : ConnectionCloseFrame}
    (hK : ∀ a, Event.Acts s₀ (.close (some ccf) env) a → K a) (h : Reaches K s₀ s) :
    Reaches K s₀ (s.sendConnectionClose ccf env).1 := by
  rw [sendConnectionClose]
  split
  · exact h
  next pth hpth =>
  have hleast : Reaches K s₀ (s.setPath initialPathID pth.setLeastUnacked) :=
    h.path (hK _ .closePath) hpth ⟨rfl, rfl, rfl, id⟩
  refine state_orElseKeep hleast ?_
  rintro ⟨packer, pth', packet⟩ hrun
  have hpathID := h.wellKeyed.pathID _ _ hpth
  have hid : pth.setLeastUnacked.pathID = initialPathID := hpathID
  have hlookup : (s.setPath initialPathID pth.setLeastUnacked).paths.lookup
      pth.setLeastUnacked.pathID = some pth.setLeastUnacked := by
    rw [hid, lookup_setPath_self]
  have hsealed := Act.Does.sealOnly hlookup hrun
  rw [hid] at hsealed
  exact hleast.act (hK _ (.close packet)) hsealed

theorem runPathManager_reaches {localAddrs : List UDPAddr} {first : Bool}
    (hK : ∀ a, Event.Acts s₀ (.runPathManager localAddrs first env) a → K a)
    (hcreates : s₀.createPaths = true) (h : Reaches K s₀ s) :
    Reaches K s₀ (s.runPathManager localAddrs first env).1 := by
  rw [runPathManager]
  split
  · exact h
  next pm hpm =>
  dsimp only
  have hnoted : Reaches K s₀ { s with pathManager := some { pm with localAddrs } } :=
    h.note (hK _ (.runPathManager .note)) ⟨rfl, rfl, rfl, rfl, rfl, rfl, by rw [hpm]; rfl⟩
  have hcreated := createPathsNow_reaches (fun a ha => hK a (.runPathManager ha)) hnoted hcreates
    { pm with localAddrs } env
  generalize ({ s with pathManager := some { pm with localAddrs } } : Session κ).createPathsNow
    { pm with localAddrs } env = created at hcreated
  obtain ⟨s', err⟩ := created
  cases err with
  | none => exact hcreated
  | some e =>
    dsimp only
    split_ifs
    · exact hcreated
    · exact closePaths_reaches (fun pathID => hK _ (.closePaths pathID)) hcreated
    · exact hcreated

theorem pathClosed_reaches (hK : K (.path pathID)) (h : Reaches K s₀ s) :
    Reaches K s₀ (s.pathClosed pathID) := by
  rw [pathClosed]
  split
  · exact h
  next pth hpth =>
  split_ifs
  · exact h.path hK hpth ⟨rfl, rfl, rfl, fun hopen => by cases hopen⟩
  · exact h

theorem setCongestion_reaches {congestion : κ}
    (hK : ∀ rttStats, K (.handler pathID (.shared rttStats congestion))) (h : Reaches K s₀ s) :
    Reaches K s₀ (s.setCongestion pathID congestion) := by
  rw [setCongestion]
  split
  · exact h
  next pth hpth =>
  exact h.act (hK pth.sentPacketHandler.rttStats) (.handler hpth trivial)

theorem onStream_reaches {op : StreamOp} (hK : K (.stream id op)) (h : Reaches K s₀ s) :
    Reaches K s₀ (s.onStream id op.apply) := by
  rw [Session.onStream]
  split
  · exact h
  next str hstr => exact h.onStream hK hstr

theorem resetStream_reaches {err : Option String}
    (hK : ∀ a, Event.Acts s₀ (.resetStream id err) a → K a) (h : Reaches K s₀ s) :
    Reaches K s₀ (s.resetStream id err) := by
  rw [resetStream]
  split
  · exact h
  next str hstr =>
  exact queueResetStreamFrame_reaches (fun n => hK _ (.resetQueue n))
    (h.onStream (hK _ .resetStream) hstr) _

theorem readStream_reaches {id len : Nat} {clock : Nat → Int}
    (hK : ∀ a, Event.Acts s (.read id len clock) a → K a) (h : Reaches K s₀ s) :
    Reaches K s₀ (s.readStream id len clock) := by
  rw [readStream]
  split
  · exact h
  next str hstr =>
  dsimp only
  split_ifs
  · exact h.onStream (hK _ .read) hstr
  · exact (h.act (hK _ (.bytesRead hstr)) (.flowControl s _)).onStream (hK _ .read) hstr

end Session

namespace Connection
variable {κ : Type} [SendAlgorithm κ]
open Session

/-- **An event is made of its acts.** -/
theorem apply_reaches (c : Connection κ) (h : c.session.WellKeyed) {e : Event κ}
    (henabled : c.Enabled e) : Reaches (Event.Acts c.session e) c.session (c.apply e).session := by
  have hstart : Reaches (Event.Acts c.session e) c.session c.session := .refl h
  cases e with
  | receive p env => exact handlePacketImpl_reaches (fun _ ha => .receive ha) hstart env
  | alarm pathID env => exact onAlarm_reaches (fun _ ha => ha) hstart
  | handshakeCompleted => exact hstart.act .handshakeCompleted (.handshakeCompleted _)
  | keepAlive => exact keepAlive_reaches (fun _ ha => ha) hstart
  | startSending env => exact startSending_reaches (fun _ ha => .startSending ha.sends) hstart env
  | sendRound sch d env =>
    exact sendRound_reaches (fun _ ha => .sendRound ha) hstart (c.sending.getD []) sch d env
  | schedulePathsFrame env => exact hstart.schedulePathsFrame .scheduleNote .schedulePathsFrame env
  | garbageCollect =>
    exact collectStreams_reaches _ (fun _ _ hstr hfinished => .garbageCollect hstr hfinished) hstart
  | close ccf env =>
    cases ccf with
    | none => exact hstart
    | some ccf => exact sendConnectionClose_reaches (fun _ ha => ha) hstart
  | installKeys encLevel nonce => exact hstart.act .installKeys (.installKeys _ encLevel nonce)
  | setParameters params => exact hstart.act .setParameters (.setParameters _ params)
  | runPathManager localAddrs first env =>
    have hrun := runPathManager_reaches (fun _ ha => ha) henabled.2.2.1
      (hstart : Reaches (Event.Acts c.session (.runPathManager localAddrs first env)) _ _)
    rw [apply]
    generalize c.session.runPathManager localAddrs first env = r at hrun
    obtain ⟨session, _ | err⟩ := r
    · exact hrun
    · exact hrun
  | pathClosed pathID => exact pathClosed_reaches .pathClosed hstart
  | setCongestion pathID congestion =>
    exact setCongestion_reaches (fun rttStats => .setCongestion rttStats) hstart
  | openStream => exact hstart.act .openStream (.openStream _)
  | acceptStream => exact hstart.act .acceptStream (.acceptStream _)
  | read id len clock => exact readStream_reaches (fun _ ha => ha) hstart
  | write id p => exact onStream_reaches .write hstart
  | closeStream id => exact onStream_reaches .closeStream hstart
  | resetStream id err => exact resetStream_reaches (fun _ ha => ha) hstart

theorem Initial.wellKeyed {c : Connection κ} (h : Initial c) : c.session.WellKeyed := by
  cases h with
  | new =>
    refine ⟨fun id pth hlookup => ?_⟩
    have hentry := List.mem_singleton.mp (List.of_mem_dlookup hlookup)
    cases hentry
    rfl

end Connection
end MpQuic
