import MpQuic.HandlePacket
import MpQuic.Panics

/-!
# Frames that name paths

An ACK frame is about the path its ID byte names, and so is an entry of a PATHS
frame whose RTT says that the path has potentially failed.  For these the session
uses the path without checking that it exists.  A CLOSE_PATH frame for an unknown
path is ignored, and other entries of a PATHS frame touch no path.

`handleFrame_nilPath_iff` is the one-frame case: the nil pointer is used exactly if
the frame names a path that is not in the table.  The table only grows while the
frames of a packet are handled (`Session.KeepsPaths`).
-/
namespace MpQuic
open Systems Outcome List

namespace Session
variable {κ : Type}

/-- The path is in the table. -/
def Knows (s : Session κ) (id : Nat) : Prop := (s.paths.lookup id).isSome

instance (s : Session κ) (id : Nat) : Decidable (s.Knows id) :=
  inferInstanceAs (Decidable (_ = true))

/-- No path is removed from the table. -/
structure KeepsPaths (s s' : Session κ) : Prop where
  knows : ∀ id, s.Knows id → s'.Knows id

/-- The entries of a PATHS frame that the loop of `handleFrames` looks at. -/
def pathEntries (f : PathsFrame) : List (Nat × Int) :=
  (f.pathIDs.zip f.remoteRTTs).take f.numPaths

/-- The paths a frame makes the session use are in the table. -/
def NamesKnownPaths (s : Session κ) : Frame StreamFrame → Prop
  | .ack f => s.Knows f.pathID
  | .paths f => ∀ e ∈ pathEntries f, failedRTT ≤ e.2 → s.Knows e.1
  | _ => True

theorem KeepsPaths.refl (s : Session κ) : KeepsPaths s s := ⟨fun _ h => h⟩

theorem KeepsPaths.trans {s s' s'' : Session κ} (h : KeepsPaths s s') (h' : KeepsPaths s' s'') :
    KeepsPaths s s'' := ⟨fun id hid => h'.knows id (h.knows id hid)⟩

theorem knows_setPath_iff (s : Session κ) (pathID id : Nat) (pth : Path κ) :
    (s.setPath pathID pth).Knows id ↔ id = pathID ∨ s.Knows id := by
  by_cases h : id = pathID
  · subst h
    simp [Knows]
  · simp [Knows, lookup_setPath_of_ne s pth h, h]

theorem keepsPaths_setPath (s : Session κ) (pathID : Nat) (pth : Path κ) :
    KeepsPaths s (s.setPath pathID pth) :=
  ⟨fun id h => (knows_setPath_iff s pathID id pth).mpr (.inr h)⟩

/-! ## Handlers that use no path of the frame -/

/-- What a handler does that neither removes a path nor uses a missing one. -/
abbrev Safe (s : Session κ) (r : Outcome (Session κ) Err) : Prop :=
  Holds (KeepsPaths s) (· ≠ .panic .nilPath) r

variable {s : Session κ} {pathID : Nat}

theorem safe_of_paths_eq {r : Outcome (Session κ) Err} (h : r.1.paths = s.paths) (he : NotNil r.2) :
    Safe s r := by
  refine ⟨⟨?_⟩, fun e hr => (he.error e hr).1⟩
  intro id hid
  simpa [Knows, h] using hid

theorem withStream_safe (s : Session κ) (id : Nat) {missing : Option Err}
    {f : Session κ → Stream → Outcome (Session κ) Err} (hm : NotNil missing)
    (hf : ∀ s' str, s'.paths = s.paths → Safe s (f s' str)) :
    Safe s (s.withStream id missing f) := by
  have herr := StreamFramer.getOrOpenStream_notNil s.streamFramer id
  unfold withStream
  generalize s.streamFramer.getOrOpenStream id = opened at herr ⊢
  obtain ⟨framer, err⟩ := opened
  dsimp only at herr ⊢
  split
  · exact safe_of_paths_eq rfl herr
  · exact safe_of_paths_eq rfl hm
  · exact hf _ _ rfl

theorem handleStreamFrame_safe (s : Session κ) (f : StreamFrame) :
    Safe s (s.handleStreamFrame f) := by
  unfold handleStreamFrame
  refine withStream_safe s _ notNil_none ?_
  intro s' str hs'
  have herr := FlowControlManager.updateHighestReceived_notNil
    s'.streamFramer.flowControlManager f.streamID (add64 f.offset f.dataLen)
  dsimp only [withFlowControl]
  generalize s'.streamFramer.flowControlManager.updateHighestReceived f.streamID
    (add64 f.offset f.dataLen) = received at herr ⊢
  obtain ⟨fc, _ | e⟩ := received
  · refine safe_of_paths_eq hs' ?_
    cases (str.addStreamFrame f).2 <;> simp [Err.NotNil]
  · exact safe_of_paths_eq hs' herr

theorem paths_queueResetStreamFrame (s : Session κ) (id : Nat) (offset : Option Nat) :
    (s.queueResetStreamFrame id offset).paths = s.paths := by
  cases offset <;> rfl

theorem handleRstStreamFrame_safe (s : Session κ) (f : RstStreamFrame) :
    Safe s (s.handleRstStreamFrame f) := by
  unfold handleRstStreamFrame
  refine withStream_safe s _ (by simp [Err.NotNil]) ?_
  intro s' str hs'
  refine safe_of_paths_eq ?_ (FlowControlManager.resetStream_notNil ..)
  exact (paths_queueResetStreamFrame ..).trans hs'

theorem handleWindowUpdateFrame_safe (s : Session κ) (f : WindowUpdateFrame) :
    Safe s (s.handleWindowUpdateFrame f) := by
  unfold handleWindowUpdateFrame
  split
  · refine withStream_safe s _ (by simp [Err.NotNil]) ?_
    intro s' str hs'
    exact safe_of_paths_eq hs' (FlowControlManager.updateWindow_notNil ..)
  · exact safe_of_paths_eq rfl (FlowControlManager.updateWindow_notNil ..)

/-! ## STOP_WAITING and PATHS frames -/

theorem handleStopWaitingFrame_safe (f : StopWaitingFrame) (h : s.Knows pathID) :
    Safe s (s.handleStopWaitingFrame pathID f) := by
  unfold handleStopWaitingFrame
  obtain ⟨pth, hpth⟩ := Option.isSome_iff_exists.mp h
  simp only [hpth]
  exact holds_ok (keepsPaths_setPath ..)

/-- The possible results of the loop over the first `n` entries of a PATHS frame. -/
inductive EntriesResult (s : Session κ) (entries : List (Nat × Int)) (n : Nat) :
    Option Err → Prop
  | done (hlen : n ≤ entries.length)
      (h : ∀ e ∈ entries.take n, failedRTT ≤ e.2 → s.Knows e.1) : EntriesResult s entries n none
  | outOfRange (hlen : entries.length < n)
      (h : ∀ e ∈ entries.take n, failedRTT ≤ e.2 → s.Knows e.1) :
      EntriesResult s entries n (some (.panic .indexOutOfRange))
  | nilPath {e : Nat × Int} (he : e ∈ entries.take n) (hrtt : failedRTT ≤ e.2)
      (h : ¬ s.Knows e.1) : EntriesResult s entries n (some (.panic .nilPath))

/-- One entry: the index is out of range, the path is missing, or all is well. -/
theorem handlePathEntry_result (f : PathsFrame) (i : Nat) (s : Session κ) :
    (∀ id, (handlePathEntry f i s).1.Knows id ↔ s.Knows id) ∧
      match (f.pathIDs.zip f.remoteRTTs)[i]? with
      | none => (handlePathEntry f i s).2 = some (.panic .indexOutOfRange)
      | some e => (handlePathEntry f i s).2 =
          if failedRTT ≤ e.2 ∧ ¬ s.Knows e.1 then some (.panic .nilPath) else none := by
  unfold handlePathEntry
  cases hz : (f.pathIDs.zip f.remoteRTTs)[i]? with
  | none =>
    have hshort : f.pathIDs[i]? = none ∨ f.remoteRTTs[i]? = none := by
      rw [getElem?_eq_none_iff, length_zip] at hz
      simp only [getElem?_eq_none_iff]
      omega
    rcases hshort with h | h
    · simp [h]
    · cases hid : f.pathIDs[i]? <;> simp [h]
  | some e =>
    obtain ⟨hid, hrtt⟩ := getElem?_zip_eq_some.mp hz
    simp only [hid, hrtt]
    by_cases hfailed : failedRTT ≤ e.2
    · simp only [hfailed, if_true, true_and]
      cases hpth : s.paths.lookup e.1 with
      | none => simp [Knows, hpth]
      | some pth =>
        have hknows : s.Knows e.1 := by simp [Knows, hpth]
        refine ⟨?_, by simp [hknows]⟩
        intro id
        refine (knows_setPath_iff ..).trans ⟨?_, .inr⟩
        rintro (rfl | h)
        · exact hknows
        · exact h
    · simp [hfailed, Knows]

/-- The loop over the entries, by induction on how many of them were handled. -/
theorem handlePathEntries_result (f : PathsFrame) (s : Session κ) (n : Nat) :
    (∀ id, (forEach (handlePathEntry f) (range n) s).1.Knows id ↔ s.Knows id) ∧
      EntriesResult s (f.pathIDs.zip f.remoteRTTs) n
        (forEach (handlePathEntry f) (range n) s).2 := by
  induction n with
  | zero => exact ⟨fun _ => Iff.rfl, .done (by simp) (by simp)⟩
  | succ n ih =>
    rw [range_succ, forEach_append]
    generalize forEach (handlePathEntry f) (range n) s = r at ih
    obtain ⟨s', err⟩ := r
    obtain ⟨hknows, hres⟩ := ih
    generalize hentries : f.pathIDs.zip f.remoteRTTs = entries at hres ⊢
    have htake : entries.take (n + 1) = entries.take n ++ entries[n]?.toList := take_add_one
    cases hres with
    | outOfRange hlen h =>
      refine ⟨hknows, .outOfRange (by omega) ?_⟩
      rw [take_of_length_le (by omega)] at h ⊢
      exact h
    | nilPath he hrtt h =>
      exact ⟨hknows, .nilPath (by rw [htake]; exact mem_append_left _ he) hrtt h⟩
    | done hlen h =>
      obtain ⟨hknows', hstep⟩ := handlePathEntry_result f n s'
      rw [hentries] at hstep
      simp only [andThen_none, forEach]
      generalize handlePathEntry f n s' = r' at hknows' hstep
      obtain ⟨s'', err'⟩ := r'
      refine ⟨?_, ?_⟩
      · intro id
        cases err' <;> exact (hknows' id).trans (hknows id)
      cases he : entries[n]? with
      | none =>
        simp only [he] at hstep
        rw [hstep]
        have hlen' : entries.length < n + 1 := by
          have := getElem?_eq_none_iff.mp he
          omega
        refine .outOfRange hlen' ?_
        rw [htake, he]
        simpa using h
      | some e =>
        simp only [he, hknows] at hstep
        obtain ⟨hn, -⟩ := List.getElem?_eq_some_iff.mp he
        by_cases hbad : failedRTT ≤ e.2 ∧ ¬ s.Knows e.1
        · rw [hstep, if_pos hbad]
          exact .nilPath (by rw [htake, he]; simp) hbad.1 hbad.2
        · rw [hstep, if_neg hbad]
          refine .done (by omega) ?_
          rw [htake, he]
          intro e' he' hrtt
          rcases mem_append.mp he' with he' | he'
          · exact h e' he' hrtt
          · obtain rfl : e' = e := by simpa using he'
            by_contra hnot
            exact hbad ⟨hrtt, hnot⟩

/-- A PATHS frame uses a nil pointer exactly if an entry with a large RTT names an unknown path,
and changes which paths there are in no case. -/
theorem handlePathsFrame_nilPath_iff (s : Session κ) (f : PathsFrame) :
    (∀ id, (s.handlePathsFrame f).1.Knows id ↔ s.Knows id) ∧
      ((s.handlePathsFrame f).2 = some (.panic .nilPath) ↔ ¬ s.NamesKnownPaths (.paths f)) := by
  obtain ⟨hknows, hres⟩ := handlePathEntries_result f s f.numPaths
  refine ⟨hknows, ?_⟩
  unfold handlePathsFrame
  cases hres' : (forEach (handlePathEntry f) (range f.numPaths) s).2 with
  | none =>
    rw [hres'] at hres
    cases hres with
    | done _ h => simpa [NamesKnownPaths, pathEntries] using h
  | some e =>
    rw [hres'] at hres
    cases hres with
    | outOfRange _ h => simpa [NamesKnownPaths, pathEntries] using h
    | nilPath he hrtt h =>
      refine iff_of_true rfl ?_
      intro hall
      exact h (hall _ he hrtt)

/-! ## Paths created for an ADD_ADDRESS frame -/

variable [SendAlgorithm κ]

theorem sendPackedPacket_safe (s : Session κ) (packer : PacketPacker) (pth : Path κ)
    (packet : PackedPacket) (env : Env) : Safe s (s.sendPackedPacket packer pth packet env) := by
  unfold sendPackedPacket
  dsimp only
  split
  · next e he =>
    exact holds_error ⟨(keepsPaths_setPath s ..).knows⟩
      ((SentPacketHandler.sentPacket_notNil ..).error e he).1
  · exact holds_ok ⟨(keepsPaths_setPath s ..).knows⟩

theorem sendPing_safe (s : Session κ) (pth : Path κ) (env : Env) : Safe s (s.sendPing pth env) := by
  unfold sendPing
  refine holds_orElseKeep (KeepsPaths.refl s) ?_ ?_
  · refine (PacketPacker.packPacket_fails ..).imp ?_
    rintro e (he | ⟨rfl, -⟩)
    · exact he.1
    · simp
  · rintro ⟨packer, pth, _ | packet⟩ -
    · exact holds_error ⟨fun _ h => h⟩ (by simp)
    · exact sendPackedPacket_safe ..

theorem keepsPaths_addPath (s : Session κ) (pm : PathManager) (pathID : Nat)
    (localAddr remoteAddr : UDPAddr) (env : Env) :
    KeepsPaths s (s.addPath pm pathID localAddr remoteAddr env) :=
  ⟨(keepsPaths_setPath s ..).knows⟩

theorem createPath_safe (s : Session κ) (locAddr remAddr : UDPAddr) (env : Env) :
    Safe s (s.createPath locAddr remAddr env) := by
  unfold createPath
  split
  · exact holds_ok (KeepsPaths.refl s)
  next pm _ =>
  split
  · exact holds_ok (KeepsPaths.refl s)
  dsimp only
  have hnew := s.isSome_lookup_addPath { pm with nxtPathID := (pm.nxtPathID + 2) % 2 ^ 8 }
    pm.nxtPathID locAddr remAddr env
  split
  · next hnone => exact absurd hnew (by rw [hnone]; simp)
  · exact (sendPing_safe ..).imp (fun _ h => (keepsPaths_addPath ..).trans h) (fun _ h => h)

theorem createPathsNow_safe (s : Session κ) (pm : PathManager) (env : Env) :
    Safe s (s.createPathsNow pm env) := by
  unfold createPathsNow
  split
  · have hpaths : ∀ (addrs : List UDPAddr) (s : Session κ),
        (addrs.foldl advertiseAddress s).paths = s.paths := by
      intro addrs
      induction addrs with
      | nil => simp
      | cons addr addrs ih =>
        intro s
        rw [foldl_cons, ih, advertiseAddress]
        split
        · rfl
        · split <;> rfl
    exact safe_of_paths_eq (hpaths pm.localAddrs s) notNil_none
  · refine Holds.andThen (holds_forEach ?_ (KeepsPaths.refl s)) ?_
    · intro addrs _ s' hs'
      exact (createPath_safe ..).imp (fun _ h => hs'.trans h) (fun _ h => h)
    · intro s' hs'
      exact holds_ok ⟨hs'.knows⟩

theorem handleAddAddressFrame_safe (s : Session κ) (pm : PathManager) (f : AddAddressFrame)
    (env : Env) : Safe s (s.handleAddAddressFrame pm f env) := by
  unfold handleAddAddressFrame
  dsimp only
  split
  · exact holds_error (KeepsPaths.refl s) (by simp)
  · split
    · exact (createPathsNow_safe ..).imp (fun _ h => ⟨h.knows⟩) (fun _ h => h)
    · exact holds_ok ⟨(KeepsPaths.refl s).knows⟩

/-! ## Handlers that use the path of the frame -/

theorem handleAckFrame_safe {f : AckFrame} (env : Env) (h : s.Knows f.pathID) :
    Safe s (s.handleAckFrame f env) := by
  unfold handleAckFrame
  obtain ⟨pth, hpth⟩ := Option.isSome_iff_exists.mp h
  simp only [hpth]
  refine ⟨?_, fun e he => ((SentPacketHandler.receivedAck_notNil ..).error e he).1⟩
  split
  · unfold updateSessionRTT
    split
    · exact keepsPaths_setPath ..
    · exact (keepsPaths_setPath ..).trans (keepsPaths_setPath ..)
  · exact keepsPaths_setPath ..

/-- A CLOSE_PATH frame for a path that is not there is refused with an error. -/
theorem handleClosePathFrame_safe (s : Session κ) (f : ClosePathFrame) :
    Safe s (s.handleClosePathFrame f) := by
  rw [handleClosePathFrame]
  cases hpth : s.paths.lookup f.pathID with
  | none =>
    rw [closePath, hpth]
    exact holds_error (KeepsPaths.refl s) (by simp)
  | some pth =>
    have hknown : s.Knows f.pathID := by simp [Knows, hpth]
    refine Holds.andThen (P := KeepsPaths s) ?_ fun s' hs' => ?_
    · rw [closePath, hpth]
      dsimp only
      split
      · exact holds_ok (KeepsPaths.refl s)
      · refine holds_ok ⟨?_⟩
        split
        · exact (keepsPaths_setPath ..).knows
        · exact (KeepsPaths.refl s).knows
    · -- whether or not the path was closed before, the table still has it
      obtain ⟨pth', hpth'⟩ := Option.isSome_iff_exists.mp (hs'.knows _ hknown)
      simp only [hpth']
      exact ⟨hs'.trans (keepsPaths_setPath ..),
        fun e he => ((SentPacketHandler.receivedClosePath_notNil ..).error e he).1⟩

/-! ## All frames -/

/-- A frame that names only known paths is handled without a nil path. -/
theorem handleFrame_safe (env : Env) {f : Frame StreamFrame} (h : s.Knows pathID)
    (hf : s.NamesKnownPaths f) : Safe s (s.handleFrame pathID env f) := by
  cases f with
  | stream f => exact handleStreamFrame_safe s f
  | ack f => exact handleAckFrame_safe env hf
  | stopWaiting f => exact handleStopWaitingFrame_safe f h
  | rstStream f => exact handleRstStreamFrame_safe s f
  | windowUpdate f => exact handleWindowUpdateFrame_safe s f
  | blocked f => exact holds_ok ⟨(KeepsPaths.refl s).knows⟩
  | ping => exact holds_ok (KeepsPaths.refl s)
  | goaway f => exact holds_error (KeepsPaths.refl s) (by simp)
  | connectionClose f => exact holds_ok ⟨(KeepsPaths.refl s).knows⟩
  | addAddress f =>
    simp only [handleFrame]
    split
    · exact holds_ok (KeepsPaths.refl s)
    · next pm _ =>
      have hsafe := handleAddAddressFrame_safe s pm f env
      exact ⟨⟨hsafe.1.knows⟩, hsafe.2⟩
  | closePath f => exact (handleClosePathFrame_safe s f).ignoring _
  | paths f =>
    obtain ⟨hknows, hnil⟩ := handlePathsFrame_nilPath_iff s f
    refine ⟨⟨fun id hid => (hknows id).mpr hid⟩, ?_⟩
    rintro e he rfl
    exact hnil.mp he hf

/-- **One frame**: a nil path is used exactly if the frame names a path that is not there. -/
theorem handleFrame_nilPath_iff (env : Env) (f : Frame StreamFrame) (h : s.Knows pathID) :
    (s.handleFrame pathID env f).2 = some (.panic .nilPath) ↔ ¬ s.NamesKnownPaths f := by
  constructor
  · intro hnil hf
    exact (handleFrame_safe env h hf).2 _ hnil rfl
  · intro hf
    cases f with
    | ack f =>
      have hnone : s.paths.lookup f.pathID = none := by simpa [NamesKnownPaths, Knows] using hf
      simp [handleFrame, handleAckFrame, hnone]
    | paths f => exact (handlePathsFrame_nilPath_iff s f).2.mpr hf
    | _ => exact absurd trivial hf

/-- Every frame that `handleFrames` gets to names only paths that are then in the table. -/
def ReachedFramesKnown (pathID : Nat) (env : Env) : List (Frame StreamFrame) → Session κ → Prop
  | [], _ => True
  | f :: fs, s => s.NamesKnownPaths f ∧
      ∀ s', (s.handleFrame pathID env f).ignoring ignoredError = (s', none) →
        ReachedFramesKnown pathID env fs s'

/-- The frames of a packet, by induction on the list. -/
theorem handleFrames_nilPath_iff (env : Env) (fs : List (Frame StreamFrame)) (h : s.Knows pathID) :
    (s.handleFrames fs pathID env).2 ≠ some (.panic .nilPath) ↔
      ReachedFramesKnown pathID env fs s := by
  unfold handleFrames
  induction fs generalizing s with
  | nil => simp [forEach, ReachedFramesKnown]
  | cons f fs ih =>
    rw [forEach, ReachedFramesKnown]
    by_cases hf : s.NamesKnownPaths f
    · have hsafe := (handleFrame_safe env h hf).ignoring ignoredError
      rcases hr : (s.handleFrame pathID env f).ignoring ignoredError with ⟨s', _ | e⟩
      · rw [hr] at hsafe
        simpa [hf] using ih (hsafe.1.knows _ h)
      · rw [hr] at hsafe
        simpa [hf] using hsafe.2 e rfl
    · have hnil := (handleFrame_nilPath_iff env f h).mpr hf
      rcases hr : s.handleFrame pathID env f with ⟨s', err⟩
      obtain rfl : err = some (.panic .nilPath) := by simpa [hr] using hnil
      have hkept : ignoring ignoredError (s', some (.panic .nilPath)) =
        (s', some (.panic .nilPath)) := rfl
      simp [hf, hkept]

/-- If all frames name paths in the table at the start, none of them meets a nil path. -/
theorem reachedFramesKnown_of_known (env : Env) {fs : List (Frame StreamFrame)}
    (h : s.Knows pathID) (hfs : ∀ f ∈ fs, s.NamesKnownPaths f) :
    ReachedFramesKnown pathID env fs s := by
  induction fs generalizing s with
  | nil => trivial
  | cons f fs ih =>
    refine ⟨hfs f (by simp), ?_⟩
    intro s' hs'
    have hkeeps := ((handleFrame_safe env h (hfs f (by simp))).ignoring ignoredError).1
    rw [hs'] at hkeeps
    refine ih (hkeeps.knows _ h) ?_
    intro f' hf'
    have hknown := hfs f' (by simp [hf'])
    cases f' with
    | ack f' => exact hkeeps.knows _ hknown
    | paths f' => exact fun e he hrtt => hkeeps.knows _ (hknown e he hrtt)
    | _ => trivial

/-- **Frames that name paths.**  For frames arriving on a path of the session, handling them uses
no missing path exactly if every frame that is reached names only paths in the table: its path in
an ACK frame, and the paths with an RTT of half an hour or more in a PATHS frame.  A CLOSE_PATH
frame for an unknown path is ignored; of another entry about an unknown path the RTT is noted. -/
theorem frames_use_known_paths_iff (s : Session κ) (pathID : Nat) (env : Env)
    (fs : List (Frame StreamFrame)) (h : s.Knows pathID) :
    ((s.handleFrames fs pathID env).2 ≠ some (.panic .nilPath) ↔
        ReachedFramesKnown pathID env fs s) ∧
      (∀ f : ClosePathFrame, ¬ s.Knows f.pathID →
        s.handleFrame pathID env (.closePath f) = (s, none)) ∧
      (∀ f : PathsFrame, ∀ id, (s.handlePathsFrame f).1.Knows id ↔ s.Knows id) := by
  refine ⟨handleFrames_nilPath_iff env fs h, ?_, fun f => (handlePathsFrame_nilPath_iff s f).1⟩
  intro f hf
  have hnone : s.paths.lookup f.pathID = none := by simpa [Knows] using hf
  simp [handleFrame, handleClosePathFrame, closePath, hnone, ignoring, Err.isPanic]

/-- The payload of a packet with one ACK frame for packet 1 of a path. -/
def ackPayload (pathID : Byte) : List Byte := [0x50, pathID, 1, 0, 0, 1, 0]

/-- The frame `Unpack` returns for it. -/
def ackOfPath (pathID : Nat) : Frame StreamFrame :=
  .ack { pathID, largestAcked := 1, lowestAcked := 1, ackRanges := [], packetReceivedTime := 0,
         delayTime := 0 }

/-- An ACK frame for the initial path of a new client. -/
theorem frames_use_known_paths_initial :
    (sample .client).Knows 0 ∧ ((sample .client).handleFrames [ackOfPath 0] 0 { now := 1 }).2 ≠
      some (.panic .nilPath) := by
  have hknown : (sample .client).Knows 0 := by decide
  refine ⟨hknown, (frames_use_known_paths_iff _ _ _ _ hknown).1.mpr ?_⟩
  exact reachedFramesKnown_of_known _ hknown (by simpa [ackOfPath, NamesKnownPaths] using hknown)

/-- An ACK frame for path 7, which `Unpack` accepts, crashes a session that only has path 0. -/
theorem ack_for_unknown_path_crashes :
    unpack versionMP 1 1 (some (ackPayload 7, .forwardSecure)) = .ok [ackOfPath 7] ∧
      (sample .client).Knows 0 ∧
      ((sample .client).handleFrames [ackOfPath 7] 0 { now := 1 }).2 =
        some (.panic .nilPath) := by
  refine ⟨by decide +kernel, by decide, rfl⟩

end Session
end MpQuic
