import MpQuic.Lib.Machine
import MpQuic.ServerSafety

/-!
# The registry of the sessions

The schedulers `multiclients` and `sacmulti` make the other sessions of the server a
part of the state they learn from.  They find them in `multiclients.S2`: the server
puts a session in when it opens it and takes it out when it is closed, and the
session itself refreshes its entry when it selects a path.  But sending the end of
any stream takes the session out as well, and a session that could not be set up
stays in.
-/
namespace MpQuic
open Systems List AList Option

/-! ## What the schedulers make of the registry -/

/-- The part of `StateSACMulti` that is about all sessions. -/
structure SessionTotals where
  cNumber : Nat
  cwndf : Nat
  inpf : Nat
  srttf : Int
  cwnds : Nat
  inps : Nat
  srtts : Int
  deriving DecidableEq, Repr

/-- The totals `selectPathSACMulti` computes from the items of `S2`.  The bytes in flight of the
first path are counted twice, and those of the second one are not. -/
def sessionTotals (states : List (Option StateMulti)) : SessionTotals where
  cNumber := states.length
  cwndf := totalBytes states (·.fCWND)
  inpf := totalBytes states (·.fInP)
  srttf := totalTime states (·.fRTT)
  cwnds := totalBytes states (·.sCWND)
  inps := totalBytes states (·.fInP)
  srtts := totalTime states (·.sRTT)

/-- The order of the items does not matter. -/
theorem sessionTotals_perm {states states' : List (Option StateMulti)} (h : states.Perm states') :
    sessionTotals states = sessionTotals states' := by
  have hitems : states.reduceOption.Perm states'.reduceOption := h.filterMap id
  have hbytes (bytes : StateMulti → Nat) : totalBytes states bytes = totalBytes states' bytes := by
    rw [totalBytes, totalBytes, h.length_eq,
      hitems.foldl_eq' (fun x _ y _ z => by simp only [add64]; omega)]
  have htime (rtt : StateMulti → Int) : totalTime states rtt = totalTime states' rtt := by
    rw [totalTime, totalTime, h.length_eq, hitems.foldl_eq' (fun x _ y _ z => by omega)]
  simp only [sessionTotals, hbytes, htime, h.length_eq]

/-! ## Runs of the server -/

/-- What happens to the server and its sessions. -/
inductive ServerOp
  | handlePacket (env : ServerEnv) (remoteAddr : RemoteAddr) (packet : List Byte)
  /-- A session selects a path, with what it has measured. -/
  | selectPath (id : Nat) (value : StateMulti)
  /-- `performPacketSending` of a session, for the frames of the packet. -/
  | performPacketSending (id : Nat) (frames : List (Frame StreamFrame))
  /-- `session.run` returns. -/
  | removeConnection (id : Nat)
  /-- A closed session is deleted. -/
  | deleteClosedSession (id : Nat)

/-- The frame is the last one of its stream. -/
def Frame.hasFin : Frame StreamFrame → Bool
  | .stream frame => frame.finBit
  | _ => false

namespace Server

/-- There is an open session with this connection ID. -/
def IsOpen (srv : Server) (id : Nat) : Prop := (srv.sessions.lookup id).join.isSome = true

/-- The part of a selection by `multiclients` and `sacmulti` that refreshes the entry of the
session. -/
def refresh (srv : Server) (id : Nat) (value : StateMulti) : Server :=
  { srv with
    sessions := srv.sessions.insert id
      ((srv.sessions.lookup id).join.map ({ · with measured := some value }))
    s2 := if id ∈ srv.s2 then srv.s2.insert id (some value) else srv.s2 }

/-- The loop of `performPacketSending` over the frames of the packet. -/
def sentFrames (srv : Server) (id : Nat) (frames : List (Frame StreamFrame)) : Server :=
  frames.foldl (fun srv frame =>
    if frame.hasFin && (srv.schedulerName == .multiclients || srv.schedulerName == .sacmulti) then
      { srv with s2 := srv.s2.erase id }
    else srv) srv

/-- One step; only an open session does anything. -/
def Step (srv : Server) : ServerOp → Server → Prop
  | .handlePacket env remoteAddr packet, srv' =>
    ∃ use, srv.handlePacket env remoteAddr packet = .ok (srv', use)
  | .selectPath id value, srv' => srv.IsOpen id ∧ srv' = srv.refresh id value
  | .performPacketSending id frames, srv' => srv.IsOpen id ∧ srv' = srv.sentFrames id frames
  | .removeConnection id, srv' => srv.IsOpen id ∧ srv' = srv.removeConnection id
  | .deleteClosedSession id, srv' =>
    srv.sessions.lookup id = some none ∧ srv' = srv.deleteClosedSession id

/-- The runs of a server with one of the two schedulers. -/
def machine : Machine Server ServerOp where
  init srv := (srv.schedulerName = .multiclients ∨ srv.schedulerName = .sacmulti) ∧
    srv.sessions = ∅ ∧ srv.s2 = ∅
  step := Step

/-- The items of `S2`. -/
def states (srv : Server) : List (Option StateMulti) := srv.s2.entries.map (·.2)

/-- What the open sessions have measured last. -/
def liveStates (srv : Server) : List (Option StateMulti) :=
  srv.sessions.entries.filterMap fun e => e.2.map (·.measured)

/-- The registry is accurate: it has the open sessions, and the state of the schedulers is made of
what those have measured. -/
structure Accurate (srv : Server) : Prop where
  registered : ∀ id, id ∈ srv.s2 ↔ srv.IsOpen id
  totals : sessionTotals srv.states = sessionTotals srv.liveStates

/-! ## The invariant -/

variable {srv srv' : Server} {id : Nat}

/-- The entries of the registry are those of the open sessions. -/
def Registered (srv : Server) : Prop :=
  ∀ id, srv.s2.lookup id = (srv.sessions.lookup id).join.map (·.measured)

theorem Registered.mem_iff (h : srv.Registered) (id : Nat) : id ∈ srv.s2 ↔ srv.IsOpen id := by
  rw [← lookup_isSome, h id, isSome_map, IsOpen]

theorem mem_entries {V : Type} {m : GoMap V} {v : V} :
    (⟨id, v⟩ : Sigma fun _ : Nat => V) ∈ m.entries ↔ m.lookup id = some v :=
  (mem_lookup_iff).symm

/-- The items are what the open sessions have measured, in some order. -/
theorem Registered.perm (h : srv.Registered) : srv.states.Perm srv.liveStates := by
  let live : List (Sigma fun _ : Nat => Option StateMulti) :=
    srv.sessions.entries.filterMap fun e => e.2.map fun session => ⟨e.1, session.measured⟩
  have hlive : srv.liveStates = live.map (·.2) := by
    rw [liveStates, map_filterMap]
    refine filterMap_congr fun e _ => ?_
    rw [Option.map_map]
    rfl
  have hmem : ∀ e, e ∈ srv.s2.entries ↔ e ∈ live := by
    rintro ⟨id, state⟩
    rw [mem_entries, h id, mem_filterMap]
    constructor
    · intro hstate
      obtain ⟨session, hsession, rfl⟩ := map_eq_some_iff.mp hstate
      exact ⟨⟨id, some session⟩, mem_entries.mpr (join_eq_some_iff.mp hsession), rfl⟩
    · rintro ⟨⟨id', entry⟩, hentry, heq⟩
      obtain ⟨session, rfl, heq⟩ := map_eq_some_iff.mp heq
      cases heq
      rw [mem_entries.mp hentry]
      rfl
  -- two entries of the table have different connection IDs, and so have what is left of them
  have hnodup : live.Nodup := by
    refine (nodupKeys_iff_pairwise.mp srv.sessions.nodupKeys).filterMap _ ?_
    intro e e' hne entry hentry entry' hentry' heq
    obtain ⟨_, -, rfl⟩ := map_eq_some_iff.mp hentry
    obtain ⟨_, -, rfl⟩ := map_eq_some_iff.mp hentry'
    exact hne (Sigma.mk.inj_iff.mp heq).1
  rw [hlive]
  exact ((perm_ext_iff_of_nodup srv.s2.nodupKeys.nodup hnodup).mpr hmem).map _

theorem Registered.accurate (h : srv.Registered) : srv.Accurate :=
  ⟨h.mem_iff, sessionTotals_perm h.perm⟩

/-! ## Packets -/

variable {version : Int}

/-- The connection ID is that of the header, which a client does not truncate. -/
theorem parsePacketNumber_connectionID {header hdr : PublicHeader} {packetSentBy : Perspective}
    {bs data : List Byte} (h : header.parsePacketNumber packetSentBy version bs = .ok (hdr, data)) :
    hdr.connectionID = header.connectionID := by
  obtain ⟨pathID, bs₁, -, h⟩ := Parser.bind_ok h
  obtain ⟨packetNumber, bs₂, -, h⟩ := Parser.bind_ok h
  cases h
  rfl

/-- The header has the connection ID that was peeked at before it was parsed. -/
theorem parsePublicHeader_connectionID {packet data : List Byte} {hdr : PublicHeader}
    {connID : Nat} (hpeek : peekConnectionID packet = .ok connID)
    (h : parsePublicHeader .client version packet = .ok (hdr, data)) :
    hdr.connectionID = connID := by
  cases packet with
  | nil => cases h
  | cons publicFlagByte rest =>
    rw [peekConnectionID] at hpeek
    split at hpeek
    · cases hpeek
    next hflag =>
    have htruncate : (PublicHeader.ofFlagByte publicFlagByte .client).truncateConnectionID =
        false := by
      rw [PublicHeader.ofFlagByte]
      split <;> simpa using hflag
    obtain ⟨publicFlagByte', rest', hbyte, h⟩ := Parser.bind_ok h
    cases hbyte
    dsimp only at h
    split at h
    · cases h
    rw [htruncate] at h
    split at h
    · cases h
    obtain ⟨connectionID, bs₁, hid, h⟩ := Parser.bind_ok h
    -- the connection ID has been peeked at
    have hconnID : connectionID = connID := by
      obtain ⟨n, bs₂, hread, hid⟩ := Parser.bind_ok (x := Parser.readUintN .littleEndian 8) hid
      rw [show Parser.readUintN .littleEndian 8 rest = .ok (n, bs₂) from hread] at hpeek
      split at hid
      · cases hid
      · cases hid
        cases hpeek
        rfl
    obtain ⟨nonce, bs₃, -, h⟩ := Parser.bind_ok h
    rw [← hconnID]
    split at h
    · split at h
      · next hserver => cases hserver
      · obtain ⟨tag, bs₄, -, h⟩ := Parser.bind_ok h
        exact parsePacketNumber_connectionID h
    · exact parsePacketNumber_connectionID h

/-- A session has been put into the table and into the registry; into the latter also if its setup
failed. -/
structure Opened (srv : Server) (env : ServerEnv) (connID id : Nat) (srv' : Server) : Prop where
  s2 : srv'.s2 = if id ∈ srv.s2 then srv.s2 else srv.s2.insert id none
  sessions : env.cryptoSetupError = none →
    ∃ version, srv'.sessions = srv.sessions.insert connID (some { version })
  name : srv'.schedulerName = srv.schedulerName

variable {env : ServerEnv} {remoteAddr : RemoteAddr} {packet data : List Byte} {connID : Nat}
  {hdr : PublicHeader} {use : ServerUse}

/-- If `newSession` does not panic, it fails with the crypto setup only. -/
theorem newSession_ok {name : SchedulerName} {r : Except String ServerSession}
    (h : newSession env name version remoteAddr = .ok r) (hok : env.cryptoSetupError = none) :
    r = .ok { version } := by
  rw [newSession] at h
  split at h
  · cases h
  split_ifs at h
  rw [hok] at h
  cases h
  rfl

theorem openSession_cases
    (h : srv.openSession env remoteAddr connID hdr data = .ok (srv', use)) :
    srv' = srv ∨ isSupportedVersion srv.versions hdr.versionNumber = true ∧
      srv.Opened env connID hdr.connectionID srv' := by
  rw [openSession] at h
  split at h
  · cases h
    exact Or.inl rfl
  next hsupported =>
  refine Or.inr ⟨by simpa using hsupported, ?_⟩
  split at h
  · cases h
  dsimp only at h
  cases hnew : newSession env srv.schedulerName hdr.versionNumber remoteAddr with
  | error p =>
    rw [hnew] at h
    cases h
  | ok r =>
    have hsession := newSession_ok hnew
    rw [hnew] at h
    cases r with
    | error err =>
      cases h
      exact ⟨rfl, fun hok => (by cases hsession hok), rfl⟩
    | ok session =>
      cases h
      refine ⟨rfl, fun hok => ⟨hdr.versionNumber, ?_⟩, rfl⟩
      cases hsession hok
      rfl

theorem handleParsed_cases {known : Bool}
    (h : srv.handleParsed env remoteAddr packet connID known hdr data = .ok (srv', use)) :
    srv' = srv ∨ known = false ∧ hdr.resetFlag = false ∧
      isSupportedVersion srv.versions hdr.versionNumber = true ∧
      srv.Opened env connID hdr.connectionID srv' := by
  rw [handleParsed] at h
  split_ifs at h with hreset _ _ _ _ hnew
  · split at h
    · cases h
    · cases h
      exact Or.inl rfl
  · cases h
    exact Or.inl rfl
  · cases h
    exact Or.inl rfl
  · cases h
    exact Or.inl rfl
  · cases h
    exact Or.inl rfl
  · refine (openSession_cases h).imp_right fun hopened => ?_
    exact ⟨by simpa using hnew, by simpa using hreset, hopened⟩
  · cases h
    exact Or.inl rfl

/-- A packet leaves the server as it is, or opens a session. -/
theorem handlePacket_cases (h : srv.handlePacket env remoteAddr packet = .ok (srv', use)) :
    srv' = srv ∨ srv.opens packet ≠ none ∧
      ∃ connID, connID ∉ srv.sessions ∧ srv.Opened env connID connID srv' := by
  rw [handlePacket] at h
  cases hpeek : peekConnectionID packet with
  | error e =>
    rw [hpeek] at h
    cases e <;> cases h <;> exact Or.inl rfl
  | ok connID =>
    rw [hpeek] at h
    dsimp only at h
    split at h
    · cases h
      exact Or.inl rfl
    cases hparsed : parsePublicHeader .client
        (((srv.sessions.lookup connID).join.map (·.version)).getD versionUnknown) packet with
    | error e =>
      rw [hparsed] at h
      cases e <;> cases h <;> exact Or.inl rfl
    | ok parsed =>
      obtain ⟨hdr, data⟩ := parsed
      rw [hparsed] at h
      refine (handleParsed_cases h).imp_right ?_
      rintro ⟨hunknown, hreset, hsupported, hopened⟩
      have hnone : srv.sessions.lookup connID = none := by simpa using hunknown
      have hnew : connID ∉ srv.sessions := lookup_eq_none.mp hnone
      rw [parsePublicHeader_connectionID hpeek hparsed] at hopened
      refine ⟨?_, connID, hnew, hopened⟩
      rw [hnone] at hparsed
      change parsePublicHeader .client versionUnknown packet = _ at hparsed
      simp [opens, hpeek, hnew, hparsed, hreset, hsupported]

/-! ## Steps -/

theorem isOpen_iff : srv.IsOpen id ↔ ∃ session, srv.sessions.lookup id = some (some session) := by
  rw [IsOpen, isSome_iff_exists]
  exact exists_congr fun session => join_eq_some_iff

section
variable (h : srv.Registered)
include h

theorem Registered.opened (hnew : connID ∉ srv.sessions)
    (hopened : srv.Opened env connID connID srv') (hok : env.cryptoSetupError = none) :
    srv'.Registered := by
  obtain ⟨version, hsessions⟩ := hopened.sessions hok
  have hnot : connID ∉ srv.s2 := by
    rw [h.mem_iff, IsOpen, lookup_eq_none.mpr hnew]
    simp
  have hs2 := hopened.s2
  rw [if_neg hnot] at hs2
  intro id
  rw [hs2, hsessions]
  by_cases hid : id = connID
  · subst hid
    rw [lookup_insert, lookup_insert]
    rfl
  · rw [lookup_insert_ne hid, lookup_insert_ne hid]
    exact h id

theorem Registered.refresh (hopen : srv.IsOpen id) (value : StateMulti) :
    (srv.refresh id value).Registered := by
  obtain ⟨session, hsession⟩ := isOpen_iff.mp hopen
  intro id'
  rw [Server.refresh]
  rw [if_pos ((h.mem_iff id).mpr hopen), hsession]
  by_cases hid : id' = id
  · subst hid
    rw [lookup_insert, lookup_insert]
    rfl
  · rw [lookup_insert_ne hid, lookup_insert_ne hid]
    exact h id'

theorem Registered.removeConnection (id : Nat) : (srv.removeConnection id).Registered := by
  intro id'
  rw [Server.removeConnection]
  by_cases hid : id' = id
  · subst hid
    rw [lookup_erase, lookup_insert]
    rfl
  · rw [lookup_erase_ne hid, lookup_insert_ne hid]
    exact h id'

theorem Registered.deleteClosedSession (hclosed : srv.sessions.lookup id = some none) :
    (srv.deleteClosedSession id).Registered := by
  intro id'
  rw [Server.deleteClosedSession]
  by_cases hid : id' = id
  · subst hid
    rw [lookup_erase, h id', hclosed]
    rfl
  · rw [lookup_erase_ne hid]
    exact h id'

end

/-- A packet without the end of a stream does not touch the registry. -/
theorem sentFrames_eq {frames : List (Frame StreamFrame)}
    (h : ∀ frame ∈ frames, frame.hasFin = false) : srv.sentFrames id frames = srv := by
  rw [sentFrames]
  induction frames with
  | nil => rfl
  | cons frame frames ih =>
    rw [foldl_cons, h frame mem_cons_self]
    exact ih fun frame' hframe' => h frame' (mem_cons_of_mem _ hframe')

/-- No stream ends, and a session that is opened can be set up. -/
def Undisturbed (srv : Server) : ServerOp → Prop
  | .handlePacket env _ packet => srv.opens packet ≠ none → env.cryptoSetupError = none
  | .performPacketSending _ frames => ∀ frame ∈ frames, frame.hasFin = false
  | _ => True

theorem Registered.step (h : srv.Registered) {op : ServerOp} (hop : srv.Undisturbed op)
    (hstep : srv.Step op srv') : srv'.Registered := by
  cases op with
  | handlePacket env remoteAddr packet =>
    obtain ⟨use, hstep⟩ := hstep
    rcases handlePacket_cases hstep with rfl | ⟨hopens, connID, hnew, hopened⟩
    · exact h
    · exact h.opened hnew hopened (hop hopens)
  | selectPath id value =>
    obtain ⟨hopen, rfl⟩ := hstep
    exact h.refresh hopen value
  | performPacketSending id frames =>
    obtain ⟨-, rfl⟩ := hstep
    rwa [sentFrames_eq hop]
  | removeConnection id =>
    obtain ⟨-, rfl⟩ := hstep
    exact h.removeConnection id
  | deleteClosedSession id =>
    obtain ⟨hclosed, rfl⟩ := hstep
    exact h.deleteClosedSession hclosed

/-- **The registry is accurate** as long as no stream ends and every session can be set up. -/
theorem registry_accurate (h : machine.Reach Undisturbed srv) : srv.Accurate := by
  refine Registered.accurate (h.invariant (P := Registered) ?_ ?_)
  · rintro srv ⟨-, hsessions, hs2⟩ id
    rw [hsessions, hs2]
    rfl
  · exact fun srv op srv' hreg hop hstep => hreg.step hop hstep

/-! The session of the first packet. -/

/-- A client with an IPv4 address. -/
def ipv4Client : RemoteAddr where
  ip := [10, 0, 0, 2]
  port := 4433

/-- The server with the session. -/
def withSession : Server where
  versions := supportedVersions
  schedulerName := .sacmulti
  sessions := (∅ : GoMap (Option ServerSession)).insert 7 (some { version := 39 })
  modelID := 2
  s2 := (∅ : GoMap (Option StateMulti)).insert 7 none

theorem reach_withSession {C : Server → ServerOp → Prop}
    (hC : C (fresh .sacmulti) (.handlePacket {} ipv4Client firstPacket)) :
    machine.Reach C withSession :=
  .step (.init ⟨Or.inr rfl, rfl, rfl⟩) hC ⟨_, rfl⟩

/-- A session that has measured its paths is in the registry with what it has measured. -/
theorem measured_session_registered :
    ∃ srv, machine.Reach Undisturbed srv ∧ srv.Accurate ∧ srv.IsOpen 7 ∧
      srv.states = [some ⟨10, 20, 1000, 2000, 500, 0⟩] := by
  have h₁ : machine.Reach Undisturbed withSession := reach_withSession fun _ => rfl
  have h₂ : machine.Reach Undisturbed (withSession.refresh 7 ⟨10, 20, 1000, 2000, 500, 0⟩) :=
    .step (l := .selectPath 7 ⟨10, 20, 1000, 2000, 500, 0⟩) h₁ trivial ⟨rfl, rfl⟩
  exact ⟨_, h₂, registry_accurate h₂, rfl, rfl⟩

/-- The session sends the last frame of a stream and is not in the registry any more. -/
theorem session_unregistered_by_fin :
    ∃ srv, machine.Reach Machine.Always srv ∧ srv.IsOpen 7 ∧ 7 ∉ srv.s2 ∧ ¬ srv.Accurate := by
  have h₁ : machine.Reach Machine.Always withSession := reach_withSession trivial
  have h₂ : machine.Reach Machine.Always
      (withSession.sentFrames 7 [.stream ⟨5, true, true, 0, [1, 2, 3]⟩]) :=
    .step (l := .performPacketSending 7 [.stream ⟨5, true, true, 0, [1, 2, 3]⟩]) h₁ trivial
      ⟨rfl, rfl⟩
  have hnot : 7 ∉ (withSession.sentFrames 7 [.stream ⟨5, true, true, 0, [1, 2, 3]⟩]).s2 := by
    decide
  exact ⟨_, h₂, rfl, hnot, fun h => hnot ((h.registered 7).mpr rfl)⟩

end Server
end MpQuic
