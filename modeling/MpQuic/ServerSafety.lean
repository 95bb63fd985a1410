import MpQuic.Lib.Outcome
import MpQuic.Server

/-!
# Datagrams that the server survives

No parser panics, whatever a datagram holds, and the answers to resets and to
unsupported versions do not either.  A packet that opens a session reaches the
code that takes the number of its model out of the text of the remote address, and
that code takes for granted that the expression matches.
-/
namespace MpQuic
open Systems List Option

/-! ## Parsers -/

namespace Parser

theorem Quiet.optional {α : Type} {p : Parser α} (h : Quiet p) (present : Bool) (default : α) :
    Quiet (optional present default p) := by
  rw [Parser.optional]
  split
  · exact h
  · exact quiet_pure default

theorem quiet_parseConnectionID : Quiet PublicHeader.parseConnectionID := by
  refine (quiet_readUintN _ _).andThen fun connectionID => ?_
  split
  · exact quiet_throw rfl
  · exact quiet_pure _

theorem quiet_parsePacketNumber (header : PublicHeader) (packetSentBy : Perspective)
    (version : Int) : Quiet (header.parsePacketNumber packetSentBy version) := by
  have hbyte : Quiet (UInt8.toNat <$> readByte) := quiet_readByte.andThen fun b => quiet_pure _
  refine (hbyte.optional _ _).andThen fun pathID => ?_
  exact ((quiet_readUintN _ _).optional _ _).andThen fun packetNumber => quiet_pure _

theorem quiet_parseVersions (header : PublicHeader) : Quiet header.parseVersions := by
  refine ⟨fun bs => ?_⟩
  rw [PublicHeader.parseVersions]
  split
  · exact (failsOnly_error _).mpr rfl
  · exact failsOnly_ok _

/-- No bytes make `ParsePublicHeader` panic. -/
theorem quiet_parsePublicHeader (packetSentBy : Perspective) (version : Int) :
    Quiet (parsePublicHeader packetSentBy version) := by
  refine quiet_readByte.andThen fun publicFlagByte => ?_
  dsimp only
  split
  · exact quiet_throw rfl
  split
  · exact quiet_throw rfl
  refine (quiet_parseConnectionID.optional _ _).andThen fun connectionID => ?_
  refine ((quiet_readFull 32).optional _ _).andThen fun nonce => ?_
  split
  · split
    · exact quiet_parseVersions _
    · exact (quiet_readUintN _ _).andThen fun tag => quiet_parsePacketNumber ..
  · exact quiet_parsePacketNumber ..

end Parser

theorem resetValue_notPanic (data : TagMap) (tag : Nat) {missing invalid : HandshakeError}
    (hmissing : missing.NotPanic) (hinvalid : invalid.NotPanic) :
    FailsOnly HandshakeError.NotPanic (resetValue data tag missing invalid) := by
  rw [resetValue]
  split
  · exact (failsOnly_error _).mpr hmissing
  split
  · exact (failsOnly_error _).mpr hinvalid
  · exact failsOnly_ok _

/-- No bytes make `ParsePublicReset` panic. -/
theorem parsePublicReset_notPanic (bs : List Byte) :
    FailsOnly HandshakeError.NotPanic (parsePublicReset bs) := by
  refine (HandshakeMessage.parse_notPanic bs).bind fun msg _ => ?_
  dsimp only
  split
  · exact (failsOnly_throw _).mpr trivial
  refine (resetValue_notPanic _ _ (by trivial) (by trivial)).bind fun rejectedPacketNumber _ => ?_
  exact (resetValue_notPanic _ _ (by trivial) (by trivial)).bind fun nonce _ => failsOnly_ok _

theorem peekConnectionID_quiet (packet : List Byte) :
    FailsOnly (·.isPanic = false) (peekConnectionID packet) := by
  cases packet with
  | nil => exact (failsOnly_error _).mpr rfl
  | cons publicFlagByte rest =>
    rw [peekConnectionID]
    split
    · exact (failsOnly_error _).mpr rfl
    · exact (failsOnly_map ..).mpr ((Parser.quiet_readUintN _ _).fails _)

/-! ## New sessions -/

/-- The server can open a session for a client at this address: it finds the number of the model
in the text of the address, and has what the setup of a session needs. -/
structure CanServe (env : ServerEnv) (name : SchedulerName) (version : Int)
    (remoteAddr : RemoteAddr) : Prop where
  model : (findModelID remoteAddr.string).isSome
  file : ∀ file ∈ name.configFile, env.canOpen file = true
  address : env.resolves remoteAddr.string = true
  keys : version = versionTLS → env.keysCanSign = true

/-- A session is made exactly if no file, address or key that it needs is missing. -/
theorem newSession_returns_iff (env : ServerEnv) (name : SchedulerName) (version : Int)
    (remoteAddr : RemoteAddr) :
    (∃ r, newSession env name version remoteAddr = .ok r) ↔
      (∀ file ∈ name.configFile, env.canOpen file = true) ∧
        env.resolves remoteAddr.string = true ∧
        (version = versionTLS → env.keysCanSign = true) := by
  rw [newSession]
  cases hfile : name.configFile.filter fun file => !env.canOpen file with
  | some file =>
    obtain ⟨hmem, hopen⟩ := filter_eq_some_iff.mp hfile
    refine ⟨by rintro ⟨r, ⟨⟩⟩, fun h => ?_⟩
    rw [h.1 file hmem] at hopen
    cases hopen
  | none =>
    have hcan : ∀ file ∈ name.configFile, env.canOpen file = true := by
      intro file hmem
      have := filter_eq_none_iff.mp hfile file hmem
      simpa using this
    dsimp only
    split_ifs with haddr hkeys
    · refine ⟨by rintro ⟨r, ⟨⟩⟩, fun h => ?_⟩
      rw [h.2.1] at haddr
      cases haddr
    · refine ⟨by rintro ⟨r, ⟨⟩⟩, fun h => ?_⟩
      rw [h.2.2 hkeys.1] at hkeys
      cases hkeys.2
    · refine ⟨fun _ => ⟨hcan, by simpa using haddr, fun hv => ?_⟩, fun _ => ?_⟩
      · by_contra hsign
        exact hkeys ⟨hv, by simpa using hsign⟩
      · split <;> exact ⟨_, rfl⟩

namespace Server
variable (srv : Server) (env : ServerEnv) (remoteAddr : RemoteAddr)

theorem openSession_returns_iff (connID : Nat) (hdr : PublicHeader) (data : List Byte) :
    (∃ r, srv.openSession env remoteAddr connID hdr data = .ok r) ↔
      (isSupportedVersion srv.versions hdr.versionNumber = true →
        CanServe env srv.schedulerName hdr.versionNumber remoteAddr) := by
  rw [openSession]
  dsimp only
  by_cases hsupported : isSupportedVersion srv.versions hdr.versionNumber = true
  · rw [if_neg (by simp [hsupported])]
    have hsession := newSession_returns_iff env srv.schedulerName hdr.versionNumber remoteAddr
    cases hmodel : findModelID remoteAddr.string with
    | none =>
      refine ⟨fun ⟨r, hr⟩ => (by cases hr), fun h => ?_⟩
      have := (h hsupported).model
      rw [hmodel] at this
      cases this
    | some digits =>
      dsimp only
      constructor
      · rintro ⟨r, hr⟩ -
        obtain ⟨hfile, haddr, hkeys⟩ := hsession.mp <| by
          cases hnew : newSession env srv.schedulerName hdr.versionNumber remoteAddr with
          | error p => rw [hnew] at hr; cases hr
          | ok session => exact ⟨session, rfl⟩
        exact ⟨by rw [hmodel]; rfl, hfile, haddr, hkeys⟩
      · intro h
        obtain ⟨-, hfile, haddr, hkeys⟩ := h hsupported
        obtain ⟨session, hnew⟩ := hsession.mpr ⟨hfile, haddr, hkeys⟩
        rw [hnew]
        cases session with
        | error err => exact ⟨_, rfl⟩
        | ok session => exact ⟨_, rfl⟩
  · rw [if_pos (by simpa using hsupported)]
    exact ⟨fun _ h => absurd h hsupported, fun _ => ⟨_, rfl⟩⟩

/-! ## Datagrams -/

/-- The version of the session a packet opens: its connection ID is not in the table, it is no
public reset, and it offers a version the server supports. -/
def opens (packet : List Byte) : Option Int :=
  match peekConnectionID packet with
  | .error _ => none
  | .ok connID =>
    if connID ∈ srv.sessions then none
    else
      match parsePublicHeader .client versionUnknown packet with
      | .error _ => none
      | .ok (hdr, _) =>
        if hdr.resetFlag = false ∧ isSupportedVersion srv.versions hdr.versionNumber = true then
          some hdr.versionNumber
        else none

/-- A packet for a session in the table, or for none. -/
theorem handleParsed_returns_iff (packet : List Byte) (connID : Nat) (known : Bool)
    (hdr : PublicHeader) (data : List Byte) :
    (∃ r, srv.handleParsed env remoteAddr packet connID known hdr data = .ok r) ↔
      (known = false → hdr.resetFlag = false →
        isSupportedVersion srv.versions hdr.versionNumber = true →
        CanServe env srv.schedulerName hdr.versionNumber remoteAddr) := by
  have hopen := srv.openSession_returns_iff env remoteAddr connID hdr data
  have hreset := (parsePublicReset_notPanic data).error
  rw [handleParsed]
  split_ifs with hflag hknown hold hversion hsmall hnew
  · refine ⟨fun _ hunknown => (by simp [hknown] at hunknown), fun _ => ?_⟩
    split
    · next p heq => exact (hreset _ heq).elim
    · exact ⟨_, rfl⟩
  · exact ⟨fun _ _ h => (by simp [hflag] at h), fun _ => ⟨_, rfl⟩⟩
  · refine ⟨fun _ hunknown => ?_, fun _ => ⟨_, rfl⟩⟩
    simp [hunknown] at hold
  · exact ⟨fun _ _ _ h => (by simp [h] at hversion), fun _ => ⟨_, rfl⟩⟩
  · exact ⟨fun _ _ _ h => (by simp [h] at hversion), fun _ => ⟨_, rfl⟩⟩
  · have hunknown : known = false := by simpa using hnew
    have hnoreset : hdr.resetFlag = false := by simpa using hflag
    exact hopen.trans ⟨fun h _ _ => h, fun h => h hunknown hnoreset⟩
  · exact ⟨fun _ hunknown => (by simp [hunknown] at hnew), fun _ => ⟨_, rfl⟩⟩

theorem handleHeader_returns_iff (packet : List Byte) (connID : Nat) (known : Bool)
    (version : Int) :
    (∃ r, srv.handleHeader env remoteAddr packet connID known
        (parsePublicHeader .client version packet) = .ok r) ↔
      ∀ hdr data, parsePublicHeader .client version packet = .ok (hdr, data) → known = false →
        hdr.resetFlag = false → isSupportedVersion srv.versions hdr.versionNumber = true →
        CanServe env srv.schedulerName hdr.versionNumber remoteAddr := by
  have hquiet := ((Parser.quiet_parsePublicHeader .client version).fails packet).error
  cases hparsed : parsePublicHeader .client version packet with
  | error e =>
    refine ⟨fun _ hdr data h => (by cases h), fun _ => ?_⟩
    have hnopanic := hquiet e hparsed
    cases e
    case panic p => cases hnopanic
    all_goals exact ⟨_, rfl⟩
  | ok parsed =>
    obtain ⟨hdr, data⟩ := parsed
    refine (srv.handleParsed_returns_iff env remoteAddr packet connID known hdr data).trans ⟨?_, ?_⟩
    · rintro h _ _ ⟨⟩
      exact h
    · exact fun h => h hdr data rfl

/-- **The server survives a datagram** exactly if it does not open a session, or the server can
open one for the address it comes from. -/
theorem handlePacket_returns_iff (packet : List Byte) :
    (∃ r, srv.handlePacket env remoteAddr packet = .ok r) ↔
      ∀ version ∈ srv.opens packet, CanServe env srv.schedulerName version remoteAddr := by
  have hpeek := (peekConnectionID_quiet packet).error
  rw [handlePacket, opens]
  cases hid : peekConnectionID packet with
  | error e =>
    refine ⟨fun _ _ h => (by cases h), fun _ => ?_⟩
    have hnopanic := hpeek e hid
    cases e
    case panic p => cases hnopanic
    all_goals exact ⟨_, rfl⟩
  | ok connID =>
    dsimp only
    by_cases hmem : connID ∈ srv.sessions
    · -- a packet for a session in the table opens none
      have hsome : (srv.sessions.lookup connID).isSome = true := AList.lookup_isSome.mpr hmem
      rw [if_pos hmem]
      refine ⟨fun _ _ h => (by cases h), fun _ => ?_⟩
      split
      · exact ⟨_, rfl⟩
      · refine (srv.handleHeader_returns_iff ..).mpr fun _ _ _ hunknown => ?_
        rw [hsome] at hunknown
        cases hunknown
    · rw [AList.lookup_eq_none.mpr hmem, if_neg hmem, if_neg (by simp)]
      refine (srv.handleHeader_returns_iff env remoteAddr packet connID _ _).trans ?_
      change (∀ hdr data, parsePublicHeader .client versionUnknown packet = _ → _) ↔ _
      cases hparsed : parsePublicHeader .client versionUnknown packet with
      | error e => exact ⟨fun _ _ h => (by cases h), fun _ _ _ h => (by cases h)⟩
      | ok parsed =>
        obtain ⟨hdr, data⟩ := parsed
        dsimp only
        constructor
        · intro h version hversion
          split_ifs at hversion with hopens
          · obtain rfl := some.inj hversion
            exact h hdr data rfl rfl hopens.1 hopens.2
          · cases hversion
        · rintro h _ _ ⟨⟩ - hreset hsupported
          exact h _ (by rw [if_pos ⟨hreset, hsupported⟩]; rfl)

/-! A server without sessions, and the first packet of a client. -/

/-- The server. -/
def fresh (name : SchedulerName) : Server where
  versions := supportedVersions
  schedulerName := name

/-- A packet with the connection ID 7 that offers version 39. -/
def firstPacket : List Byte :=
  [0x09, 7, 0, 0, 0, 0, 0, 0, 0, 0x51, 0x30, 0x33, 0x39, 1, 0, 0, 0]

/-- The loopback address of IPv6. -/
def loopback : RemoteAddr where
  ip := [0, 0, 0, 0, 0, 0, 0, 0, 0, 0, 0, 0, 0, 0, 0, 1]
  port := 443

/-- A client with an IPv6 address takes the server down with its first packet. -/
theorem ipv6_client_panics :
    (fresh .rtt).handlePacket {} loopback firstPacket = .error .indexOutOfRange := rfl

end Server
end MpQuic
