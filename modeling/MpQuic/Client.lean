import MpQuic.Lib.Machine
import MpQuic.ParsePublicHeader

/-!
# The client (`client.go`)

The client offers the first version of its configuration.  A version negotiation
packet that does not list that version makes it pick another one and start over in
a new session, which is given the list of the packet to compare it with what the
server says in its SHLO.  Negotiation packets are not authenticated.
-/
namespace MpQuic
open Systems

/-- `client`: its configuration, and of its session the address of the server and the versions
passed to `newClientSession`. -/
structure Client where
  versions : List Int
  requestConnectionIDTruncation : Bool
  remoteAddr : UDPAddr
  connectionID : Nat
  version : Int
  versionNegotiated : Bool := false
  receivedVersionNegotiationPacket : Bool := false
  negotiatedVersions : List Int := []
  deriving DecidableEq

/-- What `handlePacket` does with a packet. -/
inductive PacketUse
  | drop
  /-- `session.closeRemote` for a public reset. -/
  | closeRemote (rejectedPacketNumber : Nat)
  /-- `session.Close` with `qerr.InvalidVersion`. -/
  | invalidVersion
  /-- `session.Close` with the error of the random number generator. -/
  | noConnectionID
  /-- A new session was created. -/
  | switchVersion
  /-- `session.handlePacket`. -/
  | handle (hdr : PublicHeader) (data : List Byte)
  deriving DecidableEq

namespace Client

/-- The versions of `populateClientConfig`. -/
def populateVersions (versions : List Int) : List Int :=
  if versions.length = 0 then supportedVersions else versions

/-- The client of `DialNonFWSecure`. -/
def new (versions : List Int) (requestConnectionIDTruncation : Bool) (remoteAddr : UDPAddr)
    (connectionID : Nat) : Client where
  versions := populateVersions versions
  requestConnectionIDTruncation
  remoteAddr
  connectionID
  version := (populateVersions versions).headD 0

/-- `handlePacketWithVersionFlag`.  `connID` is what `GenerateConnectionID` returns. -/
def handlePacketWithVersionFlag (c : Client) (hdr : PublicHeader) (remoteAddr : UDPAddr)
    (connID : Option Nat) : Client × PacketUse :=
  if hdr.supportedVersions.contains c.version then (c, .drop)
  else
    let c := { c with receivedVersionNegotiationPacket := true }
    let newVersion := chooseSupportedVersion c.versions hdr.supportedVersions
    if newVersion = versionUnsupported then (c, .invalidVersion)
    else
      let c := { c with version := newVersion }
      match connID with
      | none => ({ c with connectionID := 0 }, .noConnectionID)
      | some connectionID =>
        ({ c with connectionID, remoteAddr, negotiatedVersions := hdr.supportedVersions },
          .switchVersion)

/-- `handlePacket` after the header was parsed and its connection ID checked. -/
def handleParsed (c : Client) (remoteAddr : UDPAddr) (connID : Option Nat) (hdr : PublicHeader)
    (data : List Byte) : Client × PacketUse :=
  if hdr.resetFlag then
    -- a public reset from elsewhere is taken to be spoofed
    if c.remoteAddr ≠ remoteAddr ∨ hdr.connectionID ≠ c.connectionID then (c, .drop)
    else
      match parsePublicReset data with
      | .error _ => (c, .drop)
      | .ok pr => (c, .closeRemote pr.rejectedPacketNumber)
  else if (c.receivedVersionNegotiationPacket || c.versionNegotiated) && hdr.versionFlag then
    (c, .drop)
  else if hdr.versionFlag then c.handlePacketWithVersionFlag hdr remoteAddr connID
  else ({ c with versionNegotiated := true }, .handle hdr data)

/-- `handlePacket`. -/
def handlePacket (c : Client) (remoteAddr : UDPAddr) (connID : Option Nat) (packet : List Byte) :
    Client × PacketUse :=
  match parsePublicHeader .server c.version packet with
  | .error _ => (c, .drop)
  | .ok (hdr, data) =>
    if hdr.truncateConnectionID && !c.requestConnectionIDTruncation then (c, .drop)
    else if !hdr.truncateConnectionID && hdr.connectionID != c.connectionID then (c, .drop)
    else c.handleParsed remoteAddr connID hdr data

/-- A datagram, with the connection ID that is generated if it leads to a new version. -/
structure Datagram where
  remoteAddr : UDPAddr
  connID : Option Nat
  packet : List Byte

/-- The client and any datagrams sent to it. -/
def listen : Machine Client Datagram where
  init c := ∃ versions truncation remoteAddr connectionID,
    c = new versions truncation remoteAddr connectionID
  step c d c' := c' = (c.handlePacket d.remoteAddr d.connID d.packet).1

/-! ## What a packet does -/

/-- A packet that makes the client start over was the first negotiation packet, and did not list
the version that the client offered. -/
structure Switches (c : Client) (packet : List Byte) (c' : Client) (hdr : PublicHeader) : Prop where
  parsed : ∃ data, parsePublicHeader .server c.version packet = .ok (hdr, data)
  first : c.receivedVersionNegotiationPacket = false
  versionFlag : hdr.versionFlag = true
  resetFlag : hdr.resetFlag = false
  notOffered : c.version ∉ hdr.supportedVersions
  chosen : c'.version = chooseSupportedVersion c.versions hdr.supportedVersions
  supported : c'.version ≠ versionUnsupported
  negotiated : c'.negotiatedVersions = hdr.supportedVersions

/-- The client only starts over for the first version negotiation packet. -/
theorem handlePacket_switches {c c' : Client} {remoteAddr : UDPAddr} {connID : Option Nat}
    {packet : List Byte} (h : c.handlePacket remoteAddr connID packet = (c', .switchVersion)) :
    ∃ hdr, c.Switches packet c' hdr := by
  rw [handlePacket] at h
  split at h
  · cases h
  · next hdr data hparse =>
    split_ifs at h
    all_goals try cases h
    rw [handleParsed] at h
    split_ifs at h with hreset hspoofed hdelayed hversion
    · cases h
    · split at h <;> cases h
    · cases h
    · rw [handlePacketWithVersionFlag] at h
      split_ifs at h with hoffered
      · cases h
      dsimp only at h
      split_ifs at h with hunsupported
      · cases h
      split at h
      · cases h
      · cases h
        refine ⟨hdr, ⟨data, hparse⟩, ?_, hversion, by simpa using hreset, by simpa using hoffered,
          rfl, hunsupported, rfl⟩
        simp only [hversion, Bool.and_true, Bool.or_eq_true, not_or] at hdelayed
        simpa using hdelayed.1
    · cases h

/-- The client offers its first choice as long as it has not seen a negotiation packet. -/
def FirstChoice (c : Client) : Prop :=
  c.receivedVersionNegotiationPacket = false → c.versions.head? = some c.version

theorem populateVersions_ne_nil (versions : List Int) : populateVersions versions ≠ [] := by
  rw [populateVersions]
  split_ifs with h
  · decide
  · exact fun hnil => h (congrArg List.length hnil)

theorem firstChoice_new (versions : List Int) (truncation : Bool) (remoteAddr : UDPAddr)
    (connectionID : Nat) : (new versions truncation remoteAddr connectionID).FirstChoice := by
  intro _
  cases h : populateVersions versions with
  | nil => exact absurd h (populateVersions_ne_nil versions)
  | cons v vs => simp only [new, h, List.head?_cons, List.headD_cons]

theorem FirstChoice.handlePacketWithVersionFlag {c : Client} (h : c.FirstChoice)
    (hdr : PublicHeader) (remoteAddr : UDPAddr) (connID : Option Nat) :
    (c.handlePacketWithVersionFlag hdr remoteAddr connID).1.FirstChoice := by
  rw [Client.handlePacketWithVersionFlag]
  split_ifs
  · exact h
  · dsimp only
    split_ifs
    · exact nofun
    · cases connID <;> exact nofun

theorem FirstChoice.handlePacket {c : Client} (h : c.FirstChoice) (remoteAddr : UDPAddr)
    (connID : Option Nat) (packet : List Byte) :
    (c.handlePacket remoteAddr connID packet).1.FirstChoice := by
  rw [Client.handlePacket]
  split
  · exact h
  · split_ifs
    · exact h
    · exact h
    · rw [handleParsed]
      split_ifs
      · exact h
      · split <;> exact h
      · exact h
      · exact h.handlePacketWithVersionFlag _ remoteAddr connID
      · exact h

/-- In every run the client offers its first choice until it sees a negotiation packet. -/
theorem firstChoice_of_reach {c : Client} (h : listen.Reach Machine.Always c) : c.FirstChoice := by
  refine h.invariant ?_ ?_
  · rintro c ⟨versions, truncation, remoteAddr, connectionID, rfl⟩
    exact firstChoice_new versions truncation remoteAddr connectionID
  · rintro c d c' hc - rfl
    exact hc.handlePacket d.remoteAddr d.connID d.packet

end Client
end MpQuic
