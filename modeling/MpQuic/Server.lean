import MpQuic.ParsePublicHeader
import MpQuic.SelectPath

/-!
# The server (`server.go`)

The server gives each datagram to the session its connection ID belongs to, and
opens a new session for the first packet of a client that offers a supported
version.  The sessions of all clients share two variables of the process: the number
the model of a new session gets, which the server takes out of the text of the
remote address, and the registry `multiclients.S2` of the sessions.
-/
namespace MpQuic

/-! ## The text of an address -/

/-- `net.UDPAddr`, with the zone of an IPv6 address. -/
structure RemoteAddr extends UDPAddr where
  zone : List Char := []
  deriving DecidableEq, Repr

namespace RemoteAddr

/-- The numbers of a list in decimal, with dots between them. -/
def dotted (ns : List Nat) : List Char :=
  ['.'].intercalate (ns.map (Nat.toDigits 10))

/-- The groups of 16 bits of an IPv6 address. -/
def groups : List Byte → List Nat
  | a :: b :: rest => (a.toNat * 256 + b.toNat) :: groups rest
  | _ => []

/-- The first of the longest runs of zeros in the groups from `i` on, as its start and length. -/
def longestZeros (i : Nat) (best : Nat × Nat) : List Nat → Nat × Nat
  | [] => best
  | g :: gs =>
    let run := ((g :: gs).takeWhile (· == 0)).length
    longestZeros (i + 1) (if best.2 < run then (i, run) else best) gs

/-- Groups in hexadecimal, with colons between them. -/
def colons (gs : List Nat) : List Char :=
  [':'].intercalate (gs.map (Nat.toDigits 16))

/-- `net.IP.String` for an IPv6 address: the longest run of at least two zeros is left out. -/
def hexString (gs : List Nat) : List Char :=
  let (start, run) := longestZeros 0 (0, 0) gs
  if run < 2 then colons gs
  else colons (gs.take start) ++ [':', ':'] ++ colons (gs.drop (start + run))

/-- `net.IP.String`; nothing for a nil address. -/
def ipString (a : UDPAddr) : List Char :=
  match a.to4 with
  | some ip => dotted (ip.map UInt8.toNat)
  | none =>
    if a.ip.length = 0 then []
    else if a.ip.length = 16 then hexString (groups a.ip)
    else '?' :: a.ip.flatMap fun b => [Nat.digitChar (b.toNat / 16), Nat.digitChar (b.toNat % 16)]

/-- `net.UDPAddr.String`. -/
def string (a : RemoteAddr) : List Char :=
  let host := ipString a.toUDPAddr ++ if a.zone = [] then [] else '%' :: a.zone
  let port := Nat.toDigits 10 a.port
  if ':' ∈ host then ['['] ++ host ++ [']', ':'] ++ port else host ++ [':'] ++ port

end RemoteAddr

/-- `FindStringSubmatch` of the expression `\.(\d+):`: the digits of the first match. -/
def findModelID : List Char → Option (List Char)
  | [] => none
  | c :: cs =>
    let digits := cs.takeWhile Char.isDigit
    if c = '.' ∧ digits ≠ [] ∧ (cs.drop digits.length).head? = some ':' then some digits
    else findModelID cs

/-- `strconv.ParseUint` of decimal digits into 64 bits, whose error is ignored. -/
def parseUint (digits : List Char) : Nat :=
  min (digits.foldl (fun n c => 10 * n + (c.toNat - '0'.toNat)) 0) (2 ^ 64 - 1)

/-! ## New sessions -/

/-- The ways in which `handlePacket` would panic. -/
inductive ServerPanic
  /-- In a parser. -/
  | parsing (p : Panic)
  | parsingMessage (p : HandshakePanic)
  /-- `match[1]` of a nil slice. -/
  | indexOutOfRange
  /-- `scheduler.setup` cannot open its file. -/
  | configFile (name : String)
  /-- `pathManager.setup` uses the nil address `net.ResolveUDPAddr` returns with an error. -/
  | nilRemoteAddr
  /-- A private key that is not a `crypto.Signer`. -/
  | privateKey
  deriving DecidableEq, Repr

/-- The errors `handlePacket` returns. -/
inductive ServerError
  | invalidPacketHeader (err : Err)
  | smallPacketWithUnknownVersion
  /-- "Server BUG: negotiated version not supported" -/
  | negotiatedVersionNotSupported
  | newSession (err : String)
  | write (err : String)
  deriving DecidableEq, Repr

/-- What `handlePacket` finds outside of the server. -/
structure ServerEnv where
  /-- `os.Open` of a file succeeds. -/
  canOpen : String → Bool := fun _ => true
  /-- `net.ResolveUDPAddr` understands an address. -/
  resolves : List Char → Bool := fun _ => true
  /-- The private keys of the TLS configuration can sign. -/
  keysCanSign : Bool := true
  /-- The error of `NewCookieGenerator` or of the TLS configuration. -/
  cryptoSetupError : Option String := none
  /-- The error of `pconn.WriteTo`. -/
  writeError : Option String := none

/-- A session of the server: its version, and what it last measured for `multiclients.S2`. -/
structure ServerSession where
  version : Int
  measured : Option StateMulti := none
  deriving DecidableEq, Repr

/-- `protocol.VersionTLS`. -/
def versionTLS : Int := 101

/-- The file `scheduler.setup` reads. -/
def SchedulerName.configFile : SchedulerName → Option String
  | .peek | .lowband => some "./config/peek"
  | .qsat | .fuzzyqsat | .multiclients => some "./config/qsat"
  | _ => none

/-- `newSession`, as far as the server is concerned. -/
def newSession (env : ServerEnv) (name : SchedulerName) (version : Int) (remoteAddr : RemoteAddr) :
    Except ServerPanic (Except String ServerSession) :=
  match name.configFile.filter fun file => !env.canOpen file with
  | some file => .error (.configFile file)
  | none =>
    if !env.resolves remoteAddr.string then .error .nilRemoteAddr
    else if version = versionTLS ∧ env.keysCanSign = false then .error .privateKey
    else
      match env.cryptoSetupError with
      | some err => .ok (.error err)
      | none => .ok (.ok { version })

/-! ## Packets -/

/-- `PeekConnectionID` of a packet of the client. -/
def peekConnectionID (packet : List Byte) : Except Err Nat :=
  match packet with
  | [] => .error .eof
  | publicFlagByte :: rest =>
    if publicFlagByte &&& 0x08 = 0 then .error .receivedTruncatedConnectionID
    else Prod.fst <$> Parser.readUintN .littleEndian 8 rest

/-- `WritePublicReset`. -/
def writePublicReset (connectionID rejectedPacketNumber nonceProof : Nat) : List Byte :=
  let o := ByteOrder.littleEndian
  0x0a :: (o.writeUintN 8 connectionID ++ o.writeUintN 4 tagPRST ++ o.writeUintN 4 2 ++
    o.writeUintN 4 tagRNON ++ o.writeUintN 4 8 ++ o.writeUintN 4 tagRSEQ ++ o.writeUintN 4 16 ++
    o.writeUintN 8 nonceProof ++ o.writeUintN 8 rejectedPacketNumber)

/-- `server`, with the variables of the process its sessions share.  A session that is closed but
not deleted yet is nil. -/
structure Server where
  versions : List Int
  schedulerName : SchedulerName
  sessions : GoMap (Option ServerSession) := ∅
  /-- `TMP_ModelID` -/
  modelID : Nat := 0
  /-- `multiclients.S2`.  The server puts in a pointer, which is nothing here; the sessions
  replace it by what they measure. -/
  s2 : GoMap (Option StateMulti) := ∅

/-- What `handlePacket` does with a packet when it returns. -/
inductive ServerUse
  | failed (err : ServerError)
  | drop
  /-- A packet is sent back. -/
  | reply (packet : List Byte) (err : Option String)
  /-- `session.handlePacket`. -/
  | handle (connID : Nat) (hdr : PublicHeader) (data : List Byte)
  deriving DecidableEq

namespace Server

/-- The part of `handlePacket` that opens a session. -/
def openSession (srv : Server) (env : ServerEnv) (remoteAddr : RemoteAddr) (connID : Nat)
    (hdr : PublicHeader) (data : List Byte) : Except ServerPanic (Server × ServerUse) :=
  let version := hdr.versionNumber
  if !isSupportedVersion srv.versions version then
    .ok (srv, .failed .negotiatedVersionNotSupported)
  else
    match findModelID remoteAddr.string with
    | none => .error .indexOutOfRange
    | some digits =>
      let srv := { srv with
        modelID := parseUint digits
        s2 := if hdr.connectionID ∈ srv.s2 then srv.s2 else srv.s2.insert hdr.connectionID none }
      match newSession env srv.schedulerName version remoteAddr with
      | .error p => .error p
      | .ok (.error err) => .ok (srv, .failed (.newSession err))
      | .ok (.ok session) =>
        .ok ({ srv with sessions := srv.sessions.insert connID (some session) },
          .handle connID hdr data)

/-- `handlePacket` after the header was parsed; `known` is whether there is a session. -/
def handleParsed (srv : Server) (env : ServerEnv) (remoteAddr : RemoteAddr) (packet : List Byte)
    (connID : Nat) (known : Bool) (hdr : PublicHeader) (data : List Byte) :
    Except ServerPanic (Server × ServerUse) :=
  let supported := isSupportedVersion srv.versions hdr.versionNumber
  if hdr.resetFlag then
    if known then
      match parsePublicReset data with
      | .error (.panic p) => .error (.parsingMessage p)
      | _ => .ok (srv, .drop)
    else .ok (srv, .drop)
  else if known && hdr.versionFlag && !supported then .ok (srv, .drop)
  else if hdr.versionFlag && !supported then
    if packet.length < clientHelloMinimumSize + (packet.length - data.length) then
      .ok (srv, .failed .smallPacketWithUnknownVersion)
    else .ok (srv, .reply (composeVersionNegotiation hdr.connectionID srv.versions) env.writeError)
  else if !known then srv.openSession env remoteAddr connID hdr data
  else .ok (srv, .handle connID hdr data)

/-- `handlePacket` with what `ParsePublicHeader` has returned. -/
def handleHeader (srv : Server) (env : ServerEnv) (remoteAddr : RemoteAddr) (packet : List Byte)
    (connID : Nat) (known : Bool) :
    Except Err (PublicHeader × List Byte) → Except ServerPanic (Server × ServerUse)
  | .error (.panic p) => .error (.parsing p)
  | .error .packetWithUnknownVersion =>
    .ok (srv, .reply (writePublicReset connID 0 0) env.writeError)
  | .error e => .ok (srv, .failed (.invalidPacketHeader e))
  | .ok (hdr, data) => srv.handleParsed env remoteAddr packet connID known hdr data

/-- `handlePacket`. -/
def handlePacket (srv : Server) (env : ServerEnv) (remoteAddr : RemoteAddr) (packet : List Byte) :
    Except ServerPanic (Server × ServerUse) :=
  match peekConnectionID packet with
  | .error (.panic p) => .error (.parsing p)
  | .error e => .ok (srv, .failed (.invalidPacketHeader e))
  | .ok connID =>
    let session := srv.sessions.lookup connID
    if session = some none then .ok (srv, .drop)
    else
      let version := (session.join.map (·.version)).getD versionUnknown
      srv.handleHeader env remoteAddr packet connID session.isSome
        (parsePublicHeader .client version packet)

/-- `removeConnection`, after `session.run` has returned. -/
def removeConnection (srv : Server) (id : Nat) : Server :=
  { srv with sessions := srv.sessions.insert id none, s2 := srv.s2.erase id }

/-- What `removeConnection` does later. -/
def deleteClosedSession (srv : Server) (id : Nat) : Server :=
  { srv with sessions := srv.sessions.erase id }

end Server
end MpQuic
