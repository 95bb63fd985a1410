import MpQuic.ConnectionParametersManager
import MpQuic.HandshakeCrypto
import MpQuic.Version

/-!
# The client's handshake (`internal/handshake/crypto_setup_client.go`)

`HandleCryptoStream` is a loop: install the secure key if everything for it has
arrived, send a CHLO while there is none, and wait for a diversification nonce or a
message of the server.  `Open` is called by the session for the packets that arrive
meanwhile, and the loop goes on after the handshake is complete.

Random values, the clock and the files of the handshake cache are arguments.  Writing
the cache changes nothing in the handshake and is left out, and writing to the crypto
stream is taken to succeed.
-/
namespace MpQuic
open Systems

/-! ## The server config -/

/-- `serverConfigClient`; the expiry is in seconds. -/
structure ServerConfigClient where
  raw : List Byte
  id : List Byte
  obit : List Byte
  expiry : Nat
  kex : KeyExchange
  sharedSecret : List Byte

namespace ServerConfigClient

/-- The pieces of four bytes of a KEXS or AEAD value. -/
def quads : Nat → List Byte → List (List Byte)
  | 0, _ => []
  | n + 1, bs => bs.take 4 :: quads n (bs.drop 4)

/-- The loop over the PUBS value: public values, each after its length of three bytes. -/
def publicValues : Nat → List Byte → Except HandshakeError (List (List Byte))
  | 0, _ => .ok []
  | fuel + 1, pubs =>
    if pubs.length ≤ 3 then .ok []
    else
      let lastLen := ByteOrder.littleEndian.uintOf (pubs.take 3)
      if lastLen = 0 ∨ pubs.length < 3 + lastLen then .error (.cryptoInvalidValueLength tagPUBS)
      else do
        let rest ← publicValues fuel (pubs.drop (3 + lastLen))
        return (pubs.drop 3).take lastLen :: rest

/-- A parameter that has to be present. -/
def require (tagMap : TagMap) (tag : Nat) : Except HandshakeError (List Byte) :=
  match tagMap.lookup tag with
  | none => .error (.cryptoMessageParameterNotFound tag)
  | some value => .ok value

/-- A parameter of a fixed length. -/
def requireLength (tagMap : TagMap) (tag length : Nat) : Except HandshakeError (List Byte) := do
  let value ← require tagMap tag
  if value.length ≠ length then throw (.cryptoInvalidValueLength tag)
  return value

/-- The position of a name of four characters in a KEXS or AEAD value. -/
def requireName (tagMap : TagMap) (tag : Nat) (name : List Char) : Except HandshakeError Nat := do
  let value ← require tagMap tag
  if value.length % 4 ≠ 0 then throw (.cryptoInvalidValueLength tag)
  match (quads (value.length / 4) value).idxOf? (bytesOf name) with
  | none => throw (.cryptoNoSupport tag)
  | some i => return i

/-- `parseValues`, with the new key exchange it draws. -/
def parseValues (raw : List Byte) (kex : KeyExchange) (tagMap : TagMap) :
    Except HandshakeError ServerConfigClient := do
  let id ← requireLength tagMap tagSCID 16
  let c255Foundat ← requireName tagMap tagKEXS ['C', '2', '5', '5']
  let _ ← requireName tagMap tagAEAD ['A', 'E', 'S', 'G']
  let pubs ← require tagMap tagPUBS
  let pubsKexs ← publicValues pubs.length pubs
  match pubsKexs[c255Foundat]? with
  | none => throw (.cryptoMessageParameterNotFound tagKEXS)
  | some value =>
    if value.length ≠ 32 then throw (.cryptoInvalidValueLength tagPUBS)
    match kex.calculateSharedKey value with
    | none => throw .keyExchange
    | some sharedSecret =>
      let obit ← requireLength tagMap tagOBIT 8
      let expy ← requireLength tagMap tagEXPY 8
      return { raw, id, obit, kex, sharedSecret
               expiry := min (ByteOrder.littleEndian.uintOf expy) ((2 ^ 63 - 1) / 2) }

/-- `parseServerConfig`. -/
def parseServerConfig (kex : KeyExchange) (data : List Byte) :
    Except HandshakeError ServerConfigClient := do
  let (message, _) ← HandshakeMessage.parse data
  if message.tag ≠ tagSCFG then throw .messageNotServerConfig
  parseValues data kex message.data

/-- `IsExpired`. -/
def isExpired (s : ServerConfigClient) (now : Nat) : Bool := s.expiry * 10 ^ 9 < now

end ServerConfigClient

/-! ## The setup -/

/-- The certificates a `crypto.CertManager` can parse and what it accepts. -/
structure CertVerifier where
  parseChain : List Byte → Option (List (List Byte))
  verify : List (List Byte) → Bool
  verifyServerProof : List Byte → List Byte → List Byte → List Byte → Bool
  leafCertHash : List Byte → Nat
  commonCertificateHashes : List Byte

/-- `cryptoSetupClient`.  The `certManager` is its chain of certificates, `certs`. -/
structure CryptoSetupClient where
  hostname : List Byte
  connID : Nat
  version : Int
  negotiatedVersions : List Int
  requestConnectionIDTruncation : Bool
  certManager : CertVerifier
  keyDerivation : KeyMaterial → AEAD
  nullAEAD : AEAD
  connectionParameters : ConnectionParametersManager
  serverConfig : Option ServerConfigClient := none
  stk : List Byte := []
  sno : List Byte := []
  nonc : List Byte := []
  proof : List Byte := []
  chloForSignature : List Byte := []
  lastSentCHLO : List Byte := []
  certs : List (List Byte) := []
  diversificationNonce : List Byte := []
  clientHelloCounter : Nat := 0
  serverVerified : Bool := false
  receivedSecurePacket : Bool := false
  secureAEAD : Option AEAD := none
  forwardSecureAEAD : Option AEAD := none
  aeadChanged : AEADChanged := {}

namespace CryptoSetupClient

/-- What a call draws from outside: random values and the time. -/
structure Random where
  kex : KeyExchange
  nonce : List Byte
  now : Nat

/-- `Open`: the plaintext and the level of the key that opened the packet. -/
def openPacket (h : CryptoSetupClient) (p : Ciphertext) :
    CryptoSetupClient × Option (List Byte × EncryptionLevel) :=
  match h.forwardSecureAEAD with
  | some aead => (h, (aead p).map fun data => (data, .forwardSecure))
  | none =>
    match h.secureAEAD.bind (· p) with
    | some data => ({ h with receivedSecurePacket := true }, some (data, .secure))
    | none =>
      if h.secureAEAD.isSome && h.receivedSecurePacket then (h, none)
      else (h, (h.nullAEAD p).map fun res => (res, .unencrypted))

/-- The loop of `validateVersionList`. -/
def matchVersions : List Int → List Byte → Bool
  | [], _ => true
  | negotiatedVersion :: versions, b =>
    let ver := versionTagToNumber (HandshakeMessage.uint32 b)
    let ver := if isSupportedVersion supportedVersions ver then ver else versionUnsupported
    ver == negotiatedVersion && matchVersions versions (b.drop 4)

/-- `validateVersionList`. -/
def validateVersionList (h : CryptoSetupClient) (verTags : List Byte) : Bool :=
  if h.negotiatedVersions.length = 0 then true
  else if verTags.length % 4 ≠ 0 ∨ verTags.length / 4 ≠ h.negotiatedVersions.length then false
  else matchVersions h.negotiatedVersions verTags

/-- `generateClientNonce`. -/
def generateClientNonce (h : CryptoSetupClient) (r : Random) :
    Outcome CryptoSetupClient HandshakeError :=
  if 0 < h.nonc.length then (h, some .clientNonceAlreadyExists)
  else
    match h.serverConfig with
    | none => (h, some (.panic .nilServerConfig))
    | some serverConfig =>
      if serverConfig.obit.length ≠ 8 then (h, some .noObitForClientNonce)
      else
        let time := ByteOrder.bigEndian.writeUintN 4 (r.now / 10 ^ 9)
        ({ h with nonc := (time ++ serverConfig.obit ++ r.nonce).take 32 }, none)

/-! ## REJ -/

/-- A server config in a REJ. -/
def handleSCFG (r : Random) (scfg : List Byte) (h : CryptoSetupClient) :
    Outcome CryptoSetupClient HandshakeError :=
  match ServerConfigClient.parseServerConfig r.kex scfg with
  | .error e => ({ h with serverConfig := none }, some e)
  | .ok serverConfig =>
    let h := { h with serverConfig := some serverConfig }
    if serverConfig.isExpired r.now then (h, some .cryptoServerConfigExpired)
    else if h.nonc.length = 0 then h.generateClientNonce r
    else (h, none)

/-- A certificate chain in a REJ. -/
def handleCERT (crt : List Byte) (h : CryptoSetupClient) :
    Outcome CryptoSetupClient HandshakeError :=
  match h.certManager.parseChain crt with
  | none => (h, some .certificateDataInvalid)
  | some certs =>
    let h := { h with certs }
    if h.certManager.verify certs then (h, none) else (h, some .proofInvalid)

/-- The end of `handleREJMessage`: verify the server's proof once everything for it is there. -/
def verifyProof (h : CryptoSetupClient) : Outcome CryptoSetupClient HandshakeError :=
  match h.serverConfig, h.certs with
  | some serverConfig, leafCert :: _ =>
    if h.proof.length = 0 then (h, none)
    else if h.certManager.verifyServerProof leafCert h.proof h.chloForSignature
      serverConfig.raw then
      ({ h with serverVerified := true }, none)
    else (h, some .proofInvalid)
  | _, _ => (h, none)

/-- `handleREJMessage`. -/
def handleREJMessage (r : Random) (cryptoData : TagMap) (h : CryptoSetupClient) :
    Outcome CryptoSetupClient HandshakeError :=
  let h := { h with
    stk := (cryptoData.lookup tagSTK).getD h.stk
    sno := (cryptoData.lookup tagSNO).getD h.sno }
  let scfg : Outcome CryptoSetupClient HandshakeError := match cryptoData.lookup tagSCFG with
    | some scfg => handleSCFG r scfg h
    | none => (h, none)
  scfg.andThen fun h =>
    let h := match cryptoData.lookup tagPROF with
      | some proof => { h with proof, chloForSignature := h.lastSentCHLO }
      | none => h
    let cert : Outcome CryptoSetupClient HandshakeError := match cryptoData.lookup tagCERT with
      | some crt => handleCERT crt h
      | none => (h, none)
    cert.andThen verifyProof

/-! ## SHLO -/

/-- The end of `handleSHLOMessage`: signal that the handshake is complete. -/
def signalComplete (h : CryptoSetupClient) : Outcome CryptoSetupClient HandshakeError :=
  match h.aeadChanged.send .forwardSecure with
  | (aeadChanged, some e) => ({ h with aeadChanged }, some e)
  | (aeadChanged, none) =>
    let (aeadChanged, e) := aeadChanged.close
    ({ h with aeadChanged }, e)

/-- `handleSHLOMessage`. -/
def handleSHLOMessage (cryptoData : TagMap) (h : CryptoSetupClient) :
    Outcome CryptoSetupClient HandshakeError :=
  if !h.receivedSecurePacket then (h, some .unencryptedSHLO)
  else
    let h := { h with sno := (cryptoData.lookup tagSNO).getD h.sno }
    match cryptoData.lookup tagPUBS with
    | none => (h, some (.cryptoMessageParameterNotFound tagPUBS))
    | some serverPubs =>
      match cryptoData.lookup tagVER with
      | none => (h, some .missingVersionList)
      | some verTag =>
        if !h.validateVersionList verTag then (h, some .versionNegotiationMismatch)
        else
          match h.serverConfig with
          | none => (h, some (.panic .nilServerConfig))
          | some serverConfig =>
            match serverConfig.kex.calculateSharedKey serverPubs with
            | none => (h, some .keyExchange)
            | some ephermalSharedSecret =>
              let h := { h with forwardSecureAEAD := some (h.keyDerivation
                ⟨true, ephermalSharedSecret, h.nonc ++ h.sno, h.connID, h.lastSentCHLO,
                  serverConfig.raw, h.certs.headD [], [], .client⟩) }
              match h.connectionParameters.setFromMap cryptoData with
              | (connectionParameters, some _) =>
                ({ h with connectionParameters }, some .invalidCryptoMessageParameter)
              | (connectionParameters, none) => signalComplete { h with connectionParameters }

/-! ## The loop -/

/-- `maybeUpgradeCrypto`. -/
def maybeUpgradeCrypto (h : CryptoSetupClient) : Outcome CryptoSetupClient HandshakeError :=
  if !h.serverVerified then (h, none)
  else
    match h.secureAEAD, h.serverConfig, h.certs with
    | none, some serverConfig, leafCert :: _ =>
      if 0 < serverConfig.sharedSecret.length ∧ 0 < h.nonc.length ∧ 0 < leafCert.length ∧
          0 < h.diversificationNonce.length ∧ 0 < h.lastSentCHLO.length then
        let h := { h with secureAEAD := some (h.keyDerivation
          ⟨false, serverConfig.sharedSecret, h.nonc ++ h.sno, h.connID, h.lastSentCHLO,
            serverConfig.raw, leafCert, h.diversificationNonce, .client⟩) }
        let (aeadChanged, e) := h.aeadChanged.send .secure
        ({ h with aeadChanged }, e)
      else (h, none)
    | _, _, _ => (h, none)

/-- `getTags`. -/
def getTags (h : CryptoSetupClient) : TagMap :=
  let tags := h.connectionParameters.getHelloMap
    |>.insert tagSNI h.hostname
    |>.insert tagPDMD (bytesOf ['X', '5', '0', '9'])
  let ccs := h.certManager.commonCertificateHashes
  let tags := if 0 < ccs.length then tags.insert tagCCS ccs else tags
  let tags :=
    tags.insert tagVER (ByteOrder.littleEndian.writeUintN 4 (versionNumberToTag h.version))
  let tags := if h.requestConnectionIDTruncation then tags.insert tagTCID [0, 0, 0, 0] else tags
  let tags := if 0 < h.stk.length then tags.insert tagSTK h.stk else tags
  let tags := if 0 < h.sno.length then tags.insert tagSNO h.sno else tags
  match h.serverConfig with
  | none => tags
  | some serverConfig =>
    let tags := tags.insert tagSCID serverConfig.id
    match h.certs with
    | [] => tags
    | leafCert :: _ => tags.insert tagNONC h.nonc
        |>.insert tagXLCT
          (ByteOrder.littleEndian.writeUintN 8 (h.certManager.leafCertHash leafCert))
        |>.insert tagKEXS (bytesOf ['C', '2', '5', '5'])
        |>.insert tagAEAD (bytesOf ['A', 'E', 'S', 'G'])
        |>.insert tagPUBS serverConfig.kex.publicKey

/-- `addPadding`. -/
def addPadding (tags : TagMap) : TagMap :=
  let size := (tags.entries.map fun e => 8 + e.2.length).sum
  let paddingSize := clientHelloMinimumSize - size
  if 0 < paddingSize then tags.insert tagPAD (List.replicate paddingSize 0) else tags

/-- `protocol.MaxClientHellos`. -/
def maxClientHellos : Nat := 3

/-- `sendCHLO`. -/
def sendCHLO (h : CryptoSetupClient) : Outcome CryptoSetupClient HandshakeError :=
  let h := { h with clientHelloCounter := h.clientHelloCounter + 1 }
  if maxClientHellos < h.clientHelloCounter then (h, some .cryptoTooManyRejects)
  else ({ h with lastSentCHLO := HandshakeMessage.write ⟨tagCHLO, addPadding h.getTags⟩ }, none)

/-- The part of an iteration of `HandleCryptoStream` before it waits. -/
def beforeWaiting (h : CryptoSetupClient) : Outcome CryptoSetupClient HandshakeError :=
  h.maybeUpgradeCrypto.andThen fun h =>
    if h.secureAEAD.isNone then h.sendCHLO else (h, none)

/-- What `HandleCryptoStream` waits for.  `endOfStream` is an error of the crypto stream. -/
inductive Event
  | divNonce (divNonce : List Byte)
  | message (message : HandshakeMessage) (r : Random)
  | endOfStream

/-- The part of an iteration of `HandleCryptoStream` after it waited. -/
def handleEvent (h : CryptoSetupClient) : Event → Outcome CryptoSetupClient HandshakeError
  | .divNonce divNonce =>
    if h.diversificationNonce.length ≠ 0 ∧ h.diversificationNonce ≠ divNonce then
      (h, some .conflictingDiversificationNonces)
    else ({ h with diversificationNonce := divNonce }, none)
  | .message message r =>
    if message.tag = tagREJ then h.handleREJMessage r message.data
    else if message.tag = tagSHLO then h.handleSHLOMessage message.data
    else (h, some .invalidCryptoMessageType)
  | .endOfStream => (h, some .handshakeFailed)

/-- The handshake cache: the contents of its files, as far as they exist. -/
structure Cache where
  sni : Option (List Byte)
  stk : Option (List Byte)
  cert : Option (List Byte)
  scfg : Option (List Byte)

/-- `useHandshakeCache`; its errors are only logged. -/
def useHandshakeCache (h : CryptoSetupClient) (r : Random) (cache : Cache) : CryptoSetupClient :=
  if cache.sni ≠ some h.hostname then h
  else
    match cache.stk with
    | none => h
    | some stk =>
      let h := { h with stk }
      match cache.cert.bind h.certManager.parseChain with
      | none => h
      | some certs =>
        let h := { h with certs }
        match cache.scfg with
        | none => h
        | some scfg =>
          match ServerConfigClient.parseServerConfig r.kex scfg with
          | .error _ => { h with serverConfig := none }
          | .ok serverConfig =>
            match generateClientNonce { h with serverConfig := some serverConfig } r with
            | (h, some _) => h
            | (h, none) => { h with serverVerified := true }

end CryptoSetupClient

/-- A client whose keys are the sample keys. -/
def CryptoSetupClient.sample : CryptoSetupClient where
  hostname := bytesOf ['h', 'o', 's', 't']
  connID := 1
  version := 512
  negotiatedVersions := []
  requestConnectionIDTruncation := false
  certManager := ⟨fun bs => some [bs], fun _ => true, fun _ _ _ _ => true, fun _ => 0, []⟩
  keyDerivation := KeyMaterial.sampleKey
  nullAEAD := .sample 0
  connectionParameters := .new .client 0 0 0

end MpQuic
