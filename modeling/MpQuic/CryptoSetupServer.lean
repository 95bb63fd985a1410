import MpQuic.ConnectionParametersManager
import MpQuic.HandshakeCrypto
import MpQuic.Version

/-!
# The server's handshake (`internal/handshake/crypto_setup_server.go`)

`handleMessage` answers a CHLO with a REJ or, when it is complete, installs the
secure and the forward-secure key and answers with a SHLO.  `Open` tries the keys
from the strongest down, and gives up the weaker ones once a stronger one has
opened a packet.  Random values and the tokens of `CookieGenerator` are arguments.
-/
namespace MpQuic
open Systems HandshakeMessage

/-- `crypto.CertChain`; the server name is given as its bytes. -/
structure CertChain where
  getLeafCert : List Byte → Option (List Byte)
  getCertsCompressed : List Byte → List Byte → List Byte → Option (List Byte)
  signServerProof : List Byte → List Byte → List Byte → Option (List Byte)

/-- `ServerConfig`. -/
structure ServerConfig where
  kex : KeyExchange
  certChain : CertChain
  id : List Byte
  obit : List Byte

/-- `ServerConfig.Get`. -/
def ServerConfig.get (s : ServerConfig) : List Byte :=
  write ⟨tagSCFG,
    (∅ : TagMap).insert tagSCID s.id
      |>.insert tagKEXS (bytesOf ['C', '2', '5', '5'])
      |>.insert tagAEAD (bytesOf ['A', 'E', 'S', 'G'])
      |>.insert tagPUBS ([0x20, 0x00, 0x00] ++ s.kex.publicKey)
      |>.insert tagOBIT s.obit
      |>.insert tagEXPY (List.replicate 8 0xff)⟩

/-- `cryptoSetupServer`.  `acceptSTK` says whether a token decodes to a cookie that the callback
accepts, and `sentSHLO` whether that channel is closed. -/
structure CryptoSetupServer where
  connID : Nat
  scfg : ServerConfig
  version : Int
  supportedVersions : List Int
  acceptSTK : List Byte → Bool
  hashCert : List Byte → Nat
  keyDerivation : KeyMaterial → AEAD
  nullAEAD : AEAD
  connectionParameters : ConnectionParametersManager
  diversificationNonce : List Byte := []
  secureAEAD : Option AEAD := none
  forwardSecureAEAD : Option AEAD := none
  receivedForwardSecurePacket : Bool := false
  receivedSecurePacket : Bool := false
  sentSHLO : Bool := false
  aeadChanged : AEADChanged := {}

namespace CryptoSetupServer

/-- The random values drawn while a message is handled. -/
structure Random where
  serverNonce : List Byte
  diversificationNonce : List Byte
  ephermalKex : KeyExchange
  token : List Byte

/-- `Open`: the plaintext and the level of the key that opened the packet.  The first
forward-secure packet waits for the SHLO to be sent and then closes `aeadChanged`. -/
def openPacket (h : CryptoSetupServer) (p : Ciphertext) :
    CryptoSetupServer × Option (List Byte × EncryptionLevel) :=
  match h.forwardSecureAEAD.bind (· p) with
  | some res =>
    if h.receivedForwardSecurePacket then (h, some (res, .forwardSecure))
    else ({ h with
      receivedForwardSecurePacket := true
      aeadChanged := h.aeadChanged.close.1 }, some (res, .forwardSecure))
  | none =>
    if h.forwardSecureAEAD.isSome && h.receivedForwardSecurePacket then (h, none)
    else
      match h.secureAEAD.bind (· p) with
      | some res => ({ h with receivedSecurePacket := true }, some (res, .secure))
      | none =>
        if h.secureAEAD.isSome && h.receivedSecurePacket then (h, none)
        else (h, (h.nullAEAD p).map fun res => (res, .unencrypted))

/-- `isInchoateCHLO`. -/
def isInchoateCHLO (h : CryptoSetupServer) (cryptoData : TagMap) (cert : List Byte) : Bool :=
  match cryptoData.lookup tagPUBS, cryptoData.lookup tagSCID, cryptoData.lookup tagXLCT with
  | some _, some scid, some xlct =>
    h.scfg.id != scid || xlct.length != 8 ||
      h.hashCert cert != ByteOrder.littleEndian.uintOf xlct ||
      !h.acceptSTK ((cryptoData.lookup tagSTK).getD [])
  | _, _, _ => true

/-- `handleInchoateCHLO`. -/
def handleInchoateCHLO (h : CryptoSetupServer) (r : Random) (sni chlo : List Byte)
    (cryptoData : TagMap) : Except HandshakeError (List Byte) :=
  if chlo.length < clientHelloMinimumSize then .error .chloTooSmall
  else
    let replyMap := (∅ : TagMap).insert tagSCFG h.scfg.get
      |>.insert tagSTK r.token
      |>.insert tagSVID (bytesOf ['q', 'u', 'i', 'c', '-', 'g', 'o'])
    if h.acceptSTK ((cryptoData.lookup tagSTK).getD []) then
      match h.scfg.certChain.signServerProof sni chlo h.scfg.get with
      | none => .error .signature
      | some proof =>
        match h.scfg.certChain.getCertsCompressed sni ((cryptoData.lookup tagCCS).getD [])
          ((cryptoData.lookup tagCCRT).getD []) with
        | none => .error .certificateDataInvalid
        | some certCompressed => .ok (write
            ⟨tagREJ, replyMap.insert tagPROF proof |>.insert tagCERT certCompressed⟩)
    else .ok (write ⟨tagREJ, replyMap⟩)

/-- `validateClientNonce`. -/
def validateClientNonce (h : CryptoSetupServer) (nonce : List Byte) : Option HandshakeError :=
  if nonce.length ≠ 32 then some .invalidClientNonceLength
  else if (nonce.drop 4).take 8 ≠ h.scfg.obit then some .obitNotMatching
  else none

/-- The value of VER in the SHLO. -/
def verTag (versions : List Int) : List Byte :=
  versions.flatMap fun v => ByteOrder.littleEndian.writeUintN 4 (versionNumberToTag v)

/-- The end of `handleCHLO`, after the secure key was installed. -/
def finishCHLO (h : CryptoSetupServer) (r : Random) (clientNonce cert data : List Byte)
    (cryptoData : TagMap) : CryptoSetupServer × Except HandshakeError (List Byte) :=
  match r.ephermalKex.calculateSharedKey ((cryptoData.lookup tagPUBS).getD []) with
  | none => (h, .error .keyExchange)
  | some ephermalSharedSecret =>
    let h := { h with forwardSecureAEAD := some (h.keyDerivation
      ⟨true, ephermalSharedSecret, clientNonce ++ r.serverNonce, h.connID, data, h.scfg.get, cert,
        [], .server⟩) }
    match h.connectionParameters.setFromMap cryptoData with
    | (connectionParameters, some e) => ({ h with connectionParameters }, .error e)
    | (connectionParameters, none) =>
      let replyMap := connectionParameters.getHelloMap
        |>.insert tagPUBS r.ephermalKex.publicKey
        |>.insert tagSNO r.serverNonce
        |>.insert tagVER (verTag h.supportedVersions)
      ({ h with connectionParameters }, .ok (write ⟨tagSHLO, replyMap⟩))

/-- `handleCHLO`. -/
def handleCHLO (h : CryptoSetupServer) (r : Random) (sni data : List Byte) (cryptoData : TagMap) :
    CryptoSetupServer × Except HandshakeError (List Byte) :=
  match h.scfg.kex.calculateSharedKey ((cryptoData.lookup tagPUBS).getD []) with
  | none => (h, .error .keyExchange)
  | some sharedSecret =>
    match h.scfg.certChain.getLeafCert sni with
    | none => (h, .error .unknownServerName)
    | some cert =>
      let h := { h with diversificationNonce := r.diversificationNonce }
      let clientNonce := (cryptoData.lookup tagNONC).getD []
      match h.validateClientNonce clientNonce with
      | some e => (h, .error e)
      | none =>
        if (cryptoData.lookup tagAEAD).getD [] ≠ bytesOf ['A', 'E', 'S', 'G'] then
          (h, .error (.cryptoNoSupport tagAEAD))
        else if (cryptoData.lookup tagKEXS).getD [] ≠ bytesOf ['C', '2', '5', '5'] then
          (h, .error (.cryptoNoSupport tagKEXS))
        else
          let h := { h with secureAEAD := some (h.keyDerivation
            ⟨false, sharedSecret, clientNonce, h.connID, data, h.scfg.get, cert,
              h.diversificationNonce, .server⟩) }
          match h.aeadChanged.send .secure with
          | (_, some e) => (h, .error e)
          | (aeadChanged, none) =>
            { h with aeadChanged }.finishCHLO r clientNonce cert data cryptoData

/-- `handleMessage`: the reply written to the crypto stream and whether the handshake is done. -/
def handleMessage (h : CryptoSetupServer) (r : Random) (chloData : List Byte)
    (cryptoData : TagMap) : CryptoSetupServer × Except HandshakeError (List Byte × Bool) :=
  if (cryptoData.lookup tagFHL2).isSome then (h, .error .holExperiment)
  else if (cryptoData.lookup tagNSTP).isSome then (h, .error .nstpExperiment)
  else
    let sni := (cryptoData.lookup tagSNI).getD []
    if sni = [] then (h, .error (.cryptoMessageParameterNotFound tagSNI))
    else
      match cryptoData.lookup tagVER with
      | none => (h, .error .missingVersionTag)
      | some verSlice =>
        let ver := versionTagToNumber (uint32 verSlice)
        if verSlice.length ≠ 4 then (h, .error .incorrectVersionTag)
        else if ver ≠ h.version ∧ isSupportedVersion h.supportedVersions ver then
          (h, .error .versionNegotiationMismatch)
        else
          match h.scfg.certChain.getLeafCert sni with
          | none => (h, .error .unknownServerName)
          | some certUncompressed =>
            if h.isInchoateCHLO cryptoData certUncompressed then
              (h, (h.handleInchoateCHLO r sni chloData cryptoData).map (·, false))
            else
              match h.handleCHLO r sni chloData cryptoData with
              | (h, .error e) => (h, .error e)
              | (h, .ok reply) =>
                match h.aeadChanged.send .forwardSecure with
                | (_, some e) => (h, .error e)
                | (aeadChanged, none) =>
                  ({ h with aeadChanged, sentSHLO := true }, .ok (reply, true))

end CryptoSetupServer

/-- A server whose keys are the sample keys. -/
def CryptoSetupServer.sample : CryptoSetupServer where
  connID := 1
  scfg := ⟨.sample, ⟨fun _ => some [5], fun _ _ _ => some [5], fun _ _ _ => some [6]⟩,
    List.replicate 16 3, List.replicate 8 4⟩
  version := 512
  supportedVersions := MpQuic.supportedVersions
  acceptSTK _ := true
  hashCert _ := 0
  keyDerivation := KeyMaterial.sampleKey
  nullAEAD := .sample 0
  connectionParameters := .new .server 0 0 0

end MpQuic
