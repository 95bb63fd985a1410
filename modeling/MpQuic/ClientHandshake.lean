import MpQuic.CryptoSetupClient

/-!
# What the steps of the client's handshake change

The keys, the channel to the session and the negotiated parameters are the `signals`
of the handshake.  A REJ and sending a CHLO leave them alone, the loop installs the
secure key at most once, and only a SHLO touches the forward-secure key, the
parameters and the end of the channel.
-/
namespace MpQuic
open Systems

namespace ServerConfigClient

theorem publicValues_notPanic (fuel : Nat) (pubs : List Byte) :
    FailsOnly HandshakeError.NotPanic (publicValues fuel pubs) := by
  induction fuel generalizing pubs with
  | zero => exact failsOnly_ok _
  | succ fuel ih =>
    unfold publicValues
    split
    · exact failsOnly_ok _
    · dsimp only
      split
      · exact (failsOnly_error _).mpr trivial
      · exact (ih _).bind fun _ _ => failsOnly_pure _

theorem require_notPanic (tagMap : TagMap) (tag : Nat) :
    FailsOnly HandshakeError.NotPanic (require tagMap tag) := by
  unfold require
  split
  · exact (failsOnly_error _).mpr trivial
  · exact failsOnly_ok _

theorem requireLength_notPanic (tagMap : TagMap) (tag length : Nat) :
    FailsOnly HandshakeError.NotPanic (requireLength tagMap tag length) := by
  refine (require_notPanic tagMap tag).bind fun value _ => ?_
  split
  · exact (failsOnly_throw_bind ..).mpr trivial
  · exact failsOnly_pure _

theorem requireName_notPanic (tagMap : TagMap) (tag : Nat) (name : List Char) :
    FailsOnly HandshakeError.NotPanic (requireName tagMap tag name) := by
  refine (require_notPanic tagMap tag).bind fun value _ => ?_
  split_ifs
  · exact (failsOnly_throw_bind ..).mpr trivial
  · split
    · exact (failsOnly_throw _).mpr trivial
    · exact failsOnly_pure _

theorem parseValues_notPanic (raw : List Byte) (kex : KeyExchange) (tagMap : TagMap) :
    FailsOnly HandshakeError.NotPanic (parseValues raw kex tagMap) := by
  refine (requireLength_notPanic ..).bind fun id _ => ?_
  refine (requireName_notPanic ..).bind fun i _ => ?_
  refine (requireName_notPanic ..).bind fun _ _ => ?_
  refine (require_notPanic ..).bind fun pubs _ => ?_
  refine (publicValues_notPanic ..).bind fun values _ => ?_
  split
  · exact (failsOnly_throw _).mpr trivial
  · split_ifs
    · exact (failsOnly_throw_bind ..).mpr trivial
    · split
      · exact (failsOnly_throw _).mpr trivial
      · refine (requireLength_notPanic ..).bind fun obit _ => ?_
        exact (requireLength_notPanic ..).bind fun _ _ => failsOnly_pure _

end ServerConfigClient

theorem ServerConfigClient.parseServerConfig_notPanic (kex : KeyExchange) (data : List Byte) :
    FailsOnly HandshakeError.NotPanic (parseServerConfig kex data) := by
  refine (HandshakeMessage.parse_notPanic data).bind fun message _ => ?_
  dsimp only
  split_ifs
  · exact (failsOnly_throw_bind ..).mpr trivial
  · exact parseValues_notPanic ..

namespace CryptoSetupClient

/-- What the session and `Open` see of the handshake. -/
def signals (h : CryptoSetupClient) :
    Bool × Option AEAD × Option AEAD × AEADChanged × ConnectionParametersManager :=
  (h.receivedSecurePacket, h.secureAEAD, h.forwardSecureAEAD, h.aeadChanged, h.connectionParameters)

/-- A step that leaves the signals alone, keeps the server config unless it fails, and does not
panic. -/
structure Quiet (h : CryptoSetupClient) (r : Outcome CryptoSetupClient HandshakeError) : Prop where
  signals : r.1.signals = h.signals
  serverConfig : r.2 = none → h.serverConfig.isSome → r.1.serverConfig.isSome
  notPanic : ∀ e, r.2 = some e → e.NotPanic

variable {h h' : CryptoSetupClient} {r : Outcome CryptoSetupClient HandshakeError}

theorem quiet_ok (hs : h'.signals = h.signals)
    (hc : h.serverConfig.isSome → h'.serverConfig.isSome) : h.Quiet (h', none) :=
  ⟨hs, fun _ => hc, by simp⟩

theorem quiet_error {e : HandshakeError} (hs : h'.signals = h.signals) (he : e.NotPanic) :
    h.Quiet (h', some e) := by
  refine ⟨hs, by simp, ?_⟩
  rintro e' ⟨⟩
  exact he

theorem Quiet.andThen {f : CryptoSetupClient → Outcome CryptoSetupClient HandshakeError}
    (hr : h.Quiet r) (hf : ∀ h', Quiet h' (f h')) : h.Quiet (r.andThen f) := by
  obtain ⟨h', _ | e⟩ := r
  · have h₂ := hf h'
    exact ⟨h₂.signals.trans hr.signals, fun hok hc => h₂.serverConfig hok (hr.serverConfig rfl hc),
      h₂.notPanic⟩
  · exact hr

/-- A change of other fields before a quiet step. -/
theorem Quiet.after (hr : h'.Quiet r) (hs : h'.signals = h.signals)
    (hc : h'.serverConfig = h.serverConfig) : h.Quiet r :=
  ⟨hr.signals.trans hs, fun hok h0 => hr.serverConfig hok (by rwa [hc]), hr.notPanic⟩

theorem quiet_generateClientNonce (hc : h.serverConfig.isSome) (r : Random) :
    h.Quiet (h.generateClientNonce r) := by
  unfold generateClientNonce
  split
  · exact quiet_error rfl trivial
  · split
    · next hnone =>
      rw [hnone] at hc
      cases hc
    · split
      · exact quiet_error rfl trivial
      · exact quiet_ok rfl id

theorem quiet_handleSCFG (h : CryptoSetupClient) (r : Random) (scfg : List Byte) :
    h.Quiet (handleSCFG r scfg h) := by
  unfold handleSCFG
  split
  · next e he =>
    exact quiet_error rfl ((ServerConfigClient.parseServerConfig_notPanic r.kex scfg).error e he)
  · next serverConfig _ =>
    dsimp only
    split_ifs
    · exact quiet_error rfl trivial
    · have hq := quiet_generateClientNonce
        (h := { h with serverConfig := some serverConfig }) rfl r
      exact ⟨hq.signals, fun hok _ => hq.serverConfig hok rfl, hq.notPanic⟩
    · exact quiet_ok rfl fun _ => rfl

theorem quiet_handleCERT (h : CryptoSetupClient) (crt : List Byte) :
    h.Quiet (handleCERT crt h) := by
  unfold handleCERT
  split
  · exact quiet_error rfl trivial
  · dsimp only
    split
    · exact quiet_ok rfl id
    · exact quiet_error rfl trivial

theorem quiet_verifyProof (h : CryptoSetupClient) : h.Quiet h.verifyProof := by
  unfold verifyProof
  split
  · split_ifs
    · exact quiet_ok rfl id
    · exact quiet_ok rfl id
    · exact quiet_error rfl trivial
  · exact quiet_ok rfl id

theorem quiet_handleREJMessage (h : CryptoSetupClient) (r : Random) (cryptoData : TagMap) :
    h.Quiet (h.handleREJMessage r cryptoData) := by
  unfold handleREJMessage
  dsimp only
  refine Quiet.andThen ?_ fun h => ?_
  · split
    · exact (quiet_handleSCFG ..).after rfl rfl
    · exact quiet_ok rfl id
  · refine Quiet.andThen ?_ quiet_verifyProof
    split
    · refine (quiet_handleCERT ..).after ?_ ?_ <;> split <;> rfl
    · split <;> exact quiet_ok rfl id

theorem quiet_sendCHLO (h : CryptoSetupClient) : h.Quiet h.sendCHLO := by
  unfold sendCHLO
  dsimp only
  split
  · exact quiet_error rfl trivial
  · exact quiet_ok rfl id

/-- `maybeUpgradeCrypto` does nothing, or installs the first secure key and signals it. -/
theorem maybeUpgradeCrypto_cases (h : CryptoSetupClient) :
    h.maybeUpgradeCrypto = (h, none) ∨
      (h.secureAEAD = none ∧ h.serverConfig.isSome ∧ ∃ aead, h.maybeUpgradeCrypto =
        ({ h with secureAEAD := some aead, aeadChanged := (h.aeadChanged.send .secure).1 },
          (h.aeadChanged.send .secure).2)) := by
  unfold maybeUpgradeCrypto
  split
  · exact Or.inl rfl
  · split
    · next serverConfig leafCert certs hsecure hconfig hcerts =>
      split
      · exact Or.inr ⟨hsecure, by rw [hconfig]; rfl, _, rfl⟩
      · exact Or.inl rfl
    · exact Or.inl rfl

/-- How `handleSHLOMessage` ends. -/
inductive HandlesSHLO (h : CryptoSetupClient) (cryptoData : TagMap) :
    Outcome CryptoSetupClient HandshakeError → Prop
  /-- The message is refused; the key may have been installed before. -/
  | refused {h' : CryptoSetupClient} {e : HandshakeError} : e.NotPanic →
    h'.receivedSecurePacket = h.receivedSecurePacket → h'.secureAEAD = h.secureAEAD →
    (h.forwardSecureAEAD.isSome → h'.forwardSecureAEAD.isSome) →
    HandlesSHLO h cryptoData (h', some e)
  | nilServerConfig {h' : CryptoSetupClient} : h.receivedSecurePacket = true →
    h.serverConfig = none → h'.signals = h.signals →
    HandlesSHLO h cryptoData (h', some (.panic .nilServerConfig))
  /-- The parameters are accepted, and the end of the handshake is signalled. -/
  | complete {h' : CryptoSetupClient} : h.receivedSecurePacket = true →
    (h.connectionParameters.setFromMap cryptoData).2 = none →
    h'.receivedSecurePacket = h.receivedSecurePacket → h'.secureAEAD = h.secureAEAD →
    h'.forwardSecureAEAD.isSome → h'.aeadChanged = h.aeadChanged →
    h'.connectionParameters = (h.connectionParameters.setFromMap cryptoData).1 →
    h'.serverConfig = h.serverConfig → HandlesSHLO h cryptoData h'.signalComplete

/-- The ways through `handleSHLOMessage`, in the order of its checks. -/
theorem handlesSHLO (h : CryptoSetupClient) (cryptoData : TagMap) :
    HandlesSHLO h cryptoData (handleSHLOMessage cryptoData h) := by
  unfold handleSHLOMessage
  split
  · exact .refused trivial rfl rfl id
  · next hreceived =>
    have hreceived : h.receivedSecurePacket = true := by simpa using hreceived
    dsimp only
    split
    · exact .refused trivial rfl rfl id
    · split
      · exact .refused trivial rfl rfl id
      · split
        · exact .refused trivial rfl rfl id
        · split
          · next hnone => exact .nilServerConfig hreceived hnone rfl
          · split
            · exact .refused trivial rfl rfl id
            · split
              · exact .refused trivial rfl rfl fun _ => rfl
              · next cp hset =>
                exact .complete hreceived (by rw [hset]) rfl rfl rfl rfl (by rw [hset]) rfl

end CryptoSetupClient
end MpQuic
