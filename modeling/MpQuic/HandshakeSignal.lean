import MpQuic.EncryptionLevels

/-!
# The end of the handshake is signalled once

`handleSHLOMessage` sends on `aeadChanged` and closes it.  The loop of
`HandleCryptoStream` goes on afterwards, and nothing in the handshake says that there
has been a SHLO: a second one is stopped only by `SetFromMap`, which refuses to
negotiate flow control windows twice.  A second SHLO without windows, or after a first
one without them, gets to the closed channel, and the client panics.
-/
namespace MpQuic
open Systems CryptoSetupClient ConnectionParametersManager

/-- `HandleCryptoStream` of a client: the handshake object, and the error that ended the loop. -/
structure ClientLoop where
  setup : CryptoSetupClient
  result : Option HandshakeError

namespace ClientLoop

/-- A packet for `Open`, or what the loop waits for. -/
inductive Op
  | openPacket (p : Ciphertext)
  | event (e : CryptoSetupClient.Event)

/-- The start of `HandleCryptoStream`, with the handshake cache if it is used. -/
def start (h : CryptoSetupClient)
    (cache : Option (CryptoSetupClient.Random × CryptoSetupClient.Cache)) :
    ClientLoop :=
  let h := match cache with
    | none => h
    | some (r, cache) => h.useHandshakeCache r cache
  let (setup, result) := h.beforeWaiting
  ⟨setup, result⟩

/-- A packet, or an iteration of the loop. -/
def next (s : ClientLoop) : Op → ClientLoop
  | .openPacket p => { s with setup := (s.setup.openPacket p).1 }
  | .event e =>
    let (setup, result) := (s.setup.handleEvent e).andThen beforeWaiting
    ⟨setup, result⟩

/-- A handshake object as `NewCryptoSetupClient` makes it. -/
structure Fresh (h : CryptoSetupClient) : Prop where
  initial : h.Initial
  aeadChanged : h.aeadChanged.closed = false

/-- Every sequence of messages, nonces and packets, until there is an error. -/
def machine : Machine ClientLoop Op where
  init s := ∃ h cache, Fresh h ∧ s = start h cache
  step s op s' := s.result = none ∧ s' = s.next op

/-- A SHLO carries a flow control window. -/
def CarriesWindow (_ : ClientLoop) : Op → Prop
  | .event (.message message _) => message.tag = tagSHLO →
      negotiatesFlowControl message.data = true
  | _ => True

end ClientLoop

namespace CryptoSetupClient
variable {h h' : CryptoSetupClient}

/-- A secure packet was opened with the secure key, the key was made from the server config, and
the channel was closed by a SHLO that negotiated flow control. -/
structure Sound (h : CryptoSetupClient) : Prop where
  received : h.receivedSecurePacket = true → h.secureAEAD.isSome
  secure : h.secureAEAD.isSome → h.serverConfig.isSome
  closed : h.aeadChanged.closed = true →
    h.receivedSecurePacket = true ∧ h.connectionParameters.flowControlNegotiated = true

/-- A step that keeps `Sound` unless it fails, and does not panic. -/
structure Keeps (r : Outcome CryptoSetupClient HandshakeError) : Prop where
  sound : r.2 = none → r.1.Sound
  notPanic : ∀ e, r.2 = some e → e.NotPanic

theorem keeps_ok (hs : h.Sound) : Keeps (h, none) := ⟨fun _ => hs, by simp⟩

theorem keeps_error {e : HandshakeError} (he : e.NotPanic) : Keeps (h, some e) := by
  refine ⟨by simp, ?_⟩
  rintro e' ⟨⟩
  exact he

variable {r : Outcome CryptoSetupClient HandshakeError}

theorem Keeps.andThen {f : CryptoSetupClient → Outcome CryptoSetupClient HandshakeError}
    (hr : Keeps r) (hf : ∀ h', h'.Sound → Keeps (f h')) : Keeps (r.andThen f) := by
  obtain ⟨h', _ | e⟩ := r
  · exact hf h' (hr.sound rfl)
  · exact hr

theorem Quiet.keeps (hq : h.Quiet r) (hs : h.Sound) : Keeps r := by
  refine ⟨fun hok => ?_, hq.notPanic⟩
  have hsignals := hq.signals
  simp only [CryptoSetupClient.signals, Prod.mk.injEq] at hsignals
  obtain ⟨hreceived, hsecure, -, hchannel, hparams⟩ := hsignals
  refine ⟨?_, ?_, ?_⟩
  · rw [hreceived, hsecure]
    exact hs.received
  · rw [hsecure]
    exact fun h0 => hq.serverConfig hok (hs.secure h0)
  · rw [hchannel, hreceived, hparams]
    exact hs.closed

theorem Sound.openPacket (hs : h.Sound) (p : Ciphertext) : (h.openPacket p).1.Sound := by
  unfold CryptoSetupClient.openPacket
  split
  · exact hs
  · split
    · next data hopen =>
      obtain ⟨aead, haead, -⟩ := Option.bind_eq_some_iff.mp hopen
      exact ⟨fun _ => by rw [haead]; rfl, hs.secure, fun hc => ⟨rfl, (hs.closed hc).2⟩⟩
    · split <;> exact hs

theorem Sound.beforeWaiting (hs : h.Sound) : Keeps h.beforeWaiting := by
  refine Keeps.andThen ?_ fun h' hs' => ?_
  · rcases h.maybeUpgradeCrypto_cases with he | ⟨hnone, hconfig, aead, he⟩
    · rw [he]
      exact keeps_ok hs
    · -- without a secure key the channel cannot have been closed
      have hopen : h.aeadChanged.closed = false := by
        by_contra hc
        have hsome := hs.received (hs.closed (by simpa using hc)).1
        rw [hnone] at hsome
        cases hsome
      rw [he, AEADChanged.send, if_neg (by simp [hopen])]
      exact keeps_ok ⟨fun _ => rfl, fun _ => hconfig, fun hc => absurd hc (by simp [hopen])⟩
  · split
    · exact h'.quiet_sendCHLO.keeps hs'
    · exact keeps_ok hs'

/-- A SHLO with a window: the first one closes the channel, a second one is refused. -/
theorem Sound.handleSHLOMessage (hs : h.Sound) {cryptoData : TagMap}
    (hwindow : negotiatesFlowControl cryptoData = true) :
    Keeps (handleSHLOMessage cryptoData h) := by
  have hshlo := h.handlesSHLO cryptoData
  generalize CryptoSetupClient.handleSHLOMessage cryptoData h = r at hshlo
  cases hshlo with
  | refused he => exact keeps_error he
  | nilServerConfig hreceived hnone =>
    have hsome := hs.secure (hs.received hreceived)
    rw [hnone] at hsome
    cases hsome
  | @complete h' hreceived hset hreceived' hsecure' _ hchannel' hparams' hconfig' =>
    obtain ⟨hnew, hset'⟩ := setFromMap_eq_none rfl hset
    rw [hwindow, Bool.true_and] at hnew
    have hopen : h'.aeadChanged.closed = false := by
      rw [hchannel']
      by_contra hc
      have hneg := (hs.closed (by simpa using hc)).2
      rw [hnew] at hneg
      cases hneg
    rw [signalComplete, AEADChanged.send]
    simp only [hopen]
    refine keeps_ok ⟨?_, ?_, fun _ => ⟨hreceived'.trans hreceived, ?_⟩⟩
    · intro _
      rw [hsecure']
      exact hs.received hreceived
    · rw [hsecure', hconfig']
      exact hs.secure
    · rw [hparams', hset', hwindow, Bool.true_or]

theorem Sound.handleEvent (hs : h.Sound) {e : Event} {s : ClientLoop}
    (hcond : ClientLoop.CarriesWindow s (.event e)) : Keeps (h.handleEvent e) := by
  cases e with
  | divNonce divNonce =>
    unfold CryptoSetupClient.handleEvent
    dsimp only
    split
    · exact keeps_error trivial
    · exact keeps_ok ⟨hs.received, hs.secure, hs.closed⟩
  | message message r =>
    unfold CryptoSetupClient.handleEvent
    dsimp only
    split_ifs with hrej hshlo
    · exact (h.quiet_handleREJMessage r message.data).keeps hs
    · exact hs.handleSHLOMessage (hcond hshlo)
    · exact keeps_error trivial
  | endOfStream => exact keeps_error trivial

end CryptoSetupClient

namespace ClientLoop

variable {h : CryptoSetupClient}

theorem Fresh.useHandshakeCache (hf : Fresh h) (r : CryptoSetupClient.Random)
    (cache : CryptoSetupClient.Cache) : Fresh (h.useHandshakeCache r cache) := by
  have hs := h.signals_useHandshakeCache r cache
  simp only [signals, Prod.mk.injEq] at hs
  obtain ⟨hreceived, hsecure, hfs, hchannel, -⟩ := hs
  obtain ⟨⟨hs0, hf0, hr0⟩, hc0⟩ := hf
  exact ⟨⟨by rwa [hsecure], by rwa [hfs], by rwa [hreceived]⟩, by rwa [hchannel]⟩

theorem Fresh.sound (hf : Fresh h) : h.Sound := by
  obtain ⟨⟨hsecure, -, hreceived⟩, hchannel⟩ := hf
  refine ⟨?_, ?_, ?_⟩
  · rw [hreceived]
    simp
  · rw [Option.isNone_iff_eq_none.mp hsecure]
    simp
  · rw [hchannel]
    simp

instance (s : ClientLoop) : (op : Op) → Decidable (CarriesWindow s op)
  | .openPacket _ => isTrue trivial
  | .event (.divNonce _) => isTrue trivial
  | .event .endOfStream => isTrue trivial
  | .event (.message message _) => inferInstanceAs (Decidable (message.tag = tagSHLO →
      negotiatesFlowControl message.data = true))

end ClientLoop
end MpQuic
