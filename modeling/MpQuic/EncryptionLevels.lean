import MpQuic.ClientHandshake
import MpQuic.CryptoSetupServer

/-!
# The level of received packets never goes down

`Open` tries several keys.  Which of them may still succeed is bounded from below by
the `floor` of a handshake object: the forward-secure key, once it has opened a packet
(on the server) or is installed (on the client); the secure key, once it has opened a
packet.  No step of the handshake lowers the floor, and a packet is opened at a level
between the floor before and the floor after.  `Opening` is that argument for any
handshake object.
-/
namespace MpQuic
open Systems Option CryptoSetupServer

theorem EncryptionLevel.le_trans {a b c : EncryptionLevel} (h : a ≤ b) (h' : b ≤ c) : a ≤ c :=
  Nat.le_trans h h'

/-! ## Runs of a handshake object -/

/-- A handshake object and the levels of the packets it has opened, in order. -/
structure Opening (σ : Type) where
  setup : σ
  levels : List EncryptionLevel

namespace Opening
variable {σ κ : Type}

/-- A packet to open, or a step of the handshake. -/
inductive Op (κ : Type)
  | openPacket (p : Ciphertext)
  | handshake (k : κ)

/-- The state after a packet or a step. -/
def next (openPacket : σ → Ciphertext → σ × Option (List Byte × EncryptionLevel))
    (handshake : σ → κ → σ) (s : Opening σ) : Op κ → Opening σ
  | .openPacket p => ⟨(openPacket s.setup p).1,
      s.levels ++ ((openPacket s.setup p).2.map Prod.snd).toList⟩
  | .handshake k => { s with setup := handshake s.setup k }

/-- Packets and steps of the handshake in any order. -/
def machine (init : σ → Prop)
    (openPacket : σ → Ciphertext → σ × Option (List Byte × EncryptionLevel))
    (handshake : σ → κ → σ) : Machine (Opening σ) (Op κ) where
  init s := init s.setup ∧ s.levels = []
  step s op s' := s' = next openPacket handshake s op

variable {init : σ → Prop} {openPacket : σ → Ciphertext → σ × Option (List Byte × EncryptionLevel)}
  {handshake : σ → κ → σ}

/-- The state after a list of packets and steps is reached. -/
theorem reach_foldl {h : σ} (h0 : init h) (ops : List (Op κ)) :
    (machine init openPacket handshake).Reach Machine.Always
      (ops.foldl (next openPacket handshake) ⟨h, []⟩) := by
  refine Machine.Reach.foldl (P := fun _ _ => True) (.init ⟨h0, rfl⟩)
    (fun _ _ _ => ⟨trivial, rfl⟩) ?_
  generalize (⟨h, []⟩ : Opening σ) = s
  induction ops generalizing s with
  | nil => trivial
  | cons op ops ih => exact ⟨trivial, ih _⟩

/-- A packet is refused, or opened at a level between the floor before and the one after. -/
inductive Opens (floor : σ → EncryptionLevel) (h : σ) :
    σ × Option (List Byte × EncryptionLevel) → Prop
  | refused : Opens floor h (h, none)
  | opened {h' : σ} {res : List Byte} {level : EncryptionLevel} :
    floor h ≤ level → level ≤ floor h' → Opens floor h (h', some (res, level))

/-- If no step lowers the floor and packets are opened above it, the levels do not decrease. -/
theorem levels_pairwise {floor : σ → EncryptionLevel}
    (hopen : ∀ h p, Opens floor h (openPacket h p))
    (hhandshake : ∀ h k, floor h ≤ floor (handshake h k)) {s : Opening σ}
    (hr : (machine init openPacket handshake).Reach Machine.Always s) :
    s.levels.Pairwise (· ≤ ·) := by
  suffices h : s.levels.Pairwise (· ≤ ·) ∧ ∀ level ∈ s.levels, level ≤ floor s.setup from h.1
  refine hr.invariant (P := fun s => s.levels.Pairwise (· ≤ ·) ∧
    ∀ level ∈ s.levels, level ≤ floor s.setup) ?_ ?_
  · rintro s ⟨-, hnil⟩
    rw [hnil]
    exact ⟨.nil, by simp⟩
  · rintro s (p | k) s' ⟨hsorted, hbelow⟩ - hstep
    · obtain rfl := hstep
      have hp := hopen s.setup p
      simp only [next]
      generalize openPacket s.setup p = r at hp
      cases hp with
      | refused => simpa using ⟨hsorted, hbelow⟩
      | opened hle hge =>
        simp only [map_some, toList_some]
        refine ⟨List.pairwise_append.mpr ⟨hsorted, List.pairwise_singleton .., ?_⟩, ?_⟩
        · intro l hl l' hl'
          rw [List.mem_singleton.mp hl']
          exact EncryptionLevel.le_trans (hbelow l hl) hle
        · intro l hl
          rcases List.mem_append.mp hl with hl | hl
          · exact EncryptionLevel.le_trans (EncryptionLevel.le_trans (hbelow l hl) hle) hge
          · rw [List.mem_singleton.mp hl]
            exact hge
    · obtain rfl := hstep
      exact ⟨hsorted, fun l hl => EncryptionLevel.le_trans (hbelow l hl) (hhandshake s.setup k)⟩

end Opening

/-! ## The server -/

namespace CryptoSetupServer

/-- The lowest level at which a packet may still be opened. -/
def floor (h : CryptoSetupServer) : EncryptionLevel :=
  if h.forwardSecureAEAD.isSome && h.receivedForwardSecurePacket then .forwardSecure
  else if h.secureAEAD.isSome && h.receivedSecurePacket then .secure
  else .unencrypted

/-- Keys may have been installed, and nothing else that `Open` looks at has changed. -/
structure Installs (h h' : CryptoSetupServer) : Prop where
  secureAEAD : h.secureAEAD.isSome → h'.secureAEAD.isSome
  forwardSecureAEAD : h.forwardSecureAEAD.isSome → h'.forwardSecureAEAD.isSome
  receivedSecurePacket : h'.receivedSecurePacket = h.receivedSecurePacket
  receivedForwardSecurePacket : h'.receivedForwardSecurePacket = h.receivedForwardSecurePacket

theorem Installs.refl (h : CryptoSetupServer) : h.Installs h := ⟨id, id, rfl, rfl⟩

theorem Installs.trans {h h' h'' : CryptoSetupServer} (h₁ : h.Installs h') (h₂ : h'.Installs h'') :
    h.Installs h'' :=
  ⟨h₂.secureAEAD ∘ h₁.secureAEAD, h₂.forwardSecureAEAD ∘ h₁.forwardSecureAEAD,
    h₂.receivedSecurePacket.trans h₁.receivedSecurePacket,
    h₂.receivedForwardSecurePacket.trans h₁.receivedForwardSecurePacket⟩

theorem Installs.floor_le {h h' : CryptoSetupServer} (hi : h.Installs h') : h.floor ≤ h'.floor := by
  have hs := hi.secureAEAD
  have hf := hi.forwardSecureAEAD
  unfold floor
  rw [hi.receivedSecurePacket, hi.receivedForwardSecurePacket]
  generalize h.secureAEAD.isSome = a at *
  generalize h'.secureAEAD.isSome = a' at *
  generalize h.forwardSecureAEAD.isSome = b at *
  generalize h'.forwardSecureAEAD.isSome = b' at *
  generalize h.receivedSecurePacket = c at *
  generalize h.receivedForwardSecurePacket = d at *
  revert a a' b b' c d
  decide

theorem installs_finishCHLO (h : CryptoSetupServer) (r : Random) (clientNonce cert data : List Byte)
    (cryptoData : TagMap) : h.Installs (h.finishCHLO r clientNonce cert data cryptoData).1 := by
  unfold finishCHLO
  split
  · exact .refl h
  · dsimp only
    split <;> exact ⟨id, fun _ => rfl, rfl, rfl⟩

/-- A complete CHLO installs the secure key first, and then the forward-secure one unless it fails.
-/
theorem installs_handleCHLO (h : CryptoSetupServer) (r : Random) (sni data : List Byte)
    (cryptoData : TagMap) : h.Installs (h.handleCHLO r sni data cryptoData).1 := by
  unfold handleCHLO
  split
  · exact .refl h
  · split
    · exact .refl h
    · dsimp only
      split
      · exact ⟨id, id, rfl, rfl⟩
      · split_ifs
        · exact ⟨id, id, rfl, rfl⟩
        · exact ⟨id, id, rfl, rfl⟩
        · split
          · exact ⟨fun _ => rfl, id, rfl, rfl⟩
          · refine Installs.trans ?_ (installs_finishCHLO ..)
            exact ⟨fun _ => rfl, id, rfl, rfl⟩

theorem installs_handleMessage (h : CryptoSetupServer) (r : Random) (chloData : List Byte)
    (cryptoData : TagMap) : h.Installs (h.handleMessage r chloData cryptoData).1 := by
  unfold handleMessage
  dsimp only
  split_ifs
  · exact .refl h
  · exact .refl h
  · exact .refl h
  · split
    · exact .refl h
    · split_ifs
      · exact .refl h
      · exact .refl h
      · split
        · exact .refl h
        · split_ifs
          · exact .refl h
          · have hchlo := h.installs_handleCHLO r ((cryptoData.lookup tagSNI).getD [])
                chloData cryptoData
            split
            · next heq => rwa [heq] at hchlo
            · next heq =>
              rw [heq] at hchlo
              split
              · exact hchlo
              · exact hchlo.trans ⟨id, id, rfl, rfl⟩

/-- How keys are installed: by handling a message, or in any other order. -/
inductive Handshake
  | handleMessage (r : Random) (chloData : List Byte) (cryptoData : TagMap)
  | installSecure (aead : AEAD)
  | installForwardSecure (aead : AEAD)

/-- A step of the handshake. -/
def handshake (h : CryptoSetupServer) : Handshake → CryptoSetupServer
  | .handleMessage r chloData cryptoData => (h.handleMessage r chloData cryptoData).1
  | .installSecure aead => { h with secureAEAD := some aead }
  | .installForwardSecure aead => { h with forwardSecureAEAD := some aead }

theorem installs_handshake (h : CryptoSetupServer) (k : Handshake) :
    h.Installs (h.handshake k) := by
  cases k with
  | handleMessage r chloData cryptoData => exact installs_handleMessage ..
  | installSecure aead => exact ⟨fun _ => rfl, id, rfl, rfl⟩
  | installForwardSecure aead => exact ⟨id, fun _ => rfl, rfl, rfl⟩

theorem floor_le_forwardSecure (h : CryptoSetupServer) : h.floor ≤ .forwardSecure := by
  unfold floor
  split_ifs <;> decide

/-- `Open` tries the best key first, and a packet opened with one key rules out the keys below it.
-/
theorem opens_openPacket (h : CryptoSetupServer) (p : Ciphertext) :
    Opening.Opens floor h (h.openPacket p) := by
  unfold openPacket
  split
  · next res hopen =>
    obtain ⟨aead, haead, -⟩ := bind_eq_some_iff.mp hopen
    split
    · next hfs => exact .opened h.floor_le_forwardSecure (by simp [floor, haead, hfs]; decide)
    · exact .opened h.floor_le_forwardSecure (by simp [floor, haead]; decide)
  · split
    · exact .refused
    · next hfs =>
      split
      · next res hopen =>
        obtain ⟨aead, haead, -⟩ := bind_eq_some_iff.mp hopen
        refine .opened ?_ ?_
        · rw [floor, if_neg hfs]
          split <;> decide
        · simp [floor, haead, hfs]
          decide
      · split
        · exact .refused
        · next hsecure =>
          have hfloor : h.floor = .unencrypted := by rw [floor, if_neg hfs, if_neg hsecure]
          cases h.nullAEAD p with
          | none => exact .refused
          | some res => exact .opened (by rw [hfloor]; decide) (by rw [hfloor]; decide)

/-- A handshake object without keys. -/
def Initial (h : CryptoSetupServer) : Prop :=
  h.secureAEAD.isNone ∧ h.forwardSecureAEAD.isNone ∧ h.receivedSecurePacket = false ∧
    h.receivedForwardSecurePacket = false

/-- The server's handshake and its packets. -/
def machine : Machine (Opening CryptoSetupServer) (Opening.Op Handshake) :=
  Opening.machine Initial openPacket handshake

end CryptoSetupServer

/-! ## The client -/

namespace CryptoSetupClient

/-- The lowest level at which a packet may still be opened. -/
def floor (h : CryptoSetupClient) : EncryptionLevel :=
  if h.forwardSecureAEAD.isSome then .forwardSecure
  else if h.secureAEAD.isSome && h.receivedSecurePacket then .secure
  else .unencrypted

/-- Keys may have been installed, and nothing else that `Open` looks at has changed. -/
structure Installs (h h' : CryptoSetupClient) : Prop where
  secureAEAD : h.secureAEAD.isSome → h'.secureAEAD.isSome
  forwardSecureAEAD : h.forwardSecureAEAD.isSome → h'.forwardSecureAEAD.isSome
  receivedSecurePacket : h'.receivedSecurePacket = h.receivedSecurePacket

theorem Installs.refl (h : CryptoSetupClient) : h.Installs h := ⟨id, id, rfl⟩

theorem Installs.trans {h h' h'' : CryptoSetupClient} (h₁ : h.Installs h') (h₂ : h'.Installs h'') :
    h.Installs h'' :=
  ⟨h₂.secureAEAD ∘ h₁.secureAEAD, h₂.forwardSecureAEAD ∘ h₁.forwardSecureAEAD,
    h₂.receivedSecurePacket.trans h₁.receivedSecurePacket⟩

variable {h h' : CryptoSetupClient}

theorem Installs.floor_le (hi : h.Installs h') : h.floor ≤ h'.floor := by
  have hs := hi.secureAEAD
  have hf := hi.forwardSecureAEAD
  unfold floor
  rw [hi.receivedSecurePacket]
  generalize h.secureAEAD.isSome = a at *
  generalize h'.secureAEAD.isSome = a' at *
  generalize h.forwardSecureAEAD.isSome = b at *
  generalize h'.forwardSecureAEAD.isSome = b' at *
  generalize h.receivedSecurePacket = c at *
  revert a a' b b' c
  decide

theorem opens_openPacket (h : CryptoSetupClient) (p : Ciphertext) :
    Opening.Opens floor h (h.openPacket p) := by
  unfold openPacket
  split
  · next aead haead =>
    have hfloor : h.floor = .forwardSecure := by simp [floor, haead]
    cases aead p with
    | none => exact .refused
    | some data => exact .opened (by rw [hfloor]; decide) (by rw [hfloor]; decide)
  · next hfs =>
    split
    · next data hopen =>
      obtain ⟨aead, haead, -⟩ := bind_eq_some_iff.mp hopen
      refine .opened ?_ ?_
      · simp only [floor, hfs, isSome_none, Bool.false_eq_true, if_false]
        split <;> decide
      · simp [floor, haead, hfs]
        decide
    · split
      · exact .refused
      · next hsecure =>
        have hfloor : h.floor = .unencrypted := by simp [floor, hfs, hsecure]
        cases h.nullAEAD p with
        | none => exact .refused
        | some res => exact .opened (by rw [hfloor]; decide) (by rw [hfloor]; decide)

theorem installs_of_signals (hs : h'.signals = h.signals) : h.Installs h' := by
  simp only [signals, Prod.mk.injEq] at hs
  obtain ⟨hreceived, hsecure, hfs, -⟩ := hs
  exact ⟨by rw [hsecure]; exact id, by rw [hfs]; exact id, hreceived⟩

theorem installs_signalComplete (h : CryptoSetupClient) : h.Installs h.signalComplete.1 := by
  unfold signalComplete
  split <;> exact ⟨id, id, rfl⟩

theorem installs_handleEvent (h : CryptoSetupClient) (e : Event) :
    h.Installs (h.handleEvent e).1 := by
  unfold handleEvent
  split
  · split <;> exact ⟨id, id, rfl⟩
  · next message r =>
    split_ifs
    · exact installs_of_signals (h.quiet_handleREJMessage r message.data).signals
    · have hshlo := h.handlesSHLO message.data
      generalize handleSHLOMessage message.data h = res at hshlo
      cases hshlo with
      | refused _ hreceived hsecure hfs => exact ⟨by rw [hsecure]; exact id, hfs, hreceived⟩
      | nilServerConfig _ _ hs => exact installs_of_signals hs
      | complete _ _ hreceived hsecure hfs =>
        refine Installs.trans ?_ (installs_signalComplete _)
        exact ⟨by rw [hsecure]; exact id, fun _ => hfs, hreceived⟩
    · exact .refl h
  · exact .refl h

theorem installs_beforeWaiting (h : CryptoSetupClient) : h.Installs h.beforeWaiting.1 := by
  have hupgrade : h.Installs h.maybeUpgradeCrypto.1 := by
    rcases h.maybeUpgradeCrypto_cases with he | ⟨-, -, aead, he⟩
    · rw [he]
      exact .refl h
    · rw [he]
      exact ⟨fun _ => rfl, id, rfl⟩
  unfold beforeWaiting
  generalize h.maybeUpgradeCrypto = res at hupgrade
  obtain ⟨h', _ | e⟩ := res
  · rw [Outcome.andThen_none]
    split
    · exact hupgrade.trans (installs_of_signals h'.quiet_sendCHLO.signals)
    · exact hupgrade
  · exact hupgrade

theorem signals_generateClientNonce (h : CryptoSetupClient) (r : Random) :
    (h.generateClientNonce r).1.signals = h.signals := by
  unfold generateClientNonce
  split
  · rfl
  · split
    · rfl
    · split <;> rfl

theorem signals_useHandshakeCache (h : CryptoSetupClient) (r : Random) (cache : Cache) :
    (h.useHandshakeCache r cache).signals = h.signals := by
  unfold useHandshakeCache
  split
  · rfl
  · split
    · rfl
    · dsimp only
      split
      · rfl
      · split
        · rfl
        · split
          · rfl
          · next serverConfig _ =>
            have hnonce := fun h' : CryptoSetupClient => h'.signals_generateClientNonce r
            split
            · next heq => exact (congrArg (signals ·.1) heq).symm.trans (hnonce _)
            · next heq => exact (congrArg (signals ·.1) heq).symm.trans (hnonce _)

/-- How keys are installed: by the loop of `HandleCryptoStream`, or in any other order. -/
inductive Handshake
  | useHandshakeCache (r : Random) (cache : Cache)
  | beforeWaiting
  | handleEvent (e : Event)
  | installSecure (aead : AEAD)
  | installForwardSecure (aead : AEAD)

/-- A step of the handshake. -/
def handshake (h : CryptoSetupClient) : Handshake → CryptoSetupClient
  | .useHandshakeCache r cache => h.useHandshakeCache r cache
  | .beforeWaiting => h.beforeWaiting.1
  | .handleEvent e => (h.handleEvent e).1
  | .installSecure aead => { h with secureAEAD := some aead }
  | .installForwardSecure aead => { h with forwardSecureAEAD := some aead }

theorem installs_handshake (h : CryptoSetupClient) (k : Handshake) :
    h.Installs (h.handshake k) := by
  cases k with
  | useHandshakeCache r cache => exact installs_of_signals (h.signals_useHandshakeCache r cache)
  | beforeWaiting => exact h.installs_beforeWaiting
  | handleEvent e => exact h.installs_handleEvent e
  | installSecure aead => exact ⟨fun _ => rfl, id, rfl⟩
  | installForwardSecure aead => exact ⟨id, fun _ => rfl, rfl⟩

/-- A handshake object without keys. -/
def Initial (h : CryptoSetupClient) : Prop :=
  h.secureAEAD.isNone ∧ h.forwardSecureAEAD.isNone ∧ h.receivedSecurePacket = false

/-- The client's handshake and its packets. -/
def machine : Machine (Opening CryptoSetupClient) (Opening.Op Handshake) :=
  Opening.machine Initial openPacket handshake

end CryptoSetupClient

/-! ## Both sides -/

/-- **The encryption levels of the packets opened never decrease**, on the server and on the client:
once a packet has been opened with a better key, none is opened with a worse one. -/
theorem encryption_levels_never_decrease :
    (∀ s, machine.Reach Machine.Always s → s.levels.Pairwise (· ≤ ·)) ∧
      ∀ s, CryptoSetupClient.machine.Reach Machine.Always s → s.levels.Pairwise (· ≤ ·) :=
  ⟨fun _ hr => Opening.levels_pairwise opens_openPacket
      (fun h k => (h.installs_handshake k).floor_le) hr,
    fun _ hr => Opening.levels_pairwise CryptoSetupClient.opens_openPacket
      (fun h k => (h.installs_handshake k).floor_le) hr⟩

/-- Packets for each key, while the keys arrive one after the other; the second packet for the
null key comes too late. -/
theorem levels_of_sample_runs :
    ∃ s c, machine.Reach Machine.Always s ∧
      CryptoSetupClient.machine.Reach Machine.Always c ∧
      s.levels = [.unencrypted, .secure, .forwardSecure] ∧
      c.levels = [.unencrypted, .secure, .forwardSecure] ∧
      s.levels.Pairwise (· ≤ ·) ∧ c.levels.Pairwise (· ≤ ·) := by
  have hs : machine.Reach Machine.Always
      (List.foldl (Opening.next openPacket handshake)
        ⟨.sample, []⟩
        [.openPacket ⟨[0], 1, []⟩, .handshake (.installSecure (.sample 1)),
          .openPacket ⟨[1], 2, []⟩,
          .handshake (.installForwardSecure (.sample 2)), .openPacket ⟨[2], 3, []⟩,
          .openPacket ⟨[0], 4, []⟩]) :=
    Opening.reach_foldl ⟨rfl, rfl, rfl, rfl⟩ _
  have hc : CryptoSetupClient.machine.Reach Machine.Always
      (List.foldl (Opening.next CryptoSetupClient.openPacket CryptoSetupClient.handshake)
        ⟨.sample, []⟩
        [.openPacket ⟨[0], 1, []⟩, .handshake (.installSecure (.sample 1)),
          .openPacket ⟨[1], 2, []⟩,
          .handshake (.installForwardSecure (.sample 2)), .openPacket ⟨[2], 3, []⟩,
          .openPacket ⟨[0], 4, []⟩]) :=
    Opening.reach_foldl ⟨rfl, rfl, rfl⟩ _
  exact ⟨_, _, hs, hc, by decide, by decide, encryption_levels_never_decrease.1 _ hs,
    encryption_levels_never_decrease.2 _ hc⟩

end MpQuic
