import MpQuic.ConnectionActs
import MpQuic.PathActs

/-!
# Uniqueness of nonces

The nonce of a packet is made of the IV of the key and the packet number, and every
path counts its packets from 1.  As long as a connection stays on its initial path no
nonce is used twice with a key.  The first packets on any other path are sealed with
the numbers that have been used on the initial path.
-/
namespace MpQuic
open Systems List

/-! ## Packet numbers of one path -/

namespace PacketNumberGenerator

theorem pop_next_le (p : PacketNumberGenerator) (random : Option UInt16) :
    (p.pop random).2.next ≤ p.next + 2 := by
  have hone : add64 p.next 1 ≤ p.next + 1 := Nat.mod_le _ _
  have htwo : add64 (add64 p.next 1) 1 ≤ add64 p.next 1 + 1 := Nat.mod_le _ _
  rw [pop]
  split
  · rw [generateNewSkip_next]
    exact htwo.trans (by omega)
  · exact hone.trans (by omega)

end PacketNumberGenerator

namespace SealedPacket

/-- The nonce a packet is sealed with, for the IVs of the keys. -/
def nonce (iv : EncryptionLevel → List Byte) (p : SealedPacket) : List Byte :=
  makeNonce (iv p.encryptionLevel) p.packetNumber

/-- No two packets that are sealed with one key have the same nonce. -/
def NoncesUnique (iv : EncryptionLevel → List Byte) (log : List SealedPacket) : Prop :=
  log.Pairwise fun p q => EncryptionLevel.secure.toNat ≤ p.encryptionLevel.toNat →
    q.encryptionLevel = p.encryptionLevel → q.nonce iv ≠ p.nonce iv

/-- The packets of a log are numbered in order, and all of them before the next number. -/
structure Ordered (log : List SealedPacket) (next : Nat) : Prop where
  next_le : next ≤ 2 * log.length + 1
  lt_next : ∀ p ∈ log, p.packetNumber < next
  increasing : log.Pairwise fun p q => p.packetNumber < q.packetNumber

theorem Ordered.nil : Ordered [] 1 :=
  ⟨le_rfl, fun _ hp => absurd hp not_mem_nil, .nil⟩

variable {log : List SealedPacket}

/-- The next packet has a number above those of the log, as long as the numbers do not run out. -/
theorem Ordered.seal {g : PacketNumberGenerator} (h : Ordered log g.next)
    (hlen : log.length < 2 ^ 62) (encLevel : EncryptionLevel) (pathID : Nat)
    (random : Option UInt16) :
    Ordered (log ++ [⟨encLevel, pathID, g.next⟩]) (g.pop random).2.next := by
  have hbound := h.next_le
  have hle := g.pop_next_le random
  have hlt : g.next < (g.pop random).2.next := g.lt_pop_next random (by omega)
  refine ⟨?_, ?_, ?_⟩
  · rw [length_append, length_singleton]
    omega
  · intro p hp
    rcases mem_append.mp hp with hp | hp
    · exact (h.lt_next p hp).trans hlt
    · rw [mem_singleton.mp hp]
      exact hlt
  · refine pairwise_append.mpr ⟨h.increasing, pairwise_singleton _ _, ?_⟩
    intro p hp q hq
    rw [mem_singleton.mp hq]
    exact h.lt_next p hp

theorem Ordered.noncesUnique {next : Nat} (h : Ordered log next) (hlen : log.length < 2 ^ 62)
    (iv : EncryptionLevel → List Byte) : NoncesUnique iv log := by
  have hbound := h.next_le
  refine h.increasing.imp_of_mem fun hp hq hlt _ hlevel hnonce => ?_
  have hq' := h.lt_next _ hq
  rw [nonce, nonce, hlevel] at hnonce
  have hnumber := makeNonce_injective (by omega) (by omega) hnonce
  omega

end SealedPacket

/-! ## Sessions with one path -/

namespace Session
variable {κ : Type}
open SealedPacket

/-- The session has no path but the initial one, on which all packets have been sealed, in order as
long as they are fewer than `2 ^ 62`. -/
def OnInitialPath (s : Session κ) : Prop :=
  ∃ pth, s.paths = AList.singleton initialPathID pth ∧
    (s.packer.sealLog.length < 2 ^ 62 →
      Ordered s.packer.sealLog pth.packetNumberGenerator.next)

theorem eq_of_lookup_singleton {id : Nat} {pth pth' : Path κ}
    (h : (AList.singleton initialPathID pth : AList fun _ : Nat => Path κ).lookup id = some pth') :
    id = initialPathID ∧ pth' = pth := by
  have hentry := mem_singleton.mp (of_mem_dlookup h)
  cases hentry
  exact ⟨rfl, rfl⟩

/-- An act that creates no path leaves the session on its initial one, and its packets in order. -/
theorem OnInitialPath.pathsChange {s s' : Session κ} {a : Act κ} (h : s.OnInitialPath)
    (hcreate : ∀ id, a = .createPath id → ¬s.CreatesPaths)
    (hremote : ∀ id, a = .createPathFromRemote id → id = initialPathID)
    (hchange : PathsChange s s' a) : s'.OnInitialPath := by
  obtain ⟨pth₀, hpaths₀, hordered⟩ := h
  cases hchange with
  | same hpaths hlog =>
    rw [← hlog] at hordered
    exact ⟨pth₀, hpaths.trans hpaths₀, hordered⟩
  | creates hpaths hact hlog =>
    rcases hact with ⟨ha, hcreates⟩ | ⟨ha, hnone⟩
    · exact absurd hcreates (hcreate _ ha)
    · rw [hremote _ ha, hpaths₀] at hnone
      cases hnone
  | changes hpth hpaths hgenerator hlog =>
    rw [hpaths₀] at hpth hpaths
    obtain ⟨rfl, rfl⟩ := eq_of_lookup_singleton hpth
    refine ⟨_, hpaths.trans AList.insert_singleton_eq, ?_⟩
    rw [hgenerator, hlog]
    exact hordered
  | seals hpth hpaths hgenerator hlog =>
    rw [hpaths₀] at hpth hpaths
    obtain ⟨rfl, rfl⟩ := eq_of_lookup_singleton hpth
    refine ⟨_, hpaths.trans AList.insert_singleton_eq, ?_⟩
    rw [hgenerator, hlog]
    intro hlen
    rw [length_append, length_singleton] at hlen
    have hlen' : s.packer.sealLog.length < 2 ^ 62 := by omega
    exact (hordered hlen').seal hlen' ..

end Session

/-! ## Runs -/

namespace Event
variable {κ : Type} [SendAlgorithm κ] {s : Session κ} {e : Event κ}
variable {id : Nat}

/-- Paths are created by ADD_ADDRESS frames and by the path manager. -/
theorem Acts.of_createPath (h : Acts s e (.createPath id)) :
    (∃ p env f, e = .receive p env ∧ .addAddress f ∈ s.receivedFrames p) ∨
      ∃ localAddrs first env, e = .runPathManager localAddrs first env := by
  cases h with
  | receive h =>
    cases h with
    | frame hf h =>
      cases h with
      | addAddress f _ => exact .inl ⟨_, _, f, rfl, hf⟩
  | startSending h => cases h
  | sendRound h => cases h
  | runPathManager _ => exact .inr ⟨_, _, _, rfl⟩

/-- Paths of the peer are created by the packets that arrive on them. -/
theorem Acts.of_createPathFromRemote (h : Acts s e (.createPathFromRemote id)) :
    ∃ p env, e = .receive p env ∧ id = p.pathID := by
  cases h with
  | receive h =>
    cases h with
    | createPathFromRemote => exact ⟨_, _, rfl, rfl⟩
    | frame _ h =>
      cases h with
      | addAddress _ h => cases h
  | startSending h => cases h
  | sendRound h => cases h
  | runPathManager h => cases h

end Event

namespace Connection
variable {κ : Type} [SendAlgorithm κ]
open Session SealedPacket

/-- Nothing creates a path: packets arrive on the initial path only, and a client that creates
paths neither learns an address nor runs its path manager. -/
def StaysOnInitialPath (c : Connection κ) : Event κ → Prop
  | .receive p _ => p.pathID = initialPathID ∧
      (c.session.CreatesPaths → ∀ f, .addAddress f ∉ c.session.receivedFrames p)
  | .runPathManager .. => ¬c.session.CreatesPaths
  | _ => True

variable {c : Connection κ}

theorem Initial.onInitialPath (h : Initial c) : c.session.OnInitialPath := by
  cases h with
  | new => exact ⟨_, rfl, fun _ => .nil⟩

theorem onInitialPath_apply {e : Event κ} (hkeyed : c.session.WellKeyed)
    (h : c.session.OnInitialPath) (hstays : c.StaysOnInitialPath e) (henabled : c.Enabled e) :
    (c.apply e).session.OnInitialPath := by
  refine ((c.apply_reaches hkeyed henabled).keeps
    (P := fun s => SameConfig c.session s ∧ s.OnInitialPath) ?_ ⟨⟨rfl, rfl⟩, h⟩).2
  rintro s a s' - ⟨hconfig, hs⟩ hacts hdoes
  refine ⟨hconfig.trans hdoes.sameConfig, hs.pathsChange ?_ ?_ hdoes.pathsChange⟩
  · rintro id rfl hcreates
    have hcreates' : c.session.CreatesPaths :=
      ⟨hconfig.perspective.symm.trans hcreates.client,
        hconfig.createPaths.symm.trans hcreates.createPaths⟩
    rcases hacts.of_createPath with ⟨p, env, f, rfl, hf⟩ | ⟨localAddrs, first, env, rfl⟩
    · exact hstays.2 hcreates' f hf
    · exact hstays hcreates'
  · rintro id rfl
    obtain ⟨p, env, rfl, rfl⟩ := hacts.of_createPathFromRemote
    exact hstays.1

/-- **No nonce is used twice** with a key, in every run in which the connection stays on its initial
path and seals fewer than `2 ^ 62` packets. -/
theorem nonces_unique {c : Connection κ} (h : (machine κ).Reach StaysOnInitialPath c)
    (hlen : c.session.packer.sealLog.length < 2 ^ 62) (iv : EncryptionLevel → List Byte) :
    NoncesUnique iv c.session.packer.sealLog := by
  have hinv : c.session.WellKeyed ∧ c.session.OnInitialPath := by
    refine h.invariant (P := fun c => c.session.WellKeyed ∧ c.session.OnInitialPath) ?_ ?_
    · intro c hinit
      exact ⟨hinit.wellKeyed, hinit.onInitialPath⟩
    · rintro c e _ ⟨hkeyed, hc⟩ hstays ⟨henabled, rfl⟩
      exact ⟨(c.apply_reaches hkeyed henabled).wellKeyed,
        onInitialPath_apply hkeyed hc hstays henabled⟩
  obtain ⟨pth, -, hordered⟩ := hinv.2
  exact (hordered hlen).noncesUnique hlen iv

/-! ## A client on its initial path, and one that opens two more paths -/

/-- The client sends a frame with its new key, and another one. -/
def sendTwice : List (Event FixedWindow) :=
  [ .installKeys .forwardSecure [], .handshakeCompleted, .openStream, .write 3 [1],
    .startSending { now := 1 }, sendLowestRTT 2, sendLowestRTT 3, .write 3 [2],
    .startSending { now := 4 }, sendLowestRTT 5 ]

/-- Two forward-secure packets on the initial path. -/
theorem nonces_unique_sendTwice :
    ∃ c : Connection FixedWindow, (machine FixedWindow).Reach StaysOnInitialPath c ∧
      c.session.packer.sealLog =
        [⟨.forwardSecure, initialPathID, 1⟩, ⟨.forwardSecure, initialPathID, 2⟩] ∧
      NoncesUnique (fun _ => [0, 0, 0, 0]) c.session.packer.sealLog := by
  have henv : ∀ e ∈ sendTwice, ∀ env ∈ e.env, env.Valid := by
    simp [sendTwice, sendLowestRTT, Event.env, Env.Valid]
  have hreach : (machine FixedWindow).Reach StaysOnInitialPath
      (sendTwice.foldl apply (sample .client)) := by
    refine reach_foldl (.init (initial_sample .client)) (by decide +kernel) henv ?_
    simp [sendTwice, sendLowestRTT, StaysOnInitialPath]
  have hlog : (sendTwice.foldl apply (sample .client)).session.packer.sealLog =
      [⟨.forwardSecure, initialPathID, 1⟩, ⟨.forwardSecure, initialPathID, 2⟩] := by
    decide +kernel
  exact ⟨_, hreach, hlog, nonces_unique hreach (by rw [hlog]; decide) _⟩

/-- The client opens the paths 1 and 3, and sends a PING on each of them. -/
def openPaths : List (Event FixedWindow) :=
  let addrs := [sampleAddr 1 443, sampleAddr 3 443, sampleAddr 5 443]
  [.installKeys .forwardSecure [], .handshakeCompleted, .runPathManager addrs true { now := 1 }]

/-- The two PINGs are sealed with the same key and the same nonce. -/
theorem pings_share_nonce :
    ∃ c : Connection FixedWindow, c.Reachable ∧ c.Running ∧
      c.session.packer.sealLog = [⟨.forwardSecure, 1, 1⟩, ⟨.forwardSecure, 3, 1⟩] ∧
      ∀ iv, ¬NoncesUnique iv c.session.packer.sealLog := by
  have henv : ∀ e ∈ openPaths, ∀ env ∈ e.env, env.Valid := by
    simp [openPaths, Event.env, Env.Valid]
  have hreach : Reachable (openPaths.foldl apply (sample .client)) :=
    reach_foldl (.init (initial_sample .client)) (by decide +kernel) henv fun _ _ _ => trivial
  have hlog : (openPaths.foldl apply (sample .client)).session.packer.sealLog =
      [⟨.forwardSecure, 1, 1⟩, ⟨.forwardSecure, 3, 1⟩] := by
    decide +kernel
  refine ⟨_, hreach, ⟨by decide +kernel, by decide +kernel⟩, hlog, fun iv hunique => ?_⟩
  rw [hlog, NoncesUnique, pairwise_pair] at hunique
  exact hunique (by decide) rfl rfl

end Connection

end MpQuic
