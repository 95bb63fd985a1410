import MpQuic.Client
import MpQuic.CryptoSetupClient
import MpQuic.CryptoSetupServer

/-!
# Does the version check detect every downgrade?

The client keeps the versions of the negotiation packet as they were parsed, and
compares them with the VER value of the SHLO after replacing, on that side only,
the versions it does not know by `VersionUnsupported`.  A list with a version
unknown to the client therefore never passes, also when it is genuine.
-/
namespace MpQuic
open Systems List CryptoSetupServer PublicHeader ByteOrder

/-! ## Versions on the wire -/

/-- The version that a peer reads where `v` was written. -/
def onWire (v : Int) : Int := versionTagToNumber (versionNumberToTag v)

/-- The version that `validateVersionList` reads where `v` was written. -/
def knownOnWire (v : Int) : Int :=
  if isSupportedVersion supportedVersions (onWire v) then onWire v else versionUnsupported

variable {versions negotiated server : List Int} {packetSentBy : Perspective} {version v : Int}
  {hdr : PublicHeader} {packet rest : List Byte}

theorem map_onWire (h : ∀ v ∈ versions, 0 ≤ v ∧ v < 1000) : versions.map onWire = versions := by
  have hv : ∀ v ∈ versions, onWire v = id v := fun v hv =>
    versionTagToNumber_versionNumberToTag (h v hv).1 (h v hv).2
  rw [map_congr_left hv, map_id]

theorem map_onWire_supported (h : ∀ v ∈ versions, v ∈ supportedVersions) :
    versions.map onWire = versions := by
  have hrange : ∀ v ∈ supportedVersions, 0 ≤ v ∧ v < 1000 := by decide
  exact map_onWire fun v hv => hrange v (h v hv)

/-- The four bytes of a tag. -/
theorem tag_bytes (v : Int) : ∃ b0 b1 b2 b3,
    littleEndian.writeUintN 4 (versionNumberToTag v) = [b0, b1, b2, b3] ∧
      versionTagToNumber (littleEndian.uintOf [b0, b1, b2, b3]) = onWire v := by
  have hlen := littleEndian.length_writeUintN 4 (versionNumberToTag v)
  have hread := littleEndian.uintOf_writeUintN (n := 4) (versionNumberToTag_lt v)
  match hbytes : littleEndian.writeUintN 4 (versionNumberToTag v), hlen with
  | [b0, b1, b2, b3], _ => exact ⟨b0, b1, b2, b3, rfl, by rw [← hbytes, hread, onWire]⟩

theorem versionTags_cons (v : Int) (versions : List Int) :
    versionTags (v :: versions) =
      littleEndian.writeUintN 4 (versionNumberToTag v) ++ versionTags versions := rfl

theorem length_versionTags (versions : List Int) :
    (versionTags versions).length = 4 * versions.length := by
  induction versions with
  | nil => rfl
  | cons v versions ih =>
    rw [versionTags_cons, length_append, length_writeUintN, ih, length_cons]
    omega

/-- A negotiation packet is read back version by version. -/
theorem versionsOf_versionTags (versions : List Int) :
    versionsOf (versionTags versions) = versions.map onWire := by
  induction versions with
  | nil => rfl
  | cons v versions ih =>
    obtain ⟨b0, b1, b2, b3, hbytes, hread⟩ := tag_bytes v
    rw [versionTags_cons, hbytes, map_cons, ← ih, ← hread]
    rfl

theorem versionsOf_nonneg (bs : List Byte) : ∀ v ∈ versionsOf bs, 0 ≤ v := by
  fun_induction versionsOf bs with
  | case1 b0 b1 b2 b3 rest ih =>
    intro v hv
    rcases mem_cons.mp hv with rfl | hv
    · exact versionTagToNumber_nonneg _
    · exact ih v hv
  | case2 => exact nofun

/-! ## The negotiation packet -/

namespace PublicHeader

theorem supportedVersions_ofFlagByte (b : Byte) (packetSentBy : Perspective) :
    (ofFlagByte b packetSentBy).supportedVersions = [] := by
  rw [ofFlagByte]
  split_ifs <;> rfl

variable {header hdr : PublicHeader} {bs rest : List Byte}

theorem supportedVersions_parsePacketNumber
    (h : header.parsePacketNumber packetSentBy version bs = .ok (hdr, rest)) :
    hdr.supportedVersions = header.supportedVersions := by
  rw [parsePacketNumber] at h
  obtain ⟨pathID, bs1, -, h⟩ := Parser.bind_ok h
  obtain ⟨packetNumber, bs2, -, h⟩ := Parser.bind_ok h
  cases h
  rfl

theorem parseVersions_ok (h : header.parseVersions bs = .ok (hdr, rest)) :
    hdr.supportedVersions = versionsOf bs := by
  rw [parseVersions] at h
  split_ifs at h
  cases h
  rfl

end PublicHeader

open PublicHeader in
/-- A parsed header has no versions, or those of a version negotiation packet. -/
theorem parsePublicHeader_versions
    (h : parsePublicHeader packetSentBy version packet = .ok (hdr, rest)) :
    hdr.supportedVersions = [] ∨ ∃ bs, hdr.supportedVersions = versionsOf bs := by
  rw [parsePublicHeader] at h
  obtain ⟨b, bs1, -, h⟩ := Parser.bind_ok h
  dsimp only at h
  split at h
  · cases h
  split at h
  · cases h
  obtain ⟨connectionID, bs2, -, h⟩ := Parser.bind_ok h
  obtain ⟨nonce, bs3, -, h⟩ := Parser.bind_ok h
  have hnone := supportedVersions_ofFlagByte b packetSentBy
  split_ifs at h
  · exact Or.inr ⟨bs3, parseVersions_ok h⟩
  · obtain ⟨tag, bs4, -, h⟩ := Parser.bind_ok h
    exact Or.inl ((supportedVersions_parsePacketNumber h).trans hnone)
  · exact Or.inl ((supportedVersions_parsePacketNumber h).trans hnone)

theorem parsedVersions_nonneg
    (h : parsePublicHeader packetSentBy version packet = .ok (hdr, rest)) :
    ∀ v ∈ hdr.supportedVersions, 0 ≤ v := by
  rcases parsePublicHeader_versions h with hnone | ⟨bs, hbs⟩
  · rw [hnone]
    exact nofun
  · rw [hbs]
    exact versionsOf_nonneg bs

/-- The bytes of a version negotiation packet. -/
theorem composeVersionNegotiation_eq (connectionID : Nat) (versions : List Int) :
    composeVersionNegotiation connectionID versions =
      0x09 :: (littleEndian.writeUintN 8 connectionID ++ versionTags versions) := by
  simp [composeVersionNegotiation, write, publicFlagByte,
    hasPacketNumber]
  decide

theorem parseConnectionID_ok {id connectionID : Nat} {bs rest : List Byte}
    (h : parseConnectionID
      (littleEndian.writeUintN 8 connectionID ++ bs) = .ok (id, rest)) : rest = bs := by
  rw [parseConnectionID,
    Parser.bind_of_ok (Parser.readUintN_append_mod ..)] at h
  split at h
  · cases h
  · cases h
    rfl

/-- A genuine version negotiation packet is parsed to the versions as they are on the wire. -/
theorem parse_composeVersionNegotiation {connectionID : Nat}
    (h : parsePublicHeader .server version (composeVersionNegotiation connectionID versions) =
      .ok (hdr, rest)) : hdr.supportedVersions = versions.map onWire := by
  have hflags : ofFlagByte 0x09 .server =
      { connectionID := 0, versionFlag := true, truncateConnectionID := false
        packetNumberLen := 0, packetNumber := 0 } := by decide
  rw [composeVersionNegotiation_eq, parsePublicHeader,
    Parser.bind_of_ok (Parser.readByte_cons ..)] at h
  simp only [hflags, Bool.or_false, Bool.not_true, Bool.false_eq_true, and_false, if_false,
    Bool.false_and] at h
  obtain ⟨id, bs1, hid, h⟩ := Parser.bind_ok h
  have hbs1 : bs1 = versionTags versions := parseConnectionID_ok hid
  obtain ⟨nonce, bs2, hnonce, h⟩ := Parser.bind_ok h
  have hbs2 : bs2 = bs1 := by
    cases hnonce
    rfl
  rw [parseVersions_ok h, hbs2, hbs1, versionsOf_versionTags]

/-! ## The check -/

namespace CryptoSetupClient

/-- The list in the hello message matches exactly if it is the one negotiated, as far as the wire
tells versions apart. -/
theorem matchVersions_versionTags (hlen : negotiated.length = server.length) :
    matchVersions negotiated (versionTags server) = true ↔
      negotiated = server.map knownOnWire := by
  induction server generalizing negotiated with
  | nil =>
    rw [length_nil, length_eq_zero_iff] at hlen
    subst hlen
    exact iff_of_true rfl rfl
  | cons v server ih =>
    cases negotiated with
    | nil => cases hlen
    | cons n negotiated =>
      obtain ⟨b0, b1, b2, b3, hbytes, hread⟩ := tag_bytes v
      have hver : versionTagToNumber (HandshakeMessage.uint32 (versionTags (v :: server))) =
          onWire v := by
        rw [versionTags_cons, hbytes, ← hread]
        rfl
      have hdrop : (versionTags (v :: server)).drop 4 = versionTags server := by
        rw [versionTags_cons, hbytes]
        rfl
      rw [matchVersions, hver, hdrop, Bool.and_eq_true, beq_iff_eq,
        ih (Nat.succ.inj hlen), map_cons, cons.injEq, knownOnWire, eq_comm]

/-- The check after a negotiation compares with what it knows of the server's list. -/
theorem validateVersionList_iff {h : CryptoSetupClient} (hne : h.negotiatedVersions ≠ [])
    (server : List Int) : h.validateVersionList (verTag server) = true ↔
      h.negotiatedVersions = server.map knownOnWire := by
  have htags : verTag server = versionTags server := rfl
  have hlen := length_versionTags server
  rw [htags, validateVersionList, if_neg (mt length_eq_zero_iff.mp hne)]
  split_ifs with hlength
  · refine iff_of_false id fun heq => hlength.elim (fun h4 => ?_) fun hdiv => ?_
    · omega
    · rw [heq, length_map] at hdiv
      omega
  · exact matchVersions_versionTags (by omega)

end CryptoSetupClient

theorem knownOnWire_of_mem (h : onWire v ∈ supportedVersions) : knownOnWire v = onWire v := by
  rw [knownOnWire, isSupportedVersion, if_pos (contains_iff_mem.mpr h)]

theorem knownOnWire_of_notMem (h : onWire v ∉ supportedVersions) :
    knownOnWire v = versionUnsupported := by
  rw [knownOnWire, isSupportedVersion, if_neg (mt contains_iff_mem.mp h)]

/-- A version that was read from the wire is none that the check does not know. -/
theorem eq_map_knownOnWire_iff (hn : ∀ v ∈ negotiated, 0 ≤ v) :
    negotiated = server.map knownOnWire ↔
      negotiated = server.map onWire ∧ ∀ v ∈ negotiated, v ∈ supportedVersions := by
  constructor
  · intro heq
    have hall : ∀ v ∈ server, onWire v ∈ supportedVersions := by
      intro v hv
      by_contra hnot
      have hmem : knownOnWire v ∈ negotiated := heq ▸ mem_map_of_mem hv
      have := hn _ hmem
      rw [knownOnWire_of_notMem hnot] at this
      exact absurd this (by decide)
    rw [map_congr_left fun v hv => knownOnWire_of_mem (hall v hv)] at heq
    refine ⟨heq, fun w hw => ?_⟩
    rw [heq] at hw
    obtain ⟨v, hv, rfl⟩ := mem_map.mp hw
    exact hall v hv
  · rintro ⟨heq, hall⟩
    rw [heq] at hall ⊢
    exact map_congr_left fun v hv => (knownOnWire_of_mem (hall _ (mem_map_of_mem hv))).symm

/-- The condition under which the check decides whether the list of a negotiation packet is the
server's: an equal list has only versions that the client knows, and a different one is not
what the server's list looks like on the wire. -/
def Distinguished (negotiated server : List Int) : Prop :=
  if negotiated = server then ∀ v ∈ server, v ∈ supportedVersions
  else ¬(negotiated = server.map onWire ∧ ∀ v ∈ negotiated, v ∈ supportedVersions)

instance (negotiated server : List Int) : Decidable (Distinguished negotiated server) := by
  unfold Distinguished
  infer_instance

/-- Versions of three digits survive the wire: what is left is that the client knows them. -/
theorem distinguished_of_digits (h : ∀ v ∈ server, 0 ≤ v ∧ v < 1000) :
    Distinguished negotiated server ↔
      (negotiated = server → ∀ v ∈ server, v ∈ supportedVersions) := by
  rw [Distinguished, map_onWire h]
  by_cases heq : negotiated = server
  · rw [if_pos heq]
    exact ⟨fun hall _ => hall, fun himp => himp heq⟩
  · rw [if_neg heq]
    exact iff_of_true (fun hboth => heq hboth.1) (fun h => absurd h heq)

/-- The check is exact if and only if the lists are distinguished. -/
theorem validateVersionList_exact_iff {h : CryptoSetupClient}
    (hne : h.negotiatedVersions ≠ []) (hn : ∀ v ∈ h.negotiatedVersions, 0 ≤ v)
    (server : List Int) :
    (h.validateVersionList (verTag server) = true ↔
      h.negotiatedVersions = server) ↔ Distinguished h.negotiatedVersions server := by
  rw [CryptoSetupClient.validateVersionList_iff hne, eq_map_knownOnWire_iff hn, Distinguished]
  by_cases heq : h.negotiatedVersions = server
  · rw [if_pos heq, iff_true_right heq, heq]
    exact ⟨And.right, fun hall => ⟨(map_onWire_supported hall).symm, hall⟩⟩
  · rw [if_neg heq, iff_false_right heq]

/-- The versions of a client before the one it uses are not in the server's list. -/
def MostPreferred (ours theirs : List Int) (version : Int) : Prop :=
  version ∈ theirs ∧
    ∃ before after, ours = before ++ version :: after ∧ ∀ v ∈ before, v ∉ theirs

theorem mostPreferred_chooseSupportedVersion {ours theirs : List Int}
    (h : chooseSupportedVersion ours theirs ≠ versionUnsupported) :
    MostPreferred ours theirs (chooseSupportedVersion ours theirs) := by
  rw [chooseSupportedVersion] at h ⊢
  cases hfind : ours.find? theirs.contains with
  | none => exact absurd (by rw [hfind]; rfl) h
  | some v =>
    obtain ⟨hv, before, after, hours, hbefore⟩ := find?_eq_some_iff_append.mp hfind
    refine ⟨contains_iff_mem.mp hv, before, after, hours, fun w hw hmem => ?_⟩
    have := hbefore w hw
    rw [contains_iff_mem.mpr hmem] at this
    cases this

namespace Client

/-- **The version check.**  Take any client, any packet that makes it switch versions, and any
server.  The check of the server's SHLO is exact if and only if the versions of the packet and
of the server are distinguished.  If they are, an accepted connection is one whose server does
not support the client's first choice and which uses the client's most preferred version of the
server's, and a genuine negotiation packet is accepted. -/
theorem version_check_exact_iff {c c' : Client} {remoteAddr : UDPAddr} {connID : Option Nat}
    {packet : List Byte} (hc : listen.Reach Machine.Always c)
    (hswitch : c.handlePacket remoteAddr connID packet = (c', .switchVersion))
    (h : CryptoSetupClient) (hh : h.negotiatedVersions = c'.negotiatedVersions)
    (server : List Int) :
    ∃ hdr data, parsePublicHeader .server c.version packet = .ok (hdr, data) ∧
      ((h.validateVersionList (verTag server) = true ↔
          hdr.supportedVersions = server) ↔ Distinguished hdr.supportedVersions server) ∧
      (Distinguished hdr.supportedVersions server →
        h.validateVersionList (verTag server) = true →
          (∀ v, c.versions.head? = some v → v ∉ server) ∧
            MostPreferred c.versions server c'.version) ∧
      (Distinguished hdr.supportedVersions server → (∀ v ∈ server, 0 ≤ v ∧ v < 1000) →
        ∀ connectionID, packet = composeVersionNegotiation connectionID server →
          h.validateVersionList (verTag server) = true) := by
  obtain ⟨hdr, hsw⟩ := handlePacket_switches hswitch
  obtain ⟨data, hparse⟩ := hsw.parsed
  have hversions : h.negotiatedVersions = hdr.supportedVersions := hh.trans hsw.negotiated
  have hpreferred : MostPreferred c.versions hdr.supportedVersions c'.version :=
    hsw.chosen ▸ mostPreferred_chooseSupportedVersion (hsw.chosen ▸ hsw.supported)
  have hne : h.negotiatedVersions ≠ [] := by
    rw [hversions]
    exact ne_nil_of_mem hpreferred.1
  have hn : ∀ v ∈ h.negotiatedVersions, 0 ≤ v := by
    rw [hversions]
    exact parsedVersions_nonneg hparse
  have hexact := validateVersionList_exact_iff hne hn server
  rw [hversions] at hexact
  refine ⟨hdr, data, hparse, hexact, fun hd hvalid => ?_,
    fun hd hdigits connectionID hgenuine => ?_⟩
  · have heq := (hexact.mpr hd).mp hvalid
    rw [← heq]
    refine ⟨fun v hv => ?_, hpreferred⟩
    have hoffered := firstChoice_of_reach hc hsw.first
    rw [hv, Option.some.injEq] at hoffered
    exact hoffered ▸ hsw.notOffered
  · have heq : hdr.supportedVersions = server := by
      subst hgenuine
      rw [parse_composeVersionNegotiation hparse, map_onWire hdigits]
    exact (hexact.mpr hd).mpr heq

/-- The client's address of the server in the samples. -/
def sampleServer : UDPAddr := ⟨[10, 0, 0, 1], 443⟩

/-- A client that offers version 512 and then 39. -/
def sample : Client := new [512, 39] false sampleServer 7

/-- The server that supports versions 1 and 39 answers with a genuine negotiation packet.  The
client switches to version 39, and then takes the server's SHLO for a downgrade attack. -/
theorem genuine_negotiation_rejected :
    let r := sample.handlePacket sampleServer (some 8) (composeVersionNegotiation 7 [1, 39])
    listen.Reach Machine.Always sample ∧ r.2 = .switchVersion ∧ r.1.version = 39 ∧
      r.1.negotiatedVersions = [1, 39] ∧
      ({ CryptoSetupClient.sample with negotiatedVersions := r.1.negotiatedVersions } :
        CryptoSetupClient).validateVersionList (verTag [1, 39]) = false := by
  exact ⟨.init ⟨_, _, _, _, rfl⟩, by decide +kernel, by decide +kernel, by decide +kernel,
    by decide +kernel⟩

/-- With versions that the client knows the same exchange is accepted. -/
theorem known_versions_accepted :
    let packet := composeVersionNegotiation 7 [39, 38]
    let r := sample.handlePacket sampleServer (some 8) packet
    ∃ hdr data, parsePublicHeader .server 512 packet = .ok (hdr, data) ∧
      Distinguished hdr.supportedVersions [39, 38] ∧ r.2 = .switchVersion ∧
      ({ CryptoSetupClient.sample with negotiatedVersions := r.1.negotiatedVersions } :
        CryptoSetupClient).validateVersionList (verTag [39, 38]) = true ∧
      (512 : Int) ∉ [39, 38] ∧ MostPreferred [512, 39] [39, 38] r.1.version := by
  intro packet r
  have hswitch : r = (r.1, .switchVersion) := by decide +kernel
  obtain ⟨hdr, data, hparse, hexact, hprefer, hgenuine⟩ :=
    version_check_exact_iff (c := sample) (.init ⟨_, _, _, _, rfl⟩) hswitch
      { CryptoSetupClient.sample with negotiatedVersions := r.1.negotiatedVersions } rfl [39, 38]
  have hd : Distinguished hdr.supportedVersions [39, 38] :=
    (distinguished_of_digits (by decide)).mpr fun _ => by decide
  have hvalid := hgenuine hd (by decide) 7 rfl
  exact ⟨hdr, data, hparse, hd, by decide +kernel, hvalid, (hprefer hd hvalid).1 512 rfl,
    (hprefer hd hvalid).2⟩

end Client
end MpQuic
