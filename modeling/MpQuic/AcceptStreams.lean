import MpQuic.ConnectionActs
import MpQuic.FramerActs

/-!
# Accepting the streams of the peer

`AcceptStream` hands out the streams of the peer one after the other: it waits until
the stream with the ID `nextStreamToAccept` is in the map.  The streams up to the
highest one the peer has opened are in the map unless they have been removed, and
`garbageCollectStreams` removes a finished stream whether it has been accepted or not.
A stream the peer opens and resets at once is finished, and if it is collected first,
no stream is accepted any more.
-/
namespace MpQuic
open Systems List AList

namespace StreamsMap
variable {m m' : StreamsMap} {params : ConnectionParameters} {id : Nat}

/-! ## The streams that wait to be accepted -/

/-- The streams of the peer that have not been accepted are all in the map. -/
structure Accepts (m : StreamsMap) : Prop where
  numbered : m.Numbered
  parity : m.nextStreamToAccept % 2 = m.perspective.peerParity
  pos : 0 < m.nextStreamToAccept
  le_next : m.nextStreamToAccept ≤ m.nextPeerStream
  waiting : ∀ id, id % 2 = m.perspective.peerParity → m.nextStreamToAccept ≤ id →
    id ≤ m.highestStreamOpenedByPeer → id ∈ m.streams
  opened : ∀ id ∈ m.streams, id % 2 = m.perspective.peerParity → id ≤ m.highestStreamOpenedByPeer

theorem accepts_new (pers : Perspective) : (new pers).Accepts := by
  cases pers <;> exact ⟨⟨rfl, Or.inl rfl, Nat.two_pow_pos 32⟩, rfl, by decide, by decide,
    fun _ _ hle hid => absurd (hle.trans hid) (by decide), fun _ hid => absurd hid (by simp [new])⟩

/-- What is between two maps when the streams of the peer and the cursors are the same. -/
structure SamePeerStreams (m m' : StreamsMap) : Prop where
  numbered : m'.Numbered
  perspective : m'.perspective = m.perspective
  highest : m'.highestStreamOpenedByPeer = m.highestStreamOpenedByPeer
  accept : m'.nextStreamToAccept = m.nextStreamToAccept
  streams : ∀ id, id % 2 = m.perspective.peerParity → (id ∈ m'.streams ↔ id ∈ m.streams)

theorem nextPeerStream_congr (hpers : m'.perspective = m.perspective)
    (hhigh : m'.highestStreamOpenedByPeer = m.highestStreamOpenedByPeer) :
    m'.nextPeerStream = m.nextPeerStream := by
  rw [nextPeerStream, nextPeerStream, hpers, hhigh]

theorem Accepts.congr (h : m.Accepts) (hm : m.SamePeerStreams m') : m'.Accepts := by
  obtain ⟨hnum, hpers, hhigh, haccept, hstreams⟩ := hm
  refine ⟨hnum, by rw [haccept, hpers]; exact h.parity, by rw [haccept]; exact h.pos, ?_, ?_, ?_⟩
  · rw [haccept, nextPeerStream_congr hpers hhigh]
    exact h.le_next
  · intro id hid hle hhi
    rw [hpers] at hid
    rw [haccept] at hle
    rw [hhigh] at hhi
    exact (hstreams id hid).mpr (h.waiting id hid hle hhi)
  · intro id hmem hid
    rw [hpers] at hid
    rw [hhigh]
    exact h.opened id ((hstreams id hid).mp hmem) hid

theorem SameStreams.samePeerStreams (hm : m.SameStreams m') (h : m.Numbered) :
    m.SamePeerStreams m' := by
  have hnum := h.of_cursors hm.cursors
  have hcursors := hm.cursors
  simp only [StreamsMap.cursors, Prod.mk.injEq] at hcursors
  exact ⟨hnum, hcursors.1, hcursors.2.2.1, hcursors.2.2.2.1, fun id _ => by
    rw [AList.mem_keys, AList.mem_keys]; exact hm.keys.mem_iff⟩

/-- Opening a stream of one's own. -/
theorem Numbered.openStream_samePeerStreams (h : m.Numbered) (params : ConnectionParameters) :
    m.SamePeerStreams (m.openStream params).1 := by
  rcases m.openStream_cases params with hsame | ⟨-, hcursors, hstreams, -⟩
  · rw [hsame]
    exact ⟨h, rfl, rfl, rfl, fun _ _ => Iff.rfl⟩
  simp only [cursors, Prod.mk.injEq] at hcursors
  obtain ⟨hpers, hnext, hhigh, haccept, -⟩ := hcursors
  have hparity := h.nextStream
  refine ⟨⟨?_, by rw [hhigh, hpers]; exact h.highest, by rw [hhigh]; exact h.highest_lt⟩, hpers,
    hhigh, haccept, fun id hid => ?_⟩
  · rw [hnext, hpers]
    omega
  · rw [hstreams, mem_putStream]
    refine ⟨?_, Or.inr⟩
    rintro (rfl | hmem)
    · -- the new stream has the other parity
      change m.nextStream % 2 = _ at hid
      rw [hparity] at hid
      cases hp : m.perspective <;> rw [hp] at hid <;> cases hid
    · exact hmem

/-- No ID of the peer is between the highest stream and the next one. -/
theorem Numbered.le_highest (h : m.Numbered) (hid : id % 2 = m.perspective.peerParity)
    (hlt : id < m.nextPeerStream) : id ≤ m.highestStreamOpenedByPeer := by
  have hparity := h.nextPeerStream_parity
  by_cases hfirst : m.highestStreamOpenedByPeer = 0 ∧ m.perspective = .server
  · rw [nextPeerStream, if_pos hfirst] at hlt hparity
    omega
  · rw [nextPeerStream, if_neg hfirst] at hlt hparity
    omega

section
variable (h : m.Accepts)
include h

/-- Opening the next stream of the peer. -/
theorem Accepts.openRemoteStream (hid : m.nextPeerStream < 2 ^ 32)
    (hok : m.openRemoteStream params m.nextPeerStream = .ok m') :
    m'.Accepts ∧ m'.perspective = m.perspective ∧
      m'.nextStreamToAccept = m.nextStreamToAccept := by
  obtain ⟨hnum, hpers, hhigh⟩ := h.numbered.openRemoteStream hok hid
  obtain ⟨-, -, hcursors, hstreams, -⟩ := openRemoteStream_ok hok
  simp only [cursors, Prod.mk.injEq] at hcursors
  have haccept := hcursors.2.2.2.1
  have hpos : m.nextPeerStream ≠ 0 := by
    rw [nextPeerStream]
    split <;> omega
  have hgt : m.highestStreamOpenedByPeer < m.nextPeerStream := by
    rw [nextPeerStream]
    split <;> omega
  have hnext : m'.nextPeerStream = m.nextPeerStream + 2 := by
    rw [nextPeerStream, hhigh, if_neg (fun h0 => hpos h0.1)]
  have hmem (id : Nat) : id ∈ m'.streams ↔ id = m.nextPeerStream ∨ id ∈ m.streams := by
    rw [hstreams, mem_putStream]
    rfl
  have hle := h.le_next
  refine ⟨⟨hnum, by rw [haccept, hpers]; exact h.parity, by rw [haccept]; exact h.pos, by omega,
    fun id hid hfrom hto => ?_, fun id hin hid => ?_⟩, hpers, haccept⟩
  · rw [hpers] at hid
    rw [haccept] at hfrom
    rw [hhigh] at hto
    rw [hmem]
    by_cases hnew : id = m.nextPeerStream
    · exact Or.inl hnew
    · exact Or.inr (h.waiting id hid hfrom (h.numbered.le_highest hid (lt_of_le_of_ne hto hnew)))
  · rw [hpers] at hid
    rw [hhigh]
    rcases (hmem id).mp hin with rfl | hin
    · exact le_rfl
    · exact (h.opened id hin hid).trans hgt.le

theorem Accepts.getOrOpenStream (params : ConnectionParameters) (id : Nat) :
    (m.getOrOpenStream params id).1.Accepts ∧
      (m.getOrOpenStream params id).1.perspective = m.perspective ∧
      (m.getOrOpenStream params id).1.nextStreamToAccept = m.nextStreamToAccept := by
  refine (getOrOpenStream_rule (P := fun m' _ => m'.Accepts ∧ m'.perspective = m.perspective ∧
    m'.nextStreamToAccept = m.nextStreamToAccept) ?_ ⟨h, rfl, rfl⟩ h.numbered).1
  rintro m₁ m₂ - ⟨h₁, hpers, haccept⟩ - hlt hok
  obtain ⟨h₂, hpers₂, haccept₂⟩ := h₁.openRemoteStream hlt hok
  exact ⟨h₂, hpers₂.trans hpers, haccept₂.trans haccept⟩

/-- A stream is removed that has been accepted, or is one's own. -/
theorem Accepts.removeStream (hid : id % 2 = m.perspective.peerParity → id < m.nextStreamToAccept) :
    (m.removeStream id).Accepts := by
  have hcursors := m.removeStream_counters id
  have hstreams := streams_removeStream m id
  simp only [cursors, Prod.mk.injEq] at hcursors
  obtain ⟨hpers, hnext, hhigh, haccept, -⟩ := hcursors
  obtain ⟨⟨hown, hhighest, hlt⟩, hparity, hpos, hle, hwaiting, hopened⟩ := h
  refine ⟨⟨by rwa [hnext, hpers], by rwa [hhigh, hpers], by rwa [hhigh]⟩, by rwa [haccept, hpers],
    by rwa [haccept], by rwa [haccept, nextPeerStream_congr hpers hhigh], ?_, ?_⟩
  · intro id' hid' hfrom hto
    rw [hpers] at hid'
    rw [haccept] at hfrom
    rw [hhigh] at hto
    rw [hstreams, mem_erase]
    refine ⟨?_, hwaiting id' hid' hfrom hto⟩
    rintro rfl
    exact absurd (hid hid') (not_lt.mpr hfrom)
  · intro id' hmem hid'
    rw [hpers] at hid'
    rw [hhigh]
    rw [hstreams, mem_erase] at hmem
    exact hopened id' hmem.2 hid'

theorem Accepts.acceptStream_ready (hle : m.nextStreamToAccept ≤ m.highestStreamOpenedByPeer) :
    m.acceptStream.2 = some m.nextStreamToAccept := by
  have hmem := h.waiting _ h.parity le_rfl hle
  obtain ⟨str, hstr⟩ := Option.isSome_iff_exists.mp (lookup_isSome.mpr hmem)
  rw [acceptStream, hstr]

/-- `AcceptStream` waits, or hands out the next stream. -/
theorem Accepts.acceptStream (hlt : m.nextStreamToAccept + 2 < 2 ^ 32) :
    (m.acceptStream = (m, none) ∧ m.highestStreamOpenedByPeer < m.nextStreamToAccept) ∨
      (m.acceptStream.1.Accepts ∧ m.acceptStream.1.perspective = m.perspective ∧
        m.acceptStream.1.nextStreamToAccept = m.nextStreamToAccept + 2 ∧
        m.acceptStream.2 = some m.nextStreamToAccept) := by
  rw [StreamsMap.acceptStream]
  split
  · next hnone =>
    refine Or.inl ⟨rfl, not_le.mp fun hle => ?_⟩
    exact absurd (h.waiting _ h.parity le_rfl hle) (lookup_eq_none.mp hnone)
  · next str hstr =>
    have hmem : m.nextStreamToAccept ∈ m.streams := lookup_isSome.mp (by rw [hstr]; rfl)
    have hopened := h.opened _ hmem h.parity
    have hnext : m.nextPeerStream = m.highestStreamOpenedByPeer + 2 := by
      have hpos := h.pos
      rw [nextPeerStream, if_neg (by omega)]
    have hle : m.nextStreamToAccept + 2 ≤ m.nextPeerStream := by omega
    rw [Nat.mod_eq_of_lt hlt]
    refine Or.inr ⟨⟨⟨h.numbered.nextStream, h.numbered.highest, h.numbered.highest_lt⟩,
      (Nat.add_mod_right _ 2).trans h.parity, Nat.succ_pos _, hle, ?_, h.opened⟩, rfl, rfl, rfl⟩
    intro id hid hfrom hto
    exact h.waiting id hid ((Nat.le_add_right _ 2).trans hfrom) hto

end

/-- The streams map goes on, and the cursor of `AcceptStream` stays where it is. -/
structure StillAccepts (m m' : StreamsMap) : Prop where
  accepts : m'.Accepts
  perspective : m'.perspective = m.perspective
  accept : m'.nextStreamToAccept = m.nextStreamToAccept

theorem Accepts.still (h : m.Accepts) (hm : m.SamePeerStreams m') : m.StillAccepts m' :=
  ⟨h.congr hm, hm.perspective, hm.accept⟩

end StreamsMap

/-! ## Sessions -/

open StreamsMap in
/-- Only `AcceptStream` moves its cursor; a stream that is removed has to be behind the cursor. -/
theorem FramerChange.stillAccepts {κ : Type} {a : Act κ} {f f' : StreamFramer}
    (h : FramerChange f a f') (hf : f.streamsMap.Accepts) (haccept : a ≠ .acceptStream)
    (hremove : ∀ id, a = .removeStream id → id % 2 = f.streamsMap.perspective.peerParity →
      id < f.streamsMap.nextStreamToAccept) : f.streamsMap.StillAccepts f'.streamsMap := by
  have hrefl : f.streamsMap.SamePeerStreams f.streamsMap :=
    ⟨hf.numbered, rfl, rfl, rfl, fun _ _ => Iff.rfl⟩
  have hopen (id : Nat) : f.streamsMap.StillAccepts (f.getOrOpenStream id).1.streamsMap := by
    obtain ⟨hm, hpers, hnext⟩ := hf.getOrOpenStream f.connectionParameters id
    rw [StreamFramer.streamsMap_getOrOpenStream]
    exact ⟨hm, hpers, hnext⟩
  cases h with
  | sends h => exact hf.still (h.streams.toSameStreams.samePeerStreams hf.numbered)
  | sendsCrypto h =>
    have hcrypto := hopen 1
    have hsent := hcrypto.accepts.still
      (h.streams.toSameStreams.samePeerStreams hcrypto.accepts.numbered)
    exact ⟨hsent.accepts, hsent.perspective.trans hcrypto.perspective,
      hsent.accept.trans hcrypto.accept⟩
  | setParameters => exact hf.still hrefl
  | flowControl => exact hf.still hrefl
  | getOrOpenStream id => exact hopen id
  | openStream =>
    rw [StreamFramer.streamsMap_openStream]
    exact hf.still (hf.numbered.openStream_samePeerStreams _)
  | acceptStream => exact absurd rfl haccept
  | stream op hstr =>
    have hsame : f.streamsMap.SameStreams f.streamsMap := ⟨rfl, .refl _⟩
    exact hf.still ((hsame.insert hstr _).samePeerStreams hf.numbered)
  | @removeStream id str hstr hfinished =>
    have hcursors := f.streamsMap.removeStream_counters id
    simp only [cursors, Prod.mk.injEq] at hcursors
    exact ⟨hf.removeStream (hremove id rfl), hcursors.1, hcursors.2.2.2.1⟩

/-! ## Runs -/

/-- A connection, the streams that `AcceptStream` has returned to the application, and the ID
of the first one it can return. -/
structure Acceptor (κ : Type) where
  connection : Connection κ
  first : Nat
  accepted : List Nat

namespace Acceptor
variable {κ : Type} [SendAlgorithm κ]

/-- The streams map. -/
def streamsMap (a : Acceptor κ) : StreamsMap := a.connection.session.streamsMap

/-- An event, with the stream it returns to the application. -/
def apply (a : Acceptor κ) (e : Event κ) : Acceptor κ :=
  { a with
    connection := a.connection.apply e
    accepted := match e with
      | .acceptStream => a.accepted ++ a.streamsMap.acceptStream.2.toList
      | _ => a.accepted }

/-- The connections of this implementation. -/
def machine (κ : Type) [SendAlgorithm κ] : Machine (Acceptor κ) (Event κ) where
  init a := a.connection.Initial ∧ a.first = a.streamsMap.nextStreamToAccept ∧ a.accepted = []
  step a e a' := a.connection.Enabled e ∧ a' = a.apply e

/-- No stream is collected that has not been accepted, and the cursor of `AcceptStream` has not
come to the end of the IDs. -/
def AcceptsFirst (a : Acceptor κ) : Event κ → Prop
  | .garbageCollect => ∀ id str, a.streamsMap.streams.lookup id = some str → str.finished = true →
      id % 2 = a.streamsMap.perspective.peerParity → id < a.streamsMap.nextStreamToAccept
  | .acceptStream => a.streamsMap.nextStreamToAccept + 2 < 2 ^ 32
  | _ => True

/-- The streams of the peer are accepted in order: a stream that the peer has opened is returned
at once, and the streams returned so far are those below the cursor, which are all the peer has
opened when `AcceptStream` has to wait. -/
structure InOrder (a : Acceptor κ) : Prop where
  ready : a.streamsMap.nextStreamToAccept ≤ a.streamsMap.highestStreamOpenedByPeer →
    a.streamsMap.nextStreamToAccept ∈ a.streamsMap.streams ∧
      a.streamsMap.acceptStream.2 = some a.streamsMap.nextStreamToAccept
  increasing : a.accepted.Pairwise (· < ·)
  accepted : ∀ id, id ∈ a.accepted ↔ id % 2 = a.streamsMap.perspective.peerParity ∧
    a.first ≤ id ∧ id < a.streamsMap.nextStreamToAccept
  opened : ∀ id ∈ a.accepted, id ≤ a.streamsMap.highestStreamOpenedByPeer
  all : a.streamsMap.acceptStream.2 = none → ∀ id, id % 2 = a.streamsMap.perspective.peerParity →
    a.first ≤ id → id ≤ a.streamsMap.highestStreamOpenedByPeer → id ∈ a.accepted

/-- The invariant: the streams returned are `first`, `first + 2`, up to the cursor. -/
structure Good (a : Acceptor κ) : Prop where
  wellKeyed : a.connection.session.WellKeyed
  accepts : a.streamsMap.Accepts
  first : a.streamsMap.nextStreamToAccept = a.first + 2 * a.accepted.length
  accepted : a.accepted = (range a.accepted.length).map (a.first + 2 * ·)

variable {a : Acceptor κ} {e : Event κ}

omit [SendAlgorithm κ] in
theorem Good.mem_accepted (h : a.Good) (id : Nat) :
    id ∈ a.accepted ↔ id % 2 = a.streamsMap.perspective.peerParity ∧ a.first ≤ id ∧
      id < a.streamsMap.nextStreamToAccept := by
  have hparity := h.accepts.parity
  have hfirst := h.first
  rw [h.accepted, mem_map]
  constructor
  · rintro ⟨i, hi, rfl⟩
    rw [mem_range] at hi
    omega
  · rintro ⟨hid, hle, hlt⟩
    refine ⟨(id - a.first) / 2, mem_range.mpr ?_, ?_⟩ <;> omega

omit [SendAlgorithm κ] in
theorem Good.inOrder (h : a.Good) : a.InOrder := by
  have hle := h.accepts.le_next
  refine ⟨fun hready => ⟨h.accepts.waiting _ h.accepts.parity le_rfl hready,
    h.accepts.acceptStream_ready hready⟩, ?_, h.mem_accepted, ?_, ?_⟩
  · rw [h.accepted, pairwise_map]
    exact pairwise_lt_range.imp fun hlt => by omega
  · intro id hid
    obtain ⟨hparity, -, hlt⟩ := (h.mem_accepted id).mp hid
    exact h.accepts.numbered.le_highest hparity (hlt.trans_le hle)
  · intro hwait id hparity hfirst hhigh
    refine (h.mem_accepted id).mpr ⟨hparity, hfirst, not_le.mp fun hnext => ?_⟩
    rw [h.accepts.acceptStream_ready (hnext.trans hhigh)] at hwait
    cases hwait

theorem newFramer_accepts (pers : Perspective) (params : ConnectionParameters) :
    (Session.newFramer pers params).streamsMap.Accepts := by
  have hnew := StreamsMap.accepts_new pers
  cases pers with
  | client =>
    rw [Session.newFramer, StreamFramer.streamsMap_openStream]
    exact (hnew.still (hnew.numbered.openStream_samePeerStreams params)).accepts
  | server =>
    rw [Session.newFramer]
    dsimp only
    rw [StreamFramer.streamsMap_getOrOpenStream]
    obtain ⟨hopened, -, hnext⟩ := hnew.getOrOpenStream params 1
    rcases hopened.acceptStream (by rw [hnext]; decide) with ⟨hwait, -⟩ | ⟨haccepted, -⟩
    · rw [hwait]
      exact hopened
    · exact haccepted

theorem good_init (h : (machine κ).init a) : a.Good := by
  obtain ⟨connection, first, accepted⟩ := a
  obtain ⟨hinitial, hfirst, haccepted⟩ := h
  dsimp only at hinitial hfirst haccepted
  subst haccepted
  refine ⟨hinitial.wellKeyed, ?_, hfirst.symm, rfl⟩
  cases hinitial with
  | new => exact newFramer_accepts ..

/-- The events other than `acceptStream` leave the cursor where it is. -/
theorem Good.stillAccepts (h : a.Good) (hcond : a.AcceptsFirst e)
    (henabled : a.connection.Enabled e) (hother : e ≠ .acceptStream) :
    a.streamsMap.StillAccepts (a.connection.apply e).session.streamsMap := by
  refine (a.connection.apply_reaches h.wellKeyed henabled).keeps
    (P := fun s => a.streamsMap.StillAccepts s.streamsMap) ?_ ⟨h.accepts, rfl, rfl⟩
  intro s act s' _ hs hacts hdoes
  have hstill := hdoes.framer.stillAccepts hs.accepts ?_ ?_
  · exact ⟨hstill.accepts, hstill.perspective.trans hs.perspective,
      hstill.accept.trans hs.accept⟩
  · rintro rfl
    exact hother hacts.eq_acceptStream
  · rintro id rfl hparity
    obtain ⟨rfl, str, hstr, hfinished⟩ := hacts.eq_garbageCollect
    have hpers : s.streamFramer.streamsMap.perspective = a.streamsMap.perspective := hs.perspective
    have hnext : s.streamFramer.streamsMap.nextStreamToAccept = a.streamsMap.nextStreamToAccept :=
      hs.accept
    rw [hpers] at hparity
    rw [hnext]
    exact hcond id str hstr hfinished hparity

/-- `AcceptStream` returns the stream at the cursor, and no other event moves the cursor. -/
theorem Good.step {a a' : Acceptor κ} (h : a.Good) (hcond : a.AcceptsFirst e)
    (hstep : (machine κ).step a e a') : a'.Good := by
  obtain ⟨henabled, rfl⟩ := hstep
  have hkeyed := (a.connection.apply_reaches h.wellKeyed henabled).wellKeyed
  by_cases he : e = .acceptStream
  · subst he
    rcases h.accepts.acceptStream hcond with ⟨hwait, -⟩ | ⟨haccepts, -, hnext, hid⟩
    · have hmap : (a.apply .acceptStream).streamsMap = a.streamsMap := congrArg Prod.fst hwait
      have hlist : (a.apply .acceptStream).accepted = a.accepted := by
        change a.accepted ++ a.streamsMap.acceptStream.2.toList = a.accepted
        rw [hwait]
        exact append_nil _
      refine ⟨hkeyed, by rw [hmap]; exact h.accepts, ?_, ?_⟩
      · rw [hmap, hlist]
        exact h.first
      · rw [hlist]
        exact h.accepted
    · have hlist : (a.apply .acceptStream).accepted =
          a.accepted ++ [a.streamsMap.nextStreamToAccept] := by
        change a.accepted ++ a.streamsMap.acceptStream.2.toList = _
        rw [hid]
        rfl
      have hcursor : (a.apply .acceptStream).streamsMap.nextStreamToAccept =
          a.streamsMap.nextStreamToAccept + 2 := hnext
      refine ⟨hkeyed, haccepts, ?_, ?_⟩
      · rw [hcursor, hlist, length_append, h.first]
        rfl
      · rw [hlist, length_append, length_singleton, range_succ, map_append,
          map_singleton]
        exact congrArg₂ (· ++ ·) h.accepted (congrArg (fun n => [n]) h.first)
  · have hstill := h.stillAccepts hcond henabled he
    have hlist : (a.apply e).accepted = a.accepted := by
      cases e <;> first | rfl | exact absurd rfl he
    refine ⟨hkeyed, hstill.accepts, ?_, ?_⟩
    · rw [hlist]
      exact hstill.accept.trans h.first
    · rw [hlist]
      exact h.accepted

/-- **The streams of the peer are accepted in order**, as long as none is collected before. -/
theorem streams_accepted_in_order {a : Acceptor κ} (h : (machine κ).Reach AcceptsFirst a) :
    a.InOrder := by
  have hgood : a.Good :=
    h.invariant (P := Good) (fun _ h => good_init h) fun _ _ _ h hc hs => h.step hc hs
  exact hgood.inOrder

/-! ## A server whose client opens stream 3 and resets it -/

/-- The server. -/
def server : Acceptor FixedWindow := ⟨⟨.sample .server, none, none, false⟩, 3, []⟩

/-- A packet with a RST_STREAM frame for stream 3. -/
def resetPacket : ReceivedPacket where
  pathID := initialPathID
  packetNumber := 1
  packetNumberLen := 1
  localAddr := Session.sampleAddr 1 443
  remoteAddr := Session.sampleAddr 2 443
  rcvTime := 1
  opened := some ([0x01, 0, 0, 0, 3, 0, 0, 0, 0, 0, 0, 0, 0, 0, 0, 0, 0], .forwardSecure)

/-- The packet is received. -/
def receiveReset : Event FixedWindow := .receive resetPacket { now := 1 }

theorem reach_server (C : Acceptor FixedWindow → Event FixedWindow → Prop)
    (hC : C server receiveReset) : (machine FixedWindow).Reach C (server.apply receiveReset) := by
  have hinit : (machine FixedWindow).Reach C server :=
    .init ⟨Connection.initial_sample .server, by decide +kernel, rfl⟩
  refine .step hinit hC ⟨Connection.enabled_of_ready (by decide +kernel) ?_, rfl⟩
  rintro env ⟨⟩
  exact fun _ _ => .refl _

/-- If the application accepts the stream first, it is stream 3. -/
theorem reset_stream_accepted :
    ∃ a : Acceptor FixedWindow, (machine FixedWindow).Reach AcceptsFirst a ∧ a.accepted = [3] ∧
      a.streamsMap.streams.keys = [1] ∧ a.InOrder := by
  have h₁ := reach_server AcceptsFirst trivial
  have h₂ : (machine FixedWindow).Reach AcceptsFirst
      ((server.apply receiveReset).apply .acceptStream) := by
    refine .step h₁ (l := .acceptStream) ?_
      ⟨Connection.enabled_of_ready (by decide +kernel) (fun _ henv => by cases henv), rfl⟩
    rw [AcceptsFirst]
    decide +kernel
  have hkeys : ∀ id ∈ ((server.apply receiveReset).apply .acceptStream).streamsMap.streams.keys,
      id < ((server.apply receiveReset).apply .acceptStream).streamsMap.nextStreamToAccept := by
    decide +kernel
  have h₃ : (machine FixedWindow).Reach AcceptsFirst
      (((server.apply receiveReset).apply .acceptStream).apply .garbageCollect) := by
    refine .step h₂ (l := .garbageCollect) ?_
      ⟨Connection.enabled_of_ready (by decide +kernel) (fun _ henv => by cases henv), rfl⟩
    intro id str hstr _ _
    exact hkeys id (mem_keys.mp (lookup_isSome.mp (by rw [hstr]; rfl)))
  exact ⟨_, h₃, by decide +kernel, by decide +kernel, streams_accepted_in_order h₃⟩

/-- If stream 3 is collected first, the server waits for it forever: `AcceptStream` returns
nothing although the peer has opened the stream, and nothing will put it back. -/
theorem reset_stream_never_accepted :
    ∃ a : Acceptor FixedWindow, (machine FixedWindow).Reach Machine.Always a ∧
      a.connection.Running ∧ a.streamsMap.nextStreamToAccept = 3 ∧
      a.streamsMap.highestStreamOpenedByPeer = 3 ∧ 3 ∉ a.streamsMap.streams ∧
      a.streamsMap.acceptStream.2 = none := by
  have h₁ := reach_server Machine.Always trivial
  have h₂ : (machine FixedWindow).Reach Machine.Always
      ((server.apply receiveReset).apply .garbageCollect) :=
    .step h₁ (l := .garbageCollect) trivial
      ⟨Connection.enabled_of_ready (by decide +kernel) (fun _ henv => by cases henv), rfl⟩
  exact ⟨_, h₂, ⟨by decide +kernel, by decide +kernel⟩, by decide +kernel, by decide +kernel,
    by decide +kernel, by decide +kernel⟩

end Acceptor
end MpQuic
