import MpQuic.ConnectionParametersManager
import MpQuic.StreamTable

/-!
# The limits on open streams

`openRemoteStream` compares the incoming counter and `openStream` the outgoing one
with their limits, and `RemoveStream` decrements them by the parity of the ID: odd
IDs are incoming, even ones outgoing.  That is right on the server.  On the client
the streams of the peer are the even ones: opening one raises the outgoing counter,
which the check does not read.  So the limits hold on the server and not on the
client.
-/
namespace MpQuic
open Systems AList

namespace StreamsMap
variable {m m' : StreamsMap} {params : ConnectionParameters}

/-! ## Counting streams -/

/-- The number of open streams whose ID has the given parity. -/
def openWith (m : StreamsMap) (parity : Nat) : Nat := m.streams.keys.countP (· % 2 == parity)

/-- The open streams the peer initiated. -/
def peerStreams (m : StreamsMap) : Nat := m.openWith m.perspective.peerParity

/-- The open streams initiated locally. -/
def ownStreams (m : StreamsMap) : Nat := m.openWith m.perspective.parity

theorem openWith_putStream_le (m : StreamsMap) (s : Stream) (parity : Nat) :
    (m.putStream s).openWith parity ≤
      m.openWith parity + if s.streamID % 2 = parity then 1 else 0 := by
  unfold putStream
  split
  · exact Nat.le_add_right ..
  · next hnone =>
    have hkeys : s.streamID ∉ m.streams.keys := fun hmem =>
      lookup_eq_none.mp hnone (mem_keys.mpr hmem)
    simp only [openWith, keys_insert, List.erase_of_not_mem hkeys, List.countP_cons,
      beq_iff_eq, le_refl]

variable {id : Nat}

theorem openWith_removeStream (hid : id ∈ m.streams) (parity : Nat) :
    (m.removeStream id).openWith parity + (if id % 2 = parity then 1 else 0) =
      m.openWith parity := by
  have hmem : id ∈ m.streams.keys := mem_keys.mp hid
  rw [openWith, openWith, streams_removeStream, keys_erase, (List.perm_cons_erase hmem).countP_eq,
    List.countP_cons]
  simp only [beq_iff_eq]

theorem removeStream_counters (m : StreamsMap) (id : Nat) :
    (m.removeStream id).cursors = (m.perspective, m.nextStream, m.highestStreamOpenedByPeer,
      m.nextStreamToAccept,
      (if id % 2 = 0 then decrement m.numOutgoingStreams else m.numOutgoingStreams),
      if id % 2 = 0 then m.numIncomingStreams else decrement m.numIncomingStreams) := by
  unfold removeStream
  dsimp only
  split_ifs <;> split <;> rfl

/-- The same streams are open, and all counters are the same. -/
structure SameStreams (m m' : StreamsMap) : Prop where
  cursors : m'.cursors = m.cursors
  keys : m'.streams.keys.Perm m.streams.keys

theorem SameStreams.openWith (h : m.SameStreams m') (parity : Nat) :
    m'.openWith parity = m.openWith parity :=
  h.keys.countP_eq _

/-- A stream changes in place. -/
theorem SameStreams.insert (h : m.SameStreams m') {str : Stream}
    (hid : m'.streams.lookup id = some str) (str' : Stream) :
    m.SameStreams { m' with streams := m'.streams.insert id str' } := by
  have hmem : id ∈ m'.streams.keys :=
    mem_keys.mp (lookup_isSome.mp (by rw [hid]; rfl))
  refine ⟨h.cursors, ?_⟩
  rw [keys_insert]
  exact (List.perm_cons_erase hmem).symm.trans h.keys

theorem sameStreams_roundRobinIterate {β : Type} {fn : Stream → β → Stream × β × Bool} {b b' : β}
    (h : m.roundRobinIterate fn b = .ok (m', b')) : m.SameStreams m' :=
  roundRobinIterate_rule (P := fun m' _ => m.SameStreams m')
    (fun _ _ _ _ hm hstr => hm.insert hstr _) (fun _ _ _ _ hm => ⟨hm.cursors, hm.keys⟩)
    ⟨rfl, .refl _⟩ h

/-! ## The server's counters -/

/-- On the server the counters bound the numbers of open streams, and the limits bound the
counters. -/
structure Limited (m : StreamsMap) (params : ConnectionParameters) : Prop where
  numbered : m.Numbered
  perspective : m.perspective = .server
  incoming : m.openWith 1 ≤ m.numIncomingStreams
  outgoing : m.openWith 0 ≤ m.numOutgoingStreams
  incoming_le : m.numIncomingStreams ≤ params.maxIncomingStreams
  outgoing_le : m.numOutgoingStreams ≤ params.maxOutgoingStreams

theorem limited_new (params : ConnectionParameters) : (new .server).Limited params :=
  ⟨⟨rfl, Or.inl rfl, Nat.two_pow_pos 32⟩, rfl, le_rfl, le_rfl, Nat.zero_le _, Nat.zero_le _⟩

section
variable (h : m.Limited params)
include h

theorem Limited.peerStreams_le : m.peerStreams ≤ params.maxIncomingStreams := by
  rw [peerStreams, h.perspective]
  exact h.incoming.trans h.incoming_le

theorem Limited.ownStreams_le : m.ownStreams ≤ params.maxOutgoingStreams := by
  rw [ownStreams, h.perspective]
  exact h.outgoing.trans h.outgoing_le

theorem Limited.sameStreams (hm : m.SameStreams m') : m'.Limited params := by
  have hnum := h.numbered.of_cursors hm.cursors
  have hcursors := hm.cursors
  simp only [cursors, Prod.mk.injEq] at hcursors
  obtain ⟨hpers, -, -, -, hout, hin⟩ := hcursors
  refine ⟨hnum, hpers.trans h.perspective, ?_, ?_, ?_, ?_⟩
  · rw [hm.openWith, hin]
    exact h.incoming
  · rw [hm.openWith, hout]
    exact h.outgoing
  · rw [hin]
    exact h.incoming_le
  · rw [hout]
    exact h.outgoing_le

/-- A stream of the client is opened, as the incoming counter says. -/
theorem Limited.openRemoteStream (hparams : params.maxIncomingStreams < 2 ^ 32)
    (hsid : m.nextPeerStream < 2 ^ 32) (hok : m.openRemoteStream params m.nextPeerStream = .ok m') :
    m'.Limited params := by
  obtain ⟨hnum, hpers, -⟩ := h.numbered.openRemoteStream hok hsid
  have hparity := h.numbered.nextPeerStream_parity
  obtain ⟨hlimit, -, hcursors, hstreams, -⟩ := openRemoteStream_ok hok
  have hodd := m.openWith_putStream_le (.new m.nextPeerStream) 1
  have heven := m.openWith_putStream_le (.new m.nextPeerStream) 0
  have hopen : ∀ parity, m'.openWith parity =
      (m.putStream (.new m.nextPeerStream)).openWith parity := by
    intro parity
    rw [openWith, openWith, hstreams]
  simp only [cursors, Prod.mk.injEq, h.perspective] at hcursors
  obtain ⟨-, -, -, -, hout, hin⟩ := hcursors
  rw [h.perspective] at hparity
  simp only [Perspective.peerParity] at hparity
  simp only [Stream.new, hparity, if_true] at hodd heven
  have hi := h.incoming
  have ho := h.outgoing
  refine ⟨hnum, hpers.trans h.perspective, ?_, ?_, ?_, ?_⟩
  · rw [hopen, hin]
    exact hodd.trans (by omega)
  · rw [hopen, hout]
    exact heven.trans ho
  · rw [hin, Nat.mod_eq_of_lt (by omega)]
    exact hlimit
  · rw [hout]
    exact h.outgoing_le

theorem Limited.getOrOpenStream (hparams : params.maxIncomingStreams < 2 ^ 32) (id : Nat) :
    (m.getOrOpenStream params id).1.Limited params :=
  (getOrOpenStream_rule (P := fun m _ => m.Limited params)
    (fun _ _ _ hm _ hlt hok => hm.openRemoteStream hparams hlt hok) h h.numbered).1

/-- A stream of the server is opened, as the outgoing counter says. -/
theorem Limited.openStream (hparams : params.maxOutgoingStreams < 2 ^ 32) :
    (m.openStream params).1.Limited params := by
  rcases m.openStream_cases params with he | ⟨hlimit, hcursors, hstreams, -⟩
  · rwa [he]
  · generalize (m.openStream params).1 = m' at hcursors hstreams
    have hodd := m.openWith_putStream_le (.new m.nextStream) 1
    have heven := m.openWith_putStream_le (.new m.nextStream) 0
    have hopen : ∀ parity, m'.openWith parity =
        (m.putStream (.new m.nextStream)).openWith parity := by
      intro parity
      rw [openWith, openWith, hstreams]
    have hnext := h.numbered.nextStream
    rw [h.perspective] at hnext
    simp only [Perspective.parity] at hnext
    simp only [Stream.new, hnext, if_true] at hodd heven
    simp only [cursors, Prod.mk.injEq, h.perspective] at hcursors
    obtain ⟨hpers, hown, hhigh, -, hout, hin⟩ := hcursors
    have hi := h.incoming
    have ho := h.outgoing
    have hhighest := h.numbered.highest
    rw [h.perspective] at hhighest
    refine ⟨⟨?_, ?_, ?_⟩, hpers, ?_, ?_, ?_, ?_⟩
    · rw [hpers]
      simp only [Perspective.parity]
      omega
    · rwa [hhigh, hpers]
    · rw [hhigh]
      exact h.numbered.highest_lt
    · rw [hopen, hin]
      exact hodd.trans hi
    · rw [hopen, hout]
      exact heven.trans (by omega)
    · rw [hin]
      exact h.incoming_le
    · rw [hout, Nat.mod_eq_of_lt (by omega)]
      exact hlimit

/-- Removing an open stream keeps the counters above the numbers of streams left. -/
theorem Limited.removeStream {id : Nat} (hid : id ∈ m.streams) :
    (m.removeStream id).Limited params := by
  have hodd := openWith_removeStream hid 1
  have heven := openWith_removeStream hid 0
  have hcursors := m.removeStream_counters id
  simp only [cursors, Prod.mk.injEq] at hcursors
  obtain ⟨hpers, hown, hhigh, -, hout, hin⟩ := hcursors
  obtain ⟨⟨hnext, hhighest, hlt⟩, hserver, hi, ho, hile, hole⟩ := h
  refine ⟨⟨by rwa [hown, hpers], by rwa [hhigh, hpers], by rwa [hhigh]⟩,
    hpers.trans hserver, ?_, ?_,
    ?_, ?_⟩
  all_goals
    unfold decrement at hout hin
    split_ifs at hodd heven hout hin <;> omega

/-- A new set of parameters, whose limits are not below the counters. -/
theorem Limited.of_limits {params' : ConnectionParameters}
    (hin : params.maxIncomingStreams ≤ params'.maxIncomingStreams)
    (hout : m.numOutgoingStreams ≤ params'.maxOutgoingStreams) : m.Limited params' :=
  { h with incoming_le := h.incoming_le.trans hin, outgoing_le := hout }

theorem Limited.acceptStream : m.acceptStream.1.Limited params := by
  unfold StreamsMap.acceptStream
  split
  · exact h
  · exact ⟨⟨h.numbered.nextStream, h.numbered.highest, h.numbered.highest_lt⟩, h.perspective,
      h.incoming, h.outgoing, h.incoming_le, h.outgoing_le⟩

end

end StreamsMap

/-! ## Runs -/

/-- A streams map and the negotiated parameters it reads. -/
structure StreamTable where
  map : StreamsMap
  manager : ConnectionParametersManager

namespace StreamTable

/-- What happens to a streams map.  `changeStream` stands for the calls of the application and
the session on a stream, and `roundRobinIterate` for an iteration with any function. -/
inductive Op
  | getOrOpenStream (id : Nat)
  | openStream
  | acceptStream
  | roundRobinIterate
  | changeStream (id : Nat) (str : Stream)
  | removeStream (id : Nat)
  | setFromMap (params : TagMap)

/-- One operation. -/
def Step (s : StreamTable) : Op → StreamTable → Prop
  | .getOrOpenStream id, s' => id < 2 ^ 32 ∧
      s' = { s with map := (s.map.getOrOpenStream s.manager.parameters id).1 }
  | .openStream, s' => s' = { s with map := (s.map.openStream s.manager.parameters).1 }
  | .acceptStream, s' => s' = { s with map := s.map.acceptStream.1 }
  | .roundRobinIterate, s' => ∃ (β : Type) (fn : Stream → β → Stream × β × Bool) (b b' : β),
      ∃ m', s.map.roundRobinIterate fn b = .ok (m', b') ∧ s' = { s with map := m' }
  | .changeStream id str, s' => id ∈ s.map.streams ∧
      s' = { s with map := { s.map with streams := s.map.streams.insert id str } }
  | .removeStream id, s' => id ∈ s.map.streams ∧ s' = { s with map := s.map.removeStream id }
  | .setFromMap params, s' => s' = { s with manager := (s.manager.setFromMap params).1 }

/-- The streams map of a new session, with any configuration. -/
def machine : Machine StreamTable Op where
  init s := ∃ pers streamWindow connectionWindow idleTimeout,
    s = ⟨.new pers, .new pers streamWindow connectionWindow idleTimeout⟩
  step := Step

/-- The numbers of open streams are within the limits. -/
structure Within (s : StreamTable) : Prop where
  incoming : s.map.peerStreams ≤ s.manager.parameters.maxIncomingStreams
  outgoing : s.map.ownStreams ≤ s.manager.parameters.maxOutgoingStreams

instance (s : StreamTable) : Decidable s.Within :=
  decidable_of_iff (s.map.peerStreams ≤ s.manager.parameters.maxIncomingStreams ∧
    s.map.ownStreams ≤ s.manager.parameters.maxOutgoingStreams)
    ⟨fun h => ⟨h.1, h.2⟩, fun h => ⟨h.1, h.2⟩⟩

/-- The session is a server, and the peer's limit on streams does not arrive after more streams
than it allows have been opened. -/
def OnServer (s : StreamTable) : Op → Prop
  | .setFromMap params => s.map.perspective = .server ∧ ∀ value,
      params.lookup tagMIDS = some value → 4 ≤ value.length →
        s.map.numOutgoingStreams ≤ HandshakeMessage.uint32 value
  | _ => s.map.perspective = .server

variable {s : StreamTable} {op : Op}

theorem OnServer.perspective (h : OnServer s op) : s.map.perspective = .server := by
  cases op with
  | setFromMap => exact h.1
  | _ => exact h

/-- The invariant of a server; of a client nothing is said, which has taken no step. -/
def Good (s : StreamTable) : Prop :=
  (s.map.Limited s.manager.parameters ∨ s.map.perspective = .client ∧ s.Within) ∧
    s.manager.maxIncomingDynamicStreamsPerConnection ≤
      MpQuic.maxIncomingDynamicStreamsPerConnection

theorem Good.within (h : s.Good) : s.Within := by
  rcases h.1 with hl | hc
  · exact ⟨hl.peerStreams_le, hl.ownStreams_le⟩
  · exact hc.2

theorem good_init (h : machine.init s) : s.Good := by
  obtain ⟨pers, streamWindow, connectionWindow, idleTimeout, rfl⟩ := h
  refine ⟨?_, le_rfl⟩
  cases pers with
  | server => exact Or.inl (StreamsMap.limited_new _)
  | client => exact Or.inr ⟨rfl, ⟨Nat.zero_le _, Nat.zero_le _⟩⟩

theorem Good.step {s s' : StreamTable} (h : s.Good) (hcond : OnServer s op) (hstep : Step s op s') :
    s'.Good := by
  obtain ⟨hl | ⟨hclient, -⟩, hmax⟩ := h
  swap
  · rw [hcond.perspective] at hclient
    cases hclient
  have hin : s.manager.parameters.maxIncomingStreams < 2 ^ 32 := by
    change ConnectionParametersManager.getMaxIncomingStreams < 2 ^ 32
    decide
  have hout : s.manager.parameters.maxOutgoingStreams < 2 ^ 32 := hmax.trans_lt (by decide)
  cases op with
  | getOrOpenStream id =>
    obtain ⟨-, rfl⟩ := hstep
    exact ⟨Or.inl (hl.getOrOpenStream hin id), hmax⟩
  | openStream =>
    obtain rfl := hstep
    exact ⟨Or.inl (hl.openStream hout), hmax⟩
  | acceptStream =>
    obtain rfl := hstep
    exact ⟨Or.inl hl.acceptStream, hmax⟩
  | roundRobinIterate =>
    obtain ⟨β, fn, b, b', m', hiter, rfl⟩ := hstep
    exact ⟨Or.inl (hl.sameStreams (StreamsMap.sameStreams_roundRobinIterate hiter)), hmax⟩
  | changeStream id str =>
    obtain ⟨hid, rfl⟩ := hstep
    obtain ⟨old, hold⟩ := Option.isSome_iff_exists.mp (lookup_isSome.mpr hid)
    have hsame : s.map.SameStreams s.map := ⟨rfl, .refl _⟩
    exact ⟨Or.inl (hl.sameStreams (hsame.insert hold str)), hmax⟩
  | removeStream id =>
    obtain ⟨hid, rfl⟩ := hstep
    exact ⟨Or.inl (hl.removeStream hid), hmax⟩
  | setFromMap params =>
    obtain rfl := hstep
    have hole := hl.outgoing_le
    rcases s.manager.setFromMap_maxOutgoing params with hkept | ⟨value, hvalue, hlen, hset⟩
    · refine ⟨Or.inl (hl.of_limits le_rfl ?_), ?_⟩
      · change _ ≤ ConnectionParametersManager.maxIncomingDynamicStreamsPerConnection _
        rw [hkept]
        exact hole
      · rw [hkept]
        exact hmax
    · refine ⟨Or.inl (hl.of_limits le_rfl ?_), ?_⟩
      · change _ ≤ ConnectionParametersManager.maxIncomingDynamicStreamsPerConnection _
        rw [hset]
        exact le_min (hcond.2 value hvalue hlen) (hole.trans hmax)
      · rw [hset]
        exact min_le_right ..

/-- The limits hold in every run of a server.  The loop of `GetOrOpenStream`, which adds a stream
in each iteration, does the same however many iterations beyond `id + 2` it may take: it has
ended by then. -/
theorem stream_limits_hold (s : StreamTable) :
    (machine.Reach OnServer s → s.Within) ∧
      ∀ id < 2 ^ 32, ∀ fuel ≥ id + 2,
        StreamsMap.openUpTo s.manager.parameters id fuel s.map.firstStream s.map [] =
          StreamsMap.openUpTo s.manager.parameters id (id + 2) s.map.firstStream s.map [] := by
  refine ⟨?_, fun _ _ _ hfuel => StreamsMap.openUpTo_ends hfuel⟩
  intro hr
  have hgood : s.Good :=
    hr.invariant (P := Good) (fun _ h => good_init h) fun _ _ _ h hc hs => h.step hc hs
  exact hgood.within

/-- A new session. -/
def new (pers : Perspective) : StreamTable := ⟨.new pers, .new pers 0 0 0⟩

theorem reach_new (C : StreamTable → Op → Prop) (pers : Perspective) : machine.Reach C (new pers) :=
  .init ⟨pers, 0, 0, 0, rfl⟩

/-- A server whose client opens streams 1 to 7, and which opens a stream of its own before it
learns that the client accepts two of them. -/
theorem limits_of_small_server :
    ∃ s : StreamTable, machine.Reach OnServer s ∧ s.map.peerStreams = 4 ∧ s.map.ownStreams = 1 ∧
      s.manager.parameters.maxOutgoingStreams = 2 ∧ s.Within := by
  let s₁ : StreamTable := { new .server with
    map := ((new .server).map.getOrOpenStream (new .server).manager.parameters 7).1 }
  let s₂ : StreamTable := { s₁ with map := (s₁.map.openStream s₁.manager.parameters).1 }
  let s₃ : StreamTable := { s₂ with manager :=
    (s₂.manager.setFromMap ((∅ : TagMap).insert tagMIDS [2, 0, 0, 0])).1 }
  have h₁ : machine.Reach OnServer s₁ :=
    .step (l := .getOrOpenStream 7) (reach_new _ .server) rfl ⟨by decide, rfl⟩
  have h₂ : machine.Reach OnServer s₂ := .step (l := .openStream) h₁ rfl rfl
  have h₃ : machine.Reach OnServer s₃ := by
    refine .step (l := .setFromMap ((∅ : TagMap).insert tagMIDS [2, 0, 0, 0])) h₂ ⟨rfl, ?_⟩ rfl
    intro value hvalue _
    rw [lookup_insert, Option.some.injEq] at hvalue
    subst hvalue
    decide
  exact ⟨s₃, h₃, by decide, by decide, by decide, (stream_limits_hold s₃).1 h₃⟩

/-- A client lets the server open 111 streams: the counter it compares with the limit counts its
own streams. -/
theorem client_exceeds_limit :
    ∃ s : StreamTable, machine.Reach Machine.Always s ∧
      s.manager.parameters.maxIncomingStreams = 110 ∧ s.map.peerStreams = 111 := by
  let s₁ : StreamTable := { new .client with
    map := ((new .client).map.getOrOpenStream (new .client).manager.parameters 222).1 }
  have h₁ : machine.Reach Machine.Always s₁ :=
    .step (l := .getOrOpenStream 222) (reach_new _ .client) trivial ⟨by decide, rfl⟩
  refine ⟨s₁, h₁, rfl, ?_⟩
  decide +kernel

end StreamTable
end MpQuic
