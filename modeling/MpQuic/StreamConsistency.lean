import MpQuic.StreamLimits
import MpQuic.StreamSizes

/-!
# The parts of the streams map agree

`openStreams` lists the keys of `streams`, the two counters count its odd and its even
keys on both sides, and the round-robin index stays within the list.  That a stream is
never put twice follows from the cursors: the streams opened so far are those below
`nextStream` of one parity and those up to `highestStreamOpenedByPeer` of the other.

`nextStream` is a 32-bit number.  When it wraps around, `OpenStream` hands out IDs again,
and counts a stream that `putStream` does not put.
-/
namespace MpQuic
open Systems List AList StreamsMap

namespace StreamsMap
variable {m m' : StreamsMap} {params : ConnectionParameters} {id : Nat}

/-! ## Counting -/

/-- There are at most half as many numbers of one parity. -/
theorem countP_parity_le {ids : List Nat} (hnodup : ids.Nodup) {n : Nat} (parity : Nat)
    (hlt : ∀ id ∈ ids, id < 2 * n) : ids.countP (· % 2 == parity) ≤ n := by
  have hhalf : ((ids.filter (· % 2 == parity)).map (· / 2)).Nodup := by
    refine (hnodup.filter _).map_on ?_
    intro a ha b hb hab
    have hpa := (mem_filter.mp ha).2
    have hpb := (mem_filter.mp hb).2
    simp only [beq_iff_eq] at hpa hpb
    omega
  have hsub : (ids.filter (· % 2 == parity)).map (· / 2) ⊆ range n := by
    intro x hx
    obtain ⟨id, hid, rfl⟩ := mem_map.mp hx
    have := hlt id (mem_filter.mp hid).1
    exact mem_range.mpr (by omega)
  have hlen := (subperm_of_subset hhalf hsub).length_le
  rwa [length_map, length_range, ← countP_eq_length_filter] at hlen

/-! ## The invariant -/

/-- The parts of the map agree, and `opened` are the streams that have been opened. -/
structure Agrees (m : StreamsMap) (opened : List Nat) : Prop where
  numbered : m.Numbered
  listed : m.Listed
  index : m.roundRobinIndex ≤ m.openStreams.length
  incoming : m.numIncomingStreams = m.openWith 1
  outgoing : m.numOutgoingStreams = m.openWith 0
  once : opened.Nodup
  known : ∀ id ∈ m.streams, id ∈ opened
  own : ∀ id ∈ opened, id % 2 = m.perspective.parity → id < m.nextStream
  peer : ∀ id ∈ opened, id % 2 = m.perspective.peerParity → id ≤ m.highestStreamOpenedByPeer
  lt : ∀ id ∈ opened, id < 2 ^ 32

theorem agrees_new (pers : Perspective) : (new pers).Agrees [] := by
  cases pers <;> exact ⟨⟨rfl, Or.inl rfl, Nat.two_pow_pos 32⟩, List.Perm.refl _, le_rfl, rfl, rfl,
    nodup_nil, nofun, nofun, nofun, nofun⟩

variable {opened : List Nat} {str : Stream} {β : Type}

/-- The numbers of streams are far from 32 bits. -/
theorem openWith_lt (hknown : ∀ id ∈ m.streams, id ∈ opened) (hlt : ∀ id ∈ opened, id < 2 ^ 32)
    (parity : Nat) : m.openWith parity < 2 ^ 32 := by
  have hkeys : ∀ id ∈ m.streams.keys, id < 2 * 2 ^ 31 := fun id hid =>
    hlt id (hknown id (mem_keys.mpr hid))
  exact (countP_parity_le m.streams.keys_nodup parity hkeys).trans_lt (by decide)

/-- A stream that is not in the map is put. -/
theorem openWith_putStream (hnew : str.streamID ∉ m.streams) (parity : Nat) :
    (m.putStream str).openWith parity =
      m.openWith parity + if str.streamID % 2 = parity then 1 else 0 := by
  have hkeys : str.streamID ∉ m.streams.keys := fun h => hnew (mem_keys.mpr h)
  rw [putStream, lookup_eq_none.mpr hnew]
  simp only [openWith, keys_insert, erase_of_not_mem hkeys, countP_cons,
    beq_iff_eq]

theorem listed_putStream (hm : m.Listed) (hnew : str.streamID ∉ m.streams) :
    (m.putStream str).Listed := by
  have hkeys : str.streamID ∉ m.streams.keys := fun h => hnew (mem_keys.mpr h)
  rw [putStream, lookup_eq_none.mpr hnew]
  rw [Listed, keys_insert, erase_of_not_mem hkeys]
  exact (perm_append_singleton _ _).trans (hm.cons _)

/-- A new stream is put into the map.  `m'` has the counters of its side raised. -/
theorem Agrees.put (h : m.Agrees opened) (hid : id < 2 ^ 32) (hnew : id ∉ opened)
    (hnumbered : m'.Numbered) (hpers : m'.perspective = m.perspective)
    (hindex : m'.roundRobinIndex = m.roundRobinIndex)
    (hstreams : m'.streams = (m.putStream (.new id)).streams)
    (hopen : m'.openStreams = (m.putStream (.new id)).openStreams)
    (hin : m'.numIncomingStreams = (m.numIncomingStreams + if id % 2 = 1 then 1 else 0) % 2 ^ 32)
    (hout : m'.numOutgoingStreams = (m.numOutgoingStreams + if id % 2 = 0 then 1 else 0) % 2 ^ 32)
    (hown : ∀ id' ∈ opened ++ [id], id' % 2 = m.perspective.parity → id' < m'.nextStream)
    (hpeer : ∀ id' ∈ opened ++ [id], id' % 2 = m.perspective.peerParity →
      id' ≤ m'.highestStreamOpenedByPeer) : m'.Agrees (opened ++ [id]) := by
  have hmap : (Stream.new id).streamID ∉ m.streams := fun hmem => hnew (h.known _ hmem)
  have hknown : ∀ id' ∈ m'.streams, id' ∈ opened ++ [id] := by
    intro id' hid'
    rw [hstreams, mem_putStream] at hid'
    rcases hid' with rfl | hid'
    · exact mem_append_right _ (mem_singleton_self _)
    · exact mem_append_left _ (h.known id' hid')
  have hlt : ∀ id' ∈ opened ++ [id], id' < 2 ^ 32 := by
    intro id' hid'
    rcases mem_append.mp hid' with hid' | hid'
    · exact h.lt id' hid'
    · rwa [mem_singleton.mp hid']
  have hcount (parity : Nat) :
      m'.openWith parity = m.openWith parity + if id % 2 = parity then 1 else 0 := by
    rw [openWith, hstreams]
    exact openWith_putStream hmap parity
  have hsmall := openWith_lt hknown hlt
  refine ⟨hnumbered, ?_, ?_, ?_, ?_, ?_, hknown, ?_, ?_, hlt⟩
  · rw [Listed, hstreams, hopen]
    exact listed_putStream h.listed hmap
  · rw [hindex, hopen, putStream, lookup_eq_none.mpr hmap, length_append]
    exact h.index.trans (Nat.le_add_right _ _)
  · rw [hin, h.incoming, ← hcount 1]
    exact Nat.mod_eq_of_lt (hsmall 1)
  · rw [hout, h.outgoing, ← hcount 0]
    exact Nat.mod_eq_of_lt (hsmall 0)
  · rw [nodup_append]
    refine ⟨h.once, nodup_singleton _, ?_⟩
    rintro a ha b hb rfl
    rw [mem_singleton.mp hb] at ha
    exact hnew ha
  · rwa [hpers]
  · rwa [hpers]

/-! ## The operations -/

theorem roundRobinIndex_openRemoteStream (hok : m.openRemoteStream params id = .ok m') :
    m'.roundRobinIndex = m.roundRobinIndex := by
  rw [openRemoteStream] at hok
  split at hok
  · cases hok
  split at hok
  · cases hok
  rw [← Except.ok.inj hok, roundRobinIndex_putStream]
  cases m.perspective <;> dsimp only <;> split <;> rfl

theorem parity_ne_peerParity (pers : Perspective) : pers.parity ≠ pers.peerParity := by
  cases pers <;> decide

/-- The counter that is not raised is below its limit as well. -/
theorem Agrees.counters_lt (h : m.Agrees opened) :
    m.numIncomingStreams < 2 ^ 32 ∧ m.numOutgoingStreams < 2 ^ 32 :=
  ⟨h.incoming ▸ openWith_lt h.known h.lt 1, h.outgoing ▸ openWith_lt h.known h.lt 0⟩

theorem Agrees.openRemoteStream (h : m.Agrees opened) (hlt : m.nextPeerStream < 2 ^ 32)
    (hok : m.openRemoteStream params m.nextPeerStream = .ok m') :
    m'.Agrees (opened ++ [m.nextPeerStream]) ∧ m'.perspective = m.perspective := by
  have hparity := h.numbered.nextPeerStream_parity
  obtain ⟨hnumbered, hpers, hhigh⟩ := h.numbered.openRemoteStream hok hlt
  obtain ⟨-, -, hcursors, hstreams, hopen⟩ := openRemoteStream_ok hok
  simp only [cursors, Prod.mk.injEq] at hcursors
  obtain ⟨-, hnext, -, -, hout, hin⟩ := hcursors
  have hgt : m.highestStreamOpenedByPeer < m.nextPeerStream := by
    rw [nextPeerStream]
    split <;> omega
  have hnew : m.nextPeerStream ∉ opened := fun hmem =>
    absurd (h.peer _ hmem hparity) (not_le.mpr hgt)
  refine ⟨h.put hlt hnew hnumbered hpers (roundRobinIndex_openRemoteStream hok) hstreams hopen
    ?_ ?_ ?_ ?_, hpers⟩
  · rw [hin, hparity]
    cases m.perspective with
    | server => rfl
    | client => exact (Nat.mod_eq_of_lt h.counters_lt.1).symm
  · rw [hout, hparity]
    cases m.perspective with
    | server => exact (Nat.mod_eq_of_lt h.counters_lt.2).symm
    | client => rfl
  · intro id hid hown
    rw [hnext]
    rcases mem_append.mp hid with hid | hid
    · exact h.own id hid hown
    · rw [mem_singleton.mp hid, hparity] at hown
      exact absurd hown.symm (parity_ne_peerParity _)
  · intro id hid hpeer
    rw [hhigh]
    rcases mem_append.mp hid with hid | hid
    · exact (h.peer id hid hpeer).trans hgt.le
    · rw [mem_singleton.mp hid]

/-- `GetOrOpenStream` opens the streams it reports. -/
theorem Agrees.getOrOpenStream (h : m.Agrees opened) (params : ConnectionParameters) (id : Nat) :
    (m.getOrOpenStream params id).1.Agrees (opened ++ (m.getOrOpenStream params id).2.1) := by
  refine (getOrOpenStream_rule (P := fun m ids => m.Agrees (opened ++ ids)) ?_ ?_ h.numbered).1
  · intro m m' ids hm _ hlt hok
    rw [← append_assoc]
    exact (hm.openRemoteStream hlt hok).1
  · rwa [append_nil]

/-- `OpenStream` opens the ID it returns, while the next one does not wrap around. -/
theorem Agrees.openStream (h : m.Agrees opened) (params : ConnectionParameters)
    (hnext : m.nextStream + 2 < 2 ^ 32) :
    (m.openStream params).1.Agrees (opened ++ (m.openStream params).2.toOption.toList) := by
  rcases m.openStream_cases params with he | ⟨-, hcursors, hstreams, hopen, hindex, hok⟩
  · rw [he]
    exact (append_nil opened).symm ▸ h
  have hparity := h.numbered.nextStream
  have hnew : m.nextStream ∉ opened := fun hmem => absurd (h.own _ hmem hparity) (lt_irrefl _)
  rw [hok]
  generalize (m.openStream params).1 = m' at hindex hcursors hstreams hopen
  simp only [cursors, Prod.mk.injEq] at hcursors
  obtain ⟨hpers, hown, hhigh, -, hout, hin⟩ := hcursors
  rw [Nat.mod_eq_of_lt hnext] at hown
  have hnumbered : m'.Numbered := by
    refine ⟨?_, ?_, ?_⟩
    · rw [hown, hpers, Nat.add_mod_right]
      exact hparity
    · rw [hhigh, hpers]
      exact h.numbered.highest
    · rw [hhigh]
      exact h.numbered.highest_lt
  refine h.put (by omega) hnew hnumbered hpers hindex hstreams hopen ?_ ?_ ?_ ?_
  · rw [hin, hparity]
    cases m.perspective with
    | server => exact (Nat.mod_eq_of_lt h.counters_lt.1).symm
    | client => rfl
  · rw [hout, hparity]
    cases m.perspective with
    | server => rfl
    | client => exact (Nat.mod_eq_of_lt h.counters_lt.2).symm
  · intro id hid hpar
    rw [hown]
    rcases mem_append.mp hid with hid | hid
    · exact (h.own id hid hpar).trans (by omega)
    · rw [mem_singleton.mp hid]
      omega
  · intro id hid hpar
    rw [hhigh]
    rcases mem_append.mp hid with hid | hid
    · exact h.peer id hid hpar
    · rw [mem_singleton.mp hid, hparity] at hpar
      exact absurd hpar (parity_ne_peerParity _)

theorem Agrees.acceptStream (h : m.Agrees opened) : m.acceptStream.1.Agrees opened := by
  rw [StreamsMap.acceptStream]
  split
  · exact h
  · exact ⟨⟨h.numbered.nextStream, h.numbered.highest, h.numbered.highest_lt⟩, h.listed, h.index,
      h.incoming, h.outgoing, h.once, h.known, h.own, h.peer, h.lt⟩

/-- The list loses the ID, and the index follows a shorter list. -/
theorem Agrees.removed_listed (h : m.Agrees opened) (hid : id ∈ m.streams) :
    (m.removeStream id).Listed ∧
      (m.removeStream id).roundRobinIndex ≤ (m.removeStream id).openStreams.length := by
  have hmem : id ∈ m.openStreams := h.listed.mem_iff.mpr (mem_keys.mp hid)
  have hopen : (m.removeStream id).openStreams = m.openStreams.erase id ∧
      (m.removeStream id).roundRobinIndex =
        if m.openStreams.idxOf id < m.roundRobinIndex then m.roundRobinIndex - 1
        else m.roundRobinIndex := by
    obtain ⟨i, hi⟩ := Option.ne_none_iff_exists'.mp
      (mt idxOf?_eq_none_iff.mp (not_not_intro hmem))
    rw [erase_eq_eraseIdx, idxOf_eq_getD_idxOf?, removeStream]
    by_cases heven : id % 2 = 0 <;>
      simp only [heven, if_true, if_false, hi, Option.getD_some, and_self]
  have hindex := h.index
  have hpos := idxOf_lt_length_of_mem hmem
  rw [Listed, streams_removeStream, hopen.1, hopen.2, keys_erase, length_erase_of_mem hmem]
  refine ⟨h.listed.erase id, ?_⟩
  split <;> omega

/-- `RemoveStream` of an open stream. -/
theorem Agrees.removeStream {opened : List Nat} (h : m.Agrees opened) (hid : id ∈ m.streams) :
    (m.removeStream id).Agrees opened := by
  obtain ⟨hlisted, hindex⟩ := h.removed_listed hid
  have hodd := openWith_removeStream hid 1
  have heven := openWith_removeStream hid 0
  have hcursors := m.removeStream_counters id
  have hmem : ∀ id' ∈ (m.removeStream id).streams, id' ∈ opened := by
    intro id' hid'
    rw [streams_removeStream, mem_erase] at hid'
    exact h.known id' hid'.2
  have hin := h.incoming
  have hout := h.outgoing
  generalize m.removeStream id = m' at hlisted hindex hodd heven hcursors hmem
  simp only [cursors, Prod.mk.injEq, decrement] at hcursors
  obtain ⟨hpers, hown, hhigh, -, hout', hin'⟩ := hcursors
  refine ⟨⟨?_, ?_, ?_⟩, hlisted, hindex, ?_, ?_, h.once, hmem, ?_, ?_, h.lt⟩
  · rw [hown, hpers]
    exact h.numbered.nextStream
  · rw [hhigh, hpers]
    exact h.numbered.highest
  · rw [hhigh]
    exact h.numbered.highest_lt
  · split_ifs at hodd heven hin' <;> omega
  · split_ifs at hodd heven hout' <;> omega
  · rw [hown, hpers]
    exact h.own
  · rw [hhigh, hpers]
    exact h.peer

/-- The same streams are listed, and the index is still within the list. -/
structure SameTable (m m' : StreamsMap) : Prop where
  same : m.SameStreams m'
  openStreams : m'.openStreams = m.openStreams
  index : m'.roundRobinIndex ≤ m'.openStreams.length

theorem Agrees.sameTable (h : m.Agrees opened) (hm : m.SameTable m') : m'.Agrees opened := by
  have hnum := h.numbered.of_cursors hm.same.cursors
  have hcursors := hm.same.cursors
  simp only [cursors, Prod.mk.injEq] at hcursors
  obtain ⟨hpers, hnext, hhigh, -, hout, hin⟩ := hcursors
  refine ⟨hnum, ?_, hm.index, ?_, ?_, h.once, ?_, ?_, ?_, h.lt⟩
  · rw [Listed, hm.openStreams]
    exact h.listed.trans hm.same.keys.symm
  · rw [hin, hm.same.openWith, h.incoming]
  · rw [hout, hm.same.openWith, h.outgoing]
  · intro id hid
    exact h.known id (mem_keys.mpr (hm.same.keys.mem_iff.mp (mem_keys.mp hid)))
  · rw [hnext, hpers]
    exact h.own
  · rw [hhigh, hpers]
    exact h.peer

theorem Agrees.roundRobinIterate {fn : Stream → β → Stream × β × Bool} {b b' : β}
    (h : m.Agrees opened) (hiter : m.roundRobinIterate fn b = .ok (m', b')) : m'.Agrees opened := by
  have hsame : m.SameTable m' := by
    refine roundRobinIterate_rule (P := fun m' _ => m.SameTable m') ?_ ?_
      ⟨⟨rfl, .refl _⟩, rfl, h.index⟩ hiter
    · intro m' b id str hm hstr
      exact ⟨hm.same.insert hstr _, hm.openStreams, hm.index⟩
    · intro m' b i hi hm
      refine ⟨⟨hm.same.cursors, hm.same.keys⟩, hm.openStreams, ?_⟩
      rw [← h.listed.length_eq, ← hm.openStreams] at hi
      exact hi.le
  exact h.sameTable hsame

/-- The loop of `Iterate`, whose function may remove the stream it is called for. -/
theorem Agrees.iterateLoop (fn : Stream → β → Option Stream × β × Bool) (ids : List Nat) (b : β)
    (h : m.Agrees opened) : (iterateLoop fn ids m b).1.Agrees opened := by
  induction ids generalizing m b with
  | nil => exact h
  | cons id ids ih =>
    rw [iterateLoop]
    split
    · exact h
    · next str hstr =>
      have hid : id ∈ m.streams := lookup_isSome.mp (by rw [hstr]; rfl)
      generalize fn str b = r
      obtain ⟨_ | str', b', _ | _⟩ := r
      · exact h.removeStream hid
      · exact ih _ (h.removeStream hid)
      · exact h.sameTable ⟨(SameStreams.mk rfl (.refl _)).insert hstr str', rfl, h.index⟩
      · exact ih _ (h.sameTable ⟨(SameStreams.mk rfl (.refl _)).insert hstr str', rfl, h.index⟩)

end StreamsMap

/-! ## Runs -/

/-- A streams map and, in order, the IDs of the streams it has opened. -/
structure OpenedStreams where
  map : StreamsMap
  opened : List Nat

namespace OpenedStreams

/-- The calls on a streams map, each with the connection parameters it reads. -/
inductive Op
  | openStream (params : ConnectionParameters)
  | getOrOpenStream (params : ConnectionParameters) (id : Nat)
  | acceptStream
  | roundRobinIterate
  | iterate
  | removeStream (id : Nat)

/-- One call.  The iterations call any function; `RemoveStream` of a stream that is not open
fails and changes nothing. -/
def Step (s : OpenedStreams) : Op → OpenedStreams → Prop
  | .openStream params, s' =>
      s' = ⟨(s.map.openStream params).1, s.opened ++ (s.map.openStream params).2.toOption.toList⟩
  | .getOrOpenStream params id, s' => id < 2 ^ 32 ∧
      s' = ⟨(s.map.getOrOpenStream params id).1, s.opened ++ (s.map.getOrOpenStream params id).2.1⟩
  | .acceptStream, s' => s' = { s with map := s.map.acceptStream.1 }
  | .roundRobinIterate, s' => ∃ (β : Type) (fn : Stream → β → Stream × β × Bool) (b b' : β),
      ∃ m', s.map.roundRobinIterate fn b = .ok (m', b') ∧ s' = { s with map := m' }
  | .iterate, s' => ∃ (β : Type) (fn : Stream → β → Option Stream × β × Bool) (b : β),
      s' = { s with map := (s.map.iterate fn b).1 }
  | .removeStream id, s' =>
      s' = if id ∈ s.map.streams then { s with map := s.map.removeStream id } else s

/-- The streams map of a client or a server. -/
def machine : Machine OpenedStreams Op where
  init s := ∃ pers, s = ⟨.new pers, []⟩
  step := Step

/-- The parts of the map agree, no ID has been opened twice, and no iteration indexes
`openStreams` out of range. -/
structure Consistent (s : OpenedStreams) : Prop where
  nodup : s.map.openStreams.Nodup
  keys : ∀ id, id ∈ s.map.openStreams ↔ (s.map.streams.lookup id).isSome
  index : s.map.roundRobinIndex ≤ s.map.openStreams.length
  incoming : s.map.numIncomingStreams = s.map.openStreams.countP (· % 2 == 1)
  outgoing : s.map.numOutgoingStreams = s.map.openStreams.countP (· % 2 == 0)
  once : s.opened.Nodup
  inRange : ∀ {β : Type} (fn : Stream → β → Stream × β × Bool) (b : β),
    ∃ r, s.map.roundRobinIterate fn b = .ok r

/-- `OpenStream` does not use up the last ID. -/
def Below (s : OpenedStreams) : Op → Prop
  | .openStream _ => s.map.nextStream + 2 < 2 ^ 32
  | _ => True

variable {s : OpenedStreams} {n : Nat}

theorem consistent_of_agrees (h : s.map.Agrees s.opened) : s.Consistent := by
  refine ⟨?_, ?_, h.index, ?_, ?_, h.once, ?_⟩
  · exact h.listed.nodup_iff.mpr s.map.streams.keys_nodup
  · intro id
    rw [h.listed.mem_iff, AList.lookup_isSome, AList.mem_keys]
  · rw [h.incoming, h.listed.countP_eq, openWith]
  · rw [h.outgoing, h.listed.countP_eq, openWith]
  · intro β fn b
    exact roundRobinIterate_ok fn h.listed b

theorem agrees_step {s s' : OpenedStreams} {op : Op} (h : s.map.Agrees s.opened)
    (hcond : s.Below op) (hstep : s.Step op s') : s'.map.Agrees s'.opened := by
  cases op with
  | openStream params =>
    obtain rfl := hstep
    exact h.openStream params hcond
  | getOrOpenStream params id =>
    obtain ⟨-, rfl⟩ := hstep
    exact h.getOrOpenStream params id
  | acceptStream =>
    obtain rfl := hstep
    exact h.acceptStream
  | roundRobinIterate =>
    obtain ⟨β, fn, b, b', m', hiter, rfl⟩ := hstep
    exact h.roundRobinIterate hiter
  | iterate =>
    obtain ⟨β, fn, b, rfl⟩ := hstep
    exact h.iterateLoop fn _ b
  | removeStream id =>
    obtain rfl := hstep
    split
    · next hid => exact h.removeStream hid
    · exact h

/-- As long as `OpenStream` does not use up the last ID, the streams map is consistent in every
state. -/
theorem streams_map_consistent {s : OpenedStreams} (h : machine.Reach Below s) : s.Consistent := by
  have hagrees : s.map.Agrees s.opened := by
    refine h.invariant (P := fun s => s.map.Agrees s.opened) ?_ fun _ _ _ hs hc hstep =>
      agrees_step hs hc hstep
    rintro _ ⟨pers, rfl⟩
    exact agrees_new pers
  exact consistent_of_agrees hagrees

/-- The limits of a new client. -/
def params : ConnectionParameters := (ConnectionParametersManager.new .client 0 0 0).parameters

/-- A client that opens three streams, whose peer opens two, and that removes its second. -/
theorem small_client_consistent :
    ∃ s : OpenedStreams, machine.Reach Below s ∧ s.map.openStreams = [1, 5, 2, 4] ∧
      s.opened = [1, 3, 5, 2, 4] ∧ s.map.numIncomingStreams = 2 ∧ s.map.numOutgoingStreams = 2 ∧
      s.Consistent := by
  let next (s : OpenedStreams) : OpenedStreams := ⟨(s.map.openStream params).1,
    s.opened ++ (s.map.openStream params).2.toOption.toList⟩
  let s₀ : OpenedStreams := ⟨.new .client, []⟩
  let s₃ := next (next (next s₀))
  let s₄ : OpenedStreams := ⟨(s₃.map.getOrOpenStream params 4).1,
    s₃.opened ++ (s₃.map.getOrOpenStream params 4).2.1⟩
  let s₅ : OpenedStreams := { s₄ with map := s₄.map.removeStream 3 }
  have h₀ : machine.Reach Below s₀ := .init ⟨.client, rfl⟩
  have hnext : ∀ s, machine.Reach Below s → s.map.nextStream + 2 < 2 ^ 32 →
      machine.Reach Below (next s) := fun s hs hlt => .step (l := .openStream params) hs hlt rfl
  have h₃ : machine.Reach Below s₃ :=
    hnext _ (hnext _ (hnext _ h₀ (by decide)) (by decide)) (by decide)
  have h₄ : machine.Reach Below s₄ :=
    .step (l := .getOrOpenStream params 4) h₃ trivial ⟨by decide, rfl⟩
  have hmem : (3 : Nat) ∈ s₄.map.streams := by decide
  have h₅ : machine.Reach Below s₅ :=
    .step (l := .removeStream 3) h₄ trivial (by exact (if_pos hmem).symm)
  exact ⟨s₅, h₅, by decide, by decide, by decide, by decide, streams_map_consistent h₅⟩

/-! ## The last ID -/

/-- A client that has only its first stream open. -/
structure Idle (s : OpenedStreams) (next : Nat) : Prop where
  cursors : ∃ accept, s.map.cursors = (.client, next, 0, accept, 0, 1)
  keys : s.map.streams.keys = [1]
  openStreams : s.map.openStreams = [1]
  opened : 1 ∈ s.opened

/-- `OpenStream` of such a client opens the next stream, or counts the first one again. -/
theorem Idle.openStream (h : s.Idle n) :
    ∃ s', s.Step (.openStream params) s' ∧ s'.opened = s.opened ++ [n] ∧
      (∃ accept, s'.map.cursors = (.client, (n + 2) % 2 ^ 32, 0, accept, 0, 2)) ∧
      s'.map.streams.keys = (if n = 1 then [1] else [n, 1]) ∧
      s'.map.openStreams = if n = 1 then [1] else [1, n] := by
  obtain ⟨accept, hcursors⟩ := h.cursors
  simp only [StreamsMap.cursors, Prod.mk.injEq] at hcursors
  obtain ⟨hpers, hnext, hhigh, haccept, hout, hin⟩ := hcursors
  have hput : (s.map.putStream (.new n)).streams.keys = (if n = 1 then [1] else [n, 1]) ∧
      (s.map.putStream (.new n)).openStreams = if n = 1 then [1] else [1, n] := by
    have hmem : n ∈ s.map.streams ↔ n = 1 := by
      rw [AList.mem_keys, h.keys, List.mem_singleton]
    rw [putStream]
    by_cases hn : n = 1
    · obtain ⟨str, hstr⟩ := Option.isSome_iff_exists.mp (lookup_isSome.mpr (hmem.mpr hn))
      have hstr' : s.map.streams.lookup (Stream.new n).streamID = some str := hstr
      rw [hstr', if_pos hn, if_pos hn]
      exact ⟨h.keys, h.openStreams⟩
    · have hnone : s.map.streams.lookup (Stream.new n).streamID = none :=
        lookup_eq_none.mpr (mt hmem.mp hn)
      have hkeys : n ∉ s.map.streams.keys := fun hk => hn (hmem.mp (mem_keys.mpr hk))
      rw [hnone, if_neg hn, if_neg hn]
      dsimp only
      rw [keys_insert, h.openStreams]
      refine ⟨?_, rfl⟩
      change n :: s.map.streams.keys.erase n = [n, 1]
      rw [erase_of_not_mem hkeys, h.keys]
  rcases s.map.openStream_cases params with he | ⟨-, hcursors', hstreams, hopen, -, hok⟩
  · rw [StreamsMap.openStream, if_neg (by rw [hout]; decide)] at he
    cases congrArg Prod.snd he
  · rw [hnext] at hstreams hopen hok hcursors'
    refine ⟨_, rfl, ?_, ⟨accept, ?_⟩, ?_, ?_⟩
    · rw [hok]
      rfl
    · rw [hcursors', hpers, hhigh, haccept, hout, hin]
      rfl
    · rw [hstreams]
      exact hput.1
    · rw [hopen]
      exact hput.2

/-- The client opens a stream and removes it. -/
theorem Idle.round (h : s.Idle n) (hn : n % 2 = 1) (hne : n ≠ 1)
    (hs : machine.Reach Machine.Always s) :
    ∃ s', machine.Reach Machine.Always s' ∧ s'.Idle ((n + 2) % 2 ^ 32) := by
  obtain ⟨s₁, hstep, hopened, ⟨accept, hcursors⟩, hkeys, hopen⟩ := h.openStream
  rw [if_neg hne] at hkeys hopen
  have hs₁ : machine.Reach Machine.Always s₁ := .step (l := .openStream params) hs trivial hstep
  have hmem : n ∈ s₁.map.streams := by
    rw [AList.mem_keys, hkeys]
    exact mem_cons_self
  have hodd : ¬ n % 2 = 0 := by omega
  refine ⟨{ s₁ with map := s₁.map.removeStream n },
    .step (l := .removeStream n) hs₁ trivial (by exact (if_pos hmem).symm),
      ⟨accept, ?_⟩, ?_, ?_, ?_⟩
  · simp only [StreamsMap.cursors, Prod.mk.injEq] at hcursors
    obtain ⟨hpers, hnext, hhigh, haccept, hout, hin⟩ := hcursors
    rw [removeStream_counters, hpers, hnext, hhigh, haccept, hout, hin, if_neg hodd,
      if_neg hodd]
    rfl
  · rw [streams_removeStream, keys_erase, hkeys, erase_cons_head]
  · dsimp only
    have hidx : [1, n].idxOf? n = some 1 := by
      simp [idxOf?_cons, hne.symm]
    rw [removeStream, if_neg hodd]
    dsimp only
    rw [hopen, hidx]
    rfl
  · rw [hopened]
    exact mem_append_left _ h.opened

/-- After `k` rounds. -/
theorem idle_after (k : Nat) (hk : k < 2 ^ 31) :
    ∃ s, machine.Reach Machine.Always s ∧ s.Idle ((3 + 2 * k) % 2 ^ 32) := by
  induction k with
  | zero =>
    refine ⟨⟨((new .client).openStream params).1, [1]⟩,
      .step (l := .openStream params) (.init ⟨.client, rfl⟩) trivial rfl, ⟨2, by decide⟩, by decide,
      by decide, by decide⟩
  | succ k ih =>
    obtain ⟨s, hs, hidle⟩ := ih (by omega)
    obtain ⟨s', hs', hidle'⟩ := hidle.round (by omega) (by omega) hs
    refine ⟨s', hs', ?_⟩
    rwa [show (3 + 2 * (k + 1)) % 2 ^ 32 = ((3 + 2 * k) % 2 ^ 32 + 2) % 2 ^ 32 by omega]

/-- A client that has opened and removed 2^31 − 1 streams opens its first stream, which is still
open, a second time, and counts it twice. -/
theorem first_stream_opened_twice :
    ∃ s : OpenedStreams, machine.Reach Machine.Always s ∧ s.map.openStreams = [1] ∧
      s.map.numIncomingStreams = 2 ∧ ¬ s.opened.Nodup ∧ ¬ s.Consistent := by
  obtain ⟨s, hs, hidle⟩ := idle_after (2 ^ 31 - 1) (by decide)
  obtain ⟨s', hstep, hopened, ⟨accept, hcursors⟩, -, hopen⟩ := hidle.openStream
  have hdup : ¬ s'.opened.Nodup := by
    rw [hopened]
    intro h
    exact (nodup_append.mp h).2.2 1 hidle.opened 1 (by decide) rfl
  simp only [cursors, Prod.mk.injEq] at hcursors
  exact ⟨s', .step (l := .openStream params) hs trivial hstep, hopen, hcursors.2.2.2.2.2, hdup,
    fun h => hdup h.once⟩

end OpenedStreams
end MpQuic
