import MpQuic.StreamData

/-!
# What the operations of the streams map do

The peer's streams are opened in order: `nextPeerStream` is the ID the loop of
`GetOrOpenStream` starts with, and `getOrOpenStream_rule` says that a property
which opening that stream keeps is kept by `GetOrOpenStream`.  Where the ID of the
loop wraps around, opening the stream is refused, so the loop ends.
-/
namespace MpQuic

/-- The parity of the stream IDs a peer uses: odd for the client. -/
def Perspective.parity : Perspective → Nat
  | .server => 0
  | .client => 1

/-- The parity of the other side. -/
def Perspective.peerParity : Perspective → Nat
  | .server => 1
  | .client => 0

namespace StreamsMap
variable {m m' : StreamsMap} {params : ConnectionParameters} {id sid : Nat}

/-! ## Putting a stream -/

/-- All but the streams. -/
def cursors (m : StreamsMap) : Perspective × Nat × Nat × Nat × Nat × Nat :=
  (m.perspective, m.nextStream, m.highestStreamOpenedByPeer, m.nextStreamToAccept,
    m.numOutgoingStreams, m.numIncomingStreams)

@[simp] theorem cursors_putStream (m : StreamsMap) (s : Stream) :
    (m.putStream s).cursors = m.cursors := by
  unfold putStream
  split <;> rfl

@[simp] theorem roundRobinIndex_putStream (m : StreamsMap) (s : Stream) :
    (m.putStream s).roundRobinIndex = m.roundRobinIndex := by
  unfold putStream
  split <;> rfl

theorem mem_putStream (m : StreamsMap) (s : Stream) (id : Nat) :
    id ∈ (m.putStream s).streams ↔ id = s.streamID ∨ id ∈ m.streams := by
  unfold putStream
  split
  · next str h =>
    have hmem : s.streamID ∈ m.streams := AList.lookup_isSome.mp (by rw [h]; rfl)
    constructor
    · exact Or.inr
    · rintro (rfl | hid)
      · exact hmem
      · exact hid
  · exact AList.mem_insert m.streams

theorem putStream_congr (hstreams : m.streams = m'.streams) (hopen : m.openStreams = m'.openStreams)
    (s : Stream) : (m.putStream s).streams = (m'.putStream s).streams ∧
      (m.putStream s).openStreams = (m'.putStream s).openStreams := by
  unfold putStream
  rw [hstreams]
  split
  · exact ⟨hstreams, hopen⟩
  · exact ⟨rfl, by rw [hopen]⟩

/-! ## Opening a stream of the peer -/

/-- The stream of the peer that is opened next. -/
def nextPeerStream (m : StreamsMap) : Nat :=
  if m.highestStreamOpenedByPeer = 0 ∧ m.perspective = .server then 1
  else m.highestStreamOpenedByPeer + 2

/-- The IDs used so far have the parity of the side that used them. -/
structure Numbered (m : StreamsMap) : Prop where
  nextStream : m.nextStream % 2 = m.perspective.parity
  highest : m.highestStreamOpenedByPeer = 0 ∨
    m.highestStreamOpenedByPeer % 2 = m.perspective.peerParity
  highest_lt : m.highestStreamOpenedByPeer < 2 ^ 32

theorem Numbered.of_cursors (h : m.Numbered) (hm : m'.cursors = m.cursors) : m'.Numbered := by
  simp only [cursors, Prod.mk.injEq] at hm
  obtain ⟨hpers, hnext, hhigh, -⟩ := hm
  exact ⟨by rw [hnext, hpers]; exact h.nextStream, by rw [hhigh, hpers]; exact h.highest,
    by rw [hhigh]; exact h.highest_lt⟩

theorem Numbered.nextPeerStream_parity (h : m.Numbered) :
    m.nextPeerStream % 2 = m.perspective.peerParity := by
  have hhigh := h.highest
  unfold nextPeerStream
  cases hp : m.perspective with
  | server =>
    rw [hp] at hhigh
    simp only [Perspective.peerParity, and_true] at hhigh ⊢
    split <;> omega
  | client =>
    rw [hp] at hhigh
    simp only [Perspective.peerParity] at hhigh ⊢
    rw [if_neg (by simp)]
    omega

/-- `openRemoteStream` succeeded. -/
theorem openRemoteStream_ok (h : m.openRemoteStream params sid = .ok m') :
    m.numIncomingStreams < params.maxIncomingStreams ∧
      m.highestStreamOpenedByPeer ≤ (sid + maxNewStreamIDDelta) % 2 ^ 32 ∧
      m'.cursors = (m.perspective, m.nextStream, max m.highestStreamOpenedByPeer sid,
        m.nextStreamToAccept,
        (match m.perspective with
          | .server => m.numOutgoingStreams
          | .client => (m.numOutgoingStreams + 1) % 2 ^ 32),
        match m.perspective with
          | .server => (m.numIncomingStreams + 1) % 2 ^ 32
          | .client => m.numIncomingStreams) ∧
      m'.streams = (m.putStream (.new sid)).streams ∧
      m'.openStreams = (m.putStream (.new sid)).openStreams := by
  unfold openRemoteStream at h
  split at h
  · cases h
  · next hlimit =>
    split at h
    · cases h
    · next hdelta =>
      refine ⟨not_le.mp hlimit, not_lt.mp hdelta, ?_⟩
      simp only [Except.ok.injEq] at h
      subst h
      rw [cursors_putStream]
      refine ⟨?_, putStream_congr ?_ ?_ _⟩
      · by_cases hlt : m.highestStreamOpenedByPeer < sid
        · rw [max_eq_right hlt.le]
          cases m.perspective <;> simp [cursors, hlt]
        · rw [max_eq_left (not_lt.mp hlt)]
          cases m.perspective <;> simp [cursors, hlt]
      all_goals cases m.perspective <;> dsimp only <;> split <;> rfl

/-! ## Opening a stream of one's own -/

/-- `OpenStream` is refused, or opens the next stream. -/
theorem openStream_cases (m : StreamsMap) (params : ConnectionParameters) :
    m.openStream params = (m, .error .tooManyOpenStreams) ∨
      (m.numOutgoingStreams < params.maxOutgoingStreams ∧
        (m.openStream params).1.cursors = (m.perspective, (m.nextStream + 2) % 2 ^ 32,
          m.highestStreamOpenedByPeer, m.nextStreamToAccept,
          (match m.perspective with
            | .server => (m.numOutgoingStreams + 1) % 2 ^ 32
            | .client => m.numOutgoingStreams),
          match m.perspective with
            | .server => m.numIncomingStreams
            | .client => (m.numIncomingStreams + 1) % 2 ^ 32) ∧
        (m.openStream params).1.streams = (m.putStream (.new m.nextStream)).streams ∧
        (m.openStream params).1.openStreams = (m.putStream (.new m.nextStream)).openStreams ∧
        (m.openStream params).1.roundRobinIndex = m.roundRobinIndex ∧
        (m.openStream params).2 = .ok m.nextStream) := by
  unfold openStream
  split
  · exact Or.inl rfl
  · next hlimit =>
    have hput (m' : StreamsMap) (hstreams : m'.streams = m.streams)
        (hopen : m'.openStreams = m.openStreams) :=
      putStream_congr hstreams hopen (.new m.nextStream)
    refine Or.inr ⟨not_le.mp hlimit, ?_, (hput _ ?_ ?_).1, (hput _ ?_ ?_).2, ?_, rfl⟩
    · rw [cursors_putStream]
      cases m.perspective <;> rfl
    on_goal 5 => rw [roundRobinIndex_putStream]
    all_goals cases m.perspective <;> rfl

/-- Opening the next stream of the peer. -/
theorem Numbered.openRemoteStream (h : m.Numbered)
    (hok : m.openRemoteStream params m.nextPeerStream = .ok m') (hlt : m.nextPeerStream < 2 ^ 32) :
    m'.Numbered ∧ m'.perspective = m.perspective ∧
      m'.highestStreamOpenedByPeer = m.nextPeerStream := by
  have hparity := h.nextPeerStream_parity
  have hmax : max m.highestStreamOpenedByPeer m.nextPeerStream = m.nextPeerStream := by
    unfold nextPeerStream
    split <;> omega
  obtain ⟨-, -, hcursors, -⟩ := openRemoteStream_ok hok
  simp only [cursors, Prod.mk.injEq, hmax] at hcursors
  obtain ⟨hpers, hnext, hhigh, -⟩ := hcursors
  refine ⟨⟨?_, ?_, ?_⟩, hpers, hhigh⟩
  · rw [hnext, hpers]
    exact h.nextStream
  · rw [hhigh, hpers]
    exact Or.inr hparity
  · rw [hhigh]
    exact hlt

/-- Once the IDs of the peer are used up, no stream is opened any more. -/
theorem openRemoteStream_wrapped (m : StreamsMap) (params : ConnectionParameters) (sid : Nat)
    (hsid : sid ≤ 1) (hhigh : 2 ^ 32 - 2 ≤ m.highestStreamOpenedByPeer) :
    ∃ e, m.openRemoteStream params sid = .error e := by
  have hdelta : (sid + maxNewStreamIDDelta) % 2 ^ 32 < m.highestStreamOpenedByPeer := by
    unfold maxNewStreamIDDelta
    omega
  unfold StreamsMap.openRemoteStream
  split
  · exact ⟨_, rfl⟩
  · exact ⟨_, rfl⟩

/-! ## `GetOrOpenStream` -/

/-- The ID the loop has reached: the next stream of the peer, or one that wrapped around. -/
def AtStream (m : StreamsMap) (sid : Nat) : Prop :=
  (sid = m.nextPeerStream ∧ sid < 2 ^ 32) ∨ (sid ≤ 1 ∧ 2 ^ 32 - 2 ≤ m.highestStreamOpenedByPeer)

/-- An iteration that opens a stream opens the next one, and the ID stays in step. -/
theorem AtStream.openRemoteStream (hat : m.AtStream sid) (h : m.Numbered)
    (hok : m.openRemoteStream params sid = .ok m') :
    sid = m.nextPeerStream ∧ sid < 2 ^ 32 ∧ m'.Numbered ∧ m'.perspective = m.perspective ∧
      m'.AtStream ((sid + 2) % 2 ^ 32) := by
  rcases hat with ⟨rfl, hlt⟩ | ⟨hsid, hhigh⟩
  · obtain ⟨hnum, hpers, hhigh⟩ := h.openRemoteStream hok hlt
    refine ⟨rfl, hlt, hnum, hpers, ?_⟩
    have hpos : m'.highestStreamOpenedByPeer ≠ 0 := by
      rw [hhigh]
      unfold nextPeerStream
      split <;> omega
    have hnext : m'.nextPeerStream = m.nextPeerStream + 2 := by
      rw [nextPeerStream, if_neg (fun h0 => hpos h0.1), hhigh]
    unfold AtStream
    rw [hnext, hhigh]
    omega
  · obtain ⟨e, he⟩ := openRemoteStream_wrapped m params sid hsid hhigh
    rw [he] at hok
    cases hok

/-- The ID the loop starts with. -/
def firstStream (m : StreamsMap) : Nat :=
  let sid := (m.highestStreamOpenedByPeer + 2) % 2 ^ 32
  if sid = 2 ∧ m.perspective = .server then 1 else sid

/-- `GetOrOpenStream` changes nothing, or runs its loop for a stream of the peer. -/
theorem getOrOpenStream_cases (m : StreamsMap) (params : ConnectionParameters) (id : Nat) :
    (∃ e, m.getOrOpenStream params id = (m, [], e)) ∨
      (m.highestStreamOpenedByPeer < id ∧
        m.getOrOpenStream params id = openUpTo params id (id + 2) m.firstStream m []) := by
  unfold getOrOpenStream
  by_cases hsome : (m.streams.lookup id).isSome
  · exact Or.inl ⟨_, if_pos hsome⟩
  · rw [if_neg hsome]
    have hloop : ∀ (isOwn : Bool) (e : Option Err) (r : StreamsMap × List Nat × Option Err),
        r = (if isOwn then (m, [], e) else if id ≤ m.highestStreamOpenedByPeer then (m, [], none)
          else openUpTo params id (id + 2) m.firstStream m []) →
        (∃ e, r = (m, [], e)) ∨ (m.highestStreamOpenedByPeer < id ∧
          r = openUpTo params id (id + 2) m.firstStream m []) := by
      rintro isOwn e r rfl
      cases isOwn with
      | true => exact Or.inl ⟨_, rfl⟩
      | false =>
        by_cases hle : id ≤ m.highestStreamOpenedByPeer
        · exact Or.inl ⟨_, if_pos hle⟩
        · exact Or.inr ⟨not_le.mp hle, if_neg hle⟩
    exact hloop _ _ _ rfl

theorem Numbered.atStream (h : m.Numbered) : m.AtStream m.firstStream := by
  have hlt := h.highest_lt
  have hhigh := h.highest
  unfold AtStream firstStream nextPeerStream
  cases hp : m.perspective with
  | server =>
    rw [hp] at hhigh
    simp only [Perspective.peerParity, and_true] at hhigh ⊢
    split_ifs <;> omega
  | client =>
    rw [hp] at hhigh
    simp only [Perspective.peerParity, reduceCtorEq, and_false, if_false] at hhigh ⊢
    omega

section Rule
variable {P : StreamsMap → List Nat → Prop} (hopen : ∀ (m m' : StreamsMap) (opened : List Nat),
  P m opened → m.Numbered → m.nextPeerStream < 2 ^ 32 →
    m.openRemoteStream params m.nextPeerStream = .ok m' → P m' (opened ++ [m.nextPeerStream]))
include hopen

theorem openUpTo_rule (fuel : Nat) {opened : List Nat} (h : P m opened) (hnum : m.Numbered)
    (hat : m.AtStream sid) :
    P (openUpTo params id fuel sid m opened).1 (openUpTo params id fuel sid m opened).2.1 ∧
      (openUpTo params id fuel sid m opened).1.Numbered := by
  induction fuel generalizing m sid opened with
  | zero => exact ⟨h, hnum⟩
  | succ fuel ih =>
    unfold openUpTo
    split
    · exact ⟨h, hnum⟩
    · split
      · exact ⟨h, hnum⟩
      · next m' hok =>
        obtain ⟨rfl, hlt, hnum', -, hat'⟩ := hat.openRemoteStream hnum hok
        exact ih (hopen m m' opened h hnum hlt hok) hnum' hat'

/-- **What opening the next stream of the peer keeps is kept by `GetOrOpenStream`.**  The list is
that of the streams opened. -/
theorem getOrOpenStream_rule (h : P m []) (hnum : m.Numbered) :
    P (m.getOrOpenStream params id).1 (m.getOrOpenStream params id).2.1 ∧
      (m.getOrOpenStream params id).1.Numbered := by
  rcases m.getOrOpenStream_cases params id with ⟨e, he⟩ | ⟨-, he⟩
  · rw [he]
    exact ⟨h, hnum⟩
  · rw [he]
    exact openUpTo_rule hopen _ h hnum hnum.atStream

end Rule

/-! ## The streams there are -/

/-- New streams have been opened, and nothing has happened to the others. -/
structure Grows (m m' : StreamsMap) : Prop where
  lookup : ∀ id, m'.streams.lookup id = m.streams.lookup id ∨
    m.streams.lookup id = none ∧ m'.streams.lookup id = some (.new id)

theorem Grows.refl (m : StreamsMap) : m.Grows m := ⟨fun _ => .inl rfl⟩

theorem Grows.of_streams (h : m'.streams = m.streams) : m.Grows m' := ⟨fun _ => .inl (by rw [h])⟩

theorem Grows.trans {m'' : StreamsMap} (h : m.Grows m') (h' : m'.Grows m'') : m.Grows m'' := by
  refine ⟨fun id => ?_⟩
  rcases h'.lookup id with hsame | ⟨hnone, hnew⟩
  · rw [hsame]
    exact h.lookup id
  · rcases h.lookup id with hsame | ⟨-, hsome⟩
    · exact .inr ⟨hsame.symm.trans hnone, hnew⟩
    · rw [hsome] at hnone
      cases hnone

theorem Grows.lookup_of_some (h : m.Grows m') {str : Stream}
    (hstr : m.streams.lookup id = some str) : m'.streams.lookup id = some str := by
  rcases h.lookup id with hsame | ⟨hnone, -⟩
  · exact hsame.trans hstr
  · rw [hstr] at hnone
    cases hnone

theorem putStream_grows (m : StreamsMap) (sid : Nat) : m.Grows (m.putStream (.new sid)) := by
  refine ⟨fun id => ?_⟩
  rw [putStream]
  split
  · exact .inl rfl
  · next hnone =>
    by_cases hid : id = sid
    · subst hid
      exact .inr ⟨hnone, AList.lookup_insert _⟩
    · exact .inl (AList.lookup_insert_ne hid)

theorem openUpTo_grows (fuel : Nat) (m : StreamsMap) (opened : List Nat) :
    m.Grows (openUpTo params id fuel sid m opened).1 := by
  induction fuel generalizing m sid opened with
  | zero => exact .refl m
  | succ fuel ih =>
    rw [openUpTo]
    split
    · exact .refl m
    · split
      · exact .refl m
      · next m' hok =>
        obtain ⟨-, -, -, hstreams, -⟩ := openRemoteStream_ok hok
        have hput : m.Grows m' :=
          ⟨fun id => by rw [hstreams]; exact (putStream_grows m sid).lookup id⟩
        exact hput.trans (ih m' _)

theorem getOrOpenStream_grows (m : StreamsMap) (params : ConnectionParameters) (id : Nat) :
    m.Grows (m.getOrOpenStream params id).1 := by
  rcases m.getOrOpenStream_cases params id with ⟨e, he⟩ | ⟨-, he⟩
  · rw [he]
    exact .refl m
  · rw [he]
    exact openUpTo_grows _ m []

theorem openStream_grows (m : StreamsMap) (params : ConnectionParameters) :
    m.Grows (m.openStream params).1 := by
  rw [openStream]
  split
  · exact .refl m
  · refine Grows.trans (.of_streams ?_) (putStream_grows _ _)
    cases m.perspective <;> rfl

/-! ## The loop ends -/

/-- More iterations than it takes to reach `id` change nothing. -/
theorem openUpTo_add (n k : Nat) {opened : List Nat} (hsid : sid < 2 ^ 32)
    (hn : id < sid ∨ (id - sid) / 2 + 2 ≤ n) :
    openUpTo params id (n + k) sid m opened = openUpTo params id n sid m opened := by
  induction n generalizing m sid opened with
  | zero =>
    have hdone : id < sid := by omega
    cases k with
    | zero => rfl
    | succ k => simp only [openUpTo, if_pos hdone]
  | succ n ih =>
    rw [Nat.succ_add, openUpTo, openUpTo]
    split
    · rfl
    · next hle =>
      split
      · rfl
      · next m' hok =>
        by_cases hwrap : sid + 2 < 2 ^ 32
        · rw [Nat.mod_eq_of_lt hwrap]
          exact ih hwrap (by omega)
        · -- the ID wraps around: the next stream is refused
          obtain ⟨-, -, hcursors, -⟩ := openRemoteStream_ok hok
          simp only [cursors, Prod.mk.injEq] at hcursors
          obtain ⟨e, he⟩ := openRemoteStream_wrapped m' params ((sid + 2) % 2 ^ 32) (by omega)
            (by omega)
          obtain ⟨n, rfl⟩ : ∃ n', n = n' + 1 := ⟨n - 1, by omega⟩
          rw [Nat.succ_add, openUpTo, openUpTo, he]

/-- The loop of `GetOrOpenStream` has ended after `id + 2` iterations. -/
theorem openUpTo_ends {fuel : Nat} (hfuel : id + 2 ≤ fuel) :
    openUpTo params id fuel m.firstStream m [] =
      openUpTo params id (id + 2) m.firstStream m [] := by
  obtain ⟨k, rfl⟩ := Nat.exists_eq_add_of_le hfuel
  refine openUpTo_add _ _ ?_ (Or.inr (by omega))
  unfold firstStream
  dsimp only
  split <;> omega

end StreamsMap
end MpQuic
