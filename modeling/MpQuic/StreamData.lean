import MpQuic.Lib.Outcome
import MpQuic.StreamFramer

/-!
# The frame objects of the framer

The framer marks the frames it takes from the retransmission queue as frames with a
length, and moves the front of a frame that does not fit into a new object.
`FrameHeap.Marks h h' fs` says that no object has lost its length field between two
states of the heap, and that the frames `fs`, which are the frames handed out, have
theirs.  `Pushes` is what the iteration over the streams does for one stream.
-/
namespace MpQuic
open Systems List

/-! ## The heap -/

namespace FrameHeap
variable {h h' h'' : FrameHeap} {fs fs' : List FrameRef}

/-- No object loses its length field, and the frames `fs` have theirs. -/
structure Marks (h h' : FrameHeap) (fs : List FrameRef) : Prop where
  flags : ∀ r, (h.frame r).dataLenPresent = true → (h'.frame r).dataLenPresent = true
  lengths : ∀ r ∈ fs, (h'.frame r).dataLenPresent = true

theorem Marks.refl (h : FrameHeap) : Marks h h [] := ⟨by simp, by simp⟩

theorem Marks.trans (m : Marks h h' fs) (m' : Marks h' h'' fs') : Marks h h'' (fs ++ fs') := by
  refine ⟨fun r hr => m'.flags r (m.flags r hr), ?_⟩
  intro r hr
  rcases mem_append.mp hr with hr | hr
  · exact m'.flags r (m.lengths r hr)
  · exact m'.lengths r hr

/-- An object marked as one with a length. -/
def mark (h : FrameHeap) (r : FrameRef) : FrameHeap :=
  h.modify r ({ · with dataLenPresent := true })

theorem marks_mark (h : FrameHeap) (r : FrameRef) : Marks h (h.mark r) [r] := by
  refine ⟨?_, by simp [mark]⟩
  intro r' hr'
  by_cases hr : r' = r
  · subst hr
    simp [mark]
  · rwa [mark, modify_frame_of_ne _ _ hr]

theorem marks_alloc (h : FrameHeap) {f : StreamFrame} (hlen : f.dataLenPresent = true) :
    Marks h (h.alloc f) [h.next] := by
  refine ⟨?_, by simpa using hlen⟩
  intro r hr
  by_cases h' : r = h.next
  · subst h'
    simpa using hlen
  · rwa [alloc_frame_of_ne _ _ h']

/-- The front of an object moved into a new one. -/
def splitOff (h : FrameHeap) (r : FrameRef) (n : Nat) : FrameHeap :=
  (h.alloc (StreamFramer.splitFirst (h.frame r) n)).modify r (·.cutFront n)

section
variable {r : FrameRef} (hr : r < h.next) (n : Nat)
include hr

theorem splitOff_self : (h.splitOff r n).frame r = (h.frame r).cutFront n := by
  simp [splitOff, alloc_frame_of_ne _ _ hr.ne]

theorem splitOff_next : (h.splitOff r n).frame h.next = StreamFramer.splitFirst (h.frame r) n := by
  simp [splitOff, modify_frame_of_ne _ _ hr.ne']

omit hr in
theorem splitOff_of_ne {r' : FrameRef} (hne : r' ≠ r) (hnext : r' ≠ h.next) :
    (h.splitOff r n).frame r' = h.frame r' := by
  simp [splitOff, modify_frame_of_ne _ _ hne, alloc_frame_of_ne _ _ hnext]

theorem marks_splitOff (hlen : (h.frame r).dataLenPresent = true) :
    Marks h (h.splitOff r n) [h.next] := by
  have hnew : ((h.splitOff r n).frame h.next).dataLenPresent = true := by
    rwa [splitOff_next hr]
  refine ⟨?_, by simpa using hnew⟩
  intro r' hr'
  by_cases hne : r' = r
  · subst hne
    rwa [splitOff_self hr]
  · by_cases hnext : r' = h.next
    · rwa [hnext]
    · rwa [splitOff_of_ne n hne hnext]

end

end FrameHeap

/-! ## Iterating over the streams -/

namespace StreamsMap
variable {β : Type} {fn : Stream → β → Stream × β × Bool} {P : StreamsMap → β → Prop}

section
variable (hfn : ∀ m b id str, P m b → m.streams.lookup id = some str →
    P { m with streams := m.streams.insert id (fn str b).1 } (fn str b).2.1)
include hfn

variable {m m' : StreamsMap} {b b' : β}

theorem iterateFunc_rule {id : Nat} {cont : Bool} (h : P m b)
    (hiter : m.iterateFunc id fn b = some (m', b', cont)) : P m' b' := by
  unfold iterateFunc at hiter
  split at hiter
  · cases hiter
  · rename_i str hstr
    have hcall := hfn m b id str h hstr
    simp only [Option.some.injEq, Prod.mk.injEq] at hiter
    obtain ⟨rfl, rfl, -⟩ := hiter
    exact hcall

theorem iteratePriority_rule (ids : List Nat) (h : P m b) :
    P (iteratePriority fn ids m b).1 (iteratePriority fn ids m b).2.1 := by
  induction ids generalizing m b with
  | nil => exact h
  | cons id ids ih =>
    unfold iteratePriority
    split
    · exact ih h
    · rename_i hiter
      exact ih (iterateFunc_rule hfn h hiter)
    · rename_i hiter
      exact iterateFunc_rule hfn h hiter

/-- The rule for the round robin over the streams: what every call of `fn` keeps holds in the end.
-/
theorem iterateOthers_rule {numStreams : Nat} (hpos : 0 < numStreams)
    (hindex : ∀ m b, ∀ i < numStreams, P m b → P { m with roundRobinIndex := i } b)
    (ids : List (Option Nat)) (h : P m b)
    (hiter : iterateOthers fn numStreams ids m b = .ok (m', b')) : P m' b' := by
  induction ids generalizing m b with
  | nil =>
    obtain ⟨rfl, rfl⟩ : m = m' ∧ b = b' := by simpa [iterateOthers] using hiter
    exact h
  | cons id ids ih =>
    cases id with
    | none => simp [iterateOthers] at hiter
    | some id =>
      unfold iterateOthers at hiter
      split at hiter
      · exact ih h hiter
      · split at hiter
        · obtain ⟨rfl, rfl⟩ : m = m' ∧ b = b' := by simpa using hiter
          exact h
        · rename_i m₁ b₁ cont hcall
          have h₁ := hindex _ _ _ (Nat.mod_lt (m₁.roundRobinIndex + 1) hpos)
            (iterateFunc_rule hfn h hcall)
          dsimp only at hiter
          split at hiter
          · exact ih h₁ hiter
          · obtain ⟨rfl, rfl⟩ : _ ∧ b₁ = b' := by simpa using hiter
            exact h₁

/-- What a call of the function for a stream keeps holds after `RoundRobinIterate`. -/
theorem roundRobinIterate_rule
    (hindex : ∀ m' b, ∀ i < m.streams.keys.length, P m' b → P { m' with roundRobinIndex := i } b)
    (h : P m b) (hiter : m.roundRobinIterate fn b = .ok (m', b')) : P m' b' := by
  have hpriority := iteratePriority_rule hfn [1, 3] h
  unfold roundRobinIterate at hiter
  generalize iteratePriority fn [1, 3] m b = r at hiter hpriority
  obtain ⟨m₁, b₁, _ | _⟩ := r
  · obtain ⟨rfl, rfl⟩ : m₁ = m' ∧ b₁ = b' := by simpa using hiter
    exact hpriority
  · by_cases hnone : m.streams.keys.length = 0
    · rw [hnone] at hiter
      obtain ⟨rfl, rfl⟩ : m₁ = m' ∧ b₁ = b' := by simpa [iterateOthers] using hiter
      exact hpriority
    · exact iterateOthers_rule hfn (Nat.pos_of_ne_zero hnone) hindex _ hpriority hiter

end
end StreamsMap

/-! ## The framer -/

namespace StreamFramer
open FrameHeap

/-- The frames of the retransmission queue are objects of the heap. -/
def QueueValid (f : StreamFramer) : Prop := ∀ r ∈ f.retransmissionQueue, r < f.heap.next

/-- The loop over the retransmission queue marks all the frames it takes. -/
theorem popRetransmissions_marks (maxLen : Nat) (queue : List FrameRef) (heap : FrameHeap)
    (fc : FlowControlManager) (res : List FrameRef) (currentLen : Nat)
    (hvalid : ∀ r ∈ queue, r < heap.next) :
    ∃ fs, (popRetransmissions maxLen heap fc res currentLen queue).res = res ++ fs ∧
      heap.Marks (popRetransmissions maxLen heap fc res currentLen queue).heap fs := by
  induction queue generalizing heap fc res currentLen with
  | nil => exact ⟨[], (append_nil res).symm, .refl heap⟩
  | cons r rest ih =>
    have hr : r < heap.next := hvalid r mem_cons_self
    have hmarks := marks_mark heap r
    have hmarks₀ : heap.Marks (heap.mark r) [] := ⟨hmarks.flags, by simp⟩
    unfold popRetransmissions
    dsimp only
    rw [← mark]
    split
    · exact ⟨[], (append_nil res).symm, hmarks₀⟩
    · split
      · -- the frame fits as a whole, and the loop goes on
        obtain ⟨fs, hres, hmore⟩ := ih (heap.mark r) _ (res ++ [r]) _
          (fun r' hr' => hvalid r' (mem_cons_of_mem _ hr'))
        exact ⟨r :: fs, by simpa using hres, hmarks.trans hmore⟩
      · -- its front goes into a new object, the rest stays in the queue
        have hlen : ((heap.mark r).frame r).dataLenPresent = true := hmarks.lengths r (by simp)
        exact ⟨[heap.next], rfl, hmarks₀.trans (marks_splitOff (h := heap.mark r) hr _ hlen)⟩

/-- A new frame with data of a stream, within `maxBytes` and the stream's send window. -/
structure Pushes (params : ConnectionParameters) (maxBytes : Nat) (s s' : Stream)
    (st st' : NormalState) (frame : StreamFrame) : Prop where
  notCrypto : s.streamID ≠ 1
  streamID : frame.streamID = s.streamID
  offset : frame.offset = s.writeOffset
  lengthPresent : frame.dataLenPresent = true
  sameStream : s'.streamID = s.streamID
  writeOffset : s'.writeOffset = s.writeOffset + frame.dataLen
  readSide : s'.readSide = s.readSide
  window : frame.dataLen ≤ st.flowControlManager.sendWindowSize params s.streamID
  flow : st'.flowControlManager = st.flowControlManager.addBytesSent s.streamID frame.dataLen
  heap : st'.heap = st.heap.alloc frame
  handed : st'.handed = st.handed ++ [frame]
  res : st'.res = st.res ++ [st.heap.next]
  /-- Data is taken from the stream, and the FIN is marked as sent where it should be. -/
  taken : ∃ s₁ data, ((s₁, data) = (s, none) ∨ ∃ n, (s₁, data) = s.getDataForWriting n) ∧
    s' = (if s₁.shouldSendFin then s₁.sentFin else s₁) ∧ frame.finBit = s₁.shouldSendFin ∧
    frame.data = data.getD []
  currentLen : st'.currentLen = st.currentLen + frame.minLength + frame.dataLen
  fits : st.currentLen + frame.minLength + frame.dataLen ≤ maxBytes

/-- The data taken from a stream. -/
structure Takes (s s' : Stream) (data : Option (List Byte)) : Prop where
  streamID : s'.streamID = s.streamID
  writeOffset : s'.writeOffset = s.writeOffset + (data.getD []).length
  readSide : s'.readSide = s.readSide
  nothing : data = none → s' = s

theorem takes_getDataForWriting (s : Stream) (maxBytes : Nat) :
    Takes s (s.getDataForWriting maxBytes).1 (s.getDataForWriting maxBytes).2 ∧
      ((s.getDataForWriting maxBytes).2.getD []).length ≤ maxBytes := by
  unfold Stream.getDataForWriting
  split
  · split
    · next h =>
      refine ⟨⟨rfl, ?_, rfl, by simp⟩, length_take_le ..⟩
      rw [Option.getD_some, length_take_of_le h.le]
    · next h => exact ⟨⟨rfl, rfl, rfl, by simp⟩, not_lt.mp h⟩
  · exact ⟨⟨rfl, rfl, rfl, fun _ => rfl⟩, Nat.zero_le _⟩

/-- A stream is passed over, or a frame is made of its data. -/
theorem popNormalFrame_pushes (params : ConnectionParameters) (maxBytes : Nat) (s : Stream)
    (st : NormalState) :
    (popNormalFrame params maxBytes s st).1 = s ∧ (popNormalFrame params maxBytes s st).2.1 = st ∨
      ∃ frame, Pushes params maxBytes s (popNormalFrame params maxBytes s st).1 st
        (popNormalFrame params maxBytes s st).2.1 frame := by
  generalize hpop : popNormalFrame params maxBytes s st = result
  unfold popNormalFrame at hpop
  split at hpop
  · exact .inl (hpop ▸ ⟨rfl, rfl⟩)
  next hcrypto =>
  extract_lets frame frameHeaderBytes lenStreamData sendWindowSize free maxLen at hpop
  split at hpop
  · exact .inl (hpop ▸ ⟨rfl, rfl⟩)
  next hheader =>
  split at hpop
  · exact .inl (hpop ▸ ⟨rfl, rfl⟩)
  have hcut : ∃ s' data, (if lenStreamData ≠ 0 then s.getDataForWriting maxLen else (s, none)) =
      (s', data) ∧ ((s', data) = (s, none) ∨ ∃ n, (s', data) = s.getDataForWriting n) ∧
      Takes s s' data ∧ (data.getD []).length ≤ free ∧
      (data.getD []).length ≤ st.flowControlManager.sendWindowSize params s.streamID := by
    by_cases h0 : lenStreamData ≠ 0
    · obtain ⟨htakes, hlen⟩ := takes_getDataForWriting s maxLen
      have hwindow : sendWindowSize = st.flowControlManager.sendWindowSize params s.streamID :=
        if_pos h0
      have hmax : maxLen = min free sendWindowSize := if_pos h0
      rw [if_pos h0]
      exact ⟨_, _, rfl, .inr ⟨maxLen, rfl⟩, htakes, hlen.trans (hmax ▸ Nat.min_le_left _ _),
        hlen.trans (hwindow ▸ hmax ▸ Nat.min_le_right _ _)⟩
    · rw [if_neg h0]
      exact ⟨s, none, rfl, .inl rfl, ⟨rfl, rfl, rfl, fun _ => rfl⟩, Nat.zero_le _, Nat.zero_le _⟩
  obtain ⟨s', data, hcut, htaken, htakes, hlen, hwindow⟩ := hcut
  rw [hcut] at hpop
  dsimp only at hpop
  split at hpop
  · next hnothing =>
    obtain rfl : s' = s := htakes.nothing (by simp_all)
    exact .inl (hpop ▸ ⟨rfl, rfl⟩)
  · have hfits : st.currentLen + frameHeaderBytes + (data.getD []).length ≤ maxBytes := by omega
    subst hpop
    have hsame (fin : Bool) : (if fin then s'.sentFin else s').streamID = s.streamID := by
      cases fin <;> exact htakes.streamID
    have hoffset (fin : Bool) :
        (if fin then s'.sentFin else s').writeOffset = s.writeOffset + (data.getD []).length := by
      cases fin <;> exact htakes.writeOffset
    have hread (fin : Bool) : (if fin then s'.sentFin else s').readSide = s.readSide := by
      cases fin <;> exact htakes.readSide
    refine .inr ⟨⟨s.streamID, s'.shouldSendFin, true, s.writeOffset, data.getD []⟩, hcrypto, rfl,
      rfl, rfl, hsame _, hoffset _, hread _, hwindow, ?_, rfl, rfl, rfl,
      ⟨s', data, htaken, rfl, rfl, rfl⟩, rfl, hfits⟩
    rw [hsame]

theorem popNormalFrame_marks {h : FrameHeap} {st : NormalState} (hst : h.Marks st.heap st.res)
    (params : ConnectionParameters) (maxBytes : Nat) (s : Stream) :
    h.Marks (StreamFramer.popNormalFrame params maxBytes s st).2.1.heap
      (StreamFramer.popNormalFrame params maxBytes s st).2.1.res := by
  rcases popNormalFrame_pushes params maxBytes s st with ⟨-, hsame⟩ | ⟨frame, hpush⟩
  · rwa [hsame]
  · rw [hpush.heap, hpush.res]
    exact hst.trans (marks_alloc st.heap hpush.lengthPresent)

variable {f f' : StreamFramer} {fs : List FrameRef}

theorem maybePopNormalFrames_marks {maxBytes : Nat}
    (h : f.maybePopNormalFrames maxBytes = .ok (f', fs)) : f.heap.Marks f'.heap fs := by
  unfold maybePopNormalFrames at h
  dsimp only at h
  generalize hiter : f.streamsMap.roundRobinIterate _ _ = r at h
  rcases r with e | ⟨m, st⟩
  · cases h
  · have hst : f.heap.Marks st.heap st.res :=
      StreamsMap.roundRobinIterate_rule
        (P := fun _ (st : NormalState) => f.heap.Marks st.heap st.res)
        (fun _ _ _ str h _ => popNormalFrame_marks h f.connectionParameters maxBytes str)
        (fun _ _ _ _ h => h) (.refl f.heap) hiter
    obtain ⟨rfl, rfl⟩ := Prod.mk.inj (Except.ok.inj h)
    exact hst

/-- **The frames that are handed out** have their length fields. -/
theorem popStreamFrames_marks {maxLen : Nat} (hvalid : f.QueueValid)
    (h : f.popStreamFrames maxLen = .ok (f', fs)) : f.heap.Marks f'.heap fs := by
  obtain ⟨fs₁, hres, hmarks⟩ := popRetransmissions_marks maxLen f.retransmissionQueue f.heap
    f.flowControlManager [] 0 hvalid
  rw [popStreamFrames, maybePopFramesForRetransmission] at h
  dsimp only at h
  obtain ⟨⟨f₂, fs₂⟩, hnormal, h⟩ := bind_eq_ok h
  obtain ⟨rfl, rfl⟩ := Prod.mk.inj (Except.ok.inj h)
  rw [hres, nil_append]
  exact hmarks.trans (maybePopNormalFrames_marks hnormal)

end StreamFramer
end MpQuic
