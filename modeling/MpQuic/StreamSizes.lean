import MpQuic.StreamData

/-!
# The sizes of stream frames

The framer fills a packet with frames that all have a length field, and counts them
as they are when it takes them.  A frame that it then splits is a heap object, and
if the same object has been taken before, what is in the packet changes: it loses
the bytes that were split off, and its offset grows.  That is one byte more on the
wire exactly if one byte is split off the first frame of a stream
(`fullSize_cutFront`).
-/
namespace MpQuic
open Systems List StreamFrame

namespace StreamFrame

/-- The length of the header with a length field. -/
def fullHeader (f : StreamFrame) : Nat :=
  ({ f with dataLenPresent := true } : StreamFrame).minLength

/-- The length of the frame with a length field. -/
def fullSize (f : StreamFrame) : Nat := f.fullHeader + f.dataLen

/-- The length of the frame. -/
def size (f : StreamFrame) : Nat := f.minLength + f.dataLen

theorem fullHeader_pos (f : StreamFrame) : 0 < f.fullHeader := by
  unfold fullHeader minLength
  omega

theorem size_eq_fullSize {f : StreamFrame} (h : f.dataLenPresent = true) : f.size = f.fullSize := by
  obtain ⟨id, fin, dataLenPresent, offset, data⟩ := f
  obtain rfl : dataLenPresent = true := h
  rfl

/-- Without its length field a frame is two bytes shorter. -/
theorem size_omitLength (f : StreamFrame) :
    ({ f with dataLenPresent := false } : StreamFrame).size + 2 = f.fullSize := by
  simp only [size, fullSize, fullHeader, minLength, calculateStreamIDLength,
    getOffsetLength, dataLen,
    Bool.false_eq_true, if_false, if_true]
  omega

/-- An offset is written in the fewest bytes from 2 to 8, and offset 0 in none. -/
theorem getOffsetLength_cases (f : StreamFrame) :
    f.offset = 0 ∧ f.getOffsetLength = 0 ∨
      0 < f.offset ∧ f.offset < 2 ^ 16 ∧ f.getOffsetLength = 2 ∨
      2 ^ 16 ≤ f.offset ∧ f.offset < 2 ^ 24 ∧ f.getOffsetLength = 3 ∨
      2 ^ 24 ≤ f.offset ∧ f.offset < 2 ^ 32 ∧ f.getOffsetLength = 4 ∨
      2 ^ 32 ≤ f.offset ∧ f.offset < 2 ^ 40 ∧ f.getOffsetLength = 5 ∨
      2 ^ 40 ≤ f.offset ∧ f.offset < 2 ^ 48 ∧ f.getOffsetLength = 6 ∨
      2 ^ 48 ≤ f.offset ∧ f.offset < 2 ^ 56 ∧ f.getOffsetLength = 7 ∨
      2 ^ 56 ≤ f.offset ∧ f.getOffsetLength = 8 := by
  unfold getOffsetLength
  split_ifs <;> omega

variable {n : Nat}

theorem getOffsetLength_add {f g : StreamFrame} (hn : 1 ≤ n) (hg : g.offset = f.offset + n) :
    (f.offset = 0 ∧ n = 1 → g.getOffsetLength = f.getOffsetLength + 2) ∧
      (¬(f.offset = 0 ∧ n = 1) → g.getOffsetLength ≤ f.getOffsetLength + n) := by
  rcases f.getOffsetLength_cases with hf | hf | hf | hf | hf | hf | hf | hf <;>
    rcases g.getOffsetLength_cases with h | h | h | h | h | h | h | h <;> omega

/-- What becomes of the size of a frame that loses its first `n` bytes. -/
theorem fullSize_cutFront (f : StreamFrame) (hn : 1 ≤ n) (hlen : n ≤ f.dataLen) :
    (f.offset = 0 ∧ n = 1 → (f.cutFront n).fullSize = f.fullSize + 1) ∧
      (¬(f.offset = 0 ∧ n = 1) → (f.cutFront n).fullSize ≤ f.fullSize) := by
  have hoffset := getOffsetLength_add hn (f.cutFront_offset n)
  have hid : (f.cutFront n).calculateStreamIDLength = f.calculateStreamIDLength := rfl
  have hheader (g : StreamFrame) :
      g.fullHeader = 1 + g.calculateStreamIDLength + g.getOffsetLength + 2 := rfl
  rw [fullSize, fullSize, hheader, hheader, hid, cutFront_dataLen]
  constructor
  · intro h
    omega
  · intro h
    omega

theorem fullSize_splitFirst (f : StreamFrame) (hn : n ≤ f.dataLen) :
    (StreamFramer.splitFirst f n).fullSize = f.fullHeader + n := by
  have hlen : (f.data.take n).length = n := length_take_of_le hn
  change f.fullHeader + (f.data.take n).length = _
  rw [hlen]

end StreamFrame

namespace FrameHeap
variable {h : FrameHeap} {fs : List FrameRef}

/-- The length of frames that all have a length field. -/
def sizes (h : FrameHeap) (fs : List FrameRef) : Nat := (fs.map fun r => (h.frame r).fullSize).sum

@[simp] theorem sizes_nil (h : FrameHeap) : h.sizes [] = 0 := rfl

@[simp] theorem sizes_append (h : FrameHeap) (fs fs' : List FrameRef) :
    h.sizes (fs ++ fs') = h.sizes fs + h.sizes fs' := by
  simp [sizes]

@[simp] theorem sizes_cons (h : FrameHeap) (r : FrameRef) (fs : List FrameRef) :
    h.sizes (r :: fs) = (h.frame r).fullSize + h.sizes fs := by
  simp [sizes]

theorem sizes_congr {h' : FrameHeap}
    (hsame : ∀ r ∈ fs, (h'.frame r).fullSize = (h.frame r).fullSize) :
    h'.sizes fs = h.sizes fs := by
  unfold sizes
  rw [map_congr_left hsame]

theorem mark_fullSize (h : FrameHeap) (r r' : FrameRef) :
    ((h.mark r).frame r').fullSize = (h.frame r').fullSize := by
  by_cases hr : r' = r
  · subst hr
    rw [mark, modify_frame_self]
    rfl
  · rw [mark, modify_frame_of_ne _ _ hr]

@[simp] theorem sizes_mark (h : FrameHeap) (r : FrameRef) (fs : List FrameRef) :
    (h.mark r).sizes fs = h.sizes fs :=
  sizes_congr fun r' _ => h.mark_fullSize r r'

/-- Splitting one byte off the first frame of a stream makes a packet one byte longer for every
time the frame is in it already; otherwise the packet does not grow. -/
theorem sizes_splitOff {r : FrameRef} (hr : r < h.next) {n : Nat} (hn : 1 ≤ n)
    (hlen : n ≤ (h.frame r).dataLen) (hfs : ∀ r' ∈ fs, r' < h.next) :
    ((h.frame r).offset = 0 ∧ n = 1 → (h.splitOff r n).sizes fs = h.sizes fs + fs.count r) ∧
      (¬((h.frame r).offset = 0 ∧ n = 1) → (h.splitOff r n).sizes fs ≤ h.sizes fs) := by
  obtain ⟨hgrow, hshrink⟩ := (h.frame r).fullSize_cutFront hn hlen
  induction fs with
  | nil => exact ⟨fun _ => rfl, fun _ => le_rfl⟩
  | cons r' fs ih =>
    obtain ⟨ihgrow, ihshrink⟩ := ih fun x hx => hfs x (mem_cons_of_mem _ hx)
    rw [sizes_cons, sizes_cons, count_cons]
    by_cases hr' : r' = r
    · subst hr'
      rw [splitOff_self hr]
      constructor
      · intro hone
        rw [hgrow hone, ihgrow hone, beq_self_eq_true, if_pos rfl]
        omega
      · intro hone
        exact Nat.add_le_add (hshrink hone) (ihshrink hone)
    · rw [splitOff_of_ne n hr' (hfs r' mem_cons_self).ne, beq_false_of_ne hr',
        if_neg Bool.false_ne_true]
      constructor
      · intro hone
        rw [ihgrow hone]
        omega
      · intro hone
        exact Nat.add_le_add_left (ihshrink hone) _

end FrameHeap

/-! ## The open streams -/

namespace StreamsMap
variable {β : Type} (fn : Stream → β → Stream × β × Bool)

/-- `openStreams` lists the streams of the map. -/
def Listed (m : StreamsMap) : Prop := m.openStreams.Perm m.streams.keys

theorem iterateOthers_ok (numStreams : Nat) (ids : List (Option Nat)) (hids : none ∉ ids)
    (m : StreamsMap) (b : β) : ∃ r, iterateOthers fn numStreams ids m b = .ok r := by
  induction ids generalizing m b with
  | nil => exact ⟨_, rfl⟩
  | cons id ids ih =>
    have hrest : none ∉ ids := fun h => hids (mem_cons_of_mem _ h)
    cases id with
    | none => exact absurd mem_cons_self hids
    | some id =>
      unfold iterateOthers
      split
      · exact ih hrest m b
      · split
        · exact ⟨_, rfl⟩
        · dsimp only
          split
          · exact ih hrest _ _
          · exact ⟨_, rfl⟩

/-- The iteration stays within `openStreams`. -/
theorem roundRobinIterate_ok {m : StreamsMap} (hm : m.Listed) (b : β) :
    ∃ r, m.roundRobinIterate fn b = .ok r := by
  unfold roundRobinIterate
  split
  · exact ⟨_, rfl⟩
  · refine iterateOthers_ok fn _ _ ?_ _ _
    intro hnone
    obtain ⟨i, hi, hget⟩ := mem_map.mp hnone
    have hpos : 0 < m.streams.keys.length := (Nat.zero_le i).trans_lt (mem_range.mp hi)
    have hlt := Nat.mod_lt (i + m.roundRobinIndex) hpos
    rw [← hm.length_eq] at hlt hget
    rw [getElem?_eq_getElem hlt] at hget
    cases hget

end StreamsMap

/-! ## Retransmissions -/

namespace StreamFramer
open FrameHeap

/-- The loop comes to split one byte off a frame that starts a stream and that it has already
taken: `pre` fits before it, and leaves room for its header and one byte. -/
def SplitsTaken (maxLen : Nat) (h : FrameHeap) (taken queue : List FrameRef) : Prop :=
  ∃ pre r post, queue = pre ++ r :: post ∧ r ∈ taken ++ pre ∧ (h.frame r).offset = 0 ∧
    1 < (h.frame r).dataLen ∧ h.sizes (taken ++ pre) + (h.frame r).fullHeader + 1 = maxLen

/-- What the loop has taken, as long as it is what it has counted. -/
structure Counted (maxLen : Nat) (h : FrameHeap) (taken queue : List FrameRef) (st : PopState) :
    Prop where
  le : st.currentLen ≤ maxLen
  valid : ∀ r ∈ st.res, r < st.heap.next
  fits : ¬SplitsTaken maxLen h taken queue → st.heap.sizes st.res ≤ st.currentLen
  exceeds : SplitsTaken maxLen h taken queue → st.currentLen = maxLen ∧
    maxLen < st.heap.sizes st.res ∧ ∃ front last, st.res = front ++ [last] ∧ last ∉ front

variable {maxLen maxBytes : Nat} {h : FrameHeap} {r : FrameRef} {f f' : StreamFramer}
  {fs : List FrameRef}

theorem splitsTaken_mark {taken queue : List FrameRef} :
    SplitsTaken maxLen (h.mark r) taken queue ↔ SplitsTaken maxLen h taken queue := by
  have hoffset (r' : FrameRef) : ((h.mark r).frame r').offset = (h.frame r').offset := by
    by_cases hr : r' = r
    · subst hr
      simp [mark]
    · rw [mark, modify_frame_of_ne _ _ hr]
  have hdata (r' : FrameRef) : ((h.mark r).frame r').dataLen = (h.frame r').dataLen := by
    by_cases hr : r' = r
    · subst hr
      rw [mark, modify_frame_self]
      rfl
    · rw [mark, modify_frame_of_ne _ _ hr]
  have hheader (r' : FrameRef) : ((h.mark r).frame r').fullHeader = (h.frame r').fullHeader := by
    have := h.mark_fullSize r r'
    rw [fullSize, fullSize, hdata] at this
    omega
  simp only [SplitsTaken, sizes_mark, hoffset, hdata, hheader]

/-- A frame that fits as a whole is taken before the loop goes on. -/
theorem splitsTaken_cons {taken rest : List FrameRef}
    (hfits : h.sizes taken + (h.frame r).fullSize ≤ maxLen) :
    SplitsTaken maxLen h taken (r :: rest) ↔ SplitsTaken maxLen h (taken ++ [r]) rest := by
  constructor
  · rintro ⟨pre, r', post, hqueue, hmem, hoffset, hdata, hroom⟩
    cases pre with
    | nil =>
      obtain ⟨rfl, rfl⟩ := cons.inj hqueue
      rw [append_nil] at hroom
      rw [fullSize] at hfits
      omega
    | cons r'' pre =>
      obtain ⟨rfl, rfl⟩ := cons.inj hqueue
      exact ⟨pre, r', post, rfl, by simpa using hmem, hoffset, hdata, by simpa using hroom⟩
  · rintro ⟨pre, r', post, rfl, hmem, hoffset, hdata, hroom⟩
    exact ⟨r :: pre, r', post, rfl, by simpa using hmem, hoffset, hdata, by simpa using hroom⟩

/-- A frame that does not fit as a whole is where the loop ends. -/
theorem splitsTaken_of_not_fits {taken : List FrameRef}
    (hfits : maxLen < h.sizes taken + (h.frame r).fullSize) (rest : List FrameRef) :
    SplitsTaken maxLen h taken (r :: rest) ↔ r ∈ taken ∧ (h.frame r).offset = 0 ∧
      1 < (h.frame r).dataLen ∧ h.sizes taken + (h.frame r).fullHeader + 1 = maxLen := by
  constructor
  · rintro ⟨pre, r', post, hqueue, hmem, hoffset, hdata, hroom⟩
    cases pre with
    | nil =>
      obtain ⟨rfl, rfl⟩ := cons.inj hqueue
      rw [append_nil] at hmem hroom
      exact ⟨hmem, hoffset, hdata, hroom⟩
    | cons r'' pre =>
      obtain ⟨rfl, rfl⟩ := cons.inj hqueue
      rw [sizes_append, sizes_cons] at hroom
      omega
  · rintro ⟨hmem, hoffset, hdata, hroom⟩
    exact ⟨[], r, rest, rfl, by simpa using hmem, hoffset, hdata, by simpa using hroom⟩

/-- The loop over the retransmission queue, by induction on the queue. -/
theorem popRetransmissions_counted (maxLen : Nat) (queue : List FrameRef) (heap : FrameHeap)
    (fc : FlowControlManager) (res : List FrameRef) (currentLen : Nat)
    (hqueue : ∀ r ∈ queue, r < heap.next) (hres : ∀ r ∈ res, r < heap.next)
    (hlen : currentLen = heap.sizes res) (hle : currentLen ≤ maxLen) :
    Counted maxLen heap res queue (popRetransmissions maxLen heap fc res currentLen queue) := by
  induction queue generalizing heap fc res currentLen with
  | nil =>
    have hnot : ¬SplitsTaken maxLen heap res [] := by
      rintro ⟨pre, r, post, hnil, -⟩
      simp at hnil
    exact ⟨hle, hres, fun _ => hlen.ge, fun h => absurd h hnot⟩
  | cons r rest ih =>
    have hr : r < heap.next := hqueue r mem_cons_self
    have hheader : ((heap.mark r).frame r).minLength = (heap.frame r).fullHeader := by
      rw [mark, modify_frame_self]
      rfl
    have hdata : ((heap.mark r).frame r).dataLen = (heap.frame r).dataLen := by
      rw [mark, modify_frame_self]
      rfl
    have hsize : (heap.frame r).fullSize = (heap.frame r).fullHeader + (heap.frame r).dataLen := rfl
    unfold popRetransmissions
    dsimp only
    rw [← mark, hheader, hdata]
    split
    · -- no room for a byte of the frame
      next hstop =>
      have hnot : ¬SplitsTaken maxLen heap res (r :: rest) := by
        rintro ⟨pre, r', post, hpre, hmem, hoffset, hlong, hroom⟩
        cases pre with
        | nil =>
          obtain ⟨rfl, rfl⟩ := cons.inj hpre
          rw [append_nil] at hroom
          omega
        | cons r'' pre =>
          obtain ⟨rfl, rfl⟩ := cons.inj hpre
          rw [sizes_append, sizes_cons] at hroom
          omega
      exact ⟨hle, hres, fun _ => by rw [sizes_mark, hlen], fun h => absurd h hnot⟩
    · next hstart =>
      split
      · next hwhole =>
        have hmore := ih (heap.mark r) (fc.addBytesRetrans ((heap.mark r).frame r).streamID
            (heap.frame r).dataLen) (res ++ [r])
          (currentLen + (heap.frame r).fullHeader + (heap.frame r).dataLen)
          (fun x hx => hqueue x (mem_cons_of_mem _ hx))
          (by
            intro x hx
            rcases mem_append.mp hx with hx | hx
            · exact hres x hx
            · exact mem_singleton.mp hx ▸ hr)
          (by rw [sizes_mark, sizes_append, sizes_cons, sizes_nil, hlen, hsize]; omega)
          (by omega)
        have hiff : SplitsTaken maxLen (heap.mark r) (res ++ [r]) rest ↔
            SplitsTaken maxLen heap res (r :: rest) := by
          rw [splitsTaken_mark, splitsTaken_cons (by omega)]
        exact ⟨hmore.le, hmore.valid, fun h => hmore.fits (hiff.not.mpr h),
          fun h => hmore.exceeds (hiff.mpr h)⟩
      · -- the front goes into a new object
        next hsplit =>
        generalize hn : maxLen - (currentLen + (heap.frame r).fullHeader) = n at hsplit ⊢
        have hoffset : ((heap.mark r).frame r).offset = (heap.frame r).offset := by
          rw [mark, modify_frame_self]
        have hfront : (((heap.mark r).splitOff r n).frame heap.next).fullSize =
            (heap.frame r).fullHeader + n := by
          have hnext := splitOff_next (h := heap.mark r) hr n
          rw [show (heap.mark r).next = heap.next from rfl] at hnext
          rw [hnext, fullSize_splitFirst _ (by omega), ← hheader]
          rw [mark, modify_frame_self]
          rfl
        obtain ⟨hgrow, hshrink⟩ := sizes_splitOff (h := heap.mark r) hr (n := n) (by omega)
          (by omega) hres
        rw [hoffset, sizes_mark] at hgrow hshrink
        have hiff := splitsTaken_of_not_fits
          (show maxLen < heap.sizes res + (heap.frame r).fullSize by omega) rest
        have hsizes : ((heap.mark r).splitOff r n).sizes (res ++ [heap.next]) =
            ((heap.mark r).splitOff r n).sizes res + ((heap.frame r).fullHeader + n) := by
          rw [sizes_append, sizes_cons, sizes_nil, hfront]
          rfl
        refine ⟨by dsimp only; omega, ?_, ?_, ?_⟩
        · intro x hx
          rcases mem_append.mp hx with hx | hx
          · exact (hres x hx).trans (Nat.lt_succ_self _)
          · rw [mem_singleton.mp hx]
            exact Nat.lt_succ_self _
        · intro hnot
          refine hsizes.le.trans ?_
          rw [hiff] at hnot
          dsimp only
          by_cases hone : (heap.frame r).offset = 0 ∧ n = 1
          · have hcount : res.count r = 0 := by
              rw [count_eq_zero]
              exact fun hmem => hnot ⟨hmem, hone.1, by omega, by omega⟩
            omega
          · have := hshrink hone
            omega
        · intro hbad
          obtain ⟨hmem, hzero, hlong, hroom⟩ := hiff.mp hbad
          have hcount : 0 < res.count r := count_pos_iff.mpr hmem
          refine ⟨by dsimp only; omega, lt_of_lt_of_eq ?_ hsizes.symm, res, heap.next, rfl,
            fun h => (hres _ h).false⟩
          omega

/-! ## New frames -/

/-- What the iteration over the streams has made so far: new objects, as long as counted. -/
structure Made (h : FrameHeap) (maxBytes : Nat) (st : NormalState) : Prop where
  next_le : h.next ≤ st.heap.next
  old : ∀ r < h.next, st.heap.frame r = h.frame r
  valid : ∀ r ∈ st.res, r < st.heap.next
  sizes : st.heap.sizes st.res = st.currentLen
  le : st.currentLen ≤ maxBytes

/-- A frame that is made is a new object of the heap, as long as its length was counted. -/
theorem Made.push {params : ConnectionParameters} {s s' : Stream} {st st' : NormalState}
    (hst : Made h maxBytes st) {frame : StreamFrame}
    (hpush : Pushes params maxBytes s s' st st' frame) : Made h maxBytes st' := by
  have hsame : ∀ r < st.heap.next, st'.heap.frame r = st.heap.frame r := by
    intro r hr
    rw [hpush.heap, alloc_frame_of_ne _ _ hr.ne]
  have hnext : st'.heap.next = st.heap.next + 1 := by rw [hpush.heap, alloc_next]
  refine ⟨?_, ?_, ?_, ?_, hpush.currentLen.trans_le hpush.fits⟩
  · exact hst.next_le.trans (hnext ▸ Nat.le_succ _)
  · intro r hr
    rw [hsame r (hr.trans_le hst.next_le), hst.old r hr]
  · intro r hr
    rw [hpush.res] at hr
    rw [hnext]
    rcases mem_append.mp hr with hr | hr
    · exact (hst.valid r hr).trans (Nat.lt_succ_self _)
    · exact mem_singleton.mp hr ▸ Nat.lt_succ_self _
  · have hnew : st'.heap.frame st.heap.next = frame := by rw [hpush.heap, alloc_frame_next]
    have hold : st'.heap.sizes st.res = st.heap.sizes st.res :=
      sizes_congr fun r hr => by rw [hsame r (hst.valid r hr)]
    rw [hpush.res, sizes_append, sizes_cons, sizes_nil, hnew, hold, hst.sizes, hpush.currentLen,
      ← size_eq_fullSize hpush.lengthPresent, size]
    omega

theorem Made.popNormalFrame {st : NormalState} (hst : Made h maxBytes st)
    (params : ConnectionParameters) (s : Stream) :
    Made h maxBytes (StreamFramer.popNormalFrame params maxBytes s st).2.1 := by
  rcases popNormalFrame_pushes params maxBytes s st with ⟨-, hsame⟩ | ⟨frame, hpush⟩
  · rwa [hsame]
  · exact hst.push hpush

/-- The new frames fit into the room there is, and no other frame changes. -/
theorem maybePopNormalFrames_made (h : f.maybePopNormalFrames maxBytes = .ok (f', fs)) :
    (∀ r < f.heap.next, f'.heap.frame r = f.heap.frame r) ∧ f'.heap.sizes fs ≤ maxBytes := by
  unfold maybePopNormalFrames at h
  dsimp only at h
  generalize hiter : f.streamsMap.roundRobinIterate _ _ = r at h
  rcases r with e | ⟨m, st⟩
  · cases h
  have hst : Made f.heap maxBytes st :=
    StreamsMap.roundRobinIterate_rule (P := fun _ st => Made f.heap maxBytes st)
      (fun _ _ _ str h _ => h.popNormalFrame f.connectionParameters str)
      (fun _ _ _ _ h => h) ⟨le_rfl, fun _ _ => rfl, by simp, rfl, Nat.zero_le _⟩ hiter
  obtain ⟨rfl, rfl⟩ := Prod.mk.inj (Except.ok.inj h)
  exact ⟨hst.old, hst.sizes.trans_le hst.le⟩

/-! ## The stream frames of a packet -/

theorem eq_nil_of_sizes_le_zero (hzero : h.sizes fs ≤ 0) : fs = [] := by
  cases fs with
  | nil => rfl
  | cons r fs =>
    have := (h.frame r).fullHeader_pos
    rw [sizes_cons, fullSize] at hzero
    omega

/-- The frames are longer than `maxLen` exactly if a frame that has been taken already is split
after its first byte; then the last frame is the one split off. -/
theorem popStreamFrames_sizes (hvalid : f.QueueValid)
    (h : f.popStreamFrames maxLen = .ok (f', fs)) :
    (¬SplitsTaken maxLen f.heap [] f.retransmissionQueue → f'.heap.sizes fs ≤ maxLen) ∧
      (SplitsTaken maxLen f.heap [] f.retransmissionQueue → maxLen < f'.heap.sizes fs ∧
        ∃ front last, fs = front ++ [last] ∧ last ∉ front) := by
  have hcounted := popRetransmissions_counted maxLen f.retransmissionQueue f.heap
    f.flowControlManager [] 0 hvalid (by simp) rfl (Nat.zero_le _)
  unfold popStreamFrames maybePopFramesForRetransmission at h
  dsimp only at h
  generalize popRetransmissions maxLen f.heap f.flowControlManager [] 0 f.retransmissionQueue = st
    at h hcounted
  generalize hnormal : maybePopNormalFrames _ (maxLen - st.currentLen) = r at h
  rcases r with e | ⟨f₂, fs₂⟩
  · cases h
  change Except.ok (f₂, st.res ++ fs₂) = .ok (f', fs) at h
  obtain ⟨rfl, rfl⟩ := Prod.mk.inj (Except.ok.inj h)
  obtain ⟨hold, hnew⟩ := maybePopNormalFrames_made hnormal
  have hres : f₂.heap.sizes st.res = st.heap.sizes st.res :=
    sizes_congr fun r hr => by rw [hold r (hcounted.valid r hr)]
  have hle := hcounted.le
  constructor
  · intro hnot
    have := hcounted.fits hnot
    rw [sizes_append, hres]
    omega
  · intro hsplits
    obtain ⟨hfull, hexceeds, hlast⟩ := hcounted.exceeds hsplits
    -- there is no room for new frames
    have hnil : fs₂ = [] := eq_nil_of_sizes_le_zero (hnew.trans (by omega))
    rw [hnil, append_nil, hres]
    exact ⟨hexceeds, hlast⟩

theorem maybePopNormalFrames_ok (f : StreamFramer) (maxBytes : Nat)
    (hlisted : f.streamsMap.Listed) :
    ∃ r, f.maybePopNormalFrames maxBytes = .ok r := by
  unfold maybePopNormalFrames
  dsimp only
  obtain ⟨r, hr⟩ := StreamsMap.roundRobinIterate_ok
    (popNormalFrame f.connectionParameters maxBytes) hlisted _
  rw [hr]
  exact ⟨_, rfl⟩

theorem popStreamFrames_ok (f : StreamFramer) (maxLen : Nat) (hlisted : f.streamsMap.Listed) :
    ∃ r, f.popStreamFrames maxLen = .ok r := by
  unfold popStreamFrames
  dsimp only
  obtain ⟨r, hr⟩ := maybePopNormalFrames_ok (f.maybePopFramesForRetransmission maxLen).1
    (maxLen - (f.maybePopFramesForRetransmission maxLen).2.2) hlisted
  rw [hr]
  exact ⟨_, rfl⟩

end StreamFramer
end MpQuic
