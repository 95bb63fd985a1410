import MpQuic.Stream

/-!
# The end of a stream

The FIN bit travels with a frame object that `Push` may trim at either end or
drop as a duplicate.  A frame that loses its tail keeps its FIN bit, and then
`Read` reports the end of the stream too early (`eof_before_end`); a FIN frame
dropped as a duplicate takes the FIN bit with it.  `FinSafe` is the condition on an
arriving frame under which neither happens: a frame with data and FIN still
brings the last byte of the stream, or repeats a stream whose end is known.
-/
namespace MpQuic
open List Function StreamFrameSorter

open Systems (Machine)
open Systems.Interval (Covers)

/-! ## The queue and the final size -/

/-- The bytes of the frames in a list. -/
def Received (frames : List StreamFrame) (x : Nat) : Prop :=
  ∃ f ∈ frames, f.offset ≤ x ∧ x < f.stop

namespace StreamFrameSorter
variable {content : Nat → Byte} {F : Nat} {received : Nat → Prop} {s s' : StreamFrameSorter}
  {frame f : StreamFrame}

/-- A frame with the FIN bit is queued. -/
def FinQueued (s : StreamFrameSorter) : Prop :=
  ∃ k g, s.queuedFrames k = some g ∧ g.finBit = true

/-- The invariant of a sorter that receives a stream of length `F`: every FIN bit in the queue
is at `F`, and of the frames with data at most one ends there, and only until it is read. -/
structure FinValid (content : Nat → Byte) (F : Nat) (received : Nat → Prop)
    (s : StreamFrameSorter) : Prop where
  valid : s.Valid content received
  received_lt : ∀ x, received x → x < F
  readPosition_le : s.readPosition ≤ F
  fin_stop : ∀ k g, s.queuedFrames k = some g → g.finBit = true → g.stop = F
  empty_fin : ∀ k g, s.queuedFrames k = some g → g.dataLen = 0 → g.finBit = true
  last_unique : ∀ k g k' g', s.queuedFrames k = some g → s.queuedFrames k' = some g' →
    0 < g.dataLen → g.stop = F → 0 < g'.dataLen → g'.stop = F → k = k'
  last_read : ∀ k g, s.queuedFrames k = some g → 0 < g.dataLen → g.stop = F →
    s.readPosition < F

theorem new_finValid (content : Nat → Byte) (F : Nat) :
    new.FinValid content F fun _ => False where
  valid := new_valid content
  received_lt := by simp
  readPosition_le := Nat.zero_le F
  fin_stop := by simp [new]
  empty_fin := by simp [new]
  last_unique := by simp [new]
  last_read := by simp [new]

theorem FinValid.head_stop_le (h : s.FinValid content F received) (hf : s.head = some f) :
    f.stop ≤ F := by
  obtain ⟨hoff, -, hr⟩ := h.valid.frames _ _ hf
  have hstop : f.stop = f.offset + f.dataLen := rfl
  rcases Nat.eq_zero_or_pos f.dataLen with hz | hpos
  · exact (h.fin_stop _ _ hf (h.empty_fin _ _ hf hz)).le
  · have := h.received_lt _ (hr (f.stop - 1) (by omega) (by omega))
    omega

theorem FinValid.pop (h : s.FinValid content F received) (hf : s.head = some f) :
    s.pop.1.FinValid content F received := by
  have hvalid := h.valid.pop hf
  have hle := h.head_stop_le hf
  obtain ⟨hoff, -, -⟩ := h.valid.queued _ _ hf
  have hstop : f.stop = f.offset + f.dataLen := rfl
  rw [pop_of_head hf] at hvalid ⊢
  have hq : ∀ k g, update s.queuedFrames f.offset none k = some g →
      k ≠ f.offset ∧ s.queuedFrames k = some g := by
    intro k g hk
    by_cases hkf : k = f.offset
    · subst hkf
      simp at hk
    · exact ⟨hkf, by simpa [update_of_ne hkf] using hk⟩
  refine ⟨hvalid, h.received_lt, by dsimp only; omega, fun k g hk => h.fin_stop k g (hq k g hk).2,
    fun k g hk => h.empty_fin k g (hq k g hk).2,
    fun k g k' g' hk hk' => h.last_unique k g k' g' (hq k g hk).2 (hq k' g' hk').2, ?_⟩
  intro k g hk hpos hgF
  obtain ⟨hne, hk⟩ := hq k g hk
  have hread := h.last_read k g hk hpos hgF
  dsimp only
  refine lt_of_le_of_ne (by omega) fun hF => ?_
  -- the popped frame ends at `F` too, so it is the only one
  refine hne (h.last_unique k g _ f hk (hoff ▸ hf) hpos hgF ?_ ?_) <;> omega

theorem FinQueued.pop (h : s.FinQueued) (hf : s.head = some f) (hoff : f.offset = s.readPosition)
    (hfin : f.finBit = false) : s.pop.1.FinQueued := by
  obtain ⟨k, g, hk, hg⟩ := h
  rw [pop_of_head hf]
  refine ⟨k, g, ?_, hg⟩
  have hne : k ≠ f.offset := by
    rintro rfl
    rw [hoff] at hk
    obtain rfl : f = g := Option.some.inj (hf.symm.trans hk)
    rw [hfin] at hg
    cases hg
  simpa [update_of_ne hne] using hk

/-- No frame queued before ends where the inserted one does, so of those with data still at most one
ends at `F`. -/
theorem Inserted.finValid (hins : Inserted s frame f s') (h : s.FinValid content F received)
    (hagree : frame.AgreesWith content) (hle : frame.stop ≤ F)
    (hfin : frame.finBit = true → frame.stop = F)
    (hlast : frame.finBit = true → Covers s.gaps (frame.stop - 1)) :
    s'.FinValid content F fun x => received x ∨ frame.offset ≤ x ∧ x < frame.stop := by
  have hlt := hins.lt
  have hstopf : f.stop = f.offset + f.dataLen := rfl
  have hfle := hins.stop_le
  have hread := hins.readPosition_le h.valid.readPosition_le
  -- no frame queued before ends where the new one does
  have hnew : ∀ k g, s.queuedFrames k = some g → 0 < g.dataLen → g.stop = f.stop → False := by
    intro k g hk hpos hg
    obtain ⟨hoff, -, hdis⟩ := h.valid.queued k g hk
    have hstopg : g.stop = g.offset + g.dataLen := rfl
    exact hdis (f.stop - 1) (by omega) (by omega) hins.covers_last
  have hq : ∀ k g, s'.queuedFrames k = some g →
      k = f.offset ∧ g = f ∨ k ≠ f.offset ∧ s.queuedFrames k = some g := by
    intro k g hk
    by_cases hkf : k = f.offset
    · subst hkf
      exact .inl ⟨rfl, (Option.some.inj (hins.queued_self.symm.trans hk)).symm⟩
    · rcases hins.queued k hkf with hq | ⟨hq, -⟩
      · exact .inr ⟨hkf, hq ▸ hk⟩
      · rw [hq] at hk
        cases hk
  constructor
  · exact hins.valid h.valid hagree
  · rintro x (hx | hx)
    · exact h.received_lt x hx
    · omega
  · rw [hins.readPosition]
    exact h.readPosition_le
  · intro k g hk hg
    rcases hq k g hk with ⟨-, rfl⟩ | ⟨-, hk⟩
    · rw [hins.finBit] at hg
      have hoff := hins.offset_le
      have := (hins.covers (frame.stop - 1) (by omega) (by omega) (hlast hg)).2
      have := hfin hg
      omega
    · exact h.fin_stop k g hk hg
  · intro k g hk hz
    rcases hq k g hk with ⟨-, rfl⟩ | ⟨-, hk⟩
    · omega
    · exact h.empty_fin k g hk hz
  · intro k g k' g' hk hk' hpos hg hpos' hg'
    rcases hq k g hk with ⟨rfl, rfl⟩ | ⟨-, hk⟩ <;> rcases hq k' g' hk' with ⟨rfl, rfl⟩ | ⟨-, hk'⟩
    · rfl
    · exact (hnew k' g' hk' hpos' (hg'.trans hg.symm)).elim
    · exact (hnew k g hk hpos (hg.trans hg'.symm)).elim
    · exact h.last_unique k g k' g' hk hk' hpos hg hpos' hg'
  · intro k g hk hpos hg
    rw [hins.readPosition]
    rcases hq k g hk with ⟨rfl, rfl⟩ | ⟨-, hk⟩
    · omega
    · exact h.last_read k g hk hpos hg

/-- An accepted frame leaves a queued FIN in place. -/
theorem Inserted.finQueued (hins : Inserted s frame f s') (h : s.FinValid content F received)
    (hle : frame.stop ≤ F) (hq : s.FinQueued) : s'.FinQueued := by
  obtain ⟨k, g, hk, hg⟩ := hq
  have hgF := h.fin_stop k g hk hg
  obtain ⟨hoff, -, hdis⟩ := h.valid.queued k g hk
  have hlt := hins.lt
  have hfle := hins.stop_le
  refine ⟨k, g, ?_, hg⟩
  have hne : k ≠ f.offset := by
    rintro rfl
    exact hdis _ le_rfl (by omega) hins.covers_offset
  rcases hins.queued k hne with hq | ⟨-, hlo, hhi⟩
  · rw [hq, hk]
  · exact (hdis (f.stop - 1) (by omega) (by omega) hins.covers_last).elim

/-- An empty FIN frame at the final size is queued as it is. -/
theorem FinValid.push_empty (h : s.FinValid content F received) (hz : frame.dataLen = 0)
    (hfin : frame.finBit = true) (hstop : frame.stop = F) :
    s.push frame = ({ s with
      queuedFrames := update s.queuedFrames frame.offset (some frame) }, none) ∧
    (s.push frame).1.FinValid content F received := by
  have hpush : s.push frame = ({ s with
      queuedFrames := update s.queuedFrames frame.offset (some frame) }, none) := by
    simp only [push, hz, hfin, if_true]
  have hoff : frame.offset = F := by
    have : frame.stop = frame.offset + frame.dataLen := rfl
    omega
  have hcov : ¬ F < maxByteCount ∨ Covers s.gaps F := by
    by_cases hmax : F < maxByteCount
    · exact .inr ((h.valid.covers_iff F).2 ⟨hmax, fun hr => lt_irrefl F (h.received_lt F hr)⟩)
    · exact .inl hmax
  refine ⟨hpush, ?_⟩
  rw [hpush]
  have hq : ∀ k g, update s.queuedFrames frame.offset (some frame) k = some g →
      k = F ∧ g = frame ∨ s.queuedFrames k = some g := by
    intro k g hk
    by_cases hkf : k = frame.offset
    · subst hkf
      rw [update_self] at hk
      exact .inl ⟨hoff, (Option.some.inj hk).symm⟩
    · exact .inr (by simpa [update_of_ne hkf] using hk)
  have hv := h.valid
  constructor
  · refine ⟨hv.separated, hv.covers_iff, hv.received_lt, hv.readPosition_le, ?_, ?_⟩
    · intro k g hk
      rcases hq k g hk with ⟨rfl, rfl⟩ | hk
      · refine ⟨hoff, ?_, fun x hx hxs => by omega⟩
        have hdata : g.data = [] := eq_nil_of_length_eq_zero hz
        rw [StreamFrame.AgreesWith, hz, hdata]
        rfl
      · exact hv.frames k g hk
    · obtain ⟨cut, hc⟩ := hv.cuts
      refine ⟨cut, hc.read, hc.gap_stop, hc.gap_start, fun x hx hmax hnc => ?_⟩
      have hne : x ≠ frame.offset := by
        rintro rfl
        rcases hcov with hF | hF
        · omega
        · exact hnc (hoff.symm ▸ hF)
      obtain ⟨f, hf, hf'⟩ := hc.frame x hx hmax hnc
      exact ⟨f, by simpa [update_of_ne hne] using hf, hf'⟩
  · exact h.received_lt
  · exact h.readPosition_le
  · intro k g hk hg
    rcases hq k g hk with ⟨-, rfl⟩ | hk
    · exact hstop
    · exact h.fin_stop k g hk hg
  · intro k g hk hgz
    rcases hq k g hk with ⟨-, rfl⟩ | hk
    · exact hfin
    · exact h.empty_fin k g hk hgz
  · intro k g k' g' hk hk' hpos hg hpos' hg'
    rcases hq k g hk with ⟨-, rfl⟩ | hk
    · omega
    · rcases hq k' g' hk' with ⟨-, rfl⟩ | hk'
      · omega
      · exact h.last_unique k g k' g' hk hk' hpos hg hpos' hg'
  · intro k g hk hpos hg
    rcases hq k g hk with ⟨-, rfl⟩ | hk
    · omega
    · exact h.last_read k g hk hpos hg

end StreamFrameSorter

/-! ## Reading -/

/-- The bytes `[start, start + n)` of a stream. -/
def slice (content : Nat → Byte) (start n : Nat) : List Byte :=
  (range n).map fun i => content (start + i)

@[simp] theorem length_slice (content : Nat → Byte) (start n : Nat) :
    (slice content start n).length = n := by
  simp [slice]

theorem slice_append (content : Nat → Byte) (start n m : Nat) :
    slice content start n ++ slice content (start + n) m = slice content start (n + m) := by
  simp only [slice, range_add, map_append, map_map]
  congr 1
  refine map_congr_left fun i _ => ?_
  simp [Nat.add_assoc]

theorem StreamFrame.AgreesWith.drop_take {content : Nat → Byte} {f : StreamFrame}
    (h : f.AgreesWith content) (p n : Nat) :
    (f.data.drop p).take n = slice content (f.offset + p) (min n (f.dataLen - p)) := by
  have hcut := (h.cutFront p).keepFront n
  rw [AgreesWith, keepFront_dataLen, cutFront_dataLen, keepFront_offset, cutFront_offset] at hcut
  exact hcut

namespace Stream
variable {content : Nat → Byte} {F : Nat} {received : Nat → Prop} {s : Stream}

/-- The invariant of a stream of length `F` that is being read. -/
structure Reading (content : Nat → Byte) (F : Nat) (received : Nat → Prop) (s : Stream) :
    Prop where
  queue : s.frameQueue.FinValid content F received
  cancelled : s.cancelled = false
  resetLocally : s.resetLocally = false
  err : s.err = none
  readDeadline : s.readDeadline = none
  readPosition_le : s.frameQueue.readPosition ≤ s.readOffset
  partly : s.frameQueue.readPosition < s.readOffset →
    ∃ f, s.frameQueue.head = some f ∧ s.readOffset < f.stop
  finished : s.finishedReading = true → s.readOffset = F

theorem new_reading (content : Nat → Byte) (F streamID : Nat) :
    (new streamID).Reading content F fun _ => False where
  queue := new_finValid content F
  cancelled := rfl
  resetLocally := rfl
  err := rfl
  readDeadline := rfl
  readPosition_le := le_rfl
  partly := fun h => absurd h (lt_irrefl 0)
  finished := nofun

/-- The end of the stream is known: it has been read, or it is in the queue. -/
def FinKept (s : Stream) : Prop :=
  s.finishedReading = true ∨ s.frameQueue.FinQueued

/-- What one step of reading from `s` to `s'` with the bytes `data` returned comes to. -/
structure Advances (content : Nat → Byte) (F : Nat) (received : Nat → Prop) (s : Stream)
    (data : List Byte) (s' : Stream) : Prop where
  reading : s'.Reading content F received
  data_eq : data = slice content s.readOffset data.length
  readOffset : s'.readOffset = s.readOffset + data.length
  finKept : s.FinKept → s'.FinKept
  finished : s.finishedReading = true → s'.finishedReading = true

section

variable (h : s.Reading content F received)
include h

theorem Reading.readOffset_le_head {frame : StreamFrame} (hf : s.frameQueue.head = some frame) :
    s.readOffset ≤ frame.stop := by
  obtain ⟨hoff, -, -⟩ := h.queue.valid.queued _ _ hf
  have hstop : frame.stop = frame.offset + frame.dataLen := rfl
  rcases h.readPosition_le.eq_or_lt with heq | hlt
  · omega
  · obtain ⟨f, hf', hlt'⟩ := h.partly hlt
    obtain rfl : f = frame := Option.some.inj (hf'.symm.trans hf)
    exact hlt'.le

/-- One iteration: it makes progress, or it returns the end of the stream at `F`. -/
theorem Reading.readFrame {frame : StreamFrame} (hf : s.frameQueue.head = some frame) {room : Nat}
    (hroom : 0 < room) (hfin : s.finishedReading = false)
    (hpos : s.readPosInFrame = (s.readOffset : Int) - frame.offset) :
    ∃ s' data out, s.readFrame frame room = (s', data, out) ∧ data.length ≤ room ∧
      s.Advances content F received data s' ∧
      (out = none ∧ 0 < data.length ∧ s'.finishedReading = false ∨
        out = some (some .eof) ∧ s'.finishedReading = true) := by
  obtain ⟨hoff, hagree, -⟩ := h.queue.valid.queued _ _ hf
  have hle := h.readOffset_le_head hf
  have hRle := h.readPosition_le
  have hstop : frame.stop = frame.offset + frame.dataLen := rfl
  have hnat : s.readPosInFrame.toNat = s.readOffset - frame.offset := by omega
  have hdata := hagree.drop_take (s.readOffset - frame.offset) room
  rw [show frame.offset + (s.readOffset - frame.offset) = s.readOffset by omega] at hdata
  generalize hn : min room (frame.dataLen - (s.readOffset - frame.offset)) = n at hdata
  have hslice : slice content s.readOffset n =
      slice content s.readOffset (slice content s.readOffset n).length := by rw [length_slice]
  unfold Stream.readFrame
  rw [if_neg (by omega)]
  simp only [hnat, hdata, length_slice]
  by_cases hend : (frame.dataLen : Int) ≤ s.readPosInFrame + n
  · have hqpop := h.queue.pop hf
    have hread' : s.frameQueue.pop.1.readPosition = s.readOffset + n := by
      rw [pop_of_head hf]
      dsimp only
      omega
    rw [if_pos hend]
    by_cases hfb : frame.finBit = true
    · have hF := h.queue.fin_stop _ _ hf hfb
      rw [if_pos hfb]
      refine ⟨_, _, _, rfl, by rw [length_slice]; omega, ⟨⟨hqpop, h.cancelled, h.resetLocally,
        h.err, h.readDeadline, hread'.le, fun hlt => ?_, fun _ => by dsimp only; omega⟩, hslice,
        by rw [length_slice], fun _ => .inl rfl, fun _ => rfl⟩, .inr ⟨rfl, rfl⟩⟩
      exact absurd hread' hlt.ne
    · have hnpos : 0 < n := by
        rcases Nat.eq_zero_or_pos frame.dataLen with hz | hfpos
        · exact absurd (h.queue.empty_fin _ _ hf hz) hfb
        · rcases hRle.eq_or_lt with heq | hlt
          · omega
          · obtain ⟨f, hf', hlt'⟩ := h.partly hlt
            obtain rfl : f = frame := Option.some.inj (hf'.symm.trans hf)
            omega
      rw [if_neg hfb]
      refine ⟨_, _, _, rfl, by rw [length_slice]; omega, ⟨⟨hqpop, h.cancelled, h.resetLocally,
        h.err, h.readDeadline, hread'.le, fun hlt => ?_, fun hft => ?_⟩, hslice,
        by rw [length_slice], fun hk => ?_, id⟩,
        .inl ⟨rfl, by rw [length_slice]; exact hnpos, hfin⟩⟩
      · exact absurd hread' hlt.ne
      · rw [hfin] at hft
        cases hft
      · rcases hk with hk | hk
        · exact .inl hk
        · exact .inr (hk.pop hf hoff (by simpa using hfb))
  · rw [if_neg hend]
    have hlt : s.readOffset + n < frame.stop := by omega
    refine ⟨_, _, _, rfl, by rw [length_slice]; omega, ⟨⟨h.queue, h.cancelled, h.resetLocally,
      h.err, h.readDeadline, by dsimp only; omega, fun _ => ⟨frame, hf, hlt⟩, fun hft => ?_⟩,
      hslice, by rw [length_slice], id, id⟩,
      .inl ⟨rfl, by rw [length_slice]; omega, hfin⟩⟩
    rw [hfin] at hft
    cases hft

theorem Advances.refl : s.Advances content F received [] s :=
  ⟨h, rfl, rfl, id, id⟩

end

theorem Advances.trans {s' s'' : Stream} {data data' : List Byte}
    (h : s.Advances content F received data s')
    (h' : s'.Advances content F received data' s'') :
    s.Advances content F received (data ++ data') s'' := by
  refine ⟨h'.reading, ?_, ?_, fun hk => h'.finKept (h.finKept hk),
    fun hf => h'.finished (h.finished hf)⟩
  · rw [length_append, ← slice_append, ← h.data_eq, ← h.readOffset, ← h'.data_eq]
  · rw [h'.readOffset, h.readOffset, length_append, Nat.add_assoc]

theorem Reading.setPos (h : s.Reading content F received) (p : Int) :
    ({ s with readPosInFrame := p } : Stream).Reading content F received :=
  ⟨h.queue, h.cancelled, h.resetLocally, h.err, h.readDeadline, h.readPosition_le, h.partly,
    h.finished⟩

/-- How `Read` ends, having returned `data`: the buffer is full, the queue ran dry, the end of
the stream was read, or there was nothing to read. -/
inductive ReadOutcome (len : Nat) (s : Stream) (data : List Byte) (s' : Stream) :
    ReadResult → Prop
  | full : data.length = len → ReadOutcome len s data s' (.returned data none)
  | dry : 0 < data.length → s'.frameQueue.head = none → s'.finishedReading = false →
      ReadOutcome len s data s' (.returned data none)
  | eof : s'.finishedReading = true → ReadOutcome len s data s' (.returned data (some .eof))
  | blocked : s' = s → data = [] → s.frameQueue.head = none → s.finishedReading = false →
      ReadOutcome len s data s' .blocked

/-- The loop by induction on its fuel: every iteration fills at least one byte, so the buffer is
full before the fuel is used up. -/
theorem Reading.readLoop (clock : Nat → Int) (len fuel : Nat) :
    ∀ (s0 s : Stream) (acc : List Byte), s0.Advances content F received acc s →
      (acc = [] → s = s0) → s.finishedReading = false → acc.length ≤ len →
      len ≤ acc.length + fuel →
      ∃ s' data res, s.readLoop clock len fuel acc = (s', res) ∧
        s0.Advances content F received data s' ∧ ReadOutcome len s0 data s' res := by
  induction fuel with
  | zero =>
    intro s0 s acc hadv _ _ hle hlen
    have hfull : ¬ acc.length < len := by omega
    refine ⟨s, acc, _, rfl, hadv, ?_⟩
    rw [if_neg hfull]
    exact .full (by omega)
  | succ fuel ih =>
    intro s0 s acc hadv hsame hfin hle hlen
    have hr := hadv.reading
    have hbusy : (s.resetLocally || s.cancelled) = false := by
      rw [hr.resetLocally, hr.cancelled, Bool.or_self]
    have hdeadline : s.deadlineExceeded (clock fuel) = false := by
      simp only [deadlineExceeded, hr.readDeadline]
    unfold Stream.readLoop
    split
    · exact ⟨s, acc, _, rfl, hadv, .full (by omega)⟩
    · next hroom =>
      cases hhead : s.frameQueue.head with
      | none =>
        by_cases hacc : 0 < acc.length
        · rw [if_pos hacc, hr.err]
          exact ⟨s, acc, _, rfl, hadv, .dry hacc hhead hfin⟩
        · have hnil : acc = [] := eq_nil_of_length_eq_zero (by omega)
          subst hnil
          obtain rfl := hsame rfl
          simp only [length_nil, lt_irrefl, if_false, hbusy, hdeadline, Bool.false_eq_true]
          exact ⟨s, [], _, rfl, hadv, .blocked rfl rfl hhead hfin⟩
      | some frame =>
        obtain ⟨hoff, -, -⟩ := hr.queue.valid.queued _ _ hhead
        have hge := hr.readPosition_le
        have hroom : 0 < len - acc.length := by omega
        obtain ⟨s', data, out, heq, hdle, hadv', hout⟩ :=
          (hr.setPos ((s.readOffset : Int) - frame.offset)).readFrame hhead hroom hfin rfl
        have hneg : ¬ (s.readOffset : Int) - frame.offset < 0 := by omega
        simp only [hbusy, hdeadline, Bool.false_and, Bool.and_false, Bool.false_eq_true, if_false,
          hneg, heq]
        have hadv'' : s0.Advances content F received (acc ++ data) s' :=
          hadv.trans ⟨hadv'.reading, hadv'.data_eq, hadv'.readOffset, hadv'.finKept,
            hadv'.finished⟩
        rcases hout with ⟨rfl, hpos, hfin'⟩ | ⟨rfl, hfin'⟩
        · refine ih s0 s' (acc ++ data) hadv'' (fun hnil => ?_) hfin' ?_ ?_
          · rw [(append_eq_nil_iff.1 hnil).2] at hpos
            exact absurd hpos (lt_irrefl 0)
          · rw [length_append]
            omega
          · rw [length_append]
            omega
        · exact ⟨s', acc ++ data, _, rfl, hadv'', .eof hfin'⟩

/-- **The specification of `Read`** on a running stream. -/
theorem Reading.read (h : s.Reading content F received) (clock : Nat → Int) (len : Nat) :
    ∃ s' data res, s.read clock len = (s', res) ∧ s.Advances content F received data s' ∧
      ReadOutcome len s data s' res := by
  unfold Stream.read
  rw [h.cancelled, h.resetLocally]
  simp only [Bool.or_self, Bool.false_eq_true, if_false]
  by_cases hfin : s.finishedReading = true
  · rw [if_pos hfin]
    exact ⟨s, [], _, rfl, .refl h, .eof hfin⟩
  · rw [if_neg hfin]
    exact Reading.readLoop clock len len s s [] (.refl h) (fun _ => rfl) (by simpa using hfin)
      (Nat.zero_le _) (by simp)

/-! ## Accepting frames -/

/-- The frame belongs to the stream `content` of length `F`, and has FIN only at its end. -/
structure FrameOf (content : Nat → Byte) (F : Nat) (frame : StreamFrame) : Prop where
  agrees : frame.AgreesWith content
  stop_le : frame.stop ≤ F
  fin : frame.finBit = true → frame.stop = F

/-- A frame that carries FIN and data brings the last byte of the stream, or it is a complete
duplicate and the end of the stream is already known. -/
def FinSafe (s : Stream) (frame : StreamFrame) : Prop :=
  frame.finBit = true → 0 < frame.dataLen →
    Covers s.frameQueue.gaps (frame.stop - 1) ∨
      (∀ x, frame.offset ≤ x → x < frame.stop → ¬ Covers s.frameQueue.gaps x) ∧ s.FinKept

section

variable (h : s.Reading content F received)
include h

theorem Reading.congr {received' : Nat → Prop} (heq : ∀ x, received' x ↔ received x) :
    s.Reading content F received' := by
  obtain rfl : received' = received := funext fun x => propext (heq x)
  exact h

theorem Reading.addStreamFrame_inserted {frame f : StreamFrame} {q : StreamFrameSorter}
    (hframe : FrameOf content F frame) (hsafe : s.FinSafe frame)
    (hins : s.frameQueue.Inserted frame f q) :
    ({ s with frameQueue := q } : Stream).Reading content F
      (fun x => received x ∨ frame.offset ≤ x ∧ x < frame.stop) := by
  have hlt := hins.lt
  have hstop := hins.stop_le
  have hstart := hins.offset_le
  have hlen : frame.stop = frame.offset + frame.dataLen := rfl
  have hlast : frame.finBit = true → Covers s.frameQueue.gaps (frame.stop - 1) := by
    intro hfin
    rcases hsafe hfin (by omega) with hc | ⟨hdup, -⟩
    · exact hc
    · exact (hdup f.offset hstart (by omega) hins.covers_offset).elim
  refine ⟨hins.finValid h.queue hframe.agrees hframe.stop_le hframe.fin hlast, h.cancelled,
    h.resetLocally, h.err, h.readDeadline, ?_, ?_, h.finished⟩
  · dsimp only
    rw [hins.readPosition]
    exact h.readPosition_le
  · dsimp only
    rw [hins.readPosition]
    intro hpart
    -- the frame being read stays in its place
    obtain ⟨f0, hf0, hlt0⟩ := h.partly hpart
    have hread := hins.readPosition_le h.queue.valid.readPosition_le
    obtain ⟨hoff0, -, hdis⟩ := h.queue.valid.queued _ _ hf0
    have hne : s.frameQueue.readPosition ≠ f.offset := fun heq =>
      hdis f.offset (by omega) (by omega) hins.covers_offset
    refine ⟨f0, ?_, hlt0⟩
    unfold StreamFrameSorter.head at hf0 ⊢
    rw [hins.readPosition]
    rcases hins.queued _ hne with hq | ⟨-, hq, -⟩
    · rw [hq, hf0]
    · omega

/-- A frame that arrives moves neither the read offset nor the end of reading, and the FIN it brings
is kept. -/
theorem Reading.addStreamFrame {frame : StreamFrame} {s' : Stream}
    (hframe : FrameOf content F frame) (hsafe : s.FinSafe frame)
    (hadd : s.addStreamFrame frame = (s', none)) :
    s'.Reading content F (fun x => received x ∨ frame.offset ≤ x ∧ x < frame.stop) ∧
      s'.readOffset = s.readOffset ∧ s'.finishedReading = s.finishedReading ∧
      (s.FinKept ∨ frame.finBit = true → s'.FinKept) := by
  have hlen : frame.stop = frame.offset + frame.dataLen := rfl
  unfold Stream.addStreamFrame at hadd
  rcases Nat.eq_zero_or_pos frame.dataLen with hz | hpos
  · by_cases hfin : frame.finBit = true
    · have hF := hframe.fin hfin
      obtain ⟨hpush, hvalid⟩ := h.queue.push_empty hz hfin hF
      rw [hpush] at hadd hvalid
      cases hadd
      refine ⟨Reading.congr (?_ : Stream.Reading content F received _) fun x => ?_, rfl, rfl,
        fun _ => .inr ⟨frame.offset, frame, update_self .., hfin⟩⟩
      · refine ⟨hvalid, h.cancelled, h.resetLocally, h.err, h.readDeadline, h.readPosition_le,
          fun hpart => ?_, h.finished⟩
        obtain ⟨f0, hf0, hlt0⟩ := h.partly hpart
        have := h.queue.head_stop_le hf0
        have hpart' : s.frameQueue.readPosition < s.readOffset := hpart
        refine ⟨f0, ?_, hlt0⟩
        unfold StreamFrameSorter.head at hf0 ⊢
        dsimp only
        rw [update_of_ne (by omega), hf0]
      · exact ⟨fun hx => hx.elim id fun hx => by omega, .inl⟩
    · simp [push, hz, hfin] at hadd
  · have hout := h.queue.valid.push_outcome hpos
    generalize s.frameQueue.push frame = res at hout hadd
    cases hout with
    | duplicate hdup =>
      cases hadd
      refine ⟨h.congr fun x => ⟨fun hx => hx.elim id fun hx => ?_, .inl⟩, rfl, rfl, ?_⟩
      · by_contra hr
        obtain ⟨hmax, hnc⟩ := hdup x hx.1 hx.2
        exact hnc ((h.queue.valid.covers_iff x).2 ⟨hmax, hr⟩)
      · rintro (hk | hfin)
        · exact hk
        · rcases hsafe hfin hpos with hc | ⟨-, hk⟩
          · exact ((hdup _ (by omega) (by omega)).2 hc).elim
          · exact hk
    | @inserted f q hins =>
      cases hadd
      refine ⟨h.addStreamFrame_inserted hframe hsafe hins, rfl, rfl, ?_⟩
      rintro ((hk | hk) | hfin)
      · exact .inl hk
      · exact .inr (hins.finQueued h.queue hframe.stop_le hk)
      · exact .inr ⟨_, f, hins.queued_self, hins.finBit.trans hfin⟩
    | tooManyGaps q => cases hadd
    | outOfRange q err hne _ =>
      cases err with
      | duplicateStreamData => exact absurd rfl hne
      | _ => cases hadd

end

end Stream

/-! ## The two ends of a stream -/

/-- A stream with what its peer and its reader have seen of it. -/
structure Reader where
  stream : Stream
  /-- The frames `AddStreamFrame` returned nil for. -/
  accepted : List StreamFrame
  /-- The bytes the calls of `Read` have returned. -/
  returned : List Byte
  /-- Some `Read` has returned `io.EOF`. -/
  eof : Bool

/-- What happens to a stream. -/
inductive ReaderAction
  | frame (frame : StreamFrame)
  | read (clock : Nat → Int) (len : Nat)

namespace Reader

/-- `AddStreamFrame`; its errors other than "duplicate" close the session. -/
def addStreamFrame (r : Reader) (frame : StreamFrame) : Option Reader :=
  match r.stream.addStreamFrame frame with
  | (s, none) => some { r with stream := s, accepted := r.accepted ++ [frame] }
  | (_, some _) => none

/-- `Read`. -/
def read (r : Reader) (clock : Nat → Int) (len : Nat) : Reader :=
  match r.stream.read clock len with
  | (s, .returned data err) =>
    { r with stream := s, returned := r.returned ++ data, eof := r.eof || err == some .eof }
  | (s, _) => { r with stream := s }

/-- The stream `content` of length `F` arrives in frames of any kind and is read. -/
def machine (content : Nat → Byte) (F : Nat) : Machine Reader ReaderAction where
  init r := ∃ streamID, r = ⟨.new streamID, [], [], false⟩
  step
    | r, .frame f, r' => Stream.FrameOf content F f ∧ r.addStreamFrame f = some r'
    | r, .read clock len, r' => r' = r.read clock len

/-- The condition on the steps of a run: every frame that arrives is `FinSafe`. -/
def FinSafe (r : Reader) : ReaderAction → Prop
  | .frame f => r.stream.FinSafe f
  | .read _ _ => True

/-- The invariant of the runs in which every frame is `FinSafe`. -/
structure Inv (content : Nat → Byte) (F : Nat) (r : Reader) : Prop where
  reading : r.stream.Reading content F (Received r.accepted)
  returned : r.returned = slice content 0 r.stream.readOffset
  eof : r.eof = true → r.stream.finishedReading = true
  finKept : (∃ f ∈ r.accepted, f.finBit = true) → r.stream.FinKept

variable {content : Nat → Byte} {F : Nat} {r r' : Reader}

theorem inv_init (streamID : Nat) : Inv content F ⟨.new streamID, [], [], false⟩ where
  reading := (Stream.new_reading content F streamID).congr fun x => by simp [Received]
  returned := rfl
  eof := nofun
  finKept := by simp

theorem Inv.addStreamFrame {frame : StreamFrame} (h : Inv content F r)
    (hframe : Stream.FrameOf content F frame) (hsafe : r.stream.FinSafe frame)
    (hadd : r.addStreamFrame frame = some r') : Inv content F r' := by
  unfold Reader.addStreamFrame at hadd
  cases hs : r.stream.addStreamFrame frame with
  | mk s err =>
    rw [hs] at hadd
    cases err with
    | some err => cases hadd
    | none =>
      cases hadd
      obtain ⟨hr, hoff, hfin, hkept⟩ := h.reading.addStreamFrame hframe hsafe hs
      refine ⟨hr.congr fun x => ?_, ?_, ?_, ?_⟩
      · simp [Received, or_and_right, exists_or]
      · dsimp only
        rw [hoff]
        exact h.returned
      · dsimp only
        rw [hfin]
        exact h.eof
      · rintro ⟨f, hf, hfb⟩
        rcases mem_append.1 hf with hf | hf
        · exact hkept (.inl (h.finKept ⟨f, hf, hfb⟩))
        · rw [mem_singleton.1 hf] at hfb
          exact hkept (.inr hfb)

/-- What a call of `Read` adds to what the caller has seen. -/
theorem Inv.read (h : Inv content F r) (clock : Nat → Int) (len : Nat) :
    Inv content F (r.read clock len) ∧ (r.read clock len).accepted = r.accepted ∧
    ((r.read clock len).eof = true ∨
      (r.read clock len).returned.length = r.returned.length + len ∨
      (r.read clock len).stream.frameQueue.head = none ∧
        (r.read clock len).stream.finishedReading = false) := by
  obtain ⟨s', data, res, hread, hadv, hout⟩ := h.reading.read clock len
  have hret : r.returned ++ data = slice content 0 s'.readOffset := by
    rw [hadv.readOffset, ← slice_append, Nat.zero_add, ← h.returned, ← hadv.data_eq]
  have hkept : (∃ f ∈ r.accepted, f.finBit = true) → s'.FinKept := fun hf =>
    hadv.finKept (h.finKept hf)
  unfold Reader.read
  rw [hread]
  have heof : r.eof = true → s'.finishedReading = true := fun he => hadv.finished (h.eof he)
  cases hout with
  | full hlen =>
    refine ⟨⟨hadv.reading, hret, by simpa using heof, hkept⟩, rfl, .inr (.inl ?_)⟩
    simp [hlen]
  | dry hpos hhead hfin =>
    exact ⟨⟨hadv.reading, hret, by simpa using heof, hkept⟩, rfl, .inr (.inr ⟨hhead, hfin⟩)⟩
  | eof hfin =>
    exact ⟨⟨hadv.reading, hret, fun _ => hfin, hkept⟩, rfl, .inl (by simp)⟩
  | blocked hs hdata hhead hfin =>
    subst hs
    exact ⟨h, rfl, .inr (.inr ⟨hhead, hfin⟩)⟩

theorem reach_inv (h : (machine content F).Reach FinSafe r) : Inv content F r := by
  refine h.invariant ?_ ?_
  · rintro r ⟨streamID, rfl⟩
    exact inv_init streamID
  · intro r a r' hinv hsafe hstep
    cases a with
    | frame f => exact hinv.addStreamFrame hstep.1 hsafe hstep.2
    | read clock len =>
      rw [show r' = r.read clock len from hstep]
      exact (hinv.read clock len).1

/-! ## Reading on to the end -/

/-- A FIN frame and every byte of the stream have been accepted. -/
def Complete (F : Nat) (r : Reader) : Prop :=
  (∃ f ∈ r.accepted, f.finBit = true) ∧ ∀ x, x < F → Received r.accepted x

/-- A complete stream always has a frame to read until its end has been read. -/
theorem Inv.head_of_complete (h : Inv content F r) (hc : Complete F r)
    (hhead : r.stream.frameQueue.head = none) : r.stream.finishedReading = true := by
  have hq := h.reading.queue
  rcases h.finKept hc.1 with hfin | ⟨k, g, hk, hg⟩
  · exact hfin
  · exfalso
    have hgF := hq.fin_stop k g hk hg
    obtain ⟨hoff, -, -⟩ := hq.valid.frames k g hk
    have hstop : g.stop = g.offset + g.dataLen := rfl
    rcases lt_or_ge r.stream.frameQueue.readPosition F with hlt | hge
    · obtain ⟨f, hf, -⟩ := hq.valid.head_of_received (hc.2 _ hlt)
      rw [hhead] at hf
      cases hf
    · rcases Nat.eq_zero_or_pos g.dataLen with hz | hpos
      · -- everything has been read, and the empty FIN frame is next
        have hle := hq.readPosition_le
        have hkR : k = r.stream.frameQueue.readPosition := by omega
        rw [StreamFrameSorter.head, ← hkR, hk] at hhead
        cases hhead
      · exact absurd (hq.last_read k g hk hpos hgF) (not_lt.2 hge)

theorem Inv.readOffset_le (h : Inv content F r) : r.stream.readOffset ≤ F := by
  rcases h.reading.readPosition_le.eq_or_lt with heq | hlt
  · exact heq ▸ h.reading.queue.readPosition_le
  · obtain ⟨f, hf, hlt'⟩ := h.reading.partly hlt
    exact hlt'.le.trans (h.reading.queue.head_stop_le hf)

theorem Inv.returned_of_eof (h : Inv content F r) (heof : r.eof = true) :
    r.returned = slice content 0 F := by
  rw [h.returned, h.reading.finished (h.eof heof)]

/-- Calls of `Read`, each with its clock and the length of its buffer. -/
def readAll (r : Reader) (calls : List ((Nat → Int) × Nat)) : Reader :=
  calls.foldl (fun r call => r.read call.1 call.2) r

theorem read_eof (h : r.eof = true) (clock : Nat → Int) (len : Nat) :
    (r.read clock len).eof = true := by
  unfold Reader.read
  split
  · simp [h]
  · exact h

theorem readAll_eof (h : r.eof = true) (calls : List ((Nat → Int) × Nat)) :
    (r.readAll calls).eof = true := by
  induction calls generalizing r with
  | nil => exact h
  | cons call calls ih => exact ih (read_eof h call.1 call.2)

theorem Inv.readAll (h : Inv content F r) (calls : List ((Nat → Int) × Nat)) :
    Inv content F (r.readAll calls) := by
  induction calls generalizing r with
  | nil => exact h
  | cons call calls ih => exact ih (h.read call.1 call.2).1

/-- By induction on the calls: each returns a full buffer, or the end of the stream. -/
theorem Inv.eof_of_complete (h : Inv content F r) (hc : Complete F r)
    (calls : List ((Nat → Int) × Nat))
    (hlen : F < r.returned.length + (calls.map Prod.snd).sum) :
    (r.readAll calls).eof = true := by
  induction calls generalizing r with
  | nil =>
    have hle := h.readOffset_le
    rw [h.returned, length_slice, map_nil, sum_nil] at hlen
    omega
  | cons call calls ih =>
    obtain ⟨hinv, hacc, hout⟩ := h.read call.1 call.2
    have hc' : Complete F (r.read call.1 call.2) := by
      unfold Complete
      rw [hacc]
      exact hc
    rcases hout with heof | hfull | ⟨hhead, hfin⟩
    · exact readAll_eof heof calls
    · refine ih hinv hc' ?_
      rw [hfull]
      simp only [map_cons, sum_cons] at hlen
      omega
    · rw [hinv.head_of_complete hc' hhead] at hfin
      cases hfin

/-- **The end of a stream.**  In every run in which each frame with FIN and data arrives before
the last byte of the stream has, or repeats a stream whose end is known: `Read` returns `io.EOF`
only once all `F` bytes have been returned, and when a FIN frame and all bytes have been
accepted, reading on reaches `io.EOF` after exactly `F` bytes. -/
theorem end_of_stream (content : Nat → Byte) (F : Nat) (r : Reader)
    (h : (machine content F).Reach FinSafe r) :
    (r.eof = true → r.returned = slice content 0 F) ∧
    (Complete F r → ∀ calls : List ((Nat → Int) × Nat),
      F < r.returned.length + (calls.map Prod.snd).sum →
      (r.readAll calls).eof = true ∧ (r.readAll calls).returned = slice content 0 F) := by
  have hinv := reach_inv h
  refine ⟨hinv.returned_of_eof, fun hc calls hlen => ?_⟩
  have heof := hinv.eof_of_complete hc calls hlen
  exact ⟨heof, (hinv.readAll calls).returned_of_eof heof⟩

/-- A stream of two bytes in two frames, the second with FIN, is read to its end. -/
theorem end_of_stream_two_frames :
    ∃ r, (machine UInt8.ofNat 2).Reach FinSafe r ∧ Complete 2 r ∧
      (r.readAll [(fun _ => 0, 3)]).returned = [0, 1] := by
  obtain ⟨r, hreach, hacc, hret⟩ : ∃ r, (machine UInt8.ofNat 2).Reach FinSafe r ∧
      r.accepted = [⟨5, false, true, 0, [0]⟩, ⟨5, true, true, 1, [1]⟩] ∧ r.returned = [] := by
    refine ⟨_, .step (.step (.init ⟨5, rfl⟩) (l := .frame ⟨5, false, true, 0, [0]⟩) nofun
      ⟨⟨by decide, by decide, by decide⟩, rfl⟩) (l := .frame ⟨5, true, true, 1, [1]⟩) ?_
      ⟨⟨by decide, by decide, by decide⟩, rfl⟩, rfl, rfl⟩
    exact fun _ _ => .inl ⟨⟨1, maxByteCount⟩, by decide, by decide, by decide⟩
  have hc : Complete 2 r := by
    unfold Complete
    rw [hacc]
    refine ⟨⟨⟨5, true, true, 1, [1]⟩, by simp, rfl⟩, fun x hx => ?_⟩
    rcases (by omega : x = 0 ∨ x = 1) with rfl | rfl
    · exact ⟨⟨5, false, true, 0, [0]⟩, by simp, by decide, by decide⟩
    · exact ⟨⟨5, true, true, 1, [1]⟩, by simp, by decide, by decide⟩
  have hend := (end_of_stream UInt8.ofNat 2 r hreach).2 hc [(fun _ => 0, 3)]
    (by rw [hret]; decide)
  exact ⟨r, hreach, hc, hend.2⟩

/-- The tail of `[0, 2)` with FIN has been received, so the frame is trimmed to `[0, 1)` and keeps
its FIN: the reader is told that the stream ends after one byte. -/
theorem eof_before_end :
    ∃ r, (machine UInt8.ofNat 2).Reach Machine.Always r ∧ r.eof = true ∧ r.returned = [0] := by
  refine ⟨_, .step (.step (.step (.init ⟨5, rfl⟩)
    (l := .frame ⟨5, false, true, 1, [1]⟩) trivial ⟨⟨by decide, by decide, by decide⟩, rfl⟩)
    (l := .frame ⟨5, true, true, 0, [0, 1]⟩) trivial ⟨⟨by decide, by decide, by decide⟩, rfl⟩)
    (l := .read (fun _ => 0) 5) trivial rfl, ?_, ?_⟩ <;> decide

end Reader
end MpQuic
