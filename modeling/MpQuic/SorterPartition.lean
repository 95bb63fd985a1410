import MpQuic.Lib.Machine
import MpQuic.Reassembly

/-!
# The sorter as a partition of the offsets

What `reassembly` leaves open is what the map of queued frames holds besides the
frames that will be popped.  A frame that reaches over several gaps replaces the
frames queued between them, but `Push` deletes only the frame at the end of each
gap it passes: of two adjacent frames between two gaps the second one stays.  In
the runs in which no frame is pushed over such a neighbour the read bytes, the
queued frames and the gaps partition the offsets.
-/
namespace MpQuic.StreamFrameSorter
open Function

open Systems (Interval Machine)
open Systems.Interval (Covers Separated Spans)

/-- The byte at `x` waits in a queued frame. -/
def Queued (s : StreamFrameSorter) (x : Nat) : Prop :=
  ∃ k f, s.queuedFrames k = some f ∧ f.offset ≤ x ∧ x < f.stop

/-- The gaps are sorted, non-empty and disjoint, the queued frames have no byte in common and
none lies below the read position, and the bytes read, the bytes queued and the gaps are a
partition of the offsets. -/
structure Represented (s : StreamFrameSorter) : Prop where
  gaps : Separated s.gaps
  frames_disjoint : ∀ k k' f f', s.queuedFrames k = some f → s.queuedFrames k' = some f' →
    k ≠ k' → ∀ x, f.offset ≤ x → x < f.stop → ¬ (f'.offset ≤ x ∧ x < f'.stop)
  readPosition_le : ∀ k f, s.queuedFrames k = some f → s.readPosition ≤ f.offset
  parts : ∀ x, x < maxByteCount ↔ x < s.readPosition ∨ s.Queued x ∨ Covers s.gaps x
  read_queued : ∀ x, x < s.readPosition → ¬ s.Queued x
  read_gaps : ∀ x, x < s.readPosition → ¬ Covers s.gaps x
  queued_gaps : ∀ x, s.Queued x → ¬ Covers s.gaps x

/-- What the proof carries through a run on a stream of `size` bytes, of which `received` have
been pushed. -/
structure Tidy (size : Nat) (received : Nat → Prop) (s : StreamFrameSorter) : Prop where
  received_lt : ∀ x, received x → x < size
  empty : ∀ k f, s.queuedFrames k = some f → f.dataLen = 0 → k = size
  disjoint : ∀ k k' f f', s.queuedFrames k = some f → s.queuedFrames k' = some f' → k < k' →
    f.stop ≤ k'
  readPosition_le : ∀ k f, s.queuedFrames k = some f → s.readPosition ≤ k
  queued : ∀ x, received x → s.readPosition ≤ x →
    ∃ k f, s.queuedFrames k = some f ∧ k ≤ x ∧ x < f.stop

theorem new_tidy (size : Nat) : new.Tidy size fun _ => False := by
  constructor <;> simp [new]

section Step
variable {content : Nat → Byte} {received : Nat → Prop} {size : Nat} {s s' : StreamFrameSorter}
  {frame f : StreamFrame}

theorem Tidy.represented (h : s.Tidy size received) (hv : s.Valid content received)
    (hread : ∀ x, x < s.readPosition → received x) : s.Represented := by
  have hgaps : ∀ x, received x → ¬ Covers s.gaps x := fun x hr hc => ((hv.covers_iff x).1 hc).2 hr
  have hrec : ∀ x, s.Queued x → received x := by
    rintro x ⟨k, f, hk, hle, hlt⟩
    obtain ⟨rfl, -, hr⟩ := hv.frames k f hk
    exact hr x hle hlt
  constructor
  · exact hv.separated
  · intro k k' f f' hk hk' hne x hx hxs hx'
    obtain ⟨rfl, -⟩ := hv.frames k f hk
    obtain ⟨rfl, -⟩ := hv.frames k' f' hk'
    rcases lt_or_gt_of_ne hne with hlt | hlt
    · have := h.disjoint _ _ _ _ hk hk' hlt
      omega
    · have := h.disjoint _ _ _ _ hk' hk hlt
      omega
  · intro k f hk
    rw [(hv.frames k f hk).1]
    exact h.readPosition_le k f hk
  · intro x
    constructor
    · intro hx
      by_cases hr : received x
      · by_cases hp : x < s.readPosition
        · exact .inl hp
        · obtain ⟨k, f, hk, hle, hlt⟩ := h.queued x hr (not_lt.1 hp)
          exact .inr (.inl ⟨k, f, hk, (hv.frames k f hk).1 ▸ hle, hlt⟩)
      · exact .inr (.inr ((hv.covers_iff x).2 ⟨hx, hr⟩))
    · rintro (hx | hx | hx)
      · exact hx.trans hv.readPosition_lt
      · have := hv.received_lt x (hrec x hx)
        omega
      · exact ((hv.covers_iff x).1 hx).1
  · rintro x hx ⟨k, f, hk, hle, -⟩
    have := h.readPosition_le k f hk
    rw [(hv.frames k f hk).1] at hle
    omega
  · exact fun x hx => hgaps x (hread x hx)
  · exact fun x hx => hgaps x (hrec x hx)

/-- Every frame that is queued between two gaps the pushed frame reaches follows a gap. -/
def SwallowsSingleFrames (s : StreamFrameSorter) : Op → Prop
  | .push frame => ∀ k f, s.queuedFrames k = some f → ∀ a ∈ s.gaps, ∀ b ∈ s.gaps,
      frame.offset < a.stop → a.stop ≤ k → k < b.start → b.start < frame.stop →
      ∃ c ∈ s.gaps, c.stop = k
  | .pop => True

/-- Under the condition an old frame that is still queued lies beside the new one. -/
theorem Inserted.queued_beside (h : Inserted s frame f s') (hv : s.Valid content received)
    (ht : s.Tidy size received) (hc : s.SwallowsSingleFrames (.push frame))
    (hsize : frame.stop ≤ size) {k : Nat} {g : StreamFrame} (hk : s'.queuedFrames k = some g) :
    k = f.offset ∧ g = f ∨ s.queuedFrames k = some g ∧ (g.stop ≤ f.offset ∨ f.stop ≤ k) := by
  have hstop := h.stop_le
  by_cases hkf : k = f.offset
  · subst hkf
    exact .inl ⟨rfl, Option.some.inj (hk.symm.trans h.queued_self)⟩
  have hold : s.queuedFrames k = some g := by
    rcases h.queued k hkf with hq | ⟨hq, -⟩
    · exact hq ▸ hk
    · rw [hq] at hk
      cases hk
  obtain ⟨hoff, -, hdis⟩ := hv.queued k g hold
  refine .inr ⟨hold, ?_⟩
  by_contra hin
  rw [not_or, not_le, not_le] at hin
  rcases lt_or_gt_of_ne hkf with hlt | hgt
  · exact hdis f.offset hlt.le hin.1 h.covers_offset
  · -- the frame lies inside the new one, so a gap ends at it and it has been deleted
    have hpos : g.dataLen ≠ 0 := fun hzero => by
      have := ht.empty k g hold hzero
      omega
    have hgs : g.stop = k + g.dataLen := by rw [← hoff]; rfl
    have hnc : ¬ Covers s.gaps k := hdis k le_rfl (by omega)
    obtain ⟨a, ha, hale, halt⟩ := h.covers_offset
    obtain ⟨b, hb, hble, hblt⟩ := h.covers_last
    have hak : a.stop ≤ k := not_lt.1 fun hlt => hnc ⟨a, ha, by omega, hlt⟩
    have hkb : k < b.start := not_le.1 fun hle => hnc ⟨b, hb, hle, by omega⟩
    have hoffset := h.offset_le
    obtain ⟨c, hcm, rfl⟩ := hc k g hold a ha b hb (by omega) hak hkb (by omega)
    rw [h.deleted c hcm hgt hin.2] at hk
    cases hk

/-- An old frame with bytes is queued still, or the new one has its bytes. -/
theorem Inserted.old_bytes (h : Inserted s frame f s') (hv : s.Valid content received)
    {k x : Nat} {g : StreamFrame} (hk : s.queuedFrames k = some g) (hkx : k ≤ x)
    (hxg : x < g.stop) : s'.queuedFrames k = some g ∨ f.offset ≤ x ∧ x < f.stop := by
  obtain ⟨hoff, -, hdis⟩ := hv.queued k g hk
  have hkf : k ≠ f.offset := by
    rintro rfl
    exact hdis f.offset le_rfl (by omega) h.covers_offset
  rcases h.queued k hkf with hq | ⟨-, hlt, hgt⟩
  · exact .inl (hq.trans hk)
  · refine .inr ⟨by omega, not_le.1 fun hle => ?_⟩
    exact hdis (f.stop - 1) (by omega) (by omega) h.covers_last

/-- A frame that is queued has no byte in common with the others, since those it covers are deleted.
-/
theorem Inserted.tidy (h : Inserted s frame f s') (hv : s.Valid content received)
    (ht : s.Tidy size received) (hc : s.SwallowsSingleFrames (.push frame))
    (hsize : frame.stop ≤ size) :
    s'.Tidy size fun x => received x ∨ frame.offset ≤ x ∧ x < frame.stop := by
  have hlt := h.lt
  have hfs : f.stop = f.offset + f.dataLen := rfl
  have hread := h.readPosition_le hv.readPosition_le
  constructor
  · rintro x (hr | hx)
    · exact ht.received_lt x hr
    · omega
  · intro k g hk hzero
    rcases h.queued_beside hv ht hc hsize hk with ⟨-, rfl⟩ | ⟨hold, -⟩
    · omega
    · exact ht.empty k g hold hzero
  · intro k k' g g' hk hk' hkk
    have hbeside := h.queued_beside hv ht hc hsize hk
    have hbeside' := h.queued_beside hv ht hc hsize hk'
    rcases hbeside with ⟨rfl, rfl⟩ | ⟨hold, hb⟩
    · rcases hbeside' with ⟨rfl, -⟩ | ⟨hold', hb'⟩
      · omega
      · have hgs : g'.stop = k' + g'.dataLen := by rw [← (hv.frames k' g' hold').1]; rfl
        omega
    · rcases hbeside' with ⟨rfl, -⟩ | ⟨hold', -⟩
      · omega
      · exact ht.disjoint k k' g g' hold hold' hkk
  · intro k g hk
    rw [h.readPosition]
    rcases h.queued_beside hv ht hc hsize hk with ⟨rfl, -⟩ | ⟨hold, -⟩
    · exact hread
    · exact ht.readPosition_le k g hold
  · intro x hx hpos
    rw [h.readPosition] at hpos
    by_cases hin : f.offset ≤ x ∧ x < f.stop
    · exact ⟨f.offset, f, h.queued_self, hin⟩
    · have hr : received x := by
        rcases hx with hr | hx
        · exact hr
        · by_contra hr
          have := h.stop_lt
          exact hin (h.covers x hx.1 hx.2 ((hv.covers_iff x).2 ⟨by omega, hr⟩))
      obtain ⟨k, g, hk, hkx, hxg⟩ := ht.queued x hr hpos
      exact ⟨k, g, (h.old_bytes hv hk hkx hxg).resolve_right hin, hkx, hxg⟩

/-- An empty frame with the FIN bit only adds itself, at an offset whose byte is missing. -/
theorem Valid.queue_empty (hv : s.Valid content received) (hcov : Covers s.gaps frame.offset)
    (hzero : frame.dataLen = 0) (hagree : frame.AgreesWith content) :
    Valid content received
      { s with queuedFrames := update s.queuedFrames frame.offset (some frame) } := by
  obtain ⟨cut, hc⟩ := hv.cuts
  refine ⟨hv.separated, hv.covers_iff, hv.received_lt, hv.readPosition_le, ?_, cut, hc.read,
    hc.gap_stop, hc.gap_start, ?_⟩
  · intro k f hk
    by_cases hkf : k = frame.offset
    · subst hkf
      obtain rfl : frame = f := by simpa using hk
      have hstop : frame.stop = frame.offset + frame.dataLen := rfl
      exact ⟨rfl, hagree, fun x hx hxs => by omega⟩
    · exact hv.frames k f (by simpa [update_of_ne hkf] using hk)
  · intro x hx hmax hnc
    have hne : x ≠ frame.offset := by
      rintro rfl
      exact hnc hcov
    simpa [update_of_ne hne] using hc.frame x hx hmax hnc

/-- The empty frame at the end of the stream is queued although it has no byte. -/
theorem Tidy.queue_empty (ht : s.Tidy size received) (hv : s.Valid content received)
    (hcov : Covers s.gaps frame.offset) (hzero : frame.dataLen = 0) (hend : frame.offset = size) :
    Tidy size received
      { s with queuedFrames := update s.queuedFrames frame.offset (some frame) } := by
  have hstop : frame.stop = frame.offset + frame.dataLen := rfl
  obtain ⟨a, ha, hale, -⟩ := hcov
  have hread := hv.readPosition_le a ha
  -- the other frames end below the size of the stream
  have hother : ∀ k f, k ≠ frame.offset →
      update s.queuedFrames frame.offset (some frame) k = some f →
      s.queuedFrames k = some f ∧ f.stop ≤ size := by
    intro k f hkf hk
    rw [update_of_ne hkf] at hk
    obtain ⟨hoff, -, hr⟩ := hv.frames k f hk
    have hfs : f.stop = k + f.dataLen := by rw [← hoff]; rfl
    refine ⟨hk, not_lt.1 fun hlt => ?_⟩
    by_cases hempty : f.dataLen = 0
    · have := ht.empty k f hk hempty
      omega
    · have := ht.received_lt (f.stop - 1) (hr _ (by omega) (by omega))
      omega
  constructor
  · exact ht.received_lt
  · intro k f hk hz
    by_cases hkf : k = frame.offset
    · exact hkf.trans hend
    · exact ht.empty k f (hother k f hkf hk).1 hz
  · intro k k' f f' hk hk' hlt
    by_cases hkf : k = frame.offset
    · subst hkf
      obtain rfl : frame = f := by simpa using hk
      omega
    · obtain ⟨hold, hle⟩ := hother k f hkf hk
      by_cases hkf' : k' = frame.offset
      · omega
      · exact ht.disjoint k k' f f' hold (hother k' f' hkf' hk').1 hlt
  · intro k f hk
    by_cases hkf : k = frame.offset
    · subst hkf
      exact hread.trans hale
    · exact ht.readPosition_le k f (hother k f hkf hk).1
  · intro x hr hpos
    obtain ⟨k, f, hk, hkx, hxf⟩ := ht.queued x hr hpos
    have hkf : k ≠ frame.offset := by
      have := ht.received_lt x hr
      omega
    exact ⟨k, f, by simpa [update_of_ne hkf] using hk, hkx, hxf⟩

theorem Tidy.pop (ht : s.Tidy size received) (hv : s.Valid content received)
    (hf : s.head = some f) : s.pop.1.Tidy size received := by
  obtain ⟨hoff, -, -⟩ := hv.queued _ _ hf
  have hstop : s.readPosition + f.dataLen = f.stop := by rw [← hoff]; rfl
  have hold : ∀ k g, update s.queuedFrames f.offset none k = some g →
      s.queuedFrames k = some g ∧ s.readPosition < k := by
    intro k g hk
    have hkf : k ≠ f.offset := by
      rintro rfl
      simp at hk
    rw [update_of_ne hkf] at hk
    have := ht.readPosition_le k g hk
    exact ⟨hk, by omega⟩
  rw [pop_of_head hf, hstop]
  constructor
  · exact ht.received_lt
  · exact fun k g hk => ht.empty k g (hold k g hk).1
  · exact fun k k' g g' hk hk' => ht.disjoint k k' g g' (hold k g hk).1 (hold k' g' hk').1
  · intro k g hk
    obtain ⟨hg, hlt⟩ := hold k g hk
    exact ht.disjoint _ _ _ _ hf hg hlt
  · intro x hr hpos
    have hpos : f.stop ≤ x := hpos
    obtain ⟨k, g, hk, hkx, hxg⟩ := ht.queued x hr (by omega)
    have hkf : k ≠ f.offset := by
      rintro rfl
      rw [hoff, show s.queuedFrames s.readPosition = some f from hf] at hk
      cases hk
      omega
    exact ⟨k, g, by simpa [update_of_ne hkf] using hk, hkx, hxg⟩

end Step

/-! ## Runs -/

/-- The operations on a stream with the bytes `content` below `size`: a pushed frame holds bytes
of the stream, and an empty frame that ends the stream stands at its end. -/
def Op.PartOf (content : Nat → Byte) (size : Nat) : Op → Prop
  | .push frame => frame.AgreesWith content ∧ frame.stop ≤ size ∧
      (frame.dataLen = 0 → frame.finBit = true → frame.offset = size)
  | .pop => True

instance (content : Nat → Byte) (size : Nat) : (op : Op) → Decidable (op.PartOf content size)
  | .push frame => inferInstanceAs (Decidable (frame.AgreesWith content ∧ frame.stop ≤ size ∧
      (frame.dataLen = 0 → frame.finBit = true → frame.offset = size)))
  | .pop => inferInstanceAs (Decidable True)

/-- The operation stayed within the number of gaps the sorter allows. -/
def FewGaps (s : StreamFrameSorter) : Op → Prop
  | .push frame => (s.push frame).2 ≠ some .tooManyGapsInReceivedStreamData
  | .pop => True

instance (s : StreamFrameSorter) : (op : Op) → Decidable (s.FewGaps op)
  | .push frame =>
    inferInstanceAs (Decidable ((s.push frame).2 ≠ some .tooManyGapsInReceivedStreamData))
  | .pop => inferInstanceAs (Decidable True)

/-- The sorter of one stream. -/
def sorting (content : Nat → Byte) (size : Nat) : Machine StreamFrameSorter Op where
  init s := s = new
  step s op s' := op.PartOf content size ∧ s.FewGaps op ∧ s' = (s.step op).1

/-- The state between two operations of such a run. -/
def Tiled (content : Nat → Byte) (size : Nat) (s : StreamFrameSorter) : Prop :=
  ∃ received, s.Valid content received ∧ s.Tidy size received ∧
    ∀ x, x < s.readPosition → received x

section Run
variable {content : Nat → Byte} {size : Nat} {s : StreamFrameSorter} {frame : StreamFrame}

theorem Tiled.push (h : s.Tiled content size) (hsize : size < maxByteCount)
    (hpart : (Op.push frame).PartOf content size) (hfew : s.FewGaps (.push frame))
    (hc : s.SwallowsSingleFrames (.push frame)) : (s.push frame).1.Tiled content size := by
  obtain ⟨received, hv, ht, hread⟩ := h
  obtain ⟨hagree, hstop, hend⟩ := hpart
  by_cases hzero : frame.dataLen = 0
  · rw [StreamFrameSorter.push, if_pos hzero]
    by_cases hfin : frame.finBit = true
    · rw [if_pos hfin]
      have hoff := hend hzero hfin
      have hcov : Covers s.gaps frame.offset := by
        refine (hv.covers_iff _).2 ⟨by omega, fun hr => ?_⟩
        have := ht.received_lt _ hr
        omega
      exact ⟨received, hv.queue_empty hcov hzero hagree, ht.queue_empty hv hcov hzero hoff, hread⟩
    · rw [if_neg hfin]
      exact ⟨received, hv, ht, hread⟩
  · have hout := hv.push_outcome (Nat.pos_of_ne_zero hzero)
    have hfew : (s.push frame).2 ≠ some .tooManyGapsInReceivedStreamData := hfew
    generalize s.push frame = r at hout hfew ⊢
    cases hout with
    | duplicate => exact ⟨received, hv, ht, hread⟩
    | inserted hins =>
      refine ⟨_, hins.valid hv hagree, hins.tidy hv ht hc hstop, ?_⟩
      rw [hins.readPosition]
      exact fun x hx => .inl (hread x hx)
    | tooManyGaps s' => exact absurd rfl hfew
    | outOfRange s' err _ hle => omega

theorem Tiled.pop (h : s.Tiled content size) : s.pop.1.Tiled content size := by
  obtain ⟨received, hv, ht, hread⟩ := h
  cases hhead : s.head with
  | none =>
    rw [pop_of_head_none hhead]
    exact ⟨received, hv, ht, hread⟩
  | some f =>
    refine ⟨received, hv.pop hhead, ht.pop hv hhead, ?_⟩
    obtain ⟨hoff, -, hr⟩ := hv.frames _ _ hhead
    rw [pop_of_head hhead, ← hoff]
    intro x hx
    by_cases hlt : x < s.readPosition
    · exact hread x hlt
    · exact hr x (not_lt.1 hlt) hx

/-- **The sorter partitions the offsets**, in every run in which no frame is pushed over two
adjacent frames. -/
theorem sorter_partition (hsize : size < maxByteCount)
    (h : (sorting content size).Reach SwallowsSingleFrames s) : s.Represented := by
  have htiled : s.Tiled content size := by
    refine h.invariant ?_ ?_
    · rintro s rfl
      exact ⟨_, new_valid content, new_tidy size, by simp [new]⟩
    · rintro s op s' ih hc ⟨hpart, hfew, rfl⟩
      cases op with
      | push frame => exact ih.push hsize hpart hfew hc
      | pop => exact ih.pop
  obtain ⟨received, hv, ht, hread⟩ := htiled
  exact ht.represented hv hread

/-- The sorter after two frames with a gap before each of them. -/
def twoApart : StreamFrameSorter :=
  { new with
    queuedFrames := update (update (fun _ => none) 2
      (some ⟨5, false, true, 2, [2, 3]⟩)) 7 (some ⟨5, false, true, 7, [7, 8]⟩)
    gaps := [⟨0, 2⟩, ⟨4, 7⟩, ⟨9, maxByteCount⟩] }

theorem sorter_partition_swallowing :
    ∃ s, (sorting UInt8.ofNat 9).Reach SwallowsSingleFrames s ∧
      s.queuedFrames 2 = none ∧ (s.queuedFrames 0).isSome ∧ s.Represented := by
  have hnew : new.SwallowsSingleFrames (.push ⟨5, false, true, 2, [2, 3]⟩) := nofun
  have hfirst : (new.push ⟨5, false, true, 2, [2, 3]⟩).1.SwallowsSingleFrames
      (.push ⟨5, false, true, 7, [7, 8]⟩) := by
    intro k f hk _ _ _ _ _ _ _ _
    have hk : update (fun _ => none) 2 (some ⟨5, false, true, 2, [2, 3]⟩) k = some f := hk
    by_cases hk2 : k = 2
    · exact ⟨⟨0, 2⟩, by decide, hk2.symm⟩
    · rw [update_of_ne hk2] at hk
      cases hk
  have htwo : twoApart.SwallowsSingleFrames
      (.push ⟨5, false, true, 0, [0, 1, 2, 3, 4, 5, 6, 7]⟩) := by
    intro k f hk _ _ _ _ _ _ _ _
    by_cases hk7 : k = 7
    · exact ⟨⟨4, 7⟩, by decide, hk7.symm⟩
    · by_cases hk2 : k = 2
      · exact ⟨⟨0, 2⟩, by decide, hk2.symm⟩
      · simp [twoApart, update_of_ne hk7, update_of_ne hk2] at hk
  have hreach : (sorting UInt8.ofNat 9).Reach SwallowsSingleFrames
      (twoApart.push ⟨5, false, true, 0, [0, 1, 2, 3, 4, 5, 6, 7]⟩).1 :=
    .step (.step (.step (.init rfl) hnew ⟨by decide, by decide, rfl⟩) hfirst
      ⟨by decide, by decide, rfl⟩) htwo ⟨by decide, by decide, rfl⟩
  exact ⟨_, hreach, by decide, by decide, sorter_partition (by decide) hreach⟩

/-- Two adjacent frames and a frame over both of them: the second one stays queued. -/
theorem swallowed_frame_stays_queued :
    ∃ s, (sorting UInt8.ofNat 9).Reach Machine.Always s ∧ ¬ s.Represented := by
  have hreach : (sorting UInt8.ofNat 9).Reach Machine.Always
      ([.push ⟨5, false, true, 2, [2]⟩, .push ⟨5, false, true, 3, [3]⟩,
        .push ⟨5, false, true, 0, [0, 1, 2, 3, 4, 5]⟩].foldl
        (fun s op => (s.step op).1) new) :=
    Machine.Reach.foldl (P := fun s op => op.PartOf UInt8.ofNat 9 ∧ s.FewGaps op) (.init rfl)
      (fun _ _ h => ⟨trivial, h.1, h.2, rfl⟩) (by decide)
  refine ⟨_, hreach, fun h => ?_⟩
  exact h.frames_disjoint 0 3 ⟨5, false, true, 0, [0, 1, 2, 3, 4, 5]⟩ ⟨5, false, true, 3, [3]⟩
    (by decide) (by decide) (by decide) 3 (by decide) (by decide) (by decide)

end Run

end MpQuic.StreamFrameSorter
