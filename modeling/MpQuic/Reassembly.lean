import Mathlib.Data.List.Induction
import MpQuic.StreamFrameSorter

/-!
# Reassembly is correct

The specification of `push`, its invariant, and what follows for whole
sequences of operations.
-/
namespace MpQuic.StreamFrameSorter
open List Function StreamFrame StreamFrameSorter

open Systems (Interval)
open Systems.Interval (Covers Separated Spans)

/-! ## The two loops of `Push` -/

/-- What the first loop says about the gaps when it stops. -/
def GapSearch.Sound (start stop : Nat) (gaps : List ByteInterval) : GapSearch → Prop
  | .found before gap after => gaps = before ++ gap :: after ∧ (∀ g ∈ before, g.stop < start) ∧
      gap.start < stop ∧ start ≤ gap.stop
  | .duplicate => ∃ before gap after, gaps = before ++ gap :: after ∧
      (∀ g ∈ before, g.stop < start) ∧ stop ≤ gap.start
  | .notFound => ∀ g ∈ gaps, g.stop < start

theorem findGap_sound (start stop : Nat) (gaps : List ByteInterval) :
    (findGap start stop gaps).Sound start stop gaps := by
  fun_induction findGap start stop gaps with
  | case1 => simp [GapSearch.Sound]
  | case2 gap after hle => exact ⟨[], gap, after, rfl, by simp, hle⟩
  | case3 gap after hle hgap => exact ⟨rfl, by simp, hgap⟩
  | case4 gap after hle hgap before gap' after' heq ih =>
    obtain ⟨rfl, hb, hgap'⟩ := heq ▸ ih
    exact ⟨rfl, forall_mem_cons.2 ⟨by omega, hb⟩, hgap'⟩
  | case5 gap after hle hgap heq ih =>
    obtain ⟨before, gap', after', rfl, hb, hgap'⟩ := heq ▸ ih
    exact ⟨gap :: before, gap', after', rfl, forall_mem_cons.2 ⟨by omega, hb⟩, hgap'⟩
  | case6 gap after hle hgap heq ih =>
    exact forall_mem_cons.2 ⟨by omega, (heq ▸ ih :)⟩

/-- What the end gap loop returns, having passed over the gaps `passed`. -/
structure EndGap.Found (stop : Nat) (queuedFrames : FrameMap) (gap : ByteInterval)
    (place : EndGapPlace) (after passed : List ByteInterval) (e : EndGap) : Prop where
  split : gap :: after = passed ++ e.value :: e.after
  value_lt : passed ≠ [] → e.value.start < stop
  queued : ∀ k, e.queuedFrames k = queuedFrames k ∨
    e.queuedFrames k = none ∧ ∃ g ∈ passed, k = g.stop
  deleted : ∀ g ∈ passed, e.queuedFrames g.stop = none
  place_gap : e.place = .gap ↔ passed = [] ∧ place = .gap
  place_linked : e.place = .linked → stop < e.value.stop
  place_removed : e.place = .removed → e.value.stop ≤ stop
  reach : stop < e.value.stop ∨ ∃ next rest, e.after = next :: rest ∧ stop ≤ next.start

variable {stop : Nat} {queuedFrames : FrameMap} {gap : ByteInterval} {place : EndGapPlace}
  {after : List ByteInterval} {e : EndGap}

/-- The end gap loop passes over the gaps that the frame fills up to their end. -/
theorem findEndGap_ok (hplace : place ≠ .removed)
    (h : findEndGap stop queuedFrames gap place after = .ok e) :
    ∃ passed, e.Found stop queuedFrames gap place after passed := by
  fun_induction findEndGap stop queuedFrames gap place after with
  | case1 queuedFrames gap place after hlt =>
    cases h
    exact ⟨[], rfl, by simp, by simp, by simp, by simp, fun _ => hlt, fun hr => absurd hr hplace,
      .inl hlt⟩
  | case2 => cases h
  | case3 queuedFrames gap place hle next rest hnext =>
    cases h
    refine ⟨[], rfl, by simp, by simp, by simp, ?_, ?_, fun _ => Nat.le_of_not_lt hle,
      .inr ⟨next, rest, rfl, hnext⟩⟩
    all_goals split <;> simp_all
  | case4 queuedFrames gap place hle next rest hnext ih =>
    obtain ⟨passed, hf⟩ := ih (by simp) h
    have hsplit := hf.split
    refine ⟨gap :: passed, by rw [cons_append, ← hsplit], fun _ => ?_, fun k => ?_, ?_, ?_,
      hf.place_linked, hf.place_removed, hf.reach⟩
    · rcases passed with _ | ⟨p, ps⟩
      · rw [nil_append, cons.injEq] at hsplit
        rw [← hsplit.1]
        omega
      · exact hf.value_lt (by simp)
    · rcases hf.queued k with hk | ⟨hk, g, hg, rfl⟩
      · by_cases hkg : k = gap.stop
        · subst hkg
          exact .inr ⟨by rw [hk, update_self], gap, by simp, rfl⟩
        · exact .inl (by rw [hk, update_of_ne hkg])
      · exact .inr ⟨hk, g, by simp [hg], rfl⟩
    · refine forall_mem_cons.2 ⟨?_, hf.deleted⟩
      rcases hf.queued gap.stop with hk | ⟨hk, -⟩
      · rw [hk, update_self]
      · exact hk
    · have hpg := hf.place_gap
      simp_all

theorem findEndGap_error (h : findEndGap stop queuedFrames gap place after = .error e) :
    ∃ init last, gap :: after = init ++ [last] ∧ last.stop ≤ stop := by
  fun_induction findEndGap stop queuedFrames gap place after with
  | case1 => cases h
  | case2 _ gap _ hle => exact ⟨[], gap, rfl, by omega⟩
  | case3 => cases h
  | case4 _ gap _ _ next rest _ ih =>
    obtain ⟨init, last, heq, hle⟩ := ih h
    exact ⟨gap :: init, last, by rw [heq, cons_append], hle⟩

/-! ## The gap list after an accepted frame -/

section Edit
variable {start stop : Nat} {queuedFrames : FrameMap} {gap : ByteInterval}
  {before after passed : List ByteInterval} {e : EndGap}

theorem EndGap.Found.nil_or_cons (hf : e.Found stop queuedFrames gap place after passed) :
    (passed = [] ∧ e.value = gap ∧ e.after = after) ∨
      ∃ ps, passed = gap :: ps ∧ after = ps ++ e.value :: e.after := by
  have hsplit := hf.split
  cases passed with
  | nil =>
    rw [nil_append, cons.injEq] at hsplit
    exact .inl ⟨rfl, hsplit.1.symm, hsplit.2.symm⟩
  | cons p ps =>
    rw [cons_append, cons.injEq] at hsplit
    exact .inr ⟨ps, by rw [hsplit.1], hsplit.2⟩

section
variable (hf : e.Found stop queuedFrames gap .gap after passed)
include hf

theorem EndGap.Found.spans (hsep : Separated (before ++ gap :: after)) (hge : gap.start ≤ start)
    (hlt : start < gap.stop) (hss : start < stop) :
    Spans (passed ++ [e.value]) gap e.value start (min stop e.value.stop) := by
  have hsep := hsep.sublist (sublist_append_right ..)
  rcases hf.nil_or_cons with ⟨rfl, hv, -⟩ | ⟨ps, rfl, rfl⟩
  · rw [hv]
    exact ⟨by simp, by simp, by omega, hge, hlt, by omega, by omega, by simp, by simp⟩
  · have hvlt := hf.value_lt (by simp)
    have hgv : gap.stop < e.value.start := (pairwise_cons.1 hsep.ordered).1 _ (by simp)
    have hv : e.value.start < e.value.stop := hsep.nonempty _ (by simp)
    refine ⟨by simp, by simp, by omega, hge, hlt, by omega, by omega, ?_, ?_⟩
    · refine forall_mem_cons.2 ⟨.inl rfl, fun i hi => .inr (hlt.trans ?_)⟩
      rw [append_cons] at hsep
      exact (pairwise_cons.1 hsep.ordered).1 i (mem_append_left _ hi)
    · intro i hi
      rcases mem_append.1 hi with hi | hi
      · have := hsep.lt_append (l := gap :: ps) hi mem_cons_self
        exact .inr (by omega)
      · exact .inl (mem_singleton.1 hi)

/-- The gaps behind the end gap start behind the frame. -/
theorem EndGap.Found.le_after (hsep : Separated (gap :: after)) {g : ByteInterval}
    (hg : g ∈ e.after) : stop ≤ g.start := by
  rw [hf.split] at hsep
  have hlt := hsep.lt_cons hg
  rcases hf.reach with hv | ⟨next, rest, hafter, hle⟩
  · omega
  · rw [hafter, append_cons] at hsep
    rw [hafter] at hg
    rcases mem_cons.1 hg with rfl | hg
    · exact hle
    · have hnext := hsep.nonempty next (by simp)
      have := hsep.lt_cons hg
      omega

/-- The edits of the gap list, case by case in the source, take the frame's bytes out of it. -/
theorem adjustGaps_eq_carve (hsep : Separated (before ++ gap :: after)) (hge : gap.start ≤ start) :
    adjustGaps before gap e start (min stop e.value.stop) =
      Interval.carve before gap e.value start (min stop e.value.stop) e.after := by
  have hleft : gap.start < start ↔ ¬ start = gap.start := by omega
  rcases hf.nil_or_cons with ⟨hp, hv, ha⟩ | ⟨ps, rfl, rfl⟩
  · have hplace : e.place = .gap := hf.place_gap.2 ⟨hp, rfl⟩
    simp only [adjustGaps, Interval.carve, Interval.leftPart, Interval.rightPart,
      EndGap.elements, hplace, hv, hleft]
    by_cases hs : start = gap.start
    · by_cases hfill : gap.stop ≤ stop
      · simp [hs, hfill]
      · have hlt : stop < gap.stop := by omega
        simp [hs, hlt, Nat.min_eq_left hlt.le]
    · by_cases hfill : gap.stop ≤ stop
      · simp [hs, hfill]
      · have hlt : stop < gap.stop := by omega
        simp [hs, hlt, Nat.min_eq_left hlt.le, hlt.ne]
  · have hvlt := hf.value_lt (by simp)
    have hgv : gap.stop < e.value.start := hsep.lt_cons (by simp)
    have hv : e.value.start < e.value.stop := hsep.nonempty _ (by simp)
    have hfill : gap.stop ≤ min stop e.value.stop := by omega
    have hplace : e.place ≠ .gap := fun h => by simpa using (hf.place_gap.1 h).1
    simp only [adjustGaps, Interval.carve, Interval.leftPart, Interval.rightPart, EndGap.elements,
      hleft, hfill]
    cases hpl : e.place with
    | gap => exact absurd hpl hplace
    | linked =>
      have hlt := hf.place_linked hpl
      by_cases hs : start = gap.start
      · simp [hs, hlt, Nat.min_eq_left hlt.le]
      · simp [hs, hlt, Nat.min_eq_left hlt.le, hlt.ne]
    | removed =>
      have hle := hf.place_removed hpl
      by_cases hs : start = gap.start
      · simp [hs, Nat.min_eq_right hle]
      · simp [hs, Nat.min_eq_right hle]

end

end Edit

/-! ## The invariant -/

/-- The points of `cut` divide the received bytes into the frames that will be popped: they
include the read position and the end of every gap, no gap contains one behind its start, and
the frame queued at a cut point outside the gaps ends at the next one. -/
structure Cuts (s : StreamFrameSorter) (cut : Nat → Prop) : Prop where
  read : cut s.readPosition
  gap_stop : ∀ g ∈ s.gaps, cut g.stop
  gap_start : ∀ x, cut x → ∀ g ∈ s.gaps, g.start ≤ x → x < g.stop → x = g.start
  frame : ∀ x, cut x → x < maxByteCount → ¬ Covers s.gaps x →
    ∃ f, s.queuedFrames x = some f ∧ 0 < f.dataLen ∧ cut f.stop

/-- The invariant of a sorter that has been pushed the bytes `received` of the stream
`content`. -/
structure Valid (content : Nat → Byte) (received : Nat → Prop) (s : StreamFrameSorter) :
    Prop where
  separated : Separated s.gaps
  covers_iff : ∀ x, Covers s.gaps x ↔ x < maxByteCount ∧ ¬ received x
  received_lt : ∀ x, received x → x < maxByteCount - 1
  readPosition_le : ∀ g ∈ s.gaps, s.readPosition ≤ g.start
  frames : ∀ k f, s.queuedFrames k = some f → f.offset = k ∧ f.AgreesWith content ∧
    ∀ x, k ≤ x → x < f.stop → received x
  cuts : ∃ cut, s.Cuts cut

theorem new_valid (content : Nat → Byte) : new.Valid content fun _ => False where
  separated := ⟨by simp [new], by simp [new, maxByteCount]⟩
  covers_iff x := by simp [new, Covers]
  received_lt := by simp
  readPosition_le := by simp [new]
  frames := by simp [new]
  cuts := by
    refine ⟨fun x => x = 0 ∨ x = maxByteCount, .inl rfl, by simp [new], ?_, ?_⟩
    · intro x hx g hg _ hlt
      obtain rfl : g = ⟨0, maxByteCount⟩ := by simpa [new] using hg
      rcases hx with rfl | rfl
      · rfl
      · exact absurd hlt (lt_irrefl _)
    · intro x _ hlt hcov
      exact absurd ⟨⟨0, maxByteCount⟩, by simp [new], Nat.zero_le x, hlt⟩ hcov

section Valid
variable {content : Nat → Byte} {received : Nat → Prop} {s : StreamFrameSorter}

/-- A queued frame has its key as offset, agrees with the stream and meets no gap. -/
theorem Valid.queued (hv : s.Valid content received) (k : Nat) (f : StreamFrame)
    (hk : s.queuedFrames k = some f) : f.offset = k ∧ f.AgreesWith content ∧
      ∀ x, k ≤ x → x < f.stop → ¬ Covers s.gaps x := by
  obtain ⟨hoff, hagree, hr⟩ := hv.frames k f hk
  exact ⟨hoff, hagree, fun x hx hxs hc => ((hv.covers_iff x).1 hc).2 (hr x hx hxs)⟩

variable {g : ByteInterval}

section
variable (hv : s.Valid content received)
include hv

theorem Valid.gap_stop_le (hg : g ∈ s.gaps) : g.stop ≤ maxByteCount := by
  have hlt := hv.separated.nonempty g hg
  have hcov : Covers s.gaps (g.stop - 1) := ⟨g, hg, by omega, by omega⟩
  have := ((hv.covers_iff _).1 hcov).1
  omega

theorem Valid.exists_last : ∃ g ∈ s.gaps, g.stop = maxByteCount := by
  obtain ⟨g, hg, hle, hlt⟩ := (hv.covers_iff (maxByteCount - 1)).2
    ⟨by decide, fun h => lt_irrefl _ (hv.received_lt _ h)⟩
  have := hv.gap_stop_le hg
  exact ⟨g, hg, by omega⟩

/-- The end of a gap other than the last one is the offset of a queued frame. -/
theorem Valid.queued_at_gap_stop (hg : g ∈ s.gaps) (hlt : g.stop < maxByteCount) :
    ∃ f, s.queuedFrames g.stop = some f ∧ 0 < f.dataLen := by
  obtain ⟨cut, hcut⟩ := hv.cuts
  have hnc : ¬ Covers s.gaps g.stop := by
    rintro ⟨g', hg', hle, hlt'⟩
    -- a cut point inside a gap is its start, but gaps do not touch
    have hst := hcut.gap_start _ (hcut.gap_stop g hg) g' hg' hle hlt'
    have hgne := hv.separated.nonempty g hg
    rcases hv.separated.eq_or_lt hg hg' with rfl | h | h <;> omega
  obtain ⟨f, hf, hpos, -⟩ := hcut.frame _ (hcut.gap_stop g hg) hlt hnc
  exact ⟨f, hf, hpos⟩

end

end Valid

/-! ## What `Push` does -/

/-- `s'` is `s` after `f`, the part of `frame` that had not been received, was queued. -/
structure Inserted (s : StreamFrameSorter) (frame f : StreamFrame) (s' : StreamFrameSorter) :
    Prop where
  offset_le : frame.offset ≤ f.offset
  stop_le : f.stop ≤ frame.stop
  finBit : f.finBit = frame.finBit
  agrees : ∀ content, frame.AgreesWith content → f.AgreesWith content
  covers : ∀ x, frame.offset ≤ x → x < frame.stop → Covers s.gaps x → f.offset ≤ x ∧ x < f.stop
  gaps : ∃ before mid after first last, s.gaps = before ++ mid ++ after ∧
    Spans mid first last f.offset f.stop ∧
    s'.gaps = Interval.carve before first last f.offset f.stop after
  readPosition : s'.readPosition = s.readPosition
  queued_self : s'.queuedFrames f.offset = some f
  queued : ∀ k, k ≠ f.offset → s'.queuedFrames k = s.queuedFrames k ∨
    s'.queuedFrames k = none ∧ f.offset < k ∧ k < f.stop
  deleted : ∀ g ∈ s.gaps, f.offset < g.stop → g.stop < f.stop → s'.queuedFrames g.stop = none
  stop_lt : frame.stop < maxByteCount

/-- What `Push` can do with a non-empty frame. -/
inductive PushOutcome (s : StreamFrameSorter) (frame : StreamFrame) :
    StreamFrameSorter × Option SorterError → Prop
  | duplicate : (∀ x, frame.offset ≤ x → x < frame.stop →
        x < maxByteCount ∧ ¬ Covers s.gaps x) →
      PushOutcome s frame (s, some .duplicateStreamData)
  | inserted {f : StreamFrame} {s' : StreamFrameSorter} : Inserted s frame f s' →
      PushOutcome s frame (s', none)
  | tooManyGaps (s' : StreamFrameSorter) :
      PushOutcome s frame (s', some .tooManyGapsInReceivedStreamData)
  | outOfRange (s' : StreamFrameSorter) (err : SorterError) : err ≠ .duplicateStreamData →
      maxByteCount ≤ frame.stop → PushOutcome s frame (s', some err)

section Valid
variable {content : Nat → Byte} {received : Nat → Prop} {s : StreamFrameSorter}
  {frame : StreamFrame}
variable {f : StreamFrame}

/-- Once both gaps are found, the frame is cut to what lies between them, and the gaps are adjusted.
-/
theorem Valid.inserted_of_found (hv : s.Valid content received) (hpos : 0 < frame.dataLen)
    (hstart : ∀ g ∈ s.gaps, g.stop < maxByteCount → frame.offset ≠ g.stop)
    {before after passed : List ByteInterval} (hgaps : s.gaps = before ++ gap :: after)
    (hb : ∀ g ∈ before, g.stop < frame.offset) (hgs : gap.start < frame.stop)
    (hsg : frame.offset ≤ gap.stop) (hf : e.Found frame.stop s.queuedFrames gap .gap after passed)
    (hfr : (frame.trimFront gap.start).trimBack e.value.stop = f) :
    Inserted s frame f { s with
      gaps := adjustGaps before gap e f.offset (min frame.stop e.value.stop)
      queuedFrames := update e.queuedFrames f.offset (some f) } := by
  have hframe : frame.stop = frame.offset + frame.dataLen := rfl
  have hsep : Separated (before ++ gap :: after) := hgaps ▸ hv.separated
  have hgne : gap.start < gap.stop := hsep.nonempty gap (by simp)
  have hmax : ∀ g ∈ gap :: after, g.stop ≤ maxByteCount := fun g hg =>
    hv.gap_stop_le (by rw [hgaps]; exact mem_append_right _ hg)
  have hend : frame.stop < maxByteCount := by
    rcases hf.reach with hlt | ⟨next, rest, hnext, hle⟩
    · exact hlt.trans_le (hmax _ (by rw [hf.split]; simp))
    · have hmem : next ∈ gap :: after := by rw [hf.split, hnext]; simp
      have := hsep.nonempty next (mem_append_right _ hmem)
      have := hmax next hmem
      omega
  have hlt : frame.offset < gap.stop :=
    lt_of_le_of_ne hsg fun heq => hstart gap (by simp [hgaps]) (by omega) heq
  have hoff : f.offset = max frame.offset gap.start := by
    rw [← hfr, trimBack_offset, trimFront_offset]
  have hspans : Spans (passed ++ [e.value]) gap e.value f.offset (min frame.stop e.value.stop) :=
    hf.spans hsep (by omega) (by omega) (by omega)
  have hstop : f.stop = min frame.stop e.value.stop := by
    have hle : f.offset ≤ e.value.stop := (hspans.lt.trans_le (min_le_right ..)).le
    rw [← hfr, trimBack_offset] at hle
    rw [← hfr, trimBack_stop hle, trimFront_stop hgs.le]
  have hafter := fun g => hf.le_after (hsep.sublist (sublist_append_right ..)) (g := g)
  have hgap := hgaps
  rw [hf.split, append_cons, ← append_assoc] at hgap
  have hsplit : Separated (before ++ (passed ++ [e.value]) ++ e.after) := hgap ▸ hv.separated
  have hpassed : ∀ g ∈ passed, g.stop < e.value.start := fun g hg =>
    (hsep.sublist (by rw [hf.split]; exact sublist_append_right ..)).lt_append hg
      mem_cons_self
  rw [← hstop] at hspans
  constructor
  · omega
  · omega
  · rw [← hfr, trimBack_finBit, trimFront_finBit]
  · intro content' h
    rw [← hfr]
    exact (h.trimFront _).trimBack _
  · rintro x hx hxs ⟨g, hg, hgx, hxg⟩
    rw [hgap] at hg
    rcases mem_append.1 hg with hg | hg
    · rcases mem_append.1 hg with hg | hg
      · have := hb g hg
        omega
      · have hlast := hspans.before_last g hg
        rcases hspans.after_first g hg with rfl | hfirst <;> rcases hlast with rfl | hlast <;> omega
    · have := hafter g hg
      omega
  · refine ⟨before, passed ++ [e.value], e.after, gap, e.value, hgap, hspans, ?_⟩
    rw [hstop]
    exact adjustGaps_eq_carve hf hsep (by omega)
  · rfl
  · exact update_self ..
  · intro k hk
    simp only [update_of_ne hk]
    rcases hf.queued k with hk | ⟨hk, g, hg, rfl⟩
    · exact .inl hk
    · have hgne := hsplit.nonempty g (by simp [hg])
      have hgv := hpassed g hg
      have hvs := hspans.start_lt
      refine .inr ⟨hk, ?_, by omega⟩
      rcases hspans.after_first g (mem_append_left _ hg) with rfl | hlt
      · exact hspans.lt_stop
      · omega
  · intro g hg hfg hgf
    -- of the gaps that end inside the frame, the loop has passed over each
    have hmem : g ∈ passed := by
      rw [hgap] at hg
      rcases mem_append.1 hg with hg | hg
      · rcases mem_append.1 hg with hg | hg
        · have := hb g hg
          omega
        · rcases mem_append.1 hg with hg | hg
          · exact hg
          · rw [mem_singleton.1 hg] at hgf
            omega
      · have := hafter g hg
        have := hsplit.nonempty g (by simp [hg])
        omega
    simp only [update_of_ne hfg.ne']
    exact hf.deleted g hmem
  · exact hend

/-- **A frame with data is inserted**, a duplicate, beyond the range, or leaves too many gaps. -/
theorem Valid.insert_outcome (hv : s.Valid content received) (hpos : 0 < frame.dataLen)
    (hstart : ∀ g ∈ s.gaps, g.stop < maxByteCount → frame.offset ≠ g.stop) :
    PushOutcome s frame (s.insert frame) := by
  have hsound := findGap_sound frame.offset frame.stop s.gaps
  have hframe : frame.stop = frame.offset + frame.dataLen := rfl
  have hsep := hv.separated
  obtain ⟨last, hlast, hmax⟩ := hv.exists_last
  unfold insert
  cases hsearch : findGap frame.offset frame.stop s.gaps with
  | duplicate =>
    rw [hsearch] at hsound
    obtain ⟨before, gap, after, hgaps, hb, hle⟩ := hsound
    have hmem : gap ∈ s.gaps := by simp [hgaps]
    have hgmax := hv.gap_stop_le hmem
    have hgne := hsep.nonempty gap hmem
    refine .duplicate fun x hx hxs => ⟨by omega, ?_⟩
    rintro ⟨g, hg, hgx, hxg⟩
    rw [hgaps] at hg hsep
    rcases mem_append.1 hg with hg | hg
    · have := hb g hg
      omega
    · rcases mem_cons.1 hg with rfl | hg
      · omega
      · have := hsep.lt_cons hg
        omega
  | notFound =>
    rw [hsearch] at hsound
    have hlt : last.stop < frame.offset := hsound last hlast
    exact .outOfRange _ _ (by decide) (by omega)
  | found before gap after =>
    rw [hsearch] at hsound
    obtain ⟨hgaps, hb, hgs, hsg⟩ := hsound
    cases hend : findEndGap frame.stop s.queuedFrames gap .gap after with
    | error e =>
      obtain ⟨init', last', hsplit, hle⟩ := findEndGap_error hend
      simp only [hend]
      refine .outOfRange _ _ (by decide) ?_
      rw [hgaps] at hlast hsep
      rcases mem_append.1 hlast with hbl | hal
      · have := hb last hbl
        omega
      · rw [hsplit, ← append_assoc] at hsep
        rw [hsplit] at hal
        rcases mem_append.1 hal with hal | hal
        · have := hsep.lt_append (mem_append_right _ hal) mem_cons_self
          have := hsep.nonempty last' (by simp)
          omega
        · rw [mem_singleton.1 hal] at hmax
          omega
    | ok e =>
      obtain ⟨passed, hf⟩ := findEndGap_ok (by simp) hend
      simp only [hend]
      split
      · exact .tooManyGaps _
      · exact .inserted (hv.inserted_of_found hpos hstart hgaps hb hgs hsg hf rfl)

theorem Inserted.of_cutFront {s' : StreamFrameSorter} {n : Nat} (hn : n ≤ frame.dataLen)
    (hold : ∀ x, frame.offset ≤ x → x < frame.offset + n → ¬ Covers s.gaps x)
    (h : Inserted s (frame.cutFront n) f s') : Inserted s frame f s' := by
  have hstop := frame.cutFront_stop hn
  refine { h with
    offset_le := (Nat.le_add_right _ n).trans h.offset_le
    stop_le := hstop ▸ h.stop_le
    agrees := fun content hc => h.agrees content (hc.cutFront n)
    covers := fun x hx hxs hcov => ?_
    stop_lt := hstop ▸ h.stop_lt }
  refine h.covers x ?_ (hstop ▸ hxs) hcov
  exact not_lt.1 fun hlt => hold x hx hlt hcov

/-- **The specification of `Push`** on non-empty frames. -/
theorem Valid.push_outcome (hv : s.Valid content received) (hpos : 0 < frame.dataLen) :
    PushOutcome s frame (s.push frame) := by
  unfold push
  rw [if_neg hpos.ne']
  have hframe : frame.stop = frame.offset + frame.dataLen := rfl
  cases hq : s.queuedFrames frame.offset with
  | none =>
    refine hv.insert_outcome hpos fun g hg hlt heq => ?_
    obtain ⟨f, hf, -⟩ := hv.queued_at_gap_stop hg hlt
    rw [← heq, hq] at hf
    cases hf
  | some old =>
    obtain ⟨hoff, -, hdis⟩ := hv.queued _ _ hq
    have hold : old.stop = frame.offset + old.dataLen := by rw [← hoff]; rfl
    dsimp only
    split
    · refine .duplicate fun x hx hxs => ⟨?_, hdis x hx (by omega)⟩
      have := hv.received_lt x ((hv.frames _ _ hq).2.2 x hx (by omega))
      omega
    · next hle =>
      have hcut := frame.cutFront_stop (le_of_not_ge hle)
      have hpos' : 0 < (frame.cutFront old.dataLen).dataLen := by
        rw [cutFront_dataLen]
        omega
      have hout := hv.insert_outcome hpos' ?_
      · generalize s.insert (frame.cutFront old.dataLen) = r at hout ⊢
        cases hout with
        | duplicate hdup =>
          refine .duplicate fun x hx hxs => ?_
          rcases lt_or_ge x old.stop with hlt | hge
          · have := hv.received_lt x ((hv.frames _ _ hq).2.2 x hx hlt)
            exact ⟨by omega, hdis x hx hlt⟩
          · exact hdup x (by rw [cutFront_offset]; omega) (hcut ▸ hxs)
        | inserted h =>
          exact .inserted (h.of_cutFront (by omega) fun x hx hlt => hdis x hx (by omega))
        | tooManyGaps s' => exact .tooManyGaps s'
        | outOfRange s' err hne hle => exact .outOfRange s' err hne (hcut ▸ hle)
      · intro g hg hlt heq
        rw [cutFront_offset] at heq
        -- the byte before the end of a gap is missing, so the old frame would have to be empty
        obtain ⟨f, hf, hfpos⟩ := hv.queued_at_gap_stop hg hlt
        have hgne := hv.separated.nonempty g hg
        by_cases hempty : old.dataLen = 0
        · rw [← heq, hempty, Nat.add_zero, hq] at hf
          cases hf
          omega
        · exact hdis (g.stop - 1) (by omega) (by omega) ⟨g, hg, by omega, by omega⟩

end Valid

/-! ## The invariant is kept -/

section Inserted
variable {content : Nat → Byte} {received : Nat → Prop} {s s' : StreamFrameSorter}
  {frame f : StreamFrame}

section
variable (h : Inserted s frame f s')
include h

theorem Inserted.lt : f.offset < f.stop := by
  obtain ⟨_, _, _, _, _, -, hs, -⟩ := h.gaps
  exact hs.lt

theorem Inserted.separated (hsep : Separated s.gaps) : Separated s'.gaps := by
  obtain ⟨_, _, _, _, _, hgaps, hs, hgaps'⟩ := h.gaps
  rw [hgaps']
  exact (hgaps ▸ hsep).carve hs

theorem Inserted.covers_iff (hsep : Separated s.gaps) (x : Nat) :
    Covers s'.gaps x ↔ Covers s.gaps x ∧ ¬ (f.offset ≤ x ∧ x < f.stop) := by
  obtain ⟨_, _, _, _, _, hgaps, hs, hgaps'⟩ := h.gaps
  rw [hgaps', hgaps]
  exact Interval.covers_carve (hgaps ▸ hsep) hs x

/-- The queued frame starts at a missing byte. -/
theorem Inserted.covers_offset : Covers s.gaps f.offset := by
  obtain ⟨_, _, _, first, _, hgaps, hs, -⟩ := h.gaps
  exact ⟨first, by simp [hgaps, hs.first_mem], hs.start_le, hs.lt_stop⟩

/-- The last byte of a queued frame was missing before. -/
theorem Inserted.covers_last : Covers s.gaps (f.stop - 1) := by
  obtain ⟨_, _, _, _, last, hgaps, hs, -⟩ := h.gaps
  have := hs.start_lt
  have := hs.le_stop
  exact ⟨last, by simp [hgaps, hs.last_mem], by omega, by omega⟩

theorem Inserted.readPosition_le (hread : ∀ g ∈ s.gaps, s.readPosition ≤ g.start) :
    s.readPosition ≤ f.offset := by
  obtain ⟨g, hg, hle, -⟩ := h.covers_offset
  exact (hread g hg).trans hle

/-- The two ends of a frame that is queued are cut points; those strictly inside it are gone. -/
theorem Inserted.cuts (hv : s.Valid content received) {cut : Nat → Prop} (hc : s.Cuts cut) :
    s'.Cuts fun x => x = f.offset ∨ x = f.stop ∨ cut x ∧ ¬ (f.offset < x ∧ x < f.stop) := by
  have hsep := hv.separated
  have hlt := h.lt
  have hcov := h.covers_iff hsep
  have hread := h.readPosition_le hv.readPosition_le
  obtain ⟨before, mid, after, first, last, hgaps, hs, hgaps'⟩ := h.gaps
  have hsep' : Separated (before ++ mid ++ after) := hgaps ▸ hsep
  have hfirst : first ∈ s.gaps := by simp [hgaps, hs.first_mem]
  have hlast : last ∈ s.gaps := by simp [hgaps, hs.last_mem]
  have hfs := hs.start_le
  have hls := hs.le_stop
  constructor
  · rw [h.readPosition]
    exact .inr (.inr ⟨hc.read, by omega⟩)
  · intro g hg
    rw [hgaps'] at hg
    rcases Interval.mem_carve.1 hg with hg | ⟨-, rfl⟩ | ⟨-, rfl⟩ | hg
    · have := hsep'.before_lt_mid hg hs.first_mem
      exact .inr (.inr ⟨hc.gap_stop g (by simp [hgaps, hg]), by omega⟩)
    · exact .inl rfl
    · exact .inr (.inr ⟨hc.gap_stop last hlast, by dsimp only; omega⟩)
    · have := hsep'.lt_append (mem_append_right _ hs.last_mem) hg
      have := hsep'.nonempty g (by simp [hg])
      exact .inr (.inr ⟨hc.gap_stop g (by simp [hgaps, hg]), by omega⟩)
  · intro x hx g hg hgx hxg
    have hout := ((hcov x).1 ⟨g, hg, hgx, hxg⟩).2
    rw [hgaps'] at hg
    rcases hx with rfl | rfl | ⟨hx, -⟩
    · omega
    · rcases Interval.mem_carve.1 hg with hg | ⟨-, rfl⟩ | ⟨-, rfl⟩ | hg
      · have := hsep'.before_lt_mid hg hs.first_mem
        omega
      · dsimp only at hxg
        omega
      · rfl
      · have := hsep'.lt_append (mem_append_right _ hs.last_mem) hg
        omega
    · rcases Interval.mem_carve.1 hg with hg | ⟨-, rfl⟩ | ⟨-, rfl⟩ | hg
      · exact hc.gap_start x hx g (by simp [hgaps, hg]) hgx hxg
      · exact hc.gap_start x hx first hfirst hgx (hxg.trans hs.lt_stop)
      · have := hc.gap_start x hx last hlast (hs.start_lt.le.trans hgx) hxg
        have := hs.start_lt
        dsimp only at hgx
        omega
      · exact hc.gap_start x hx g (by simp [hgaps, hg]) hgx hxg
  · intro x hx hxmax hxc
    by_cases hxf : x = f.offset
    · subst hxf
      have hstop : f.stop = f.offset + f.dataLen := rfl
      exact ⟨f, h.queued_self, by omega, .inr (.inl rfl)⟩
    · have hin : ¬ (f.offset ≤ x ∧ x < f.stop) := by
        omega
      have hnc : ¬ Covers s.gaps x := fun hc' => hxc ((hcov x).2 ⟨hc', hin⟩)
      have hcx : cut x := by
        rcases hx with rfl | rfl | ⟨hx, -⟩
        · exact absurd rfl hxf
        · -- the frame ends where the end gap does, else the next byte would be missing
          have hend : f.stop = last.stop := by
            refine le_antisymm hls (not_lt.1 fun hlt' => hnc ⟨last, hlast, ?_, hlt'⟩)
            exact hs.start_lt.le
          rw [hend]
          exact hc.gap_stop last hlast
        · exact hx
      obtain ⟨f0, hf0, hpos, hcut0⟩ := hc.frame x hcx hxmax hnc
      obtain ⟨hoff0, -, hdis0⟩ := hv.queued x f0 hf0
      refine ⟨f0, ?_, hpos, .inr (.inr ⟨hcut0, ?_⟩)⟩
      · rcases h.queued x hxf with hq | ⟨-, hq⟩
        · rw [hq, hf0]
        · omega
      · rintro ⟨hlo, hhi⟩
        have hstop0 : f0.stop = f0.offset + f0.dataLen := rfl
        exact hdis0 f.offset (by omega) hlo h.covers_offset

theorem Inserted.valid (hv : s.Valid content received) (hagree : frame.AgreesWith content) :
    s'.Valid content fun x => received x ∨ frame.offset ≤ x ∧ x < frame.stop := by
  have hcov := h.covers_iff hv.separated
  have ho := h.offset_le
  have hst := h.stop_le
  constructor
  · exact h.separated hv.separated
  · intro x
    rw [hcov, hv.covers_iff]
    constructor
    · rintro ⟨⟨hmax, hr⟩, hf⟩
      refine ⟨hmax, fun hx => hx.elim hr fun hx => hf ?_⟩
      exact h.covers x hx.1 hx.2 ((hv.covers_iff x).2 ⟨hmax, hr⟩)
    · rintro ⟨hmax, hr⟩
      exact ⟨⟨hmax, fun hx => hr (.inl hx)⟩, fun hx => hr (.inr (by omega))⟩
  · have := h.stop_lt
    exact fun x hx => hx.elim (hv.received_lt x) fun hx => by omega
  · intro g hg
    have hread := h.readPosition_le hv.readPosition_le
    have hlt := h.lt
    obtain ⟨before, mid, after, first, last, hgaps, hs, hgaps'⟩ := h.gaps
    rw [h.readPosition]
    rw [hgaps'] at hg
    rcases Interval.mem_carve.1 hg with hg | ⟨-, rfl⟩ | ⟨-, rfl⟩ | hg
    · exact hv.readPosition_le g (by simp [hgaps, hg])
    · exact hv.readPosition_le first (by simp [hgaps, hs.first_mem])
    · dsimp only
      omega
    · exact hv.readPosition_le g (by simp [hgaps, hg])
  · intro k f0 hk
    by_cases hkf : k = f.offset
    · subst hkf
      rw [h.queued_self] at hk
      cases hk
      exact ⟨rfl, h.agrees content hagree, fun x hx hxs => .inr (by omega)⟩
    · rcases h.queued k hkf with hq | ⟨hq, -⟩
      · obtain ⟨hoff, hagree0, hr⟩ := hv.frames k f0 (hq ▸ hk)
        exact ⟨hoff, hagree0, fun x hx hxs => .inl (hr x hx hxs)⟩
      · rw [hq] at hk
        cases hk
  · obtain ⟨cut, hc⟩ := hv.cuts
    exact ⟨_, h.cuts hv hc⟩

end

end Inserted

section Pop
variable {content : Nat → Byte} {received : Nat → Prop} {s s' : StreamFrameSorter}
  {f : StreamFrame}

section
variable (hv : s.Valid content received)
include hv

theorem Valid.readPosition_lt : s.readPosition < maxByteCount := by
  obtain ⟨g, hg, hstop⟩ := hv.exists_last
  have := hv.separated.nonempty g hg
  have := hv.readPosition_le g hg
  omega

/-- Once the byte at the read position has been received there is a frame to read. -/
theorem Valid.head_of_received (hr : received s.readPosition) :
    ∃ f, s.head = some f ∧ 0 < f.dataLen := by
  obtain ⟨cut, hc⟩ := hv.cuts
  have hnc : ¬ Covers s.gaps s.readPosition := fun h => ((hv.covers_iff _).1 h).2 hr
  obtain ⟨f, hf, hpos, -⟩ := hc.frame _ hc.read hv.readPosition_lt hnc
  exact ⟨f, hf, hpos⟩

/-- The frame to read ends before every gap. -/
theorem Valid.head_stop_le (hf : s.head = some f) {g : ByteInterval} (hg : g ∈ s.gaps) :
    f.stop ≤ g.start := by
  obtain ⟨-, -, hdis⟩ := hv.queued _ _ hf
  refine not_lt.1 fun hlt => ?_
  exact hdis g.start (hv.readPosition_le g hg) hlt ⟨g, hg, le_rfl, hv.separated.nonempty g hg⟩

/-- The frame popped ends at the next cut point, which becomes the read position. -/
theorem Valid.pop (hf : s.head = some f) : s.pop.1.Valid content received := by
  obtain ⟨hoff, -, hdis⟩ := hv.queued _ _ hf
  obtain ⟨cut, hc⟩ := hv.cuts
  have hstop : f.stop = s.readPosition + f.dataLen := by rw [← hoff]; rfl
  have hgap : ∀ g ∈ s.gaps, f.stop ≤ g.start := fun g hg => hv.head_stop_le hf hg
  -- the live frame at an uncovered read position is `f`; otherwise `f` is an empty FIN frame
  have hlive : ¬ Covers s.gaps s.readPosition → 0 < f.dataLen ∧ cut f.stop := fun hnc => by
    obtain ⟨f', hf', hpos, hcut⟩ := hc.frame _ hc.read hv.readPosition_lt hnc
    obtain rfl : f' = f := Option.some.inj (hf'.symm.trans hf)
    exact ⟨hpos, hcut⟩
  have hempty : Covers s.gaps s.readPosition → f.stop = s.readPosition := fun hcov => by
    refine le_antisymm (not_lt.1 fun hlt => hdis _ le_rfl hlt hcov) (by omega)
  rw [pop_of_head hf, ← hstop]
  refine ⟨hv.separated, hv.covers_iff, hv.received_lt, hgap, ?_, fun x => cut x ∧ f.stop ≤ x, ?_⟩
  · intro k f0 hk
    by_cases hkf : k = f.offset
    · subst hkf
      simp at hk
    · exact hv.frames k f0 (by simpa [update_of_ne hkf] using hk)
  · constructor
    · refine ⟨?_, le_rfl⟩
      by_cases hcov : Covers s.gaps s.readPosition
      · exact (hempty hcov).symm ▸ hc.read
      · exact (hlive hcov).2
    · intro g hg
      have := hgap g hg
      have := hv.separated.nonempty g hg
      exact ⟨hc.gap_stop g hg, by omega⟩
    · exact fun x hx => hc.gap_start x hx.1
    · intro x hx hmax hnc
      obtain ⟨f0, hf0, hpos, hcut⟩ := hc.frame x hx.1 hmax hnc
      obtain ⟨hoff0, -⟩ := hv.queued x f0 hf0
      have hne : x ≠ f.offset := by
        rintro rfl
        rw [hoff] at hnc
        have := (hlive hnc).1
        omega
      refine ⟨f0, by simpa [update_of_ne hne] using hf0, hpos, hcut, ?_⟩
      have hstop0 : f0.stop = f0.offset + f0.dataLen := rfl
      omega

end

end Pop

/-! ## Sequences of operations -/

/-- An operation of the sorter's user. -/
inductive Op
  | push (frame : StreamFrame)
  | pop
  deriving DecidableEq

/-- An operation with its result. -/
inductive Event
  | pushed (frame : StreamFrame) (err : Option SorterError)
  | popped (frame : Option StreamFrame)
  deriving DecidableEq

/-- One operation. -/
def step (s : StreamFrameSorter) : Op → StreamFrameSorter × Event
  | .push frame => ((s.push frame).1, .pushed frame (s.push frame).2)
  | .pop => (s.pop.1, .popped s.pop.2)

/-- A sequence of operations. -/
def run (s : StreamFrameSorter) : List Op → StreamFrameSorter × List Event
  | [] => (s, [])
  | op :: ops => (((s.step op).1.run ops).1, (s.step op).2 :: ((s.step op).1.run ops).2)

/-- The data of the frames that were popped. -/
def poppedData (events : List Event) : List Byte :=
  events.flatMap fun
    | .popped (some frame) => frame.data
    | _ => []

theorem run_concat (s : StreamFrameSorter) (ops : List Op) (op : Op) :
    s.run (ops ++ [op]) =
      (((s.run ops).1.step op).1, (s.run ops).2 ++ [((s.run ops).1.step op).2]) := by
  induction ops generalizing s with
  | nil => rfl
  | cons o ops ih => simp only [cons_append, run, ih]

/-- The bytes a sequence of operations pushes. -/
def Pushed (ops : List Op) (x : Nat) : Prop :=
  ∃ f, Op.push f ∈ ops ∧ f.offset ≤ x ∧ x < f.stop

/-- The state of a sorter between two operations: the invariant, no empty frame in the queue,
and the popped bytes are the stream up to the read position. -/
structure Good (content : Nat → Byte) (ops : List Op) (r : StreamFrameSorter × List Event) :
    Prop where
  valid : r.1.Valid content (Pushed ops)
  nonempty : ∀ k f, r.1.queuedFrames k = some f → 0 < f.dataLen
  popped : poppedData r.2 = (range r.1.readPosition).map content
  results : ∀ f err, Event.pushed f err ∈ r.2 → err = none ∨ err = some .duplicateStreamData

section Run
variable {content : Nat → Byte} {ops : List Op} {r : StreamFrameSorter × List Event}

theorem pushed_concat_push (ops : List Op) (f : StreamFrame) :
    Pushed (ops ++ [.push f]) = fun x => Pushed ops x ∨ f.offset ≤ x ∧ x < f.stop := by
  funext x
  simp only [Pushed, mem_append, mem_singleton, Op.push.injEq, or_and_right, exists_or,
    exists_eq_left]

theorem pushed_concat_pop (ops : List Op) : Pushed (ops ++ [.pop]) = Pushed ops := by
  funext x
  simp [Pushed]

theorem Good.push (h : Good content ops r) {frame : StreamFrame} (hpos : 0 < frame.dataLen)
    (hagree : frame.AgreesWith content) (hstop : frame.stop < maxByteCount)
    (htoo : (r.1.push frame).2 ≠ some .tooManyGapsInReceivedStreamData) :
    Good content (ops ++ [.push frame])
      ((r.1.step (.push frame)).1, r.2 ++ [(r.1.step (.push frame)).2]) := by
  have hout := h.valid.push_outcome hpos
  simp only [step]
  generalize r.1.push frame = res at hout htoo ⊢
  have hpopped : ∀ err, poppedData (r.2 ++ [.pushed frame err]) = poppedData r.2 := fun err => by
    simp [poppedData]
  cases hout with
  | duplicate hdup =>
    refine ⟨?_, h.nonempty, (hpopped _).trans h.popped, ?_⟩
    · -- the frame added nothing: all its bytes had been pushed before
      have hsame : Pushed (ops ++ [.push frame]) = Pushed ops := by
        rw [pushed_concat_push]
        funext x
        refine propext ⟨fun hx => hx.elim id fun hx => ?_, .inl⟩
        by_contra hr
        obtain ⟨hmax, hnc⟩ := hdup x hx.1 hx.2
        exact hnc ((h.valid.covers_iff x).2 ⟨hmax, hr⟩)
      rw [hsame]
      exact h.valid
    · simp only [mem_append, mem_singleton]
      rintro f err (hf | ⟨-, rfl⟩)
      · exact h.results f err hf
      · exact .inr rfl
  | @inserted f s' hins =>
    refine ⟨?_, ?_, ?_, ?_⟩
    · rw [pushed_concat_push]
      exact hins.valid h.valid hagree
    · intro k f0 hk
      by_cases hkf : k = f.offset
      · subst hkf
        obtain rfl : f = f0 := Option.some.inj (hins.queued_self.symm.trans hk)
        have hlt := hins.lt
        have hfs : f.stop = f.offset + f.dataLen := rfl
        omega
      · rcases hins.queued k hkf with hq | ⟨hq, -⟩
        · exact h.nonempty k f0 (hq ▸ hk)
        · rw [hq] at hk
          cases hk
    · rw [hpopped, h.popped, hins.readPosition]
    · simp only [mem_append, mem_singleton]
      rintro f err (hf | ⟨-, rfl⟩)
      · exact h.results f err hf
      · exact .inl rfl
  | tooManyGaps s' => exact absurd rfl htoo
  | outOfRange s' err _ hle => omega

theorem Good.pop (h : Good content ops r) :
    Good content (ops ++ [.pop]) ((r.1.step .pop).1, r.2 ++ [(r.1.step .pop).2]) := by
  simp only [step]
  cases hhead : r.1.head with
  | none =>
    rw [pop_of_head_none hhead]
    refine ⟨by rw [pushed_concat_pop]; exact h.valid, h.nonempty, ?_, ?_⟩
    · simpa [poppedData] using h.popped
    · simpa using h.results
  | some f =>
    obtain ⟨hoff, hagree, -⟩ := h.valid.queued _ _ hhead
    have hvalid := h.valid.pop hhead
    rw [pop_of_head hhead] at hvalid ⊢
    refine ⟨by rw [pushed_concat_pop]; exact hvalid, ?_, ?_, ?_⟩
    · intro k f0 hk
      by_cases hkf : k = f.offset
      · subst hkf
        simp at hk
      · exact h.nonempty k f0 (by simpa [update_of_ne hkf] using hk)
    · have hdata : poppedData (r.2 ++ [.popped (some f)]) = poppedData r.2 ++ f.data := by
        simp [poppedData]
      rw [hdata, h.popped, hagree, hoff, range_add, map_append, map_map]
      rfl
    · simpa using h.results

theorem new_good (content : Nat → Byte) : Good content [] (new, []) where
  valid := by
    have hnone : Pushed [] = fun _ => False := by
      funext x
      simp [Pushed]
    rw [hnone]
    exact new_valid content
  nonempty := by simp [new]
  popped := rfl
  results := by simp

theorem run_good (content : Nat → Byte) (ops : List Op)
    (hops : ∀ f, Op.push f ∈ ops →
      0 < f.dataLen ∧ f.AgreesWith content ∧ f.stop < maxByteCount)
    (htoo : ∀ f, Event.pushed f (some .tooManyGapsInReceivedStreamData) ∉ (new.run ops).2) :
    Good content ops (new.run ops) := by
  induction ops using reverseRecOn with
  | nil => exact new_good content
  | append_singleton ops op ih =>
    rw [run_concat] at htoo ⊢
    have hgood := ih (fun f hf => hops f (mem_append_left _ hf))
      fun f hf => htoo f (mem_append_left _ hf)
    cases op with
    | pop => exact hgood.pop
    | push f =>
      obtain ⟨hpos, hagree, hstop⟩ := hops f (by simp)
      refine hgood.push hpos hagree hstop fun herr => htoo f ?_
      simp only [step, herr, mem_append, mem_singleton, or_true]

/-- **Reassembly.**  Whatever non-empty frames of a stream are pushed, in whatever order and
however they overlap, and whenever frames are popped in between: the popped bytes are the
stream up to the read position, `Push` returns nothing but "duplicate" errors, and there is a
frame to read exactly when the byte at the read position has been pushed. -/
theorem reassembly (content : Nat → Byte) (ops : List Op)
    (hops : ∀ f, Op.push f ∈ ops →
      0 < f.dataLen ∧ f.AgreesWith content ∧ f.stop < maxByteCount)
    (htoo : ∀ f, Event.pushed f (some .tooManyGapsInReceivedStreamData) ∉ (new.run ops).2) :
    poppedData (new.run ops).2 = (range (new.run ops).1.readPosition).map content ∧
    (∀ f err, Event.pushed f err ∈ (new.run ops).2 →
      err = none ∨ err = some .duplicateStreamData) ∧
    ((∃ f, (new.run ops).1.head = some f) ↔ Pushed ops (new.run ops).1.readPosition) := by
  have hgood := run_good content ops hops htoo
  refine ⟨hgood.popped, hgood.results, ?_, ?_⟩
  · rintro ⟨f, hf⟩
    have hpos := hgood.nonempty _ f hf
    obtain ⟨hoff, -, hr⟩ := hgood.valid.frames _ _ hf
    have hstop : f.stop = f.offset + f.dataLen := rfl
    exact hr _ le_rfl (by omega)
  · intro hr
    obtain ⟨f, hf, -⟩ := hgood.valid.head_of_received hr
    exact ⟨f, hf⟩

/-- A frame that covers two gaps swallows the frame queued between them and is popped as one. -/
def swallowing : List Op :=
  [.push ⟨5, false, true, 2, [2, 3]⟩, .push ⟨5, false, true, 7, [7, 8]⟩,
    .push ⟨5, false, true, 0, [0, 1, 2, 3, 4, 5, 6, 7]⟩, .pop, .pop]

/-- The first frame is swallowed by the third, whose last byte is cut off. -/
theorem reassembly_swallowing :
    (new.run swallowing).1.readPosition = 9 ∧
      poppedData (new.run swallowing).2 = (range 9).map UInt8.ofNat := by
  have hread : (new.run swallowing).1.readPosition = 9 := by decide
  have hevents : (new.run swallowing).2 =
      [.pushed ⟨5, false, true, 2, [2, 3]⟩ none, .pushed ⟨5, false, true, 7, [7, 8]⟩ none,
        .pushed ⟨5, false, true, 0, [0, 1, 2, 3, 4, 5, 6, 7]⟩ none,
        .popped (some ⟨5, false, true, 0, [0, 1, 2, 3, 4, 5, 6]⟩),
        .popped (some ⟨5, false, true, 7, [7, 8]⟩)] := by decide
  have hre := reassembly UInt8.ofNat swallowing ?_ (by simp [hevents])
  · exact ⟨hread, hread ▸ hre.1⟩
  · intro f hf
    simp only [swallowing, mem_cons, Op.push.injEq, reduceCtorEq, or_false, not_mem_nil]
      at hf
    rcases hf with rfl | rfl | rfl <;> decide

end Run

end MpQuic.StreamFrameSorter
