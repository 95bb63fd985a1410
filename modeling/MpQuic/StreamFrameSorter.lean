import Mathlib.Logic.Function.Basic
import Mathlib.Order.Nat
import MpQuic.Lib.Intervals
import MpQuic.StreamFrame

/-!
# The stream frame sorter (`stream_frame_sorter.go`)

The sorter reassembles one direction of a stream.  It keeps the byte ranges not
received yet (`gaps`), the frames that wait to be read, keyed by their offset
(`queuedFrames`), and the offset of the next byte to hand out (`readPosition`).
`push` trims a frame to the bytes it adds and edits the gap list; `pop` hands out
the frame at the read position.

A frame that covers several gaps swallows the frames queued between them, but
the source deletes only the first frame of each swallowed run, so
`queuedFrames` may hold stale frames.  `Valid` is the invariant that copes with
them: it records a set of cut points such that the frame queued at a cut point
ends at the next one.
-/
namespace MpQuic
open Function

open Systems (Interval)
open Systems.Interval (Covers Separated Spans)

/-- `utils.ByteInterval`. -/
abbrev ByteInterval := Systems.Interval Nat

/-- The errors `streamFrameSorter.Push` returns. -/
inductive SorterError
  /-- `errTooManyGapsInReceivedStreamData` -/
  | tooManyGapsInReceivedStreamData
  /-- `errDuplicateStreamData` -/
  | duplicateStreamData
  /-- `errEmptyStreamData` -/
  | emptyStreamData
  /-- "StreamFrameSorter BUG: no gap found" -/
  | noGapFound
  /-- "StreamFrameSorter BUG: no end gap found" -/
  | noEndGapFound
  deriving DecidableEq, Repr

/-- `streamFrameSorter.queuedFrames`, a map from offsets to frames. -/
abbrev FrameMap := Nat → Option StreamFrame

/-- `streamFrameSorter`. -/
structure StreamFrameSorter where
  queuedFrames : FrameMap
  readPosition : Nat
  gaps : List ByteInterval

namespace StreamFrameSorter

/-- `newStreamFrameSorter`. -/
def new : StreamFrameSorter where
  queuedFrames := fun _ => none
  readPosition := 0
  gaps := [⟨0, maxByteCount⟩]

/-- The result of the loop that skips the gaps before the frame. -/
inductive GapSearch
  /-- The frame ends before a gap it does not reach. -/
  | duplicate
  /-- The loop ran off the list. -/
  | notFound
  /-- The loop stopped at `gap`. -/
  | found (before : List ByteInterval) (gap : ByteInterval) (after : List ByteInterval)
  deriving DecidableEq, Repr

/-- "skip all gaps that are before this stream frame", for the frame `[start, stop)`. -/
def findGap (start stop : Nat) : List ByteInterval → GapSearch
  | [] => .notFound
  | gap :: after =>
    if stop ≤ gap.start then .duplicate
    else if gap.start < stop ∧ start ≤ gap.stop then .found [] gap after
    else
      match findGap start stop after with
      | .found before gap' after' => .found (gap :: before) gap' after'
      | .duplicate => .duplicate
      | .notFound => .notFound

/-- Where the element `endGap` of the gap list is. -/
inductive EndGapPlace
  /-- It is the element `gap` itself. -/
  | gap
  /-- It is a later element of the list. -/
  | linked
  /-- It is a later element that has been removed from the list. -/
  | removed
  deriving DecidableEq, Repr

/-- The variables of the loop that looks for the end gap. -/
structure EndGap where
  value : ByteInterval
  place : EndGapPlace
  /-- The elements of the list behind `endGap`. -/
  after : List ByteInterval
  queuedFrames : FrameMap

/-- "find the highest gaps whose Start lies before the end of the frame": the loop from
`endGap`, whose successors in the list are `after`.  An error carries the loop variables at the
moment it is returned. -/
def findEndGap (stop : Nat) (queuedFrames : FrameMap) (endGap : ByteInterval)
    (place : EndGapPlace) (after : List ByteInterval) : Except EndGap EndGap :=
  if stop < endGap.stop then .ok ⟨endGap, place, after, queuedFrames⟩
  else
    match after with
    | [] => .error ⟨endGap, place, [], queuedFrames⟩
    | next :: rest =>
      if stop ≤ next.start then
        -- `endGap` has been unlinked unless it is `gap`
        .ok ⟨endGap, if place = .gap then .gap else .removed, next :: rest, queuedFrames⟩
      else
        findEndGap stop (update queuedFrames endGap.stop none) next .linked rest

/-- The elements of the gap list from `gap` on, when the end gap holds `value`. -/
def EndGap.elements (e : EndGap) (value : ByteInterval) : List ByteInterval :=
  match e.place with
  | .gap => e.after
  | .linked => value :: e.after
  | .removed => e.after

/-- The gap list after the bytes `[start, stop)`, which begin in `gap` and end in the end gap,
have been taken out. -/
def adjustGaps (before : List ByteInterval) (gap : ByteInterval) (e : EndGap)
    (start stop : Nat) : List ByteInterval :=
  if start = gap.start then
    if gap.stop ≤ stop then
      -- the frame completely fills `gap`
      before ++ e.elements (if stop < e.value.stop then { e.value with start := stop } else e.value)
    else if e.place = .gap ∧ stop < e.value.stop then
      before ++ { gap with start := stop } :: e.after
    else
      before ++ gap ::
        e.elements (if stop < e.value.stop then { e.value with start := stop } else e.value)
  else if stop = e.value.stop then
    before ++ { gap with stop := start } :: e.elements e.value
  else if e.place = .gap then
    -- the frame lies within the gap and splits it
    before ++ { gap with stop := start } :: ⟨stop, gap.stop⟩ :: e.after
  else
    before ++ { gap with stop := start } :: e.elements { e.value with start := stop }

/-- `streamFrameSorter.Push` from the first `start := frame.Offset` on. -/
def insert (s : StreamFrameSorter) (frame : StreamFrame) :
    StreamFrameSorter × Option SorterError :=
  match findGap frame.offset frame.stop s.gaps with
  | .duplicate => (s, some .duplicateStreamData)
  | .notFound => (s, some .noGapFound)
  | .found before gap after =>
    let stop := frame.stop
    let frame := frame.trimFront gap.start
    match findEndGap stop s.queuedFrames gap .gap after with
    | .error e =>
      ({ s with gaps := before ++ gap :: e.elements e.value, queuedFrames := e.queuedFrames },
        some .noEndGapFound)
    | .ok e =>
      let frame := frame.trimBack e.value.stop
      let s := { s with
        gaps := adjustGaps before gap e frame.offset (min stop e.value.stop)
        queuedFrames := e.queuedFrames }
      if s.gaps.length > maxStreamFrameSorterGaps then
        (s, some .tooManyGapsInReceivedStreamData)
      else
        ({ s with queuedFrames := update s.queuedFrames frame.offset (some frame) }, none)

/-- `streamFrameSorter.Push`. -/
def push (s : StreamFrameSorter) (frame : StreamFrame) :
    StreamFrameSorter × Option SorterError :=
  if frame.dataLen = 0 then
    if frame.finBit then
      ({ s with queuedFrames := update s.queuedFrames frame.offset (some frame) }, none)
    else (s, some .emptyStreamData)
  else
    match s.queuedFrames frame.offset with
    | some oldFrame =>
      if frame.dataLen ≤ oldFrame.dataLen then (s, some .duplicateStreamData)
      else s.insert (frame.cutFront oldFrame.dataLen)
    | none => s.insert frame

/-- `streamFrameSorter.Head`. -/
def head (s : StreamFrameSorter) : Option StreamFrame :=
  s.queuedFrames s.readPosition

/-- `streamFrameSorter.Pop`. -/
def pop (s : StreamFrameSorter) : StreamFrameSorter × Option StreamFrame :=
  match s.head with
  | some frame =>
    ({ s with
      readPosition := s.readPosition + frame.dataLen
      queuedFrames := update s.queuedFrames frame.offset none }, some frame)
  | none => (s, none)

theorem pop_of_head {s : StreamFrameSorter} {f : StreamFrame} (h : s.head = some f) :
    s.pop = (⟨update s.queuedFrames f.offset none, s.readPosition + f.dataLen, s.gaps⟩,
      some f) := by
  simp only [pop, h]

theorem pop_of_head_none {s : StreamFrameSorter} (h : s.head = none) : s.pop = (s, none) := by
  simp only [pop, h]

end StreamFrameSorter
end MpQuic
