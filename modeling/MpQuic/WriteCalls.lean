import MpQuic.StreamData

/-!
# Calls of `Write` (`stream.go`)

`Write` puts a copy of its argument into `dataForWriting` and waits until the framer has
taken all of it, the stream has failed, or the write deadline has passed.  The framer
takes the data in pieces, so the number of bytes `Write` returns is a statement about what
another goroutine has done.  It is right when the stream fails: the rest of the data is
still in `dataForWriting` and the error keeps the framer from taking it.  When the deadline
passes, `Write` returns 0 whatever the framer has taken, and leaves the rest to it.
-/
namespace MpQuic
open Systems List Option

/-- The errors `stream.Write` returns. -/
inductive WriteError
  /-- `errDeadline` -/
  | deadline
  /-- "write on closed stream" -/
  | closed (streamID : Nat)
  /-- The error the stream was cancelled or reset with. -/
  | stream (err : String)
  deriving DecidableEq, Repr

/-- What `Write` comes to between two waits. -/
inductive WriteResult
  | returned (n : Int) (err : Option WriteError)
  /-- Waits for `writeChan`, and for the deadline if there is one. -/
  | waits (deadline : Option Int)
  deriving DecidableEq, Repr

/-- A stream with what a call of `Write` waits for. -/
structure Writer where
  stream : Stream
  writeDeadline : Option Int := none
  /-- There is a value in `writeChan`. -/
  writeChan : Bool := false

namespace Writer

/-- `!deadline.IsZero() && !time.Now().Before(deadline)`. -/
def deadlineExceeded (w : Writer) (now : Int) : Bool :=
  match w.writeDeadline with
  | some deadline => decide (deadline ≤ now)
  | none => false

/-- An iteration of the loop of `Write`, and the return after it. -/
def writeLoop (w : Writer) (p : List Byte) (now : Int) : WriteResult :=
  if w.deadlineExceeded now then .returned 0 (some .deadline)
  else if w.stream.dataForWriting.isNone || w.stream.err.isSome then
    match w.stream.err with
    | some err =>
      .returned ((p.length : Int) - (w.stream.dataForWriting.getD []).length) (some (.stream err))
    | none => .returned p.length none
  else .waits w.writeDeadline

/-- `Write` returns before it has put its data into the stream. -/
def refuses (w : Writer) (p : List Byte) : Bool :=
  w.stream.resetLocally || w.stream.err.isSome || w.stream.finishedWriting || p.isEmpty

/-- What `Write` returns when it refuses the data. -/
def refusal (w : Writer) : Option WriteError :=
  if w.stream.resetLocally || w.stream.err.isSome then w.stream.err.map .stream
  else if w.stream.finishedWriting then some (.closed w.stream.streamID)
  else none

/-- `Write` up to its first wait. -/
def write (w : Writer) (p : List Byte) (now : Int) : Writer × WriteResult :=
  if w.refuses p then (w, .returned 0 w.refusal)
  else
    let w := { w with stream := w.stream.write p }
    (w, w.writeLoop p now)

/-- `signalWrite`. -/
def signalWrite (w : Writer) : Writer := { w with writeChan := true }

/-- `getDataForWriting`, which signals when it takes the last of the data. -/
def getDataForWriting (w : Writer) (maxBytes : Nat) : Writer × Option (List Byte) :=
  let (stream, data) := w.stream.getDataForWriting maxBytes
  let w' := { w with stream }
  (if data.isSome && stream.dataForWriting.isNone then w'.signalWrite else w', data)

/-- `t.Before(deadline)`, where the zero time is before all others. -/
def isBefore : Option Int → Option Int → Bool
  | _, none => false
  | none, some _ => true
  | some t, some deadline => decide (t < deadline)

/-- `SetWriteDeadline`. -/
def setWriteDeadline (w : Writer) (t : Option Int) : Writer :=
  let w' := { w with writeDeadline := t }
  if isBefore t w.writeDeadline then w'.signalWrite else w'

/-- A change of the stream that signals if the stream had no error. -/
def fail (w : Writer) (stream : Stream) : Writer :=
  let w' := { w with stream }
  if w.stream.err.isNone then w'.signalWrite else w'

/-- `Cancel`. -/
def cancel (w : Writer) (err : String) : Writer := w.fail (w.stream.cancel err)

/-- `Reset`. -/
def reset (w : Writer) (err : Option String) : Writer :=
  if w.stream.resetLocally then w else w.fail (w.stream.reset err).1

/-- `RegisterRemoteError`. -/
def registerRemoteError (w : Writer) (err : String) : Writer :=
  if w.stream.resetRemotely then w else w.fail (w.stream.registerRemoteError err).1

end Writer

/-- What the receiving side of a stream leaves alone. -/
def Stream.writeSide (s : Stream) : Stream :=
  { s with
    readPosInFrame := 0
    readOffset := 0
    finishedReading := false
    frameQueue := .new
    readDeadline := none }

/-! ## Runs -/

/-- A call of `Write`, with the bytes of its data the framer has been handed so far. -/
structure WriteCall where
  p : List Byte
  result : WriteResult
  handed : List Byte := []
  /-- What had been handed to the framer when the call returned. -/
  before : List Byte := []
  deriving DecidableEq

/-- A stream and the calls of `Write` on it. -/
structure WriteCalls where
  writer : Writer
  /-- The last call that put its data into the stream. -/
  current : Option WriteCall := none
  /-- The other calls, which have all returned. -/
  others : List WriteCall := []

namespace WriteCall

/-- The call reports what was sent: the `n` bytes it returns are those that were handed to the
framer before, and after an error no others are. -/
def Reports (c : WriteCall) : Prop :=
  match c.result with
  | .returned n err =>
    (c.before.length : Int) = n ∧ c.before <+: c.p ∧ (err.isSome → c.handed = c.before)
  | .waits _ => True

instance (c : WriteCall) : Decidable c.Reports := by
  unfold Reports
  cases c.result <;> infer_instance

/-- The call goes on to `result`. -/
def goOn (c : WriteCall) (result : WriteResult) : WriteCall :=
  { c with result, before := c.handed }

/-- The framer is handed more bytes of the call. -/
def hand (c : WriteCall) (data : List Byte) : WriteCall := { c with handed := c.handed ++ data }

end WriteCall

/-- What happens to a stream while there are calls of `Write`.  Each of them is one that holds the
mutex of the stream, or reads and sets a flag. -/
inductive WriteOp
  /-- `Write` is called. -/
  | write (p : List Byte) (now : Int)
  /-- The waiting call receives from `writeChan`. -/
  | signalled (now : Int)
  /-- The waiting call has waited until its deadline. -/
  | timedOut (now : Int)
  /-- The framer takes data. -/
  | getDataForWriting (maxBytes : Nat)
  | sentFin
  | setWriteDeadline (t : Option Int)
  | cancel (err : String)
  | reset (err : Option String)
  | registerRemoteError (err : String)
  | close
  /-- Something on the receiving side. -/
  | receiving (stream : Stream)

namespace WriteCalls

/-- All calls so far. -/
def calls (r : WriteCalls) : List WriteCall := r.current.toList ++ r.others

/-- The deadline of the wait a call is in. -/
def waiting (r : WriteCalls) : Option (WriteCall × Option Int) :=
  r.current.bind fun c =>
    match c.result with
    | .waits deadline => some (c, deadline)
    | .returned _ _ => none

/-- `Write` is called: the data of the call before is gone, unless this one refuses its own. -/
def write (r : WriteCalls) (p : List Byte) (now : Int) : WriteCalls :=
  let (writer, result) := r.writer.write p now
  if r.writer.refuses p then { r with writer, others := { p, result } :: r.others }
  else { writer, current := some { p, result }, others := r.calls }

/-- The waiting call goes through its loop once more. -/
def wake (r : WriteCalls) (c : WriteCall) (now : Int) : WriteCalls :=
  { r with current := some (c.goOn (r.writer.writeLoop c.p now)) }

/-- The framer takes data: it is that of the last call that put some into the stream. -/
def getDataForWriting (r : WriteCalls) (maxBytes : Nat) : WriteCalls :=
  let (writer, data) := r.writer.getDataForWriting maxBytes
  { r with writer, current := r.current.map (·.hand (data.getD [])) }

/-- Something that is neither a call nor the framer happens. -/
def withWriter (r : WriteCalls) (writer : Writer) : WriteCalls := { r with writer }

/-- One step. -/
def Step (r : WriteCalls) : WriteOp → WriteCalls → Prop
  | .write p now, r' => r.waiting = none ∧ r' = r.write p now
  | .signalled now, r' => r.writer.writeChan = true ∧ ∃ c deadline,
      r.waiting = some (c, deadline) ∧
        r' = (r.withWriter { r.writer with writeChan := false }).wake c now
  | .timedOut now, r' => ∃ c deadline, r.waiting = some (c, some deadline) ∧ deadline ≤ now ∧
      r' = r.wake c now
  | .getDataForWriting maxBytes, r' => r' = r.getDataForWriting maxBytes
  | .sentFin, r' => r' = r.withWriter { r.writer with stream := r.writer.stream.sentFin }
  | .setWriteDeadline t, r' => r' = r.withWriter (r.writer.setWriteDeadline t)
  | .cancel err, r' => r' = r.withWriter (r.writer.cancel err)
  | .reset err, r' => r' = r.withWriter (r.writer.reset err)
  | .registerRemoteError err, r' => r' = r.withWriter (r.writer.registerRemoteError err)
  | .close, r' => r' = r.withWriter { r.writer with stream := r.writer.stream.close }
  | .receiving stream, r' => stream.writeSide = r.writer.stream.writeSide ∧
      r' = r.withWriter { r.writer with stream }

/-- The runs of a new stream. -/
def machine (streamID : Nat) : Machine WriteCalls WriteOp where
  init r := r = { writer := { stream := .new streamID } }
  step := Step

end WriteCalls

/-! ## The framer, and the receiving side -/

namespace Stream

theorem addStreamFrame_writeSide (s : Stream) (frame : StreamFrame) :
    (s.addStreamFrame frame).1.writeSide = s.writeSide := by
  rw [addStreamFrame]
  split <;> rfl

theorem readFrame_writeSide (s : Stream) (frame : StreamFrame) (room : Nat) :
    (s.readFrame frame room).1.writeSide = s.writeSide := by
  rw [readFrame]
  dsimp only
  split_ifs <;> rfl

/-- Reading leaves the sending side of a stream alone, however often it loops. -/
theorem readLoop_writeSide (clock : Nat → Int) (len fuel : Nat) (s : Stream) (acc : List Byte) :
    (s.readLoop clock len fuel acc).1.writeSide = s.writeSide := by
  induction fuel generalizing s acc with
  | zero => rfl
  | succ fuel ih =>
    rw [readLoop]
    split
    · rfl
    split
    · -- no frame: the stream stays as it is, whatever `Read` does
      split_ifs <;> first | rfl | (split <;> rfl)
    · next frame _ =>
      split
      · rfl
      split
      · rfl
      dsimp only
      generalize hs' : (if (s.resetLocally || s.cancelled) = true then s
        else { s with readPosInFrame := (s.readOffset : Int) - frame.offset }) = s'
      have hsame : s'.writeSide = s.writeSide := by
        rw [← hs']
        split <;> rfl
      split
      · exact hsame
      have hframe := s'.readFrame_writeSide frame (len - acc.length)
      split
      · next h =>
        rw [h] at hframe
        exact hframe.trans hsame
      · next h =>
        rw [h] at hframe
        exact (ih _ _).trans (hframe.trans hsame)

/-- `Read` is a step on the receiving side. -/
theorem read_writeSide (s : Stream) (clock : Nat → Int) (len : Nat) :
    (s.read clock len).1.writeSide = s.writeSide := by
  rw [read]
  split_ifs
  · rfl
  · rfl
  · exact readLoop_writeSide ..

end Stream

/-! ## What the calls report -/

namespace Writer
variable {w : Writer}

/-- The data taken and the data left are what there was. -/
theorem getDataForWriting_data (w : Writer) (maxBytes : Nat) :
    ((w.getDataForWriting maxBytes).2.getD []) ++
        ((w.getDataForWriting maxBytes).1.stream.dataForWriting.getD []) =
      w.stream.dataForWriting.getD [] := by
  have hstream : (w.getDataForWriting maxBytes).1.stream =
      (w.stream.getDataForWriting maxBytes).1 := by
    rw [getDataForWriting]
    dsimp only
    split <;> rfl
  rw [hstream]
  change ((w.stream.getDataForWriting maxBytes).2.getD []) ++ _ = _
  rw [Stream.getDataForWriting]
  split
  · next data hdata =>
    rw [hdata]
    split
    · exact take_append_drop ..
    · exact append_nil _
  · rfl

theorem getDataForWriting_err (w : Writer) (maxBytes : Nat) :
    (w.getDataForWriting maxBytes).1.stream.err = w.stream.err := by
  have hread := (StreamFramer.takes_getDataForWriting w.stream maxBytes).1.readSide
  have herr := congrArg Stream.err hread
  rw [getDataForWriting]
  dsimp only
  split <;> exact herr

/-- A stream with an error hands out nothing. -/
theorem getDataForWriting_failed (h : w.stream.err.isSome) (maxBytes : Nat) :
    (w.getDataForWriting maxBytes).2 = none := by
  obtain ⟨err, herr⟩ := isSome_iff_exists.mp h
  change (w.stream.getDataForWriting maxBytes).2 = none
  rw [Stream.getDataForWriting, herr]

/-- The data stays in the stream, and so does an error. -/
structure Keeps (w w' : Writer) : Prop where
  data : w'.stream.dataForWriting = w.stream.dataForWriting
  err : w.stream.err.isSome → w'.stream.err.isSome

theorem Keeps.of_eq {w' : Writer} (hdata : w'.stream.dataForWriting = w.stream.dataForWriting)
    (herr : w'.stream.err = w.stream.err) : w.Keeps w' :=
  ⟨hdata, fun h => herr ▸ h⟩

theorem keeps_fail {stream : Stream} (hdata : stream.dataForWriting = w.stream.dataForWriting)
    (herr : w.stream.err.isSome → stream.err.isSome) : w.Keeps (w.fail stream) := by
  rw [fail]
  split <;> exact ⟨hdata, herr⟩

theorem keeps_setWriteDeadline (w : Writer) (t : Option Int) : w.Keeps (w.setWriteDeadline t) := by
  rw [setWriteDeadline]
  split <;> exact .of_eq rfl rfl

theorem keeps_cancel (w : Writer) (err : String) : w.Keeps (w.cancel err) :=
  keeps_fail rfl fun _ => rfl

theorem maybeSendReset_fst (s : Stream) :
    s.maybeSendReset.1.dataForWriting = s.dataForWriting ∧ s.maybeSendReset.1.err = s.err := by
  rw [Stream.maybeSendReset]
  split <;> exact ⟨rfl, rfl⟩

theorem keeps_reset (w : Writer) (err : Option String) : w.Keeps (w.reset err) := by
  rw [reset]
  split
  · exact .of_eq rfl rfl
  next hlocal =>
  obtain ⟨hdata, herr⟩ := maybeSendReset_fst
    { w.stream with resetLocally := true, err := w.stream.err.or err }
  refine keeps_fail ?_ ?_ <;> rw [Stream.reset, if_neg hlocal]
  · exact hdata
  · intro h
    rw [herr]
    simp [h]

theorem keeps_registerRemoteError (w : Writer) (err : String) :
    w.Keeps (w.registerRemoteError err) := by
  rw [registerRemoteError]
  split
  · exact .of_eq rfl rfl
  next hremote =>
  obtain ⟨hdata, herr⟩ := maybeSendReset_fst
    { w.stream with resetRemotely := true, err := w.stream.err.or (some err) }
  refine keeps_fail ?_ ?_ <;> rw [Stream.registerRemoteError, if_neg hremote]
  · exact hdata
  · intro _
    rw [herr]
    simp

end Writer

/-- What is known of the last call that put its data into the stream: what has not been handed to
the framer is still there, and if the call has failed so has the stream. -/
structure WriteCall.Accounted (c : WriteCall) (w : Writer) : Prop where
  data : c.handed ++ w.stream.dataForWriting.getD [] = c.p
  reports : c.Reports
  failed : ∀ n err, c.result = .returned n (some err) → w.stream.err.isSome

namespace WriteCall
variable {c : WriteCall} {w w' : Writer}

theorem Accounted.keeps (h : c.Accounted w) (hw : w.Keeps w') : c.Accounted w' :=
  ⟨hw.data ▸ h.data, h.reports, fun n err hres => hw.err (h.failed n err hres)⟩

theorem Reports.hand (h : c.Reports) {data : List Byte}
    (hdata : ∀ n err, c.result = .returned n (some err) → data = []) : (c.hand data).Reports := by
  rw [Reports] at h ⊢
  change match c.result with | .returned n err => _ | .waits _ => _
  cases hres : c.result with
  | waits deadline => trivial
  | returned n err =>
    rw [hres] at h
    refine ⟨h.1, h.2.1, fun herr => ?_⟩
    obtain ⟨e, rfl⟩ := isSome_iff_exists.mp herr
    rw [hdata n e hres]
    exact (append_nil _).trans (h.2.2 rfl)

theorem Accounted.getDataForWriting (h : c.Accounted w) (maxBytes : Nat) :
    (c.hand ((w.getDataForWriting maxBytes).2.getD [])).Accounted
      (w.getDataForWriting maxBytes).1 := by
  refine ⟨?_, h.reports.hand ?_, ?_⟩
  · change (c.handed ++ _) ++ _ = c.p
    rw [append_assoc, w.getDataForWriting_data]
    exact h.data
  · intro n err hres
    rw [Writer.getDataForWriting_failed (h.failed n err hres)]
    rfl
  · intro n err hres
    rw [w.getDataForWriting_err]
    exact h.failed n err hres

/-- An iteration of the loop before the deadline reports what was sent. -/
theorem Accounted.writeLoop (h : c.Accounted w) {now : Int}
    (htime : w.deadlineExceeded now = true → w.stream.err.isSome ∧ c.handed = []) :
    (c.goOn (w.writeLoop c.p now)).Accounted w := by
  have hprefix : c.handed <+: c.p := ⟨_, h.data⟩
  have hlen := congrArg length h.data
  rw [length_append] at hlen
  have hgoal : ∀ n err, ((c.handed.length : Int) = n) → (err.isSome → w.stream.err.isSome) →
      (c.goOn (.returned n err)).Accounted w := by
    intro n err hn herr
    refine ⟨h.data, ⟨hn, hprefix, fun _ => rfl⟩, ?_⟩
    rintro n' err' ⟨⟩
    exact herr rfl
  rw [Writer.writeLoop]
  split
  · next hexceeded =>
    obtain ⟨herr, hnone⟩ := htime hexceeded
    exact hgoal 0 _ (by rw [hnone]; rfl) fun _ => herr
  split
  · next hdone =>
    cases herr : w.stream.err with
    | some err =>
      exact hgoal _ _ (by omega) fun _ => by rw [herr]; rfl
    | none =>
      -- without an error the loop ends when the framer has taken everything
      have hnone : w.stream.dataForWriting = none := by
        rw [herr, isSome_none, Bool.or_false] at hdone
        exact isNone_iff_eq_none.mp hdone
      rw [hnone, getD_none, length_nil] at hlen
      exact hgoal _ _ (by omega) (by simp)
  · exact ⟨h.data, trivial, fun _ _ hres => by cases hres⟩

end WriteCall

namespace WriteCalls
variable {r r' : WriteCalls}

/-- Where a deadline has passed, `Write` refuses its data, or the stream has failed before the
framer took anything. -/
def InTime (r : WriteCalls) : WriteOp → Prop
  | .write p now => r.writer.deadlineExceeded now = true → r.writer.refuses p = true
  | .signalled now | .timedOut now => r.writer.deadlineExceeded now = true →
      r.writer.stream.err.isSome ∧ ∀ c ∈ r.current, r.writer.stream.dataForWriting = some c.p
  | _ => True

/-- Every call is accounted for. -/
structure Inv (r : WriteCalls) : Prop where
  current : ∀ c ∈ r.current, c.Accounted r.writer
  others : ∀ c ∈ r.others, c.Reports

theorem Inv.calls (h : r.Inv) : ∀ c ∈ r.calls, c.Reports := by
  intro c hc
  rcases mem_append.mp hc with hc | hc
  · exact (h.current c (mem_toList.mp hc)).reports
  · exact h.others c hc

theorem Inv.withWriter (h : r.Inv) {writer : Writer} (hw : r.writer.Keeps writer) :
    (r.withWriter writer).Inv :=
  ⟨fun c hc => (h.current c hc).keeps hw, h.others⟩

theorem Inv.getDataForWriting (h : r.Inv) (maxBytes : Nat) :
    (r.getDataForWriting maxBytes).Inv := by
  refine ⟨?_, h.others⟩
  intro c hc
  obtain ⟨c', hc', rfl⟩ := mem_map.mp hc
  exact (h.current c' hc').getDataForWriting maxBytes

variable {now : Int} {c : WriteCall} {deadline : Option Int}

/-- A call that refuses its data has handed nothing over and returns 0; one that takes it starts
with nothing handed over. -/
theorem Inv.write (h : r.Inv) {p : List Byte}
    (htime : r.writer.deadlineExceeded now = true → r.writer.refuses p = true) :
    (r.write p now).Inv := by
  rw [WriteCalls.write, Writer.write]
  by_cases hrefuses : r.writer.refuses p = true
  · simp only [if_pos hrefuses]
    refine ⟨h.current, ?_⟩
    intro c hc
    rcases mem_cons.mp hc with rfl | hc
    · exact ⟨rfl, nil_prefix, fun _ => rfl⟩
    · exact h.others c hc
  · simp only [if_neg hrefuses]
    refine ⟨?_, h.calls⟩
    intro c hc
    obtain rfl := mem_some_iff.mp hc
    have hput : r.writer.stream.write p = { r.writer.stream with dataForWriting := some p } :=
      if_neg hrefuses
    have hstart : (WriteCall.mk p (.waits none) [] []).Accounted
        { r.writer with stream := r.writer.stream.write p } :=
      ⟨by rw [hput]; rfl, trivial, fun _ _ hres => by cases hres⟩
    refine hstart.writeLoop ?_
    intro hexceeded
    exact absurd (htime hexceeded) hrefuses

theorem waiting_mem (h : r.waiting = some (c, deadline)) : c ∈ r.current := by
  rw [waiting] at h
  obtain ⟨c', hc', h⟩ := bind_eq_some_iff.mp h
  cases hres : c'.result with
  | returned n err => simp [hres] at h
  | waits d =>
    simp only [hres, some.injEq, Prod.mk.injEq] at h
    rw [← h.1]
    exact hc'

theorem Inv.wake (h : r.Inv) (hc : c ∈ r.current)
    (htime : r.writer.deadlineExceeded now = true →
      r.writer.stream.err.isSome ∧ ∀ c ∈ r.current, r.writer.stream.dataForWriting = some c.p) :
    (r.wake c now).Inv := by
  refine ⟨?_, h.others⟩
  intro c' hc'
  obtain rfl := mem_some_iff.mp hc'
  refine (h.current c hc).writeLoop ?_
  intro hexceeded
  obtain ⟨herr, hdata⟩ := htime hexceeded
  refine ⟨herr, ?_⟩
  have hall := (h.current c hc).data
  rw [hdata c hc, getD_some] at hall
  exact append_left_eq_self.mp hall

/-- Every call of `Write` stays accounted for, whatever happens to the stream while it waits. -/
theorem Inv.step (h : r.Inv) {op : WriteOp} (htime : r.InTime op) (hstep : r.Step op r') :
    r'.Inv := by
  cases op with
  | write p now =>
    obtain ⟨-, rfl⟩ := hstep
    exact h.write htime
  | signalled now =>
    obtain ⟨-, c, deadline, hwaiting, rfl⟩ := hstep
    have hw : (r.withWriter { r.writer with writeChan := false }).Inv :=
      h.withWriter (.of_eq rfl rfl)
    exact hw.wake (waiting_mem hwaiting) htime
  | timedOut now =>
    obtain ⟨c, deadline, hwaiting, -, rfl⟩ := hstep
    exact h.wake (waiting_mem hwaiting) htime
  | getDataForWriting maxBytes =>
    rw [show r' = _ from hstep]
    exact h.getDataForWriting maxBytes
  | sentFin =>
    rw [show r' = _ from hstep]
    exact h.withWriter (.of_eq rfl rfl)
  | setWriteDeadline t =>
    rw [show r' = _ from hstep]
    exact h.withWriter (r.writer.keeps_setWriteDeadline t)
  | cancel err =>
    rw [show r' = _ from hstep]
    exact h.withWriter (r.writer.keeps_cancel err)
  | reset err =>
    rw [show r' = _ from hstep]
    exact h.withWriter (r.writer.keeps_reset err)
  | registerRemoteError err =>
    rw [show r' = _ from hstep]
    exact h.withWriter (r.writer.keeps_registerRemoteError err)
  | close =>
    rw [show r' = _ from hstep]
    exact h.withWriter (.of_eq rfl rfl)
  | receiving stream =>
    obtain ⟨hside, rfl⟩ := hstep
    exact h.withWriter (.of_eq (congrArg Stream.dataForWriting hside :)
      (congrArg Stream.err hside :))

/-- **`Write` reports what was sent**, whatever the framer, the peer and the application do while
it waits, as long as its deadline has not passed when it looks at it. -/
theorem write_reports_what_was_sent {streamID : Nat} (h : (machine streamID).Reach InTime r) :
    ∀ c ∈ r.calls, c.Reports := by
  refine Inv.calls (h.invariant (P := Inv) ?_ ?_)
  · rintro _ rfl
    exact ⟨fun _ hc => (by cases hc), fun _ hc => (by cases hc)⟩
  · exact fun s op s' hinv hop hstep => hinv.step hop hstep

/-! A stream on which three bytes are written, of which the framer takes two. -/

/-- The stream with the deadline, after the call. -/
def threeBytes (deadline : Option Int) : WriteCalls :=
  ((({ writer := { stream := .new 3 } : WriteCalls }).withWriter
    (Writer.setWriteDeadline { stream := .new 3 } deadline)).write [1, 2, 3] 0).getDataForWriting 2

theorem reach_threeBytes {C : WriteCalls → WriteOp → Prop}
    (hset : ∀ r, C r (.setWriteDeadline deadline)) (hget : ∀ r, C r (.getDataForWriting 2))
    (hwrite : C (({ writer := { stream := .new 3 } : WriteCalls }).withWriter
      (Writer.setWriteDeadline { stream := .new 3 } deadline)) (.write [1, 2, 3] 0)) :
    (machine 3).Reach C (threeBytes deadline) := by
  have h₀ : (machine 3).Reach C { writer := { stream := .new 3 } } := .init rfl
  have h₁ := h₀.step (hset _) rfl
  have h₂ := h₁.step hwrite ⟨rfl, rfl⟩
  exact h₂.step (hget _) rfl

/-- The stream is cancelled after the framer has taken two of the bytes: `Write` returns 2. -/
theorem cancelled_write_reports_two :
    ∃ r, (machine 3).Reach InTime r ∧ (∀ c ∈ r.calls, c.Reports) ∧
      r.calls = [⟨[1, 2, 3], .returned 2 (some (.stream "cancelled")), [1, 2], [1, 2]⟩] := by
  have h₀ : (machine 3).Reach InTime (threeBytes none) :=
    reach_threeBytes (fun _ => trivial) (fun _ => trivial) (fun h => by cases h)
  let r₁ := (threeBytes none).withWriter ((threeBytes none).writer.cancel "cancelled")
  have h₁ : (machine 3).Reach InTime r₁ := .step (l := .cancel "cancelled") h₀ trivial rfl
  have h₂ : (machine 3).Reach InTime ((r₁.withWriter { r₁.writer with writeChan := false }).wake
      ⟨[1, 2, 3], .waits none, [1, 2], []⟩ 1) :=
    .step (l := .signalled 1) h₁ (fun h => by cases h) ⟨rfl, _, none, rfl, rfl⟩
  exact ⟨_, h₂, write_reports_what_was_sent h₂, rfl⟩

/-- The deadline passes after the framer has taken two of the bytes: `Write` returns 0, and
afterwards the framer takes the third. -/
theorem timed_out_write_reports_zero :
    ∃ r, (machine 3).Reach Machine.Always r ∧ (∃ c ∈ r.calls, ¬ c.Reports) ∧
      r.calls = [⟨[1, 2, 3], .returned 0 (some .deadline), [1, 2, 3], [1, 2]⟩] := by
  have h₀ : (machine 3).Reach Machine.Always (threeBytes (some 10)) :=
    reach_threeBytes (fun _ => trivial) (fun _ => trivial) trivial
  let r₁ := (threeBytes (some 10)).wake ⟨[1, 2, 3], .waits (some 10), [1, 2], []⟩ 10
  have h₁ : (machine 3).Reach Machine.Always r₁ :=
    .step (l := .timedOut 10) h₀ trivial ⟨_, 10, rfl, le_rfl, rfl⟩
  have h₂ : (machine 3).Reach Machine.Always (r₁.getDataForWriting 5) :=
    .step (l := .getDataForWriting 5) h₁ trivial rfl
  exact ⟨_, h₂, ⟨_, mem_cons_self, by decide⟩, rfl⟩

end WriteCalls
end MpQuic
