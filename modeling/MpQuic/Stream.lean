import MpQuic.Reassembly

/-!
# Streams (`stream.go`)

One `Stream` holds both directions: the sorter and read position of the
receiving side, the data waiting to be framed of the sending side, and the flags
that decide when the stream is finished.  Calls of the source that wait on a
channel are modelled by what they do between two waits: `read` says `blocked`
where the source waits for `readChan`.
-/
namespace MpQuic

/-- `stream`.  Flow control is accounted by the session, channels and contexts are left out. -/
structure Stream where
  streamID : Nat
  readPosInFrame : Int
  writeOffset : Nat
  readOffset : Nat
  err : Option String
  cancelled : Bool
  finishedReading : Bool
  finishedWriting : Bool
  resetLocally : Bool
  resetRemotely : Bool
  frameQueue : StreamFrameSorter
  readDeadline : Option Int
  /-- `none` is the source's `nil`. -/
  dataForWriting : Option (List Byte)
  finSent : Bool
  rstSent : Bool

/-- The errors `stream.Read` returns. -/
inductive ReadError
  | eof
  /-- `errDeadline` -/
  | deadline
  /-- "BUG: readPosInFrame > frame.DataLen in stream.Read" -/
  | readPosInFrameBug
  /-- The error the stream was cancelled or reset with. -/
  | stream (err : String)
  deriving DecidableEq, Repr

/-- What a call of `Read` comes to. -/
inductive ReadResult
  | returned (data : List Byte) (err : Option ReadError)
  /-- Waits for `readChan`. -/
  | blocked
  /-- Uses a nil frame or slices with a negative bound. -/
  | panicked
  /-- The loop was still running when the model stopped it. -/
  | outOfFuel
  deriving DecidableEq, Repr

namespace Stream

/-- `newStream`. -/
def new (streamID : Nat) : Stream where
  streamID := streamID
  readPosInFrame := 0
  writeOffset := 0
  readOffset := 0
  err := none
  cancelled := false
  finishedReading := false
  finishedWriting := false
  resetLocally := false
  resetRemotely := false
  frameQueue := .new
  readDeadline := none
  dataForWriting := none
  finSent := false
  rstSent := false

/-! ## Reading -/

/-- `!deadline.IsZero() && !time.Now().Before(deadline)`. -/
def deadlineExceeded (s : Stream) (now : Int) : Bool :=
  match s.readDeadline with
  | some deadline => decide (deadline ≤ now)
  | none => false

/-- The part of an iteration of `Read` that copies from the head frame: the stream after it, the
bytes copied to a buffer with `room` bytes left, and how `Read` returns if it does. -/
def readFrame (s : Stream) (frame : StreamFrame) (room : Nat) :
    Stream × List Byte × Option (Option ReadError) :=
  if (frame.dataLen : Int) < s.readPosInFrame then (s, [], some (some .readPosInFrameBug))
  else
    let data := (frame.data.drop s.readPosInFrame.toNat).take room
    let s := { s with
      readPosInFrame := s.readPosInFrame + data.length
      readOffset := s.readOffset + data.length }
    if (frame.dataLen : Int) ≤ s.readPosInFrame then
      let s := { s with frameQueue := s.frameQueue.pop.1 }
      if frame.finBit then ({ s with finishedReading := true }, data, some (some .eof))
      else (s, data, none)
    else (s, data, none)

/-- The loop of `Read` into a buffer of `len` bytes, of which `acc` has been filled.  `clock`
gives the time at each iteration. -/
def readLoop (clock : Nat → Int) (len : Nat) : Nat → Stream → List Byte → Stream × ReadResult
  | 0, s, acc => (s, if acc.length < len then .outOfFuel else .returned acc none)
  | fuel + 1, s, acc =>
    if len ≤ acc.length then (s, .returned acc none)
    else
      match s.frameQueue.head with
      | none =>
        if 0 < acc.length then (s, .returned acc (s.err.map .stream))
        else if s.resetLocally || s.cancelled then
          match s.err with
          | some err => (s, .returned acc (some (.stream err)))
          | none => (s, .panicked)
        else if s.deadlineExceeded (clock fuel) then (s, .returned acc (some .deadline))
        else (s, .blocked)
      | some frame =>
        if (s.resetLocally || s.cancelled) && s.err.isSome then
          (s, .returned acc (s.err.map .stream))
        else if !(s.resetLocally || s.cancelled) && s.deadlineExceeded (clock fuel) then
          (s, .returned acc (some .deadline))
        else
          let s := if s.resetLocally || s.cancelled then s
            else { s with readPosInFrame := (s.readOffset : Int) - frame.offset }
          if s.readPosInFrame < 0 then (s, .panicked)
          else
            match s.readFrame frame (len - acc.length) with
            | (s, data, some err) => (s, .returned (acc ++ data) err)
            | (s, data, none) => readLoop clock len fuel s (acc ++ data)

/-- `stream.Read` with a buffer of `len` bytes.  Every iteration that does not return fills a
byte of the buffer, so `len` iterations are enough. -/
def read (s : Stream) (clock : Nat → Int) (len : Nat) : Stream × ReadResult :=
  if s.cancelled || s.resetLocally then (s, .returned [] (s.err.map .stream))
  else if s.finishedReading then (s, .returned [] (some .eof))
  else s.readLoop clock len len []

/-- `stream.AddStreamFrame` once flow control has accepted the frame. -/
def addStreamFrame (s : Stream) (frame : StreamFrame) : Stream × Option SorterError :=
  match s.frameQueue.push frame with
  | (q, some .duplicateStreamData) => ({ s with frameQueue := q }, none)
  | (q, err) => ({ s with frameQueue := q }, err)

/-! ## Writing -/

/-- `stream.Write` up to the point where it waits for the data to be framed. -/
def write (s : Stream) (p : List Byte) : Stream :=
  if s.resetLocally || s.err.isSome || s.finishedWriting || p.isEmpty then s
  else { s with dataForWriting := some p }

/-- `lenOfDataForWriting`. -/
def lenOfDataForWriting (s : Stream) : Nat :=
  if s.err.isNone then (s.dataForWriting.getD []).length else 0

/-- `getDataForWriting`. -/
def getDataForWriting (s : Stream) (maxBytes : Nat) : Stream × Option (List Byte) :=
  match s.err, s.dataForWriting with
  | none, some data =>
    if maxBytes < data.length then
      ({ s with
        dataForWriting := some (data.drop maxBytes)
        writeOffset := s.writeOffset + maxBytes }, some (data.take maxBytes))
    else
      ({ s with dataForWriting := none, writeOffset := s.writeOffset + data.length }, some data)
  | _, _ => (s, none)

/-- `Close`. -/
def close (s : Stream) : Stream := { s with finishedWriting := true }

/-- `finishedWriteAndSentFin`. -/
def finishedWriteAndSentFin (s : Stream) : Bool := s.finishedWriting && s.finSent

/-- `shouldSendReset`. -/
def shouldSendReset (s : Stream) : Bool :=
  !s.rstSent && (s.resetLocally || s.resetRemotely) && !s.finishedWriteAndSentFin

/-- `shouldSendFin`. -/
def shouldSendFin (s : Stream) : Bool :=
  s.finishedWriting && !s.finSent && s.err.isNone && s.dataForWriting.isNone

/-- `sentFin`. -/
def sentFin (s : Stream) : Stream := { s with finSent := true }

/-- A stream without what sending changes. -/
def readSide (s : Stream) : Stream :=
  { s with writeOffset := 0, dataForWriting := none, finSent := false }

/-! ## Ending a stream -/

/-- `Cancel`. -/
def cancel (s : Stream) (err : String) : Stream :=
  { s with cancelled := true, err := some (s.err.getD err) }

/-- The end of `Reset` and `RegisterRemoteError`: the offset for a RST_STREAM to send, if any. -/
def maybeSendReset (s : Stream) : Stream × Option Nat :=
  if s.shouldSendReset then ({ s with rstSent := true }, some s.writeOffset) else (s, none)

/-- `Reset`; the error may be nil. -/
def reset (s : Stream) (err : Option String) : Stream × Option Nat :=
  if s.resetLocally then (s, none)
  else { s with resetLocally := true, err := s.err.or err }.maybeSendReset

/-- `RegisterRemoteError`. -/
def registerRemoteError (s : Stream) (err : String) : Stream × Option Nat :=
  if s.resetRemotely then (s, none)
  else { s with resetRemotely := true, err := s.err.or (some err) }.maybeSendReset

/-- `finished`. -/
def finished (s : Stream) : Bool :=
  s.cancelled ||
    (s.finishedReading && s.finishedWriteAndSentFin) ||
    (s.resetRemotely && s.rstSent) ||
    (s.finishedReading && s.rstSent) ||
    (s.finishedWriteAndSentFin && s.resetRemotely)

end Stream
end MpQuic
