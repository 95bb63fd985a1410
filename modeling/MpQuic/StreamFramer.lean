import MpQuic.SentPacketHandler
import MpQuic.StreamsMap
import MpQuic.WriteFrame

/-!
# The stream framer (`stream_framer.go`)

The framer cuts the data of the streams into frames and keeps the frames that
have to be sent again.  A stream frame is a heap object: the same frame can be
in a packet of the history, in the copy of that packet queued by
`DuplicatePacket` and, more than once, in the framer's retransmission queue, and
all of them see its `DataLenPresent` bit and its data change.

The framer holds pointers to the streams map, the flow control manager and the
connection parameters, which it shares with the session and the packer; they are
kept here.
-/
namespace MpQuic
open Function

/-! ## The heap of stream frames -/

/-- The stream frames the sender has created; references below `next` are in use. -/
structure FrameHeap where
  frame : FrameRef → StreamFrame := fun _ => ⟨0, false, false, 0, []⟩
  next : FrameRef := 0

namespace FrameHeap

/-- A new object. -/
def alloc (h : FrameHeap) (f : StreamFrame) : FrameHeap :=
  { frame := update h.frame h.next f, next := h.next + 1 }

/-- An assignment to fields of an object. -/
def modify (h : FrameHeap) (r : FrameRef) (g : StreamFrame → StreamFrame) : FrameHeap :=
  { h with frame := update h.frame r (g (h.frame r)) }

@[simp] theorem alloc_next (h : FrameHeap) (f : StreamFrame) : (h.alloc f).next = h.next + 1 := rfl

@[simp] theorem alloc_frame_next (h : FrameHeap) (f : StreamFrame) :
    (h.alloc f).frame h.next = f := update_self ..

theorem alloc_frame_of_ne (h : FrameHeap) (f : StreamFrame) {r : FrameRef} (hr : r ≠ h.next) :
    (h.alloc f).frame r = h.frame r := update_of_ne hr ..

@[simp] theorem modify_next (h : FrameHeap) (r : FrameRef) (g : StreamFrame → StreamFrame) :
    (h.modify r g).next = h.next := rfl

@[simp] theorem modify_frame_self (h : FrameHeap) (r : FrameRef) (g : StreamFrame → StreamFrame) :
    (h.modify r g).frame r = g (h.frame r) := update_self ..

theorem modify_frame_of_ne (h : FrameHeap) {r r' : FrameRef} (g : StreamFrame → StreamFrame)
    (hr : r' ≠ r) : (h.modify r g).frame r' = h.frame r' := update_of_ne hr ..

/-- A frame of the sender's queues as it is at the moment. -/
def read (h : FrameHeap) : Frame FrameRef → Frame StreamFrame
  | .stream r => .stream (h.frame r)
  | .ack f => .ack f
  | .stopWaiting f => .stopWaiting f
  | .rstStream f => .rstStream f
  | .windowUpdate f => .windowUpdate f
  | .blocked f => .blocked f
  | .ping => .ping
  | .goaway f => .goaway f
  | .connectionClose f => .connectionClose f
  | .addAddress f => .addAddress f
  | .closePath f => .closePath f
  | .paths f => .paths f

end FrameHeap

/-! ## The framer -/

/-- `streamFramer`.  `handed` is not part of the source: it lists the frames made of stream data,
as they were when the data was taken from the stream. -/
structure StreamFramer where
  streamsMap : StreamsMap
  flowControlManager : FlowControlManager
  connectionParameters : ConnectionParameters
  retransmissionQueue : List FrameRef := []
  blockedFrameQueue : List BlockedFrame := []
  addAddressFrameQueue : List AddAddressFrame := []
  closePathFrameQueue : List ClosePathFrame := []
  pathsFrame : Option PathsFrame := none
  heap : FrameHeap := {}
  handed : List StreamFrame := []

namespace StreamFramer

/-- `session.newStream`, the flow control part. -/
def newStream (f : StreamFramer) (id : Nat) : StreamFramer :=
  { f with flowControlManager :=
      f.flowControlManager.newStream f.connectionParameters id (!(id == 1 || id == 3)) }

/-- `streamsMap.GetOrOpenStream`, with the flow controllers of the streams it opens. -/
def getOrOpenStream (f : StreamFramer) (id : Nat) : StreamFramer × Option Err :=
  let (streamsMap, opened, err) := f.streamsMap.getOrOpenStream f.connectionParameters id
  (opened.foldl newStream { f with streamsMap }, err)

@[simp] theorem streamsMap_foldl_newStream (f : StreamFramer) (ids : List Nat) :
    (ids.foldl newStream f).streamsMap = f.streamsMap :=
  List.foldlRecOn ids _ (motive := fun f' : StreamFramer => f'.streamsMap = f.streamsMap) rfl
    fun _ h _ _ => h

theorem streamsMap_getOrOpenStream (f : StreamFramer) (id : Nat) :
    (f.getOrOpenStream id).1.streamsMap =
      (f.streamsMap.getOrOpenStream f.connectionParameters id).1 :=
  streamsMap_foldl_newStream _ _

/-- `streamsMap.OpenStream`, with the flow controller of the stream. -/
def openStream (f : StreamFramer) : StreamFramer × Except Err Nat :=
  match f.streamsMap.openStream f.connectionParameters with
  | (streamsMap, .error e) => ({ f with streamsMap }, .error e)
  | (streamsMap, .ok id) => ({ f with streamsMap }.newStream id, .ok id)

theorem streamsMap_openStream (f : StreamFramer) :
    f.openStream.1.streamsMap = (f.streamsMap.openStream f.connectionParameters).1 := by
  rw [openStream]
  generalize f.streamsMap.openStream f.connectionParameters = opened
  obtain ⟨m, err | id⟩ := opened <;> rfl

/-- The entry of a stream after a change. -/
def setStream (f : StreamFramer) (id : Nat) (s : Stream) : StreamFramer :=
  { f with streamsMap := { f.streamsMap with
      streams := f.streamsMap.streams.insert id s } }

/-- `AddFrameForRetransmission`. -/
def addFrameForRetransmission (f : StreamFramer) (frame : FrameRef) : StreamFramer :=
  { f with retransmissionQueue := f.retransmissionQueue ++ [frame] }

/-- `HasFramesForRetransmission`. -/
def hasFramesForRetransmission (f : StreamFramer) : Bool := 0 < f.retransmissionQueue.length

/-- `HasCryptoStreamFrame`, and the crypto stream. -/
def hasCryptoStreamFrame (f : StreamFramer) : Except Err (StreamFramer × Stream × Bool) :=
  let (f, _) := f.getOrOpenStream 1
  match f.streamsMap.streams.lookup 1 with
  | none => .error (.panic .nilStream)
  | some cs => .ok (f, cs, 0 < cs.lenOfDataForWriting)

/-- `PopCryptoStreamFrame` when there is crypto data. -/
def popCryptoStreamFrame (f : StreamFramer) (cs : Stream) (maxLen : Nat) :
    StreamFramer × FrameRef :=
  let frame : StreamFrame := ⟨1, false, false, cs.writeOffset, []⟩
  let (cs, data) := cs.getDataForWriting (maxLen - frame.minLength)
  let frame := { frame with data := data.getD [] }
  ({ f with heap := f.heap.alloc frame }.setStream 1 cs, f.heap.next)

/-! ## Retransmissions -/

/-- What `maybePopFramesForRetransmission` changes. -/
structure PopState where
  heap : FrameHeap
  flowControlManager : FlowControlManager
  queue : List FrameRef
  res : List FrameRef := []
  currentLen : Nat := 0

/-- The first part of a frame that `maybeSplitOffFrame` splits after `n` bytes. -/
def splitFirst (frame : StreamFrame) (n : Nat) : StreamFrame :=
  { frame with finBit := false, data := frame.data.take n }

/-- The loop of `maybePopFramesForRetransmission` over the queue. -/
def popRetransmissions (maxLen : Nat) (heap : FrameHeap) (fc : FlowControlManager)
    (res : List FrameRef) (currentLen : Nat) : List FrameRef → PopState
  | [] => { heap, flowControlManager := fc, queue := [], res, currentLen }
  | r :: rest =>
    let heap := heap.modify r ({ · with dataLenPresent := true })
    let frame := heap.frame r
    let frameHeaderLen := frame.minLength
    if maxLen ≤ currentLen + frameHeaderLen then
      { heap, flowControlManager := fc, queue := r :: rest, res, currentLen }
    else
      let currentLen := currentLen + frameHeaderLen
      let n := maxLen - currentLen
      if frame.dataLen ≤ n then
        popRetransmissions maxLen heap (fc.addBytesRetrans frame.streamID frame.dataLen)
          (res ++ [r]) (currentLen + frame.dataLen) rest
      else
        -- `maybeSplitOffFrame`: a new object gets the front, the old one keeps the rest
        { heap := (heap.alloc (splitFirst frame n)).modify r (·.cutFront n)
          flowControlManager := fc.addBytesRetrans frame.streamID n
          queue := r :: rest
          res := res ++ [heap.next]
          currentLen := currentLen + n }

/-! ## New frames -/

/-- What the function passed to `RoundRobinIterate` changes. -/
structure NormalState where
  heap : FrameHeap
  flowControlManager : FlowControlManager
  blockedFrameQueue : List BlockedFrame
  handed : List StreamFrame
  res : List FrameRef := []
  currentLen : Nat := 0

/-- The function `maybePopNormalFrames` passes to `RoundRobinIterate`. -/
def popNormalFrame (params : ConnectionParameters) (maxBytes : Nat) (s : Stream)
    (st : NormalState) : Stream × NormalState × Bool :=
  if s.streamID = 1 then (s, st, true)
  else
    let frame : StreamFrame := ⟨s.streamID, false, true, s.writeOffset, []⟩
    let frameHeaderBytes := frame.minLength
    if maxBytes < st.currentLen + frameHeaderBytes then (s, st, false)
    else
      let lenStreamData := s.lenOfDataForWriting
      let sendWindowSize :=
        if lenStreamData ≠ 0 then st.flowControlManager.sendWindowSize params s.streamID else 0
      let maxLen := maxBytes - st.currentLen - frameHeaderBytes
      let maxLen := if lenStreamData ≠ 0 then min maxLen sendWindowSize else maxLen
      if maxLen = 0 then (s, st, true)
      else
        let (s, data) := if lenStreamData ≠ 0 then s.getDataForWriting maxLen else (s, none)
        let shouldSendFin := s.shouldSendFin
        if data.isNone && !shouldSendFin then (s, st, true)
        else
          let s := if shouldSendFin then s.sentFin else s
          let frame := { frame with finBit := shouldSendFin, data := data.getD [] }
          let fc := st.flowControlManager.addBytesSent s.streamID frame.dataLen
          let blocked :=
            if fc.remainingConnectionWindowSize params = 0 then [{ streamID := 0 }]
            else if !frame.finBit && sendWindowSize == frame.dataLen then
              [{ streamID := s.streamID }]
            else []
          let currentLen := st.currentLen + frameHeaderBytes + frame.dataLen
          let st : NormalState :=
            { heap := st.heap.alloc frame
              flowControlManager := fc
              blockedFrameQueue := st.blockedFrameQueue ++ blocked
              handed := st.handed ++ [frame]
              res := st.res ++ [st.heap.next]
              currentLen }
          (s, st, currentLen != maxBytes)

/-- `maybePopFramesForRetransmission`, with the frames and their length. -/
def maybePopFramesForRetransmission (f : StreamFramer) (maxLen : Nat) :
    StreamFramer × List FrameRef × Nat :=
  let st := popRetransmissions maxLen f.heap f.flowControlManager [] 0 f.retransmissionQueue
  ({ f with
    heap := st.heap
    flowControlManager := st.flowControlManager
    retransmissionQueue := st.queue }, st.res, st.currentLen)

/-- `maybePopNormalFrames`. -/
def maybePopNormalFrames (f : StreamFramer) (maxBytes : Nat) :
    Except Err (StreamFramer × List FrameRef) := do
  let st : NormalState :=
    { heap := f.heap
      flowControlManager := f.flowControlManager
      blockedFrameQueue := f.blockedFrameQueue
      handed := f.handed }
  let (streamsMap, st) ← f.streamsMap.roundRobinIterate
    (popNormalFrame f.connectionParameters maxBytes) st
  return ({ f with
    streamsMap
    heap := st.heap
    flowControlManager := st.flowControlManager
    blockedFrameQueue := st.blockedFrameQueue
    handed := st.handed }, st.res)

/-- `PopStreamFrames`. -/
def popStreamFrames (f : StreamFramer) (maxLen : Nat) :
    Except Err (StreamFramer × List FrameRef) := do
  let (f, fs, currentLen) := f.maybePopFramesForRetransmission maxLen
  let (f, fs') ← f.maybePopNormalFrames (maxLen - currentLen)
  return (f, fs ++ fs')

end StreamFramer
end MpQuic
