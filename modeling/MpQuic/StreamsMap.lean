import MpQuic.FlowControl
import MpQuic.Stream

/-!
# The streams of a session (`streams_map.go`)

Opening a stream also creates its flow controller; `GetOrOpenStream` reports the
streams it opened, for the session to do that.  A stream pointer the source
returns is a lookup in the map here: a removed stream is `none`.
-/
namespace MpQuic

/-- `streamsMap`.  Stream IDs and the counters are unsigned 32-bit integers. -/
structure StreamsMap where
  perspective : Perspective
  streams : GoMap Stream := ∅
  openStreams : List Nat := []
  roundRobinIndex : Nat := 0
  nextStream : Nat
  highestStreamOpenedByPeer : Nat := 0
  nextStreamToAccept : Nat
  numOutgoingStreams : Nat := 0
  numIncomingStreams : Nat := 0

namespace StreamsMap

/-- `newStreamsMap`. -/
def new (perspective : Perspective) : StreamsMap :=
  match perspective with
  | .client => { perspective, nextStream := 1, nextStreamToAccept := 2 }
  | .server => { perspective, nextStream := 2, nextStreamToAccept := 1 }

/-- `putStream`, whose error its callers ignore. -/
def putStream (m : StreamsMap) (s : Stream) : StreamsMap :=
  match m.streams.lookup s.streamID with
  | some _ => m
  | none => { m with
      streams := m.streams.insert s.streamID s
      openStreams := m.openStreams ++ [s.streamID] }

/-- `openRemoteStream`.  The two counters change places on the client. -/
def openRemoteStream (m : StreamsMap) (params : ConnectionParameters) (id : Nat) :
    Except Err StreamsMap :=
  if params.maxIncomingStreams ≤ m.numIncomingStreams then .error .tooManyOpenStreams
  else if (id + maxNewStreamIDDelta) % 2 ^ 32 < m.highestStreamOpenedByPeer then
    .error (.invalidStreamID id)
  else
    let m := match m.perspective with
      | .server => { m with numIncomingStreams := (m.numIncomingStreams + 1) % 2 ^ 32 }
      | .client => { m with numOutgoingStreams := (m.numOutgoingStreams + 1) % 2 ^ 32 }
    let m :=
      if m.highestStreamOpenedByPeer < id then { m with highestStreamOpenedByPeer := id } else m
    .ok (m.putStream (.new id))

/-- The loop of `GetOrOpenStream`.  It ends after fewer than `id + 2` iterations: when `sid`
wraps around, opening a stream that small is refused. -/
def openUpTo (params : ConnectionParameters) (id : Nat) :
    Nat → Nat → StreamsMap → List Nat → StreamsMap × List Nat × Option Err
  | 0, _, m, opened => (m, opened, none)
  | fuel + 1, sid, m, opened =>
    if id < sid then (m, opened, none)
    else
      match m.openRemoteStream params sid with
      | .error e => (m, opened, some e)
      | .ok m => openUpTo params id fuel ((sid + 2) % 2 ^ 32) m (opened ++ [sid])

/-- `GetOrOpenStream`: the map, the streams opened, and an error.  The stream returned is the
entry for `id` of the resulting map. -/
def getOrOpenStream (m : StreamsMap) (params : ConnectionParameters) (id : Nat) :
    StreamsMap × List Nat × Option Err :=
  if (m.streams.lookup id).isSome then (m, [], none)
  else
    let isOwn := match m.perspective with
      | .server => id % 2 == 0
      | .client => id % 2 == 1
    if isOwn then
      (m, [], if id ≤ m.nextStream then none else some (.invalidStreamID id))
    else if id ≤ m.highestStreamOpenedByPeer then (m, [], none)
    else
      let sid := (m.highestStreamOpenedByPeer + 2) % 2 ^ 32
      let sid := if sid = 2 ∧ m.perspective = .server then 1 else sid
      m.openUpTo params id (id + 2) sid []

/-- `OpenStream` on a map that is not closed: the ID of the new stream. -/
def openStream (m : StreamsMap) (params : ConnectionParameters) : StreamsMap × Except Err Nat :=
  let id := m.nextStream
  if params.maxOutgoingStreams ≤ m.numOutgoingStreams then (m, .error .tooManyOpenStreams)
  else
    let m := match m.perspective with
      | .server => { m with numOutgoingStreams := (m.numOutgoingStreams + 1) % 2 ^ 32 }
      | .client => { m with numIncomingStreams := (m.numIncomingStreams + 1) % 2 ^ 32 }
    ({ m with nextStream := (id + 2) % 2 ^ 32 }.putStream (.new id), .ok id)

/-- `AcceptStream`: the ID of the stream, or nothing where the source waits. -/
def acceptStream (m : StreamsMap) : StreamsMap × Option Nat :=
  match m.streams.lookup m.nextStreamToAccept with
  | none => (m, none)
  | some _ =>
    ({ m with nextStreamToAccept := (m.nextStreamToAccept + 2) % 2 ^ 32 },
      some m.nextStreamToAccept)

/-! ## Iterating -/

section Iterate
variable {β : Type}

/-- `iterateFunc`: a call of the function for one stream, which may change the stream and the
function's own state, and says whether to go on.  Nothing is `errMapAccess`. -/
def iterateFunc (m : StreamsMap) (id : Nat) (fn : Stream → β → Stream × β × Bool) (b : β) :
    Option (StreamsMap × β × Bool) :=
  match m.streams.lookup id with
  | none => none
  | some str =>
    let (str, b, cont) := fn str b
    some ({ m with streams := m.streams.insert id str }, b, cont)

/-- The calls of `RoundRobinIterate` for the crypto and the header stream; the flag says
whether to go on. -/
def iteratePriority (fn : Stream → β → Stream × β × Bool) :
    List Nat → StreamsMap → β → StreamsMap × β × Bool
  | [], m, b => (m, b, true)
  | id :: ids, m, b =>
    match m.iterateFunc id fn b with
    | none => iteratePriority fn ids m b
    | some (m, b, true) => iteratePriority fn ids m b
    | some (m, b, false) => (m, b, false)

/-- The loop of `RoundRobinIterate` over the open streams; `none` stands for an index beyond
`openStreams`. -/
def iterateOthers (fn : Stream → β → Stream × β × Bool) (numStreams : Nat) :
    List (Option Nat) → StreamsMap → β → Except Err (StreamsMap × β)
  | [], m, b => .ok (m, b)
  | none :: _, _, _ => .error (.panic .indexOutOfRange)
  | some id :: ids, m, b =>
    if id = 1 ∨ id = 3 then iterateOthers fn numStreams ids m b
    else
      match m.iterateFunc id fn b with
      | none => .ok (m, b)
      | some (m, b, cont) =>
        let m := { m with roundRobinIndex := (m.roundRobinIndex + 1) % numStreams }
        if cont then iterateOthers fn numStreams ids m b else .ok (m, b)

/-- `RoundRobinIterate`; its only caller ignores `errMapAccess`. -/
def roundRobinIterate (m : StreamsMap) (fn : Stream → β → Stream × β × Bool) (b : β) :
    Except Err (StreamsMap × β) :=
  let numStreams := m.streams.keys.length
  let order := (List.range numStreams).map fun i =>
    m.openStreams[(i + m.roundRobinIndex) % numStreams]?
  match iteratePriority fn [1, 3] m b with
  | (m, b, false) => .ok (m, b)
  | (m, b, true) => iterateOthers fn numStreams order m b

end Iterate

/-- A 32-bit counter decremented. -/
def decrement (n : Nat) : Nat := if n = 0 then 2 ^ 32 - 1 else n - 1

/-- `RemoveStream` of a stream in the map. -/
def removeStream (m : StreamsMap) (id : Nat) : StreamsMap :=
  let m :=
    if id % 2 = 0 then { m with numOutgoingStreams := decrement m.numOutgoingStreams }
    else { m with numIncomingStreams := decrement m.numIncomingStreams }
  let m := match m.openStreams.idxOf? id with
    | none => m
    | some i => { m with
        openStreams := m.openStreams.eraseIdx i
        roundRobinIndex :=
          if i < m.roundRobinIndex then m.roundRobinIndex - 1 else m.roundRobinIndex }
  { m with streams := m.streams.erase id }

/-- The loop of `Iterate` over the copy of `openStreams`: the function changes the stream, or
removes it with `RemoveStream` as `garbageCollectStreams` does, and says whether to go on.  The
iteration ends with `errMapAccess` at a stream that is not in the map. -/
def iterateLoop {β : Type} (fn : Stream → β → Option Stream × β × Bool) :
    List Nat → StreamsMap → β → StreamsMap × β
  | [], m, b => (m, b)
  | id :: ids, m, b =>
    match m.streams.lookup id with
    | none => (m, b)
    | some str =>
      let (str, b, cont) := fn str b
      let m := match str with
        | some str => { m with streams := m.streams.insert id str }
        | none => m.removeStream id
      if cont then iterateLoop fn ids m b else (m, b)

/-- `Iterate`. -/
def iterate {β : Type} (m : StreamsMap) (fn : Stream → β → Option Stream × β × Bool) (b : β) :
    StreamsMap × β := iterateLoop fn m.openStreams m b

theorem streams_removeStream (m : StreamsMap) (id : Nat) :
    (m.removeStream id).streams = m.streams.erase id := by
  rw [removeStream]
  split_ifs <;> split <;> rfl

end StreamsMap
end MpQuic
