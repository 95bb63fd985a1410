import MpQuic.FrameLengths
import MpQuic.Panics
import MpQuic.QueuedFrames
import MpQuic.StreamSizes

/-!
# The size of packets

`composeNextPacket` fills a packet with STOP_WAITING and ACK, which always fit, then
with control frames from the end of the queue up to the first that does not fit, and
then with stream frames.  These get two bytes more than there are, because the last of
them omits its length.  So a packet is too large exactly if the stream frames are
longer than they were counted: if the framer splits one byte off a frame that starts a
stream and that is in the packet already (`StreamFramer.SplitsTaken`).
-/
namespace MpQuic
open Systems List

/-! ## Announced lengths -/

namespace Frame

/-- The announced length of a frame, as a number. -/
def length (f : Frame StreamFrame) : Nat := f.announcedLength.toOption.getD 0

variable {n : Nat}

theorem length_of_announced {f : Frame StreamFrame} (h : f.announcedLength = .ok n) :
    f.length = n := by
  rw [length, h]
  rfl

/-- The announced length of a control frame. -/
def controlLength (f : ControlFrame) : Nat := (ofControl f : Frame StreamFrame).length

theorem announcedLength_ofControl (f : ControlFrame) :
    (ofControl f : Frame StreamFrame).announcedLength = (ofControl f).minLength := by
  cases f with
  | stream e => exact e.elim
  | _ => rfl

theorem controlLength_of_minLength {f : ControlFrame} (h : (ofControl f).minLength = .ok n) :
    controlLength f = n :=
  length_of_announced ((announcedLength_ofControl f).trans h)

/-- A frame that can be written is written in as many bytes as it announces. -/
def WritesAnnounced (version now : Int) (f : Frame StreamFrame) : Prop :=
  ∀ bytes, f.write version now = .ok bytes → f.length = bytes.length

theorem flatten_length_of_write {version now : Int} {frames : List (Frame StreamFrame)}
    {payload : List (List Byte)} (h : ∀ f ∈ frames, f.WritesAnnounced version now)
    (hwrite : frames.mapM (·.write version now) = .ok payload) :
    payload.flatten.length = (frames.map length).sum := by
  induction frames generalizing payload with
  | nil =>
    obtain rfl := Except.ok.inj hwrite
    rfl
  | cons f frames ih =>
    rw [mapM_cons] at hwrite
    obtain ⟨bytes, hbytes, hwrite⟩ := bind_eq_ok hwrite
    obtain ⟨rest, hrest, hwrite⟩ := bind_eq_ok hwrite
    obtain rfl := Except.ok.inj hwrite
    have hlen := h f mem_cons_self bytes hbytes
    have hsum := ih (fun g hg => h g (mem_cons_of_mem _ hg)) hrest
    rw [flatten_cons, length_append, map_cons, sum_cons, hlen, hsum]

end Frame

open MpQuic.Frame

/-! ## Headers -/

namespace PublicHeader

/-- `Write` writes as many bytes as `GetLength` says. -/
theorem write_length {h : PublicHeader} {pers : Perspective} {len : Nat}
    (hlen : h.getLength pers = .ok len) (version : Int) :
    Yields (fun bytes => bytes.length = len) (h.write version pers) := by
  unfold getLength at hlen
  split at hlen
  · cases hlen
  split at hlen
  · cases hlen
  next hversion =>
  split at hlen
  · cases hlen
  have hlen := Except.ok.inj hlen
  have hclient : (h.versionFlag && pers == .client) = h.versionFlag := by
    cases pers <;> simp_all
  unfold write
  dsimp only
  rw [hclient]
  split
  · exact yields_error _
  split
  · exact yields_error _
  split
  · next hnumber =>
    have hnumber : h.hasPacketNumber pers = false := by simpa using hnumber
    refine (yields_ok _).mpr (Eq.trans ?_ hlen)
    simp only [hnumber, List.length_append, List.length_cons, apply_ite List.length,
      ByteOrder.length_writeUintN, length_nil, Nat.zero_add, Bool.false_eq_true,
      if_false]
    omega
  split
  · next hnumber _ =>
    have hnumber : h.hasPacketNumber pers = true := by simpa using hnumber
    refine (yields_ok _).mpr (Eq.trans ?_ hlen)
    simp only [hnumber, List.length_append, List.length_cons, apply_ite List.length,
      ByteOrder.length_writeUintN, length_nil, Nat.zero_add, if_true]
    omega
  · exact yields_error _

end PublicHeader

namespace PacketPacker
variable {κ : Type}

theorem getPublicHeader_resetFlag (p : PacketPacker) (hc : Bool) (encLevel : EncryptionLevel)
    (pth : Path κ) : (p.getPublicHeader hc encLevel pth).resetFlag = false := by
  unfold getPublicHeader
  split_ifs <;> rfl

variable {p : PacketPacker} {encLevel : EncryptionLevel}

theorem getPublicHeader_versionFlag {hc : Bool} {pth : Path κ}
    (h : (p.getPublicHeader hc encLevel pth).versionFlag = true) : p.perspective = .client := by
  by_contra hserver
  unfold getPublicHeader at h
  dsimp only at h
  simp only [hserver, false_and, if_false] at h
  split_ifs at h

theorem getPublicHeader_nonce (hlevel : ¬(p.perspective = .server ∧ encLevel = .secure))
    (hc : Bool) (pth : Path κ) : (p.getPublicHeader hc encLevel pth).diversificationNonce = [] := by
  unfold getPublicHeader
  dsimp only
  rw [if_neg hlevel]
  split_ifs <;> rfl

/-- The header of a packet that is not sealed with the server's secure key. -/
theorem getPublicHeader_getLength (p : PacketPacker) (hc : Bool) (encLevel : EncryptionLevel)
    (pth : Path κ) (hlevel : ¬(p.perspective = .server ∧ encLevel = .secure)) :
    ∃ len ≤ 20, (p.getPublicHeader hc encLevel pth).getLength p.perspective = .ok len := by
  have hnum := getPacketNumberLengthForPublicHeader_mem pth.packetNumberGenerator.peek
    pth.leastUnacked
  rw [← p.getPublicHeader_packetNumberLen hc encLevel pth] at hnum
  have hreset := p.getPublicHeader_resetFlag hc encLevel pth
  have hnonce := getPublicHeader_nonce hlevel hc pth
  have hversion : ((p.getPublicHeader hc encLevel pth).versionFlag && p.perspective == .server) =
      false := by
    rw [Bool.and_eq_false_imp]
    intro h
    rw [getPublicHeader_versionFlag h]
    rfl
  generalize p.getPublicHeader hc encLevel pth = ph at *
  simp only [mem_cons, not_mem_nil, or_false] at hnum
  have hcontains : [1, 2, 4, 6].contains ph.packetNumberLen = true := by
    rcases hnum with h | h | h <;> rw [h] <;> rfl
  unfold PublicHeader.getLength
  rw [hreset, hversion, hcontains, hnonce, Bool.and_false, Bool.not_true, Bool.and_false,
    if_neg Bool.false_ne_true, if_neg Bool.false_ne_true, if_neg Bool.false_ne_true]
  refine ⟨_, ?_, rfl⟩
  rw [length_nil]
  split_ifs <;> omega

end PacketPacker

/-! ## ACK frames -/

/-- An ACK frame for a path whose packet numbers are below `2 ^ 32`. -/
structure AckFrame.Numbers32 (f : AckFrame) : Prop where
  lowest : 1 ≤ f.lowestAcked
  ordered : f.lowestAcked ≤ f.largestAcked
  largest : f.largestAcked < 2 ^ 32
  ranges : ∀ r ∈ f.ackRanges, 1 ≤ r.first ∧ r.first ≤ r.last ∧ r.last < 2 ^ 32

namespace AckedPackets

theorem countNackRanges_lt {n : Nat} (hn : n < 255) (ranges : List AckRange) :
    countNackRanges n ranges < 255 := by
  fun_induction countNackRanges n ranges with
  | case1 n last r rest rangeLength h ih => exact ih h
  | case2 => exact hn
  | case3 => exact hn

theorem numWritableNackRanges_le (f : AckedPackets) : f.numWritableNackRanges ≤ 255 := by
  unfold numWritableNackRanges
  split
  · exact Nat.zero_le _
  · exact countNackRanges_lt (by decide) _

theorem rangeLength_le {r : AckRange} (hfirst : 1 ≤ r.first) (hle : r.first ≤ r.last)
    (hlast : r.last < 2 ^ 32) : rangeLength r ≤ 0xFFFFFFFF := by
  unfold rangeLength
  rw [sub64_of_le hle, add64_of_lt (by omega)]
  omega

end AckedPackets

open AckedPackets
variable {f : AckFrame}

theorem AckFrame.Numbers32.deltaLen_le (h : f.Numbers32) :
    f.getMissingSequenceNumberDeltaLen ≤ 4 := by
  have hmax : (if f.hasMissingRanges then (f.ackRanges.map rangeLength).foldl max 0
      else add64 (sub64 f.largestAcked f.lowestAcked) 1) ≤ 0xFFFFFFFF := by
    split
    · refine foldlRecOn (motive := (· ≤ 0xFFFFFFFF)) _ _ (Nat.zero_le _) ?_
      intro m hm n hn
      obtain ⟨r, hr, rfl⟩ := mem_map.mp hn
      obtain ⟨hfirst, hle, hlast⟩ := h.ranges r hr
      exact max_le hm (rangeLength_le hfirst hle hlast)
    · exact rangeLength_le (r := ⟨f.lowestAcked, f.largestAcked⟩) h.lowest h.ordered h.largest
  unfold getMissingSequenceNumberDeltaLen
  dsimp only
  rw [if_pos hmax]
  split_ifs <;> decide

/-- 255 blocks with gaps and lengths, and the fields before them. -/
theorem AckFrame.Numbers32.minLength_le (h : f.Numbers32) : f.minLength ≤ 1284 := by
  have hnumber : getPacketNumberLength f.largestAcked ≤ 4 := by
    unfold getPacketNumberLength
    have := h.largest
    split_ifs <;> omega
  have hblocks : f.minLengthRanges ≤ 1275 := by
    unfold minLengthRanges
    dsimp only
    have hlen := h.deltaLen_le
    split
    · calc (1 + f.getMissingSequenceNumberDeltaLen) * f.numWritableNackRanges
        _ ≤ 5 * 255 := Nat.mul_le_mul (by omega) f.numWritableNackRanges_le
        _ = 1275 := rfl
    · omega
  unfold AckFrame.minLength
  split_ifs <;> omega

/-! ## Composing -/

/-- How far frames of these lengths fill a packet, up to the first that does not fit. -/
def filled (maxFrameSize : Nat) : Nat → List Nat → Nat
  | n, [] => n
  | n, len :: rest => if maxFrameSize < n + len then n else filled maxFrameSize (n + len) rest

theorem filled_le {maxFrameSize n : Nat} (h : n ≤ maxFrameSize) (lengths : List Nat) :
    filled maxFrameSize n lengths ≤ maxFrameSize := by
  induction lengths generalizing n with
  | nil => exact h
  | cons len rest ih =>
    rw [filled]
    split
    · exact h
    · next hfits => exact ih (not_lt.mp hfits)

namespace PacketPacker
variable {κ : Type}

/-- The loop over the control frames fills the packet with them. -/
theorem popControlFrames_filled (maxFrameSize : Nat) (frames : List ControlFrame) (n : Nat)
    (hlen : ∀ f ∈ frames, ∃ m, (Frame.ofControl f).minLength = .ok m) :
    ∃ rest taken, popControlFrames maxFrameSize frames n =
        .ok (rest, taken, filled maxFrameSize n (frames.map controlLength)) ∧
      (∀ f ∈ taken, f ∈ frames) ∧
      n + (taken.map controlLength).sum = filled maxFrameSize n (frames.map controlLength) := by
  induction frames generalizing n with
  | nil => exact ⟨[], [], rfl, by simp, rfl⟩
  | cons f frames ih =>
    obtain ⟨m, hm⟩ := hlen f mem_cons_self
    rw [popControlFrames, hm, map_cons, filled, controlLength_of_minLength hm]
    by_cases hfits : maxFrameSize < n + m
    · rw [if_pos hfits]
      refine ⟨f :: frames, [], ?_, by simp, rfl⟩
      change (if _ then _ else _) = _
      rw [if_pos hfits]
      rfl
    · obtain ⟨rest, taken, hpop, htaken, hsum⟩ :=
        ih (n + m) fun g hg => hlen g (mem_cons_of_mem _ hg)
      rw [if_neg hfits]
      refine ⟨rest, f :: taken, ?_, ?_, ?_⟩
      · change (if _ then _ else _) = _
        rw [if_neg hfits, hpop]
        rfl
      · intro g hg
        rcases mem_cons.mp hg with rfl | hg
        · exact mem_cons_self
        · exact mem_cons_of_mem _ (htaken g hg)
      · rw [map_cons, sum_cons, controlLength_of_minLength hm, ← hsum]
        omega

/-- The length of the STOP_WAITING and ACK frames of a path. -/
def headLength (p : PacketPacker) (pathID : Nat) : Nat :=
  (p.stopWaiting pathID).elim 0 (1 + ·.packetNumberLen) +
    (p.ackFrame pathID).elim 0 AckFrame.minLength

variable {p : PacketPacker} {pth : Path κ} {len : Nat}

/-- The ACK and STOP_WAITING frames are as long as counted, once the latter has been numbered. -/
theorem headFrames_length {pathID : Nat}
    (hstop : ∀ f, p.stopWaiting pathID = some f → f.packetNumberLen ≠ 0) :
    ∃ head, p.headFrames pathID = .ok (head, p.headLength pathID) ∧
      (head.map controlLength).sum = p.headLength pathID ∧
      ∀ f ∈ head, ∀ version now, (Frame.ofControl f).WritesAnnounced version now := by
  have hack (f : AckFrame) (version now : Int) : (Frame.ack f).WritesAnnounced version now :=
    fun bytes hbytes => ((f.write_length version now).value bytes hbytes).symm
  have hwait (f : StopWaitingFrame) (version now : Int) :
      (Frame.stopWaiting f).WritesAnnounced version now :=
    fun bytes hbytes =>
      length_of_announced ((stopWaiting_write_length f version).value bytes hbytes)
  have hackLen (f : AckFrame) : controlLength (.ack f) = f.minLength := rfl
  unfold headFrames stopWaitingFrames ackFrames headLength
  rcases hs : p.stopWaiting pathID with _ | s
  · rcases p.ackFrame pathID with _ | a
    · exact ⟨[], rfl, rfl, by simp⟩
    · refine ⟨[.ack a], by simp, by simp [hackLen], ?_⟩
      intro f hf
      obtain rfl := mem_singleton.mp hf
      exact hack a
  · have hlen : s.minLength = .ok (1 + s.packetNumberLen) := if_neg (hstop s hs)
    have hwaitLen : controlLength (.stopWaiting s) = 1 + s.packetNumberLen :=
      controlLength_of_minLength (f := .stopWaiting s) hlen
    rcases p.ackFrame pathID with _ | a
    · refine ⟨[.stopWaiting s], by simp [hlen], by simp [hwaitLen], ?_⟩
      intro f hf
      obtain rfl := mem_singleton.mp hf
      exact hwait s
    · refine ⟨[.stopWaiting s, .ack a], by simp [hlen], by simp [hwaitLen, hackLen], ?_⟩
      intro f hf
      rcases mem_cons.mp hf with rfl | hf
      · exact hwait s
      obtain rfl := mem_singleton.mp hf
      exact hack a

/-- Two bytes less for every time the last frame is in the packet. -/
theorem sizes_omitLength (h : FrameHeap) (last : FrameRef) {fs : List FrameRef}
    (hlen : ∀ r ∈ fs, (h.frame r).dataLenPresent = true) :
    (fs.map fun r => ((omitLength h (some last)).frame r).size).sum + 2 * fs.count last =
      h.sizes fs := by
  induction fs with
  | nil => rfl
  | cons r fs ih =>
    have hrest := ih fun r' hr' => hlen r' (mem_cons_of_mem _ hr')
    rw [map_cons, sum_cons, count_cons, FrameHeap.sizes_cons, ← hrest]
    by_cases hr : r = last
    · subst hr
      have hsize := (h.frame r).size_omitLength
      rw [omitLength, FrameHeap.modify_frame_self, beq_self_eq_true, if_pos rfl]
      omega
    · have hsize := StreamFrame.size_eq_fullSize (hlen r mem_cons_self)
      rw [omitLength, FrameHeap.modify_frame_of_ne _ _ hr, beq_false_of_ne hr,
        if_neg Bool.false_ne_true, hsize]
      omega

/-- The stream frames of a packet, without the length of the last one. -/
theorem popStreamFrames_length (hvalid : p.streamFramer.QueueValid)
    (hlisted : p.streamFramer.streamsMap.Listed) (maxLen : Nat) (hmax : 2 ≤ maxLen) :
    ∃ framer fs, p.streamFramer.popStreamFrames maxLen = .ok (framer, fs) ∧
      ((fs.map fun r => ((omitLength framer.heap fs.getLast?).frame r).size).sum + 2 ≤ maxLen ↔
        ¬StreamFramer.SplitsTaken maxLen p.streamFramer.heap []
          p.streamFramer.retransmissionQueue) := by
  obtain ⟨⟨framer, fs⟩, hpop⟩ := p.streamFramer.popStreamFrames_ok maxLen hlisted
  obtain ⟨hfits, hexceeds⟩ := StreamFramer.popStreamFrames_sizes hvalid hpop
  have hlengths := (StreamFramer.popStreamFrames_marks hvalid hpop).lengths
  refine ⟨framer, fs, hpop, ?_⟩
  rcases eq_nil_or_concat fs with rfl | ⟨front, last, rfl⟩
  · refine iff_of_true (by simpa using hmax) fun hsplits => ?_
    obtain ⟨-, front, last, hnil, -⟩ := hexceeds hsplits
    simp at hnil
  · rw [concat_eq_append] at *
    rw [getLast?_concat]
    have hsum := sizes_omitLength framer.heap last hlengths
    have hcount : 0 < (front ++ [last]).count last := count_pos_iff.mpr (by simp)
    constructor
    · intro hle hsplits
      obtain ⟨hlong, front', last', heq, hnot⟩ := hexceeds hsplits
      obtain ⟨rfl, hlast⟩ := append_inj' heq rfl
      obtain rfl : last = last' := head_eq_of_cons_eq hlast
      have hone : (front ++ [last]).count last = 1 := by
        rw [count_append, count_eq_zero.mpr hnot, count_singleton_self]
      omega
    · intro hnot
      have := hfits hnot
      omega

/-- The room for stream frames behind the control frames, with the two bytes saved. -/
def streamRoom (p : PacketPacker) (maxFrameSize pathID : Nat) : Nat :=
  maxFrameSize + 2 -
    filled maxFrameSize (p.headLength pathID) (p.controlFrames.reverse.map controlLength)

/-- The packet grows when the framer splits a frame that is in it already. -/
def SplitsTakenFrame (p : PacketPacker) (maxFrameSize : Nat) (canSendStreamFrames : Bool)
    (pathID : Nat) : Prop :=
  canSendStreamFrames = true ∧ StreamFramer.SplitsTaken (p.streamRoom maxFrameSize pathID)
    p.streamFramer.heap [] p.streamFramer.retransmissionQueue

/-- The announced length of the frames of a packet. -/
def payloadLength (h : FrameHeap) (frames : List (Frame FrameRef)) : Nat :=
  ((frames.map h.read).map Frame.length).sum

theorem read_ofControl (h : FrameHeap) (f : ControlFrame) :
    h.read (Frame.ofControl f) = Frame.ofControl f := by
  cases f <;> first | rfl | contradiction

theorem payloadLength_ofControl (h : FrameHeap) (frames : List ControlFrame) :
    payloadLength h (frames.map Frame.ofControl) = (frames.map controlLength).sum := by
  unfold payloadLength
  rw [map_map, map_map]
  refine congrArg sum (map_congr_left fun f _ => ?_)
  exact congrArg Frame.length (read_ofControl h f)

theorem payloadLength_stream (h : FrameHeap) (fs : List FrameRef) :
    payloadLength h (fs.map Frame.stream) = (fs.map fun r => (h.frame r).size).sum := by
  unfold payloadLength
  rw [map_map, map_map]
  rfl

theorem payloadLength_append (h : FrameHeap) (a b : List (Frame FrameRef)) :
    payloadLength h (a ++ b) = payloadLength h a + payloadLength h b := by
  simp [payloadLength]

/-- `composeNextPacket` succeeds, and its frames fit unless it splits a frame it has taken. -/
theorem composeNextPacket_length {maxFrameSize pathID : Nat}
    (hhead : p.headLength pathID ≤ maxFrameSize)
    (hstop : ∀ f, p.stopWaiting pathID = some f → f.packetNumberLen ≠ 0)
    (hcontrol : ∀ f ∈ p.controlFrames, ∃ m, (Frame.ofControl f).minLength = .ok m)
    (hvalid : p.streamFramer.QueueValid) (hlisted : p.streamFramer.streamsMap.Listed)
    (canSend : Bool) :
    ∃ framer controlFrames frames, p.composeNextPacket maxFrameSize canSend pathID =
        .ok ({ p with streamFramer := framer, controlFrames }, frames) ∧
      (payloadLength framer.heap frames ≤ maxFrameSize ↔
        ¬p.SplitsTakenFrame maxFrameSize canSend pathID) ∧
      ∀ version now,
        (∀ f ∈ p.controlFrames, (Frame.ofControl f).WritesAnnounced version now) →
        ∀ f ∈ frames, (framer.heap.read f).WritesAnnounced version now := by
  obtain ⟨head, hheadFrames, hheadLength, hwrites⟩ := headFrames_length hstop
  obtain ⟨rest, taken, hpop, htaken, hsum⟩ := popControlFrames_filled maxFrameSize
    p.controlFrames.reverse (p.headLength pathID) fun f hf => hcontrol f (mem_reverse.mp hf)
  have hfilled := filled_le hhead (p.controlFrames.reverse.map controlLength)
  have hcontrols (h : FrameHeap) : payloadLength h ((head ++ taken).map Frame.ofControl) =
      filled maxFrameSize (p.headLength pathID) (p.controlFrames.reverse.map controlLength) := by
    rw [payloadLength_ofControl, map_append, sum_append, hheadLength, hsum]
  have hannounced (h : FrameHeap) (fs : List FrameRef) (version now : Int)
      (hqueued : ∀ f ∈ p.controlFrames, (Frame.ofControl f).WritesAnnounced version now) :
      ∀ f ∈ (head ++ taken).map Frame.ofControl ++ fs.map Frame.stream,
        (h.read f).WritesAnnounced version now := by
    intro f hf
    rcases mem_append.mp hf with hf | hf
    · obtain ⟨c, hc, rfl⟩ := mem_map.mp hf
      rw [read_ofControl]
      rcases mem_append.mp hc with hc | hc
      · exact hwrites c hc version now
      · exact hqueued c (mem_reverse.mp (htaken c hc))
    · obtain ⟨r, -, rfl⟩ := mem_map.mp hf
      exact fun bytes hbytes =>
        ((stream_write_length (h.frame r) version).value bytes hbytes).symm
  unfold SplitsTakenFrame streamRoom composeNextPacket
  rw [hheadFrames]
  simp only [bind, Except.bind, hpop]
  generalize filled maxFrameSize (p.headLength pathID) _ = len at *
  rw [if_neg (by omega)]
  cases canSend with
  | false =>
    refine ⟨p.streamFramer, rest.reverse, (head ++ taken).map Frame.ofControl, rfl, ?_, ?_⟩
    · rw [hcontrols]
      exact iff_of_true hfilled (by simp)
    · simpa using hannounced p.streamFramer.heap []
  | true =>
    obtain ⟨framer, fs, hframer, hfits⟩ := popStreamFrames_length (p := p) hvalid hlisted
      (maxFrameSize + 2 - len) (by omega)
    refine ⟨{ framer with heap := omitLength framer.heap fs.getLast?, blockedFrameQueue := [] },
      rest.reverse ++ framer.blockedFrameQueue.map Frame.blocked,
      (head ++ taken).map Frame.ofControl ++ fs.map Frame.stream, ?_, ?_, hannounced _ fs⟩
    · simp only [popStreamFrames, hframer]
      rfl
    · rw [payloadLength_append, hcontrols, payloadLength_stream, and_iff_right rfl, ← hfits]
      dsimp only
      omega

/-! ## Packets -/

/-- What is known of the lengths when a packet is packed for a path that has used fewer than
`2 ^ 32` packet numbers. -/
structure LengthsKnown (p : PacketPacker) (pth : Path κ) (now : Int) : Prop where
  overhead : p.cryptoSetup.overhead p.cryptoSetup.getSealer ≤ 16
  perspective : p.cryptoSetup.perspective = p.perspective
  ack : ∀ f, p.ackFrame pth.pathID = some f → f.Numbers32
  /-- `MinLength` of every queued control frame is its written size. -/
  control : ∀ f ∈ p.controlFrames, ∃ bytes,
    (Frame.ofControl f).write p.version now = .ok bytes ∧
      (Frame.ofControl f).minLength = .ok bytes.length
  queue : p.streamFramer.QueueValid
  streams : p.streamFramer.streamsMap.Listed

/-- The `maxFrameSize` of `PackPacket`. -/
def maxFrameSize (p : PacketPacker) (handshakeComplete : Bool) (pth : Path κ) : Nat :=
  let encLevel := p.cryptoSetup.getSealer
  let publicHeader := p.getPublicHeader handshakeComplete encLevel pth
  maxPacketSize - p.cryptoSetup.overhead encLevel -
    (publicHeader.getLength p.perspective).toOption.getD 0

/-- Neither composing nor sealing a packet finds it too large. -/
structure KeepsSizeLimit (p : PacketPacker) (handshakeComplete : Bool) (pth : Path κ) (now : Int)
    (random : Option UInt16) : Prop where
  composes : ∀ n m, (p.numbered handshakeComplete pth).composeNextPacket
    (p.maxFrameSize handshakeComplete pth) (p.canSendData p.cryptoSetup.getSealer) pth.pathID ≠
      .error (.payloadTooLarge n m)
  payload : ∀ p' frames, (p.numbered handshakeComplete pth).composeNextPacket
    (p.maxFrameSize handshakeComplete pth) (p.canSendData p.cryptoSetup.getSealer) pth.pathID =
      .ok (p', frames) →
    payloadLength p'.streamFramer.heap frames ≤ p.maxFrameSize handshakeComplete pth
  packet : p.packDataPacket handshakeComplete pth now random ≠ .error .packetTooLarge

theorem getSealer_level (p : PacketPacker) (h : p.cryptoSetup.perspective = p.perspective) :
    ¬(p.perspective = .server ∧ p.cryptoSetup.getSealer = .secure) := by
  rintro ⟨hserver, hsecure⟩
  unfold CryptoSetup.getSealer at hsecure
  rw [h, hserver] at hsecure
  split at hsecure <;> cases hsecure

theorem maxFrameSize_of_getLength {hc : Bool}
    (h : (p.getPublicHeader hc p.cryptoSetup.getSealer pth).getLength p.perspective = .ok len) :
    p.maxFrameSize hc pth =
      maxPacketSize - p.cryptoSetup.overhead p.cryptoSetup.getSealer - len := by
  unfold maxFrameSize
  dsimp only
  rw [h]
  rfl

theorem numbered_packetNumberLen (p : PacketPacker) (hc : Bool) (pth : Path κ)
    (f : StopWaitingFrame)
    (hf : (p.numbered hc pth).stopWaiting pth.pathID = some f) :
    f.packetNumberLen ≠ 0 ∧ f.packetNumberLen ≤ 6 := by
  have hnum := getPacketNumberLengthForPublicHeader_mem pth.packetNumberGenerator.peek
    pth.leastUnacked
  rw [← p.getPublicHeader_packetNumberLen hc p.cryptoSetup.getSealer pth] at hnum
  have hstop : (p.numbered hc pth).stopWaiting pth.pathID = _ := Function.update_self ..
  rw [hstop] at hf
  obtain ⟨f₀, -, rfl⟩ := Option.map_eq_some_iff.mp hf
  simp only [mem_cons, not_mem_nil, or_false] at hnum
  dsimp only
  omega

theorem numbered_headLength_le (p : PacketPacker) (hc : Bool) (pth : Path κ) :
    (p.numbered hc pth).headLength pth.pathID ≤
      7 + (p.ackFrame pth.pathID).elim 0 AckFrame.minLength := by
  have hack : (p.numbered hc pth).ackFrame = p.ackFrame := rfl
  rw [headLength, hack]
  refine Nat.add_le_add_right ?_ _
  cases hf : (p.numbered hc pth).stopWaiting pth.pathID with
  | none => exact Nat.zero_le _
  | some f =>
    have hlen := (p.numbered_packetNumberLen hc pth f hf).2
    rw [Option.elim_some]
    omega

namespace LengthsKnown
variable {p : PacketPacker} {pth : Path κ} {now : Int}

theorem header (h : p.LengthsKnown pth now) (hc : Bool) :
    ∃ len ≤ 20,
      (p.getPublicHeader hc p.cryptoSetup.getSealer pth).getLength p.perspective = .ok len ∧
      p.maxFrameSize hc pth =
        1350 - p.cryptoSetup.overhead p.cryptoSetup.getSealer - len := by
  obtain ⟨len, hle, hlen⟩ := p.getPublicHeader_getLength hc p.cryptoSetup.getSealer pth
    (getSealer_level p h.perspective)
  refine ⟨len, hle, hlen, ?_⟩
  exact maxFrameSize_of_getLength hlen

/-- The STOP_WAITING and ACK frames fit. -/
theorem head (h : p.LengthsKnown pth now) (hc : Bool) :
    (∀ f, (p.numbered hc pth).stopWaiting pth.pathID = some f → f.packetNumberLen ≠ 0) ∧
      (p.numbered hc pth).headLength pth.pathID ≤ p.maxFrameSize hc pth := by
  obtain ⟨len, hle, -, hmax⟩ := h.header hc
  refine ⟨fun f hf => (p.numbered_packetNumberLen hc pth f hf).1, ?_⟩
  have hack : (p.ackFrame pth.pathID).elim 0 AckFrame.minLength ≤ 1284 := by
    cases hf : p.ackFrame pth.pathID with
    | none => exact Nat.zero_le _
    | some f => exact (h.ack f hf).minLength_le
  have hhead := p.numbered_headLength_le hc pth
  have hoverhead := h.overhead
  omega

end LengthsKnown

theorem writeAndSealPacket_fits {ph : PublicHeader} {frames : List (Frame FrameRef)}
    {encLevel : EncryptionLevel} {now : Int} {random : Option UInt16}
    (hlen : ph.getLength p.perspective = .ok len)
    (hwrites : ∀ f ∈ frames, (p.streamFramer.heap.read f).WritesAnnounced p.version now)
    (hfits : len + payloadLength p.streamFramer.heap frames + p.cryptoSetup.overhead encLevel ≤
      maxPacketSize) :
    FailsOnly (· ≠ .packetTooLarge) (p.writeAndSealPacket ph frames encLevel pth now random) := by
  unfold writeAndSealPacket
  refine ((ph.write_fromWire _ _).imp fun _ h => h.2.1).bind fun header hheader => ?_
  refine (FailsOnly.mapM fun f _ => (f.write_fromWire _ _).imp fun _ h => h.2.1).bind
    fun payload hpayload => ?_
  have hheader := (PublicHeader.write_length hlen p.version).value header hheader
  have hpayload := flatten_length_of_write (by simpa using hwrites) hpayload
  dsimp only
  rw [hheader, hpayload, ← payloadLength, if_neg (not_lt.mpr hfits)]
  split <;> simp

namespace LengthsKnown
variable {p : PacketPacker} {pth : Path κ} {now : Int}

theorem composes (h : p.LengthsKnown pth now) (hc : Bool) :
    ∃ framer controlFrames frames, (p.numbered hc pth).composeNextPacket (p.maxFrameSize hc pth)
        (p.canSendData p.cryptoSetup.getSealer) pth.pathID =
          .ok ({ p.numbered hc pth with streamFramer := framer, controlFrames }, frames) ∧
      (payloadLength framer.heap frames ≤ p.maxFrameSize hc pth ↔
        ¬(p.numbered hc pth).SplitsTakenFrame (p.maxFrameSize hc pth)
          (p.canSendData p.cryptoSetup.getSealer) pth.pathID) ∧
      ∀ f ∈ frames, (framer.heap.read f).WritesAnnounced p.version now := by
  obtain ⟨hstop, hhead⟩ := h.head hc
  have hcontrol : ∀ f ∈ p.controlFrames, ∃ m, (Frame.ofControl f).minLength = .ok m := by
    intro f hf
    obtain ⟨bytes, -, hlen⟩ := h.control f hf
    exact ⟨_, hlen⟩
  have hannounced : ∀ f ∈ p.controlFrames, (Frame.ofControl f).WritesAnnounced p.version now := by
    intro f hf bytes hbytes
    obtain ⟨bytes', hwrite, hlen⟩ := h.control f hf
    obtain rfl := Except.ok.inj (hwrite.symm.trans hbytes)
    exact controlLength_of_minLength hlen
  obtain ⟨framer, controlFrames, frames, hcompose, hfits, hwrites⟩ :=
    composeNextPacket_length (p := p.numbered hc pth) hhead hstop hcontrol h.queue h.streams
      (p.canSendData p.cryptoSetup.getSealer)
  exact ⟨framer, controlFrames, frames, hcompose, hfits, hwrites p.version now hannounced⟩

/-- The frames of the packet fit, a PING alone included. -/
theorem payloadFrames_fits (h : p.LengthsKnown pth now) (hc : Bool)
    (hsplits : ¬(p.numbered hc pth).SplitsTakenFrame (p.maxFrameSize hc pth)
      (p.canSendData p.cryptoSetup.getSealer) pth.pathID) {len : Nat}
    (hmax : p.maxFrameSize hc pth =
      maxPacketSize - p.cryptoSetup.overhead p.cryptoSetup.getSealer - len)
    (hpos : 1 ≤ p.maxFrameSize hc pth) :
    ∃ framer controlFrames frames,
      (p.numbered hc pth).payloadFrames p.cryptoSetup.getSealer len pth.pathID =
        .ok ({ p.numbered hc pth with streamFramer := framer, controlFrames }, frames) ∧
      payloadLength framer.heap frames ≤ p.maxFrameSize hc pth ∧
      ∀ f ∈ frames, (framer.heap.read f).WritesAnnounced p.version now := by
  unfold payloadFrames
  split
  · next rest hping =>
    refine ⟨p.streamFramer, rest, [.ping], rfl, hpos, ?_⟩
    intro f hf bytes hbytes
    obtain rfl := mem_singleton.mp hf
    obtain rfl := Except.ok.inj hbytes
    rfl
  · obtain ⟨framer, controlFrames, frames, hcompose, hfits, hwrites⟩ := h.composes hc
    rw [hmax] at hcompose
    exact ⟨framer, controlFrames, frames, hcompose, hfits.mpr hsplits, hwrites⟩

/-- **A data packet fits**, unless the framer splits a frame that it has taken already. -/
theorem packDataPacket_fits (h : p.LengthsKnown pth now) (hc : Bool) (random : Option UInt16)
    (hsplits : ¬(p.numbered hc pth).SplitsTakenFrame (p.maxFrameSize hc pth)
      (p.canSendData p.cryptoSetup.getSealer) pth.pathID) :
    FailsOnly (· ≠ .packetTooLarge) (p.packDataPacket hc pth now random) := by
  obtain ⟨len, hle, hlen, hmax⟩ := h.header hc
  have hoverhead := h.overhead
  obtain ⟨framer, controlFrames, frames, hframes, hfits, hwrites⟩ :=
    h.payloadFrames_fits hc hsplits (maxFrameSize_of_getLength hlen) (by omega)
  unfold packDataPacket
  dsimp only
  rw [hlen]
  change FailsOnly _ ((p.numbered hc pth).payloadFrames _ len pth.pathID >>= _)
  rw [hframes]
  change FailsOnly _ (if _ then _ else _)
  split
  · exact failsOnly_pure _
  · refine FailsOnly.bind ?_ fun _ _ => failsOnly_pure _
    have hsize : len + payloadLength framer.heap frames +
        p.cryptoSetup.overhead p.cryptoSetup.getSealer ≤ maxPacketSize := by
      rw [maxPacketSize]
      omega
    exact writeAndSealPacket_fits hlen hwrites hsize

end LengthsKnown

/-- **No packet is larger than the limit exactly if** the framer does not split a frame that it
has already put into the packet after its first byte. -/
theorem size_limit_kept_iff (p : PacketPacker) (hc : Bool) (pth : Path κ) (now : Int)
    (random : Option UInt16) (h : p.LengthsKnown pth now) :
    p.KeepsSizeLimit hc pth now random ↔
      ¬(p.numbered hc pth).SplitsTakenFrame (p.maxFrameSize hc pth)
        (p.canSendData p.cryptoSetup.getSealer) pth.pathID := by
  obtain ⟨framer, controlFrames, frames, hcompose, hfits, -⟩ := h.composes hc
  constructor
  · intro hkeeps
    exact hfits.mp (hkeeps.payload _ _ hcompose)
  · intro hsplits
    refine ⟨?_, ?_, ?_⟩
    · intro n m herror
      rw [hcompose] at herror
      cases herror
    · intro p' frames' hok
      rw [hcompose] at hok
      obtain ⟨rfl, rfl⟩ := Prod.mk.inj (Except.ok.inj hok)
      exact hfits.mpr hsplits
    · intro herror
      exact (h.packDataPacket_fits hc random hsplits).error _ herror rfl

/-- A client that has to send the first 1319 bytes of stream 5 again, as often as the frame is
in the queue. -/
def retransmittingPacker (retransmissionQueue : List FrameRef) : PacketPacker :=
  { connectionID := 1
    perspective := .client
    version := versionMP
    cryptoSetup := { perspective := .client, forwardSecureAEAD := true }
    streamFramer :=
      { streamsMap := .new .client
        flowControlManager := .new (.new 0 0 0)
        connectionParameters := .new 0 0 0
        retransmissionQueue
        heap := FrameHeap.alloc {} ⟨5, false, false, 0, replicate 1319 0⟩ } }

theorem lengthsKnown_retransmittingPacker (queue : List FrameRef) (hqueue : ∀ r ∈ queue, r = 0) :
    (retransmittingPacker queue).LengthsKnown freshPath 0 where
  overhead := (by decide : 12 ≤ 16)
  perspective := rfl
  ack _ hf := nomatch (show none = some _ from hf)
  control _ hf := absurd (show _ ∈ [] from hf) not_mem_nil
  queue r hr := hqueue r hr ▸ Nat.one_pos
  streams := List.Perm.nil

/-- A frame that is queued once fits. -/
theorem size_limit_kept_once :
    (retransmittingPacker [0]).LengthsKnown freshPath 0 ∧
      (retransmittingPacker [0]).KeepsSizeLimit true freshPath 0 none := by
  have hknown := lengthsKnown_retransmittingPacker [0] (by simp)
  refine ⟨hknown, (size_limit_kept_iff _ true freshPath 0 none hknown).mpr ?_⟩
  rintro ⟨-, pre, r, post, hqueue, hmem, -⟩
  have hqueue : [0] = pre ++ r :: post := hqueue
  cases pre with
  | nil => simp at hmem
  | cons r' pre =>
    have := congrArg List.length hqueue
    simp at this

/-- The same frame queued twice: the packet would have 1351 bytes, and is not sent. -/
theorem frame_queued_twice_is_too_large :
    (retransmittingPacker [0, 0]).LengthsKnown freshPath 0 ∧
      ((retransmittingPacker [0, 0]).packDataPacket true freshPath 0 none).map
        (fun r => r.2.2.isSome) = .error .packetTooLarge := by
  refine ⟨lengthsKnown_retransmittingPacker _ (by simp), ?_⟩
  decide +kernel

end PacketPacker
end MpQuic
