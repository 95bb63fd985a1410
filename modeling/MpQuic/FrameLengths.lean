import Mathlib.Tactic.Ring
import MpQuic.Lib.Outcome
import MpQuic.WriteFrame

/-!
# Announced and written lengths

The packer counts with `MinLength` and then writes the frames.  For every frame that
can be written the two agree, with one exception: `PathsFrame.MinLength` is computed
on bytes, so it is too small from 85 paths on.

For ACK and CLOSE_PATH frames the number of blocks is counted by one loop
(`numWritableNackRanges`) and the blocks are written by another, which checks at its
end that it has written as many (`writeRanges_length`).
-/
namespace MpQuic
open Systems List ByteOrder

/-! ## ACK blocks -/

namespace AckedPackets

theorem writeNumber_length (o : ByteOrder) (cut : Bool) (len v : Nat) :
    Yields (fun bytes => bytes.length = len) (writeNumber o cut len v) := by
  unfold writeNumber
  split
  · exact yields_error _
  · exact (yields_ok _).mpr (o.length_writeUintN len v)

/-- Every block is a gap and a length. -/
theorem writeBlock_length (o : ByteOrder) (cut : Bool) (len : Nat) (last r : AckRange) :
    Yields (fun bytes => bytes.length = (1 + len) * blocksForGap (gap last r))
      (writeBlock o cut len last r) := by
  unfold writeBlock
  dsimp only
  split
  · next hnum =>
    refine (writeNumber_length ..).bind fun bytes hbytes => ?_
    refine (yields_pure _).mpr ?_
    rw [length_cons, hbytes, hnum]
    ring
  split
  · next hnum => exact (yields_ok _).mpr (by rw [hnum]; rfl)
  · next hne hzero =>
    refine (writeNumber_length ..).bind fun bytes hbytes => ?_
    refine (yields_pure _).mpr ?_
    obtain ⟨k, hk⟩ : ∃ k, blocksForGap (gap last r) = k + 1 := Nat.exists_eq_succ_of_ne_zero hzero
    simp only [hk, Nat.add_sub_cancel, length_append, length_flatten, map_replicate,
      length_cons, length_writeUintN, sum_replicate_nat, hbytes]
    ring

/-- The loop over the ranges writes as many bytes as it counts blocks, those that fill long gaps
included. -/
theorem writeBlocks_length (o : ByteOrder) (cut : Bool) (len numRanges written : Nat)
    (ranges : List AckRange) :
    Yields (fun (bytes, written') => bytes.length + (1 + len) * written = (1 + len) * written')
      (writeBlocks o cut len numRanges written ranges) := by
  induction ranges generalizing written with
  | nil => exact (yields_ok _).mpr (by simp)
  | cons last ranges ih =>
    cases ranges with
    | nil => exact (yields_ok _).mpr (by simp)
    | cons r rest =>
      unfold writeBlocks
      refine (writeBlock_length ..).bind fun block hblock => ?_
      dsimp only
      split
      · refine (yields_pure _).mpr ?_
        rw [hblock]
        ring
      · refine (ih _).bind ?_
        rintro ⟨blocks, written'⟩ hblocks
        refine (yields_pure _).mpr ?_
        dsimp only at hblocks ⊢
        rw [length_append, hblock, ← hblocks]
        ring

/-- The first block and those of the ranges behind it, as many as were counted. -/
theorem writeRanges_length (f : AckedPackets) (o : ByteOrder) (cut : Bool) :
    Yields (fun bytes => bytes.length + (if f.hasMissingRanges then 1 else 0) = f.minLengthRanges)
      (f.writeRanges o cut) := by
  unfold writeRanges minLengthRanges hasMissingRanges
  rcases hranges : f.ackRanges with _ | ⟨first, rest⟩
  · exact writeNumber_length ..
  obtain ⟨last, hlast⟩ : ∃ last, (first :: rest).getLast? = some last :=
    ⟨_, getLast?_eq_some_getLast (cons_ne_nil first rest)⟩
  simp only [head?_cons, hlast, isEmpty_cons, Bool.not_false, if_true]
  split
  · exact yields_throw_bind _ _
  split
  · exact yields_throw_bind _ _
  refine (writeNumber_length ..).bind fun firstBlock hfirstBlock => ?_
  refine (writeBlocks_length ..).bind ?_
  rintro ⟨blocks, written⟩ hblocks
  dsimp only at hblocks ⊢
  split
  · exact yields_throw_bind _ _
  · next hwritten =>
    refine (yields_pure _).mpr ?_
    have hcount : f.numWritableNackRanges = written := not_not.mp hwritten
    rw [hcount, length_append, hfirstBlock, ← hblocks]
    ring

theorem writeNumRanges_length (f : AckedPackets) :
    Yields (fun bytes => bytes.length = if f.hasMissingRanges then 1 else 0) f.writeNumRanges := by
  unfold writeNumRanges
  split
  · split
    · exact yields_error _
    · exact (yields_ok _).mpr rfl
  · exact (yields_ok _).mpr rfl

end AckedPackets

open AckedPackets

theorem AckFrame.write_length (f : AckFrame) (version now : Int) :
    Yields (fun bytes => bytes.length = f.minLength) (f.write version now) := by
  unfold AckFrame.write AckFrame.minLength
  refine (writeNumRanges_length _).bind fun numRanges hnum => ?_
  refine (writeRanges_length ..).bind fun ranges hranges => ?_
  refine (yields_pure _).mpr ?_
  simp only [length_append, length_cons, length_nil, writeUfloat16,
    length_writeUintN, hnum, ← hranges]
  split <;> simp only [length_cons, length_nil] <;> ring

theorem ClosePathFrame.write_length (f : ClosePathFrame) (version : Int) :
    Yields (fun bytes => bytes.length = f.minLength) (f.write version) := by
  unfold ClosePathFrame.write ClosePathFrame.minLength
  refine (writeNumRanges_length _).bind fun numRanges hnum => ?_
  refine (writeNumber_length ..).bind fun largest hlargest => ?_
  refine (writeRanges_length ..).bind fun ranges hranges => ?_
  refine (yields_pure _).mpr ?_
  simp only [length_append, length_cons, hnum, hlargest, ← hranges]
  ring

/-! ## All frames -/

namespace Frame

/-- The length announced for a frame: `MinLength`, and for a STREAM frame also its data. -/
def announcedLength : Frame StreamFrame → Except Err Nat
  | stream f => .ok (f.minLength + f.dataLen)
  | f => f.minLength

theorem stream_write_length (f : StreamFrame) (version : Int) :
    Yields (fun bytes => bytes.length = f.minLength + f.dataLen) (f.write version) := by
  unfold StreamFrame.write
  split
  · exact yields_error _
  · refine (yields_ok _).mpr ?_
    simp only [length_append, length_cons, length_writeUintN,
      StreamFrame.minLength, StreamFrame.dataLen]
    split <;> simp only [length_writeUintN, length_nil] <;> ring

theorem stopWaiting_write_length (f : StopWaitingFrame) (version : Int) :
    Yields (fun bytes => f.minLength = .ok bytes.length) (f.write version) := by
  unfold StopWaitingFrame.write
  split
  · exact yields_error _
  split
  · exact yields_error _
  split
  · next hlen =>
    have hpos : f.packetNumberLen ≠ 0 := by
      intro h
      simp [h] at hlen
    refine (yields_ok _).mpr ?_
    rw [StopWaitingFrame.minLength, if_neg hpos, length_cons, length_writeUintN, Nat.add_comm]
  · exact yields_error _

theorem addAddress_write_length (f : AddAddressFrame) (version : Int) :
    Yields (fun bytes => f.minLength = .ok bytes.length) (f.write version) := by
  unfold AddAddressFrame.write AddAddressFrame.minLength
  split
  · cases hip : f.addr.to4 with
    | none => exact yields_error _
    | some ip => exact (yields_ok _).mpr (by simp [(f.addr.to16_of_to4 hip).1])
  split
  · cases hip : f.addr.to16 with
    | none => exact yields_error _
    | some ip => exact (yields_ok _).mpr (by simp [f.addr.length_to16 hip])
  · exact yields_error _

theorem paths_write_length (f : PathsFrame) (version : Int) :
    Yields (fun bytes => bytes.length = 3 + 3 * f.numPaths) (f.write version) := by
  unfold PathsFrame.write
  split
  · exact yields_error _
  split
  · exact yields_error _
  next hnum hrtts =>
  refine (yields_ok _).mpr ?_
  have hlen : (f.pathIDs.zip f.remoteRTTs).length = f.numPaths := by
    rw [length_zip]
    omega
  have hentries : ∀ entries : List (Nat × Int), (entries.map fun e => (UInt8.ofNat e.1 ::
      (getByteOrder version).writeUfloat16 (e.2.tdiv 1000 % 2 ^ 64).toNat)).flatten.length =
      3 * entries.length := by
    intro entries
    induction entries with
    | nil => rfl
    | cons e entries ih =>
      simp only [map_cons, flatten_cons, length_append, length_cons,
        writeUfloat16, length_writeUintN] at ih ⊢
      omega
  have hbytes := hentries (f.pathIDs.zip f.remoteRTTs)
  simp only [length_cons]
  rw [hbytes, hlen]
  ring

/-- **The announced length of a frame is the number of bytes written exactly if** it is not a
PATHS frame for more than 84 paths. -/
theorem announced_length_exact_iff (f : Frame StreamFrame) (version now : Int) (bytes : List Byte)
    (hwrite : f.write version now = .ok bytes) :
    f.announcedLength = .ok bytes.length ↔ ∀ paths, f = .paths paths → paths.numPaths ≤ 84 := by
  have hother : (∀ paths, f ≠ .paths paths) → f.announcedLength = .ok bytes.length →
      (f.announcedLength = .ok bytes.length ↔
        ∀ paths, f = .paths paths → paths.numPaths ≤ 84) :=
    fun hne h => iff_of_true h fun paths hf => absurd hf (hne paths)
  cases f with
  | paths f =>
    have hlen : bytes.length = 3 + 3 * f.numPaths := (paths_write_length f version).value _ hwrite
    simp only [announcedLength, Frame.minLength, PathsFrame.minLength, hlen, Except.ok.injEq,
      Frame.paths.injEq, forall_eq']
    omega
  | stream f =>
    refine hother (by simp) (congrArg Except.ok ?_)
    exact ((stream_write_length f version).value _ hwrite).symm
  | ack f =>
    refine hother (by simp) (congrArg Except.ok ?_)
    exact ((f.write_length version now).value _ hwrite).symm
  | closePath f =>
    refine hother (by simp) (congrArg Except.ok ?_)
    exact ((f.write_length version).value _ hwrite).symm
  | stopWaiting f =>
    exact hother (by simp) ((stopWaiting_write_length f version).value _ hwrite)
  | addAddress f =>
    exact hother (by simp) ((addAddress_write_length f version).value _ hwrite)
  | connectionClose f =>
    refine hother (by simp) (congrArg Except.ok ?_)
    have hlen : Yields (fun bytes => 1 + 4 + 2 + f.reasonPhrase.length = bytes.length)
        (f.write version) := by
      unfold ConnectionCloseFrame.write
      dsimp only
      split
      · exact yields_error _
      · refine (yields_ok _).mpr ?_
        simp only [length_append, length_cons, length_writeUintN]
    exact hlen.value _ hwrite
  | goaway f =>
    obtain rfl := Except.ok.inj hwrite
    exact hother (by simp) (congrArg Except.ok (by simp [GoawayFrame.write]; ring))
  | rstStream f =>
    obtain rfl := Except.ok.inj hwrite
    exact hother (by simp) (congrArg Except.ok (by simp [RstStreamFrame.write]))
  | windowUpdate f =>
    obtain rfl := Except.ok.inj hwrite
    exact hother (by simp) (congrArg Except.ok (by simp [WindowUpdateFrame.write]))
  | blocked f =>
    obtain rfl := Except.ok.inj hwrite
    exact hother (by simp) (congrArg Except.ok (by simp [BlockedFrame.write]))
  | ping =>
    obtain rfl := Except.ok.inj hwrite
    exact hother (by simp) rfl

/-- A PATHS frame for the paths `0, …, n - 1`, all without an RTT. -/
def pathsFrame (n : Nat) : Frame StreamFrame :=
  .paths { maxNumPaths := 255, numPaths := n, pathIDs := range n
           remoteRTTs := replicate n 0 }

/-- Nine bytes for two paths. -/
theorem announced_length_exact_two_paths :
    (pathsFrame 2).write versionMP 0 = .ok [0x12, 255, 2, 0, 0, 0, 1, 0, 0] ∧
      (pathsFrame 2).announcedLength = .ok 9 := by
  have hwrite : (pathsFrame 2).write versionMP 0 = .ok [0x12, 255, 2, 0, 0, 0, 1, 0, 0] := by
    decide +kernel
  refine ⟨hwrite, (announced_length_exact_iff (pathsFrame 2) versionMP 0 _ hwrite).mpr ?_⟩
  intro paths hpaths
  obtain rfl := Frame.paths.inj hpaths
  decide

/-- 258 bytes for 85 paths, of which 2 are announced. -/
theorem paths_frame_announces_too_little :
    ((pathsFrame 85).write versionMP 0).toOption.map length = some 258 ∧
      (pathsFrame 85).announcedLength = .ok 2 := by
  decide +kernel

end Frame
end MpQuic
