import Mathlib.Data.List.Basic
import MpQuic.Protocol

/-!
# STREAM frames (`internal/wire/stream_frame.go`)
-/
namespace MpQuic
open List

/-- `wire.StreamFrame`. -/
structure StreamFrame where
  streamID : Nat
  finBit : Bool
  dataLenPresent : Bool
  offset : Nat
  data : List Byte
  deriving DecidableEq, Repr

namespace StreamFrame

/-- `StreamFrame.DataLen`. -/
def dataLen (f : StreamFrame) : Nat := f.data.length

/-- The offset behind the last byte of the frame. -/
def stop (f : StreamFrame) : Nat := f.offset + f.dataLen

/-- The frame without its first `n` bytes. -/
def cutFront (f : StreamFrame) (n : Nat) : StreamFrame :=
  { f with offset := f.offset + n, data := f.data.drop n }

/-- The frame with its first `n` bytes only. -/
def keepFront (f : StreamFrame) (n : Nat) : StreamFrame :=
  { f with data := f.data.take n }

@[simp] theorem cutFront_offset (f : StreamFrame) (n : Nat) :
    (f.cutFront n).offset = f.offset + n := rfl

@[simp] theorem cutFront_finBit (f : StreamFrame) (n : Nat) :
    (f.cutFront n).finBit = f.finBit := rfl

@[simp] theorem cutFront_dataLen (f : StreamFrame) (n : Nat) :
    (f.cutFront n).dataLen = f.dataLen - n := length_drop

theorem cutFront_stop (f : StreamFrame) {n : Nat} (h : n ≤ f.dataLen) :
    (f.cutFront n).stop = f.stop := by
  rw [stop, stop, cutFront_offset, cutFront_dataLen]
  omega

@[simp] theorem keepFront_offset (f : StreamFrame) (n : Nat) :
    (f.keepFront n).offset = f.offset := rfl

@[simp] theorem keepFront_finBit (f : StreamFrame) (n : Nat) :
    (f.keepFront n).finBit = f.finBit := rfl

@[simp] theorem keepFront_dataLen (f : StreamFrame) (n : Nat) :
    (f.keepFront n).dataLen = min n f.dataLen := length_take

/-- The bytes of the frame are the bytes of the stream `content` at its offset. -/
def AgreesWith (content : Nat → Byte) (f : StreamFrame) : Prop :=
  f.data = (range f.dataLen).map fun i => content (f.offset + i)

instance (content : Nat → Byte) (f : StreamFrame) : Decidable (f.AgreesWith content) :=
  inferInstanceAs (Decidable (f.data = (range f.dataLen).map fun i => content (f.offset + i)))

variable {content : Nat → Byte} {f : StreamFrame}

theorem AgreesWith.cutFront (h : f.AgreesWith content) (n : Nat) :
    (f.cutFront n).AgreesWith content := by
  unfold AgreesWith at h ⊢
  rw [cutFront_dataLen, cutFront_offset]
  refine ext_getElem (by simp [StreamFrame.cutFront, dataLen]) fun i hi _ => ?_
  have hi' : n + i < f.data.length := by
    have hlen : i < (f.data.drop n).length := hi
    rw [length_drop] at hlen
    omega
  have hget := getElem_of_eq h hi'
  simp only [getElem_map, getElem_range] at hget
  simpa [StreamFrame.cutFront, Nat.add_assoc] using hget

theorem AgreesWith.keepFront (h : f.AgreesWith content) (n : Nat) :
    (f.keepFront n).AgreesWith content := by
  unfold AgreesWith at h ⊢
  rw [keepFront_dataLen, keepFront_offset]
  change f.data.take n = _
  rw [h, ← map_take, take_range]

/-- The frame without its bytes below `start`. -/
def trimFront (f : StreamFrame) (start : Nat) : StreamFrame :=
  if f.offset < start then f.cutFront (start - f.offset) else f

/-- The frame without its bytes from `stop` on. -/
def trimBack (f : StreamFrame) (stop : Nat) : StreamFrame :=
  if stop < f.stop then f.keepFront (f.dataLen - (f.stop - stop)) else f

theorem trimFront_offset (f : StreamFrame) (start : Nat) :
    (f.trimFront start).offset = max f.offset start := by
  unfold trimFront
  split
  · rw [cutFront_offset]
    omega
  · omega

theorem trimFront_stop {start : Nat} (h : start ≤ f.stop) : (f.trimFront start).stop = f.stop := by
  unfold trimFront
  split
  · rw [stop] at h
    exact f.cutFront_stop (by omega)
  · rfl

@[simp] theorem trimFront_finBit (f : StreamFrame) (start : Nat) :
    (f.trimFront start).finBit = f.finBit := by
  unfold trimFront
  split <;> rfl

theorem AgreesWith.trimFront (h : f.AgreesWith content) (start : Nat) :
    (f.trimFront start).AgreesWith content := by
  unfold StreamFrame.trimFront
  split
  · exact h.cutFront _
  · exact h

@[simp] theorem trimBack_offset (f : StreamFrame) (stop : Nat) :
    (f.trimBack stop).offset = f.offset := by
  unfold trimBack
  split <;> rfl

theorem trimBack_stop {stop : Nat} (h : f.offset ≤ stop) :
    (f.trimBack stop).stop = min f.stop stop := by
  unfold trimBack
  split
  · unfold StreamFrame.stop at *
    rw [keepFront_offset, keepFront_dataLen]
    omega
  · omega

@[simp] theorem trimBack_finBit (f : StreamFrame) (stop : Nat) :
    (f.trimBack stop).finBit = f.finBit := by
  unfold trimBack
  split <;> rfl

theorem AgreesWith.trimBack (h : f.AgreesWith content) (stop : Nat) :
    (f.trimBack stop).AgreesWith content := by
  unfold StreamFrame.trimBack
  split
  · exact h.keepFront _
  · exact h

end StreamFrame
end MpQuic
