import MpQuic.StrictAcks

/-!
# Unpacking never panics

The parsers of the other frames only read and compare, so `Unpack` returns an error
for every payload that is not a sequence of frames, whatever bytes it consists of.
-/
namespace MpQuic
open Systems

namespace Parser

theorem Quiet.ite {α : Type} {c : Prop} [Decidable c] {x y : Parser α} (hx : Quiet x)
    (hy : Quiet y) : Quiet (if c then x else y) := by
  by_cases hc : c
  · rw [if_pos hc]
    exact hx
  · rw [if_neg hc]
    exact hy

/-- A check that may end a parser. -/
theorem quiet_check {α β : Type} {c : Prop} [Decidable c] {e : Err} (he : e.isPanic = false)
    (k : β → Parser α) {x : Parser α} (hx : Quiet x) :
    Quiet (if c then (throw e : Parser β) >>= k else x) :=
  .ite ⟨fun _ => (failsOnly_error e).mpr he⟩ hx

theorem quiet_get : Quiet get := ⟨fun _ => failsOnly_ok _⟩

theorem quiet_parseStreamFrame (version : Int) : Quiet (parseStreamFrame version) := by
  refine quiet_readByte.andThen fun typeByte => (quiet_readUintN _ _).andThen fun streamID =>
    (quiet_readUintN _ _).andThen fun offset => ?_
  split
  · refine (quiet_readUintN _ _).andThen fun dataLen => quiet_check rfl _ ?_
    exact quiet_get.andThen fun left => (quiet_readFull _).andThen fun data =>
      quiet_check rfl _ (quiet_check rfl _ (quiet_pure _))
  · refine (quiet_pure 0).andThen fun dataLen => quiet_check rfl _ ?_
    exact quiet_get.andThen fun left => (quiet_readFull _).andThen fun data =>
      quiet_check rfl _ (quiet_check rfl _ (quiet_pure _))

theorem quiet_parseStopWaitingFrame (packetNumber packetNumberLen : Nat) (version : Int) :
    Quiet (parseStopWaitingFrame packetNumber packetNumberLen version) :=
  quiet_readByte.andThen fun _ => (quiet_readUintN _ _).andThen fun _ =>
    quiet_check rfl _ (quiet_pure _)

theorem quiet_parseRstStreamFrame (version : Int) : Quiet (parseRstStreamFrame version) :=
  quiet_readByte.andThen fun _ => (quiet_readUintN _ _).andThen fun _ =>
    (quiet_readUintN _ _).andThen fun _ => (quiet_readUintN _ _).andThen fun _ => quiet_pure _

theorem quiet_parseWindowUpdateFrame (version : Int) : Quiet (parseWindowUpdateFrame version) :=
  quiet_readByte.andThen fun _ => (quiet_readUintN _ _).andThen fun _ =>
    (quiet_readUintN _ _).andThen fun _ => quiet_pure _

theorem quiet_parseBlockedFrame (version : Int) : Quiet (parseBlockedFrame version) :=
  quiet_readByte.andThen fun _ => (quiet_readUintN _ _).andThen fun _ => quiet_pure _

theorem quiet_parseReasonPhrase (o : ByteOrder) : Quiet (parseReasonPhrase o) :=
  (quiet_readUintN _ _).andThen fun _ => quiet_check rfl _ (quiet_readFull _)

theorem quiet_parseGoawayFrame (version : Int) : Quiet (parseGoawayFrame version) :=
  quiet_readByte.andThen fun _ => (quiet_readUintN _ _).andThen fun _ =>
    (quiet_readUintN _ _).andThen fun _ => (quiet_parseReasonPhrase _).andThen fun _ => quiet_pure _

theorem quiet_parseConnectionCloseFrame (version : Int) :
    Quiet (parseConnectionCloseFrame version) :=
  quiet_readByte.andThen fun _ => (quiet_readUintN _ _).andThen fun _ =>
    (quiet_parseReasonPhrase _).andThen fun _ => quiet_pure _

theorem quiet_parseAddAddressFrame (version : Int) : Quiet (parseAddAddressFrame version) := by
  refine quiet_readByte.andThen fun _ => quiet_readByte.andThen fun ipVersion => ?_
  have hport (ip : List Byte) : Quiet (do
      let port ← readUintN (getByteOrder version) 2
      pure ({ ipVersion := ipVersion.toNat, addr := { ip, port } } : AddAddressFrame)) :=
    (quiet_readUintN _ _).andThen fun _ => quiet_pure _
  dsimp only
  split
  · exact ((quiet_readFull 4).andThen fun _ => quiet_pure _).andThen hport
  split
  · exact (quiet_readFull 16).andThen hport
  · exact (quiet_throw rfl).andThen hport

theorem quiet_parsePathEntries (o : ByteOrder) (n : Nat) : Quiet (parsePathEntries o n) := by
  induction n with
  | zero => exact quiet_pure _
  | succ n ih =>
    rw [parsePathEntries]
    exact quiet_readByte.andThen fun _ => (quiet_readUfloat16 _).andThen fun _ =>
      ih.andThen fun _ => quiet_pure _

theorem quiet_parsePathsFrame (version : Int) : Quiet (parsePathsFrame version) :=
  quiet_readByte.andThen fun _ => quiet_readByte.andThen fun _ => quiet_readByte.andThen fun _ =>
    quiet_check rfl _ ((quiet_parsePathEntries _ _).andThen fun _ => quiet_pure _)

theorem quiet_parseFrame (version : Int) (level : EncryptionLevel)
    (packetNumber packetNumberLen : Nat) (typeByte : Byte) :
    Quiet (parseFrame version level packetNumber packetNumberLen typeByte) := by
  rw [parseFrame]
  refine .ite ((quiet_parseStreamFrame _).andThen fun f => ?_) ?_
  · exact quiet_check (e := .unencryptedStreamData f.streamID) rfl _ (quiet_pure _)
  refine .ite ((quiet_parseAckFrame _).andThen fun _ => quiet_pure _) ?_
  refine .ite (quiet_throw rfl) ?_
  refine .ite ((quiet_parseRstStreamFrame _).andThen fun _ => quiet_pure _) ?_
  refine .ite ((quiet_parseConnectionCloseFrame _).andThen fun _ => quiet_pure _) ?_
  refine .ite ((quiet_parseGoawayFrame _).andThen fun _ => quiet_pure _) ?_
  refine .ite ((quiet_parseWindowUpdateFrame _).andThen fun _ => quiet_pure _) ?_
  refine .ite ((quiet_parseBlockedFrame _).andThen fun _ => quiet_pure _) ?_
  refine .ite ((quiet_parseStopWaitingFrame _ _ _).andThen fun _ => quiet_pure _) ?_
  refine .ite (quiet_readByte.andThen fun _ => quiet_pure _) ?_
  refine .ite ((quiet_parseAddAddressFrame _).andThen fun _ => quiet_pure _) ?_
  refine .ite ((quiet_parseClosePathFrame _).andThen fun _ => quiet_pure _) ?_
  exact .ite ((quiet_parsePathsFrame _).andThen fun _ => quiet_pure _) (quiet_throw rfl)

theorem parseFrames_quiet (version : Int) (level : EncryptionLevel)
    (packetNumber packetNumberLen fuel : Nat) (bs : List Byte) :
    FailsOnly (·.isPanic = false)
      (parseFrames version level packetNumber packetNumberLen fuel bs) := by
  induction fuel generalizing bs with
  | zero =>
    cases bs with
    | nil => exact failsOnly_ok _
    | cons typeByte rest => exact (failsOnly_error _).mpr rfl
  | succ fuel ih =>
    cases bs with
    | nil => exact failsOnly_ok _
    | cons typeByte rest =>
      rw [parseFrames]
      split
      · exact ih rest
      · refine ((quiet_parseFrame ..).fails _).bind fun r _ => ?_
        exact (ih r.2).bind fun _ _ => failsOnly_pure _

end Parser

/-- **`Unpack` never panics.** -/
theorem unpack_quiet (version : Int) (packetNumber packetNumberLen : Nat)
    (opened : Option (List Byte × EncryptionLevel)) :
    FailsOnly (·.isPanic = false) (unpack version packetNumber packetNumberLen opened) := by
  rcases opened with _ | ⟨_ | ⟨typeByte, rest⟩, level⟩
  · exact (failsOnly_error _).mpr rfl
  · exact (failsOnly_error _).mpr rfl
  · exact Parser.parseFrames_quiet ..

end MpQuic
