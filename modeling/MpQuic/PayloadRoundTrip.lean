import MpQuic.AckRoundTrip

/-!
# Payloads on the wire

The frames of a packet are written one behind the other, and `Unpack` reads frame
after frame until nothing is left.  A frame is told by its first byte, and its end
by what its parser reads, so everything rests on the single frames: `ReadBack` says
of a written frame that its parser takes exactly its bytes, whatever follows them.

Some frames are written although they cannot be read back.  `Frame.Readable` is the
exact condition on a frame; a payload is read back if and only if all of its frames
meet it.
-/
namespace MpQuic
open Systems List ByteOrder

/-! ## What may be lost -/

/-- `value` after a passage through the 16 bits of `WriteUfloat16`: too large by nothing, too small
by less than one part in 2048, or the largest value there is. -/
def Rounded (value rounded : Nat) : Prop :=
  (rounded = maxUfloat16 ∧ maxUfloat16 ≤ value) ∨
    (rounded ≤ value ∧ (value - rounded) * 2 ^ 11 ≤ value)

theorem rounded_ufloat16 (v : Nat) :
    Rounded v (ofUfloat16 (ufloat16 v)) := by
  by_cases h : maxUfloat16 ≤ v
  · exact .inl ⟨by rw [ufloat16_of_ge h]; decide, h⟩
  · obtain ⟨hle, -, herror⟩ := ufloat16_encloses (not_le.mp h)
    refine .inr ⟨hle, ?_⟩
    omega

/-- A duration as `uint64(d / time.Microsecond)`. -/
def microseconds (d : Int) : Nat := (d.tdiv 1000 % 2 ^ 64).toNat

namespace Frame

/-- A received frame that is the sent one up to what the format cannot carry: delays and RTTs are
rounded, an ACK keeps the ranges that fit, STOP_WAITING loses the number of its packet and an
address the choice between its two forms. -/
def SameFrame (now : Int) : Frame StreamFrame → Frame StreamFrame → Prop
  | ack f, ack f' => f'.toAckedPackets = f.top ∧
      ∃ us : Nat, Rounded (f.delayAt now) us ∧ f'.delayTime = us * 1000
  | closePath f, closePath f' => f'.toAckedPackets = f.top
  | stopWaiting f, stopWaiting f' => f'.leastUnacked = f.leastUnacked
  | addAddress f, addAddress f' =>
      f'.ipVersion = f.ipVersion ∧ f'.addr.to16 = f.addr.to16 ∧ f'.addr.port = f.addr.port
  | paths f, paths f' => f'.maxNumPaths = f.maxNumPaths ∧ f'.numPaths = f.numPaths ∧
      f'.pathIDs = f.pathIDs ∧ List.Forall₂
        (fun rtt rtt' => ∃ us : Nat, Rounded (microseconds rtt) us ∧ rtt' = (us : Int) * 1000)
        f.remoteRTTs f'.remoteRTTs
  | f, f' => f' = f

/-- The fields have the widths of their Go types. -/
def WellTyped : Frame StreamFrame → Prop
  | stream f => f.streamID < 2 ^ 32 ∧ f.offset < 2 ^ 64
  | ack f => f.pathID < 2 ^ 8
  | closePath f => f.pathID < 2 ^ 8
  | rstStream f => f.streamID < 2 ^ 32 ∧ f.byteOffset < 2 ^ 64 ∧ f.errorCode < 2 ^ 32
  | windowUpdate f => f.streamID < 2 ^ 32 ∧ f.byteOffset < 2 ^ 64
  | blocked f => f.streamID < 2 ^ 32
  | goaway f => f.errorCode < 2 ^ 32 ∧ f.lastGoodStream < 2 ^ 32
  | connectionClose f => f.errorCode < 2 ^ 32
  | paths f => f.maxNumPaths < 2 ^ 8 ∧ f.numPaths < 2 ^ 8 ∧ ∀ id ∈ f.pathIDs, id < 2 ^ 8
  | stopWaiting _ | addAddress _ | ping => True

/-- The frames that are read back: stream data within the offsets there are and not in the clear,
acknowledgments whose topmost ranges are valid and start at packet 1 or later, a STOP_WAITING
whose delta fits, a port, and no more paths than announced. -/
def Readable (level : EncryptionLevel) : Frame StreamFrame → Prop
  | stream f => f.offset + f.data.length < 2 ^ 64 ∧ (f.streamID = 1 ∨ ¬level ≤ .unencrypted)
  | ack f => f.top.Readable
  | closePath f => f.top.Readable
  | stopWaiting f => 1 ≤ f.leastUnacked ∧ f.packetNumber - f.leastUnacked < 256 ^ f.packetNumberLen
  | addAddress f => f.addr.port < 2 ^ 16
  | paths f => f.numPaths ≤ f.maxNumPaths
  | _ => True

/-- A STREAM frame without a data length, which extends to the end of the packet. -/
def OpenEnded : Frame StreamFrame → Prop
  | stream f => f.dataLenPresent = false
  | _ => False

end Frame

/-! ## Single frames -/

namespace Parser

/-- One frame, chosen by the byte it starts with. -/
def nextFrame (version : Int) (level : EncryptionLevel) (packetNumber packetNumberLen : Nat) :
    Parser (Frame StreamFrame) := fun bs =>
  match bs with
  | [] => .error .eof
  | typeByte :: _ => parseFrame version level packetNumber packetNumberLen typeByte bs

section
variable (version now : Int) (level : EncryptionLevel) (packetNumber packetNumberLen : Nat)

/-- A written frame is recognised and read back if it is readable, and only then. -/
structure ReadBack (f : Frame StreamFrame) (bytes : List Byte) : Prop where
  start : ∃ b bs, bytes = b :: bs ∧ b ≠ 0
  read : f.Readable level → ∀ rest, (f.OpenEnded → rest = []) →
    (bytes ++ rest).length ≤ maxPacketSize →
      ∃ f', nextFrame version level packetNumber packetNumberLen (bytes ++ rest) = .ok (f', rest) ∧
        f.SameFrame now f'
  readable : ∀ rest f' rest',
    nextFrame version level packetNumber packetNumberLen (bytes ++ rest) = .ok (f', rest') →
      f.SameFrame now f' → f.Readable level

variable {version now level packetNumber packetNumberLen} {bytes : List Byte}

/-- Frames that are read back whatever they contain. -/
theorem ReadBack.of_read {f : Frame StreamFrame} (hstart : ∃ b bs, bytes = b :: bs ∧ b ≠ 0)
    (hreadable : f.Readable level)
    (hread : ∀ rest, (bytes ++ rest).length ≤ maxPacketSize →
      nextFrame version level packetNumber packetNumberLen (bytes ++ rest) = .ok (f, rest))
    (hsame : f.SameFrame now f) : ReadBack version now level packetNumber packetNumberLen f bytes :=
  ⟨hstart, fun _ rest _ hlen => ⟨f, hread rest hlen, hsame⟩, fun _ _ _ _ _ => hreadable⟩

theorem readBack_ping :
    ReadBack version now level packetNumber packetNumberLen .ping [0x07] :=
  .of_read ⟨_, _, rfl, by decide⟩ trivial (fun _ _ => rfl) rfl

/-- Frames with a type byte of their own, read back whatever they contain. -/
theorem ReadBack.of_parse {α : Type} {x : Parser α} {a : α} {wrap : α → Frame StreamFrame}
    {b : Byte} (hbytes : ∃ bs, bytes = b :: bs) (hb : b ≠ 0) (hreadable : (wrap a).Readable level)
    (hnext : ∀ bs, nextFrame version level packetNumber packetNumberLen (b :: bs) =
      (do return wrap (← x) : Parser _) (b :: bs))
    (hread : ∀ rest, (bytes ++ rest).length ≤ maxPacketSize → x (bytes ++ rest) = .ok (a, rest))
    (hsame : (wrap a).SameFrame now (wrap a)) :
    ReadBack version now level packetNumber packetNumberLen (wrap a) bytes := by
  obtain ⟨bs, rfl⟩ := hbytes
  refine .of_read ⟨b, bs, rfl, hb⟩ hreadable (fun rest hlen => ?_) hsame
  have hx := hread rest hlen
  rw [cons_append] at hx ⊢
  rw [hnext, bind_of_ok hx]
  rfl

theorem readBack_blocked {f : BlockedFrame} (hf : (Frame.blocked f).WellTyped) :
    ReadBack version now level packetNumber packetNumberLen (.blocked f) (f.write version) := by
  refine .of_parse (x := parseBlockedFrame version) ⟨_, rfl⟩ (by decide) trivial (fun _ => rfl)
    (fun rest _ => ?_) rfl
  unfold parseBlockedFrame BlockedFrame.write
  rw [cons_append, bind_of_ok (readByte_cons ..), bind_of_ok (readUintN_append _ hf _)]
  rfl

theorem readBack_windowUpdate {f : WindowUpdateFrame} (hf : (Frame.windowUpdate f).WellTyped) :
    ReadBack version now level packetNumber packetNumberLen (.windowUpdate f)
      (f.write version) := by
  obtain ⟨hid, hoffset⟩ := hf
  refine .of_parse (x := parseWindowUpdateFrame version) ⟨_, rfl⟩ (by decide) trivial (fun _ => rfl)
    (fun rest _ => ?_) rfl
  unfold parseWindowUpdateFrame WindowUpdateFrame.write
  simp only [cons_append, append_assoc]
  rw [bind_of_ok (readByte_cons ..), bind_of_ok (readUintN_append _ hid _),
    bind_of_ok (readUintN_append _ hoffset _)]
  rfl

theorem readBack_rstStream {f : RstStreamFrame} (hf : (Frame.rstStream f).WellTyped) :
    ReadBack version now level packetNumber packetNumberLen (.rstStream f) (f.write version) := by
  obtain ⟨hid, hoffset, hcode⟩ := hf
  refine .of_parse (x := parseRstStreamFrame version) ⟨_, rfl⟩ (by decide) trivial (fun _ => rfl)
    (fun rest _ => ?_) rfl
  unfold parseRstStreamFrame RstStreamFrame.write
  simp only [cons_append, append_assoc]
  rw [bind_of_ok (readByte_cons ..), bind_of_ok (readUintN_append _ hid _),
    bind_of_ok (readUintN_append _ hoffset _),
    bind_of_ok (readUintN_append _ hcode _)]
  rfl

theorem parseReasonPhrase_append (o : ByteOrder) {phrase : List Byte}
    (h : phrase.length ≤ maxPacketSize) (rest : List Byte) :
    parseReasonPhrase o (o.writeUintN 2 phrase.length ++ (phrase ++ rest)) =
      .ok (phrase, rest) := by
  have hlt : phrase.length < 256 ^ 2 := h.trans_lt (by decide)
  unfold parseReasonPhrase
  rw [bind_of_ok (readUintN_append o hlt _), if_neg (by omega)]
  exact readFull_append phrase rest

theorem readBack_goaway {f : GoawayFrame} (hf : (Frame.goaway f).WellTyped) :
    ReadBack version now level packetNumber packetNumberLen (.goaway f) (f.write version) := by
  obtain ⟨hcode, hlast⟩ := hf
  refine .of_parse (x := parseGoawayFrame version) ⟨_, rfl⟩ (by decide) trivial (fun _ => rfl)
    (fun rest hlen => ?_) rfl
  have hphrase : f.reasonPhrase.length ≤ maxPacketSize := by
    simp only [GoawayFrame.write, cons_append, length_cons, length_append] at hlen
    omega
  unfold parseGoawayFrame GoawayFrame.write
  simp only [cons_append, append_assoc]
  rw [bind_of_ok (readByte_cons ..), bind_of_ok (readUintN_append _ hcode _),
    bind_of_ok (readUintN_append _ hlast _), bind_of_ok (parseReasonPhrase_append _ hphrase _)]
  rfl

theorem readBack_connectionClose {f : ConnectionCloseFrame}
    (hf : (Frame.connectionClose f).WellTyped) (hwrite : f.write version = .ok bytes) :
    ReadBack version now level packetNumber packetNumberLen (.connectionClose f) bytes := by
  unfold ConnectionCloseFrame.write at hwrite
  dsimp only at hwrite
  split at hwrite
  · cases hwrite
  obtain rfl := Except.ok.inj hwrite
  refine .of_parse (x := parseConnectionCloseFrame version) ⟨_, rfl⟩ (by decide) trivial
    (fun _ => rfl)
    (fun rest hlen => ?_) rfl
  have hphrase : f.reasonPhrase.length ≤ maxPacketSize := by
    simp only [cons_append, length_cons, length_append] at hlen
    omega
  unfold parseConnectionCloseFrame
  simp only [cons_append, append_assoc]
  rw [bind_of_ok (readByte_cons ..), bind_of_ok (readUintN_append _ hf _),
    bind_of_ok (parseReasonPhrase_append _ hphrase _)]
  rfl

/-! ## STOP_WAITING -/

theorem nextFrame_stopWaiting (v : Nat) (rest : List Byte) :
    nextFrame version level packetNumber packetNumberLen
        (0x06 :: (getByteOrder version).writeUintN packetNumberLen v ++ rest) =
      if packetNumber ≤ v % 256 ^ packetNumberLen then .error .invalidLeastUnackedDelta
      else .ok (.stopWaiting { leastUnacked := packetNumber - v % 256 ^ packetNumberLen },
        rest) := by
  change (parseStopWaitingFrame packetNumber packetNumberLen version >>= _) _ = _
  unfold parseStopWaitingFrame
  rw [cons_append, bind_assoc, bind_of_ok (readByte_cons ..), bind_assoc,
    bind_of_ok (readUintN_append_mod ..)]
  split <;> rfl

theorem readBack_stopWaiting {f : StopWaitingFrame} (hnumber : f.packetNumber = packetNumber)
    (hlen : f.packetNumberLen = packetNumberLen) (hwrite : f.write version = .ok bytes) :
    ReadBack version now level packetNumber packetNumberLen (.stopWaiting f) bytes := by
  unfold StopWaitingFrame.write at hwrite
  split at hwrite
  · cases hwrite
  split at hwrite
  · cases hwrite
  next hleast =>
  split at hwrite
  · obtain rfl := Except.ok.inj hwrite
    rw [hnumber] at hleast ⊢
    rw [hlen]
    refine ⟨⟨_, _, rfl, by decide⟩, ?_, ?_⟩
    · rintro ⟨hone, hlt⟩ rest - -
      rw [hnumber, hlen] at hlt
      refine ⟨.stopWaiting { leastUnacked := packetNumber - (packetNumber - f.leastUnacked) }, ?_,
        ?_⟩
      · rw [nextFrame_stopWaiting, Nat.mod_eq_of_lt hlt, if_neg (by omega)]
      · change packetNumber - (packetNumber - f.leastUnacked) = f.leastUnacked
        omega
    · intro rest f' rest' hread hsame
      rw [nextFrame_stopWaiting] at hread
      split at hread
      · cases hread
      next hdelta =>
      obtain ⟨rfl, -⟩ := Prod.mk.inj (Except.ok.inj hread)
      change packetNumber - _ = f.leastUnacked at hsame
      refine ⟨by omega, ?_⟩
      rw [hnumber, hlen]
      omega
  · cases hwrite

/-! ## PATHS -/

theorem parsePathEntries_append (o : ByteOrder) (entries : List (Nat × Int))
    (h : ∀ e ∈ entries, e.1 < 2 ^ 8) (rest : List Byte) :
    parsePathEntries o entries.length
        ((entries.map fun (pathID, rtt) =>
          UInt8.ofNat pathID :: o.writeUfloat16 (microseconds rtt)).flatten ++ rest) =
      .ok (entries.map fun (pathID, rtt) =>
        (pathID, (ofUfloat16 (ufloat16 (microseconds rtt)) : Int) * 1000),
        rest) := by
  induction entries with
  | nil => rfl
  | cons e entries ih =>
    obtain ⟨pathID, rtt⟩ := e
    have hbyte : (UInt8.ofNat pathID).toNat = pathID := by
      have := h (pathID, rtt) mem_cons_self
      rw [UInt8.toNat_ofNat']
      dsimp only at this
      omega
    have hrest := ih fun e he => h e (mem_cons_of_mem _ he)
    rw [length_cons, parsePathEntries, map_cons, flatten_cons, append_assoc]
    rw [cons_append, bind_of_ok (readByte_cons ..), bind_of_ok (readUfloat16_append ..),
      bind_of_ok hrest, hbyte]
    rfl

/-- A PATHS frame is read up to its entries. -/
theorem nextFrame_paths {maxNumPaths numPaths : Nat} (hmax : maxNumPaths < 2 ^ 8)
    (hnum : numPaths < 2 ^ 8) (tail : List Byte) :
    nextFrame version level packetNumber packetNumberLen
        (0x12 :: UInt8.ofNat maxNumPaths :: UInt8.ofNat numPaths :: tail) =
      if maxNumPaths < numPaths then .error .tooManyPaths
      else (do
        let entries ← parsePathEntries (getByteOrder version) numPaths
        return .paths { maxNumPaths, numPaths, pathIDs := entries.map (·.1),
                        remoteRTTs := entries.map (·.2) } : Parser _) tail := by
  have hmax' : (UInt8.ofNat maxNumPaths).toNat = maxNumPaths := by
    rw [UInt8.toNat_ofNat']
    omega
  have hnum' : (UInt8.ofNat numPaths).toNat = numPaths := by
    rw [UInt8.toNat_ofNat']
    omega
  change (parsePathsFrame version >>= _) _ = _
  unfold parsePathsFrame
  rw [bind_assoc, bind_of_ok (readByte_cons ..), bind_assoc, bind_of_ok (readByte_cons ..),
    bind_assoc, bind_of_ok (readByte_cons ..), hmax', hnum']
  by_cases hle : maxNumPaths < numPaths
  · simp only [if_pos hle]
    rfl
  · simp only [if_neg hle, bind_assoc, pure_bind]

theorem forall₂_rounded (rtts : List Int) :
    List.Forall₂ (fun rtt rtt' => ∃ us : Nat, Rounded (microseconds rtt) us ∧
        rtt' = (us : Int) * 1000) rtts
      (rtts.map fun rtt =>
        (ofUfloat16 (ufloat16 (microseconds rtt)) : Int) * 1000) := by
  rw [forall₂_map_right_iff, forall₂_same]
  exact fun rtt _ => ⟨_, rounded_ufloat16 _, rfl⟩

theorem readBack_paths {f : PathsFrame} (hf : (Frame.paths f).WellTyped)
    (hwrite : f.write version = .ok bytes) :
    ReadBack version now level packetNumber packetNumberLen (.paths f) bytes := by
  obtain ⟨hmax, hnum, hids⟩ := hf
  unfold PathsFrame.write at hwrite
  dsimp only at hwrite
  split at hwrite
  · cases hwrite
  next hcount =>
  split at hwrite
  · cases hwrite
  next hrtts =>
  obtain rfl := Except.ok.inj hwrite
  rw [not_not] at hcount hrtts
  refine ⟨⟨_, _, rfl, by decide⟩, ?_, ?_⟩
  · rintro hle rest - -
    have hentries := parsePathEntries_append (getByteOrder version)
      (f.pathIDs.zip f.remoteRTTs) (fun e he => hids e.1 (of_mem_zip he).1) rest
    rw [length_zip, ← hrtts, Nat.min_self, ← hcount] at hentries
    have hids' : ((f.pathIDs.zip f.remoteRTTs).map fun (pathID, rtt) => (pathID,
        (ofUfloat16 (ufloat16 (microseconds rtt)) : Int) * 1000)).map (·.1) =
        f.pathIDs := by
      rw [map_map]
      exact map_fst_zip hrtts.le
    have hrtts' : ((f.pathIDs.zip f.remoteRTTs).map fun (pathID, rtt) => (pathID,
        (ofUfloat16 (ufloat16 (microseconds rtt)) : Int) * 1000)).map (·.2) =
        f.remoteRTTs.map fun rtt =>
          (ofUfloat16 (ufloat16 (microseconds rtt)) : Int) * 1000 := by
      have hsnd := map_snd_zip hrtts.ge
      rw [map_map]
      nth_rewrite 2 [← hsnd]
      rw [map_map]
      rfl
    refine ⟨.paths { f with remoteRTTs := f.remoteRTTs.map fun rtt =>
      (ofUfloat16 (ufloat16 (microseconds rtt)) : Int) * 1000 }, ?_, rfl, rfl,
      rfl, forall₂_rounded f.remoteRTTs⟩
    rw [cons_append, cons_append, cons_append, nextFrame_paths hmax hnum,
      if_neg (not_lt.mpr hle)]
    refine (bind_of_ok hentries _).trans ?_
    rw [hids', hrtts']
    rfl
  · rintro rest f' rest' hread -
    rw [cons_append, cons_append, cons_append, nextFrame_paths hmax hnum] at hread
    split at hread
    · cases hread
    · next hle => exact not_lt.mp hle

/-! ## ADD_ADDRESS -/

/-- An ADD_ADDRESS frame is read up to its port. -/
theorem nextFrame_addAddress {v : Nat} (hv : v = 4 ∨ v = 6) {ip : List Byte}
    (hip : ip.length = if v = 4 then 4 else 16) (port : Nat) (rest : List Byte) :
    nextFrame version level packetNumber packetNumberLen
        (0x10 :: UInt8.ofNat v :: ip ++ (getByteOrder version).writeUintN 2 port ++ rest) =
      .ok (.addAddress
        { ipVersion := v
          addr := { ip := if v = 4 then UDPAddr.v4InV6Prefix ++ ip else ip
                    port := port % 256 ^ 2 } }, rest) := by
  have hport := readUintN_append_mod (getByteOrder version) 2 port rest
  change (parseAddAddressFrame version >>= _) _ = _
  unfold parseAddAddressFrame
  simp only [cons_append, append_assoc]
  rw [bind_assoc, bind_of_ok (readByte_cons ..), bind_assoc, bind_of_ok (readByte_cons ..)]
  rcases hv with rfl | rfl
  · have hread := readFull_append ip ((getByteOrder version).writeUintN 2 port ++ rest)
    rw [hip, if_pos rfl] at hread
    have hbyte : (UInt8.ofNat 4).toNat = 4 := rfl
    simp only [hbyte, if_true, bind_assoc]
    rw [bind_of_ok hread, pure_bind, bind_of_ok hport]
    rfl
  · have hread := readFull_append ip ((getByteOrder version).writeUintN 2 port ++ rest)
    rw [hip, if_neg (by decide)] at hread
    have hbyte : (UInt8.ofNat 6).toNat = 6 := rfl
    simp only [hbyte, if_true, bind_assoc, show ¬(6 = 4) by decide, if_false]
    rw [bind_of_ok hread, bind_of_ok hport]
    rfl

theorem readBack_addAddress {f : AddAddressFrame} (hwrite : f.write version = .ok bytes) :
    ReadBack version now level packetNumber packetNumberLen (.addAddress f) bytes := by
  obtain ⟨ip, hv, hip, hto16, rfl⟩ : ∃ ip, (f.ipVersion = 4 ∨ f.ipVersion = 6) ∧
      ip.length = (if f.ipVersion = 4 then 4 else 16) ∧
      (∀ port, (UDPAddr.mk (if f.ipVersion = 4 then UDPAddr.v4InV6Prefix ++ ip else ip) port).to16 =
        f.addr.to16) ∧
      bytes = 0x10 :: UInt8.ofNat f.ipVersion :: ip ++
        (getByteOrder version).writeUintN 2 f.addr.port := by
    unfold AddAddressFrame.write at hwrite
    dsimp only at hwrite
    split at hwrite
    · next hv =>
      rcases hto4 : f.addr.to4 with _ | ip
      · rw [hto4] at hwrite
        cases hwrite
      · rw [hto4] at hwrite
        obtain ⟨hlen, hsame⟩ := f.addr.to16_of_to4 hto4
        simp only [if_pos hv]
        exact ⟨ip, .inl hv, hlen, hsame, (Except.ok.inj hwrite).symm⟩
    split at hwrite
    · next hne hv =>
      rcases hto16 : f.addr.to16 with _ | ip
      · rw [hto16] at hwrite
        cases hwrite
      · rw [hto16] at hwrite
        have hlen := f.addr.length_to16 hto16
        simp only [if_neg hne]
        refine ⟨ip, .inr hv, hlen, fun port => ?_, (Except.ok.inj hwrite).symm⟩
        rw [UDPAddr.to16, if_neg (by rw [hlen]; decide), if_pos hlen]
    · cases hwrite
  refine ⟨⟨_, _, rfl, by decide⟩, ?_, ?_⟩
  · rintro hport rest - -
    have hport : f.addr.port % 256 ^ 2 = f.addr.port := Nat.mod_eq_of_lt hport
    rw [nextFrame_addAddress hv hip, hport]
    exact ⟨_, rfl, rfl, hto16 _, rfl⟩
  · intro rest f' rest' hread hsame
    rw [nextFrame_addAddress hv hip] at hread
    obtain ⟨rfl, -⟩ := Prod.mk.inj (Except.ok.inj hread)
    have hport : f.addr.port % 256 ^ 2 = f.addr.port := hsame.2.2
    change f.addr.port < 2 ^ 16
    omega

end

/-! ## STREAM -/

/-- The type byte of a STREAM frame. -/
def streamTypeByte (offsetLen idLen : Nat) (fin dataLen : Bool) : Byte :=
  (0x80 : Byte) ^^^ (if fin then 0x40 else 0 : Byte) ^^^ (if dataLen then 0x20 else 0 : Byte) ^^^
    (if 0 < offsetLen then UInt8.ofNat (offsetLen - 1) <<< 2 else 0) ^^^ UInt8.ofNat (idLen - 1)

/-- The fields of the type byte of a STREAM frame are read back. -/
theorem streamTypeByte_fields : ∀ offsetLen ∈ [0, 2, 3, 4, 5, 6, 7, 8], ∀ idLen ∈ [1, 2, 3, 4],
    ∀ fin dataLen : Bool,
      streamTypeByte offsetLen idLen fin dataLen &&& 0x80 = 0x80 ∧
      decide (0 < streamTypeByte offsetLen idLen fin dataLen &&& 0x40) = fin ∧
      decide (0 < streamTypeByte offsetLen idLen fin dataLen &&& 0x20) = dataLen ∧
      (if ((streamTypeByte offsetLen idLen fin dataLen &&& 0x1c) >>> 2).toNat ≠ 0 then
        ((streamTypeByte offsetLen idLen fin dataLen &&& 0x1c) >>> 2).toNat + 1 else 0) =
          offsetLen ∧
      (streamTypeByte offsetLen idLen fin dataLen &&& 0x3).toNat + 1 = idLen := by
  decide

theorem offsetLength_mem (f : StreamFrame) : f.getOffsetLength ∈ [0, 2, 3, 4, 5, 6, 7, 8] := by
  unfold StreamFrame.getOffsetLength
  split_ifs <;> simp

variable {f : StreamFrame} {version : Int}

theorem offset_lt (h : f.offset < 2 ^ 64) : f.offset < 256 ^ f.getOffsetLength := by
  unfold StreamFrame.getOffsetLength
  split_ifs <;> omega

theorem streamIDLength_mem (f : StreamFrame) : f.calculateStreamIDLength ∈ [1, 2, 3, 4] := by
  unfold StreamFrame.calculateStreamIDLength
  split_ifs <;> simp

theorem streamID_lt (h : f.streamID < 2 ^ 32) : f.streamID < 256 ^ f.calculateStreamIDLength := by
  unfold StreamFrame.calculateStreamIDLength
  split_ifs <;> omega

/-- A frame that ends where its data ends is read back by the stream parser. -/
theorem parseStreamFrame_write (hid : f.streamID < 2 ^ 32) (hoffset : f.offset < 2 ^ 64)
    (hend : f.offset + f.data.length < 2 ^ 64) {bytes : List Byte}
    (hwrite : f.write version = .ok bytes) (rest : List Byte)
    (hrest : f.dataLenPresent = false → rest = []) (hlen : (bytes ++ rest).length ≤ maxPacketSize) :
    parseStreamFrame version (bytes ++ rest) = .ok (f, rest) := by
  unfold StreamFrame.write at hwrite
  dsimp only at hwrite
  split at hwrite
  · cases hwrite
  next hempty =>
  obtain rfl := Except.ok.inj hwrite
  have hdata : f.data.length ≤ maxPacketSize := by
    simp only [length_append] at hlen
    omega
  have htype : f.typeByte = streamTypeByte f.getOffsetLength f.calculateStreamIDLength f.finBit
      f.dataLenPresent := rfl
  obtain ⟨-, hfin, hpresent, ho, hs⟩ := streamTypeByte_fields _ (offsetLength_mem f) _
    (streamIDLength_mem f) f.finBit f.dataLenPresent
  rw [← htype] at hfin hpresent ho hs
  unfold parseStreamFrame
  simp only [cons_append, append_assoc]
  rw [bind_of_ok (readByte_cons ..)]
  simp only [hfin, hpresent, ho, hs]
  rw [bind_of_ok (readUintN_append _ (streamID_lt hid) _),
    bind_of_ok (readUintN_append _ (offset_lt hoffset) _)]
  have hchecks : ¬2 ^ 64 ≤ f.offset + f.data.length ∧ ¬(f.finBit = false ∧ f.data.length = 0) :=
    ⟨not_le.mpr hend, fun h => hempty ⟨h.2, h.1⟩⟩
  have hget (bs : List Byte) : (get : Parser (List Byte)) bs = .ok (bs, bs) := rfl
  cases hp : f.dataLenPresent with
  | true =>
    have hfits : f.data.length < 256 ^ 2 := hdata.trans_lt (by decide)
    have hread := readFull_append f.data rest
    simp only [↓reduceIte]
    rw [bind_of_ok (readUintN_append _ hfits _), if_neg (not_lt.mpr hdata), bind_of_ok (hget _),
      bind_of_ok hread, if_neg hchecks.1, if_neg hchecks.2, ← hp]
    rfl
  | false =>
    have hmod : (f.data ++ []).length % 2 ^ 16 = f.data.length := by
      rw [append_nil]
      exact Nat.mod_eq_of_lt (hdata.trans_lt (by decide))
    have hread := readFull_append f.data []
    rw [hrest hp]
    simp only [Bool.false_eq_true, ↓reduceIte, nil_append, pure_bind]
    rw [if_neg (Nat.not_lt_zero _), bind_of_ok (hget _), hmod, bind_of_ok hread,
      if_neg hchecks.1, if_neg hchecks.2, ← hp]
    rfl

/-- The data of a parsed frame stays below the largest offset. -/
theorem parseStreamFrame_offset {bs rest : List Byte}
    (h : parseStreamFrame version bs = .ok (f, rest)) : f.offset + f.data.length < 2 ^ 64 := by
  obtain ⟨typeByte, _, -, h⟩ := bind_ok h
  obtain ⟨_, _, -, h⟩ := bind_ok h
  obtain ⟨_, _, -, h⟩ := bind_ok h
  dsimp only at h
  -- with and without a data length
  split at h
  all_goals
    obtain ⟨_, _, -, h⟩ := bind_ok h
    split at h
    · cases h
    obtain ⟨_, _, -, h⟩ := bind_ok h
    obtain ⟨data, _, -, h⟩ := bind_ok h
    split at h
    · cases h
    next hend =>
    split at h
    · cases h
    obtain ⟨rfl, -⟩ := Prod.mk.inj (Except.ok.inj h)
    exact not_le.mp hend

section
variable {version now : Int} {level : EncryptionLevel} {packetNumber packetNumberLen : Nat}
  {bytes : List Byte} {b : Byte}

theorem readBack_stream (hf : (Frame.stream f).WellTyped) (hwrite : f.write version = .ok bytes) :
    ReadBack version now level packetNumber packetNumberLen (.stream f) bytes := by
  obtain ⟨hid, hoffset⟩ := hf
  obtain ⟨b, bs, rfl, hb⟩ : ∃ b bs, bytes = b :: bs ∧ b &&& 0x80 = 0x80 := by
    unfold StreamFrame.write at hwrite
    dsimp only at hwrite
    split at hwrite
    · cases hwrite
    obtain rfl := Except.ok.inj hwrite
    exact ⟨_, _, rfl, (streamTypeByte_fields _ (offsetLength_mem f) _ (streamIDLength_mem f)
      f.finBit f.dataLenPresent).1⟩
  have hnext (rest : List Byte) : nextFrame version level packetNumber packetNumberLen
      (b :: bs ++ rest) = (do
        let f ← parseStreamFrame version
        if f.streamID ≠ 1 ∧ level ≤ .unencrypted then throw (.unencryptedStreamData f.streamID)
        return .stream f : Parser _) (b :: bs ++ rest) := by
    rw [cons_append, nextFrame, parseFrame, if_pos hb]
  refine ⟨⟨b, bs, rfl, ?_⟩, ?_, ?_⟩
  · rintro rfl
    exact absurd hb (by decide)
  · rintro ⟨hend, hlevel⟩ rest hrest hlen
    refine ⟨.stream f, ?_, rfl⟩
    rw [hnext, bind_of_ok (parseStreamFrame_write hid hoffset hend hwrite rest hrest hlen),
      if_neg (by tauto)]
    rfl
  · intro rest f' rest' hread hsame
    rw [hnext] at hread
    obtain ⟨g, bs', hg, hread⟩ := bind_ok hread
    split at hread
    · cases hread
    next hlevel =>
    obtain ⟨rfl, -⟩ := Prod.mk.inj (Except.ok.inj hread)
    obtain rfl : g = f := Frame.stream.inj hsame
    exact ⟨parseStreamFrame_offset hg, by tauto⟩

/-! ## ACK and CLOSE_PATH -/

theorem not_stream_of_ack (h : b &&& 0xc0 = 0x40) : ¬b &&& 0x80 = 0x80 := by
  have hzero : b &&& 0x80 = 0 := by
    calc b &&& 0x80 = (b &&& 0xc0) &&& 0x80 := by rw [UInt8.and_assoc]; rfl
      _ = 0 := by rw [h]; rfl
  rw [hzero]
  decide

/-- Frames that are written have the largest and the lowest packet of their ranges. -/
theorem consistent_of_write {f : AckedPackets} {o : ByteOrder} {cut : Bool}
    (h : f.writeRanges o cut = .ok bytes) : f.Consistent := by
  unfold AckedPackets.writeRanges at h
  dsimp only at h
  rcases hr : f.ackRanges with _ | ⟨r, rs⟩
  · constructor <;> simp [hr]
  obtain ⟨last, hlast⟩ : ∃ last, (r :: rs).getLast? = some last :=
    ⟨_, getLast?_eq_some_getLast (cons_ne_nil r rs)⟩
  rw [hr, hlast] at h
  dsimp only [head?_cons] at h
  split at h
  · cases h
  next hlargest =>
  split at h
  · cases h
  next hlowest =>
  rw [not_not] at hlargest hlowest
  constructor
  · intro r' hr'
    rw [hr] at hr'
    exact hlargest.trans (congrArg AckRange.last (Option.some.inj hr'))
  · intro r' hr'
    rw [hr, hlast] at hr'
    exact hlowest.trans (congrArg AckRange.first (Option.some.inj hr'))

/-- A frame that was read back as the part of it that fits is one that can be read back. -/
theorem readable_top_of_parsed {f g : AckedPackets} (hg : Parsed g) (hsame : g = f.top)
    (hlow : f.ackRanges = [] → g = f → 1 ≤ f.lowestAcked ∧ f.lowestAcked ≤ f.largestAcked) :
    f.top.Readable := by
  subst hsame
  refine ⟨hg.largest, hg.valid, hg.bounded, ?_⟩
  intro hnil
  have hr : f.ackRanges = [] := by
    rcases hr : f.ackRanges with _ | ⟨r, rs⟩
    · rfl
    · obtain ⟨below, hbelow⟩ := AckedPackets.top_cons hr
      simp [hbelow] at hnil
  have htop := AckedPackets.top_of_noRanges hr
  rw [htop]
  exact hlow hr htop

theorem readBack_ack {f : AckFrame} (hf : (Frame.ack f).WellTyped)
    (hwrite : f.write version now = .ok bytes) :
    ReadBack version now level packetNumber packetNumberLen (.ack f) bytes := by
  have hwrite' := hwrite
  rw [ack_write_eq] at hwrite'
  obtain ⟨ranges, hranges, hbytes⟩ := bind_eq_ok hwrite'
  obtain ⟨b, bs, rfl, hb⟩ : ∃ b bs, bytes = b :: bs ∧ b &&& 0xc0 = 0x40 := by
    obtain rfl := Except.ok.inj hbytes
    exact ⟨_, _, rfl, (ackTypeByte_fields _ (getPacketNumberLength_mem _) _
      (AckedPackets.deltaLen_mem _) _ _).1⟩
  have hnext (rest : List Byte) : nextFrame version level packetNumber packetNumberLen
      (b :: bs ++ rest) = (do return .ack (← parseAckFrame version) : Parser _)
        (b :: bs ++ rest) := by
    rw [cons_append, nextFrame, parseFrame, if_neg (not_stream_of_ack hb), if_pos hb]
  refine ⟨⟨b, bs, rfl, ?_⟩, ?_, ?_⟩
  · rintro rfl
    exact absurd hb (by decide)
  · rintro htop rest - -
    obtain ⟨bytes', hwrite', hread⟩ := ack_round_trip (consistent_of_write hranges) htop hf
      version now
    obtain rfl := Except.ok.inj (hwrite.symm.trans hwrite')
    refine ⟨.ack (f.received now), ?_, rfl, _, rounded_ufloat16 _, rfl⟩
    rw [hnext, bind_of_ok (hread rest)]
    rfl
  · intro rest f' rest' hread hsame
    rw [hnext] at hread
    obtain ⟨g, bs', hg, hread⟩ := bind_ok hread
    obtain ⟨rfl, -⟩ := Prod.mk.inj (Except.ok.inj hread)
    have hparsed := parseAckFrame_parsed hg
    have htop : g.toAckedPackets = f.top := hsame.1
    refine readable_top_of_parsed hparsed htop fun hr heq => ?_
    have hl := hparsed.largest
    rw [htop] at hl
    exact ack_lowest_of_read hf hl hr hwrite hg heq

theorem readBack_closePath {f : ClosePathFrame} (hf : (Frame.closePath f).WellTyped)
    (hwrite : f.write version = .ok bytes) :
    ReadBack version now level packetNumber packetNumberLen (.closePath f) bytes := by
  have hwrite' := hwrite
  rw [closePath_write_eq] at hwrite'
  obtain ⟨largest, -, hwrite'⟩ := bind_eq_ok hwrite'
  obtain ⟨ranges, hranges, hbytes⟩ := bind_eq_ok hwrite'
  obtain ⟨bs, rfl⟩ : ∃ bs, bytes = 0x11 :: bs := by
    obtain rfl := Except.ok.inj hbytes
    exact ⟨_, rfl⟩
  have hnext (rest : List Byte) : nextFrame version level packetNumber packetNumberLen
      (0x11 :: bs ++ rest) = (do return .closePath (← parseClosePathFrame version) : Parser _)
        (0x11 :: bs ++ rest) := rfl
  refine ⟨⟨_, _, rfl, by decide⟩, ?_, ?_⟩
  · rintro htop rest - -
    obtain ⟨bytes', hwrite', hread⟩ := closePath_round_trip (consistent_of_write hranges) htop hf
      version
    obtain rfl := Except.ok.inj (hwrite.symm.trans hwrite')
    refine ⟨.closePath { f.top with }, ?_, rfl⟩
    rw [hnext, bind_of_ok (hread rest)]
    rfl
  · intro rest f' rest' hread hsame
    rw [hnext] at hread
    obtain ⟨g, bs', hg, hread⟩ := bind_ok hread
    obtain ⟨rfl, -⟩ := Prod.mk.inj (Except.ok.inj hread)
    have hparsed := parseClosePathFrame_parsed hg
    have htop : g.toAckedPackets = f.top := hsame
    refine readable_top_of_parsed hparsed htop fun hr heq => ?_
    have hl := hparsed.largest
    rw [htop] at hl
    exact closePath_lowest_of_read hf hl hr hwrite hg heq

/-- **Every frame that is written** is read back if it is readable, and only then. -/
theorem readBack_of_write {f : Frame StreamFrame} (hf : f.WellTyped)
    (hcarried : ∀ g, f = .stopWaiting g →
      g.packetNumber = packetNumber ∧ g.packetNumberLen = packetNumberLen)
    (hwrite : f.write version now = .ok bytes) :
    ReadBack version now level packetNumber packetNumberLen f bytes := by
  cases f with
  | stream f => exact readBack_stream hf hwrite
  | ack f => exact readBack_ack hf hwrite
  | closePath f => exact readBack_closePath hf hwrite
  | stopWaiting f =>
    obtain ⟨hnumber, hlen⟩ := hcarried f rfl
    exact readBack_stopWaiting hnumber hlen hwrite
  | addAddress f => exact readBack_addAddress hwrite
  | paths f => exact readBack_paths hf hwrite
  | connectionClose f => exact readBack_connectionClose hf hwrite
  | rstStream f => exact Except.ok.inj hwrite ▸ readBack_rstStream hf
  | windowUpdate f => exact Except.ok.inj hwrite ▸ readBack_windowUpdate hf
  | blocked f => exact Except.ok.inj hwrite ▸ readBack_blocked hf
  | goaway f => exact Except.ok.inj hwrite ▸ readBack_goaway hf
  | ping => exact Except.ok.inj hwrite ▸ readBack_ping

/-! ## Payloads -/

/-- One round of the loop of `Unpack`, at a byte that is not padding. -/
theorem parseFrames_cons (hb : b ≠ 0) (fuel : Nat) (bs : List Byte) :
    parseFrames version level packetNumber packetNumberLen (fuel + 1) (b :: bs) = do
      let (frame, rest) ← nextFrame version level packetNumber packetNumberLen (b :: bs)
      return frame :: (← parseFrames version level packetNumber packetNumberLen fuel rest) := by
  rw [parseFrames, if_neg hb]
  rfl

/-- The loop reads all frames back if and only if all are readable, by induction on the frames. -/
theorem parseFrames_iff {fs : List (Frame StreamFrame)} {parts : List (List Byte)}
    (hparts : List.Forall₂ (ReadBack version now level packetNumber packetNumberLen) fs parts)
    (hopen : ∀ f ∈ fs.dropLast, ¬f.OpenEnded) (hsize : parts.flatten.length ≤ maxPacketSize)
    {fuel : Nat} (hfuel : parts.flatten.length ≤ fuel) :
    (∃ fs', parseFrames version level packetNumber packetNumberLen fuel parts.flatten = .ok fs' ∧
        List.Forall₂ (Frame.SameFrame now) fs fs') ↔ ∀ f ∈ fs, f.Readable level := by
  induction hparts generalizing fuel with
  | nil =>
    have hdone : parseFrames version level packetNumber packetNumberLen fuel [] = .ok [] := by
      cases fuel <;> rfl
    exact iff_of_true ⟨[], hdone, .nil⟩ (by simp)
  | @cons f part fs parts hread hrest ih =>
    obtain ⟨b, bs, rfl, hb⟩ := hread.start
    rw [flatten_cons] at hsize hfuel ⊢
    obtain ⟨fuel, rfl⟩ : ∃ n, fuel = n + 1 := Nat.exists_eq_succ_of_ne_zero (by
      rintro rfl
      simp at hfuel)
    have hlast : f.OpenEnded → parts.flatten = [] := by
      intro hf
      cases hrest with
      | nil => rfl
      | cons => exact absurd hf (hopen f (by simp))
    have htail := ih (fun g hg => hopen g (by
        cases fs with
        | nil => cases hg
        | cons => exact mem_cons_of_mem _ hg))
      (by rw [length_append] at hsize; omega)
      (show parts.flatten.length ≤ fuel by
        rw [length_append, length_cons] at hfuel
        omega)
    rw [forall_mem_cons, ← htail]
    constructor
    · rintro ⟨fs', hparse, hsame⟩
      rw [cons_append, parseFrames_cons hb] at hparse
      obtain ⟨⟨f', rest⟩, hnext, hparse⟩ := bind_eq_ok hparse
      obtain ⟨fs'', hmore, hparse⟩ := bind_eq_ok hparse
      obtain rfl := Except.ok.inj hparse
      obtain ⟨hf', hfs''⟩ := forall₂_cons.mp hsame
      have hreadable := hread.readable parts.flatten f' rest hnext hf'
      obtain ⟨g, hg, -⟩ := hread.read hreadable parts.flatten hlast hsize
      -- the frame ends where its bytes end
      have hend : rest = parts.flatten :=
        (Prod.mk.inj (Except.ok.inj (hnext.symm.trans hg))).2
      exact ⟨hreadable, fs'', hend ▸ hmore, hfs''⟩
    · rintro ⟨hreadable, fs', hparse, hsame⟩
      obtain ⟨g, hg, hf⟩ := hread.read hreadable parts.flatten hlast hsize
      refine ⟨g :: fs', ?_, .cons hf hsame⟩
      rw [cons_append] at hg ⊢
      rw [parseFrames_cons hb, hg]
      change (parseFrames version level packetNumber packetNumberLen fuel parts.flatten >>= _) = _
      rw [hparse]
      rfl

theorem forall₂_of_mapM {α β : Type} {g : α → Except Err β} {as : List α} {bs : List β}
    (h : as.mapM g = .ok bs) : List.Forall₂ (fun a b => g a = .ok b) as bs := by
  induction as generalizing bs with
  | nil =>
    obtain rfl := Except.ok.inj h
    exact .nil
  | cons a as ih =>
    rw [mapM_cons] at h
    obtain ⟨b, hb, h⟩ := bind_eq_ok h
    obtain ⟨bs', hbs', h⟩ := bind_eq_ok h
    obtain rfl := Except.ok.inj h
    exact .cons hb (ih hbs')

end
end Parser

/-- **A payload is read back** as the frames it was written from if and only if all of them are
readable. -/
theorem payload_round_trip_iff (version now : Int) (level : EncryptionLevel)
    (packetNumber packetNumberLen : Nat) (fs : List (Frame StreamFrame))
    (parts : List (List Byte)) (htyped : ∀ f ∈ fs, f.WellTyped)
    (hcarried : ∀ f, .stopWaiting f ∈ fs →
      f.packetNumber = packetNumber ∧ f.packetNumberLen = packetNumberLen)
    (hopen : ∀ f ∈ fs.dropLast, ¬f.OpenEnded)
    (hwrite : fs.mapM (·.write version now) = .ok parts)
    (hsize : parts.flatten.length ≤ maxPacketSize) :
    (∃ fs', Parser.parseFrames version level packetNumber packetNumberLen parts.flatten.length
        parts.flatten = .ok fs' ∧ List.Forall₂ (Frame.SameFrame now) fs fs') ↔
      ∀ f ∈ fs, f.Readable level := by
  have hwritten := Parser.forall₂_of_mapM hwrite
  refine Parser.parseFrames_iff ?_ hopen hsize le_rfl
  have hall := (forall₂_and_left fs parts).mpr
    ⟨fun f hf => And.intro (htyped f hf) fun g (hg : f = .stopWaiting g) => hcarried g (hg ▸ hf),
      hwritten⟩
  exact hall.imp fun f part h => Parser.readBack_of_write h.1.1 h.1.2 h.2

/-- Packet 10 with a STOP_WAITING frame, a window update and stream data up to its end. -/
def samplePayload : List (Frame StreamFrame) :=
  [.stopWaiting { leastUnacked := 5, packetNumberLen := 2, packetNumber := 10 },
    .windowUpdate { streamID := 3, byteOffset := 70000 },
    .stream { streamID := 3, finBit := true, dataLenPresent := false, offset := 300,
              data := [1, 2, 3] }]

theorem payload_round_trip_sample :
    ∃ parts fs', samplePayload.mapM (·.write versionMP 0) = .ok parts ∧
      Parser.parseFrames versionMP .forwardSecure 10 2 parts.flatten.length parts.flatten =
        .ok fs' ∧ List.Forall₂ (Frame.SameFrame 0) samplePayload fs' := by
  obtain ⟨parts, hwrite, hsize⟩ : ∃ parts, samplePayload.mapM (·.write versionMP 0) = .ok parts ∧
      parts.flatten.length ≤ maxPacketSize := ⟨_, rfl, by decide⟩
  obtain ⟨fs', hparse, hsame⟩ := (payload_round_trip_iff versionMP 0 .forwardSecure 10 2
    samplePayload parts (by simp [samplePayload, Frame.WellTyped])
    (by simp [samplePayload]) (by simp [samplePayload, Frame.OpenEnded]) hwrite hsize).mpr (by
      simp [samplePayload, Frame.Readable]
      decide)
  exact ⟨parts, fs', hwrite, hparse, hsame⟩

/-- The delta of a STOP_WAITING frame is cut to the length of the packet number, so packet 70000
with a least unacked packet of 1 is read as one with 65537. -/
theorem stopWaiting_delta_cut :
    ∃ parts, [Frame.stopWaiting { leastUnacked := 1, packetNumberLen := 2, packetNumber := 70000 }
        ].mapM (·.write versionMP 0) = .ok parts ∧ parts.flatten.length ≤ maxPacketSize ∧
      Parser.parseFrames versionMP .forwardSecure 70000 2 parts.flatten.length parts.flatten =
        .ok [.stopWaiting { leastUnacked := 65537 }] :=
  ⟨_, rfl, by decide, by decide +kernel⟩

end MpQuic
