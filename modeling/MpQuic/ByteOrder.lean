import MpQuic.Lib.Bytes
import MpQuic.Protocol

/-!
# Integers on the wire (`internal/utils/byteorder*.go`, `float16.go`)

Values are written in little endian before version 39 and in big endian from
version 39 on.
-/
namespace MpQuic
open Systems.Bytes

/-- `utils.ByteOrder`. -/
inductive ByteOrder
  | littleEndian | bigEndian
  deriving DecidableEq, Repr

/-- `utils.GetByteOrder`. -/
def getByteOrder (version : Int) : ByteOrder :=
  if version < 39 then .littleEndian else .bigEndian

namespace ByteOrder

/-- The bytes of a written integer, in the order of `toBytes`, and back. -/
def arrange (o : ByteOrder) (bs : List Byte) : List Byte :=
  match o with
  | .littleEndian => bs
  | .bigEndian => bs.reverse

@[simp] theorem arrange_arrange (o : ByteOrder) (bs : List Byte) :
    o.arrange (o.arrange bs) = bs := by
  cases o
  · rfl
  · exact List.reverse_reverse bs

@[simp] theorem length_arrange (o : ByteOrder) (bs : List Byte) :
    (o.arrange bs).length = bs.length := by
  cases o
  · rfl
  · exact List.length_reverse

/-- `WriteUint16` to `WriteUint64` and the writing of a single byte: the low `n` bytes
of `v`.  (`WriteUint40` to `WriteUint56` first check that `v` fits.) -/
def writeUintN (o : ByteOrder) (n v : Nat) : List Byte := o.arrange (toBytes n v)

/-- The value of the bytes of an integer. -/
def uintOf (o : ByteOrder) (bs : List Byte) : Nat := ofBytes (o.arrange bs)

@[simp] theorem length_writeUintN (o : ByteOrder) (n v : Nat) :
    (o.writeUintN n v).length = n := by
  simp only [writeUintN, length_arrange, length_toBytes]

theorem uintOf_writeUintN_mod (o : ByteOrder) (n v : Nat) :
    o.uintOf (o.writeUintN n v) = v % 256 ^ n := by
  rw [uintOf, writeUintN, arrange_arrange, ofBytes_toBytes]

theorem uintOf_writeUintN (o : ByteOrder) {n v : Nat} (h : v < 256 ^ n) :
    o.uintOf (o.writeUintN n v) = v := by
  rw [uintOf_writeUintN_mod, Nat.mod_eq_of_lt h]

theorem uintOf_lt (o : ByteOrder) (bs : List Byte) : o.uintOf bs < 256 ^ bs.length := by
  rw [← o.length_arrange bs]
  exact ofBytes_lt (o.arrange bs)

/-- A value that fits is determined by the bytes written for it. -/
theorem writeUintN_injective (o : ByteOrder) {n v w : Nat} (hv : v < 256 ^ n)
    (hw : w < 256 ^ n) (h : o.writeUintN n v = o.writeUintN n w) : v = w := by
  rw [← o.uintOf_writeUintN hv, h, o.uintOf_writeUintN hw]

/-- The 16 bits `utils.writeUfloat16` writes for a value. -/
def ufloat16 (value : Nat) : Nat :=
  if value < 2 ^ 12 then value
  else if (2 ^ 12 - 1) * 2 ^ 30 ≤ value then 2 ^ 16 - 1
  else
    let (exponent, mantissa) := [16, 8, 4, 2, 1].foldl
      (fun (exponent, value) offset =>
        if 2 ^ (11 + offset) ≤ value then (exponent + offset, value / 2 ^ offset)
        else (exponent, value)) (0, value)
    mantissa + exponent * 2 ^ 11

/-- `WriteUfloat16`. -/
def writeUfloat16 (o : ByteOrder) (value : Nat) : List Byte :=
  o.writeUintN 2 (ufloat16 value)

/-- The value `utils.readUfloat16` finds in 16 bits. -/
def ofUfloat16 (val : Nat) : Nat :=
  if val < 2 ^ 12 then val
  else
    let exponent := val / 2 ^ 11 - 1
    (val - exponent * 2 ^ 11) * 2 ^ exponent

/-! ## Rounding -/

/-- One step of the search for the exponent. -/
theorem shift_step (offset k : Nat) {v e m : Nat} (hm : m = v / 2 ^ e) (hlow : 2 ^ 11 ≤ m)
    (hhigh : m < 2 ^ (k + offset)) (hk : 11 + offset ≤ k) :
    ∃ e' m', (if 2 ^ (11 + offset) ≤ m then (e + offset, m / 2 ^ offset) else (e, m)) = (e', m') ∧
      m' = v / 2 ^ e' ∧ 2 ^ 11 ≤ m' ∧ m' < 2 ^ k := by
  split
  · next h =>
    refine ⟨_, _, rfl, ?_, ?_, ?_⟩
    · rw [hm, Nat.div_div_eq_div_mul, Nat.pow_add]
    · rw [Nat.le_div_iff_mul_le (Nat.two_pow_pos offset), ← Nat.pow_add]
      exact h
    · rw [Nat.div_lt_iff_lt_mul (Nat.two_pow_pos offset), ← Nat.pow_add]
      exact hhigh
  · next h =>
    refine ⟨_, _, rfl, hm, hlow, (not_le.mp h).trans_le (Nat.pow_le_pow_right (by decide) hk)⟩

variable {v val : Nat}

/-- Above `2 ^ 12` a value is written as its 12 leading bits and the number of bits left out. -/
theorem ufloat16_eq (hlow : 2 ^ 12 ≤ v) (hhigh : v < (2 ^ 12 - 1) * 2 ^ 30) :
    ∃ e ≤ 30, ufloat16 v = v / 2 ^ e + e * 2 ^ 11 ∧ 2 ^ 11 ≤ v / 2 ^ e ∧ v / 2 ^ e < 2 ^ 12 := by
  obtain ⟨e1, m1, h1, hm1, hl1, hh1⟩ := shift_step 16 27 (v := v) (e := 0) (m := v)
    (by simp) (by omega) (by omega) (by omega)
  obtain ⟨e2, m2, h2, hm2, hl2, hh2⟩ := shift_step 8 19 hm1 hl1 hh1 (by omega)
  obtain ⟨e3, m3, h3, hm3, hl3, hh3⟩ := shift_step 4 15 hm2 hl2 hh2 (by omega)
  obtain ⟨e4, m4, h4, hm4, hl4, hh4⟩ := shift_step 2 13 hm3 hl3 hh3 (by omega)
  obtain ⟨e5, m5, h5, hm5, hl5, hh5⟩ := shift_step 1 12 hm4 hl4 hh4 (by omega)
  have hval : ufloat16 v = m5 + e5 * 2 ^ 11 := by
    unfold ufloat16
    rw [if_neg (by omega), if_neg (by omega)]
    simp only [List.foldl_cons, List.foldl_nil, h1, h2, h3, h4, h5]
  refine ⟨e5, ?_, hm5 ▸ hval, hm5 ▸ hl5, hm5 ▸ hh5⟩
  by_contra he
  have hpow : 2 ^ (11 + e5) ≤ v := by
    rw [hm5, Nat.le_div_iff_mul_le (Nat.two_pow_pos e5), ← Nat.pow_add] at hl5
    exact hl5
  have hle : 2 ^ (11 + 31) ≤ 2 ^ (11 + e5) := Nat.pow_le_pow_right (by decide) (by omega)
  omega

theorem ufloat16_lt (v : Nat) : ufloat16 v < 2 ^ 16 := by
  by_cases hlow : v < 2 ^ 12
  · rw [ufloat16, if_pos hlow]
    omega
  by_cases hhigh : (2 ^ 12 - 1) * 2 ^ 30 ≤ v
  · rw [ufloat16, if_neg hlow, if_pos hhigh]
    decide
  obtain ⟨e, he, hval, -, hlt⟩ := ufloat16_eq (not_lt.mp hlow) (not_le.mp hhigh)
  omega

/-- `uFloat16MaxValue`, the largest value that can be written. -/
def maxUfloat16 : Nat := (2 ^ 12 - 1) * 2 ^ 30

/-- A mantissa and an exponent read back; a mantissa of 13 bits carries into the exponent. -/
theorem ofUfloat16_add {m e : Nat} (hlow : 2 ^ 11 ≤ m) (hhigh : m ≤ 2 ^ 12) :
    ofUfloat16 (m + e * 2 ^ 11) = m * 2 ^ e := by
  by_cases hsmall : m + e * 2 ^ 11 < 2 ^ 12
  · obtain rfl : e = 0 := by omega
    rw [ofUfloat16, if_pos hsmall]
    omega
  rw [ofUfloat16, if_neg hsmall]
  dsimp only
  rcases hhigh.eq_or_lt with rfl | hlt
  · rw [show (2 ^ 12 + e * 2 ^ 11) / 2 ^ 11 - 1 = e + 1 by omega,
      show 2 ^ 12 + e * 2 ^ 11 - (e + 1) * 2 ^ 11 = 2 ^ 11 by omega, Nat.pow_succ]
    omega
  · rw [show (m + e * 2 ^ 11) / 2 ^ 11 - 1 = e by omega, Nat.add_sub_cancel]

theorem strictMono_ofUfloat16 : StrictMono ofUfloat16 := by
  refine strictMono_nat_of_lt_succ fun val => ?_
  by_cases hsmall : val < 2 ^ 11
  · rw [ofUfloat16, ofUfloat16, if_pos (by omega), if_pos (by omega)]
    exact Nat.lt_succ_self val
  obtain ⟨m, e, rfl, hlow, hhigh⟩ : ∃ m e, val = m + e * 2 ^ 11 ∧ 2 ^ 11 ≤ m ∧ m < 2 ^ 12 :=
    ⟨2 ^ 11 + val % 2 ^ 11, val / 2 ^ 11 - 1, by omega, by omega, by omega⟩
  rw [Nat.add_right_comm, ofUfloat16_add hlow hhigh.le, ofUfloat16_add (by omega) hhigh]
  exact Nat.mul_lt_mul_of_pos_right (Nat.lt_succ_self m) (Nat.two_pow_pos e)

theorem ufloat16_of_ge (h : maxUfloat16 ≤ v) : ufloat16 v = 2 ^ 16 - 1 := by
  unfold maxUfloat16 at h
  rw [ufloat16, if_neg (by omega), if_pos h]

/-- What is written for a value, and the word after it, enclose the value; the distance is less
than one part in 2048. -/
theorem ufloat16_encloses (h : v < maxUfloat16) :
    ofUfloat16 (ufloat16 v) ≤ v ∧ v < ofUfloat16 (ufloat16 v + 1) ∧
      (0 < v → (v - ofUfloat16 (ufloat16 v)) * 2 ^ 11 < v) := by
  by_cases hlow : v < 2 ^ 12
  · have hval : ufloat16 v = v := by rw [ufloat16, if_pos hlow]
    have hread : ofUfloat16 v = v := by rw [ofUfloat16, if_pos hlow]
    rw [hval, hread]
    exact ⟨le_rfl, hread.symm.trans_lt (strictMono_ofUfloat16 (Nat.lt_succ_self v)), by omega⟩
  obtain ⟨e, he, hval, hl, hlt⟩ := ufloat16_eq (not_lt.mp hlow) h
  have hdiv := Nat.div_add_mod v (2 ^ e)
  have hmod := Nat.mod_lt v (Nat.two_pow_pos e)
  have hmul : 2 ^ 11 * 2 ^ e ≤ v / 2 ^ e * 2 ^ e := Nat.mul_le_mul_right _ hl
  rw [hval, Nat.add_right_comm, ofUfloat16_add hl hlt.le, ofUfloat16_add (by omega) hlt,
    Nat.succ_mul]
  rw [Nat.mul_comm (v / 2 ^ e)] at hmul ⊢
  refine ⟨?_, ?_, fun _ => ?_⟩ <;> omega

/-- Reading and writing are a Galois connection. -/
theorem ofUfloat16_le_iff (hval : val < 2 ^ 16) : ofUfloat16 val ≤ v ↔ val ≤ ufloat16 v := by
  by_cases h : maxUfloat16 ≤ v
  · have hread := strictMono_ofUfloat16.monotone (show val ≤ 2 ^ 16 - 1 by omega)
    rw [ufloat16_of_ge h]
    exact iff_of_true (hread.trans h) (by omega)
  obtain ⟨hle, hlt, -⟩ := ufloat16_encloses (not_le.mp h)
  refine ⟨fun hv => ?_, fun hv => (strictMono_ofUfloat16.monotone hv).trans hle⟩
  exact Nat.lt_succ_iff.mp (strictMono_ofUfloat16.lt_iff_lt.mp (hv.trans_lt hlt))

/-- The values that can be written. -/
def Representable (x : Nat) : Prop := ∃ val < 2 ^ 16, ofUfloat16 val = x

/-- Values are rounded down to what can be written. -/
theorem isGreatest_ofUfloat16 (v : Nat) :
    IsGreatest {x | Representable x ∧ x ≤ min v maxUfloat16} (ofUfloat16 (ufloat16 v)) := by
  have hword := ufloat16_lt v
  refine ⟨⟨⟨_, hword, rfl⟩, le_min ((ofUfloat16_le_iff hword).mpr le_rfl) ?_⟩, ?_⟩
  · exact strictMono_ofUfloat16.monotone (show ufloat16 v ≤ 2 ^ 16 - 1 by omega)
  · rintro _ ⟨⟨val, hval, rfl⟩, hle⟩
    exact strictMono_ofUfloat16.monotone ((ofUfloat16_le_iff hval).mp (hle.trans (min_le_left ..)))

theorem monotone_ufloat16 : Monotone ufloat16 := fun v _ h =>
  (ofUfloat16_le_iff (ufloat16_lt v)).mp (((ofUfloat16_le_iff (ufloat16_lt v)).mpr le_rfl).trans h)

theorem ufloat16_ofUfloat16 (hval : val < 2 ^ 16) : ufloat16 (ofUfloat16 val) = val :=
  le_antisymm (strictMono_ofUfloat16.le_iff_le.mp ((ofUfloat16_le_iff (ufloat16_lt _)).mpr le_rfl))
    ((ofUfloat16_le_iff hval).mp le_rfl)

end ByteOrder
end MpQuic
