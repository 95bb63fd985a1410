import MpQuic.Protocol

/-!
# Versions (`internal/protocol/version.go`)

On the wire a version is a tag, the letter Q and three decimal digits.  Any 32-bit
value is read as a version, with digits outside `0` to `9` wrapping around.
-/
namespace MpQuic

/-- `protocol.VersionNumberToTag`: the letter Q and three decimal digits. -/
def versionNumberToTag (version : Int) : Nat :=
  let v := (version % 2 ^ 32).toNat
  (0x51 + (v / 100 % 10 + 0x30) * 2 ^ 8 + (v / 10 % 10 + 0x30) * 2 ^ 16 +
    (v % 10 + 0x30) * 2 ^ 24) % 2 ^ 32

/-- The digit in the byte of a tag that starts at bit `shift`. -/
def tagDigit (v shift : Nat) : Nat := (v / 2 ^ shift % 2 ^ 8 + 2 ^ 32 - 0x30) % 2 ^ 32

/-- `protocol.VersionTagToNumber`. -/
def versionTagToNumber (v : Nat) : Int :=
  ((tagDigit v 8 * 100 + tagDigit v 16 * 10 + tagDigit v 24) % 2 ^ 32 : Nat)

/-- `protocol.VersionUnsupported`. -/
def versionUnsupported : Int := -1

/-- `protocol.VersionUnknown`. -/
def versionUnknown : Int := -2

/-- `protocol.SupportedVersions`: the multipath version, and versions 39 to 37. -/
def supportedVersions : List Int := [512, 39, 38, 37]

/-- `protocol.IsSupportedVersion`. -/
def isSupportedVersion (supported : List Int) (v : Int) : Bool := supported.contains v

/-- `protocol.ChooseSupportedVersion`. -/
def chooseSupportedVersion (ours theirs : List Int) : Int :=
  (ours.find? theirs.contains).getD versionUnsupported

theorem versionNumberToTag_lt (v : Int) : versionNumberToTag v < 2 ^ 32 := Nat.mod_lt _ (by decide)

theorem versionTagToNumber_nonneg (v : Nat) : 0 ≤ versionTagToNumber v := Int.natCast_nonneg _

/-- The three digits of a tag. -/
theorem tagDigit_tag {a b c : Nat} (ha : a < 10) (hb : b < 10) (hc : c < 10) :
    let tag := (0x51 + (a + 0x30) * 2 ^ 8 + (b + 0x30) * 2 ^ 16 + (c + 0x30) * 2 ^ 24) % 2 ^ 32
    tagDigit tag 8 = a ∧ tagDigit tag 16 = b ∧ tagDigit tag 24 = c := by
  simp only [tagDigit]
  omega

/-- A version of three digits is read back from its tag. -/
theorem versionTagToNumber_versionNumberToTag {v : Int} (h0 : 0 ≤ v) (h : v < 1000) :
    versionTagToNumber (versionNumberToTag v) = v := by
  obtain ⟨n, rfl⟩ := Int.eq_ofNat_of_zero_le h0
  have hv : ((n : Int) % 2 ^ 32).toNat = n := by omega
  obtain ⟨h8, h16, h24⟩ := tagDigit_tag (a := n / 100 % 10) (b := n / 10 % 10) (c := n % 10)
    (Nat.mod_lt _ (by decide)) (Nat.mod_lt _ (by decide)) (Nat.mod_lt _ (by decide))
  have hdigits : n / 100 % 10 * 100 + n / 10 % 10 * 10 + n % 10 = n := by omega
  rw [versionTagToNumber, versionNumberToTag, hv, h8, h16, h24]
  omega

end MpQuic
