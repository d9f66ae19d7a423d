import Mathlib.Algebra.Order.Field.Power
import Rover.Proofs.Number

/-!
# The bits of a double

A double is a word of 64 bits: a sign, a field of 11 bits for the exponent, and the 52 bits of the
mantissa that are left when the first one goes without saying.
-/

namespace Rover

open BitVec

open Float.Model (Format UnpackedFloat)
open Float.Model.UnpackedFloat

variable (b : BitVec Format.binary64.numBits)

theorem toNat_unpackExponent : (unpackExponent b).toNat = b.toNat / 2 ^ 52 % 2048 := by
  unfold unpackExponent
  simp [Nat.shiftRight_eq_div_pow]

theorem toNat_unpackMantissa : (unpackMantissa b).toNat = b.toNat % 2 ^ 52 := by
  unfold unpackMantissa
  simp

theorem toNat_implicit : (1#1 ++ unpackMantissa b).toNat = 2 ^ 52 + b.toNat % 2 ^ 52 := by
  rw [toNat_append, ← Nat.shiftLeft_add_eq_or_of_lt (unpackMantissa b).isLt,
    toNat_unpackMantissa]
  rfl

theorem toNat_packComponents (s : Sign) (e : BitVec 11) (m : BitVec 52) :
    (packComponents .binary64 s e m).toNat =
      s.toBitVec.toNat * 9223372036854775808 + e.toNat * 2 ^ 52 + m.toNat := by
  unfold packComponents
  rw [toNat_append, toNat_append, ← Nat.shiftLeft_add_eq_or_of_lt m.isLt,
    ← Nat.shiftLeft_add_eq_or_of_lt e.isLt]
  omega

def signOf (negative : Bool) : Sign := if negative then .negative else .positive

theorem ofBitVec_unpackSign :
    Sign.ofBitVec (unpackSign b) = signOf (decide (9223372036854775808 ≤ b.toNat)) := by
  have hbits : b.toNat < 18446744073709551616 := b.isLt
  have hsign : (unpackSign b).toNat = b.toNat / 9223372036854775808 := by
    unfold unpackSign
    simp [Nat.shiftRight_eq_div_pow]
    omega
  have hcases : ∀ bit : BitVec 1, Sign.ofBitVec bit = signOf (decide (bit.toNat = 1)) := by
    intro bit
    obtain rfl | rfl : bit = 0#1 ∨ bit = 1#1 := by
      revert bit
      decide
    · rfl
    · rfl
  rw [hcases, hsign]
  congr 1
  rw [decide_eq_decide]
  omega

def decode (s : Sign) (field rest : Nat) : UnpackedFloat :=
  if field = 2047 then if rest = 0 then .infinity s else .notANumber
  else if field = 0 then if h : 0 < rest then .finite s rest (-1074) h else .zero s
  else .finite s (4503599627370496 + rest) (field - 1075) (by omega)

theorem finite_congr {s : Sign} {m n : Nat} {e f : Int} {hm : 0 < m} {hn : 0 < n} (h : m = n)
    (h' : e = f) : UnpackedFloat.finite s m e hm = .finite s n f hn := by
  subst h h'
  rfl

theorem unpack_eq_decode :
    unpack .binary64 b = decode (signOf (decide (9223372036854775808 ≤ b.toNat)))
      (b.toNat / 2 ^ 52 % 2048) (b.toNat % 2 ^ 52) := by
  have hbias : (Format.binary64.exponentBias : Int) = 1023 := by decide
  have hlen : (Format.binary64.mantissaBitsWithoutImplicit : Int) = 52 := by decide
  have hones : unpackExponent b = -1#_ ↔ b.toNat / 2 ^ 52 % 2048 = 2047 := by
    rw [← toNat_unpackExponent, ← toNat_inj]
    rfl
  have hnone : unpackExponent b = 0#_ ↔ b.toNat / 2 ^ 52 % 2048 = 0 := by
    rw [← toNat_unpackExponent, ← toNat_inj]
    rfl
  have h0 : unpackMantissa b = 0#_ ↔ b.toNat % 2 ^ 52 = 0 := by
    rw [← toNat_unpackMantissa, ← toNat_inj]
    rfl
  have hexp := toNat_unpackExponent b
  unfold unpack decode
  rw [← ofBitVec_unpackSign]
  by_cases hfull : b.toNat / 2 ^ 52 % 2048 = 2047
  · rw [if_pos (hones.mpr hfull), if_pos hfull]
    simp only [h0]
  rw [if_neg (mt hones.mp hfull), if_neg hfull]
  by_cases hlo : b.toNat / 2 ^ 52 % 2048 = 0
  · rw [if_pos (hnone.mpr hlo), if_pos hlo]
    by_cases hrest : b.toNat % 2 ^ 52 = 0
    · rw [dif_pos (h0.mpr hrest), dif_neg (by omega)]
    · rw [dif_neg (mt h0.mp hrest), dif_pos (by omega)]
      exact finite_congr (toNat_unpackMantissa b) (by omega)
  · rw [if_neg (mt hnone.mp hlo), if_neg hlo]
    exact finite_congr (toNat_implicit b) (by omega)

/-- A finite double in the form in which it is packed: its mantissa has all bits, unless its last
place is the least one. -/
def Canonical : UnpackedFloat → Prop
  | .zero _ => True
  | .finite _ m e _ => -1074 ≤ e ∧ (m.log2 = 52 ∨ m.log2 < 52 ∧ e = -1074)
  | _ => False

theorem Canonical.cases {u : UnpackedFloat} (h : Canonical u) :
    (∃ s, u = .zero s) ∨ ∃ s m e hm, u = .finite s m e hm ∧
      -1074 ≤ e ∧ (m.log2 = 52 ∨ m.log2 < 52 ∧ e = -1074) := by
  cases u with
  | notANumber => exact h.elim
  | infinity s => exact h.elim
  | zero s => exact .inl ⟨s, rfl⟩
  | finite s m e hm => exact .inr ⟨s, m, e, hm, rfl, h⟩

theorem log2_eq_52_iff {m : Nat} (hm : m ≠ 0) :
    m.log2 = 52 ↔ 2 ^ 52 ≤ m ∧ m < 2 ^ 53 := Nat.log2_eq_iff hm

theorem decode_cases (s : Sign) {field rest : Nat} (hfield : field < 2048) (hrest : rest < 2 ^ 52) :
    (field = 2047 ∧ (decode s field rest).isFinite = false) ∨
      (field < 2047 ∧ Canonical (decode s field rest)) := by
  unfold decode
  by_cases hfull : field = 2047
  · rw [if_pos hfull]
    exact .inl ⟨hfull, by split <;> rfl⟩
  rw [if_neg hfull]
  refine .inr ⟨by omega, ?_⟩
  by_cases hlo : field = 0
  · rw [if_pos hlo]
    by_cases hpos : 0 < rest
    · rw [dif_pos hpos]
      exact ⟨by omega, .inr ⟨(Nat.log2_lt (by omega)).mpr hrest, rfl⟩⟩
    · rw [dif_neg hpos]
      trivial
  · rw [if_neg hlo]
    exact ⟨by omega, .inl ((log2_eq_52_iff (by omega)).mpr ⟨by omega, by omega⟩)⟩

theorem Canonical.isFinite {u : UnpackedFloat} (h : Canonical u) : u.isFinite := by
  obtain ⟨s, rfl⟩ | ⟨s, m, e, hm, rfl, -⟩ := h.cases <;> rfl

section
variable {x : Float}

theorem unpack_toModel (x : Float) : x.toModel.unpack =
    decode (signOf (decide (9223372036854775808 ≤ x.toBits.toNat)))
      (x.toBits.toNat / 2 ^ 52 % 2048) (x.toBits.toNat % 2 ^ 52) :=
  unpack_eq_decode x.toBits.toBitVec

theorem canonical_of_isFinite (h : x.isFinite) : Canonical x.toModel.unpack := by
  change x.toModel.unpack.isFinite at h
  rw [unpack_toModel] at h ⊢
  obtain ⟨-, hinf⟩ | ⟨-, hcan⟩ := decode_cases
    (signOf (decide (9223372036854775808 ≤ x.toBits.toNat)))
    (Nat.mod_lt (x.toBits.toNat / 2 ^ 52) (by decide : 0 < 2048))
    (Nat.mod_lt x.toBits.toNat (by decide))
  · rw [hinf] at h
    cases h
  · exact hcan

theorem place_le_of_unpack {s : Sign} {m : Nat} {e : Int} {hm : 0 < m}
    (h : x.toModel.unpack = .finite s m e hm) : e ≤ 971 := by
  rw [unpack_toModel] at h
  unfold decode at h
  by_cases hfull : x.toBits.toNat / 2 ^ 52 % 2048 = 2047
  · rw [if_pos hfull] at h
    by_cases hrest : x.toBits.toNat % 2 ^ 52 = 0
    · rw [if_pos hrest] at h
      cases h
    · rw [if_neg hrest] at h
      cases h
  rw [if_neg hfull] at h
  by_cases hlo : x.toBits.toNat / 2 ^ 52 % 2048 = 0
  · rw [if_pos hlo] at h
    by_cases hrest : 0 < x.toBits.toNat % 2 ^ 52
    · rw [dif_pos hrest] at h
      cases h
      decide
    · rw [dif_neg hrest] at h
      cases h
  · rw [if_neg hlo] at h
    cases h
    omega

theorem isInf_of_isFinite (h : x.isFinite) : x.isInf = false := by
  change x.toModel.unpack.isInf = false
  obtain ⟨s, hu⟩ | ⟨s, m, e, hm, hu, -⟩ := (canonical_of_isFinite h).cases <;> rw [hu] <;> rfl

theorem isNaN_of_isFinite (h : x.isFinite) : x.isNaN = false := by
  change x.toModel.unpack.isNaN = false
  obtain ⟨s, hu⟩ | ⟨s, m, e, hm, hu, -⟩ := (canonical_of_isFinite h).cases <;> rw [hu] <;> rfl

end

namespace Binary

def unpacked (b : Binary) : UnpackedFloat :=
  if h : 0 < b.mantissa then .finite (signOf b.negative) b.mantissa b.exponent h
  else .zero (signOf b.negative)

theorem ofFloat?_cases (x : Float) : (x.isFinite = false ∧ ofFloat? x = none) ∨
    (x.isFinite ∧ ∃ b, ofFloat? x = some b ∧ x.toModel.unpack = b.unpacked) := by
  change (x.toModel.unpack.isFinite = false ∧ _) ∨ (x.toModel.unpack.isFinite ∧ _)
  have hunit : twoPow 52 = 2 ^ 52 := by decide
  have hwidth : twoPow 11 = 2048 := by decide
  have hsign : twoPow 63 = 9223372036854775808 := by decide
  unfold ofFloat?
  simp only [hunit, hwidth, hsign, unpack_toModel]
  unfold decode
  generalize x.toBits.toNat / 2 ^ 52 % 2048 = field
  by_cases hfull : field = 2047
  · rw [if_pos hfull, if_pos hfull]
    exact .inl ⟨by split <;> rfl, rfl⟩
  rw [if_neg hfull, if_neg hfull]
  by_cases hlo : field = 0
  · rw [if_pos hlo, if_pos hlo]
    refine .inr ⟨?_, _, rfl, rfl⟩
    by_cases hrest : 0 < x.toBits.toNat % 2 ^ 52
    · rw [dif_pos hrest]
      rfl
    · rw [dif_neg hrest]
      rfl
  · rw [if_neg hlo, if_neg hlo]
    refine .inr ⟨rfl, _, rfl, ?_⟩
    unfold unpacked
    rw [dif_pos (Nat.add_pos_right _ (by decide))]
    exact finite_congr (Nat.add_comm ..) rfl

end Binary

theorem exists_ofFloat?_of_isFinite {x : Float} (h : x.isFinite) :
    ∃ b, Binary.ofFloat? x = some b := by
  obtain ⟨hinf, -⟩ | ⟨-, b, hb, -⟩ := Binary.ofFloat?_cases x
  · rw [h] at hinf
    cases hinf
  · exact ⟨b, hb⟩

section
variable {x : Float} {b : Binary} (h : Binary.ofFloat? x = some b)
include h

theorem isFinite_of_ofFloat? : x.isFinite := by
  obtain ⟨-, hnone⟩ | ⟨hfin, -⟩ := Binary.ofFloat?_cases x
  · rw [h] at hnone
    cases hnone
  · exact hfin

theorem unpack_of_ofFloat? : x.toModel.unpack = b.unpacked := by
  obtain ⟨-, hnone⟩ | ⟨-, c, hc, hu⟩ := Binary.ofFloat?_cases x
  · rw [h] at hnone
    cases hnone
  · rw [h] at hc
    cases hc
    exact hu

end

theorem unpack_packComponents (s : Sign) (e : BitVec 11) (m : BitVec 52) :
    unpack .binary64 (packComponents .binary64 s e m) = decode s e.toNat m.toNat := by
  have hsign : signOf (decide (9223372036854775808 ≤ s.toBitVec.toNat * 9223372036854775808 +
      e.toNat * 2 ^ 52 + m.toNat)) = s := by
    cases s with
    | positive => exact congrArg signOf (decide_eq_false (by change ¬ _ ≤ 0 * _ + _ + _; omega))
    | negative => exact congrArg signOf (decide_eq_true (by change _ ≤ 1 * _ + _ + _; omega))
  rw [unpack_eq_decode, toNat_packComponents, hsign]
  congr 1 <;> omega

section
variable {s : Sign} {m : Nat} {e : Int} {hm : 0 < m}

theorem unpack_pack_finite (h : Canonical (.finite s m e hm)) (he : e ≤ 971) :
    (Float.Model.pack (.finite s m e hm)).unpack = .finite s m e hm := by
  obtain ⟨hlo, hbits⟩ := h
  have hbias : (Format.binary64.exponentBias : Int) = 1023 := by decide
  have hwidth : Format.binary64.mantissaBits = 53 := by decide
  have hfield : (e + Format.binary64.exponentBias + (52 : Nat)).toNat = (e + 1075).toNat := by omega
  change unpack .binary64 (UnpackedFloat.pack .binary64 (.finite s m e hm)) = _
  delta UnpackedFloat.pack
  dsimp only
  rw [hfield, if_neg (by omega)]
  rcases hbits with hlog | ⟨hlog, rfl⟩
  · obtain ⟨hfull, hfull'⟩ := (log2_eq_52_iff (by omega)).mp hlog
    rw [if_pos (by omega), unpack_packComponents, toNat_ofNat, toNat_ofNat]
    unfold decode
    rw [if_neg (by omega), if_neg (by omega)]
    exact finite_congr (by omega) (by omega)
  · have hshort : m < 2 ^ 52 := (Nat.log2_lt (by omega)).mp hlog
    rw [if_neg (by omega), unpack_packComponents, toNat_ofNat]
    change decode s 0 (m % 2 ^ 52) = _
    rw [Nat.mod_eq_of_lt hshort]
    unfold decode
    rw [if_neg (by decide), if_pos rfl, dif_pos hm]

theorem pack_finite_of_lt (he : 971 < e) :
    Float.Model.pack (.finite s m e hm) = .pack (.infinity s) := by
  have hbias : (Format.binary64.exponentBias : Int) = 1023 := by decide
  have hpack : UnpackedFloat.pack .binary64 (.finite s m e hm) =
      UnpackedFloat.pack .binary64 (.infinity s) := by
    delta UnpackedFloat.pack
    dsimp only
    rw [if_pos]
    omega
  unfold Float.Model.pack
  rw [Float.Model.mk.injEq, hpack]

end

end Rover
