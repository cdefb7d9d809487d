/-
**Large integers in binary and back.**

An integer is turned into the nearest binary number and cut down to an integer again.  What comes
back is the nearest number of 53 significant bits, with the sign it had; only an integer that is
too large for any exponent becomes infinite and gives nothing.

Main definitions:

* `Binary.overflow` — the least natural number whose nearest binary number is infinite.

Main results:

* `Binary.pack_unpack`, `Binary.toNat_toBits_ofRatio` — bits are stored as they are;
* `Binary.truncate?_ofRatio` — **an integer cut down again**;
* `Number.truncate?_readFloat?` — the same for an integer that is read from its digits.
-/

import EventQuery.Proofs.Number.Digits
import EventQuery.Proofs.Number.Rounding
import EventQuery.Proofs.Number.Order
import EventQuery.Proofs.Timespan.Reading

set_option relaxedAutoImplicit false
set_option autoImplicit false

namespace EventQuery

-- Powers are those of the core library, whatever other instances are in scope.
attribute [local instance (2000)] instPowNat

open Float.Model (UnpackedFloat Format)

namespace Binary

/-! ### Bits are stored as they are -/

section Bits

variable (b : BitVec Format.binary64.numBits)

/-- **Sign, exponent and mantissa** are all that the bits hold. -/
theorem packComponents_unpack :
    UnpackedFloat.packComponents .binary64 (.ofBitVec (UnpackedFloat.unpackSign b))
      (UnpackedFloat.unpackExponent b) (UnpackedFloat.unpackMantissa b) = b := by
  have hsign : ∀ s : BitVec 1, (UnpackedFloat.Sign.ofBitVec s).toBitVec = s := by decide
  have hlt : b.toNat < 2 ^ 64 := b.isLt
  apply BitVec.eq_of_toNat_eq
  rw [UnpackedFloat.packComponents, hsign, BitVec.toNat_append, BitVec.toNat_append,
    ← Nat.shiftLeft_add_eq_or_of_lt (UnpackedFloat.unpackMantissa b).isLt,
    ← Nat.shiftLeft_add_eq_or_of_lt (UnpackedFloat.unpackExponent b).isLt]
  simp [UnpackedFloat.unpackSign, UnpackedFloat.unpackExponent, UnpackedFloat.unpackMantissa,
    Nat.shiftRight_eq_div_pow, Nat.shiftLeft_eq]
  omega

variable {b}

/-- A mantissa below its first bit is stored with the exponent zero. -/
theorem pack_of_subnormal {s : UnpackedFloat.Sign} {m : Nat} (hm : 0 < m) (hlt : m < 2 ^ 52) :
    UnpackedFloat.pack .binary64 (.finite s m (-1074) hm)
      = UnpackedFloat.packComponents .binary64 s 0#_ (BitVec.ofNat _ m) := by
  have hlog : m.log2 < 52 := (Nat.log2_lt (Nat.ne_of_gt hm)).2 hlt
  have hshort : ¬ m.log2 + 1 = Format.binary64.mantissaBits := by
    change ¬ m.log2 + 1 = 53
    omega
  have hbiased : ((-1074 : Int) + Format.binary64.exponentBias
      + Format.binary64.mantissaBitsWithoutImplicit).toNat = 1 := rfl
  rw [UnpackedFloat.pack]
  dsimp only
  rw [hbiased, if_neg (by decide), if_neg hshort]

/-- A mantissa of 53 bits is stored with its exponent and without its first bit. -/
theorem pack_of_normal {s : UnpackedFloat.Sign} {m e : Nat} (hm : 0 < 2 ^ 52 + m)
    (hlt : m < 2 ^ 52) (he : e + 1 < 2 ^ 11) :
    UnpackedFloat.pack .binary64 (.finite s (2 ^ 52 + m) ((e : Int) - 1075) hm)
      = UnpackedFloat.packComponents .binary64 s (BitVec.ofNat _ e) (BitVec.ofNat _ m) := by
  have hbits : (2 ^ 52 + m).log2 + 1 = Format.binary64.mantissaBits := by
    rw [log2_of_53_bits (by omega) (by omega)]
    rfl
  have hbiased : ((e : Int) - 1075 + Format.binary64.exponentBias
      + Format.binary64.mantissaBitsWithoutImplicit).toNat = e := by
    change ((e : Int) - 1075 + (1023 : Nat) + (52 : Nat)).toNat = e
    omega
  have hfits : ¬ 2 ^ Format.binary64.exponentBits ≤ e + 1 := Nat.not_le.2 he
  have hrest : BitVec.ofNat Format.binary64.mantissaBitsWithoutImplicit (2 ^ 52 + m)
      = BitVec.ofNat _ m := by
    apply BitVec.eq_of_toNat_eq
    rw [BitVec.toNat_ofNat, BitVec.toNat_ofNat]
    exact Nat.add_mod_left _ _
  rw [UnpackedFloat.pack]
  dsimp only
  rw [hbiased, if_neg hfits, if_pos hbits, hrest]

/-- **Bits are stored as they are**, those of the undefined number apart. -/
theorem pack_unpack (h : UnpackedFloat.isNaNBits b = false) :
    UnpackedFloat.pack .binary64 (.unpack .binary64 b) = b := by
  have hparts := packComponents_unpack b
  have hm : (UnpackedFloat.unpackMantissa b).toNat < 2 ^ 52 := (UnpackedFloat.unpackMantissa b).isLt
  have he : (UnpackedFloat.unpackExponent b).toNat < 2 ^ 11 := (UnpackedFloat.unpackExponent b).isLt
  rw [UnpackedFloat.isNaNBits, decide_eq_false_iff_not] at h
  rw [UnpackedFloat.unpack]
  dsimp only
  by_cases hfull : UnpackedFloat.unpackExponent b = -1#_
  · have hzero : UnpackedFloat.unpackMantissa b = 0#_ := by
      by_contra hne
      exact h ⟨hfull, hne⟩
    rw [if_pos hfull, if_pos hzero, UnpackedFloat.pack, UnpackedFloat.packedInfinity, ← hfull]
    conv_rhs => rw [← hparts, hzero]
    rfl
  · rw [if_neg hfull]
    by_cases hzero : UnpackedFloat.unpackExponent b = 0#_
    · rw [if_pos hzero]
      by_cases hnone : UnpackedFloat.unpackMantissa b = 0#_
      · rw [dif_pos hnone, UnpackedFloat.pack, UnpackedFloat.packedZero]
        conv_rhs => rw [← hparts, hzero, hnone]
        rfl
      · have hpos : 0 < (UnpackedFloat.unpackMantissa b).toNat := by
          refine Nat.pos_of_ne_zero fun hnat => hnone ?_
          exact BitVec.eq_of_toNat_eq hnat
        have hexp : ((UnpackedFloat.unpackExponent b).toNat : Int)
            - (Format.binary64.exponentBias + Format.binary64.mantissaBitsWithoutImplicit) + 1
            = -1074 := by
          rw [hzero]
          rfl
        simp only [dif_neg hnone, hexp]
        rw [pack_of_subnormal hpos hm, ← hzero, BitVec.ofNat_toNat, BitVec.setWidth_eq]
        exact hparts
    · have hexp : (UnpackedFloat.unpackExponent b).toNat + 1 < 2 ^ 11 := by
        have hne : (UnpackedFloat.unpackExponent b).toNat ≠ 2 ^ 11 - 1 := by
          intro hnat
          exact hfull (BitVec.eq_of_toNat_eq hnat)
        omega
      have hvalue : (1#1 ++ UnpackedFloat.unpackMantissa b).toNat
          = 2 ^ 52 + (UnpackedFloat.unpackMantissa b).toNat := by
        rw [BitVec.toNat_append,
          ← Nat.shiftLeft_add_eq_or_of_lt (UnpackedFloat.unpackMantissa b).isLt]
        rfl
      simp only [if_neg hzero, hvalue]
      refine (pack_of_normal (by omega) hm hexp).trans ?_
      rw [BitVec.ofNat_toNat, BitVec.setWidth_eq, BitVec.ofNat_toNat, BitVec.setWidth_eq]
      exact hparts

end Bits

/-- Bits up to those of infinity are stored as they are, with either sign. -/
theorem toNat_toBits_ofBits (negative : Bool) {bits : Nat} (h : bits ≤ 2047 * leadingBit) :
    (Float.ofBits (UInt64.ofNat (if negative then signBit + bits else bits))).toBits.toNat
      = if negative then signBit + bits else bits := by
  have hdefined := isNaN_ofBits_of_le negative h
  have hfits : (if negative then signBit + bits else bits) < 2 ^ 64 := by
    simp only [signBit, leadingBit] at *
    split <;> omega
  generalize (if negative then signBit + bits else bits) = w at *
  change (Float.Model.pack _).isNaN = false at hdefined
  rw [isNaN_pack, isNaN_unpack] at hdefined
  change (UnpackedFloat.pack .binary64 (UnpackedFloat.unpack .binary64 (UInt64.ofNat w).toBitVec)).toNat
    = w
  rw [pack_unpack hdefined]
  change (UInt64.ofNat w).toNat = w
  rw [UInt64.toNat_ofNat', Nat.mod_eq_of_lt hfits]

theorem toNat_toBits_ofRatio (negative : Bool) (num den : Nat) :
    (ofRatio negative num den).toBits.toNat
      = if negative then signBit + magnitudeBits num den else magnitudeBits num den :=
  toNat_toBits_ofBits negative (magnitudeBits_le num den)

/-! ### Integers cut down again -/

/-- **The least natural number whose nearest binary number is infinite**: half a unit behind the
greatest finite one. -/
def overflow : Nat := 2 ^ 1024 - 2 ^ 970

-- The exponents are variables here, so that no power is written out.
theorem nearest_lt_iff {n k : Nat} (hk : k = 1023) : nearest n < 2 ^ (k + 1) ↔ n < overflow := by
  have hfirst : nearest overflow = 2 ^ (k + 1) := by
    rw [hk]
    decide +kernel
  have hlast : nearest (overflow - 1) < 2 ^ (k + 1) := by
    rw [hk]
    decide +kernel
  constructor
  · intro h
    by_contra hle
    have hmono := nearest_mono (Nat.not_lt.1 hle)
    rw [hfirst] at hmono
    exact absurd h (Nat.not_lt.2 hmono)
  · intro h
    exact Nat.lt_of_le_of_lt (nearest_mono (Nat.le_sub_one_of_lt h)) hlast

theorem overflow_le_pow {k : Nat} (hk : k = 350) : overflow ≤ 10 ^ k := by
  rw [hk]
  decide +kernel

/-- The exponent tells where the nearest number lies. -/
theorem nearest_lt_two_pow_iff {n m j : Nat} (hlow : 2 ^ 52 ≤ m) (hhigh : m < 2 ^ 53)
    (hvalue : m * 2 ^ j = nearest n * 2 ^ 52) (k : Nat) : nearest n < 2 ^ (k + 1) ↔ j ≤ k := by
  have hpos := Nat.two_pow_pos 52
  constructor
  · intro h
    by_contra hj
    have hle : 2 ^ 52 * 2 ^ (k + 1) ≤ nearest n * 2 ^ 52 := by
      rw [← hvalue]
      exact Nat.mul_le_mul hlow (Nat.pow_le_pow_right (by decide) (by omega))
    rw [Nat.mul_comm] at hle
    exact absurd h (Nat.not_lt.2 (Nat.le_of_mul_le_mul_right hle hpos))
  · intro hj
    have hlt : nearest n * 2 ^ 52 < 2 ^ (k + 1) * 2 ^ 52 := by
      calc nearest n * 2 ^ 52 = m * 2 ^ j := hvalue.symm
        _ < 2 ^ 53 * 2 ^ j := (Nat.mul_lt_mul_right (Nat.two_pow_pos j)).2 hhigh
        _ ≤ 2 ^ 53 * 2 ^ k := Nat.mul_le_mul_left _ (Nat.pow_le_pow_right (by decide) hj)
        _ = 2 ^ (k + 1) * 2 ^ 52 := by rw [Nat.pow_succ 2 k, Nat.pow_succ 2 52]; omega
    exact Nat.lt_of_mul_lt_mul_right hlt

section Truncate

variable (negative : Bool) {n : Nat}

/-- **The parts of an integer in binary**: a mantissa and an exponent that give the nearest number,
up to where it is infinite. -/
theorem parts_ofRatio (hn : 0 < n) :
    (n < overflow ∧ ∃ m j : Nat, m * 2 ^ j = nearest n * 2 ^ 52
      ∧ parts (ofRatio negative n 1) = .finite negative m ((j : Int) - 52))
    ∨ (overflow ≤ n ∧ parts (ofRatio negative n 1) = .infinite negative) := by
  have hsign : signBit = 2 ^ 63 := rfl
  have hleading : leadingBit = 2 ^ 52 := rfl
  obtain ⟨m, j, hlow, hhigh, -, hvalue, hsum, -⟩ := exists_canonical hn
  have hbits : magnitudeBits n 1 = min ((j + 1022) * 2 ^ 52 + m) (2047 * 2 ^ 52) := by
    rw [magnitudeBits_eq_min hn, Nat.add_mul, Nat.add_right_comm, ← hsum, Nat.add_right_comm,
      ← Nat.add_mul]
  have hstored := toNat_toBits_ofRatio negative n 1
  rw [hbits, hsign] at hstored
  obtain ⟨last, hlast⟩ : ∃ k, k = 1023 := ⟨_, rfl⟩
  have hplace := (nearest_lt_two_pow_iff hlow hhigh hvalue last).symm.trans (nearest_lt_iff hlast)
  rw [hlast] at hplace
  by_cases hj : j ≤ 1023
  · refine .inl ⟨hplace.1 hj, m, j, hvalue, ?_⟩
    rw [Nat.min_eq_left (by omega)] at hstored
    have hfield : (ofRatio negative n 1).toBits.toNat / 2 ^ 52 % 2048 = j + 1023 := by
      rw [hstored]
      split <;> omega
    have hfraction : (ofRatio negative n 1).toBits.toNat % 2 ^ 52 = m - 2 ^ 52 := by
      rw [hstored]
      split <;> omega
    have hnegative : decide (2 ^ 63 ≤ (ofRatio negative n 1).toBits.toNat) = negative := by
      rw [hstored]
      cases negative with
      | false =>
          rw [if_neg Bool.false_ne_true, decide_eq_false_iff_not]
          omega
      | true =>
          rw [if_pos rfl, decide_eq_true_iff]
          omega
    have hmantissa : 2 ^ 52 + (m - 2 ^ 52) = m := by omega
    have hexponent : ((j + 1023 : Nat) : Int) - 1075 = (j : Int) - 52 := by omega
    simp only [parts, partsOfBits, hsign, hleading, hfield, hfraction, hnegative]
    rw [if_neg (by omega), if_neg (by omega), hmantissa, hexponent]
  · refine .inr ⟨Nat.not_lt.1 fun h => hj (hplace.2 h), ?_⟩
    rw [Nat.min_eq_right (by omega)] at hstored
    rw [parts, hstored]
    cases negative <;> decide

/-- **An integer cut down again** is the nearest number of 53 significant bits. -/
theorem truncate?_ofRatio (hn : 0 < n) : truncate? (ofRatio negative n 1)
    = if n < overflow then some (signed negative (nearest n)) else none := by
  rcases parts_ofRatio negative hn with ⟨hlt, m, j, hvalue, hparts⟩ | ⟨hle, hparts⟩
  · obtain ⟨d, hd, hfraction⟩ := exists_fraction_eq hvalue
    simp only [truncate?, hparts, hfraction, if_pos hlt, Nat.mul_div_cancel _ hd]
  · simp only [truncate?, hparts, if_neg (Nat.not_lt.2 hle)]

theorem truncate?_infinity : truncate? (infinity negative) = none := by
  cases negative <;> decide

end Truncate

end Binary

/-! ### Integers read from their digits -/

namespace Digits

variable {cs : List Char}

/-- Zeros in front of a number count for nothing. -/
theorem read_dropZeros (cs : List Char) : read (cs.dropWhile (· == '0')) = read cs := by
  induction cs with
  | nil => rfl
  | cons c cs ih =>
      by_cases hc : c = '0'
      · rw [hc]
        exact ih
      · rw [List.dropWhile_cons_of_neg (by simpa using hc)]

/-- A number without zeros in front is as large as its digits are many. -/
theorem pow_le_read_dropZeros (h : cs.all isDigit = true)
    (hne : cs.dropWhile (· == '0') ≠ []) :
    10 ^ ((cs.dropWhile (· == '0')).length - 1) ≤ read (cs.dropWhile (· == '0')) := by
  induction cs with
  | nil => exact absurd rfl hne
  | cons c cs ih =>
      rw [List.all_cons, Bool.and_eq_true] at h
      by_cases hc : c = '0'
      · rw [hc] at hne ⊢
        exact ih h.2 hne
      · have hvalue : 0 < value c :=
          of_isDigit (fun c => c ≠ '0' → 0 < value c) (by decide) h.1 hc
        have hread : read (c :: cs) = value c * 10 ^ cs.length + read cs := by
          rw [read, List.foldl_cons, foldl_read, Nat.mul_zero, Nat.zero_add]
        rw [List.dropWhile_cons_of_neg (by simpa using hc), hread, List.length_cons,
          Nat.add_sub_cancel]
        exact Nat.le_add_right_of_le (Nat.le_mul_of_pos_left _ hvalue)

end Digits

namespace Number

variable {cs : List Char} (negative : Bool)

/-- **Digits are read as a number in binary**, infinite if they are too many. -/
theorem readUnsigned?_of_isNumber (h : Digits.IsNumber cs) : readUnsigned? negative cs
    = some (Binary.ofDecimal negative (Digits.read cs) (cs.dropWhile (· == '0')).length 0) := by
  have hall := List.all_eq_true.1 h.2
  have hspan : Digits.span cs = (cs, []) := by
    rw [Digits.span, List.span_eq_takeWhile_dropWhile, List.takeWhile_eq_self_iff.2 hall,
      List.dropWhile_eq_nil_iff.2 hall]
  have hword (word : String) (hn : 'n' ∈ word.toList) : isWord word cs = false := by
    rw [isWord, beq_eq_false_iff_ne]
    intro heq
    rw [← heq] at hn
    obtain ⟨c, hc, hcn⟩ := List.mem_map.1 hn
    exact Digits.of_isDigit (fun c => c.toLower ≠ 'n') (by decide) (hall c hc) hcn
  simp [readUnsigned?, hword "inf" (by decide), hword "infinity" (by decide),
    hword "nan" (by decide), readMagnitude?, hspan, h.1, readExponent?, Digits.read_dropZeros]

/-- Cutting down the number that digits give. -/
theorem truncate?_ofDecimal (h : cs.all Digits.isDigit = true) (hpos : 0 < Digits.read cs) :
    Binary.truncate? (Binary.ofDecimal negative (Digits.read cs)
        (cs.dropWhile (· == '0')).length 0)
      = Binary.truncate? (Binary.ofRatio negative (Digits.read cs) 1) := by
  have hne : cs.dropWhile (· == '0') ≠ [] := by
    intro hnil
    have hread := Digits.read_dropZeros cs
    rw [hnil] at hread
    exact absurd hread (Nat.ne_of_lt hpos)
  have hlarge := Digits.pow_le_read_dropZeros h hne
  rw [Digits.read_dropZeros] at hlarge
  rw [Binary.ofDecimal, if_neg (by omega), if_neg (by omega)]
  split
  · -- more digits than any finite number has
    obtain ⟨few, hfew⟩ : ∃ k, k = 350 := ⟨_, rfl⟩
    have hlength : few ≤ (cs.dropWhile (· == '0')).length - 1 := by omega
    have hover : Binary.overflow ≤ Digits.read cs :=
      Nat.le_trans (Binary.overflow_le_pow hfew)
        (Nat.le_trans (Nat.pow_le_pow_right (by decide) hlength) hlarge)
    rw [Binary.truncate?_infinity, Binary.truncate?_ofRatio _ hpos, if_neg (Nat.not_lt.2 hover)]
  · rw [if_pos (Int.le_refl 0), Int.toNat_zero, Nat.pow_zero, Nat.mul_one]

/-- The sign of a number, and its magnitude in binary cut down. -/
theorem truncate?_readUnsigned? (h : Digits.IsNumber cs) (hpos : 0 < Digits.read cs) :
    (readUnsigned? negative cs).bind Binary.truncate? = if Digits.read cs < Binary.overflow then
      some (Binary.signed negative (Binary.nearest (Digits.read cs))) else none := by
  rw [readUnsigned?_of_isNumber negative h, Option.bind_some, truncate?_ofDecimal negative h.2 hpos,
    Binary.truncate?_ofRatio negative hpos]

/-- **An integer that is read in binary and cut down** is the nearest number of 53 significant bits;
one that is too large gives nothing. -/
theorem truncate?_readFloat? {n : Int} (h : Digits.Signed cs n) (hn : n ≠ 0) :
    (readFloat? cs).bind Binary.truncate? = if n.natAbs < Binary.overflow then
      some (Binary.signed (decide (n < 0)) (Binary.nearest n.natAbs)) else none := by
  have hpositive {ds : List Char} (hne : (Digits.read ds : Int) ≠ 0) :
      0 < Digits.read ds ∧ decide ((Digits.read ds : Int) < 0) = false
        ∧ (Digits.read ds : Int).natAbs = Digits.read ds :=
    ⟨by omega, decide_eq_false (by omega), Int.natAbs_natCast _⟩
  cases h with
  | plain hds =>
      obtain ⟨hpos, hsign, habs⟩ := hpositive hn
      have hread : readFloat? cs = readUnsigned? false cs := by
        unfold readFloat?
        split
        · exact absurd List.mem_cons_self (hds.notMem (by decide))
        · exact absurd List.mem_cons_self (hds.notMem (by decide))
        · rfl
      rw [hread, truncate?_readUnsigned? false hds hpos, hsign, habs]
  | plus hds =>
      obtain ⟨hpos, hsign, habs⟩ := hpositive hn
      rw [readFloat?, truncate?_readUnsigned? false hds hpos, hsign, habs]
  | @minus ds hds =>
      have hpos : 0 < Digits.read ds := by omega
      have hsign : decide (-(Digits.read ds : Int) < 0) = true := decide_eq_true (by omega)
      rw [readFloat?, truncate?_readUnsigned? true hds hpos, hsign, Int.natAbs_neg,
        Int.natAbs_natCast]

end Number

end EventQuery
