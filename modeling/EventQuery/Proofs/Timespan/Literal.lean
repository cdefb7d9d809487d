/-
**What is read back of the literal form of timespans.**

The literal form is a whole number with a unit.  Reading it converts the number to binary
arithmetic, where the product with the unit is taken, so numbers of more than 53 significant bits
are rounded, once as they stand and once as nanoseconds.  The form itself drops what is below a
tick, and below a second from `2 ^ 63` nanoseconds on.

Main results:

* `Number.readFloat?_write` — digits are converted to the nearest number;
* `Timespan.readLiteral?_unit` — **a number with a unit** is rounded twice;
* `Timespan.readLiteral?_literalChars`, `Timespan.readLiteral?_literalChars_iff` — the literal form
  of a timespan of 64 bits, and which whole ticks come back;
* `Timespan.readLiteral?_literal` — **what is read back**: all of it as far as it is whole ticks of
  at most 53 significant bits.
-/

import EventQuery.Proofs.Grammar.Expression
import EventQuery.Proofs.Number.Rounding
import EventQuery.Proofs.Timespan.RoundTrip

set_option relaxedAutoImplicit false
set_option autoImplicit false

namespace EventQuery

-- Powers are those of the core library, whatever other instances are in scope.
attribute [local instance (2000)] instPowNat

open Binary (Holds nearest)

namespace Number

/-! ### Digits in binary arithmetic -/

/-- The digits of a number without leading zeros; there are none of zero. -/
theorem dropZeros_write (k : Nat) : (Digits.write k).dropWhile (· == '0')
    = if k = 0 then [] else Digits.write k := by
  split
  · next hzero =>
      rw [hzero]
      decide
  · next hne =>
      obtain ⟨c, cs, hchars, hc⟩ :=
        Digits.writeOnto_head (Nat.pos_of_ne_zero hne) (Digits.lt_pow_log2_succ k) []
      rw [Digits.write, hchars, List.dropWhile_cons_of_neg (by simpa using hc)]

/-- **Digits are converted to binary arithmetic.** -/
theorem readFloat?_write {k : Nat} (hk : k < 10 ^ 20) :
    readFloat? (Digits.write k) = some (Binary.ofRatio false k 1) := by
  have hall := List.all_eq_true.1 (Digits.all_isDigit_write k)
  have hnumeral : ∀ c ∈ Digits.write k, Timespan.isNumeral c = true := by
    intro c hc
    rw [Timespan.isNumeral, hall c hc, Bool.true_or]
  have hspan : Digits.span (Digits.write k) = (Digits.write k, []) := by
    rw [Digits.span, List.span_eq_takeWhile_dropWhile, List.takeWhile_eq_self_iff.2 hall,
      List.dropWhile_eq_nil_iff.2 hall]
  have hlength : (Digits.write k).length ≤ 20 := Digits.length_writeOnto_le hk
  have hempty : (Digits.write k).isEmpty = false :=
    List.isEmpty_eq_false_iff.2 (Digits.write_ne_nil k)
  rw [Timespan.readFloat?_of_isNumeral hnumeral]
  simp only [readMagnitude?, hspan, hempty, Bool.false_and, Bool.false_eq_true, if_false,
    readExponent?, Option.map_some, List.append_nil, List.length_nil, dropZeros_write]
  by_cases hzero : k = 0
  · rw [if_pos hzero, hzero]
    rfl
  · rw [if_neg hzero, Digits.read_write, Binary.ofDecimal, if_neg hzero, if_neg (by omega),
      if_neg (by omega), if_pos (by decide)]
    simp

end Number

namespace Timespan

/-! ### Numbers with a unit -/

/-- A number that is converted exactly. -/
theorem holds_exact {n : Nat} {x : Float} (hx : x = Binary.ofRatio false n 1) (hn : 0 < n)
    (hexact : nearest n = n) (hfits : n.log2 ≤ 900) : Holds x n := by
  have h := Binary.holds_ofRatio hn hfits
  rwa [hexact, ← hx] at h

/-- **The units of the literal form** are numbers of nanoseconds, and zero of any of them is
nothing. -/
theorem holds_unit {size : Int} {name : String} (h : (size, name) ∈ literalUnits) :
    ∃ x, unitNanos? name = some x ∧ Holds x size.toNat
      ∧ ofFloat? (Binary.ofRatio false 0 1 * x) = some zero := by
  have hnanos : ∀ u ∈ literalUnits, unitNanos? u.2 = some (Binary.ofRatio false u.1.toNat 1) := by
    decide
  have hzero : ∀ u ∈ literalUnits,
      ofFloat? (Binary.ofRatio false 0 1 * Binary.ofRatio false u.1.toNat 1) = some zero := by
    decide +kernel
  have hsize : ∀ u ∈ literalUnits, 0 < u.1.toNat ∧ u.1.toNat < 2 ^ 53 := by decide
  obtain ⟨hpos, hsmall⟩ := hsize _ h
  have hlog : size.toNat.log2 < 53 := (Nat.log2_lt (Nat.ne_of_gt hpos)).2 hsmall
  exact ⟨_, hnanos _ h, holds_exact rfl hpos (Binary.nearest_of_lt hsmall) (by omega), hzero _ h⟩

/-- The greatest number of nanoseconds that is read. -/
theorem holds_bound : Holds 9223372036854775808 (2 ^ 63) :=
  holds_exact (by decide) (by decide) (by decide +kernel) (by decide)

/-- **A number of nanoseconds** in binary arithmetic is read as it is, up to the bound of 64
bits. -/
theorem ofFloat?_of_holds {x : Float} {n : Nat} (h : Holds x n) :
    ofFloat? x = if 2 ^ 63 < n then none else some (ofLong (Number.clampLong n)) := by
  have hlt : (9223372036854775808 : Float) < x ↔ 2 ^ 63 < n := holds_bound.lt_iff h
  simp only [ofFloat?, h.roundHalfAway?, hlt]

/-- The words of the units stand bare and do not go on with the number. -/
theorem unit_name {size : Int} {name : String} (h : (size, name) ∈ literalUnits) :
    Token.Bare name.toList ∧ name.toList ≠ [] ∧ 0 < size ∧ size ≤ 86400000000000
      ∧ name.toList.any isNumeral = false := by
  have hbare : ∀ u ∈ literalUnits, Token.Bare u.2.toList := by decide
  have hne : ∀ u ∈ literalUnits, u.2.toList ≠ [] := by decide
  have hsize : ∀ u ∈ literalUnits, 0 < u.1 ∧ u.1 ≤ 86400000000000 := by decide
  have hletters : ∀ u ∈ literalUnits, u.2.toList.any isNumeral = false := by decide
  exact ⟨hbare _ h, hne _ h, (hsize _ h).1, (hsize _ h).2, hletters _ h⟩

/-- The number and the unit are told apart. -/
theorem span_unit (k : Nat) {size : Int} {name : String} (h : (size, name) ∈ literalUnits) :
    (Digits.write k ++ name.toList).span (fun c => Digits.isDigit c || c == '.')
      = (Digits.write k, name.toList) := by
  change (Digits.write k ++ name.toList).span isNumeral = _
  obtain ⟨-, hne, -, -, hletters⟩ := unit_name h
  have hdigits : ∀ c ∈ Digits.write k, isNumeral c = true := by
    intro c hc
    rw [isNumeral, List.all_eq_true.1 (Digits.all_isDigit_write k) c hc, Bool.true_or]
  obtain ⟨c, cs, hchars⟩ := List.exists_cons_of_ne_nil hne
  have hc : isNumeral c = false := by
    rw [hchars, List.any_cons, Bool.or_eq_false_iff] at hletters
    exact hletters.1
  rw [List.span_eq_takeWhile_dropWhile, List.takeWhile_append_of_pos hdigits,
    List.dropWhile_append_of_pos hdigits, hchars, List.takeWhile_cons_of_neg (by simp [hc]),
    List.dropWhile_cons_of_neg (by simp [hc]), List.append_nil]

/-- What becomes of a whole number of a unit: it is rounded as it stands and as nanoseconds. -/
def roundedTwice (k size : Nat) : Nat := nearest (nearest k * size)

/-- A number with a unit is their product in binary arithmetic. -/
theorem readLiteral?_eq_ofFloat? {k : Nat} {size : Int} {name : String} {unit : Float}
    (h : (size, name) ∈ literalUnits) (hunit : unitNanos? name = some unit) (hk : k < 2 ^ 64) :
    readLiteral? (String.ofList (Digits.write k ++ name.toList))
      = ofFloat? (Binary.ofRatio false k 1 * unit) := by
  obtain ⟨hbare, hne, -, -, -⟩ := unit_name h
  have hbare' : Token.Bare (Digits.write k ++ name.toList) :=
    Token.bare_append.2 ⟨Token.bare_write k, hbare⟩
  have hfits : k < 10 ^ 20 := Nat.lt_trans hk (by decide)
  have hempty : ((Digits.write k).isEmpty || name.toList.isEmpty) = false := by
    rw [List.isEmpty_eq_false_iff.2 (Digits.write_ne_nil k), List.isEmpty_eq_false_iff.2 hne]
    rfl
  unfold readLiteral?
  dsimp only
  rw [String.toList_ofList, hbare'.strip, span_unit k h]
  dsimp only
  rw [hempty, if_neg Bool.false_ne_true, Number.readFloat?_write hfits, String.ofList_toList, hunit]
  rfl

/-- No unit takes a number of 64 bits out of the range of binary arithmetic. -/
theorem nearest_mul_lt {k size : Nat} (hk : k < 2 ^ 64) (hsize : size ≤ 86400000000000) :
    nearest k * size < 2 ^ 112 := by
  have hnearest : nearest k ≤ 2 ^ 64 := by
    have hlast : nearest (2 ^ 64) = 2 ^ 64 := by decide
    rw [← hlast]
    exact Binary.nearest_mono (Nat.le_of_lt hk)
  calc nearest k * size ≤ 2 ^ 64 * 86400000000000 := Nat.mul_le_mul hnearest hsize
    _ < 2 ^ 112 := by decide

/-- **A number with a unit** is rounded twice. -/
theorem readLiteral?_unit {k : Nat} {size : Int} {name : String} (h : (size, name) ∈ literalUnits)
    (hk : k < 2 ^ 64) : readLiteral? (String.ofList (Digits.write k ++ name.toList))
      = if 2 ^ 63 < roundedTwice k size.toNat then none
        else some (ofLong (Number.clampLong (roundedTwice k size.toNat))) := by
  obtain ⟨unit, hunit, hholds, hzero⟩ := holds_unit h
  rw [readLiteral?_eq_ofFloat? h hunit hk]
  by_cases hk0 : k = 0
  · rw [hk0, hzero]
    have hnone : roundedTwice 0 size.toNat = 0 := by
      have hzero : nearest 0 = 0 := Binary.nearest_of_lt (by decide)
      rw [roundedTwice, hzero, Nat.zero_mul, hzero]
    rw [hnone]
    rfl
  · obtain ⟨-, -, hsize, hsize', -⟩ := unit_name h
    have hlog : k.log2 < 64 := (Nat.log2_lt hk0).2 hk
    have hnumber := Binary.holds_ofRatio (n := k) (by omega) (by omega)
    have hpositive : nearest k * size.toNat ≠ 0 :=
      Nat.mul_ne_zero (Nat.ne_of_gt hnumber.pos) (by omega)
    have hproduct : (nearest k * size.toNat).log2 < 112 :=
      (Nat.log2_lt hpositive).2 (nearest_mul_lt hk (by omega))
    rw [ofFloat?_of_holds (hnumber.mul hholds (by omega)), roundedTwice]

/-- What is read fits in 64 bits. -/
theorem nanos_lt_of_readLiteral? {s : String} {t : Timespan} (h : readLiteral? s = some t) :
    t.nanos < 2 ^ 63 := by
  unfold readLiteral? at h
  dsimp only at h
  split at h
  · cases h
  · simp only [Option.bind_eq_bind, Option.bind_eq_some_iff] at h
    obtain ⟨x, -, unit, -, hspan⟩ := h
    unfold ofFloat? at hspan
    split at hspan
    · cases hspan
    · split at hspan
      · cases hspan
      · cases hspan
        exact Int64.toInt_lt _

/-! ### The literal form of 64 bits -/

variable {t : Timespan}

/-- **The literal form** is a whole number of a unit: of a unit that comes out even, or of ticks. -/
theorem literalChars_eq (h : 0 ≤ t.nanos) (hfits : t.nanos < 2 ^ 63) :
    ∃ size name, (size, name) ∈ literalUnits
      ∧ (size = 100 ∨ 1000000 ∣ size ∧ size ∣ t.nanos)
      ∧ t.literalChars = Digits.write (t.nanos.toNat / size.toNat) ++ name.toList := by
  obtain ⟨n, hn⟩ := Option.isSome_iff_exists.1 (Number.long?_isSome_iff.2
    (show -0x8000000000000000 ≤ t.nanos ∧ t.nanos < 0x8000000000000000 by omega))
  have hnanos : n.toInt = t.nanos := Number.toInt_of_long? hn
  have hwrite {size : Int} (hsize : 0 < size) : Digits.writeInt (t.nanos.tdiv size)
      = Digits.write (t.nanos.toNat / size.toNat) := by
    have hdiv : t.nanos.tdiv size = (t.nanos.toNat / size.toNat : Nat) := by
      obtain ⟨k, hk⟩ := Int.eq_ofNat_of_zero_le h
      obtain ⟨m, hm⟩ := Int.eq_ofNat_of_zero_le (Int.le_of_lt hsize)
      rw [hk, hm]
      rfl
    rw [hdiv, Digits.writeInt, if_neg (Int.not_lt.2 (Int.natCast_nonneg _)), Int.natAbs_natCast]
  have hunits : ∀ u ∈ literalUnits, 0 < u.1 ∧ (u.1 = 100 ∨ 1000000 ∣ u.1) := by decide
  rw [literalChars, nanos64?, hn]
  dsimp only
  rw [hnanos]
  split
  · next size name hfind =>
      have hmem := List.mem_of_find?_eq_some hfind
      have heven : t.nanos.tmod size = 0 := by simpa using List.find?_some hfind
      obtain ⟨hsize, hkind⟩ := hunits _ hmem
      refine ⟨size, name, hmem, ?_, by rw [hwrite hsize]⟩
      exact hkind.imp_right fun hlarge => ⟨hlarge, Int.dvd_of_tmod_eq_zero heven⟩
  · exact ⟨100, "tick", by decide, .inl rfl, by rw [hwrite (by decide)]⟩

/-- A unit that comes out even is as good as ticks. -/
theorem roundedTwice_of_dvd {n m : Nat} (hn : n < 2 ^ 63) (hm : 1000000 ∣ m) (hpos : 0 < m)
    (hdvd : m ∣ n) : roundedTwice (n / m) m = roundedTwice (n / 100) 100 := by
  have hwhole : n / m * m = n := Nat.div_mul_cancel hdvd
  have hmin : 1000000 ≤ m := Nat.le_of_dvd hpos hm
  have hunits : nearest (n / m) = n / m := by
    refine Binary.nearest_of_lt ?_
    have hdiv : n / m ≤ n / 1000000 := Nat.div_le_div_left hmin (by decide)
    omega
  have hticks : nearest (n / 100) = n / 100 := by
    obtain ⟨q, rfl⟩ := Nat.dvd_trans hm hdvd
    have hq : 1000000 * q / 100 = 2 ^ 4 * (625 * q) := by omega
    rw [Binary.nearest_eq_self_iff]
    by_cases hzero : 1000000 * q / 100 = 0
    · rw [hzero]
      exact Nat.dvd_zero _
    · have hlog : (1000000 * q / 100).log2 < 57 := (Nat.log2_lt hzero).2 (by omega)
      refine Nat.dvd_trans (Nat.pow_dvd_pow 2 (show _ ≤ 4 by omega)) ?_
      rw [hq]
      exact Nat.dvd_mul_right _ _
  have heven : n / 100 * 100 = n := by
    obtain ⟨q, rfl⟩ := Nat.dvd_trans hm hdvd
    omega
  rw [roundedTwice, roundedTwice, hunits, hticks, hwhole, heven]

/-- Ticks of 64 bits of nanoseconds stay within the bound. -/
theorem roundedTwice_le {k : Nat} (h : k * 100 < 2 ^ 63) : roundedTwice k 100 ≤ 2 ^ 63 := by
  have hlast : nearest 92233720368547758 = 92233720368547760 := by decide
  have hbound : nearest 9223372036854776000 = 2 ^ 63 := by decide
  have hfirst := Binary.nearest_mono (show k ≤ 92233720368547758 by omega)
  rw [hlast] at hfirst
  rw [← hbound]
  exact Binary.nearest_mono (show nearest k * 100 ≤ 9223372036854776000 by omega)

/-- **What is read back of the literal form**: the whole ticks, rounded as they stand and as
nanoseconds. -/
theorem readLiteral?_literalChars (h : 0 ≤ t.nanos) (hfits : t.nanos < 2 ^ 63) :
    readLiteral? t.literal
      = some (ofLong (Number.clampLong (roundedTwice (t.nanos.toNat / 100) 100))) := by
  obtain ⟨size, name, hmem, hkind, htext⟩ := literalChars_eq h hfits
  obtain ⟨-, -, hsize, -, -⟩ := unit_name hmem
  have hn : t.nanos.toNat < 2 ^ 63 := by omega
  have hk : t.nanos.toNat / size.toNat < 2 ^ 64 :=
    Nat.lt_of_le_of_lt (Nat.div_le_self _ _) (by omega)
  have hsame : roundedTwice (t.nanos.toNat / size.toNat) size.toNat
      = roundedTwice (t.nanos.toNat / 100) 100 := by
    rcases hkind with rfl | ⟨hlarge, hdvd⟩
    · rfl
    · refine roundedTwice_of_dvd hn ?_ (by omega) ?_
      · exact Int.natCast_dvd_natCast.1 (by rwa [Int.toNat_of_nonneg (Int.le_of_lt hsize)])
      · exact Int.natCast_dvd_natCast.1
          (by rwa [Int.toNat_of_nonneg (Int.le_of_lt hsize), Int.toNat_of_nonneg h])
  have hbound : roundedTwice (t.nanos.toNat / 100) 100 ≤ 2 ^ 63 := roundedTwice_le (by omega)
  rw [literal, htext, readLiteral?_unit hmem hk, hsame, if_neg (by omega)]

/-- The nanoseconds that come of a number up to the bound. -/
theorem nanos_ofLong_clampLong {v : Nat} (h : v ≤ 2 ^ 63) :
    (ofLong (Number.clampLong v)).nanos = (min v (2 ^ 63 - 1) : Nat) := by
  have hnanos (x : Int64) : (ofLong x).nanos = x.toInt := rfl
  have hmax : Int64.maxValue.toInt = 2 ^ 63 - 1 := by decide
  rw [hnanos, Number.clampLong, if_neg (by omega)]
  split
  · rw [Int64.toInt_ofInt_of_le (by omega) (by omega)]
    omega
  · omega

/-- A number of ticks has no more significant bits than its nanoseconds. -/
theorem nearest_ticks {k : Nat} (h : nearest (k * 100) = k * 100) : nearest k = k := by
  by_cases hzero : k = 0
  · rw [hzero]
    exact Binary.nearest_of_lt (by decide)
  · have hlog : k.log2 + 6 ≤ (k * 100).log2 := by
      have hlow : 2 ^ k.log2 ≤ k := Nat.log2_self_le hzero
      rw [Nat.le_log2 (by omega), Nat.pow_add]
      omega
    rw [Binary.nearest_eq_self_iff] at h ⊢
    have hfour : 4 * 2 ^ (k.log2 - 52) ∣ 4 * (25 * k) := by
      have hticks : k * 100 = 4 * (25 * k) := by omega
      by_cases hshort : k.log2 ≤ 52
      · rw [Nat.sub_eq_zero_of_le hshort]
        exact Nat.dvd_mul_right 4 _
      · have hpower : 2 ^ (2 + (k.log2 - 52)) ∣ 2 ^ ((k * 100).log2 - 52) :=
          Nat.pow_dvd_pow 2 (by omega)
        rw [Nat.pow_add] at hpower
        rw [← hticks]
        exact Nat.dvd_trans hpower h
    have hcoprime : Nat.Coprime (2 ^ (k.log2 - 52)) 25 := Nat.Coprime.pow_left _ (by decide)
    exact hcoprime.dvd_of_dvd_mul_left (Nat.dvd_of_mul_dvd_mul_left (by decide) hfour)

/-- **Whole ticks come back exactly when they have 53 significant bits** as nanoseconds. -/
theorem readLiteral?_literalChars_iff (h : 0 ≤ t.nanos) (hfits : t.nanos < 2 ^ 63)
    (hticks : 100 ∣ t.nanos) :
    readLiteral? t.literal = some t ↔ nearest t.nanos.toNat = t.nanos.toNat := by
  obtain ⟨n, hn⟩ := Int.eq_ofNat_of_zero_le h
  have hwhole : n / 100 * 100 = n := by omega
  have hbound : roundedTwice (n / 100) 100 ≤ 2 ^ 63 := roundedTwice_le (by omega)
  have hnanos := nanos_ofLong_clampLong hbound
  rw [readLiteral?_literalChars h hfits, Option.some.injEq, ← nanos_inj, hn, Int.toNat_natCast,
    hnanos, Int.natCast_inj]
  constructor
  · intro hexact
    -- The greatest number of 64 bits is no whole number of ticks, so nothing was cut off.
    have hrounded : roundedTwice (n / 100) 100 = n := by omega
    rw [← hrounded]
    exact Binary.nearest_nearest _
  · intro hexact
    have hfirst : nearest (n / 100) = n / 100 := nearest_ticks (by rw [hwhole, hexact])
    have hrounded : roundedTwice (n / 100) 100 = n := by
      rw [roundedTwice, hfirst, hwhole, hexact]
    omega

/-- **What is read back of the literal form** of a timespan that is not negative.  Below `2 ^ 53`
nanoseconds these are its whole ticks.  From there on the whole ticks are rounded to 53 significant
bits, as they stand and as nanoseconds, and cut off at 64 bits, so that a number of whole ticks
comes back exactly when it has no more significant bits.  From `2 ^ 63` nanoseconds on nothing comes
back as it was.  A constant is written in this form, and is read as what comes back. -/
theorem readLiteral?_literal (t : Timespan) (h : 0 ≤ t.nanos) :
    (t.nanos < 2 ^ 53 → readLiteral? t.literal = some t.wholeTicks)
    ∧ (t.nanos < 2 ^ 63 → ∃ u, readLiteral? t.literal = some u
        ∧ u.nanos = (min (nearest (nearest (t.nanos.toNat / 100) * 100)) (2 ^ 63 - 1) : Nat))
    ∧ (t.nanos < 2 ^ 63 → 100 ∣ t.nanos →
        (readLiteral? t.literal = some t ↔ nearest t.nanos.toNat = t.nanos.toNat))
    ∧ (2 ^ 63 ≤ t.nanos → readLiteral? t.literal ≠ some t)
    ∧ ∀ u, readLiteral? t.literal = some u →
        Expr.read (Expr.const (.timespan t)).print = .ok (.const (.timespan u)) := by
  have hbound (hfits : t.nanos < 2 ^ 63) : roundedTwice (t.nanos.toNat / 100) 100 ≤ 2 ^ 63 :=
    roundedTwice_le (by omega)
  refine ⟨fun hsmall => ?_, fun hfits => ?_, readLiteral?_literalChars_iff h,
    fun hlarge hread => ?_, fun u hread => ?_⟩
  · have hfits : t.nanos < 2 ^ 63 := by omega
    obtain ⟨n, hn⟩ := Int.eq_ofNat_of_zero_le h
    have hrounded : roundedTwice (n / 100) 100 = n / 100 * 100 := by
      rw [roundedTwice, Binary.nearest_of_lt (n := n / 100) (by omega),
        Binary.nearest_of_lt (by omega)]
    have hread := readLiteral?_literalChars h hfits
    have hnanos := nanos_ofLong_clampLong (hbound hfits)
    rw [hn, Int.toNat_natCast, hrounded] at hread hnanos
    have hwhole : t.wholeTicks.nanos = (n / 100 * 100 : Nat) := by
      rw [nanos_wholeTicks, hn]
      rfl
    rw [hread, Option.some.injEq, ← nanos_inj, hnanos, hwhole]
    omega
  · rw [readLiteral?_literalChars h hfits]
    exact ⟨_, rfl, nanos_ofLong_clampLong (hbound hfits)⟩
  · have hlt := nanos_lt_of_readLiteral? hread
    omega
  · rw [Expr.read_print_eq_reread (.const _), Expr.reread, Grammar.literalDraft,
      if_neg (Int.not_lt.2 h), Grammar.spanLiteral]
    rw [literal] at hread
    rw [hread]
    rfl

/-- One and a half seconds are written in milliseconds and come back. -/
theorem readLiteral?_literal_of_milliseconds :
    readLiteral? (Timespan.mk 1500000000 (by decide)).literal = some ⟨1500000000, by decide⟩ :=
  ((readLiteral?_literal ⟨1500000000, by decide⟩ (by decide)).2.2.1 (by decide) (by decide)).2
    (by decide)

/-- **The literal form is not exact**: half a tick comes back as nothing, and a number of ticks of
more than 53 significant bits, written as it is, as another number of ticks. -/
theorem not_readLiteral?_literal :
    (¬ ∀ t : Timespan, 0 ≤ t.nanos → readLiteral? t.literal = some t)
    ∧ ¬ ∀ t : Timespan, 0 ≤ t.nanos → 100 ∣ t.nanos → readLiteral? t.literal = some t := by
  constructor
  · intro h
    have hhalf := h ⟨50, by decide⟩ (by decide)
    rw [readLiteral?_literalChars (by decide) (by decide), Option.some.injEq, ← nanos_inj] at hhalf
    revert hhalf
    decide
  · intro h
    have hticks := h ⟨900719925474099300, by decide⟩ (by decide) (by decide)
    rw [readLiteral?_literalChars_iff (by decide) (by decide) (by decide)] at hticks
    revert hticks
    decide

end Timespan

end EventQuery
