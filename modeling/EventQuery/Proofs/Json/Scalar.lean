/-
**Numbers and strings of JSON, written and read back.**

Main definitions:

* `Json.Writes` — what a character of a string is written as.

Main results:

* `Json.readNumber?_writeInt` — **an integer of 64 bits is read back**;
* `Json.readString?_quote` — **a string is read back**.
-/

import EventQuery.Json.Reader
import EventQuery.Proofs.Number.Digits
import Mathlib.Data.List.TakeDrop

set_option relaxedAutoImplicit false
set_option autoImplicit false

namespace EventQuery

-- Powers are those of the core library, whatever other instances are in scope.
attribute [local instance (2000)] instPowNat

namespace Digits

/-! ### Digits -/

theorem isDigit_cases {c : Char} (h : isDigit c = true) :
    c = '0' ∨ c = '1' ∨ c = '2' ∨ c = '3' ∨ c = '4' ∨ c = '5' ∨ c = '6' ∨ c = '7' ∨ c = '8'
      ∨ c = '9' := by
  simp only [isDigit, Bool.and_eq_true, decide_eq_true_eq, Char.le_def, UInt32.le_iff_toNat_le] at h
  change 48 ≤ c.toNat ∧ c.toNat ≤ 57 at h
  have hc : c.toNat = 48 ∨ c.toNat = 49 ∨ c.toNat = 50 ∨ c.toNat = 51 ∨ c.toNat = 52
      ∨ c.toNat = 53 ∨ c.toNat = 54 ∨ c.toNat = 55 ∨ c.toNat = 56 ∨ c.toNat = 57 := by omega
  have hchar : ∀ d : Char, c.toNat = d.toNat → c = d := fun d hd => Char.toNat_inj.1 hd
  rcases hc with h | h | h | h | h | h | h | h | h | h
  · exact .inl (hchar '0' h)
  · exact .inr (.inl (hchar '1' h))
  · exact .inr (.inr (.inl (hchar '2' h)))
  · exact .inr (.inr (.inr (.inl (hchar '3' h))))
  · exact .inr (.inr (.inr (.inr (.inl (hchar '4' h)))))
  · exact .inr (.inr (.inr (.inr (.inr (.inl (hchar '5' h))))))
  · exact .inr (.inr (.inr (.inr (.inr (.inr (.inl (hchar '6' h)))))))
  · exact .inr (.inr (.inr (.inr (.inr (.inr (.inr (.inl (hchar '7' h))))))))
  · exact .inr (.inr (.inr (.inr (.inr (.inr (.inr (.inr (.inl (hchar '8' h)))))))))
  · exact .inr (.inr (.inr (.inr (.inr (.inr (.inr (.inr (.inr (hchar '9' h)))))))))

/-- What holds of the ten digits holds of every digit. -/
theorem of_isDigit (P : Char → Prop) (h : ∀ n < 10, P (ofNat n)) {c : Char}
    (hc : isDigit c = true) : P c := by
  rcases isDigit_cases hc with rfl | rfl | rfl | rfl | rfl | rfl | rfl | rfl | rfl | rfl
  · exact h 0 (by decide)
  · exact h 1 (by decide)
  · exact h 2 (by decide)
  · exact h 3 (by decide)
  · exact h 4 (by decide)
  · exact h 5 (by decide)
  · exact h 6 (by decide)
  · exact h 7 (by decide)
  · exact h 8 (by decide)
  · exact h 9 (by decide)

end Digits

namespace Json

/-! ### Numbers -/

/-- A number ends here. -/
def numberEnd : List Char → Bool
  | [] => true
  | c :: _ => !Digits.isDigit c && c != '.' && c != 'e' && c != 'E'

theorem foldl_digits_ge (cs : List Char) (n : Nat) :
    n ≤ cs.foldl (fun n c => 10 * n + Digits.value c) n := by
  induction cs generalizing n with
  | nil => exact Nat.le_refl n
  | cons c cs ih => exact Nat.le_trans (by omega) (ih (10 * n + Digits.value c))

/-- Digits are taken in as long as the number fits. -/
theorem absorbDigits_eq {cs : List Char} {n : Nat}
    (h : cs.foldl (fun n c => 10 * n + Digits.value c) n < 0x10000000000000000) :
    absorbDigits n cs = (cs.foldl (fun n c => 10 * n + Digits.value c) n, 0) := by
  induction cs generalizing n with
  | nil => rfl
  | cons c cs ih =>
      rw [List.foldl_cons] at h ⊢
      have hfits := foldl_digits_ge cs (10 * n + Digits.value c)
      rw [absorbDigits, if_pos (by omega)]
      exact ih h

theorem span_write (n : Nat) {rest : List Char} (hrest : numberEnd rest = true) :
    Digits.span (Digits.write n ++ rest) = (Digits.write n, rest) := by
  have hall : ∀ c ∈ Digits.write n, Digits.isDigit c = true :=
    List.all_eq_true.1 (Digits.all_isDigit_write n)
  rw [Digits.span, List.span_eq_takeWhile_dropWhile, List.takeWhile_append_of_pos hall,
    List.dropWhile_append_of_pos hall]
  cases rest with
  | nil => simp
  | cons c rest =>
      simp only [numberEnd, Bool.and_eq_true, Bool.not_eq_true'] at hrest
      simp [hrest.1.1.1]

theorem readWhole?_write (n : Nat) {rest : List Char} (hrest : numberEnd rest = true) :
    readWhole? (Digits.write n ++ rest) = some (Digits.write n, rest) := by
  rw [readWhole?, span_write n hrest]
  simp only
  split
  · next h => exact absurd h (Digits.write_ne_nil n)
  · next h => exact absurd h (Digits.write_ne_zero_cons n _ _)
  · rfl

theorem readFraction?_numberEnd {rest : List Char} (hrest : numberEnd rest = true) :
    readFraction? rest = some ([], rest) := by
  unfold readFraction?
  split
  · cases hrest
  · rfl

theorem readExponent?_numberEnd {rest : List Char} (hrest : numberEnd rest = true) :
    readExponent? rest = some (0, rest) := by
  cases rest with
  | nil => rfl
  | cons c rest =>
      simp only [numberEnd, Bool.and_eq_true, bne_iff_ne] at hrest
      simp [readExponent?, hrest.1.2, hrest.2]

/-- Digits alone are an integer, as far as it fits in 64 bits. -/
theorem readMagnitude?_write (negative : Bool) {n : Nat} (hn : n < 0x10000000000000000)
    {rest : List Char} (hrest : numberEnd rest = true) :
    readMagnitude? negative (Digits.write n ++ rest) = some (ofWhole negative n, rest) := by
  have hmarked : rest.head? ≠ some 'e' ∧ rest.head? ≠ some 'E' := by
    cases rest with
    | nil => simp
    | cons c rest =>
        simp only [numberEnd, Bool.and_eq_true, bne_iff_ne] at hrest
        simp [hrest.1.2, hrest.2]
  have hread : absorbDigits 0 (Digits.write n) = (n, 0) := by
    have hvalue := Digits.read_write n
    rw [Digits.read] at hvalue
    rw [absorbDigits_eq (by rw [hvalue]; exact hn), hvalue]
  simp [readMagnitude?, readWhole?_write n hrest, readFraction?_numberEnd hrest,
    readExponent?_numberEnd hrest, hmarked, hread]

/-- **An integer of 64 bits is read back.** -/
theorem readNumber?_writeInt {n : Int} (hlow : -0x8000000000000000 ≤ n)
    (hhigh : n < 0x8000000000000000) {rest : List Char} (hrest : numberEnd rest = true) :
    readNumber? (Digits.writeInt n ++ rest) = some (.integer n, rest) := by
  rw [Digits.writeInt]
  by_cases hn : n < 0
  · have hread := readMagnitude?_write true (n := n.natAbs) (by omega) hrest
    have hwhole : ofWhole true n.natAbs = .integer n := by
      rw [ofWhole, if_pos rfl, if_neg (by omega)]
      congr 1
      omega
    rw [if_pos hn, List.cons_append, readNumber?, hread, hwhole]
  · have hread := readMagnitude?_write false (n := n.natAbs) (by omega) hrest
    have hwhole : ofWhole false n.natAbs = .integer n := by
      rw [ofWhole, if_neg (by decide), if_pos (by omega)]
      congr 1
      omega
    rw [if_neg hn, readNumber?, hread, hwhole]
    -- Digits do not begin with a sign.
    intro cs hcs
    obtain ⟨c, ds, hchars, hc⟩ := Digits.write_cons n.natAbs
    rw [hchars, List.cons_append] at hcs
    cases hcs
    exact absurd hc (by decide)

/-! ### Strings -/

/-- A control character is read back from its number. -/
theorem readScalar?_write {c : Char} (hc : c.toNat < 32) (rest : List Char) :
    readScalar? (Hex.write 4 c.toNat ++ rest) = some (c, rest) := by
  have hread := Hex.readFrom?_write 4 c.toNat 0
  have hmod : c.toNat % 16 ^ 4 = c.toNat := Nat.mod_eq_of_lt (by omega)
  rw [hmod, Nat.mul_zero, Nat.zero_add] at hread
  have hunit : readUnit? (Hex.write 4 c.toNat ++ rest) = some (c.toNat, rest) := by
    change (Hex.readFrom? 0 (Hex.write 4 c.toNat)).map _ = _
    rw [hread]
    rfl
  rw [readScalar?, hunit]
  simp only
  rw [if_pos (Or.inl (by omega)), Char.ofNat_toNat]

theorem readStringFrom?_escape {before : List Char} {fuel : Nat} {d e : Char} (hu : d ≠ 'u')
    (he : escaped? d = some e) (cs : List Char) :
    readStringFrom? before (fuel + 1) ('\\' :: d :: cs)
      = readStringFrom? (e :: before) fuel cs := by
  rw [readStringFrom?.eq_def]
  simp [he]

/-- What a character of a string is written as: an escape that stands for it, its number, or
itself. -/
inductive Writes (c : Char) : List Char → Prop where
  | escape {d : Char} : d ≠ 'u' → escaped? d = some c → Writes c ['\\', d]
  | number : c.toNat < 32 → Writes c ('\\' :: 'u' :: Hex.write 4 c.toNat)
  | bare : c ≠ '"' → c ≠ '\\' → ¬ c.toNat < 32 → Writes c [c]

theorem writes_escapeChar (c : Char) : Writes c (escapeChar c) := by
  rw [escapeChar]
  split
  · next h =>
      subst h
      exact .escape (by decide) (by decide)
  split
  · next h =>
      subst h
      exact .escape (by decide) (by decide)
  split
  · next h =>
      subst h
      exact .escape (by decide) (by decide)
  split
  · next h =>
      subst h
      exact .escape (by decide) (by decide)
  split
  · next h =>
      subst h
      exact .escape (by decide) (by decide)
  split
  · next h =>
      subst h
      exact .escape (by decide) (by decide)
  split
  · next h =>
      subst h
      exact .escape (by decide) (by decide)
  split
  · next h => exact .number h
  · next hquote hslash _ _ _ _ _ hlow => exact .bare hquote hslash hlow

theorem Writes.length_pos {c : Char} {t : List Char} (h : Writes c t) : 1 ≤ t.length := by
  cases h <;> simp

/-- Whatever a character is written as, it is read back. -/
theorem Writes.readStringFrom? {c : Char} {t : List Char} (h : Writes c t) (before : List Char)
    (fuel : Nat) (cs : List Char) :
    readStringFrom? before (fuel + 1) (t ++ cs) = readStringFrom? (c :: before) fuel cs := by
  cases h with
  | escape hu he => exact readStringFrom?_escape hu he cs
  | number hlow =>
      rw [readStringFrom?.eq_def]
      simp [readScalar?_write hlow]
  | bare hquote hslash hlow =>
      rw [readStringFrom?.eq_def]
      simp [hquote, hslash, hlow]

theorem readStringFrom?_flatMap (before cs rest : List Char) {fuel : Nat}
    (hfuel : cs.length < fuel) :
    readStringFrom? before fuel (cs.flatMap escapeChar ++ '"' :: rest)
      = some (String.ofList (before.reverse ++ cs), rest) := by
  induction cs generalizing before fuel with
  | nil =>
      obtain ⟨fuel, rfl⟩ : ∃ n, fuel = n + 1 := ⟨fuel - 1, by omega⟩
      rw [List.flatMap_nil, List.nil_append, List.append_nil, readStringFrom?.eq_def]
      rfl
  | cons c cs ih =>
      obtain ⟨fuel, rfl⟩ : ∃ n, fuel = n + 1 := ⟨fuel - 1, by omega⟩
      rw [List.length_cons] at hfuel
      rw [List.flatMap_cons, List.append_assoc, (writes_escapeChar c).readStringFrom?,
        ih _ (by omega), List.reverse_cons, List.append_assoc, List.singleton_append]

theorem length_le_flatMap (cs : List Char) : cs.length ≤ (cs.flatMap escapeChar).length := by
  rw [List.length_flatMap]
  induction cs with
  | nil => exact Nat.le_refl 0
  | cons c cs ih =>
      have hone := (writes_escapeChar c).length_pos
      rw [List.length_cons, List.map_cons, List.sum_cons]
      omega

/-- **A string is read back.** -/
theorem readString?_quote (s : String) (rest : List Char) :
    readString? (s.toList.flatMap escapeChar ++ '"' :: rest) = some (s, rest) := by
  have hlen := length_le_flatMap s.toList
  rw [readString?, readStringFrom?_flatMap, List.reverse_nil, List.nil_append, String.ofList_toList]
  rw [List.length_append, List.length_cons]
  omega

end Json

end EventQuery
