/-
**Addresses as numbers, as texts and as members of networks.**

An address is a number below `2 ^ 32`, and its dotted form is read back as this number.  A network
has as its members the addresses that share its leading bits with it; these are all the addresses
from its first one, where the other bits are clear, to its last one, where they are set.

Main definitions:

* `Address.ofNat` — the address of a number;
* `Network.last` — the last address.

Main results:

* `Address.ofNumber?_eq_some_iff` — the numbers of addresses;
* `Address.read?_write`, `Network.read?_write` — **what is written is read back**;
* `Network.testBit_number_mask`, `Network.testBit_number_last` — the bits of the first and of the
  last address;
* `Network.contains_iff`, `Network.contains_iff_between` — **the members of a network**.
-/

import EventQuery.Network.Address
import EventQuery.Proofs.Number.Digits
import EventQuery.Proofs.Text.Splitting
import Mathlib.Data.Nat.Bitwise

set_option relaxedAutoImplicit false
set_option autoImplicit false

namespace EventQuery

-- Powers are those of the core library, whatever other instances are in scope.
attribute [local instance (2000)] instPowNat

/-! ### Numbers -/

namespace Address

/-- The address of a number, of which the lower 32 bits count. -/
def ofNat (n : Nat) : Address := ⟨BitVec.ofNat 32 n⟩

variable {a b : Address} {n : Nat}

theorem number_lt (a : Address) : a.number < 2 ^ 32 := a.bits.isLt

theorem ext_number (h : a.number = b.number) : a = b := by
  cases a
  cases b
  exact congrArg Address.mk (BitVec.eq_of_toNat_eq h)

@[simp] theorem number_ofNat (h : n < 2 ^ 32) : (ofNat n).number = n := by
  rw [number, ofNat, BitVec.toNat_ofNat, Nat.mod_eq_of_lt h]

@[simp] theorem ofNat_number (a : Address) : ofNat a.number = a :=
  ext_number (number_ofNat a.number_lt)

/-- **The number of an address** is the one that it is made of. -/
theorem ofNumber?_eq_some_iff {k : Int} : ofNumber? k = some a ↔ k = a.number := by
  have hlt := a.number_lt
  rw [ofNumber?, Option.ite_none_right_eq_some, Option.some_inj]
  constructor
  · rintro ⟨hk, rfl⟩
    rw [number, BitVec.toNat_ofInt]
    omega
  · rintro rfl
    refine ⟨by omega, ext_number ?_⟩
    rw [number, BitVec.toNat_ofInt]
    omega

/-! ### The dotted form -/

theorem ofOctets_number (a : Address) :
    ofOctets (a.number / 0x1000000) (a.number / 0x10000 % 256) (a.number / 256 % 256)
      (a.number % 256) = a := by
  have hlt := a.number_lt
  have hsum : ((a.number / 0x1000000 * 256 + a.number / 0x10000 % 256) * 256
      + a.number / 256 % 256) * 256 + a.number % 256 = a.number := by omega
  rw [ofOctets, hsum]
  exact ofNat_number a

/-- A number up to 255 is read back as one of the four. -/
theorem octet?_write (lenient : Bool) (h : n ≤ 255) : octet? lenient (Digits.write n) = some n := by
  have hlength : (Digits.write n).length ≤ 3 := Digits.length_writeOnto_le (by omega)
  have hread : Digits.readNat? (Digits.write n) = some n :=
    Digits.readNat?_eq_some_iff.2 ⟨Digits.isNumber_write n, (Digits.read_write n).symm⟩
  have hzero : (1 < (Digits.write n).length && (Digits.write n).head? == some '0') = false := by
    rcases hdigits : Digits.write n with _ | ⟨c, _ | ⟨d, ds⟩⟩
    · rfl
    · rfl
    · have hc : c ≠ '0' := fun hc => Digits.write_ne_zero_cons n d ds (hc ▸ hdigits)
      simp [hc]
  rw [octet?, if_neg (by omega), hread]
  simp only [Bool.and_assoc, hzero, Bool.and_false, Bool.or_false, decide_eq_true_eq]
  rw [if_neg (by omega)]

/-- **The dotted form is read back.** -/
theorem ofChars?_writeChars (lenient : Bool) (a : Address) :
    ofChars? lenient a.writeChars = some a := by
  have hparts : Text.splitOn ['.'] a.writeChars
      = [Digits.write (a.number / 0x1000000), Digits.write (a.number / 0x10000 % 256),
        Digits.write (a.number / 256 % 256), Digits.write (a.number % 256)] := by
    refine Text.splitOn_eq_iff.2 ⟨List.cons_ne_nil _ _, ?_, ?_⟩
    · simp [writeChars, List.intercalate]
    · have hpart (k : Nat) : '.' ∉ Digits.write k :=
        (Digits.isNumber_write k).notMem (by decide)
      simp only [List.forall_mem_cons, hpart, not_false_eq_true, true_and]
      exact List.forall_mem_nil _
  have hlt := a.number_lt
  simp only [ofChars?, hparts, octet?_write lenient (show a.number / 0x1000000 ≤ 255 by omega),
    octet?_write lenient (show a.number / 0x10000 % 256 ≤ 255 by omega),
    octet?_write lenient (show a.number / 256 % 256 ≤ 255 by omega),
    octet?_write lenient (show a.number % 256 ≤ 255 by omega)]
  exact congrArg some (ofOctets_number a)

theorem read?_write (a : Address) : read? a.write = some a := by
  rw [read?, write, String.toList_ofList]
  exact ofChars?_writeChars false a

/-- The dotted form is made of digits and points. -/
theorem isDigit_or_point {c : Char} (hc : c ∈ a.writeChars) :
    Digits.isDigit c = true ∨ c = '.' := by
  have hdigit {k : Nat} (h : c ∈ Digits.write k) : Digits.isDigit c = true :=
    (Digits.isNumber_write k).isDigit h
  simp only [writeChars, List.mem_append, List.mem_cons] at hc
  rcases hc with ((h | rfl | h) | rfl | h) | rfl | h
  · exact .inl (hdigit h)
  · exact .inr rfl
  · exact .inl (hdigit h)
  · exact .inr rfl
  · exact .inl (hdigit h)
  · exact .inr rfl
  · exact .inl (hdigit h)

theorem slash_notMem (a : Address) : '/' ∉ a.writeChars := by
  intro h
  rcases isDigit_or_point h with h | h
  · exact absurd h (by decide)
  · exact absurd h (by decide)

end Address

/-! ### Networks -/

namespace Network

/-- The characters of a network: its address, a slash and its length. -/
def writeChars (n : Network) : List Char := n.address.writeChars ++ '/' :: Digits.write n.length

/-- **The text of a network.** -/
def write (n : Network) : String := String.ofList n.writeChars

/-- **The text of a network is read back.** -/
theorem read?_write (n : Network) : read? n.write = some n := by
  have hsplit : Text.split2 '/' n.writeChars
      = some (n.address.writeChars, Digits.write n.length) :=
    Text.split2_eq_some_iff.2 ⟨rfl, n.address.slash_notMem⟩
  have hle := n.length_le
  have hlength : (Digits.write n.length).length ≤ 2 := Digits.length_writeOnto_le (by omega)
  have hread : Digits.readNat? (Digits.write n.length) = some n.length :=
    Digits.readNat?_eq_some_iff.2 ⟨Digits.isNumber_write _, (Digits.read_write _).symm⟩
  rw [read?, write, String.toList_ofList, hsplit]
  simp only [Address.ofChars?_writeChars, bind, Option.bind, if_neg (Nat.not_lt.2 hlength), hread,
    dif_pos hle]

/-! ### First and last address -/

variable {n : Network} {a c : Address} {length : Nat}

theorem number_mask (length : Nat) (a : Address) : (mask length a).number
    = a.number / 2 ^ (32 - length) * 2 ^ (32 - length) :=
  Address.number_ofNat (Nat.lt_of_le_of_lt (Nat.div_mul_le_self _ _) a.number_lt)

/-- **The bits of a first address**: the shared ones are those of the address, and the others are
clear. -/
theorem testBit_number_mask (length : Nat) (a : Address) (i : Nat) :
    (mask length a).number.testBit i = (decide (32 - length ≤ i) && a.number.testBit i) := by
  rw [number_mask, Nat.testBit_mul_two_pow, Nat.testBit_div_two_pow]
  by_cases hi : 32 - length ≤ i
  · rw [Nat.sub_add_cancel hi]
  · simp [hi]

/-- **The last address**: the bits that are not shared are set. -/
def last (n : Network) : Address := Address.ofNat (n.first.number + (2 ^ (32 - n.length) - 1))

theorem number_last (n : Network) :
    n.last.number = n.first.number + (2 ^ (32 - n.length) - 1) := by
  refine Address.number_ofNat ?_
  have hlt := n.address.number_lt
  have hsize : 2 ^ 32 = 2 ^ n.length * 2 ^ (32 - n.length) := by
    rw [← Nat.pow_add, Nat.add_sub_cancel' n.length_le]
  have hpos : 0 < 2 ^ (32 - n.length) := Nat.two_pow_pos _
  -- there is room for one more block of addresses behind each one but the last
  have hshared : n.address.number / 2 ^ (32 - n.length) + 1 ≤ 2 ^ n.length := by
    rw [Nat.succ_le_iff, Nat.div_lt_iff_lt_mul hpos, ← hsize]
    exact hlt
  have hblock := Nat.mul_le_mul_right (2 ^ (32 - n.length)) hshared
  rw [Nat.succ_mul, ← hsize] at hblock
  rw [first, number_mask]
  omega

/-- **The bits of a last address**: the shared ones are those of the address, and the others are
set. -/
theorem testBit_number_last (n : Network) (i : Nat) : n.last.number.testBit i
    = (decide (i < 32 - n.length) || n.address.number.testBit i) := by
  have hlow : 2 ^ (32 - n.length) - 1 < 2 ^ (32 - n.length) :=
    Nat.sub_one_lt (Nat.ne_of_gt (Nat.two_pow_pos _))
  have hfirst := testBit_number_mask n.length n.address i
  rw [number_mask, Nat.mul_comm] at hfirst
  rw [number_last, first, number_mask, Nat.mul_comm, Nat.two_pow_add_eq_or_of_lt hlow,
    Nat.testBit_or, hfirst, Nat.testBit_two_pow_sub_one]
  by_cases hi : i < 32 - n.length
  · simp [hi]
  · simp [hi, Nat.not_lt.1 hi]

/-! ### Members -/

theorem contains_iff : n.contains a = true ↔ mask n.length a = mask n.length n.address :=
  decide_eq_true_iff

/-- **The members of a network** are the addresses from its first one to its last one. -/
theorem contains_iff_between : n.contains a = true
    ↔ n.first.number ≤ a.number ∧ a.number ≤ n.last.number := by
  have hpos : 0 < 2 ^ (32 - n.length) := Nat.two_pow_pos _
  have hlow := Nat.div_mul_le_self a.number (2 ^ (32 - n.length))
  have hhigh := Nat.lt_div_mul_add hpos (a := a.number)
  have hequal : mask n.length a = n.first ↔ (mask n.length a).number = n.first.number :=
    ⟨congrArg _, Address.ext_number⟩
  rw [contains, decide_eq_true_iff, hequal, number_last]
  constructor
  · intro h
    rw [← h, number_mask]
    omega
  · rintro ⟨hfirst, hlast⟩
    rw [first, number_mask] at hfirst hlast
    have hblock : a.number / 2 ^ (32 - n.length) = n.address.number / 2 ^ (32 - n.length) :=
      (Nat.div_eq_iff hpos).2 ⟨hfirst, by omega⟩
    rw [first, number_mask, number_mask, hblock]

end Network

end EventQuery
