/-
**The functions of addresses agree.**

A number, its dotted form and the networks around it are handled by four functions that go different
ways: numbers are written and read, lengths mask numbers, membership compares masked addresses, and
ranges compare numbers.  They agree for every number of 32 bits and every length.

A number with a fraction counts as its integer part, so the numbers that are refused are those whose
integer part does not fit: a half below zero is still the first address.

Main definitions:

* `Value.integerPart?` — the integer part of a number;
* `Value.HoldsAddress` — the numbers of addresses;
* `Function.cidr`, `Function.ReadAs` — the text of a network, and the number that a text is read as.

Main results:

* `Function.addressOfNumber_eq_ok_iff` — the numbers that have an address;
* `Function.readAs_address`, `Function.readAs_network` — what is written is read back;
* `Function.member_eq` — a network is a range;
* `Function.addresses_agree` — **the four functions agree**.
-/

import EventQuery.Function.Network
import EventQuery.Proofs.Grammar.Strip
import EventQuery.Proofs.Json.Scalar
import EventQuery.Proofs.Network.Address
import EventQuery.Proofs.Value.Arithmetic

set_option relaxedAutoImplicit false
set_option autoImplicit false

namespace EventQuery

-- Powers are those of the core library, whatever other instances are in scope.
attribute [local instance (2000)] instPowNat

/-! ### Integer parts -/

namespace Value

/-- **The integer part of a number**, none for one that is infinite or undefined. -/
def integerPart? : Value → Option Int
  | .int n => some n.toInt
  | .long n => some n.toInt
  | .real x => Binary.truncate? x
  | .decimal d => some d.truncate
  | _ => none

/-- **The value is a number** whose integer part is the number of an address. -/
def HoldsAddress (v : Value) (n : Nat) : Prop := v.integerPart? = some (n : Int) ∧ n < 2 ^ 32

variable {v : Value} {n : Nat}

theorem HoldsAddress.isNumeric (h : v.HoldsAddress n) : v.isNumeric = true := by
  cases v with
  | int | long | real | decimal => rfl
  | _ => cases h.1

theorem isAbsent_of_isNumeric (h : v.isNumeric = true) : v.isAbsent = false := by
  cases v with
  | int | long | real | decimal => rfl
  | _ => cases h

/-- Cutting an integer down to 64 bits keeps it apart from the numbers of addresses. -/
theorem toInt_clampLong_eq_iff {k : Int} (hn : n < 2 ^ 32) :
    (Number.clampLong k).toInt = n ↔ k = n := by
  have hleast : Int64.minValue.toInt = -0x8000000000000000 := by decide
  have hmost : Int64.maxValue.toInt = 0x7fffffffffffffff := by decide
  by_cases hlow : k < -0x8000000000000000
  · rw [Number.clampLong_of_le (Int.le_of_lt hlow), hleast]
    omega
  · by_cases hhigh : k < 0x8000000000000000
    · rw [Number.toInt_clampLong ⟨Int.not_lt.1 hlow, hhigh⟩]
    · rw [Number.clampLong_of_ge (Int.not_lt.1 hhigh), hmost]
      omega

/-- The 64-bit integer of a number is that of an address exactly when its integer part is. -/
theorem toLong?_eq_iff (h : v.isNumeric = true) (hn : n < 2 ^ 32) :
    (∃ x : Int64, v.toLong? = some x ∧ x.toInt = n) ↔ v.integerPart? = some (n : Int) := by
  cases v with
  | int k => simp [toLong?, integerPart?, Int32.toInt_toInt64]
  | long k => simp [toLong?, integerPart?]
  | real y =>
      simp only [toLong?, longOfFloat?, integerPart?, Option.map_eq_some_iff]
      constructor
      · rintro ⟨_, ⟨k, hk, rfl⟩, hx⟩
        rw [hk, (toInt_clampLong_eq_iff hn).1 hx]
      · intro hk
        exact ⟨_, ⟨n, hk, rfl⟩, (toInt_clampLong_eq_iff hn).2 rfl⟩
  | decimal d =>
      simp only [toLong?, Decimal.toLong?, integerPart?, Number.long?_eq_some_iff, Option.some_inj]
      constructor
      · rintro ⟨x, hx, hn⟩
        exact hx.symm.trans hn
      · intro hd
        refine ⟨Int64.ofInt n, ?_, ?_⟩
        · rw [hd, Int64.toInt_ofInt_of_le (by omega) (by omega)]
        · exact Int64.toInt_ofInt_of_le (by omega) (by omega)
  | _ => cases h

end Value

namespace Function

variable {v : Value} {a : Address}

/-! ### Numbers and their addresses -/

/-- Numbers are there, so they are converted. -/
theorem addressOfNumber_eq (h : v.isNumeric = true) : addressOfNumber v =
    (longArgument "ipv4_fromnumber" v >>= fun n => Result.ofOption
      (.invalidArgument s!"ipv4_fromnumber: {Value.text (.long n)} is outside the IPv4 range")
      (Address.ofNumber? n.toInt)) >>= fun a => .ok (.string a.write) := by
  rw [addressOfNumber, Value.isAbsent_of_isNumeric h, if_neg Bool.false_ne_true, bind_assoc]
  rfl

/-- **The numbers that have an address.** -/
theorem addressOfNumber_eq_ok_iff {w : Value} (h : v.isNumeric = true) :
    addressOfNumber v = .ok w ↔
      ∃ a : Address, v.integerPart? = some (a.number : Int) ∧ w = .string a.write := by
  rw [addressOfNumber_eq h]
  simp only [← Value.toLong?_eq_iff h (Address.number_lt _), Except.bind_eq_ok_iff, longArgument,
    Result.ofOption_eq_ok_iff, Address.ofNumber?_eq_some_iff, Except.ok.injEq, eq_comm (a := w)]

theorem addressOfNumber_of_holdsAddress {n : Nat} (h : v.HoldsAddress n) :
    addressOfNumber v = .ok (.string (Address.ofNat n).write) := by
  refine (addressOfNumber_eq_ok_iff h.isNumeric).2 ⟨Address.ofNat n, ?_, rfl⟩
  rw [Address.number_ofNat h.2]
  exact h.1

theorem toInt_ofNat_number (a : Address) : (Int64.ofNat a.number).toInt = a.number :=
  Int64.toInt_ofNat_of_lt (Nat.lt_trans a.number_lt (by decide))

theorem addressOfNumber_number (a : Address) :
    addressOfNumber (.long (Int64.ofNat a.number)) = .ok (.string a.write) := by
  have hholds : (Value.long (Int64.ofNat a.number)).HoldsAddress a.number :=
    ⟨congrArg some (toInt_ofNat_number a), a.number_lt⟩
  rw [addressOfNumber_of_holdsAddress hholds, Address.ofNat_number]

/-- The other numbers are refused as arguments. -/
theorem addressOfNumber_eq_error (h : v.isNumeric = true) (hv : ∀ n, ¬ v.HoldsAddress n) :
    ∃ detail, addressOfNumber v = .error (.invalidArgument detail) := by
  cases hresult : addressOfNumber v with
  | ok w =>
      obtain ⟨a, ha, -⟩ := (addressOfNumber_eq_ok_iff h).1 hresult
      exact absurd ⟨ha, a.number_lt⟩ (hv a.number)
  | error e =>
      rw [addressOfNumber_eq h] at hresult
      simp only [Except.bind_eq_error_iff, longArgument, Result.ofOption_eq_error_iff,
        reduceCtorEq, and_false, exists_false, or_false] at hresult
      rcases hresult with ⟨-, rfl⟩ | ⟨n, -, -, rfl⟩
      · exact ⟨_, rfl⟩
      · exact ⟨_, rfl⟩

/-! ### Texts of addresses and networks -/

/-- The text of a network: an address, a slash and a length. -/
def cidr (address : String) (length : Nat) : String := address ++ "/" ++ numeral length

/-- **A text is read as a number.** -/
def ReadAs (text : String) (n : Nat) : Prop :=
  ∃ k : Int64, k.toInt = n ∧ parseAddress (.string text) = .ok (.long k)

/-- **A text of digits, points and slashes**: there is nothing to strip from its ends. -/
def Dotted (cs : List Char) : Prop := ∀ c ∈ cs, Digits.isDigit c = true ∨ c = '.' ∨ c = '/'

theorem Dotted.trim {s : String} (h : Dotted s.toList) :
    Text.trim s = s ∧ Text.trimWhere Text.isQuote s = s := by
  have hplain : ∀ c ∈ s.toList, Text.isBlank c = false ∧ Text.isQuote c = false := by
    intro c hc
    rcases h c hc with hdigit | rfl | rfl
    · exact Digits.of_isDigit (fun c => Text.isBlank c = false ∧ Text.isQuote c = false) (by decide)
        hdigit
    · decide
    · decide
  rw [Text.trim, Text.trimWhere, Text.trimWhere, Text.stripWhere_of_all fun c hc => (hplain c hc).1,
    Text.stripWhere_of_all fun c hc => (hplain c hc).2, String.ofList_toList]
  exact ⟨rfl, rfl⟩

theorem dotted_address (a : Address) : Dotted a.write.toList := by
  rw [Address.write, String.toList_ofList]
  exact fun c hc => (Address.isDigit_or_point hc).imp_right .inl

theorem dotted_network (n : Network) : Dotted n.write.toList := by
  rw [Network.write, String.toList_ofList]
  intro c hc
  rcases List.mem_append.1 hc with hc | hc
  · exact (Address.isDigit_or_point hc).imp_right .inl
  · rcases List.mem_cons.1 hc with rfl | hc
    · exact .inr (.inr rfl)
    · exact .inl ((Digits.isNumber_write _).isDigit hc)

theorem cidr_write (n : Network) : cidr n.address.write n.length = n.write := by
  have hslash : String.ofList ['/'] = "/" := rfl
  rw [cidr, Network.write, Network.writeChars, Address.write, numeral, List.append_cons,
    String.ofList_append, String.ofList_append, hslash]

/-- A text with nothing to strip is read as it stands. -/
theorem parseAddress_of_dotted {s : String} (h : Dotted s.toList) : parseAddress (.string s)
    = .ok (((if s.toList.contains '/' then (Network.read? s).map Network.first
        else Address.read? s).map fun a => Value.long (Int64.ofNat a.number)).getD .null) := by
  obtain ⟨hblank, hquote⟩ := h.trim
  simp only [parseAddress, Value.text, hblank, hquote]

/-- **An address is read as its number.** -/
theorem readAs_address (a : Address) : ReadAs a.write a.number := by
  refine ⟨Int64.ofNat a.number, toInt_ofNat_number a, ?_⟩
  have hslash : a.write.toList.contains '/' = false := by
    rw [Address.write, String.toList_ofList, Bool.eq_false_iff, ne_eq, List.contains_iff_mem]
    exact a.slash_notMem
  rw [parseAddress_of_dotted (dotted_address a), hslash, if_neg Bool.false_ne_true,
    Address.read?_write]
  rfl

/-- **A network is read as the number of its first address.** -/
theorem readAs_network (n : Network) : ReadAs n.write n.first.number := by
  refine ⟨Int64.ofNat n.first.number, toInt_ofNat_number n.first, ?_⟩
  have hslash : n.write.toList.contains '/' = true := by
    rw [Network.write, String.toList_ofList, List.contains_iff_mem]
    exact List.mem_append_right _ List.mem_cons_self
  rw [parseAddress_of_dotted (dotted_network n), if_pos hslash, Network.read?_write]
  rfl

/-! ### Members -/

theorem addressArgument_write (name : String) (a : Address) :
    addressArgument name (.string a.write) = .ok a := by
  rw [addressArgument, Value.text, (dotted_address a).trim.1, Address.read?_write]
  rfl

/-- **Membership in a network** is membership in the range from its first to its last address. -/
theorem member_eq (n : Network) (a : Address) :
    inSubnet (.string a.write) (.string n.write) = .ok (.bool (n.contains a))
      ∧ inRange [.string a.write, .string n.first.write, .string n.last.write]
        = .ok (.bool (n.contains a)) := by
  have hcontains : n.contains a
      = (decide (n.first.number ≤ a.number) && decide (a.number ≤ n.last.number)) := by
    rw [Bool.eq_iff_iff, Network.contains_iff_between, Bool.and_eq_true, decide_eq_true_iff,
      decide_eq_true_iff]
  constructor
  · rw [inSubnet, addressArgument_write, Value.text, (dotted_network n).trim.1,
      Network.read?_write]
    rfl
  · rw [inRange, addressArgument_write, addressArgument_write, addressArgument_write, hcontains]
    rfl

/-- Networks are read alike when they have one first address. -/
theorem parseAddress_network_eq_iff (n c : Network) :
    parseAddress (.string n.write) = parseAddress (.string c.write) ↔ n.first = c.first := by
  obtain ⟨k, hk, hn⟩ := readAs_network n
  obtain ⟨l, hl, hc⟩ := readAs_network c
  rw [hn, hc]
  constructor
  · intro h
    cases h
    exact Address.ext_number (by omega)
  · intro h
    rw [h] at hk
    rw [Int64.toInt_inj.1 (hk.trans hl.symm)]

/-- **The functions of addresses agree.**  Two numbers and a length: the texts that the numbers are
written as are read back as these numbers; with the length behind it, the first one is read as its
number with the other bits clear; and the first one is in the network of the second one when the two
networks are read alike, which is when it lies between the addresses whose other bits are all clear
and all set.  The numbers that are not those of addresses are refused. -/
theorem addresses_agree {x y : Value} {n m p : Nat} (hx : x.HoldsAddress n) (hy : y.HoldsAddress m)
    (hp : p ≤ 32) :
    (∃ (A C firstText lastText : String) (net first last : Nat) (member : Bool),
      addressOfNumber x = .ok (.string A) ∧ addressOfNumber y = .ok (.string C)
      ∧ ReadAs A n
      ∧ ReadAs (cidr A p) net ∧ (∀ i, net.testBit i = (decide (32 - p ≤ i) && n.testBit i))
      ∧ addressOfNumber (.long (Int64.ofNat first)) = .ok (.string firstText)
      ∧ (∀ i, first.testBit i = (decide (32 - p ≤ i) && m.testBit i))
      ∧ addressOfNumber (.long (Int64.ofNat last)) = .ok (.string lastText)
      ∧ (∀ i, last.testBit i = (decide (i < 32 - p) || m.testBit i))
      ∧ inSubnet (.string A) (.string (cidr C p)) = .ok (.bool member)
      ∧ inRange [.string A, .string firstText, .string lastText] = .ok (.bool member)
      ∧ (member = true
          ↔ parseAddress (.string (cidr A p)) = parseAddress (.string (cidr C p))))
    ∧ ∀ v : Value, v.isNumeric = true → (∀ k, ¬ v.HoldsAddress k) →
        ∃ detail, addressOfNumber v = .error (.invalidArgument detail) := by
  refine ⟨?_, fun v h hv => addressOfNumber_eq_error h hv⟩
  let net : Network := ⟨Address.ofNat n, p, hp⟩
  let other : Network := ⟨Address.ofNat m, p, hp⟩
  have hnumber : (Address.ofNat n).number = n := Address.number_ofNat hx.2
  have hother : (Address.ofNat m).number = m := Address.number_ofNat hy.2
  have hnet : cidr (Address.ofNat n).write p = net.write := cidr_write net
  have hcidr : cidr (Address.ofNat m).write p = other.write := cidr_write other
  obtain ⟨hsubnet, hrange⟩ := member_eq other (Address.ofNat n)
  refine ⟨(Address.ofNat n).write, (Address.ofNat m).write, other.first.write, other.last.write,
    net.first.number, other.first.number, other.last.number, other.contains (Address.ofNat n),
    addressOfNumber_of_holdsAddress hx, addressOfNumber_of_holdsAddress hy, ?_, ?_, ?_,
    addressOfNumber_number other.first, ?_, addressOfNumber_number other.last, ?_, ?_, hrange, ?_⟩
  · have hread := readAs_address (Address.ofNat n)
    rwa [hnumber] at hread
  · rw [hnet]
    exact readAs_network net
  · intro i
    rw [Network.first, Network.testBit_number_mask, hnumber]
  · intro i
    rw [Network.first, Network.testBit_number_mask, hother]
  · intro i
    rw [Network.testBit_number_last, hother]
  · rw [hcidr]
    exact hsubnet
  · rw [hnet, hcidr, parseAddress_network_eq_iff, Network.contains_iff]
    rfl

/-- Two addresses that share their first 24 bits, the second one given as a decimal with a fraction,
and the first number that is too large. -/
theorem addresses_agree_of_neighbours : (Value.long 3232235777).HoldsAddress 3232235777
    ∧ (Value.decimal ⟨false, 32322358547, 1, by decide, by decide⟩).HoldsAddress 3232235854
    ∧ inSubnet (.string "192.168.1.1") (.string "192.168.1.78/24") = .ok (.bool true)
    ∧ parseAddress (.string "192.168.1.1/24") = parseAddress (.string "192.168.1.78/24")
    ∧ (Value.long 4294967296).isNumeric = true
    ∧ (∀ k, ¬ (Value.long 4294967296).HoldsAddress k)
    ∧ ∃ detail, addressOfNumber (.long 4294967296) = .error (.invalidArgument detail) := by
  have hx : (Value.long 3232235777).HoldsAddress 3232235777 := ⟨rfl, by decide⟩
  have hy : (Value.decimal ⟨false, 32322358547, 1, by decide, by decide⟩).HoldsAddress 3232235854 :=
    ⟨rfl, by decide⟩
  have hlarge : ∀ k, ¬ (Value.long 4294967296).HoldsAddress k := by
    rintro k ⟨hk, hlt⟩
    have hk : (4294967296 : Int) = k := Option.some_inj.1 hk
    omega
  obtain ⟨hagree, hrefused⟩ := addresses_agree hx hy (show 24 ≤ 32 by decide)
  obtain ⟨A, C, _, _, _, _, _, member, hA, hC, -, -, -, -, -, -, -, hsubnet, -, hmember⟩ := hagree
  have hfirst : addressOfNumber (.long 3232235777) = .ok (.string "192.168.1.1") := rfl
  have hsecond : addressOfNumber (.decimal ⟨false, 32322358547, 1, by decide, by decide⟩)
      = .ok (.string "192.168.1.78") := rfl
  cases hfirst.symm.trans hA
  cases hsecond.symm.trans hC
  have hin : inSubnet (.string "192.168.1.1") (.string "192.168.1.78/24") = .ok (.bool true) := rfl
  cases hin.symm.trans hsubnet
  exact ⟨hx, hy, hin, hmember.1 rfl, rfl, hlarge, hrefused _ rfl hlarge⟩

/-- **Not every number outside the range is refused**: a half below zero is an address. -/
theorem not_addressOfNumber_refuses : ¬ ∀ (v : Value) (x : Numeric), v.toNumeric? = some x →
    x.cmp? (.long 0) = some .lt ∨ x.cmp? (.long 4294967295) = some .gt →
      ∃ e, addressOfNumber v = .error e := by
  intro h
  obtain ⟨e, he⟩ := h (.decimal ⟨true, 5, 1, by decide, by decide⟩) _ rfl (.inl rfl)
  have hfirst : addressOfNumber (.decimal ⟨true, 5, 1, by decide, by decide⟩)
      = .ok (.string "0.0.0.0") := rfl
  cases hfirst.symm.trans he

end Function

end EventQuery
