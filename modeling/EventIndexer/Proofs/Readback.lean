import EventIndexer.Word
import Mathlib.Algebra.Ring.Nat
import Mathlib.Data.List.Induction

/-! What is written can be read back: the bytes of a word, the hexadecimal digits of a word or of an
address whatever letters are raised among them, and the decimal digits of an amount. -/

namespace EventIndexer

/-! ### Bytes of words -/

/-- The last `count` bytes of a number, most significant first. -/
def bytesOf : (count : Nat) → Nat → List UInt8
  | 0, _ => []
  | count + 1, value => bytesOf count (value / 256) ++ [UInt8.ofNat value]

@[simp] theorem length_bytesOf (count value : Nat) : (bytesOf count value).length = count := by
  induction count generalizing value with
  | zero => rfl
  | succ count ih => simp [bytesOf, ih]

theorem bytesOf_eq_map (count value : Nat) : bytesOf count value =
    (List.range count).map fun i => UInt8.ofNat (value >>> (8 * (count - 1 - i))) := by
  induction count generalizing value with
  | zero => rfl
  | succ count ih =>
    rw [bytesOf, ih, List.range_succ, List.map_append]
    congr 1
    · refine List.map_congr_left fun i hi => ?_
      have hi : i < count := List.mem_range.mp hi
      have hplace : count + 1 - 1 - i = count - 1 - i + 1 := by omega
      rw [Nat.shiftRight_eq_div_pow, Nat.shiftRight_eq_div_pow, Nat.div_div_eq_div_mul, hplace,
        Nat.mul_succ, Nat.pow_add, Nat.mul_comm]
    · simp

theorem bigEndian_append (bytes : List UInt8) (byte : UInt8) :
    bigEndian (bytes ++ [byte]) = 256 * bigEndian bytes + byte.toNat := by
  simp [bigEndian]

theorem bigEndian_bytesOf (count value : Nat) :
    bigEndian (bytesOf count value) = value % 256 ^ count := by
  induction count generalizing value with
  | zero => simp [bytesOf, bigEndian, Nat.mod_one]
  | succ count ih =>
    have hbyte : (UInt8.ofNat value).toNat = value % 256 := UInt8.toNat_ofNat'
    rw [bytesOf, bigEndian_append, ih, hbyte, Nat.pow_succ', Nat.mod_mul]
    omega

theorem bytesOf_bigEndian (bytes : List UInt8) :
    bytesOf bytes.length (bigEndian bytes) = bytes := by
  induction bytes using List.reverseRecOn with
  | nil => rfl
  | append_singleton bytes byte ih =>
    have hbyte := byte.toNat_lt
    rw [List.length_append, List.length_singleton, bytesOf, bigEndian_append,
      show (256 * bigEndian bytes + byte.toNat) / 256 = bigEndian bytes by omega, ih]
    congr 2
    apply UInt8.toNat_inj.mp
    rw [UInt8.toNat_ofNat']
    omega

theorem bigEndian_lt (bytes : List UInt8) : bigEndian bytes < 256 ^ bytes.length := by
  rw [← bytesOf_bigEndian bytes, bigEndian_bytesOf, length_bytesOf]
  exact Nat.mod_lt _ (Nat.pow_pos (by decide))

theorem bytesOf_add (high low value : Nat) :
    bytesOf (high + low) value = bytesOf high (value / 256 ^ low) ++ bytesOf low value := by
  induction low generalizing value with
  | zero => simp [bytesOf]
  | succ low ih =>
    rw [Nat.add_succ, bytesOf, ih, bytesOf, Nat.div_div_eq_div_mul, ← Nat.pow_succ',
      List.append_assoc]

theorem bytesOf_zero (count : Nat) : bytesOf count 0 = List.replicate count 0 := by
  induction count with
  | zero => rfl
  | succ count ih => rw [bytesOf, Nat.zero_div, ih, List.replicate_succ']; rfl

/-- The low bytes of a number, written into as many bytes as the number has. -/
theorem bytesOf_low (high low : Nat) (bytes : List UInt8) (h : bytes.length = high + low) :
    bytesOf (high + low) (bigEndian bytes % 256 ^ low) =
      List.replicate high 0 ++ bytes.drop high := by
  have hlow : bytesOf low (bigEndian bytes) = bytes.drop high := by
    have hbytes := bytesOf_bigEndian bytes
    rw [h, bytesOf_add] at hbytes
    conv_rhs => rw [← hbytes]
    rw [List.drop_left' (length_bytesOf _ _)]
  have hmod : bytesOf low (bigEndian bytes % 256 ^ low) = bytesOf low (bigEndian bytes) := by
    conv_lhs => rw [← bigEndian_bytesOf, ← length_bytesOf low (bigEndian bytes)]
    simpa using bytesOf_bigEndian (bytesOf low (bigEndian bytes))
  rw [bytesOf_add, Nat.div_eq_of_lt (Nat.mod_lt _ (Nat.pow_pos (by decide))), bytesOf_zero, hmod,
    hlow]

namespace Word

theorem bytes_eq (word : Word) : word.bytes = bytesOf 32 word.toNat := (bytesOf_eq_map 32 _).symm

@[simp] theorem length_bytes (word : Word) : word.bytes.length = 32 := by simp [bytes]

theorem toNat_ofBytes (bytes : List UInt8) (h : bytes.length = 32) :
    (ofBytes bytes).toNat = bigEndian bytes := by
  rw [ofBytes, BitVec.toNat_ofNat, Nat.mod_eq_of_lt]
  simpa [h] using bigEndian_lt bytes

@[simp] theorem ofBytes_bytes (word : Word) : ofBytes word.bytes = word := by
  apply BitVec.eq_of_toNat_eq
  rw [toNat_ofBytes _ word.length_bytes, bytes_eq, bigEndian_bytesOf]
  exact Nat.mod_eq_of_lt word.isLt

end Word

/-! ### Hexadecimal digits -/

namespace Hex

theorem digit?_digit : ∀ value < 16, digit? (digit value) = some value := by decide

theorem digit?_toUpper_digit : ∀ value < 16, digit? (digit value).toUpper = some value := by decide

@[simp] theorem length_digits (count value : Nat) : (digits count value).length = count := by
  induction count generalizing value with
  | zero => rfl
  | succ count ih => simp [digits, ih]

theorem guard_length_digits (count value : Nat) :
    (guard ((digits count value).length = count) : Option Unit) = some () :=
  if_pos (length_digits count value)

theorem mem_digits {count value : Nat} {c : Char} (h : c ∈ digits count value) :
    ∃ nibble < 16, c = digit nibble := by
  induction count generalizing value with
  | zero => cases h
  | succ count ih =>
    rcases List.mem_append.mp h with h | h
    · exact ih h
    · exact ⟨value % 16, Nat.mod_lt _ (by decide), List.mem_singleton.mp h⟩

theorem number?_append (front back : List Char) (read : Nat) :
    number? (front ++ back) read = (number? front read).bind (number? back) := by
  induction front generalizing read with
  | nil => rfl
  | cons c front ih =>
    rw [List.cons_append, number?, number?]
    cases digit? c with
    | none => rfl
    | some value => exact ih _

theorem number?_digits (count value read : Nat) :
    number? (digits count value) read = some (16 ^ count * read + value % 16 ^ count) := by
  induction count generalizing value with
  | zero => simp [digits, number?, Nat.mod_one]
  | succ count ih =>
    have hdigit : digit? (digit (value % 16)) = some (value % 16) :=
      digit?_digit _ (Nat.mod_lt _ (by decide))
    rw [digits, number?_append, ih, Option.bind_some, number?, hdigit]
    simp only [number?, bind, Option.bind_some, Option.some.injEq]
    rw [Nat.pow_succ', Nat.mod_mul, Nat.mul_add, Nat.mul_assoc]
    omega

theorem number?_digits_of_lt {count value : Nat} (h : value < 16 ^ count) :
    number? (digits count value) 0 = some value := by
  rw [number?_digits, Nat.mul_zero, Nat.zero_add, Nat.mod_eq_of_lt h]

/-- Raising letters changes no number. -/
theorem number?_raised {digits : List Char} {marks : List Nat}
    (hlength : digits.length ≤ marks.length)
    (hdigits : ∀ c ∈ digits, ∃ nibble < 16, c = digit nibble) (read : Nat) :
    number? (List.zipWith (fun c mark => if 8 ≤ mark then c.toUpper else c) digits marks) read =
      number? digits read := by
  induction digits generalizing marks read with
  | nil => rfl
  | cons c digits ih =>
    cases marks with
    | nil => simp at hlength
    | cons mark marks =>
      obtain ⟨nibble, hnibble, rfl⟩ := hdigits c List.mem_cons_self
      have hdigit : digit? (if 8 ≤ mark then (digit nibble).toUpper else digit nibble) =
          digit? (digit nibble) := by
        split
        · rw [digit?_toUpper_digit _ hnibble, digit?_digit _ hnibble]
        · rfl
      have ih := ih (Nat.le_of_succ_le_succ hlength) fun c hmem =>
        hdigits c (List.mem_cons_of_mem _ hmem)
      rw [List.zipWith_cons_cons, number?, number?, hdigit]
      simp only [ih]

theorem unprefixed_toList (text : List Char) :
    unprefixed ("0x" ++ String.ofList text).toList = text := by
  rw [String.toList_append, String.toList_ofList, String.toList_ofList]
  rfl

end Hex

theorem Word.parse?_text (word : Word) : Word.parse? word.text = some word := by
  have hlt : word.toNat < 16 ^ 64 := word.isLt
  rw [Word.parse?, Word.text, Hex.unprefixed_toList, Hex.number?_digits_of_lt hlt,
    Hex.guard_length_digits]
  simp

/-! ### Checksums -/

namespace Keccak

theorem length_round (state : List UInt64) (constant : UInt64) :
    (round state constant).length = 25 := by
  unfold round
  simp only
  split
  · next h => simp at h
  · next first rest h =>
    have hlength := congrArg List.length h
    simpa using hlength.symm

theorem length_permute (state : List UInt64) : (permute state).length = 25 := by
  simp [permute, roundConstants, length_round]

theorem length_absorb (blocks : Nat) (bytes : List UInt8) {state : List UInt64}
    (h : state.length = 25) : (absorb blocks bytes state).length = 25 := by
  induction blocks generalizing bytes state with
  | zero => exact h
  | succ blocks ih => exact ih _ (length_permute _)

theorem length_hash (message : List UInt8) : (hash message).length = 32 := by
  simp [hash, List.length_flatMap, laneBytes, length_absorb, List.map_const']

end Keccak

namespace Address

theorem length_marks (bytes : List UInt8) :
    (bytes.flatMap fun byte => [byte.toNat / 16, byte.toNat % 16]).length = 2 * bytes.length := by
  simp [List.length_flatMap, List.map_const', Nat.mul_comm]

/-- A checksummed address reads as the address, whatever its digest. -/
theorem parse?_checksum (address : Address) : Address.parse? address.checksum = some address := by
  have hmarks : address.digits.length ≤ ((Keccak.hash (address.digits.map fun c =>
      UInt8.ofNat c.toNat)).flatMap fun byte => [byte.toNat / 16, byte.toNat % 16]).length := by
    rw [length_marks, Keccak.length_hash, digits, Hex.length_digits]
    decide
  have hlt : address.toNat < 16 ^ 40 := address.isLt
  rw [Address.parse?, checksum, Hex.unprefixed_toList, List.length_zipWith, Nat.min_eq_left hmarks,
    Hex.number?_raised hmarks fun c => Hex.mem_digits, digits, Hex.number?_digits_of_lt hlt,
    Hex.guard_length_digits]
  simp

end Address

/-! ### Amounts -/

namespace Amount

theorem digit?_of_isDigit {c : Char} (h : c.isDigit = true) :
    digit? 10 c = some (c.toNat - '0'.toNat) := by
  have hbounds : '0' ≤ c ∧ c ≤ '9' := by
    simpa [Char.isDigit, Char.le_def, and_comm] using h
  have hnine : c.toNat ≤ '9'.toNat := hbounds.2
  have hlt : c.toNat - 48 < 10 := by
    have : '9'.toNat = 57 := rfl
    omega
  rw [digit?, Hex.digit?, if_pos hbounds]
  exact Option.filter_some_pos (by simpa using hlt)

theorem number?_of_isDigit {digits : List Char} (h : ∀ c ∈ digits, c.isDigit = true) (read : Nat) :
    number? 10 digits read = some (Nat.ofDigitChars 10 digits read) := by
  induction digits generalizing read with
  | nil => rfl
  | cons c digits ih =>
    have hc : c.isDigit = true := h c List.mem_cons_self
    have hne : c ≠ '_' := by
      rintro rfl
      cases hc
    rw [number?, digit?_of_isDigit hc]
    · exact ih (fun c hmem => h c (List.mem_cons_of_mem _ hmem)) _
    · exact hne

/-- A text of decimal digits has no prefix of another base. -/
theorem parse?_of_isDigit {text : String} (h : ∀ c ∈ text.toList, c.isDigit = true) :
    Amount.parse? text = (number? 10 text.toList 0).filter (· < bound) := by
  -- The mark of a base stands second in the text, and is no digit.
  have hsecond : ∀ first mark rest, text.toList = first :: mark :: rest → mark.isDigit = true :=
    fun first mark rest htext => h mark (by simp [htext])
  unfold Amount.parse?
  split
  case h_7 => rfl
  all_goals exact absurd (hsecond _ _ _ ‹_›) (by decide)

theorem parse?_toString {n : Nat} (h : n < bound) : Amount.parse? (toString n) = some n := by
  have htext : (toString n).toList = Nat.toDigits 10 n := Nat.toList_repr
  have hdigits : ∀ c ∈ Nat.toDigits 10 n, c.isDigit = true := fun c hmem =>
    Nat.isDigit_of_mem_toDigits (by decide) (Nat.le_refl 10) hmem
  rw [parse?_of_isDigit (by rwa [htext]), htext, number?_of_isDigit hdigits,
    Nat.ofDigitChars_ten_toDigits]
  exact Option.filter_some_pos (by simpa using h)

end Amount

end EventIndexer
