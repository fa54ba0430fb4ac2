import Mathlib.Algebra.Group.Nat.Defs
import Mathlib.Data.List.Forall2
import ProxyRouting.Text.Base64

/-!
# Base64 texts are read as they are written

The Base64 text of a byte string has its bits, eight for each byte and the highest first, in groups
of six. Each group is written as the letter with this number; the last one is filled with zero bits,
and `=` stands at the end until the length is a multiple of four. `Writes` says so without telling
how a text is found. There is exactly one for each byte string (`writes_iff_eq_encode`): `encode`
finds it, and `decode?` gives the bytes back from it and refuses every other text
(`decode?_eq_some_iff`).
-/

namespace ProxyRouting.Base64

/-! ### The alphabet -/

/-- The 64 letters. The place of a letter is its number. -/
def alphabet : Bytes := ascii "ABCDEFGHIJKLMNOPQRSTUVWXYZabcdefghijklmnopqrstuvwxyz0123456789+/"

/-- `letter` is the one with the number `n`. -/
def IsLetter (n : Nat) (letter : UInt8) : Prop := alphabet[n]? = some letter

variable {n m : Nat} {letter : UInt8}

theorem IsLetter.lt (isLetter : IsLetter n letter) : n < 64 :=
  (List.getElem?_eq_some_iff.1 isLetter).1

theorem isLetter_symbol : ∀ n < 64, IsLetter n (symbol n) := by
  unfold IsLetter
  decide +kernel

theorem sextet?_symbol : ∀ n < 64, sextet? (symbol n) = some n := by decide +kernel

/-- Only letters have numbers. -/
theorem eq_symbol_of_sextet? (reads : sextet? letter = some n) : n < 64 ∧ letter = symbol n :=
  forall_byte (P := fun b => ∀ n ∈ sextet? b, n < 64 ∧ b = symbol n) (by decide +kernel)
    letter n reads

/-! ### Bits -/

/-- The lowest `width` bits of a number, the highest of them first. -/
def bits : Nat → Nat → List Bool
  | 0, _ => []
  | width + 1, n => bits width (n / 2) ++ [n % 2 == 1]

theorem length_bits (width n : Nat) : (bits width n).length = width := by
  induction width generalizing n with
  | zero => rfl
  | succ width ih => rw [bits, List.length_append, ih, List.length_singleton]

/-- The bits of a number are those of its higher part and then those of its lower part. -/
theorem bits_add (high low n : Nat) :
    bits (high + low) n = bits high (n / 2 ^ low) ++ bits low (n % 2 ^ low) := by
  induction low generalizing n with
  | zero => simp [bits]
  | succ low ih =>
    have above : n / 2 ^ (low + 1) = n / 2 / 2 ^ low := by
      rw [Nat.pow_succ', Nat.div_div_eq_div_mul]
    have below : n % 2 ^ (low + 1) / 2 = n / 2 % 2 ^ low := by
      rw [Nat.pow_succ', Nat.mod_mul_right_div_self]
    have last : n % 2 ^ (low + 1) % 2 = n % 2 := by
      rw [Nat.pow_succ', Nat.mod_mul_right_mod]
    rw [← Nat.add_assoc, bits, ih, bits, above, below, last, List.append_assoc]

variable {width unit : Nat}

/-- The bits of a number that is cut at a power of two. -/
theorem bits_cut (high low : Nat) (whole : high + low = width) (power : 2 ^ low = unit) (n : Nat) :
    bits width n = bits high (n / unit) ++ bits low (n % unit) := by
  rw [← whole, ← power, bits_add]

/-- The bits of a number that is put together at a power of two. -/
theorem bits_join (high low : Nat) (whole : high + low = width) (power : 2 ^ low = unit)
    (upper : Nat) {lower : Nat} (fits : lower < unit) :
    bits width (upper * unit + lower) = bits high upper ++ bits low lower := by
  have positive : 0 < unit := Nat.zero_lt_of_lt fits
  rw [bits_cut high low whole power, Nat.add_comm, Nat.add_mul_div_right _ _ positive,
    Nat.div_eq_of_lt fits, Nat.zero_add, Nat.add_mul_mod_self_right, Nat.mod_eq_of_lt fits]

theorem bits_zero (width : Nat) : bits width 0 = List.replicate width false := by
  induction width with
  | zero => rfl
  | succ width ih => rw [bits, Nat.zero_div, ih, List.replicate_succ']; rfl

/-- The bits of a number with zero bits behind it. -/
theorem bits_fill (high low : Nat) (whole : high + low = width) (power : 2 ^ low = unit)
    (upper : Nat) :
    bits width (upper * unit) = bits high upper ++ List.replicate low false := by
  have positive : 0 < unit := power ▸ Nat.two_pow_pos low
  rw [← bits_zero, ← bits_join high low whole power upper positive, Nat.add_zero]

/-- Numbers with the same bits are the same. -/
theorem eq_of_bits (small : n < 2 ^ width) (small' : m < 2 ^ width)
    (same : bits width n = bits width m) : n = m := by
  induction width generalizing n m with
  | zero => omega
  | succ width ih =>
    rw [Nat.pow_succ] at small small'
    obtain ⟨upper, last⟩ := List.append_inj' same rfl
    have halves : n / 2 = m / 2 := ih (by omega) (by omega) upper
    have parity : n % 2 = 1 ↔ m % 2 = 1 := by simpa using last
    omega

/-- The bits of a byte string. -/
def bitsOf (bytes : Bytes) : List Bool := bytes.flatMap fun b => bits 8 b.toNat

/-- The bits of some letters, given by their numbers. -/
def bitsOfNumbers (numbers : List Nat) : List Bool := numbers.flatMap (bits 6)

theorem length_bitsOf (bytes : Bytes) : (bitsOf bytes).length = 8 * bytes.length := by
  induction bytes with
  | nil => rfl
  | cons b rest ih =>
    rw [bitsOf, List.flatMap_cons, List.length_append, length_bits, ← bitsOf, ih, List.length_cons]
    omega

theorem length_bitsOfNumbers (numbers : List Nat) :
    (bitsOfNumbers numbers).length = 6 * numbers.length := by
  induction numbers with
  | nil => rfl
  | cons n rest ih =>
    rw [bitsOfNumbers, List.flatMap_cons, List.length_append, length_bits, ← bitsOfNumbers, ih,
      List.length_cons]
    omega

/-- Groups with the same bits are the same. -/
theorem eq_of_bitsOfNumbers {numbers others : List Nat} (small : ∀ n ∈ numbers, n < 64)
    (small' : ∀ n ∈ others, n < 64) (same : bitsOfNumbers numbers = bitsOfNumbers others) :
    numbers = others := by
  have sameLength : numbers.length = others.length := by
    have := congrArg List.length same
    rw [length_bitsOfNumbers, length_bitsOfNumbers] at this
    omega
  induction numbers generalizing others with
  | nil => exact (List.eq_nil_of_length_eq_zero sameLength.symm).symm
  | cons n rest ih =>
    obtain _ | ⟨m, rest'⟩ := others
    · cases sameLength
    obtain ⟨first, later⟩ := List.append_inj
      (same : bits 6 n ++ bitsOfNumbers rest = bits 6 m ++ bitsOfNumbers rest')
      (by rw [length_bits, length_bits])
    obtain ⟨smallFirst, smallRest⟩ := List.forall_mem_cons.1 small
    obtain ⟨smallFirst', smallRest'⟩ := List.forall_mem_cons.1 small'
    rw [eq_of_bits smallFirst smallFirst' first,
      ih smallRest smallRest' later (Nat.succ.inj sameLength)]

/-! ### The texts of byte strings -/

/-- The Base64 texts of a byte string. -/
inductive Writes (bytes : Bytes) : Bytes → Prop
  /-- The bits of the bytes, and two zero bits for each `=`, are those of the letters. -/
  | mk (numbers : List Nat) (letters : Bytes) (padding : Nat) :
      List.Forall₂ IsLetter numbers letters →
      bitsOfNumbers numbers = bitsOf bytes ++ List.replicate (2 * padding) false → padding ≤ 2 →
      Writes bytes (letters ++ List.replicate padding equalsSign)

variable {bytes text other : Bytes}

theorem letters_small {numbers : List Nat} {letters : Bytes}
    (spelled : List.Forall₂ IsLetter numbers letters) : ∀ n ∈ numbers, n < 64 := by
  induction spelled with
  | nil => simp
  | cons first _ ih => exact List.forall_mem_cons.2 ⟨first.lt, ih⟩

/-- The length of a text is four thirds of that of the bytes, rounded up to a multiple of four. -/
theorem Writes.length (writes : Writes bytes text) :
    text.length = 4 * ((bytes.length + 2) / 3) := by
  obtain ⟨numbers, letters, padding, spelled, same, few⟩ := writes
  have balance := congrArg List.length same
  rw [List.length_append, length_bitsOfNumbers, length_bitsOf, List.length_replicate,
    spelled.length_eq] at balance
  rw [List.length_append, List.length_replicate]
  omega

/-- A byte string has one text at most. -/
theorem Writes.unique (writes : Writes bytes text) (writes' : Writes bytes other) :
    text = other := by
  obtain ⟨numbers, letters, padding, spelled, same, few⟩ := writes
  obtain ⟨numbers', letters', padding', spelled', same', few'⟩ := writes'
  have balance := congrArg List.length same
  have balance' := congrArg List.length same'
  rw [List.length_append, length_bitsOfNumbers, length_bitsOf, List.length_replicate]
    at balance balance'
  -- The numbers of bits agree modulo six.
  obtain rfl : padding = padding' := by omega
  obtain rfl : numbers = numbers' := eq_of_bitsOfNumbers (letters_small spelled)
    (letters_small spelled') (same.trans same'.symm)
  have functional : Relator.RightUnique IsLetter := by
    intro n letter letter' isLetter isLetter'
    exact Option.some.inj (Eq.trans (Eq.symm isLetter) isLetter')
  rw [List.right_unique_forall₂' functional spelled spelled']

/-! ### Writing -/

/-- The bits of a byte before and behind a border of letters. -/
theorem bits_byte (n : Nat) :
    bits 8 n = bits 6 (n / 4) ++ bits 2 (n % 4) ∧
      bits 8 n = bits 4 (n / 16) ++ bits 4 (n % 16) ∧
      bits 8 n = bits 2 (n / 64) ++ bits 6 (n % 64) :=
  ⟨bits_cut 6 2 rfl rfl n, bits_cut 4 4 rfl rfl n, bits_cut 2 6 rfl rfl n⟩

/-- The text of three bytes and of what follows them. -/
theorem Writes.cons (writes : Writes bytes text) (a b c : UInt8) :
    Writes (a :: b :: c :: bytes)
      (symbol (a.toNat / 4) :: symbol (a.toNat % 4 * 16 + b.toNat / 16) ::
        symbol (b.toNat % 16 * 4 + c.toNat / 64) :: symbol (c.toNat % 64) :: text) := by
  obtain ⟨numbers, letters, padding, spelled, same, few⟩ := writes
  have := a.toNat_lt
  have := b.toNat_lt
  have := c.toNat_lt
  have first := (bits_byte a.toNat).1
  have second := (bits_byte b.toNat).2.1
  have third := (bits_byte c.toNat).2.2
  have border : bits 6 (a.toNat % 4 * 16 + b.toNat / 16) =
      bits 2 (a.toNat % 4) ++ bits 4 (b.toNat / 16) := bits_join 2 4 rfl rfl _ (by omega)
  have border' : bits 6 (b.toNat % 16 * 4 + c.toNat / 64) =
      bits 4 (b.toNat % 16) ++ bits 2 (c.toNat / 64) := bits_join 4 2 rfl rfl _ (by omega)
  refine .mk (_ :: _ :: _ :: _ :: numbers) (_ :: _ :: _ :: _ :: letters) padding
    (.cons (isLetter_symbol _ (by omega)) (.cons (isLetter_symbol _ (by omega))
      (.cons (isLetter_symbol _ (by omega)) (.cons (isLetter_symbol _ (by omega)) spelled))))
    ?_ few
  simp only [bitsOfNumbers, bitsOf, List.flatMap_cons, List.append_assoc, first, second, third,
    border, border'] at same ⊢
  rw [same]

/-- **What is written is the text of the bytes.** -/
theorem writes_encode (bytes : Bytes) : Writes bytes (encode bytes) := by
  fun_induction encode bytes with
  | case1 => exact .mk [] [] 0 .nil rfl (by decide)
  | case2 a =>
    have := a.toNat_lt
    have first := (bits_byte a.toNat).1
    have border : bits 6 (a.toNat % 4 * 16) = bits 2 (a.toNat % 4) ++ List.replicate 4 false :=
      bits_fill 2 4 rfl rfl _
    refine .mk [_, _] [_, _] 2 (.cons (isLetter_symbol _ (by omega))
      (.cons (isLetter_symbol _ (by omega)) .nil)) ?_ (by decide)
    simp only [bitsOfNumbers, bitsOf, List.flatMap_cons, List.flatMap_nil, List.append_assoc,
      List.append_nil, first, border]
  | case3 a b =>
    have := a.toNat_lt
    have := b.toNat_lt
    have first := (bits_byte a.toNat).1
    have second := (bits_byte b.toNat).2.1
    have border : bits 6 (a.toNat % 4 * 16 + b.toNat / 16) =
        bits 2 (a.toNat % 4) ++ bits 4 (b.toNat / 16) := bits_join 2 4 rfl rfl _ (by omega)
    have border' : bits 6 (b.toNat % 16 * 4) = bits 4 (b.toNat % 16) ++ List.replicate 2 false :=
      bits_fill 4 2 rfl rfl _
    refine .mk [_, _, _] [_, _, _] 1 (.cons (isLetter_symbol _ (by omega))
      (.cons (isLetter_symbol _ (by omega)) (.cons (isLetter_symbol _ (by omega)) .nil))) ?_
      (by decide)
    simp only [bitsOfNumbers, bitsOf, List.flatMap_cons, List.flatMap_nil, List.append_assoc,
      List.append_nil, first, second, border, border']
  | case4 a b c rest ih => exact ih.cons a b c

theorem writes_iff_eq_encode : Writes bytes text ↔ text = encode bytes := by
  constructor
  · intro writes
    exact writes.unique (writes_encode bytes)
  · rintro rfl
    exact writes_encode bytes

/-! ### Reading -/

theorem sextet?_equalsSign : sextet? equalsSign = none := by decide

/-- A byte is put together from what was taken from it. -/
theorem ofNat_eq_of_toNat_eq {b : UInt8} (same : n = b.toNat) : UInt8.ofNat n = b := by
  rw [same, UInt8.ofNat_toNat]

theorem decode?_encode (bytes : Bytes) : decode? (encode bytes) = some bytes := by
  fun_induction encode bytes with
  | case1 => rfl
  | case2 a =>
    have := a.toNat_lt
    rw [decode?, sextet?_symbol _ (by omega), sextet?_symbol _ (by omega), sextet?_equalsSign]
    dsimp only
    rw [if_pos ⟨rfl, rfl, rfl, by omega⟩, ofNat_eq_of_toNat_eq (b := a) (by omega)]
  | case3 a b =>
    have := a.toNat_lt
    have := b.toNat_lt
    rw [decode?, sextet?_symbol _ (by omega), sextet?_symbol _ (by omega),
      sextet?_symbol _ (by omega), sextet?_equalsSign]
    dsimp only
    rw [if_pos ⟨rfl, rfl, by omega⟩, ofNat_eq_of_toNat_eq (b := a) (by omega),
      ofNat_eq_of_toNat_eq (b := b) (by omega)]
  | case4 a b c rest ih =>
    have := a.toNat_lt
    have := b.toNat_lt
    have := c.toNat_lt
    rw [decode?, sextet?_symbol _ (by omega), sextet?_symbol _ (by omega),
      sextet?_symbol _ (by omega), sextet?_symbol _ (by omega), ih]
    dsimp only [Option.map_some]
    rw [ofNat_eq_of_toNat_eq (b := a) (by omega), ofNat_eq_of_toNat_eq (b := b) (by omega),
      ofNat_eq_of_toNat_eq (b := c) (by omega)]

/-- What is read is the text of the bytes. -/
theorem eq_encode_of_decode? (reads : decode? text = some bytes) : text = encode bytes := by
  fun_induction decode? text generalizing bytes with
  | case1 =>
    cases reads
    rfl
  | case2 a b c d rest w x y z readsD readsC readsB readsA ih =>
    obtain ⟨others, later, rfl⟩ := Option.map_eq_some_iff.1 reads
    obtain ⟨smallA, rfl⟩ := eq_symbol_of_sextet? readsA
    obtain ⟨smallB, rfl⟩ := eq_symbol_of_sextet? readsB
    obtain ⟨smallC, rfl⟩ := eq_symbol_of_sextet? readsC
    obtain ⟨smallD, rfl⟩ := eq_symbol_of_sextet? readsD
    have first : (w * 4 + x / 16) % 2 ^ 8 / 4 = w := by omega
    have second :
        (w * 4 + x / 16) % 2 ^ 8 % 4 * 16 + (x % 16 * 16 + y / 4) % 2 ^ 8 / 16 = x := by omega
    have third :
        (x % 16 * 16 + y / 4) % 2 ^ 8 % 16 * 4 + (y % 4 * 64 + z) % 2 ^ 8 / 64 = y := by omega
    have fourth : (y % 4 * 64 + z) % 2 ^ 8 % 64 = z := by omega
    simp only [encode, UInt8.toNat_ofNat', first, second, third, fourth, ih later]
  | case3 a b c d rest w x y readsD readsC readsB readsA ends =>
    obtain ⟨rfl, rfl, filled⟩ := ends
    cases reads
    obtain ⟨smallA, rfl⟩ := eq_symbol_of_sextet? readsA
    obtain ⟨smallB, rfl⟩ := eq_symbol_of_sextet? readsB
    obtain ⟨smallC, rfl⟩ := eq_symbol_of_sextet? readsC
    have first : (w * 4 + x / 16) % 2 ^ 8 / 4 = w := by omega
    have second :
        (w * 4 + x / 16) % 2 ^ 8 % 4 * 16 + (x % 16 * 16 + y / 4) % 2 ^ 8 / 16 = x := by omega
    have third : (x % 16 * 16 + y / 4) % 2 ^ 8 % 16 * 4 = y := by omega
    simp only [encode, UInt8.toNat_ofNat', first, second, third]
  | case5 a b c d rest w x readsD readsC readsB readsA ends =>
    obtain ⟨rfl, rfl, rfl, filled⟩ := ends
    cases reads
    obtain ⟨smallA, rfl⟩ := eq_symbol_of_sextet? readsA
    obtain ⟨smallB, rfl⟩ := eq_symbol_of_sextet? readsB
    have first : (w * 4 + x / 16) % 2 ^ 8 / 4 = w := by omega
    have second : (w * 4 + x / 16) % 2 ^ 8 % 4 * 16 = x := by omega
    simp only [encode, UInt8.toNat_ofNat', first, second]
  | case4 | case6 | case7 | case8 => cases reads

/-- **A text is read exactly if it is that of some bytes**, and these are what is read. -/
theorem decode?_eq_some_iff : decode? text = some bytes ↔ Writes bytes text := by
  rw [writes_iff_eq_encode]
  constructor
  · exact eq_encode_of_decode?
  · rintro rfl
    exact decode?_encode bytes

/-- Different bytes have different texts. -/
theorem encode_inj {others : Bytes} : encode bytes = encode others ↔ bytes = others := by
  refine ⟨fun same => ?_, congrArg encode⟩
  have reads := decode?_encode bytes
  rw [same, decode?_encode] at reads
  exact (Option.some.inj reads).symm

end ProxyRouting.Base64
