import Mathlib.Data.Nat.Digits.Defs
import RecordSchema.PassThroughHash

/-!
# Bytes that hash to their number

A pass-through hash takes in a byte by turning its state and adding the byte, both in the arithmetic
of words.  A turn brings back at the bottom what it pushes out at the top, and a sum may be too
large for a word; but neither happens before the ninth byte.  After `k` bytes the state is less than
`256 ^ k`, so with at most seven bytes taken in, only zeros are pushed out, and the next byte fills
the eight bits that became free (`takesPlainly`).

So the hash of at most eight bytes is the number that they spell, the least significant byte first.
Eight bytes spell every word in just one way, so it does not matter whether a word is handed over as
such or byte by byte, and different bytes have different hashes.
-/

namespace RecordSchema

namespace PassThroughHash

/-- The number that bytes spell, the least significant one first. -/
def spelled (bytes : List UInt8) : Nat := Nat.ofDigits 256 (bytes.map UInt8.toNat)

/-- The eight bytes of a word, the least significant one first. -/
def bytesOf (word : UInt64) : List UInt8 :=
  (List.range 8).map fun place => (word >>> (8 * place).toUInt64).toUInt8

/-- A byte is taken in without wrap-around: the turn pushes out zeros, and the sum is a word. -/
structure TakesPlainly (hash : PassThroughHash) (byte : UInt8) : Prop where
  turned : (turn hash.state).toNat = 256 * hash.state.toNat
  fits : (turn hash.state).toNat + byte.toNat < 2 ^ 64

/-! ## Spelled numbers -/

section Spelling

variable {bytes bytes' : List UInt8}

@[simp] theorem spelled_nil : spelled [] = 0 := rfl

@[simp] theorem spelled_cons (byte : UInt8) (bytes : List UInt8) :
    spelled (byte :: bytes) = byte.toNat + 256 * spelled bytes := by
  simp [spelled, Nat.ofDigits_cons]

theorem digits_lt (bytes : List UInt8) : ∀ digit ∈ bytes.map UInt8.toNat, digit < 256 := by
  intro digit listed
  obtain ⟨byte, -, rfl⟩ := List.mem_map.1 listed
  exact byte.toNat_lt

theorem spelled_lt (bytes : List UInt8) : spelled bytes < 256 ^ bytes.length := by
  simpa [spelled] using Nat.ofDigits_lt_base_pow_length (by decide : 1 < 256) (digits_lt bytes)

/-- Bytes of one length are told apart by the number that they spell. -/
theorem spelled_inj (length : bytes.length = bytes'.length)
    (same : spelled bytes = spelled bytes') : bytes = bytes' := by
  have digits : bytes.map UInt8.toNat = bytes'.map UInt8.toNat :=
    Nat.ofDigits_inj_of_len_eq (by decide) (by simpa using length) (digits_lt bytes)
      (digits_lt bytes') same
  exact (List.map_inj_right fun _ _ => UInt8.toNat_inj.1).1 digits

/-- The lowest digits of a number spell its remainder. -/
theorem ofDigits_lowest (number count : Nat) :
    Nat.ofDigits 256 ((List.range count).map fun place => number / 256 ^ place % 256) =
      number % 256 ^ count := by
  induction count with
  | zero => simp [Nat.mod_one]
  | succ count ih =>
    rw [List.range_succ, List.map_append, Nat.ofDigits_append, ih, Nat.mod_pow_succ]
    simp

theorem length_bytesOf (word : UInt64) : (bytesOf word).length = 8 := by simp [bytesOf]

theorem toNat_byte (word : UInt64) {place : Nat} (inside : place < 8) :
    (word >>> (8 * place).toUInt64).toUInt8.toNat = word.toNat / 256 ^ place % 256 := by
  have shift : (8 * place).toUInt64.toNat % 64 = 8 * place := by
    simp only [Nat.toUInt64, UInt64.toNat_ofNat']
    omega
  have base : 2 ^ (8 * place) = 256 ^ place := pow_mul 2 8 place
  rw [UInt64.toNat_toUInt8, UInt64.toNat_shiftRight, shift, Nat.shiftRight_eq_div_pow, base]

/-- The bytes of a word spell the word. -/
theorem spelled_bytesOf (word : UInt64) : spelled (bytesOf word) = word.toNat := by
  have digits : (bytesOf word).map UInt8.toNat =
      (List.range 8).map fun place => word.toNat / 256 ^ place % 256 := by
    rw [bytesOf, List.map_map]
    exact List.map_congr_left fun place inside => toNat_byte word (List.mem_range.1 inside)
  rw [spelled, digits, ofDigits_lowest]
  exact Nat.mod_eq_of_lt word.toNat_lt

end Spelling

/-! ## Taking in bytes -/

section Bytes

variable {hash : PassThroughHash} {byte : UInt8} {bytes : List UInt8}

/-- If the eight bits at the top are zero, a turn is a multiplication. -/
theorem toNat_turn {word : UInt64} (small : word.toNat < 2 ^ 56) :
    (turn word).toNat = 256 * word.toNat := by
  have pushedOut : word.toNat >>> 56 = 0 := by
    rw [Nat.shiftRight_eq_div_pow]
    exact Nat.div_eq_of_lt small
  have shifted : word.toNat <<< 8 = 256 * word.toNat := by rw [Nat.shiftLeft_eq, Nat.mul_comm]
  calc (turn word).toNat = word.toNat <<< 8 % 2 ^ 64 ||| word.toNat >>> 56 := by
        simp [turn]
    _ = 256 * word.toNat := by
        rw [pushedOut, shifted, Nat.or_zero]
        exact Nat.mod_eq_of_lt (by omega)

theorem takesPlainly (small : hash.state.toNat < 2 ^ 56) (byte : UInt8) :
    hash.TakesPlainly byte where
  turned := toNat_turn small
  fits := by
    have := byte.toNat_lt
    rw [toNat_turn small]
    omega

/-- Without wrap-around the byte becomes the lowest digit of the state. -/
theorem TakesPlainly.toNat_writeByte (plain : hash.TakesPlainly byte) :
    (hash.writeByte byte).state.toNat = byte.toNat + 256 * hash.state.toNat := by
  have sum : (hash.writeByte byte).state.toNat =
      ((turn hash.state).toNat + byte.toNat) % 2 ^ 64 := by
    simp [writeByte]
  rw [sum, Nat.mod_eq_of_lt plain.fits, plain.turned, Nat.add_comm]

/-- Bytes are taken in from the last to the first. -/
theorem write_cons (hash : PassThroughHash) (byte : UInt8) (bytes : List UInt8) :
    hash.write (byte :: bytes) = (hash.write bytes).writeByte byte := by
  simp [write]

/-- The loop invariant: the state is the number that the bytes taken in so far spell. -/
theorem toNat_write (short : bytes.length ≤ 8) :
    (fresh.write bytes).state.toNat = spelled bytes := by
  induction bytes with
  | nil => rfl
  | cons byte bytes ih =>
    have short' : bytes.length ≤ 7 := Nat.le_of_succ_le_succ short
    have number := ih (by omega)
    have small : (fresh.write bytes).state.toNat < 2 ^ 56 := by
      calc (fresh.write bytes).state.toNat = spelled bytes := number
        _ < 256 ^ bytes.length := spelled_lt bytes
        _ ≤ 256 ^ 7 := Nat.pow_le_pow_right (by decide) short'
    rw [write_cons, (takesPlainly small byte).toNat_writeByte, number, spelled_cons]

/-- No byte of a short run wraps around, whatever bytes are taken in before it. -/
theorem takesPlainly_write {waiting taken : List UInt8}
    (short : (waiting ++ byte :: taken).length ≤ 8) : (fresh.write taken).TakesPlainly byte := by
  have few : taken.length ≤ 7 := by
    simp only [List.length_append, List.length_cons] at short
    omega
  apply takesPlainly
  calc (fresh.write taken).state.toNat = spelled taken := toNat_write (by omega)
    _ < 256 ^ taken.length := spelled_lt taken
    _ ≤ 256 ^ 7 := Nat.pow_le_pow_right (by decide) few

end Bytes

/-- **Up to eight bytes hash to the number that they spell.**  Each byte is taken in without
wrap-around, after those that stand behind it.  Hence the bytes of a word leave the same hash as the
word itself, and eight bytes and eight others have different hashes. -/
theorem bytes_hash_to_their_number :
    (∀ bytes : List UInt8, bytes.length ≤ 8 →
      (fresh.write bytes).finish.toNat = spelled bytes ∧
        ∀ waiting byte taken, bytes = waiting ++ byte :: taken →
          (fresh.write taken).TakesPlainly byte ∧
            fresh.write bytes =
              waiting.reverse.foldl writeByte ((fresh.write taken).writeByte byte)) ∧
    (∀ word, fresh.write (bytesOf word) = fresh.writeWord word) ∧
    ∀ bytes bytes' : List UInt8, bytes.length = 8 → bytes'.length = 8 → bytes ≠ bytes' →
      (fresh.write bytes).finish ≠ (fresh.write bytes').finish := by
  refine ⟨fun bytes short => ⟨toNat_write short, ?_⟩, fun word => ?_, ?_⟩
  · rintro waiting byte taken rfl
    exact ⟨takesPlainly_write short, by simp [write]⟩
  · have number : (fresh.write (bytesOf word)).state.toNat = word.toNat := by
      rw [toNat_write (length_bytesOf word).le, spelled_bytesOf]
    exact congrArg PassThroughHash.mk (UInt64.toNat_inj.1 number)
  · intro bytes bytes' eight eight' different same
    have spell : spelled bytes = spelled bytes' := by
      rw [← toNat_write eight.le, ← toNat_write eight'.le]
      exact congrArg UInt64.toNat same
    exact different (spelled_inj (eight.trans eight'.symm) spell)

/-- Eight bytes, the topmost one with its first bit set, and the word that they spell. -/
theorem eight_bytes_hash_to_their_number :
    bytesOf 0xFEDCBA9876543210 = [0x10, 0x32, 0x54, 0x76, 0x98, 0xBA, 0xDC, 0xFE] ∧
    (bytesOf 0xFEDCBA9876543210).length ≤ 8 ∧
    (fresh.write (bytesOf 0xFEDCBA9876543210)).finish.toNat =
      spelled (bytesOf 0xFEDCBA9876543210) ∧
    (fresh.write [0x32, 0x54, 0x76, 0x98, 0xBA, 0xDC, 0xFE]).TakesPlainly 0x10 ∧
    (fresh.write (bytesOf 0xFEDCBA9876543210)).finish ≠
      (fresh.write (bytesOf 0x1032547698BADCFE)).finish := by
  obtain ⟨short, -, apart⟩ := bytes_hash_to_their_number
  obtain ⟨number, plain⟩ := short (bytesOf 0xFEDCBA9876543210) (by decide)
  exact ⟨by decide, by decide, number, (plain [] 0x10 _ rfl).1,
    apart _ _ (length_bytesOf _) (length_bytesOf _) (by decide)⟩

end PassThroughHash

end RecordSchema
