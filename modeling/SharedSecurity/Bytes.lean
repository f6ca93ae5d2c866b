/-!
# Bytes and byte order

Keys, values and records are lists of bytes, and everything the library lists is listed in byte
order.

* `Bytes.order` — the lexicographic order of byte strings: the first differing byte decides, and a
  proper beginning of a string comes before the string.
* `Bytes.littleEndian`, `Bytes.bigEndian` — a number as a fixed count of bytes, and back.  The
  big-endian form is the one used in keys, because its byte order is the order of the numbers.
* `ByteOrdered` — types that are told apart by their bytes and listed in the order of those bytes.
-/

set_option autoImplicit false
namespace SharedSecurity

/-- A byte string. -/
abbrev Bytes := List UInt8

namespace Bytes

/-! ## Order -/

/-- The lexicographic order of byte strings. -/
def order : Bytes → Bytes → Ordering
  | [], [] => .eq
  | [], _ :: _ => .lt
  | _ :: _, [] => .gt
  | a :: as, b :: bs =>
    if a.toNat < b.toNat then .lt else if b.toNat < a.toNat then .gt else order as bs

theorem order_self (a : Bytes) : order a a = .eq := by
  induction a with
  | nil => rfl
  | cons b bs ih => simp [order, ih]

theorem eq_of_order_eq {a b : Bytes} (h : order a b = .eq) : a = b := by
  induction a generalizing b with
  | nil => cases b with
    | nil => rfl
    | cons => simp [order] at h
  | cons x xs ih => cases b with
    | nil => simp [order] at h
    | cons y ys =>
      simp only [order] at h
      split at h
      · simp at h
      · split at h
        · simp at h
        · have hxy : x.toNat = y.toNat := by omega
          rw [ih h, UInt8.toNat_inj.1 hxy]

/-- Comparing the other way round swaps the answer. -/
theorem order_swap (a b : Bytes) : order b a = (order a b).swap := by
  induction a generalizing b with
  | nil => cases b <;> rfl
  | cons x xs ih => cases b with
    | nil => rfl
    | cons y ys =>
      simp only [order]
      split
      · have : ¬ x.toNat < y.toNat := by omega
        simp [*]
      · split
        · simp
        · exact ih ys

theorem order_gt_iff {a b : Bytes} : order a b = .gt ↔ order b a = .lt := by
  rw [order_swap a b]
  cases order a b <;> simp

theorem order_trans {a b c : Bytes} (hab : order a b = .lt) (hbc : order b c = .lt) :
    order a c = .lt := by
  induction a generalizing b c with
  | nil => cases b with
    | nil => simp [order] at hab
    | cons => cases c with
      | nil => simp [order] at hbc
      | cons => rfl
  | cons x xs ih => cases b with
    | nil => simp [order] at hab
    | cons y ys => cases c with
      | nil => simp [order] at hbc
      | cons z zs =>
        simp only [order] at hab hbc ⊢
        split at hab
        · split at hbc
          · rw [if_pos (by omega)]
          · split at hbc
            · simp at hbc
            · rw [if_pos (by omega)]
        · split at hab
          · simp at hab
          · split at hbc
            · rw [if_pos (by omega)]
            · split at hbc
              · simp at hbc
              · rw [if_neg (by omega), if_neg (by omega)]
                exact ih hab hbc

/-! ## Numbers -/

/-- How many numbers can be told apart by `width` bytes. -/
def capacity : (width : Nat) → Nat
  | 0 => 1
  | width + 1 => 256 * capacity width

/-- The lowest `width` bytes of a number, lowest byte first. -/
def littleEndian : (width : Nat) → Nat → Bytes
  | 0, _ => []
  | width + 1, n => UInt8.ofNat n :: littleEndian width (n / 256)

/-- The number a byte string stands for, lowest byte first. -/
def ofLittleEndian : Bytes → Nat
  | [] => 0
  | b :: bs => b.toNat + 256 * ofLittleEndian bs

/-- The lowest `width` bytes of a number, highest byte first. -/
def bigEndian (width n : Nat) : Bytes := (littleEndian width n).reverse

/-- The number a byte string stands for, highest byte first. -/
def ofBigEndian (bytes : Bytes) : Nat := ofLittleEndian bytes.reverse

@[simp] theorem length_littleEndian (width n : Nat) : (littleEndian width n).length = width := by
  induction width generalizing n with
  | zero => rfl
  | succ width ih => simp [littleEndian, ih]

@[simp] theorem length_bigEndian (width n : Nat) : (bigEndian width n).length = width := by
  simp [bigEndian]

theorem ofLittleEndian_littleEndian (width n : Nat) :
    ofLittleEndian (littleEndian width n) = n % capacity width := by
  induction width generalizing n with
  | zero => simp [littleEndian, ofLittleEndian, capacity, Nat.mod_one]
  | succ width ih =>
    rw [capacity, Nat.mod_mul]
    simp [littleEndian, ofLittleEndian, ih]

theorem littleEndian_ofLittleEndian (bytes : Bytes) :
    littleEndian bytes.length (ofLittleEndian bytes) = bytes := by
  induction bytes with
  | nil => rfl
  | cons b bs ih =>
    have hb := b.toNat_lt
    simp only [List.length_cons, littleEndian, ofLittleEndian]
    rw [show (b.toNat + 256 * ofLittleEndian bs) / 256 = ofLittleEndian bs by omega, ih]
    congr 1
    apply UInt8.toNat_inj.1
    simp only [UInt8.toNat_ofNat']
    omega

theorem ofLittleEndian_lt (bytes : Bytes) : ofLittleEndian bytes < capacity bytes.length := by
  induction bytes with
  | nil => simp [ofLittleEndian, capacity]
  | cons b bs ih =>
    have hb := b.toNat_lt
    simp only [List.length_cons, ofLittleEndian, capacity]
    omega

theorem ofBigEndian_bigEndian (width n : Nat) :
    ofBigEndian (bigEndian width n) = n % capacity width := by
  simp [ofBigEndian, bigEndian, ofLittleEndian_littleEndian]

theorem bigEndian_ofBigEndian (bytes : Bytes) :
    bigEndian bytes.length (ofBigEndian bytes) = bytes := by
  have h := littleEndian_ofLittleEndian bytes.reverse
  rw [List.length_reverse] at h
  rw [bigEndian, ofBigEndian, h, List.reverse_reverse]

theorem capacity_eight : capacity 8 = UInt64.size := rfl

/-! ## Stored words -/

/-- The stored form of a word: eight bytes, highest first. -/
def ofWord (word : UInt64) : Bytes := bigEndian 8 word.toNat

/-- The word a stored form stands for; `none` unless there are exactly eight bytes. -/
def word? (bytes : Bytes) : Option UInt64 :=
  if bytes.length = 8 then some (UInt64.ofNat (ofBigEndian bytes)) else none

@[simp] theorem word?_ofWord (word : UInt64) : word? (ofWord word) = some word := by
  have hv : ofBigEndian (bigEndian 8 word.toNat) = word.toNat := by
    rw [ofBigEndian_bigEndian, capacity_eight, Nat.mod_eq_of_lt word.toNat_lt]
  simp [word?, ofWord, hv]

/-- Bytes are the stored form of a word exactly if reading them gives that word. -/
theorem word?_eq_some_iff {bytes : Bytes} {word : UInt64} :
    word? bytes = some word ↔ bytes = ofWord word := by
  refine ⟨fun h => ?_, fun h => h ▸ word?_ofWord word⟩
  simp only [word?] at h
  split at h
  · next hlength =>
    have hlt : ofBigEndian bytes < UInt64.size := by
      have := ofLittleEndian_lt bytes.reverse
      rw [List.length_reverse, hlength, capacity_eight] at this
      exact this
    have hback := bigEndian_ofBigEndian bytes
    rw [hlength] at hback
    cases h
    rw [ofWord, UInt64.toNat_ofNat', Nat.mod_eq_of_lt hlt, hback]
  · cases h

/-! ## Stems -/

/-- What follows a stem; `none` if the bytes do not begin with it. -/
def strip? : (stem bytes : Bytes) → Option Bytes
  | [], bytes => some bytes
  | _ :: _, [] => none
  | s :: stem, b :: bytes => if s = b then strip? stem bytes else none

theorem strip?_eq_some_iff {stem bytes rest : Bytes} :
    strip? stem bytes = some rest ↔ bytes = stem ++ rest := by
  induction stem generalizing bytes with
  | nil => simp [strip?]
  | cons s stem ih => cases bytes with
    | nil => simp [strip?]
    | cons b bytes =>
      by_cases h : s = b
      · simp [strip?, h, ih]
      · simp [strip?, h, Ne.symm h]

end Bytes

/-- A type whose values are told apart by their bytes, and listed in the order of those bytes. -/
class ByteOrdered (κ : Type) where
  /-- The bytes of a value. -/
  bytes : κ → Bytes
  /-- Values with the same bytes are the same. -/
  eq_of_bytes_eq : ∀ {a b : κ}, bytes a = bytes b → a = b

instance : ByteOrdered Bytes where
  bytes := id
  eq_of_bytes_eq := id

end SharedSecurity
