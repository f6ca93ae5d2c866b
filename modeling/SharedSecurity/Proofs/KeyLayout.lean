import SharedSecurity.Proofs.Keys

/-!
# The layout of keys

`SharedSecurity.Proofs.Keys` shows that keys tell records apart.  This file adds what listings and
their readers rely on: a key that is read back from bytes is the only one with those bytes, and the
byte order of keys is the order of what they are about.

## What is here

* `Bytes.order_append`, `Bytes.order_ofWord` — strings of one length are compared part by part, so
  the stored form of a word, highest byte first, is in numeric order.
* `Key.bucket?_eq_some_iff` — a bucket key is read back exactly.  The chain may hold separators, or
  bytes that look like the end of a key: only the fixed width of what follows it is used.
* `Key.order_bytes` — within a family keys are ordered by what follows the stem.
* `KeyFamily.named` — the families whose keys are about one name.
* `Key.Layout`, `Key.layout` — **keys never collide, are read back exactly, and are in order.**
-/

set_option autoImplicit false
namespace SharedSecurity

/-! ## The order of numbers -/

namespace Bytes

/-- Of strings that begin with parts of one length, those parts are compared first. -/
theorem order_append {a b : Bytes} (h : a.length = b.length) (c d : Bytes) :
    order (a ++ c) (b ++ d) = (order a b).then (order c d) := by
  induction a generalizing b with
  | nil =>
    cases b with
    | nil => rfl
    | cons y ys => simp at h
  | cons x xs ih =>
    cases b with
    | nil => simp at h
    | cons y ys =>
      simp only [List.cons_append, order]
      split
      · rfl
      · split
        · rfl
        · exact ih (by simpa using h)

/-- A common beginning does not matter to the order. -/
theorem order_append_left (stem a b : Bytes) : order (stem ++ a) (stem ++ b) = order a b := by
  rw [order_append rfl, order_self, Ordering.eq_then]

/-- Single bytes are in the order of their values. -/
theorem order_singleton (x y : UInt8) : order [x] [y] = compare x.toNat y.toNat := by
  rw [order, Nat.compare_eq_ite_lt]
  rfl

/-- Two numbers compare as their high parts do, and if these are the same as the last digits do. -/
theorem compare_eq_then (m n : Nat) :
    compare m n = (compare (m / 256) (n / 256)).then (compare (m % 256) (n % 256)) := by
  rcases Nat.lt_trichotomy (m / 256) (n / 256) with h | h | h
  · rw [Nat.compare_eq_lt.2 h, Nat.compare_eq_lt.2 (by omega)]
    rfl
  · rw [Nat.compare_eq_eq.2 h, Ordering.eq_then]
    simp only [Nat.compare_eq_ite_lt]
    have hlt : m % 256 < n % 256 ↔ m < n := by omega
    have hgt : n % 256 < m % 256 ↔ n < m := by omega
    simp only [hlt, hgt]
  · rw [Nat.compare_eq_gt.2 h, Nat.compare_eq_gt.2 (by omega)]
    rfl

theorem bigEndian_succ (width n : Nat) :
    bigEndian (width + 1) n = bigEndian width (n / 256) ++ [UInt8.ofNat n] := by
  simp [bigEndian, littleEndian]

/-- **Numbers that fit are ordered as their bytes are**, if the highest byte comes first. -/
theorem order_bigEndian {width m n : Nat} (hm : m < capacity width) (hn : n < capacity width) :
    order (bigEndian width m) (bigEndian width n) = compare m n := by
  induction width generalizing m n with
  | zero =>
    simp only [capacity] at hm hn
    obtain rfl : m = n := by omega
    simp [order_self]
  | succ width ih =>
    simp only [capacity] at hm hn
    rw [bigEndian_succ, bigEndian_succ, order_append (by simp), ih (by omega) (by omega),
      order_singleton, compare_eq_then m n]
    simp

theorem order_ofWord (a b : UInt64) : order (ofWord a) (ofWord b) = compare a.toNat b.toNat :=
  order_bigEndian a.toNat_lt b.toNat_lt

end Bytes

/-! ## Reading keys back -/

namespace Key

/-- The chain of a bucket key is what is left before the separator and the version. -/
theorem bucket?_bytes (chain : ChainId) (version : Version) :
    bucket? (bucket chain version).bytes = some (chain, version) := by
  have hstrip : Bytes.strip? KeyFamily.unbondingBucket.stem (bucket chain version).bytes =
      some (chain.bytes ++ separator :: Bytes.ofWord version) :=
    Bytes.strip?_eq_some_iff.2 rfl
  have hlength : (chain.bytes ++ separator :: Bytes.ofWord version).length - bucketTailLength =
      chain.bytes.length := by
    simp [bucketTailLength]
  have hname : Utf8.decode? chain.bytes = some chain.name := Utf8.decode?_encode chain.name
  rw [bucket?, hstrip]
  simp only [Option.bind_eq_bind, Option.bind_some, hlength, List.drop_left, List.take_left,
    Bytes.word?_ofWord, hname, if_true]

/-- **A bucket key is read back exactly**: no other bytes are taken for it. -/
theorem bucket?_eq_some_iff {bytes : Bytes} {chain : ChainId} {version : Version} :
    bucket? bytes = some (chain, version) ↔ bytes = (bucket chain version).bytes := by
  refine ⟨fun h => ?_, fun h => h ▸ bucket?_bytes chain version⟩
  simp only [bucket?, Option.bind_eq_bind, Option.bind_eq_some_iff, Bytes.strip?_eq_some_iff] at h
  obtain ⟨rest, rfl, h⟩ := h
  split at h
  · next mark tail hdrop =>
    split at h
    · next hmark =>
      simp only [Option.bind_eq_some_iff, Bytes.word?_eq_some_iff, Utf8.decode?_eq_some_iff] at h
      obtain ⟨number, rfl, name, hname, h⟩ := h
      cases h
      have hsplit := List.take_append_drop (rest.length - bucketTailLength) rest
      rw [hdrop, hname, hmark] at hsplit
      rw [← hsplit]
      rfl
    · cases h
  · cases h

/-! ## Keys in order -/

/-- **Keys of one family are in the order of what follows the stem.** -/
theorem order_bytes {a b : Key} {f : KeyFamily} (ha : a.family = some f) (hb : b.family = some f) :
    Bytes.order a.bytes b.bytes = Bytes.order a.rest b.rest := by
  rw [bytes_of_family ha, bytes_of_family hb]
  exact Bytes.order_append_left f.stem a.rest b.rest

end Key

/-- The key of a family for a name, if the keys of the family are about one name. -/
def KeyFamily.named : KeyFamily → Option (String → Key)
  | channelOfChain => some fun name => .channelOf ⟨name⟩
  | chainOfChannel => some fun name => .chainOf ⟨name⟩
  | clientOfChain => some fun name => .clientOf ⟨name⟩
  | genesisOfChain => some fun name => .genesisOf ⟨name⟩
  | initHeight => some fun name => .initHeightOf ⟨name⟩
  | channelStatus => some fun name => .statusOf ⟨name⟩
  | slashQueue => some fun name => .slashQueueOf ⟨name⟩
  | unbondingEntry => none
  | unbondingBucket => none
  | versionHeight => none

/-- A key about one name belongs to its family, and has the bytes of the name after the stem. -/
theorem KeyFamily.family_named {f : KeyFamily} {key : String → Key} (h : f.named = some key)
    (name : String) : (key name).family = some f ∧ (key name).rest = Utf8.encode name := by
  cases f <;> cases h <;> exact ⟨rfl, rfl⟩

namespace Key

/-- What the bytes of keys say. -/
structure Layout : Prop where
  /-- Keys of the same kind about the same things are the only ones with the same bytes. -/
  injective : ∀ a b : Key, a.bytes = b.bytes → a = b
  /-- A key begins with the stem of a family exactly if it belongs to the family. -/
  stem_iff : ∀ (f : KeyFamily) (key : Key), f.stem <+: key.bytes ↔ key.family = some f
  /-- Bytes are read as a bucket key exactly if they are the key of that chain and version. -/
  bucket_iff : ∀ (bytes : Bytes) (chain : ChainId) (version : Version),
    bucket? bytes = some (chain, version) ↔ bytes = (bucket chain version).bytes
  /-- A name is read from bytes exactly if they are the stem and the bytes of the name. -/
  rest_iff : ∀ (f : KeyFamily) (bytes : Bytes) (name : String),
    f.name? bytes = some name ↔ bytes = f.stem ++ Utf8.encode name
  /-- Bytes are read as a key about a name exactly if they are the key of that name. -/
  name_iff : ∀ (f : KeyFamily) (key : String → Key), f.named = some key →
    ∀ (bytes : Bytes) (name : String), f.name? bytes = some name ↔ bytes = (key name).bytes
  /-- The keys of entries are in the order of the entries' numbers. -/
  entry_order : ∀ a b : EntryId,
    Bytes.order (entry a).bytes (entry b).bytes = compare a.toNat b.toNat
  /-- The keys of heights are in the order of the versions. -/
  height_order : ∀ a b : Version,
    Bytes.order (heightOf a).bytes (heightOf b).bytes = compare a.toNat b.toNat
  /-- The keys about a name are in the order of the bytes of the names. -/
  name_order : ∀ (f : KeyFamily) (key : String → Key), f.named = some key → ∀ a b : String,
    Bytes.order (key a).bytes (key b).bytes = Bytes.order (Utf8.encode a) (Utf8.encode b)

/-- **Keys never collide, are read back exactly, and are in order**, for all names, be they empty,
with separators or like other keys, and for all numbers. -/
theorem layout : Layout where
  injective _ _ := bytes_injective
  stem_iff f key := by
    rw [← List.isPrefixOf_iff_prefix, stem_isPrefixOf_bytes, beq_iff_eq]
  bucket_iff _ _ _ := bucket?_eq_some_iff
  rest_iff _ _ _ := KeyFamily.name?_eq_some_iff
  name_iff f key hnamed bytes name := by
    obtain ⟨hfamily, hrest⟩ := KeyFamily.family_named hnamed name
    rw [KeyFamily.name?_eq_some_iff, bytes_of_family hfamily, hrest]
  entry_order a b := (order_bytes rfl rfl).trans (Bytes.order_ofWord a b)
  height_order a b := (order_bytes rfl rfl).trans (Bytes.order_ofWord a b)
  name_order f key hnamed a b := by
    obtain ⟨hfamily, hrest⟩ := KeyFamily.family_named hnamed a
    obtain ⟨hfamily', hrest'⟩ := KeyFamily.family_named hnamed b
    rw [order_bytes hfamily hfamily', hrest, hrest']

end Key
end SharedSecurity
