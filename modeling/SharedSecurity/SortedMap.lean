import SharedSecurity.Bytes

/-!
# Finite maps listed in byte order

`SortedMap κ ν` holds finitely many values under distinct keys, always listed in the byte order of
the keys.  The ordering is part of the type.

* `SortedMap.get?`, `SortedMap.insert`, `SortedMap.erase` — look-up and change at one key, with one
  equation for each pair of them.
* `SortedMap.eq_of_get?_eq` — maps that answer every look-up alike are the same.
* `SortedMap.ofList` — the map of a list of pairs, a later pair replacing an earlier one.
* `SortedMap.under` — the entries of a map of byte strings whose key begins with a given stem,
  found as a range: skip what comes before the stem, then stop at the first key without it.
-/

set_option autoImplicit false
namespace SharedSecurity

/-- The first entry's key comes strictly before the second's. -/
def KeyBefore {κ ν : Type} [ByteOrdered κ] (a b : κ × ν) : Prop :=
  Bytes.order (ByteOrdered.bytes a.1) (ByteOrdered.bytes b.1) = .lt

/-- A finite map whose entries are listed in strictly ascending byte order of their keys. -/
structure SortedMap (κ ν : Type) [ByteOrdered κ] where
  /-- The entries, in key order. -/
  entries : List (κ × ν)
  /-- Keys ascend strictly. -/
  sorted : entries.Pairwise KeyBefore

namespace SortedMap

variable {κ ν : Type} [ByteOrdered κ]

theorem eq_of_entries_eq {m n : SortedMap κ ν} (h : m.entries = n.entries) : m = n := by
  cases m; cases n; cases h; rfl

instance [DecidableEq κ] [DecidableEq ν] : DecidableEq (SortedMap κ ν) := fun m n =>
  if h : m.entries = n.entries then isTrue (eq_of_entries_eq h)
  else isFalse fun hmn => h (congrArg entries hmn)

/-- The map without entries. -/
def empty : SortedMap κ ν := ⟨[], .nil⟩

instance : Inhabited (SortedMap κ ν) := ⟨empty⟩

/-- The number of entries. -/
def size (m : SortedMap κ ν) : Nat := m.entries.length

/-- Whether there is no entry. -/
def isEmpty (m : SortedMap κ ν) : Bool := m.entries.isEmpty

/-- The keys, ascending. -/
def keys (m : SortedMap κ ν) : List κ := m.entries.map Prod.fst

/-! ## Look-up -/

/-- The value listed under a key. -/
def find? (key : κ) : List (κ × ν) → Option ν
  | [] => none
  | (k, v) :: rest =>
    match Bytes.order (ByteOrdered.bytes key) (ByteOrdered.bytes k) with
    | .eq => some v
    | .lt | .gt => find? key rest

/-- The value held under a key. -/
def get? (m : SortedMap κ ν) (key : κ) : Option ν := find? key m.entries

/-! ## Change at one key -/

/-- Puts a value at the place of its key. -/
def insertSorted (key : κ) (value : ν) : List (κ × ν) → List (κ × ν)
  | [] => [(key, value)]
  | (k, v) :: rest =>
    match Bytes.order (ByteOrdered.bytes key) (ByteOrdered.bytes k) with
    | .lt => (key, value) :: (k, v) :: rest
    | .eq => (key, value) :: rest
    | .gt => (k, v) :: insertSorted key value rest

/-- Drops the entry of a key. -/
def eraseSorted (key : κ) : List (κ × ν) → List (κ × ν)
  | [] => []
  | (k, v) :: rest =>
    match Bytes.order (ByteOrdered.bytes key) (ByteOrdered.bytes k) with
    | .eq => rest
    | .lt | .gt => (k, v) :: eraseSorted key rest

theorem mem_insertSorted {key : κ} {value : ν} {es : List (κ × ν)} {e : κ × ν}
    (h : e ∈ insertSorted key value es) : e = (key, value) ∨ e ∈ es := by
  induction es with
  | nil => simpa [insertSorted] using h
  | cons x xs ih =>
    simp only [insertSorted] at h
    split at h
    · simpa using h
    · simp only [List.mem_cons] at h ⊢
      rcases h with h | h
      · exact .inl h
      · exact .inr (.inr h)
    · simp only [List.mem_cons] at h ⊢
      rcases h with h | h
      · exact .inr (.inl h)
      · rcases ih h with h | h
        · exact .inl h
        · exact .inr (.inr h)

theorem sorted_insertSorted {es : List (κ × ν)} (h : es.Pairwise KeyBefore) (key : κ)
    (value : ν) : (insertSorted key value es).Pairwise KeyBefore := by
  induction es with
  | nil => simp [insertSorted]
  | cons x xs ih =>
    have hx := List.pairwise_cons.1 h
    simp only [insertSorted]
    split
    · next hlt =>
      refine List.pairwise_cons.2 ⟨fun y hy => ?_, h⟩
      rcases List.mem_cons.1 hy with rfl | hy
      · exact hlt
      · exact Bytes.order_trans hlt (hx.1 y hy)
    · next heq =>
      refine List.pairwise_cons.2 ⟨fun y hy => ?_, hx.2⟩
      have := hx.1 y hy
      simpa only [KeyBefore, ← Bytes.eq_of_order_eq heq] using this
    · next hgt =>
      refine List.pairwise_cons.2 ⟨fun y hy => ?_, ih hx.2⟩
      rcases mem_insertSorted hy with rfl | hy
      · exact Bytes.order_gt_iff.1 hgt
      · exact hx.1 y hy

theorem eraseSorted_sublist (key : κ) (es : List (κ × ν)) :
    (eraseSorted key es).Sublist es := by
  induction es with
  | nil => exact .slnil
  | cons x xs ih =>
    simp only [eraseSorted]
    split
    · exact List.sublist_cons_self _ _
    · exact ih.cons_cons _
    · exact ih.cons_cons _

/-- Holds a value under a key, in place of what was there. -/
def insert (m : SortedMap κ ν) (key : κ) (value : ν) : SortedMap κ ν :=
  ⟨insertSorted key value m.entries, sorted_insertSorted m.sorted key value⟩

/-- Holds nothing under a key. -/
def erase (m : SortedMap κ ν) (key : κ) : SortedMap κ ν :=
  ⟨eraseSorted key m.entries, m.sorted.sublist (eraseSorted_sublist key m.entries)⟩

/-- The map of a list of pairs; of two pairs with one key the later counts. -/
def ofList (pairs : List (κ × ν)) : SortedMap κ ν :=
  pairs.foldl (fun m pair => m.insert pair.1 pair.2) empty

/-! ## What a look-up finds after a change -/

/-- A key that comes before every listed key is not found. -/
theorem find?_eq_none {key : κ} {es : List (κ × ν)}
    (h : ∀ e ∈ es, Bytes.order (ByteOrdered.bytes key) (ByteOrdered.bytes e.1) = .lt) :
    find? key es = none := by
  induction es with
  | nil => rfl
  | cons x xs ih =>
    simp only [find?, h x (List.mem_cons_self ..)]
    exact ih fun e he => h e (List.mem_cons_of_mem _ he)

theorem find?_insertSorted_self (key : κ) (value : ν) (es : List (κ × ν)) :
    find? key (insertSorted key value es) = some value := by
  induction es with
  | nil => simp [insertSorted, find?, Bytes.order_self]
  | cons x xs ih =>
    simp only [insertSorted]
    split
    · simp [find?, Bytes.order_self]
    · simp [find?, Bytes.order_self]
    · next hgt => simp only [find?, hgt, ih]

theorem find?_insertSorted_of_ne {key other : κ} (h : other ≠ key) (value : ν)
    (es : List (κ × ν)) : find? other (insertSorted key value es) = find? other es := by
  have hne : Bytes.order (ByteOrdered.bytes other) (ByteOrdered.bytes key) ≠ .eq :=
    fun heq => h (ByteOrdered.eq_of_bytes_eq (Bytes.eq_of_order_eq heq))
  have hskip (rest : List (κ × ν)) : find? other ((key, value) :: rest) = find? other rest := by
    simp only [find?]
    split
    · next heq => exact absurd heq hne
    · rfl
    · rfl
  induction es with
  | nil => exact hskip []
  | cons x xs ih =>
    simp only [insertSorted]
    split
    · exact hskip (x :: xs)
    · next heq =>
      have hx : key = x.1 := ByteOrdered.eq_of_bytes_eq (Bytes.eq_of_order_eq heq)
      rw [hskip xs]
      simp only [find?, ← hx]
      split
      · next heq => exact absurd heq hne
      · rfl
      · rfl
    · simp only [find?, ih]

theorem find?_eraseSorted_self {key : κ} {es : List (κ × ν)} (h : es.Pairwise KeyBefore) :
    find? key (eraseSorted key es) = none := by
  induction es with
  | nil => rfl
  | cons x xs ih =>
    have hx := List.pairwise_cons.1 h
    simp only [eraseSorted]
    split
    · next heq =>
      refine find?_eq_none fun e he => ?_
      rw [Bytes.eq_of_order_eq heq]
      exact hx.1 e he
    · next hlt => simp only [find?, hlt, ih hx.2]
    · next hgt => simp only [find?, hgt, ih hx.2]

theorem find?_eraseSorted_of_ne {key other : κ} (h : other ≠ key) (es : List (κ × ν)) :
    find? other (eraseSorted key es) = find? other es := by
  induction es with
  | nil => rfl
  | cons x xs ih =>
    simp only [eraseSorted]
    split
    · next heq =>
      have hx : key = x.1 := ByteOrdered.eq_of_bytes_eq (Bytes.eq_of_order_eq heq)
      simp only [find?]
      split
      · next hother =>
        refine absurd ?_ h
        rw [hx]
        exact ByteOrdered.eq_of_bytes_eq (Bytes.eq_of_order_eq hother)
      · rfl
      · rfl
    · simp only [find?, ih]
    · simp only [find?, ih]

@[simp] theorem get?_empty (key : κ) : (empty : SortedMap κ ν).get? key = none := rfl

@[simp] theorem get?_insert_self (m : SortedMap κ ν) (key : κ) (value : ν) :
    (m.insert key value).get? key = some value :=
  find?_insertSorted_self key value m.entries

theorem get?_insert_of_ne (m : SortedMap κ ν) {key other : κ} (h : other ≠ key) (value : ν) :
    (m.insert key value).get? other = m.get? other :=
  find?_insertSorted_of_ne h value m.entries

@[simp] theorem get?_erase_self (m : SortedMap κ ν) (key : κ) : (m.erase key).get? key = none :=
  find?_eraseSorted_self m.sorted

theorem get?_erase_of_ne (m : SortedMap κ ν) {key other : κ} (h : other ≠ key) :
    (m.erase key).get? other = m.get? other :=
  find?_eraseSorted_of_ne h m.entries

/-- Holding a value changes exactly what is found under its key. -/
theorem get?_insert [DecidableEq κ] (m : SortedMap κ ν) (key other : κ) (value : ν) :
    (m.insert key value).get? other = if other = key then some value else m.get? other := by
  by_cases h : other = key
  · rw [if_pos h, h, get?_insert_self]
  · rw [if_neg h, get?_insert_of_ne m h]

/-- Dropping an entry changes exactly what is found under its key. -/
theorem get?_erase [DecidableEq κ] (m : SortedMap κ ν) (key other : κ) :
    (m.erase key).get? other = if other = key then none else m.get? other := by
  by_cases h : other = key
  · rw [if_pos h, h, get?_erase_self]
  · rw [if_neg h, get?_erase_of_ne m h]

/-! ## Maps that answer alike -/

theorem find?_cons_self (key : κ) (value : ν) (es : List (κ × ν)) :
    find? key ((key, value) :: es) = some value := by
  simp [find?, Bytes.order_self]

/-- A listed pair is found under its key. -/
theorem find?_of_mem {es : List (κ × ν)} (h : es.Pairwise KeyBefore) {e : κ × ν} (he : e ∈ es) :
    find? e.1 es = some e.2 := by
  induction es with
  | nil => cases he
  | cons x xs ih =>
    have hx := List.pairwise_cons.1 h
    rcases List.mem_cons.1 he with rfl | he
    · exact find?_cons_self ..
    · simp only [find?, Bytes.order_gt_iff.2 (hx.1 e he)]
      exact ih hx.2 he

theorem mem_of_find? {es : List (κ × ν)} {key : κ} {value : ν} (h : find? key es = some value) :
    (key, value) ∈ es := by
  induction es with
  | nil => cases h
  | cons x xs ih =>
    simp only [find?] at h
    split at h
    · next heq =>
      have hx : key = x.1 := ByteOrdered.eq_of_bytes_eq (Bytes.eq_of_order_eq heq)
      cases h
      exact List.mem_cons.2 (.inl (by rw [hx]))
    · exact List.mem_cons_of_mem _ (ih h)
    · exact List.mem_cons_of_mem _ (ih h)

/-- A key holds a value exactly if the pair is listed. -/
theorem get?_eq_some_iff {m : SortedMap κ ν} {key : κ} {value : ν} :
    m.get? key = some value ↔ (key, value) ∈ m.entries :=
  ⟨mem_of_find?, fun h => find?_of_mem m.sorted h⟩

theorem entries_eq_of_mem_iff {es fs : List (κ × ν)} (he : es.Pairwise KeyBefore)
    (hf : fs.Pairwise KeyBefore) (h : ∀ e, e ∈ es ↔ e ∈ fs) : es = fs := by
  induction es generalizing fs with
  | nil => cases fs with
    | nil => rfl
    | cons y ys => exact absurd ((h y).2 (List.mem_cons_self ..)) List.not_mem_nil
  | cons x xs ih => cases fs with
    | nil => exact absurd ((h x).1 (List.mem_cons_self ..)) List.not_mem_nil
    | cons y ys =>
      have hx := List.pairwise_cons.1 he
      have hy := List.pairwise_cons.1 hf
      have irrefl {a : κ × ν} (ha : KeyBefore a a) : False := by
        simp [KeyBefore, Bytes.order_self] at ha
      have hxy : x = y := by
        rcases List.mem_cons.1 ((h x).1 (List.mem_cons_self ..)) with hxy | hxy
        · exact hxy
        · rcases List.mem_cons.1 ((h y).2 (List.mem_cons_self ..)) with hyx | hyx
          · exact hyx.symm
          · exact absurd (Bytes.order_trans (hx.1 y hyx) (hy.1 x hxy)) irrefl
      subst hxy
      refine congrArg (x :: ·) (ih hx.2 hy.2 fun e => ⟨fun hmem => ?_, fun hmem => ?_⟩)
      · rcases List.mem_cons.1 ((h e).1 (List.mem_cons_of_mem _ hmem)) with rfl | hmem'
        · exact (irrefl (hx.1 _ hmem)).elim
        · exact hmem'
      · rcases List.mem_cons.1 ((h e).2 (List.mem_cons_of_mem _ hmem)) with rfl | hmem'
        · exact (irrefl (hy.1 _ hmem)).elim
        · exact hmem'

/-- **Maps that answer every look-up alike are the same.** -/
theorem eq_of_get?_eq {m n : SortedMap κ ν} (h : ∀ key, m.get? key = n.get? key) : m = n := by
  refine eq_of_entries_eq (entries_eq_of_mem_iff m.sorted n.sorted fun e => ?_)
  rw [← get?_eq_some_iff, ← get?_eq_some_iff, h]

/-! ## Ranges -/

/-- The entries whose key begins with `stem`, in key order. -/
def under (m : SortedMap Bytes ν) (stem : Bytes) : List (Bytes × ν) :=
  (m.entries.dropWhile fun entry => Bytes.order entry.1 stem == .lt).takeWhile
    fun entry => stem.isPrefixOf entry.1

end SortedMap
end SharedSecurity
