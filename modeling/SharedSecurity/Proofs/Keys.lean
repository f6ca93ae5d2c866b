import SharedSecurity.Key

/-!
# Keys tell records apart

All records share one store, so everything rests on their keys.  No stem of a family is the
beginning of another and neither single key begins with a stem, which is checked once for all pairs;
what follows a stem is read back from its fixed width or is the whole rest.

* `Key.family`, `Key.rest` — the family of a key, and its bytes after the stem.
* `Key.stem_isPrefixOf_bytes` — a key begins with the stem of a family exactly if it belongs to it.
* `Key.bytes_injective` — **keys with the same bytes are the same**, whatever names they hold.
-/

set_option autoImplicit false
namespace SharedSecurity

theorem Bytes.ofWord_injective {a b : UInt64} (h : Bytes.ofWord a = Bytes.ofWord b) : a = b :=
  Option.some.inj (by rw [← Bytes.word?_ofWord a, h, Bytes.word?_ofWord])

@[simp] theorem Bytes.length_ofWord (word : UInt64) : (Bytes.ofWord word).length = 8 := by
  simp [Bytes.ofWord]

/-! ## Stems -/

namespace KeyFamily

/-- No stem is the beginning of another. -/
theorem stem_isPrefixOf_stem (f g : KeyFamily) : f.stem.isPrefixOf g.stem = (f == g) := by
  cases f <;> cases g <;> decide +kernel

theorem not_stem_isPrefixOf_port (f : KeyFamily) : f.stem.isPrefixOf Key.port.bytes = false := by
  cases f <;> decide +kernel

theorem not_stem_isPrefixOf_version (f : KeyFamily) :
    f.stem.isPrefixOf Key.version.bytes = false := by
  cases f <;> decide +kernel

/-- A key of one family begins with the stem of no other. -/
theorem stem_isPrefixOf_key (f g : KeyFamily) (rest : Bytes) :
    f.stem.isPrefixOf (g.key rest) = (f == g) := by
  rw [Bool.eq_iff_iff, List.isPrefixOf_iff_prefix, ← stem_isPrefixOf_stem,
    List.isPrefixOf_iff_prefix]
  constructor
  · intro h
    rcases List.prefix_or_prefix_of_prefix h (List.prefix_append g.stem rest) with hfg | hgf
    · exact hfg
    · rw [← List.isPrefixOf_iff_prefix, stem_isPrefixOf_stem, beq_iff_eq] at hgf
      exact hgf ▸ List.prefix_rfl
  · intro h
    exact h.trans (List.prefix_append _ _)

end KeyFamily

/-! ## Keys -/

namespace Key

/-- The family a key belongs to; the port and the version belong to none. -/
def family : Key → Option KeyFamily
  | port => none
  | version => none
  | channelOf _ => some .channelOfChain
  | chainOf _ => some .chainOfChannel
  | clientOf _ => some .clientOfChain
  | genesisOf _ => some .genesisOfChain
  | initHeightOf _ => some .initHeight
  | statusOf _ => some .channelStatus
  | entry _ => some .unbondingEntry
  | bucket _ _ => some .unbondingBucket
  | heightOf _ => some .versionHeight
  | slashQueueOf _ => some .slashQueue

/-- What a key of a family is about, as bytes. -/
def rest : Key → Bytes
  | port => []
  | version => []
  | channelOf chain => chain.bytes
  | chainOf channel => channel.bytes
  | clientOf chain => chain.bytes
  | genesisOf chain => chain.bytes
  | initHeightOf chain => chain.bytes
  | statusOf channel => channel.bytes
  | entry id => Bytes.ofWord id
  | bucket chain number => chain.bytes ++ separator :: Bytes.ofWord number
  | heightOf number => Bytes.ofWord number
  | slashQueueOf chain => chain.bytes

/-- A key of a family is the stem of the family and what the key is about. -/
theorem bytes_of_family {key : Key} {f : KeyFamily} (h : key.family = some f) :
    key.bytes = f.key key.rest := by
  cases key <;> cases h <;> rfl

/-- **A key begins with a stem exactly if it belongs to the family.** -/
theorem stem_isPrefixOf_bytes (f : KeyFamily) (key : Key) :
    f.stem.isPrefixOf key.bytes = (key.family == some f) := by
  cases hfamily : key.family with
  | some g =>
    rw [bytes_of_family hfamily, KeyFamily.stem_isPrefixOf_key, Bool.eq_iff_iff, beq_iff_eq,
      beq_iff_eq, Option.some_inj, eq_comm]
  | none =>
    cases key <;> cases hfamily
    · exact KeyFamily.not_stem_isPrefixOf_port f
    · exact KeyFamily.not_stem_isPrefixOf_version f

theorem family_eq_of_bytes_eq {a b : Key} (h : a.bytes = b.bytes) : a.family = b.family := by
  have hsame (f : KeyFamily) : (a.family == some f) = (b.family == some f) := by
    rw [← stem_isPrefixOf_bytes, ← stem_isPrefixOf_bytes, h]
  cases hfamily : a.family with
  | some f =>
    have := hsame f
    rw [hfamily, beq_self_eq_true] at this
    exact (beq_iff_eq.1 this.symm).symm
  | none =>
    cases hother : b.family with
    | none => rfl
    | some f =>
      have := hsame f
      rw [hfamily, hother, beq_self_eq_true] at this
      cases this

theorem rest_eq_of_bytes_eq {a b : Key} {f : KeyFamily} (ha : a.family = some f)
    (hb : b.family = some f) (h : a.bytes = b.bytes) : a.rest = b.rest := by
  rw [bytes_of_family ha, bytes_of_family hb] at h
  exact List.append_cancel_left h

/-- A bucket's chain and version are read off the two ends of what follows the stem. -/
theorem bucket_rest_injective {c d : ChainId} {v w : Version}
    (h : (bucket c v).rest = (bucket d w).rest) : c = d ∧ v = w := by
  obtain ⟨hchain, htail⟩ := List.append_inj' h (by simp)
  exact ⟨ChainId.eq_of_bytes_eq hchain, Bytes.ofWord_injective (List.cons.inj htail).2⟩

/-- **Keys with the same bytes are the same.** -/
theorem bytes_injective {a b : Key} (h : a.bytes = b.bytes) : a = b := by
  have hfamily := family_eq_of_bytes_eq h
  cases a <;> cases b <;> cases hfamily
  case port.port => rfl
  case version.version => rfl
  case port.version => exact absurd h (by decide +kernel)
  case version.port => exact absurd h (by decide +kernel)
  case channelOf.channelOf =>
    exact congrArg channelOf (ChainId.eq_of_bytes_eq (rest_eq_of_bytes_eq rfl rfl h))
  case chainOf.chainOf =>
    exact congrArg chainOf (ChannelId.eq_of_bytes_eq (rest_eq_of_bytes_eq rfl rfl h))
  case clientOf.clientOf =>
    exact congrArg clientOf (ChainId.eq_of_bytes_eq (rest_eq_of_bytes_eq rfl rfl h))
  case genesisOf.genesisOf =>
    exact congrArg genesisOf (ChainId.eq_of_bytes_eq (rest_eq_of_bytes_eq rfl rfl h))
  case initHeightOf.initHeightOf =>
    exact congrArg initHeightOf (ChainId.eq_of_bytes_eq (rest_eq_of_bytes_eq rfl rfl h))
  case statusOf.statusOf =>
    exact congrArg statusOf (ChannelId.eq_of_bytes_eq (rest_eq_of_bytes_eq rfl rfl h))
  case entry.entry =>
    exact congrArg entry (Bytes.ofWord_injective (rest_eq_of_bytes_eq rfl rfl h))
  case bucket.bucket =>
    obtain ⟨rfl, rfl⟩ := bucket_rest_injective (rest_eq_of_bytes_eq rfl rfl h)
    rfl
  case heightOf.heightOf =>
    exact congrArg heightOf (Bytes.ofWord_injective (rest_eq_of_bytes_eq rfl rfl h))
  case slashQueueOf.slashQueueOf =>
    exact congrArg slashQueueOf (ChainId.eq_of_bytes_eq (rest_eq_of_bytes_eq rfl rfl h))

@[simp] theorem bytes_inj {a b : Key} : a.bytes = b.bytes ↔ a = b :=
  ⟨bytes_injective, fun h => h ▸ rfl⟩

end Key
end SharedSecurity
