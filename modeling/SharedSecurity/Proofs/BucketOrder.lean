import SharedSecurity.Proofs.KeyLayout
import SharedSecurity.Proofs.Mirror

/-!
# Going through the buckets

The buckets are listed in the byte order of their keys, and in a key the chain is followed by a
separator and the version.  So the versions of one chain come in order, but the order of two chains
is the order of their ids only as long as the separator is not compared with a byte of an id.  It is
if one id extends the other: then the two come in the order of their ids exactly if the longer one
goes on with a byte after the separator.

* `Bytes.order_delimited` — when a delimiter does not matter to the order of what it follows.
* `Store.buckets` — the listing, as a function of the store.
* `Unbonding.run_visitBuckets` — what any visitor is shown.
* `Unbonding.traversed_after` — **every bucket that holds something is shown once, in key order**,
  after every run.
-/

set_option autoImplicit false
namespace SharedSecurity

open Transition

/-! ## The order of composite keys -/

namespace Bytes

/-- **A delimiter does not matter to the order of two strings** neither of which extends the other
by a byte that does not come after the delimiter. -/
theorem order_delimited {mark : UInt8} {a b : Bytes} (hne : a ≠ b)
    (h : ∀ next rest, a = b ++ next :: rest ∨ b = a ++ next :: rest → mark < next) (c d : Bytes) :
    order (a ++ mark :: c) (b ++ mark :: d) = order a b := by
  induction a generalizing b with
  | nil =>
    cases b with
    | nil => exact absurd rfl hne
    | cons y t =>
      have hlt : mark.toNat < y.toNat := UInt8.lt_iff_toNat_lt.1 (h y t (.inr rfl))
      simp [order, hlt]
  | cons x s ih =>
    cases b with
    | nil =>
      have hlt : mark.toNat < x.toNat := UInt8.lt_iff_toNat_lt.1 (h x s (.inl rfl))
      simp [order, hlt, Nat.lt_asymm hlt]
    | cons y t =>
      by_cases hxy : x = y
      · subst hxy
        have hne' : s ≠ t := fun heq => hne (congrArg (x :: ·) heq)
        have hrest := ih hne' fun next rest hext =>
          h next rest (hext.imp (congrArg (x :: ·)) (congrArg (x :: ·)))
        simpa [order] using hrest
      · -- the strings part here, before either delimiter
        have hdiffer : x.toNat ≠ y.toNat := fun heq => hxy (UInt8.toNat_inj.1 heq)
        rcases Nat.lt_or_gt_of_ne hdiffer with hlt | hgt
        · simp [order, hlt]
        · simp [order, hgt, Nat.lt_asymm hgt]

end Bytes

/-- If one of two chain ids extends the other, it goes on with a byte after the separator. -/
def ChainId.SetApart (a b : ChainId) : Prop :=
  ∀ next rest, a.bytes = b.bytes ++ next :: rest ∨ b.bytes = a.bytes ++ next :: rest →
    Key.separator < next

namespace Key

/-- The keys of one chain's buckets are in the order of the versions. -/
theorem order_bucket_same (chain : ChainId) (a b : Version) :
    Bytes.order (bucket chain a).bytes (bucket chain b).bytes = compare a.toNat b.toNat := by
  have happend (version : Version) : (bucket chain version).rest =
      (chain.bytes ++ [separator]) ++ Bytes.ofWord version := by
    rw [List.append_assoc]
    rfl
  rw [order_bytes rfl rfl, happend, happend, Bytes.order_append_left, Bytes.order_ofWord]

/-- The keys of buckets of chains that are set apart are in the order of the chains. -/
theorem order_bucket_of_setApart {a b : ChainId} (hne : a ≠ b) (h : a.SetApart b)
    (first second : Version) :
    Bytes.order (bucket a first).bytes (bucket b second).bytes = Bytes.order a.bytes b.bytes := by
  have hbytes : a.bytes ≠ b.bytes := fun heq => hne (ByteOrdered.eq_of_bytes_eq heq)
  exact (order_bytes rfl rfl).trans (Bytes.order_delimited hbytes h _ _)

end Key

/-! ## The listing -/

namespace Unbonding

/-- The chain, version and ids of a bucket. -/
abbrev Bucket := ChainId × Version × List EntryId

/-- The key under which a bucket is held. -/
def Bucket.key (bucket : Bucket) : Key := .bucket bucket.1 bucket.2.1

/-- The bucket in a listed entry. -/
def listedBucket? (entry : Bytes × Bytes) : Option Bucket :=
  match decodeBucket entry with
  | .ok found => found
  | .error _ => none

section

variable (chain : ChainId) (version : Version) {ids : List EntryId}

theorem decodeBucket_encode (h : (Key.bucket chain version).Holds ids) :
    decodeBucket ((Key.bucket chain version).bytes, (Key.bucket chain version).encode ids) =
      .ok (some (chain, version, ids)) := by
  have hids : Codec.entryIds.read bucketKind ((Key.bucket chain version).encode ids) = .ok ids :=
    Codec.lawful_entryIds.read_encode bucketKind ⟨h, fun _ _ => trivial⟩
  simp only [decodeBucket, Key.bucket?_bytes, hids]
  rfl

theorem listedBucket?_encode (h : (Key.bucket chain version).Holds ids) :
    listedBucket? ((Key.bucket chain version).bytes, (Key.bucket chain version).encode ids) =
      some (chain, version, ids) := by
  rw [listedBucket?, decodeBucket_encode chain version h]

end
end Unbonding

namespace Store

variable {store : Store}

/-- The buckets that are held, in the order of their keys. -/
def buckets (store : Store) : List Unbonding.Bucket :=
  (store.under KeyFamily.unbondingBucket.stem).filterMap Unbonding.listedBucket?

/-- A listed entry is the bucket of a chain and a version. -/
theorem WellFormed.entry_of_bucket (h : store.WellFormed) {entry : Bytes × Bytes}
    (hentry : entry ∈ store.under KeyFamily.unbondingBucket.stem) :
    ∃ chain version ids, (Key.bucket chain version).Holds ids ∧
      store.bucket? chain version = some ids ∧
      entry = ((Key.bucket chain version).bytes, (Key.bucket chain version).encode ids) := by
  obtain ⟨key, hfamily, ids, hholds, rfl⟩ := h.listed hentry
  have hget := (SortedMap.mem_under_iff.1 hentry).1
  cases key <;> cases hfamily
  refine ⟨_, _, ids, hholds, ?_, rfl⟩
  rw [bucket?, record?, hget, Option.bind_some, Key.decode?_encode _ hholds]

/-- **The listed buckets are those that are held.** -/
theorem mem_buckets (h : store.WellFormed) {chain : ChainId} {version : Version}
    {ids : List EntryId} :
    (chain, version, ids) ∈ store.buckets ↔ store.bucket? chain version = some ids := by
  rw [buckets, List.mem_filterMap]
  constructor
  · rintro ⟨entry, hentry, hbucket⟩
    obtain ⟨chain, version, ids, hholds, hrecord, rfl⟩ := h.entry_of_bucket hentry
    rw [Unbonding.listedBucket?_encode chain version hholds] at hbucket
    cases hbucket
    exact hrecord
  · intro hrecord
    have hsound := h.sound (.bucket chain version)
    have hget := hsound.get?_eq
    rw [show store.record? (.bucket chain version) = some ids from hrecord] at hget
    refine ⟨_, SortedMap.mem_under_iff.2 ⟨hget, ?_⟩,
      Unbonding.listedBucket?_encode chain version (hsound.holds hrecord)⟩
    rw [Key.stem_isPrefixOf_bytes]
    rfl

/-- The buckets are listed in key order. -/
theorem WellFormed.sorted_buckets (h : store.WellFormed) :
    store.buckets.Pairwise fun a b => Bytes.order a.key.bytes b.key.bytes = .lt := by
  have hkey {entry : Bytes × Bytes} (hentry : entry ∈ store.under KeyFamily.unbondingBucket.stem)
      {bucket : Unbonding.Bucket} (hbucket : Unbonding.listedBucket? entry = some bucket) :
      entry.1 = bucket.key.bytes := by
    obtain ⟨chain, version, ids, hholds, -, rfl⟩ := h.entry_of_bucket hentry
    rw [Unbonding.listedBucket?_encode chain version hholds] at hbucket
    cases hbucket
    rfl
  rw [buckets, List.pairwise_filterMap]
  refine (SortedMap.sorted_under store _).imp_of_mem
    fun {entry other} hentry hother hbefore bucket hbucket later hlater => ?_
  have horder : Bytes.order entry.1 other.1 = .lt := hbefore
  rwa [hkey hentry hbucket, hkey hother hlater] at horder

end Store

/-! ## Visitors -/

namespace Stored

variable {α β : Type}

/-- What a visitor has seen in the end to whom items are shown until it stops. -/
def showTo (see : α → β → ForInStep β) : List α → β → β
  | [], seen => seen
  | item :: rest, seen =>
    match see item seen with
    | .done seen => seen
    | .yield seen => showTo see rest seen

/-- Entries that can all be decoded are shown to a visitor as the items in them. -/
theorem visitList_eq_ok {decode : Bytes × Bytes → Except ProviderError (Option α)}
    {found : Bytes × Bytes → Option α} (see : α → β → ForInStep β) {entries : List (Bytes × Bytes)}
    (h : ∀ entry ∈ entries, decode entry = .ok (found entry)) (start : β) :
    visitList decode see entries start = .ok (showTo see (entries.filterMap found) start) := by
  induction entries generalizing start with
  | nil => rfl
  | cons entry rest ih =>
    obtain ⟨hdecode, hrest⟩ := List.forall_mem_cons.1 h
    rw [visitList, hdecode]
    cases hfound : found entry with
    | none =>
      rw [List.filterMap_cons_none hfound]
      exact ih hrest start
    | some item =>
      rw [List.filterMap_cons_some hfound, showTo]
      simp only [Bind.bind, Except.bind]
      cases see item start with
      | done seen => rfl
      | yield seen => exact ih hrest seen

/-- A visitor that stops after a number of items sees as many, or all there are. -/
theorem showTo_noteUpTo {limit : Nat} (items : List α) {seen : List α} (h : seen.length < limit) :
    showTo (noteUpTo limit) items seen = seen ++ items.take (limit - seen.length) := by
  induction items generalizing seen with
  | nil => simp [showTo]
  | cons item rest ih =>
    have hlength : (seen ++ [item]).length = seen.length + 1 := List.length_append
    have hstep : limit - seen.length = limit - (seen ++ [item]).length + 1 := by omega
    rw [hstep, List.take_succ_cons, List.append_cons, showTo]
    by_cases hlast : (seen ++ [item]).length = limit
    · have hstops : noteUpTo limit item seen = .done (seen ++ [item]) := if_pos hlast
      simp [hstops, hlast]
    · have hgoes : noteUpTo limit item seen = .yield (seen ++ [item]) := if_neg hlast
      simp only [hgoes]
      exact ih (by omega)

/-- A visitor that never stops sees everything. -/
theorem showTo_noteAll (items seen : List α) : showTo noteAll items seen = seen ++ items := by
  induction items generalizing seen with
  | nil => simp [showTo]
  | cons item rest ih =>
    have hgoes : noteAll item seen = .yield (seen ++ [item]) := if_neg (by simp)
    simp only [showTo, hgoes]
    rw [ih, List.append_assoc, List.singleton_append]

end Stored

/-! ## Going through the buckets -/

namespace Unbonding

variable {β : Type} {store : Store}

/-- **A visitor is shown the buckets that are held**, in key order, until it stops. -/
theorem run_visitBuckets (h : store.WellFormed) (start : β) (see : Bucket → β → ForInStep β) :
    (visitBuckets start see).run store =
      ⟨.ok (Stored.showTo see store.buckets start), store, []⟩ := by
  have hdecode : ∀ entry ∈ store.under KeyFamily.unbondingBucket.stem,
      decodeBucket entry = .ok (listedBucket? entry) := by
    intro entry hentry
    obtain ⟨chain, version, ids, hholds, -, rfl⟩ := h.entry_of_bucket hentry
    rw [decodeBucket_encode chain version hholds, listedBucket?_encode chain version hholds]
  have hvisit := Stored.visitList_eq_ok see hdecode start
  rw [visitBuckets, Stored.visit, run_bind_ok (run_scan _ store), hvisit]
  rfl

/-- What going through the buckets of a store shows to visitors. -/
structure Traversed (store : Store) (listed : List Bucket) : Prop where
  /-- Every bucket that holds something is shown, with its ids, oldest first, and nothing else. -/
  mem_iff : ∀ chain version ids, (chain, version, ids) ∈ listed ↔
    (bucket chain version).Tells store ids ∧ ids ≠ []
  /-- The keys ascend strictly, so no bucket is shown twice. -/
  ascending : listed.Pairwise fun a b => Bytes.order a.key.bytes b.key.bytes = .lt
  /-- The versions of one chain ascend. -/
  versions : listed.Pairwise fun a b => a.1 = b.1 → a.2.1 < b.2.1
  /-- Chains ascend that are set apart. -/
  chains : listed.Pairwise fun a b => a.1 ≠ b.1 → a.1.SetApart b.1 → a.1.Before b.1
  /-- Any visitor is shown the list until it stops. -/
  shown : ∀ {β : Type} (start : β) (see : Bucket → β → ForInStep β),
    (visitBuckets start see).Tells store (Stored.showTo see listed start)
  /-- One that never stops is shown all of it. -/
  complete : (visitBuckets [] Stored.noteAll).Tells store listed
  /-- One that stops at some call is shown as many. -/
  stopped : ∀ limit, 0 < limit →
    (visitBuckets [] (Stored.noteUpTo limit)).Tells store (listed.take limit)

/-- Where no bucket is empty, the listing is what visitors are shown. -/
theorem traversed_buckets (h : store.WellFormed)
    (hne : ∀ chain version, store.bucket? chain version ≠ some []) :
    Traversed store store.buckets := by
  have hshown {β : Type} (start : β) (see : Bucket → β → ForInStep β) :
      (visitBuckets start see).Tells store (Stored.showTo see store.buckets start) :=
    (tells_iff (run_visitBuckets h start see)).2 rfl
  have hsorted := h.sorted_buckets
  refine ⟨?_, hsorted, ?_, ?_, hshown, ?_, ?_⟩
  · intro chain version ids
    rw [Store.mem_buckets h, tells_bucket h, Store.waiting]
    constructor
    · intro hheld
      refine ⟨by rw [hheld]; rfl, ?_⟩
      rintro rfl
      exact hne chain version hheld
    · rintro ⟨hids, hsome⟩
      cases hheld : store.bucket? chain version with
      | none =>
        rw [hheld] at hids
        exact absurd hids.symm hsome
      | some other =>
        rw [hheld] at hids
        exact congrArg some hids
  · refine hsorted.imp fun {a b} hbefore hchain => ?_
    rw [Bucket.key, Bucket.key, hchain, Key.order_bucket_same, Nat.compare_eq_lt] at hbefore
    exact UInt64.lt_iff_toNat_lt.2 hbefore
  · refine hsorted.imp fun {a b} hbefore hchain hapart => ?_
    rwa [Bucket.key, Bucket.key, Key.order_bucket_of_setApart hchain hapart] at hbefore
  · have hall := hshown [] Stored.noteAll
    rwa [Stored.showTo_noteAll, List.nil_append] at hall
  · intro limit hlimit
    have hfirst := hshown [] (Stored.noteUpTo limit)
    rwa [Stored.showTo_noteUpTo _ hlimit, List.nil_append] at hfirst

/-- **Every bucket that holds something is shown once, in key order.**  After every run whose lists
and strings fit in memory, going through the buckets shows each of them with its ids; the versions of
a chain ascend, and so do the chains, but for those one of which extends the other with a byte that
does not come after the separator. -/
theorem traversed_after {run : Run Call} (h : run.committed.Short) :
    ∃ listed, Traversed run.after listed := by
  rw [run.after_eq]
  exact ⟨_, traversed_buckets (History.wellFormed_after h) (History.mirrored_after h).bucket_ne_nil⟩

/-- A provider on a transport with a channel to each of two chains, the id of one of which extends
that of the other. -/
def extendedName : Service where
  lookup := (Lookup.empty.withPath .provider ⟨"ch-0"⟩ ⟨"conn-0"⟩ ⟨"client-0"⟩ ⟨"foo"⟩).withPath
    .provider ⟨"ch-1"⟩ ⟨"conn-1"⟩ ⟨"client-1"⟩ ⟨"foo-1"⟩
  closer := .accepting
  capabilities := .granting []

/-- Both chains are bound, and an entry is created that waits for both. -/
def awaitedByBoth : Run Call :=
  [.direct ⟨extendedName, .openConfirm 5 ⟨"ch-0"⟩⟩, .direct ⟨extendedName, .openConfirm 6 ⟨"ch-1"⟩⟩,
    .direct ⟨extendedName, .unbondingCreated ⟨7, "validator", 6⟩⟩]

theorem traversed_after_awaitedByBoth : awaitedByBoth.committed.Short ∧
    ∃ listed, Traversed awaitedByBoth.after listed := by
  have hshort : awaitedByBoth.committed.Short := by decide +kernel
  exact ⟨hshort, traversed_after hshort⟩

/-- The longer id goes on with a byte before the separator, so its bucket comes first, though the id
itself comes second. -/
theorem longer_shown_first :
    (visitBuckets [] Stored.noteAll).Tells awaitedByBoth.after
        [(⟨"foo-1"⟩, 0, [7]), (⟨"foo"⟩, 0, [7])] ∧
      ¬ [((⟨"foo-1"⟩, 0, [7]) : Bucket), (⟨"foo"⟩, 0, [7])].Pairwise
        fun a b => a.1.Before b.1 ∨ a.1 = b.1 ∧ a.2.1 < b.2.1 := by
  refine ⟨by decide +kernel, ?_⟩
  intro hordered
  rcases List.rel_of_pairwise_cons hordered (List.mem_singleton_self _) with hbefore | ⟨hsame, -⟩
  · have hafter : ChainId.Before ⟨"foo"⟩ ⟨"foo-1"⟩ := by decide +kernel
    exact hafter.asymm hbefore
  · exact absurd hsame (by decide)

end Unbonding
end SharedSecurity
