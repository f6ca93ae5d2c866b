import SharedSecurity.Record.Codec

/-!
# Records read back

A record is preceded by no mark of its kind and followed by anything, so what makes the stored form
trustworthy is a law about all byte strings: reading gives a value exactly if the bytes begin with
what writing that value gives.

* `Codec.Lawful` — the law, together with the values a codec can hold.  Lengths are 64-bit words, so
  a list or text can be held if its length is one.
* one lemma for each way to build a codec, and one for each record that is kept in the store.
* `Codec.Lawful.holds_of_length` — the law's bound is no burden: a value whose written form is
  shorter than `UInt64.size` can be held.
-/

set_option autoImplicit false
namespace SharedSecurity

/-- A sequence succeeds exactly if its first part does and the second does with its value. -/
theorem bind_eq_ok_iff {ε α β : Type} {x : Except ε α} {f : α → Except ε β} {b : β} :
    (x >>= f) = .ok b ↔ ∃ a, x = .ok a ∧ f a = .ok b := by
  cases x with
  | error e =>
    constructor
    · intro h; cases h
    · rintro ⟨_, h, _⟩; cases h
  | ok a =>
    constructor
    · exact fun h => ⟨a, rfl, h⟩
    · rintro ⟨_, h, hf⟩; cases h; exact hf

/-- A sequence fails exactly if its first part does, or the second does with its value. -/
theorem bind_eq_error_iff {ε α β : Type} {x : Except ε α} {f : α → Except ε β} {e : ε} :
    (x >>= f) = .error e ↔ x = .error e ∨ ∃ a, x = .ok a ∧ f a = .error e := by
  cases x with
  | error other =>
    constructor
    · intro h; cases h; exact .inl rfl
    · rintro (h | ⟨_, h, _⟩) <;> cases h; rfl
  | ok a =>
    constructor
    · exact fun h => .inr ⟨a, rfl, h⟩
    · rintro (h | ⟨_, h, hf⟩) <;> cases h; exact hf

namespace Codec

variable {α β : Type}

/-- Reading gives a value and a rest exactly if the bytes are what writing the value gives, followed
by the rest.  `holds` tells the values for which that works. -/
structure Lawful (codec : Codec α) (holds : α → Prop) : Prop where
  /-- Reading undoes writing, and nothing else can be read. -/
  decode_iff : ∀ {bytes : Bytes} {value : α} {rest : Bytes},
    codec.decode bytes = .ok (value, rest) ↔ holds value ∧ bytes = codec.encode value ++ rest
  /-- Every value takes up room. -/
  length_pos : ∀ value : α, 0 < (codec.encode value).length
  /-- What has a short form can be held. -/
  holds_of_length : ∀ {value : α}, (codec.encode value).length < UInt64.size → holds value

/-- Reading what was written gives the value back. -/
theorem Lawful.decode_encode {codec : Codec α} {holds : α → Prop} (h : codec.Lawful holds)
    {value : α} (hvalue : holds value) : codec.decode (codec.encode value) = .ok (value, []) :=
  h.decode_iff.2 ⟨hvalue, (List.append_nil _).symm⟩

theorem Lawful.read_encode {codec : Codec α} {holds : α → Prop} (h : codec.Lawful holds)
    (what : String) {value : α} (hvalue : holds value) :
    codec.read what (codec.encode value) = .ok value := by
  rw [read, h.decode_encode hvalue]

/-- Reading a record drops what follows it. -/
theorem read_eq_ok_iff {codec : Codec α} {what : String} {bytes : Bytes} {value : α} :
    codec.read what bytes = .ok value ↔ ∃ rest, codec.decode bytes = .ok (value, rest) := by
  rw [read]
  cases codec.decode bytes with
  | error fault => simp
  | ok answer => simp [Prod.ext_iff]

/-! ## Numbers -/

theorem split_eq_ok_iff {fault : DecodeFault} {count : Nat} {bytes first rest : Bytes} :
    split fault count bytes = .ok (first, rest) ↔ first.length = count ∧ bytes = first ++ rest := by
  rw [split]
  constructor
  · intro h
    split at h
    · next hcount =>
      cases h
      exact ⟨List.length_take_of_le hcount, (List.take_append_drop ..).symm⟩
    · cases h
  · rintro ⟨rfl, rfl⟩
    simp

theorem decode_number_iff {width : Nat} {bytes rest : Bytes} {n : Nat} :
    (number width).decode bytes = .ok (n, rest) ↔
      n < Bytes.capacity width ∧ bytes = Bytes.littleEndian width n ++ rest := by
  simp only [number, bind_eq_ok_iff]
  constructor
  · rintro ⟨⟨digits, after⟩, hsplit, h⟩
    obtain ⟨rfl, rfl⟩ := split_eq_ok_iff.1 hsplit
    cases h
    exact ⟨Bytes.ofLittleEndian_lt digits, by rw [Bytes.littleEndian_ofLittleEndian]⟩
  · rintro ⟨hn, rfl⟩
    refine ⟨(Bytes.littleEndian width n, rest), split_eq_ok_iff.2 ⟨by simp, rfl⟩, ?_⟩
    rw [Bytes.ofLittleEndian_littleEndian, Nat.mod_eq_of_lt hn]

theorem length_encode_number (width n : Nat) : ((number width).encode n).length = width :=
  Bytes.length_littleEndian width n

theorem decode_choice_iff {count : Nat} (hcount : count ≤ Bytes.capacity 4) {bytes rest : Bytes}
    {index : Nat} : (choice count).decode bytes = .ok (index, rest) ↔
      index < count ∧ bytes = Bytes.littleEndian 4 index ++ rest := by
  simp only [choice, bind_eq_ok_iff]
  constructor
  · rintro ⟨⟨found, after⟩, hnumber, h⟩
    split at h
    · next hfound =>
      cases h
      exact ⟨hfound, (decode_number_iff.1 hnumber).2⟩
    · cases h
  · rintro ⟨hindex, hbytes⟩
    refine ⟨(index, rest), decode_number_iff.2 ⟨by omega, hbytes⟩, ?_⟩
    rw [if_pos hindex]

/-- Values that stand for the numbers below a bound can always be held, if those numbers can. -/
theorem lawful_numbered {numbers : Codec Nat} {bound : Nat} {forth : α → Nat} {back : Nat → α}
    (hdecode : ∀ {bytes rest : Bytes} {n : Nat}, numbers.decode bytes = .ok (n, rest) ↔
      n < bound ∧ bytes = numbers.encode n ++ rest)
    (hlength : ∀ n, 0 < (numbers.encode n).length) (hback : ∀ a, back (forth a) = a)
    (hlt : ∀ a, forth a < bound) (hforth : ∀ n < bound, forth (back n) = n) :
    (numbers.map forth back).Lawful fun _ => True where
  decode_iff {bytes value rest} := by
    simp only [map, bind_eq_ok_iff]
    constructor
    · rintro ⟨⟨n, after⟩, hnumber, h⟩
      obtain ⟨hn, rfl⟩ := hdecode.1 hnumber
      cases h
      refine ⟨trivial, ?_⟩
      rw [hforth n hn]
    · rintro ⟨-, rfl⟩
      exact ⟨(forth value, rest), hdecode.2 ⟨hlt value, rfl⟩, by rw [hback]⟩
  length_pos value := hlength (forth value)
  holds_of_length _ := trivial

theorem lawful_byte : byte.Lawful fun _ => True :=
  lawful_numbered decode_number_iff (by simp [length_encode_number]) (by simp) UInt8.toNat_lt
    fun _ hn => Nat.mod_eq_of_lt hn

/-- A word can always be held. -/
theorem lawful_word : word.Lawful fun _ => True :=
  lawful_numbered decode_number_iff (by simp [length_encode_number]) (by simp) UInt64.toNat_lt
    fun _ hn => Nat.mod_eq_of_lt hn

theorem decode_byte_iff {bytes rest : Bytes} {value : UInt8} :
    byte.decode bytes = .ok (value, rest) ↔ bytes = byte.encode value ++ rest := by
  simpa using lawful_byte.decode_iff

/-! ## Texts -/

/-- A text can be held if its length is a word. -/
theorem lawful_text : text.Lawful fun value => (Utf8.encode value).length < UInt64.size where
  decode_iff {bytes value rest} := by
    simp only [text, bind_eq_ok_iff]
    constructor
    · rintro ⟨⟨length, after⟩, hnumber, ⟨content, tail⟩, hsplit, h⟩
      obtain ⟨hlength, rfl⟩ := decode_number_iff.1 hnumber
      obtain ⟨rfl, rfl⟩ := split_eq_ok_iff.1 hsplit
      split at h
      · next hdecode =>
        cases h
        rw [Utf8.decode?_eq_some_iff] at hdecode
        subst hdecode
        exact ⟨hlength, by simp [number]⟩
      · cases h
    · rintro ⟨hlength, rfl⟩
      refine ⟨((Utf8.encode value).length, Utf8.encode value ++ rest),
        decode_number_iff.2 ⟨hlength, by simp [number]⟩, (Utf8.encode value, rest),
        split_eq_ok_iff.2 ⟨rfl, rfl⟩, ?_⟩
      simp
  length_pos value := by
    simp only [text, List.length_append, length_encode_number]
    omega
  holds_of_length {value} h := by
    simp only [text, List.length_append, length_encode_number] at h
    omega

/-! ## Records of records -/

/-- A change of type keeps the law if it loses nothing. -/
theorem Lawful.map {codec : Codec α} {holds : α → Prop} (h : codec.Lawful holds) {forth : β → α}
    {back : α → β} (hback : ∀ b, back (forth b) = b) (hforth : ∀ a, forth (back a) = a) :
    (codec.map forth back).Lawful fun b => holds (forth b) where
  decode_iff {bytes value rest} := by
    simp only [Codec.map, bind_eq_ok_iff]
    constructor
    · rintro ⟨⟨a, after⟩, hdecode, heq⟩
      cases heq
      rw [hforth]
      exact h.decode_iff.1 hdecode
    · intro hvalue
      exact ⟨(forth value, rest), h.decode_iff.2 hvalue, by rw [hback]⟩
  length_pos value := h.length_pos (forth value)
  holds_of_length hlength := h.holds_of_length hlength

theorem Lawful.pair {first : Codec α} {second : Codec β} {holdsFirst : α → Prop}
    {holdsSecond : β → Prop} (hfirst : first.Lawful holdsFirst)
    (hsecond : second.Lawful holdsSecond) :
    (first.pair second).Lawful fun value => holdsFirst value.1 ∧ holdsSecond value.2 where
  decode_iff {bytes value rest} := by
    simp only [Codec.pair, bind_eq_ok_iff]
    constructor
    · rintro ⟨⟨a, middle⟩, ha, ⟨b, after⟩, hb, h⟩
      obtain ⟨hholds, rfl⟩ := hfirst.decode_iff.1 ha
      obtain ⟨hholds', rfl⟩ := hsecond.decode_iff.1 hb
      cases h
      exact ⟨⟨hholds, hholds'⟩, by rw [List.append_assoc]⟩
    · rintro ⟨⟨hholds, hholds'⟩, rfl⟩
      refine ⟨(value.1, second.encode value.2 ++ rest),
        hfirst.decode_iff.2 ⟨hholds, List.append_assoc ..⟩, (value.2, rest),
        hsecond.decode_iff.2 ⟨hholds', rfl⟩, rfl⟩
  length_pos value := by
    have := hfirst.length_pos value.1
    simp only [Codec.pair, List.length_append]
    omega
  holds_of_length {value} h := by
    simp only [Codec.pair, List.length_append] at h
    exact ⟨hfirst.holds_of_length (by omega), hsecond.holds_of_length (by omega)⟩

/-- The law only depends on which values can be held. -/
theorem Lawful.congr {codec : Codec α} {holds holds' : α → Prop} (h : codec.Lawful holds)
    (hiff : ∀ value, holds' value ↔ holds value) : codec.Lawful holds' where
  decode_iff := by
    intro bytes value rest
    rw [hiff]
    exact h.decode_iff
  length_pos := h.length_pos
  holds_of_length hlength := (hiff _).2 (h.holds_of_length hlength)

/-- A value that may be missing can be held if it can be held where it is there. -/
theorem Lawful.option {codec : Codec α} {holds : α → Prop} (h : codec.Lawful holds) :
    codec.option.Lawful fun value => ∀ a ∈ value, holds a where
  decode_iff {bytes value rest} := by
    simp only [Codec.option, bind_eq_ok_iff]
    constructor
    · rintro ⟨⟨tag, after⟩, htag, hvalue⟩
      obtain rfl := decode_byte_iff.1 htag
      split at hvalue
      · next hzero =>
        obtain rfl : tag = 0 := hzero
        cases hvalue
        exact ⟨by simp, rfl⟩
      · split at hvalue
        · next hone =>
          obtain rfl : tag = 1 := hone
          obtain ⟨⟨a, tail⟩, ha, heq⟩ := bind_eq_ok_iff.1 hvalue
          obtain ⟨hholds, hafter⟩ := h.decode_iff.1 ha
          obtain rfl : after = codec.encode a ++ tail := hafter
          cases heq
          exact ⟨by simpa using hholds, (List.append_assoc ..).symm⟩
        · cases hvalue
    · rintro ⟨hholds, rfl⟩
      cases value with
      | none => exact ⟨(0, rest), decode_byte_iff.2 rfl, rfl⟩
      | some a =>
        refine ⟨(1, codec.encode a ++ rest), decode_byte_iff.2 (List.append_assoc ..),
          bind_eq_ok_iff.2 ⟨(a, rest), h.decode_iff.2 ⟨hholds a rfl, rfl⟩, rfl⟩⟩
  length_pos value := by
    have hbyte := lawful_byte.length_pos
    cases value with
    | none => exact hbyte 0
    | some a =>
      have := hbyte 1
      simp only [Codec.option, List.length_append]
      omega
  holds_of_length {value} hlength a ha := by
    obtain rfl := Option.mem_def.1 ha
    simp only [Codec.option, List.length_append] at hlength
    exact h.holds_of_length (by omega)

/-! ## Lists -/

theorem Lawful.decodeMany_iff {codec : Codec α} {holds : α → Prop} (h : codec.Lawful holds)
    {count : Nat} {bytes rest : Bytes} {values : List α} :
    decodeMany codec count bytes = .ok (values, rest) ↔ values.length = count ∧
      (∀ value ∈ values, holds value) ∧ bytes = values.flatMap codec.encode ++ rest := by
  induction count generalizing bytes values rest with
  | zero =>
    simp only [decodeMany, Except.ok.injEq, Prod.mk.injEq, List.length_eq_zero_iff]
    constructor
    · rintro ⟨rfl, rfl⟩
      simp
    · rintro ⟨rfl, -, rfl⟩
      simp
  | succ count ih =>
    simp only [decodeMany, bind_eq_ok_iff]
    constructor
    · rintro ⟨⟨value, middle⟩, hvalue, ⟨others, after⟩, hothers, heq⟩
      obtain ⟨hholds, rfl⟩ := h.decode_iff.1 hvalue
      obtain ⟨rfl, hall, rfl⟩ := ih.1 hothers
      cases heq
      exact ⟨rfl, List.forall_mem_cons.2 ⟨hholds, hall⟩, by simp⟩
    · rintro ⟨hlength, hall, rfl⟩
      cases values with
      | nil => cases hlength
      | cons value others =>
        obtain ⟨hholds, hothers⟩ := List.forall_mem_cons.1 hall
        refine ⟨(value, others.flatMap codec.encode ++ rest),
          h.decode_iff.2 ⟨hholds, by simp⟩, (others, rest), ih.2 ⟨?_, hothers, rfl⟩, rfl⟩
        simpa using hlength

theorem length_le_length_flatMap {codec : Codec α} {holds : α → Prop} (h : codec.Lawful holds)
    (values : List α) : values.length ≤ (values.flatMap codec.encode).length := by
  induction values with
  | nil => simp
  | cons value values ih =>
    have := h.length_pos value
    simp only [List.length_cons, List.flatMap_cons, List.length_append]
    omega

theorem length_encode_le_of_mem (codec : Codec α) {values : List α} {value : α}
    (h : value ∈ values) :
    (codec.encode value).length ≤ (values.flatMap codec.encode).length := by
  induction values with
  | nil => cases h
  | cons other values ih =>
    simp only [List.flatMap_cons, List.length_append]
    rcases List.mem_cons.1 h with rfl | h
    · omega
    · have := ih h
      omega

/-- A list can be held if its length is a word and everything in it can be held. -/
theorem Lawful.list {codec : Codec α} {holds : α → Prop} (h : codec.Lawful holds) :
    codec.list.Lawful fun values =>
      values.length < UInt64.size ∧ ∀ value ∈ values, holds value where
  decode_iff {bytes values rest} := by
    simp only [Codec.list, bind_eq_ok_iff]
    constructor
    · rintro ⟨⟨length, after⟩, hnumber, hmany⟩
      obtain ⟨hlength, rfl⟩ := decode_number_iff.1 hnumber
      obtain ⟨rfl, hall, rfl⟩ := h.decodeMany_iff.1 hmany
      exact ⟨⟨hlength, hall⟩, by simp [number]⟩
    · rintro ⟨⟨hlength, hall⟩, rfl⟩
      refine ⟨(values.length, values.flatMap codec.encode ++ rest),
        decode_number_iff.2 ⟨hlength, by simp [number]⟩, h.decodeMany_iff.2 ⟨rfl, hall, rfl⟩⟩
  length_pos values := by
    simp only [Codec.list, List.length_append, length_encode_number]
    omega
  holds_of_length {values} hlength := by
    simp only [Codec.list, List.length_append, length_encode_number] at hlength
    refine ⟨?_, fun value hvalue => h.holds_of_length ?_⟩
    · have := length_le_length_flatMap h values
      omega
    · have := length_encode_le_of_mem codec hvalue
      omega

/-! ## The records in the store -/

/-- A list of ids can be held if its length is a word. -/
theorem lawful_entryIds : entryIds.Lawful fun ids => ids.length < UInt64.size ∧ ∀ _ ∈ ids, True :=
  lawful_word.list

/-- A queue can be held if its length and those of its tokens are words. -/
theorem lawful_tokens : tokens.Lawful fun queue =>
    queue.length < UInt64.size ∧ ∀ token ∈ queue, (Utf8.encode token).length < UInt64.size :=
  lawful_text.list

theorem lawful_chainId : chainId.Lawful fun chain => chain.bytes.length < UInt64.size :=
  lawful_text.map (fun _ => rfl) (fun _ => rfl)

/-- An entry can be held if the length of its list and those of the names in it are words. -/
theorem lawful_unbondingEntry : unbondingEntry.Lawful fun entry => True ∧ True ∧
    entry.outstanding.length < UInt64.size ∧
      ∀ chain ∈ entry.outstanding, chain.bytes.length < UInt64.size :=
  (lawful_word.pair (lawful_word.pair lawful_chainId.list)).map (fun _ => rfl) (fun _ => rfl)

end Codec
end SharedSecurity
