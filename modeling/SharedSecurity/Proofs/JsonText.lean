import Mathlib.Data.List.TakeDrop
import SharedSecurity.Json.Reader

/-!
# The text of a JSON value

A value is written without blanks and read by descent.  `Value.Plain` tells the values that records
are shown as: their numerals are numbers written in full, and their literals are those of texts.
For these, reading gives back what was written.

* `Literal.escapeChar_cases` — how a character stands in a literal, in three cases for the eight
  tests of the writer.  The readers of literals are compared with it character by character.
* `Literal.text?_ofText`, `readLiteral_ofText` — **any text is read back from its literal**, and the
  literal ends where it was closed.
* `readNumeral_toDigits` — a number is read back from its digits, if what follows could not be part
  of a numeral.
* `Value.Plain.readsBack`, `parse?_write` — **a plain value is read back from its text**, with steps
  to spare.
-/

set_option autoImplicit false
namespace SharedSecurity
namespace Json

/-! ## Literals -/

namespace Literal

/-- The digits to base sixteen are read back. -/
theorem hexValue?_digitChar : ∀ d < 16, hexValue? (Nat.digitChar d) = some d := by decide

/-- A control character is read back from the two digits of its number. -/
theorem hex4?_control {n : Nat} (h : n < 32) :
    hex4? '0' '0' (Nat.digitChar (n / 16)) (Nat.digitChar (n % 16)) = some n := by
  have hzero : hexValue? '0' = some 0 := rfl
  have hhigh := hexValue?_digitChar (n / 16) (by omega)
  have hlow := hexValue?_digitChar (n % 16) (by omega)
  simp only [hex4?, hhigh, hlow, hzero, Option.bind_eq_bind, Option.bind_some]
  congr 1
  omega

/-- How a character stands in a literal: escaped by a letter, escaped by its number, or as it is. -/
theorem escapeChar_cases (c : Char) :
    (∃ letter, escapeChar c = ['\\', letter] ∧ letter ≠ 'u' ∧ shortEscape? letter = some c.toNat) ∨
      (c.toNat < 32 ∧ escapeChar c =
        ['\\', 'u', '0', '0', Nat.digitChar (c.toNat / 16), Nat.digitChar (c.toNat % 16)]) ∨
      (escapeChar c = [c] ∧ c ≠ '"' ∧ c ≠ '\\' ∧ 32 ≤ c.toNat) := by
  rw [escapeChar]
  split
  · next h => exact .inl ⟨'"', rfl, by decide, by subst h; rfl⟩
  split
  · next h => exact .inl ⟨'\\', rfl, by decide, by subst h; rfl⟩
  split
  · next h => exact .inl ⟨'b', rfl, by decide, by rw [h]; rfl⟩
  split
  · next h => exact .inl ⟨'t', rfl, by decide, by rw [h]; rfl⟩
  split
  · next h => exact .inl ⟨'n', rfl, by decide, by rw [h]; rfl⟩
  split
  · next h => exact .inl ⟨'f', rfl, by decide, by rw [h]; rfl⟩
  split
  · next h => exact .inl ⟨'r', rfl, by decide, by rw [h]; rfl⟩
  split
  · next h => exact .inr (.inl ⟨h, rfl⟩)
  · next hquote hslash _ _ _ _ _ hlarge => exact .inr (.inr ⟨rfl, hquote, hslash, by omega⟩)

/-- The code of a character is read back from its place in a literal. -/
theorem codes?_escapeChar (c : Char) (rest : List Char) :
    codes? (escapeChar c ++ rest) = (codes? rest).map (c.toNat :: ·) := by
  rcases escapeChar_cases c with ⟨letter, hc, hletter, hcode⟩ | ⟨hsmall, hc⟩ | ⟨hc, -, hslash, -⟩
  · rw [hc]
    cases hrest : codes? rest <;> simp [codes?, hcode, hletter, hrest]
  · rw [hc]
    cases hrest : codes? rest <;> simp [codes?, hex4?_control hsmall, hrest]
  · rw [hc]
    cases hrest : codes? rest <;> simp [codes?, hslash, hrest]

theorem codes?_ofText (text : String) :
    codes? (ofText text) = some (text.toList.map Char.toNat) := by
  rw [ofText]
  induction text.toList with
  | nil => rfl
  | cons c rest ih =>
    rw [List.flatMap_cons, codes?_escapeChar, ih]
    rfl

/-- No character is half of a surrogate pair. -/
theorem not_surrogate (c : Char) :
    isHighSurrogate c.toNat = false ∧ isLowSurrogate c.toNat = false := by
  have hvalid : c.toNat < 0xD800 ∨ 0xDFFF < c.toNat ∧ c.toNat < 0x110000 := c.valid
  simp only [isHighSurrogate, isLowSurrogate, Bool.and_eq_false_iff, decide_eq_false_iff_not]
  omega

theorem characters?_toNat (content : List Char) :
    characters? (content.map Char.toNat) = some content := by
  induction content with
  | nil => rfl
  | cons c rest ih =>
    obtain ⟨hhigh, hlow⟩ := not_surrogate c
    cases rest with
    | nil => simp [characters?, hhigh, hlow]
    | cons next rest =>
      rw [List.map_cons] at ih
      simp [characters?, hhigh, hlow, ih]

/-- **Any text is what its literal denotes.** -/
theorem text?_ofText (text : String) : text? (ofText text) = some text := by
  rw [text?, codes?_ofText, Option.bind_some, characters?_toNat, Option.map_some,
    String.ofList_toList]

end Literal

/-- A character that needs no escape is read as it is. -/
theorem readLiteral_cons {c : Char} (hquote : c ≠ '"') (hslash : c ≠ '\\') (hlarge : 32 ≤ c.toNat)
    (rest : List Char) : readLiteral (c :: rest) =
      (readLiteral rest).map fun (literal, left) => (c :: literal, left) := by
  have hcontrol : ¬ c.toNat < 32 := by omega
  simp [readLiteral, hslash, hcontrol]

/-- A digit to base sixteen needs no escape. -/
theorem readLiteral_digitChar {d : Nat} (h : d < 16) (rest : List Char) :
    readLiteral (Nat.digitChar d :: rest) =
      (readLiteral rest).map fun (literal, left) => (Nat.digitChar d :: literal, left) := by
  have hdigits : ∀ d < 16, Nat.digitChar d ≠ '"' ∧ Nat.digitChar d ≠ '\\' ∧
      32 ≤ (Nat.digitChar d).toNat := by decide
  obtain ⟨hquote, hslash, hlarge⟩ := hdigits d h
  exact readLiteral_cons hquote hslash hlarge rest

theorem readLiteral_escapeChar (c : Char) (rest : List Char) :
    readLiteral (Literal.escapeChar c ++ rest) =
      (readLiteral rest).map fun (literal, left) => (Literal.escapeChar c ++ literal, left) := by
  rcases Literal.escapeChar_cases c with
    ⟨letter, hc, -, hcode⟩ | ⟨hsmall, hc⟩ | ⟨hc, hquote, hslash, hlarge⟩
  · rw [hc]
    simp [readLiteral, isEscape, hcode]
  · have hzero : Literal.hexValue? '0' = some 0 := rfl
    have hhigh := Literal.hexValue?_digitChar (c.toNat / 16) (by omega)
    have hlow := Literal.hexValue?_digitChar (c.toNat % 16) (by omega)
    have hescape : isEscape 'u' ('0' :: '0' :: Nat.digitChar (c.toNat / 16) ::
        Nat.digitChar (c.toNat % 16) :: rest) = true := by
      simp [isEscape, startsWithHex4, hzero, hhigh, hlow]
    have hdigit (tail : List Char) : readLiteral ('0' :: tail) =
        (readLiteral tail).map fun (literal, left) => ('0' :: literal, left) :=
      readLiteral_digitChar (d := 0) (by decide) tail
    rw [hc]
    simp only [List.cons_append, List.nil_append]
    rw [readLiteral, if_pos hescape, hdigit, hdigit, readLiteral_digitChar (by omega),
      readLiteral_digitChar (by omega)]
    simp only [Option.map_map]
    rfl
  · rw [hc]
    exact readLiteral_cons hquote hslash hlarge rest

/-- **The literal of a text ends at its closing quote.** -/
theorem readLiteral_ofText (text : String) (rest : List Char) :
    readLiteral (Literal.ofText text ++ '"' :: rest) = some (Literal.ofText text, rest) := by
  rw [Literal.ofText]
  induction text.toList with
  | nil => rfl
  | cons c content ih =>
    rw [List.flatMap_cons, List.append_assoc, readLiteral_escapeChar, ih]
    rfl

/-! ## Numerals -/

/-- The text does not go on with what could be part of a numeral. -/
def EndsNumeral (text : List Char) : Prop :=
  ∀ c rest, text = c :: rest → c.isDigit = false ∧ c ≠ '.' ∧ c ≠ 'e' ∧ c ≠ 'E'

theorem endsNumeral_nil : EndsNumeral [] := nofun

theorem endsNumeral_cons {c : Char} (h : c.isDigit = false ∧ c ≠ '.' ∧ c ≠ 'e' ∧ c ≠ 'E')
    (rest : List Char) : EndsNumeral (c :: rest) := by
  rintro _ _ ⟨⟩
  exact h

theorem ne_of_isDigit {d c : Char} (hd : d.isDigit = true) (hc : c.isDigit = false) : d ≠ c := by
  rintro rfl
  rw [hd] at hc
  cases hc

/-- A number begins with a digit. -/
theorem exists_toDigits (n : Nat) :
    ∃ d more, Nat.toDigits 10 n = d :: more ∧ d.isDigit = true := by
  obtain ⟨d, more, hdigits⟩ := List.exists_cons_of_ne_nil (Nat.toDigits_ne_nil (n := n) (b := 10))
  have hd : d ∈ Nat.toDigits 10 n := hdigits ▸ List.mem_cons_self ..
  exact ⟨d, more, hdigits, Nat.isDigit_of_mem_toDigits (by decide) (by decide) hd⟩

/-- Only zero is written with a zero in front. -/
theorem toDigits_of_head_zero {n : Nat} {rest : List Char} (h : Nat.toDigits 10 n = '0' :: rest) :
    rest = [] := by
  induction n using Nat.strongRecOn generalizing rest with
  | ind n ih =>
    by_cases hn : n < 10
    · rw [Nat.toDigits_of_lt_base hn] at h
      exact (List.cons.inj h).2.symm
    · -- the digits before the last would be those of zero
      obtain ⟨d, more, hdigits, -⟩ := exists_toDigits (n / 10)
      rw [Nat.toDigits_of_base_le (by decide) (by omega), hdigits] at h
      obtain ⟨rfl, -⟩ := List.cons.inj h
      have hback := Nat.ofDigitChars_ten_toDigits (n := n / 10)
      rw [hdigits, ih (n / 10) (by omega) hdigits] at hback
      have : n / 10 = 0 := hback.symm
      omega

theorem readDigits1_append {digits rest : List Char} (hne : digits ≠ [])
    (hdigits : ∀ c ∈ digits, c.isDigit = true) (hrest : EndsNumeral rest) :
    readDigits1 (digits ++ rest) = some (digits, rest) := by
  have hspan : readDigits (digits ++ rest) = (digits, rest) := by
    rw [readDigits, List.span_eq_takeWhile_dropWhile, List.takeWhile_append_of_pos hdigits,
      List.dropWhile_append_of_pos hdigits]
    cases rest with
    | nil => simp
    | cons c rest => simp [(hrest c rest rfl).1]
  rw [readDigits1, hspan]
  cases digits with
  | nil => exact absurd rfl hne
  | cons d digits => rfl

theorem readInteger_toDigits (n : Nat) {rest : List Char} (hrest : EndsNumeral rest) :
    readInteger (Nat.toDigits 10 n ++ rest) = some (Nat.toDigits 10 n, rest) := by
  have hread := readDigits1_append Nat.toDigits_ne_nil
    (fun c hc => Nat.isDigit_of_mem_toDigits (b := 10) (n := n) (by decide) (by decide) hc) hrest
  obtain ⟨d, more, hdigits, -⟩ := exists_toDigits n
  rw [hdigits] at hread ⊢
  by_cases hd : d = '0'
  · subst hd
    rw [toDigits_of_head_zero hdigits]
    rfl
  · rw [List.cons_append] at hread ⊢
    rw [readInteger, hread]
    simpa using hd

/-- **A number is read back from its digits**, up to what ends a numeral. -/
theorem readNumeral_toDigits (n : Nat) {rest : List Char} (hrest : EndsNumeral rest) :
    readNumeral (Nat.toDigits 10 n ++ rest) = some (Nat.toDigits 10 n, rest) := by
  have hfraction : readFraction rest = some ([], rest) := by
    cases rest with
    | nil => rfl
    | cons c rest => simp [readFraction, (hrest c rest rfl).2.1]
  have hexponent : readExponent rest = some ([], rest) := by
    cases rest with
    | nil => rfl
    | cons c rest => simp [readExponent, (hrest c rest rfl).2.2]
  have hunsigned : readUnsigned (Nat.toDigits 10 n ++ rest) = some (Nat.toDigits 10 n, rest) := by
    simp [readUnsigned, readInteger_toDigits n hrest, hfraction, hexponent]
  obtain ⟨d, more, hdigits, hd⟩ := exists_toDigits n
  rw [hdigits, List.cons_append] at hunsigned ⊢
  rw [readNumeral, hunsigned]
  simpa using ne_of_isDigit hd rfl

/-! ## Values -/

/-- A value whose text can be read back: its numerals are numbers written in full, and its literals
are those of texts. -/
inductive Value.Plain : Value → Prop where
  | null : Plain .null
  | bool (value : Bool) : Plain (.bool value)
  | number (n : Nat) : Plain (.number n)
  | text (content : String) : Plain (.text content)
  | array {items : List Value} (h : ∀ item ∈ items, Plain item) : Plain (.array items)
  | object {members : List (String × Value)} (h : ∀ member ∈ members, Plain member.2) :
    Plain (.object (members.map fun (name, form) => (Literal.ofText name, form)))

/-- The reader finds the value in front of what follows it, given enough steps. -/
def Value.ReadsBack (value : Value) : Prop :=
  ∀ (bound : Nat) (rest : List Char), 2 * value.write.length ≤ bound → EndsNumeral rest →
    readValue bound (value.write ++ rest) = some (value, rest)

theorem skipSpace_cons {c : Char} (h : isSpace c = false) (rest : List Char) :
    skipSpace (c :: rest) = c :: rest :=
  List.dropWhile_cons_of_neg (by simp [h])

theorem isSpace_of_isDigit {d : Char} (h : d.isDigit = true) : isSpace d = false := by
  simp only [isSpace, Bool.or_eq_false_iff, beq_eq_false_iff_ne]
  exact ⟨⟨⟨ne_of_isDigit h rfl, ne_of_isDigit h rfl⟩, ne_of_isDigit h rfl⟩, ne_of_isDigit h rfl⟩

/-- The text of a value begins with no blank and no closing mark. -/
theorem Value.Plain.exists_head {value : Value} (h : value.Plain) :
    ∃ c rest, value.write = c :: rest ∧ isSpace c = false ∧ c ≠ ']' := by
  cases h with
  | null => exact ⟨_, _, rfl, rfl, by decide⟩
  | bool value => cases value <;> exact ⟨_, _, rfl, rfl, by decide⟩
  | number n =>
    obtain ⟨d, more, hdigits, hd⟩ := exists_toDigits n
    exact ⟨d, more, hdigits, isSpace_of_isDigit hd, ne_of_isDigit hd rfl⟩
  | text content => exact ⟨_, _, rfl, rfl, by decide⟩
  | array => exact ⟨_, _, by rw [write], rfl, by decide⟩
  | object => exact ⟨_, _, by rw [write], rfl, by decide⟩

theorem Value.readsBack_number (n : Nat) : (Value.number n).ReadsBack := by
  intro bound rest hbound hrest
  have hread := readNumeral_toDigits n hrest
  obtain ⟨d, more, hdigits, hd⟩ := exists_toDigits n
  have hwrite : (Value.number n).write = d :: more := hdigits
  have hskip := skipSpace_cons (isSpace_of_isDigit hd) (more ++ rest)
  have hother : d ≠ 'n' ∧ d ≠ 't' ∧ d ≠ 'f' ∧ d ≠ '"' ∧ d ≠ '[' ∧ d ≠ '\x7b' :=
    ⟨ne_of_isDigit hd rfl, ne_of_isDigit hd rfl, ne_of_isDigit hd rfl, ne_of_isDigit hd rfl,
      ne_of_isDigit hd rfl, ne_of_isDigit hd rfl⟩
  rw [hwrite] at hbound ⊢
  rw [hdigits, List.cons_append] at hread
  cases bound with
  | zero => simp at hbound
  | succ bound =>
    rw [List.cons_append, readValue, hskip]
    simp [hother, hread, Value.number, hdigits]

/-- The items of a list are read up to its closing bracket. -/
theorem readItems_writeItems {items : List Value} (hne : items ≠ [])
    (hitems : ∀ item ∈ items, item.ReadsBack) {bound : Nat}
    (hbound : 2 * (Value.writeItems items).length ≤ bound) (rest : List Char) :
    readItems bound (Value.writeItems items ++ rest) = some (items, rest) := by
  induction items generalizing bound with
  | nil => exact absurd rfl hne
  | cons item more ih =>
    obtain ⟨hitem, hmore⟩ := List.forall_mem_cons.1 hitems
    cases bound with
    | zero => cases more <;> simp [Value.writeItems] at hbound
    | succ bound =>
      cases more with
      | nil =>
        rw [Value.writeItems, List.length_append, List.length_singleton] at hbound
        have hread := hitem bound (']' :: rest) (by omega) (endsNumeral_cons (by decide) rest)
        rw [Value.writeItems, List.append_assoc, List.singleton_append, readItems, hread]
        rfl
      | cons next more =>
        rw [Value.writeItems, List.length_append, List.length_cons] at hbound
        rw [Value.writeItems, List.append_assoc, List.cons_append]
        have hrest : readItems bound (Value.writeItems (next :: more) ++ rest) =
            some (next :: more, rest) := ih (by simp) hmore (by omega)
        generalize Value.writeItems (next :: more) ++ rest = after at hrest ⊢
        have hread := hitem bound (',' :: after) (by omega) (endsNumeral_cons (by decide) after)
        have hcomma := skipSpace_cons (c := ',') rfl after
        simp only [readItems, hread, hcomma, hrest, Option.bind_eq_bind, Option.bind_some]

/-- The members of an object are read up to its closing brace. -/
theorem readMembers_writeMembers {members : List (List Char × Value)} (hne : members ≠ [])
    (hnames : ∀ member ∈ members, ∃ name, member.1 = Literal.ofText name)
    (hforms : ∀ member ∈ members, member.2.ReadsBack) {bound : Nat}
    (hbound : 2 * (Value.writeMembers members).length ≤ bound) (rest : List Char) :
    readMembers bound (Value.writeMembers members ++ rest) = some (members, rest) := by
  have hquote (tail : List Char) := skipSpace_cons (c := '"') rfl tail
  have hcolon (tail : List Char) := skipSpace_cons (c := ':') rfl tail
  induction members generalizing bound with
  | nil => exact absurd rfl hne
  | cons member more ih =>
    obtain ⟨literal, form⟩ := member
    obtain ⟨⟨name, rfl⟩, hmorenames⟩ := List.forall_mem_cons.1 hnames
    have hform : form.ReadsBack := hforms _ (List.mem_cons_self ..)
    cases bound with
    | zero => cases more <;> simp [Value.writeMembers] at hbound
    | succ bound =>
      cases more with
      | nil =>
        simp only [Value.writeMembers, Value.writeLiteral, List.length_append, List.length_cons,
          List.length_nil] at hbound
        simp only [Value.writeMembers, Value.writeLiteral, List.cons_append, List.append_assoc,
          List.nil_append]
        have hread := hform bound ('\x7d' :: rest) (by omega) (endsNumeral_cons (by decide) rest)
        have hbrace := skipSpace_cons (c := '\x7d') rfl rest
        simp only [readMembers, hquote, readLiteral_ofText, hcolon, hread, hbrace,
          Option.bind_eq_bind, Option.bind_some]
      | cons next more =>
        simp only [Value.writeMembers, Value.writeLiteral, List.length_append, List.length_cons,
          List.length_nil] at hbound
        simp only [Value.writeMembers, Value.writeLiteral, List.cons_append, List.append_assoc,
          List.nil_append]
        have hrest : readMembers bound (Value.writeMembers (next :: more) ++ rest) =
            some (next :: more, rest) :=
          ih (by simp) hmorenames (List.forall_mem_cons.1 hforms).2 (by omega)
        generalize Value.writeMembers (next :: more) ++ rest = after at hrest ⊢
        have hread := hform bound (',' :: after) (by omega) (endsNumeral_cons (by decide) after)
        have hcomma := skipSpace_cons (c := ',') rfl after
        simp only [readMembers, hquote, readLiteral_ofText, hcolon, hread, hcomma, hrest,
          Option.bind_eq_bind, Option.bind_some]

theorem Value.readsBack_array {items : List Value} (hplain : ∀ item ∈ items, item.Plain)
    (hitems : ∀ item ∈ items, item.ReadsBack) : (Value.array items).ReadsBack := by
  intro bound rest hbound _
  rw [write, List.length_cons] at hbound
  have hopen (tail : List Char) := skipSpace_cons (c := '[') rfl tail
  cases bound with
  | zero => omega
  | succ bound =>
    rw [write, List.cons_append]
    cases items with
    | nil => simp [readValue, hopen, writeItems, skipSpace_cons (c := ']') rfl]
    | cons item more =>
      have hread : readItems bound (writeItems (item :: more) ++ rest) =
          some (item :: more, rest) := readItems_writeItems (by simp) hitems (by omega) rest
      obtain ⟨c, tail, hwrite, hspace, hclose⟩ := (hplain item (by simp)).exists_head
      obtain ⟨after, hafter⟩ : ∃ after, writeItems (item :: more) ++ rest = c :: after := by
        cases more <;> exact ⟨_, by rw [writeItems, hwrite]; rfl⟩
      rw [hafter] at hread ⊢
      simp [readValue, hopen, skipSpace_cons hspace, hclose, hread]

theorem Value.readsBack_object {members : List (List Char × Value)}
    (hnames : ∀ member ∈ members, ∃ name, member.1 = Literal.ofText name)
    (hforms : ∀ member ∈ members, member.2.ReadsBack) : (Value.object members).ReadsBack := by
  intro bound rest hbound _
  rw [write, List.length_cons] at hbound
  have hopen (tail : List Char) := skipSpace_cons (c := '\x7b') rfl tail
  cases bound with
  | zero => omega
  | succ bound =>
    rw [write, List.cons_append]
    cases members with
    | nil => simp [readValue, hopen, writeMembers, skipSpace_cons (c := '\x7d') rfl]
    | cons member more =>
      have hread : readMembers bound (writeMembers (member :: more) ++ rest) =
          some (member :: more, rest) :=
        readMembers_writeMembers (by simp) hnames hforms (by omega) rest
      obtain ⟨after, hafter⟩ : ∃ after, writeMembers (member :: more) ++ rest = '"' :: after := by
        cases more <;> exact ⟨_, by rw [writeMembers, writeLiteral]; rfl⟩
      rw [hafter] at hread ⊢
      simp [readValue, hopen, skipSpace_cons (c := '"') rfl, hread]

/-- **The text of a plain value is read back**, whatever follows it that ends a numeral. -/
theorem Value.Plain.readsBack {value : Value} (h : value.Plain) : value.ReadsBack := by
  induction h with
  | null =>
    intro bound rest hbound _
    cases bound with
    | zero => simp [write] at hbound
    | succ bound => simp [write, readValue, skipSpace_cons (c := 'n') rfl]
  | bool value =>
    intro bound rest hbound _
    cases bound with
    | zero => cases value <;> simp [write] at hbound
    | succ bound =>
      cases value
      · simp [write, readValue, skipSpace_cons (c := 'f') rfl]
      · simp [write, readValue, skipSpace_cons (c := 't') rfl]
  | number n => exact readsBack_number n
  | text content =>
    intro bound rest hbound _
    cases bound with
    | zero => simp [Value.text, write, writeLiteral] at hbound
    | succ bound =>
      simp [Value.text, write, writeLiteral, readValue, skipSpace_cons (c := '"') rfl,
        readLiteral_ofText]
  | array hplain hitems => exact readsBack_array hplain hitems
  | object _ hforms =>
    refine readsBack_object ?_ ?_
    · rintro _ hmember
      obtain ⟨⟨name, form⟩, -, rfl⟩ := List.mem_map.1 hmember
      exact ⟨name, rfl⟩
    · rintro _ hmember
      obtain ⟨member, hlisted, rfl⟩ := List.mem_map.1 hmember
      exact hforms member hlisted

/-- **A document is read back from its text.** -/
theorem parse?_write {value : Value} (h : value.Plain) : parse? value.write = some value := by
  have hread := h.readsBack (2 * value.write.length + 2) [] (by omega) endsNumeral_nil
  rw [List.append_nil] at hread
  rw [parse?, hread]
  rfl

end Json
end SharedSecurity
