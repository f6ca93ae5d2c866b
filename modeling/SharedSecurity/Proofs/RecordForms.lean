import SharedSecurity.Proofs.Codecs

/-!
# The form of every record

`SharedSecurity.Proofs.Codecs` has the law of codecs and the records that gating and queues read.
This file adds the records that are handed in and out, and says for all of them together what the
law comes to for a reader: there is one form for each value, it can be told where it ends, and what
does not begin with one is refused.

## What is here

* `Codec.lawful_registration`, `Codec.lawful_genesis`, … — the law for the other records.
* `RecordKind` — the kinds of record, each with its values and its codec.  `RecordKind.Fits` spells
  out which values have a form: lengths are 64-bit words, and nothing else is asked.
* `Codec.Canonical` — what a reader can rely on, with `Codec.Canonical.of_lawful` to derive it from
  the law.
* `RecordKind.canonical` — **every kind of record has an exact and canonical form.**
-/

set_option autoImplicit false
namespace SharedSecurity
namespace Codec

/-! ## The law for the other records -/

theorem lawful_channelId : channelId.Lawful fun channel =>
    (Utf8.encode channel.name).length < UInt64.size :=
  lawful_text.map (fun _ => rfl) (fun _ => rfl)

theorem lawful_clientId : clientId.Lawful fun client =>
    (Utf8.encode client.name).length < UInt64.size :=
  lawful_text.map (fun _ => rfl) (fun _ => rfl)

theorem lawful_portId : portId.Lawful fun port => (Utf8.encode port.name).length < UInt64.size :=
  lawful_text.map (fun _ => rfl) (fun _ => rfl)

/-- A byte string can be held if its length is a word. -/
theorem lawful_blob : blob.Lawful fun bytes => bytes.length < UInt64.size :=
  lawful_byte.list.congr (by simp)

/-- A status can always be held: the indices of the choice are the stored bytes. -/
theorem lawful_status : status.Lawful fun _ => True :=
  lawful_numbered (decode_choice_iff (by decide)) (fun n => by simp [choice, length_encode_number])
    (by intro value; cases value <;> rfl) (by intro value; cases value <;> decide) (by decide)

/-- A client type can be held if the length of its name, where it has one, is a word. -/
theorem lawful_clientType : clientType.Lawful fun type =>
    ∀ name, type = .other name → (Utf8.encode name).length < UInt64.size where
  decode_iff {bytes value rest} := by
    have hchoice {bytes rest : Bytes} {index : Nat} :
        (choice 2).decode bytes = .ok (index, rest) ↔
          index < 2 ∧ bytes = Bytes.littleEndian 4 index ++ rest :=
      decode_choice_iff (by decide)
    simp only [clientType, bind_eq_ok_iff]
    constructor
    · rintro ⟨⟨index, after⟩, hindex, hvalue⟩
      obtain ⟨hlt, rfl⟩ := hchoice.1 hindex
      split at hvalue
      · next hzero =>
        obtain rfl : index = 0 := hzero
        cases hvalue
        exact ⟨by simp, rfl⟩
      · next hone =>
        obtain rfl : index = 1 := by
          have : index ≠ 0 := hone
          omega
        obtain ⟨⟨name, tail⟩, hname, heq⟩ := bind_eq_ok_iff.1 hvalue
        obtain ⟨hlength, hafter⟩ := lawful_text.decode_iff.1 hname
        obtain rfl : after = text.encode name ++ tail := hafter
        cases heq
        exact ⟨by simpa using hlength, (List.append_assoc ..).symm⟩
    · rintro ⟨hlength, rfl⟩
      cases value with
      | tendermint => exact ⟨(0, rest), hchoice.2 ⟨by decide, rfl⟩, rfl⟩
      | other name =>
        refine ⟨(1, text.encode name ++ rest), hchoice.2 ⟨by decide, List.append_assoc ..⟩,
          bind_eq_ok_iff.2 ⟨(name, rest), ?_, rfl⟩⟩
        exact lawful_text.decode_iff.2 ⟨hlength name rfl, rfl⟩
  length_pos value := by
    cases value with
    | tendermint => simp [clientType, choice, length_encode_number]
    | other name =>
      simp only [clientType, choice, List.length_append, length_encode_number]
      omega
  holds_of_length {value} hlength name hname := by
    subst hname
    simp only [clientType, List.length_append] at hlength
    exact lawful_text.holds_of_length (by omega)

theorem lawful_consumerChain : consumerChain.Lawful fun c =>
    c.chain.bytes.length < UInt64.size ∧
      (∀ channel ∈ c.channel, (Utf8.encode channel.name).length < UInt64.size) ∧
      ∀ genesis ∈ c.genesis, genesis.length < UInt64.size :=
  ((lawful_chainId.pair (lawful_channelId.option.pair (lawful_status.pair
    (lawful_blob.option.pair lawful_word)))).map (fun _ => rfl) (fun _ => rfl)).congr (by simp)

theorem lawful_acknowledgement : acknowledgement.Lawful fun ack =>
    ack.slashAcks.length < UInt64.size ∧
      ∀ token ∈ ack.slashAcks, (Utf8.encode token).length < UInt64.size :=
  ((lawful_word.pair lawful_tokens).map (fun _ => rfl) (fun _ => rfl)).congr (by simp)

theorem lawful_registration : registration.Lawful fun r =>
    r.chain.bytes.length < UInt64.size ∧ (Utf8.encode r.client.name).length < UInt64.size ∧
      r.genesis.length < UInt64.size :=
  (lawful_chainId.pair (lawful_clientId.pair lawful_blob)).map (fun _ => rfl) (fun _ => rfl)

theorem lawful_genesis : genesis.Lawful fun g =>
    (Utf8.encode g.port.name).length < UInt64.size ∧ g.consumers.length < UInt64.size ∧
      ∀ r ∈ g.consumers, r.chain.bytes.length < UInt64.size ∧
        (Utf8.encode r.client.name).length < UInt64.size ∧ r.genesis.length < UInt64.size :=
  ((lawful_portId.pair (lawful_word.pair lawful_registration.list)).map (fun _ => rfl)
    (fun _ => rfl)).congr (by simp)

end Codec

/-! ## The kinds of record -/

/-- The kinds of record that are stored or have a documented form. -/
inductive RecordKind where
  | unbondingEntry
  | entryIds
  | tokens
  | consumerChain
  | acknowledgement
  | registration
  | genesis
  | status
  | clientType
deriving DecidableEq

namespace RecordKind

/-- What records of a kind say. -/
@[reducible]
def Value : RecordKind → Type
  | unbondingEntry => UnbondingEntry
  | entryIds => List EntryId
  | tokens => List String
  | consumerChain => ConsumerChain
  | acknowledgement => MaturityAcknowledgement
  | registration => ConsumerRegistration
  | genesis => ProviderGenesis
  | status => ChannelStatus
  | clientType => ClientType

/-- The form of records of a kind. -/
def codec : (kind : RecordKind) → Codec kind.Value
  | unbondingEntry => Codec.unbondingEntry
  | entryIds => Codec.entryIds
  | tokens => Codec.tokens
  | consumerChain => Codec.consumerChain
  | acknowledgement => Codec.acknowledgement
  | registration => Codec.registration
  | genesis => Codec.genesis
  | status => Codec.status
  | clientType => Codec.clientType

/-- The text's length in bytes is a word. -/
def TextFits (text : String) : Prop := (Utf8.encode text).length < UInt64.size

/-- The list's length is a word. -/
def ListFits {α : Type} (values : List α) : Prop := values.length < UInt64.size

/-- The lengths of all that stands in a registration are words. -/
def RegistrationFits (r : ConsumerRegistration) : Prop :=
  TextFits r.chain.name ∧ TextFits r.client.name ∧ ListFits r.genesis

/-- The lengths of all texts and lists in the value are words. -/
def Fits : (kind : RecordKind) → kind.Value → Prop
  | unbondingEntry, entry =>
    ListFits entry.outstanding ∧ ∀ chain ∈ entry.outstanding, TextFits chain.name
  | entryIds, ids => ListFits ids
  | tokens, queue => ListFits queue ∧ ∀ token ∈ queue, TextFits token
  | consumerChain, c =>
    TextFits c.chain.name ∧ (∀ channel ∈ c.channel, TextFits channel.name) ∧
      ∀ genesis ∈ c.genesis, ListFits genesis
  | acknowledgement, ack => ListFits ack.slashAcks ∧ ∀ token ∈ ack.slashAcks, TextFits token
  | registration, r => RegistrationFits r
  | genesis, g =>
    TextFits g.port.name ∧ ListFits g.consumers ∧ ∀ r ∈ g.consumers, RegistrationFits r
  | status, _ => True
  | clientType, type => ∀ name, type = .other name → TextFits name

/-- The values that fit are the ones that the codec can hold. -/
theorem lawful (kind : RecordKind) : kind.codec.Lawful kind.Fits := by
  cases kind with
  | unbondingEntry =>
    exact Codec.lawful_unbondingEntry.congr (by simp [Fits, ListFits, TextFits, ChainId.bytes])
  | entryIds => exact Codec.lawful_entryIds.congr (by simp [Fits, ListFits])
  | tokens => exact Codec.lawful_tokens
  | consumerChain => exact Codec.lawful_consumerChain
  | acknowledgement => exact Codec.lawful_acknowledgement
  | registration => exact Codec.lawful_registration
  | genesis => exact Codec.lawful_genesis
  | status => exact Codec.lawful_status
  | clientType => exact Codec.lawful_clientType

end RecordKind

/-! ## What a reader can rely on -/

namespace Codec

variable {α : Type}

/-- The form of values is exact and canonical. -/
structure Canonical (codec : Codec α) (fits : α → Prop) : Prop where
  /-- A value is read exactly from the bytes that begin with its form. -/
  read_iff : ∀ (what : String) (bytes : Bytes) (value : α),
    codec.read what bytes = .ok value ↔ fits value ∧ codec.encode value <+: bytes
  /-- Bytes that begin with the form of no value are refused, as contradicting what was written,
  and no others are. -/
  refused_iff : ∀ (what : String) (bytes : Bytes),
    (∃ fault : DecodeFault, codec.read what bytes =
      .error (.invariantViolation s!"undecodable {what} record: {fault.message}")) ↔
      ∀ value, fits value → ¬ codec.encode value <+: bytes
  /-- A value is read back from its form. -/
  read_encode : ∀ (what : String) (value : α), fits value →
    codec.read what (codec.encode value) = .ok value
  /-- The forms of different values are no beginnings of each other. -/
  prefix_free : ∀ a b : α, fits a → fits b → codec.encode a <+: codec.encode b → a = b
  /-- The form of a value that was read is exactly the bytes that reading it took. -/
  encode_decoded : ∀ (bytes : Bytes) (value : α) (rest : Bytes),
    codec.decode bytes = .ok (value, rest) → fits value ∧ codec.encode value ++ rest = bytes

/-- A lawful codec reads a value exactly from the bytes that begin with its form. -/
theorem Lawful.read_iff {codec : Codec α} {fits : α → Prop} (h : codec.Lawful fits)
    {what : String} {bytes : Bytes} {value : α} :
    codec.read what bytes = .ok value ↔ fits value ∧ codec.encode value <+: bytes := by
  rw [read_eq_ok_iff]
  simp only [h.decode_iff, exists_and_left]
  exact and_congr_right fun _ => exists_congr fun _ => eq_comm

/-- Reading fails only with the fault that decoding found. -/
theorem refused_iff_forall_ne {codec : Codec α} {what : String} {bytes : Bytes} :
    (∃ fault : DecodeFault, codec.read what bytes =
      .error (.invariantViolation s!"undecodable {what} record: {fault.message}")) ↔
      ∀ value, codec.read what bytes ≠ .ok value := by
  rw [read]
  cases codec.decode bytes with
  | error fault => exact iff_of_true ⟨fault, rfl⟩ (by simp)
  | ok answer => exact iff_of_false (by simp) fun h => h answer.1 rfl

/-- **The law makes the form exact and canonical.** -/
theorem Canonical.of_lawful {codec : Codec α} {fits : α → Prop} (h : codec.Lawful fits) :
    codec.Canonical fits where
  read_iff _ _ _ := h.read_iff
  refused_iff what bytes := by
    rw [refused_iff_forall_ne]
    simp only [ne_eq, h.read_iff, not_and]
  read_encode what _ hvalue := h.read_encode what hvalue
  prefix_free a b ha hb hprefix := by
    have hread : codec.read "" (codec.encode b) = .ok a := h.read_iff.2 ⟨ha, hprefix⟩
    rw [h.read_encode "" hb] at hread
    exact (Except.ok.inj hread).symm
  encode_decoded bytes value rest hdecode := by
    obtain ⟨hvalue, hbytes⟩ := h.decode_iff.1 hdecode
    exact ⟨hvalue, hbytes.symm⟩

end Codec

/-- **Every kind of record has an exact and canonical form**, for all values whose lengths are
words and for all byte strings. -/
theorem RecordKind.canonical (kind : RecordKind) : kind.codec.Canonical kind.Fits :=
  .of_lawful kind.lawful

/-- Two bytes cannot hold the length of a list. -/
example : RecordKind.entryIds.codec.read "unbonding index" [0xff, 0x01] =
    .error (.invariantViolation
      "undecodable unbonding index record: io error: unexpected end of file") := rfl

end SharedSecurity
