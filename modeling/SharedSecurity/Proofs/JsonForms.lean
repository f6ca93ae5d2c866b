import Mathlib.Data.List.Basic
import SharedSecurity.Proofs.JsonText
import SharedSecurity.Record.Json

/-!
# The documents of records

`SharedSecurity.Proofs.JsonText` reads values back from their text.  This file reads records back
from their values.

* `Format.Lawful` — a format whose values are plain and are read back, with one lemma for each part
  that records are made of.
* `Format.Finds`, `Format.Lawful.record` — a record is lawful if its fields are, and each is found
  under its name.
* `DocumentKind` — the kinds of document, each with its values and its format, all lawful.
* `documents_roundTrip` — **a record is read back from its document**, and a configuration is
  accepted from its own document exactly if its port has a name.
-/

set_option autoImplicit false
namespace SharedSecurity
namespace Json
namespace Format

variable {α β : Type}

/-- A format that shows values in a readable form and reads each back from its form. -/
structure Lawful (format : Format α) : Prop where
  /-- The form can be read back from its text. -/
  plain : ∀ value, (format.toValue value).Plain
  /-- The value can be read back from its form. -/
  back : ∀ value, format.ofValue? (format.toValue value) = some value

/-- **A value is read back from its document.** -/
theorem Lawful.read?_render {format : Format α} (h : format.Lawful) (value : α) :
    format.read? (format.render value) = some value := by
  rw [read?, render, Value.toText, String.toList_ofList, parse?_write (h.plain value)]
  exact h.back value

/-! ## Parts of records -/

/-- The same form is lawful for another type that it says as much about. -/
theorem Lawful.map {format : Format α} (h : format.Lawful) {forth : β → α} {back : α → β}
    (hback : ∀ value, back (forth value) = value) : (format.map forth back).Lawful where
  plain value := h.plain (forth value)
  back value := by
    show (format.ofValue? (format.toValue (forth value))).map back = some value
    rw [h.back, Option.map_some, hback]

theorem number?_number (n : Nat) : (Value.number n).number? = some n := by
  have hdigits : (Nat.toDigits 10 n).all Char.isDigit = true :=
    List.all_eq_true.2 fun c hc => Nat.isDigit_of_mem_toDigits (by decide) (by decide) hc
  rw [Value.number, Value.number?, if_pos hdigits, Nat.ofDigitChars_ten_toDigits]

/-- Numbers below a bound are lawful for a type that has no others. -/
theorem lawful_numberBelow {bound : Nat} {forth : β → Nat} {back : Nat → β}
    (hbound : ∀ value, forth value < bound) (hback : ∀ value, back (forth value) = value) :
    ((numberBelow bound).map forth back).Lawful where
  plain value := .number (forth value)
  back value := by
    show ((Value.number (forth value)).number?.filter (· < bound)).map back = some value
    simp [number?_number, hbound, hback]

theorem lawful_word : word.Lawful := lawful_numberBelow UInt64.toNat_lt fun _ => UInt64.ofNat_toNat

theorem lawful_byte : byte.Lawful := lawful_numberBelow UInt8.toNat_lt fun _ => UInt8.ofNat_toNat

theorem lawful_bool : bool.Lawful := ⟨.bool, fun _ => rfl⟩

theorem lawful_text : text.Lawful := ⟨.text, Literal.text?_ofText⟩

/-- A value that may be missing is lawful if none that is there looks like one that is missing. -/
theorem Lawful.option {format : Format α} (h : format.Lawful)
    (hnull : ∀ value, format.toValue value ≠ .null) : format.option.Lawful where
  plain
    | none => .null
    | some value => h.plain value
  back
    | none => rfl
    | some value => by
      show format.option.ofValue? (format.toValue value) = some (some value)
      have hback := h.back value
      have hpresent := hnull value
      generalize format.toValue value = form at hback hpresent ⊢
      cases form with
      | null => exact absurd rfl hpresent
      | _ => exact congrArg (Option.map some) hback

theorem mapM_map_of_back {forth : α → β} {back : β → Option α}
    (hback : ∀ value, back (forth value) = some value) (values : List α) :
    (values.map forth).mapM back = some values := by
  induction values with
  | nil => rfl
  | cons value rest ih => simp [hback, ih]

theorem Lawful.list {format : Format α} (h : format.Lawful) : format.list.Lawful where
  plain _ := .array (List.forall_mem_map.2 fun value _ => h.plain value)
  back values := mapM_map_of_back h.back values

/-! ## Records -/

/-- The reader finds a value among named fields. -/
def Finds (reader : FieldReader α) (members : List (String × Value)) (value : α) : Prop :=
  reader.run (.named members) = some (value, .named members)

section Finds

variable {members : List (String × Value)}

theorem finds_pure (value : α) : Finds (pure value) members value := rfl

theorem Finds.bind {reader : FieldReader α} {next : α → FieldReader β} {value : α} {result : β}
    (h : Finds reader members value) (hnext : Finds (next value) members result) :
    Finds (reader >>= next) members result := by
  rw [Finds, StateT.run_bind, h]
  exact hnext

/-- A field that stands once is found, whatever would stand for it otherwise. -/
theorem finds_field {format : Format α} (h : format.Lawful) {name : String}
    {unnamed unlisted : Option α} {value : α}
    (hmember : (members.filter fun member => member.1 == name) = [(name, format.toValue value)]) :
    Finds (format.field name unnamed unlisted) members value := by
  rw [Finds, StateT.run, field, hmember]
  show (format.ofValue? (format.toValue value)).map (·, Fields.named members) = _
  rw [h.back, Option.map_some]

end Finds

/-- **A record is lawful if its reader finds the fields it shows.** -/
theorem Lawful.record {fields : α → List (String × Value)} {reader : FieldReader α}
    (hplain : ∀ value, (fields value).Forall (·.2.Plain))
    (hfinds : ∀ value, Finds reader (fields value) value) : (record fields reader).Lawful where
  plain value := .object (List.forall_iff_forall_mem.1 (hplain value))
  back value := by
    have hnames : ((fields value).map fun field => (Literal.ofText field.1, field.2)).mapM
        (fun member => (Literal.text? member.1).map (·, member.2)) = some (fields value) :=
      mapM_map_of_back (fun field => congrArg (Option.map (·, field.2))
        (Literal.text?_ofText field.1)) _
    show (((fields value).map fun field => (Literal.ofText field.1, field.2)).mapM
      (fun member => (Literal.text? member.1).map (·, member.2))).bind
      (fun named => (reader.run (.named named)).bind fun found => some found.1) = some value
    rw [hnames, Option.bind_some, hfinds value]
    rfl

/-! ## The records of a provider -/

theorem lawful_chainId : chainId.Lawful := .map lawful_text fun _ => rfl

theorem lawful_channelId : channelId.Lawful := .map lawful_text fun _ => rfl

theorem lawful_clientId : clientId.Lawful := .map lawful_text fun _ => rfl

theorem lawful_portId : portId.Lawful := .map lawful_text fun _ => rfl

theorem lawful_blob : blob.Lawful := .list lawful_byte

/-- A text is a choice that carries nothing. -/
theorem choice?_text (name : String) : choice? (.text name) = some (name, none) :=
  congrArg (Option.map (·, none)) (Literal.text?_ofText name)

/-- An object with one member is a choice that carries the member's value. -/
theorem choice?_object (name : String) (form : Value) :
    choice? (.object [(Literal.ofText name, form)]) = some (name, some form) :=
  congrArg (Option.map (·, some form)) (Literal.text?_ofText name)

theorem lawful_status : status.Lawful where
  plain _ := .text _
  back value := by
    have hfind : (ChannelStatus.all.find? fun s => statusChoice s == statusChoice value) =
        some value := by
      cases value <;> decide
    simp [status, choice?_text, carriesNothing, hfind]

theorem lawful_clientType : clientType.Lawful where
  plain
    | .tendermint => .text _
    | .other name => by
      have hmember : ∀ member ∈ [("Other", Value.text name)], member.2.Plain := by
        simpa using .text name
      exact .object hmember
  back
    | .tendermint => by simp [clientType, choice?_text, carriesNothing]
    | .other name => by
      have htext : (Value.text name).text? = some name := Literal.text?_ofText name
      simp [clientType, choice?_object, htext]

theorem lawful_unbondingEntry : unbondingEntry.Lawful := by
  refine .record (fun entry => ?_) fun entry => ?_
  · exact ⟨Lawful.plain lawful_word _, Lawful.plain lawful_word _,
      Lawful.plain (.list lawful_chainId) _⟩
  · exact .bind (finds_field lawful_word rfl) <|
      .bind (finds_field lawful_word rfl) <|
      .bind (finds_field (.list lawful_chainId) rfl) (finds_pure _)

theorem lawful_consumerChain : consumerChain.Lawful := by
  have hchannel := Lawful.option lawful_channelId fun _ => Value.noConfusion
  have hgenesis := Lawful.option lawful_blob fun _ => Value.noConfusion
  refine .record (fun consumer => ?_) fun consumer => ?_
  · exact ⟨Lawful.plain lawful_chainId _, hchannel.plain _, Lawful.plain lawful_status _,
      hgenesis.plain _, Lawful.plain lawful_word _⟩
  · exact .bind (finds_field lawful_chainId rfl) <|
      .bind (finds_field hchannel rfl) <|
      .bind (finds_field lawful_status rfl) <|
      .bind (finds_field hgenesis rfl) <|
      .bind (finds_field lawful_word rfl) (finds_pure _)

theorem lawful_acknowledgement : acknowledgement.Lawful := by
  refine .record (fun ack => ?_) fun ack => ?_
  · exact ⟨Lawful.plain lawful_word _, Lawful.plain (.list lawful_text) _⟩
  · exact .bind (finds_field lawful_word rfl) <|
      .bind (finds_field (.list lawful_text) rfl) (finds_pure _)

theorem lawful_registration : registration.Lawful := by
  refine .record (fun consumer => ?_) fun consumer => ?_
  · exact ⟨Lawful.plain lawful_chainId _, Lawful.plain lawful_clientId _, Lawful.plain lawful_blob _⟩
  · exact .bind (finds_field lawful_chainId rfl) <|
      .bind (finds_field lawful_clientId rfl) <|
      .bind (finds_field lawful_blob rfl) (finds_pure _)

theorem lawful_genesis : genesis.Lawful := by
  refine .record (fun genesis => ?_) fun genesis => ?_
  · exact ⟨Lawful.plain lawful_portId _, Lawful.plain lawful_word _,
      Lawful.plain (.list lawful_registration) _⟩
  · exact .bind (finds_field lawful_portId rfl) <|
      .bind (finds_field lawful_word rfl) <|
      .bind (finds_field (.list lawful_registration) rfl) (finds_pure _)

theorem lawful_providerConfig : providerConfig.Lawful := by
  refine .record (fun config => ?_) fun config => ?_
  · exact ⟨Lawful.plain lawful_portId _, Lawful.plain lawful_bool _, Lawful.plain lawful_bool _⟩
  · exact .bind (finds_field lawful_portId rfl) <|
      .bind (finds_field lawful_bool rfl) <|
      .bind (finds_field lawful_bool rfl) (finds_pure _)

theorem lawful_telemetryConfig : telemetryConfig.Lawful := by
  refine .record (fun config => ?_) fun config => ?_
  · exact ⟨Lawful.plain lawful_text _, Lawful.plain lawful_text _, Lawful.plain lawful_bool _,
      Lawful.plain lawful_bool _, Lawful.plain lawful_text _⟩
  · exact .bind (finds_field lawful_text rfl) <|
      .bind (finds_field lawful_text rfl) <|
      .bind (finds_field lawful_bool rfl) <|
      .bind (finds_field lawful_bool rfl) <|
      .bind (finds_field lawful_text rfl) (finds_pure _)

end Format
end Json

/-! ## The kinds of document -/

open Json (Format)

/-- The kinds of document. -/
inductive DocumentKind where
  | genesis
  | registration
  | acknowledgement
  | unbondingEntry
  | consumerChain
  | providerConfig
  | telemetryConfig
  | clientType
deriving DecidableEq

namespace DocumentKind

/-- What documents of a kind say. -/
@[reducible]
def Value : DocumentKind → Type
  | genesis => ProviderGenesis
  | registration => ConsumerRegistration
  | acknowledgement => MaturityAcknowledgement
  | unbondingEntry => UnbondingEntry
  | consumerChain => ConsumerChain
  | providerConfig => ProviderConfig
  | telemetryConfig => TelemetryConfig
  | clientType => ClientType

/-- The form of documents of a kind. -/
def format : (kind : DocumentKind) → Format kind.Value
  | genesis => Format.genesis
  | registration => Format.registration
  | acknowledgement => Format.acknowledgement
  | unbondingEntry => Format.unbondingEntry
  | consumerChain => Format.consumerChain
  | providerConfig => Format.providerConfig
  | telemetryConfig => Format.telemetryConfig
  | clientType => Format.clientType

theorem lawful_format (kind : DocumentKind) : kind.format.Lawful := by
  cases kind with
  | genesis => exact Format.lawful_genesis
  | registration => exact Format.lawful_registration
  | acknowledgement => exact Format.lawful_acknowledgement
  | unbondingEntry => exact Format.lawful_unbondingEntry
  | consumerChain => exact Format.lawful_consumerChain
  | providerConfig => exact Format.lawful_providerConfig
  | telemetryConfig => exact Format.lawful_telemetryConfig
  | clientType => exact Format.lawful_clientType

end DocumentKind

/-- **Every record is read back from its document**, whatever characters its texts hold and however
large its numbers are.  A configuration is accepted from its own document exactly if its port has a
name. -/
theorem documents_roundTrip :
    (∀ (kind : DocumentKind) (value : kind.Value),
      kind.format.read? (kind.format.render value) = some value) ∧
    ∀ config : ProviderConfig, ProviderConfig.ofJson (Format.providerConfig.render config) =
      if config.port.name = "" then .error .emptyPort else .ok config := by
  refine ⟨fun kind value => kind.lawful_format.read?_render value, fun config => ?_⟩
  have hread := Format.lawful_providerConfig.read?_render config
  rw [ProviderConfig.ofJson, hread]
  rfl

/-- A quote is escaped by a letter, a control character by its number, and no other character. -/
example : Format.clientType.render (.other "\"\x01😀") =
    "\x7b\"Other\":\"\\\"\\u0001😀\"\x7d" := by decide

end SharedSecurity
