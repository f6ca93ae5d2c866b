import SharedSecurity.Event
import SharedSecurity.Telemetry.Config
import SharedSecurity.Text.Alphanumeric

/-!
# Log filters

A filter says which events reach the log.  It is a list of directives, each a threshold for the
targets that begin with a given text, or for all targets.

* `Filter.parse?` — reads a filter: directives with commas between them.  A directive is a level, a
  target, or a target with a level after an equals sign; a target alone lets everything through.
  Targets hold any characters, blanks included, but begin with a letter, a number, a hyphen, a
  colon or an underscore.  Blanks may stand before a directive, where they are part of its target,
  but not if it has a level.
* `Filter.add` — a filter lists the directive with the longest target first, so that the most
  specific one decides; a later directive for a target replaces an earlier one.
* `Filter.enables` — whether an event of a level and target reaches the log.
* `Filter.ofEnvironment?` — the filter of a process: the one in its environment if that can be read,
  or else the configured one.
-/

set_option autoImplicit false
namespace SharedSecurity

/-- The gravest level is one, the finest five. -/
def Level.rank : Level → Nat
  | .error => 1
  | .warn => 2
  | .info => 3
  | .debug => 4
  | .trace => 5

/-- The finest level that is let through; `none` if none is. -/
abbrev Threshold := Option Level

namespace Threshold

/-- The thresholds by rank, nothing let through at zero. -/
def byRank : List Threshold :=
  [none, some .error, some .warn, some .info, some .debug, some .trace]

/-- The name of a threshold. -/
def name : Threshold → String
  | none => "off"
  | some .error => "error"
  | some .warn => "warn"
  | some .info => "info"
  | some .debug => "debug"
  | some .trace => "trace"

/-- The digits of a numeral that may begin with a plus sign. -/
def unsigned : List Char → List Char
  | '+' :: digits => digits
  | text => text

/-- The threshold a text names, in any case or by its rank. -/
def parse? (text : List Char) : Option Threshold :=
  let digits := unsigned text
  if !digits.isEmpty && digits.all Char.isDigit then byRank[Nat.ofDigitChars 10 digits 0]?
  else
    let lower := String.ofList (text.map TelemetryConfig.lowerAscii)
    byRank.find? fun threshold => name threshold == lower

/-- Whether a level is let through. -/
def enables (threshold : Threshold) (level : Level) : Bool :=
  match threshold with
  | none => false
  | some finest => level.rank ≤ finest.rank

end Threshold

/-- A threshold for the targets that begin with a text, or for all targets. -/
structure Directive where
  /-- The text targets begin with. -/
  target : Option String
  /-- What is let through of them. -/
  threshold : Threshold
deriving DecidableEq

namespace Directive

/-- The text of a directive. -/
def text (directive : Directive) : String :=
  match directive.target with
  | none => directive.threshold.name
  | some target => target ++ "=" ++ directive.threshold.name

/-- Whether a directive may begin with a character. -/
def isStart (c : Char) : Bool := Text.isAlphanumeric c || c == '-' || c == ':' || c == '_'

/-- Whether a text begins like a directive, apart from blanks before it. -/
def startsPlain (text : List Char) : Bool := (text.dropWhile Text.isBlank).head?.any isStart

/-- Reads a directive without a level of its own. -/
def parseWhole (text : List Char) : Directive :=
  match Threshold.parse? text with
  | some threshold => ⟨none, threshold⟩
  | none => ⟨some (String.ofList text), some .trace⟩

/-- Reads the level of a target.  An empty one lets everything through. -/
def parseLevel? (text : List Char) : Option Threshold :=
  if text.isEmpty then some (some .trace) else Threshold.parse? text

/-- Reads a directive.  A bracket would name a span, and spans cannot be chosen here. -/
def parse? (text : List Char) : Option Directive :=
  if !startsPlain text || text.contains '[' then none
  else match text.span (· != '=') with
    | (whole, []) => some (parseWhole whole)
    | (target, _ :: level) =>
      if target.head?.any Text.isBlank then none
      else (parseLevel? level).map fun threshold => ⟨some (String.ofList target), threshold⟩

/-- Whether a directive is for a target. -/
def isFor (directive : Directive) (target : String) : Bool :=
  match directive.target with
  | none => true
  | some beginning => beginning.toList.isPrefixOf target.toList

/-- How the targets of two directives compare: a longer one comes first, of two of one length the
one later in byte order, and the directive for all targets comes last. -/
def orderTargets : Option String → Option String → Ordering
  | none, none => .eq
  | none, some _ => .gt
  | some _, none => .lt
  | some a, some b =>
    let a := Utf8.encode a
    let b := Utf8.encode b
    if b.length < a.length then .lt
    else if a.length < b.length then .gt
    else Bytes.order b a

end Directive

/-- Directives, the most specific first. -/
abbrev Filter := List Directive

namespace Filter

/-- A filter with one more directive, which replaces one for the same target. -/
def add (directive : Directive) : Filter → Filter
  | [] => [directive]
  | first :: rest =>
    match Directive.orderTargets directive.target first.target with
    | .lt => directive :: first :: rest
    | .eq => directive :: rest
    | .gt => first :: add directive rest

/-- The parts of a text between commas. -/
def splitCommas : List Char → List (List Char)
  | [] => [[]]
  | c :: rest =>
    if c = ',' then [] :: splitCommas rest
    else match splitCommas rest with
      | part :: parts => (c :: part) :: parts
      | [] => [[c]]

/-- Reads a filter.  Empty parts are passed over. -/
def parse? (text : String) : Option Filter := do
  let parts := (splitCommas text.toList).filter fun part => !part.isEmpty
  let directives ← parts.mapM Directive.parse?
  some (directives.foldl (fun filter directive => filter.add directive) [])

/-- The text of a filter. -/
def text (filter : Filter) : String := ",".intercalate (filter.map Directive.text)

/-- Whether an event of a level and target reaches the log. -/
def enables (filter : Filter) (level : Level) (target : String) : Bool :=
  match filter.find? fun directive => directive.isFor target with
  | some directive => directive.threshold.enables level
  | none => false

/-- The filter of a process. -/
def ofEnvironment? (env : Environment) (config : TelemetryConfig) : Option Filter :=
  ((env "RUST_LOG").bind parse?).orElse fun _ => parse? config.logLevel

end Filter
end SharedSecurity
