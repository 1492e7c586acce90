import GovernanceLock.Text.Alphanumeric
import GovernanceLock.Text.Ascii
import GovernanceLock.Text.Blank
import GovernanceLock.Text.Parts

/-!
This module contains the filters of a journal. A filter consists of directives; of those that
concern a part of the program, the most specific one says from which level on the entries of that
part are shown.
-/

namespace GovernanceLock.CommandLine.Journal

inductive Level where
  | trace
  | debug
  | info
  | warn
  | error
  deriving DecidableEq

namespace Level

def rank : Level → Nat
  | trace => 0
  | debug => 1
  | info => 2
  | warn => 3
  | error => 4

def label : Level → String
  | trace => "TRACE"
  | debug => "DEBUG"
  | info => " INFO"
  | warn => " WARN"
  | error => "ERROR"

end Level

inductive Part where
  | commands
  | trust
  | discovery
  | activation
  | resolution
  | guard
  | pipeline
  deriving DecidableEq

def Part.name : Part → String
  | commands => "packlock::commands"
  | trust => "packlock_core::trust"
  | discovery => "packlock_core::discovery"
  | activation => "packlock_core::activation"
  | resolution => "packlock_core::resolve"
  | guard => "packlock_core::concurrency"
  | pipeline => "packlock_core::pipeline"

abbrev Threshold := Option Level

namespace Threshold

def admits (threshold : Threshold) (level : Level) : Bool :=
  threshold.any (·.rank ≤ level.rank)

def ofNumber? (word : List Char) : Option Threshold :=
  let digits := if word.head? = some '+' then word.drop 1 else word
  if digits.isEmpty || !digits.all Text.isAsciiDigit then none
  else
    match Text.digitsValue digits with
    | 0 => some none
    | 1 => some (some .error)
    | 2 => some (some .warn)
    | 3 => some (some .info)
    | 4 => some (some .debug)
    | 5 => some (some .trace)
    | _ => none

def ofWord? (word : List Char) : Option Threshold :=
  match String.ofList (word.map Text.asciiLower) with
  | "off" => some none
  | "error" => some (some .error)
  | "warn" => some (some .warn)
  | "info" => some (some .info)
  | "debug" => some (some .debug)
  | "trace" => some (some .trace)
  | _ => ofNumber? word

end Threshold

inductive Scope where
  | all
  /-- Those that have a field of this name. -/
  | field (name : List Char)
  /-- Those that are made inside a span, or have a field of a certain value. There are none. -/
  | span
  deriving DecidableEq

def messageField : String := "message"

/--
A directive: what the names of the parts start with that it concerns, and from which level on their
entries are shown.
-/
structure Directive where
  target : Option (List Char)
  scope : Scope
  threshold : Threshold
  deriving DecidableEq

namespace Directive

def concerns (d : Directive) (part : Part) : Bool :=
  d.target.all (·.isPrefixOf part.name.toList) &&
    match d.scope with
    | .all => true
    | .field name => name == messageField.toList
    | .span => false

def isAsSpecific (d e : Directive) : Bool :=
  let targetLength (d : Directive) := (d.target.map (·.length + 1)).getD 0
  let fieldCount (d : Directive) := if d.scope = .all then 0 else 1
  targetLength e < targetLength d
    || (targetLength e == targetLength d && fieldCount e ≤ fieldCount d)

abbrev Places := List (Char × Char)

namespace Places

def kept (places : Places) : List Char :=
  places.map Prod.snd

def cut? (marks : List Char) : Places → Option (Places × Char × Places)
  | [] => none
  | p :: places =>
    if p.1 ∈ marks then some ([], p.1, places)
    else (cut? marks places).map fun (before, mark, behind) => (p :: before, mark, behind)

end Places

def level? (places : Places) (rest : List Char) : Option Threshold :=
  let word := places.kept ++ rest
  if word.isEmpty then some (some .trace) else Threshold.ofWord? word

def scoped? (target : Option (List Char)) (scope : Scope) (places : Places) (rest : List Char) :
    Option Directive :=
  match places with
  | [] => some ⟨target, scope, some .trace⟩
  | ('=', _) :: places => (level? places rest).map (⟨target, scope, ·⟩)
  | _ => none

def bracketed? (target : Option (List Char)) (places : Places) (rest : List Char) :
    Option Directive :=
  match places.cut? [']', '\x7b'] with
  | some (_, ']', places) => scoped? target .span places rest
  | some (span, _, places) =>
    match places.cut? ['\x7d'] with
    | some (field, _, (']', _) :: places) =>
      if field.isEmpty then none
      else if span.isEmpty ∧ '=' ∉ field.kept then
        scoped? target (.field field.kept) places rest
      else scoped? target .span places rest
    | _ => none
  | none => none

def isStart (c : Char) : Bool :=
  c == '-' || c == ':' || c == '_' || Text.isAlphanumeric c

/--
The directive that a text denotes: a level, the start of the names of some parts, or both, with a
scope between them. The blanks around the text count as places of its pieces, but not of its marks.
-/
def parse? (text : List Char) : Option Directive :=
  let places : Places := (Text.trim text).zip text
  let rest := text.drop places.length
  match places with
  | [] => none
  | ('[', _) :: places => bracketed? none places rest
  | (c, _) :: _ =>
    if !isStart c then none
    else
      match places.cut? ['=', '['] with
      | some (target, '=', places) => (level? places rest).map (⟨some target.kept, .all, ·⟩)
      | some (target, _, places) => bracketed? (some target.kept) places rest
      | none =>
        match Threshold.ofWord? text with
        | some threshold => some ⟨none, .all, threshold⟩
        | none => some ⟨some text, .all, some .trace⟩

end Directive

structure Filter where
  directives : List Directive
  deriving DecidableEq

namespace Filter

def parse? (text : String) : Option Filter :=
  (((Text.parts ',' text.toList).filter (!·.isEmpty)).mapM Directive.parse?).map Filter.mk

def ofLevel (level : Level) : Filter :=
  ⟨[⟨none, .all, some level⟩]⟩

def deciding? (f : Filter) (part : Part) : Option Directive :=
  (f.directives.filter (·.concerns part)).foldl
    (fun best d => if best.all d.isAsSpecific then some d else best) none

def shows (f : Filter) (part : Part) (level : Level) : Bool :=
  (f.deciding? part).any (·.threshold.admits level)

end Filter

end GovernanceLock.CommandLine.Journal
