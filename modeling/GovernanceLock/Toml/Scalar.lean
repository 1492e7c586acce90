import GovernanceLock.Toml.DateTime

/-!
This module contains the unquoted values of TOML: dates and times, floats, integers and truth
values, each as the JSON value that stands for it. A date or time is an object with one member that
holds its normalized text; an infinite float and one that is no number are `null`.
-/

namespace GovernanceLock.Toml

def digitRun (isDigit : Char → Bool) : List Char → Attempt (List Char)
  | '_' :: c :: cs => if isDigit c then more [c] (digitRun isDigit cs) else .broken
  | ['_'] => .broken
  | c :: cs => if isDigit c then more [c] (digitRun isDigit cs) else .found [] (c :: cs)
  | [] => .found [] []
where
  more (front : List Char) : Attempt (List Char) → Attempt (List Char)
    | .found digits rest => .found (front ++ digits) rest
    | a => a

def digitRun₁ (isDigit : Char → Bool) : List Char → Attempt (List Char)
  | c :: cs => if isDigit c then digitRun.more [c] (digitRun isDigit cs) else .absent
  | [] => .absent

def sign : List Char → Bool × List Char
  | '-' :: cs => (true, cs)
  | '+' :: cs => (false, cs)
  | cs => (false, cs)

def wholeDigits : List Char → Attempt (List Char)
  | '0' :: cs => .found ['0'] cs
  | cs => digitRun₁ Text.isAsciiDigit cs

structure WrittenFloat where
  negative : Bool
  whole : List Char
  fraction : List Char
  exponent : Option (Bool × List Char)

def required (cs : List Char) : Attempt (List Char) :=
  match digitRun₁ Text.isAsciiDigit cs with
  | .absent => .broken
  | a => a

def exponent : List Char → Attempt (Bool × List Char)
  | 'e' :: cs | 'E' :: cs =>
    let (negative, cs) := sign cs
    (required cs).map (negative, ·)
  | _ => .absent

def floatTail (negative : Bool) (whole : List Char) (cs : List Char) : Attempt WrittenFloat :=
  match exponent cs, cs with
  | .found e cs, _ => .found ⟨negative, whole, [], some e⟩ cs
  | .broken, _ => .broken
  | .absent, '.' :: cs =>
    match required cs with
    | .found fraction cs =>
      match exponent cs with
      | .found e cs => .found ⟨negative, whole, fraction, some e⟩ cs
      | .broken => .broken
      | .absent => .found ⟨negative, whole, fraction, none⟩ cs
    | _ => .broken
  | .absent, _ => .absent

def WrittenFloat.value (w : WrittenFloat) : Float :=
  let mantissa := Text.digitsValue (w.whole ++ w.fraction)
  let e : Int :=
    match w.exponent with
    | some (true, digits) => -Text.digitsValue digits
    | some (false, digits) => Text.digitsValue digits
    | none => 0
  let e := e - w.fraction.length
  let reach : Int := (Nat.toDigits 10 mantissa).length + e
  let magnitude : Float :=
    if mantissa = 0 ∨ reach < -400 then 0
    else if 400 < reach then 1 / 0
    else if 0 ≤ e then Float.ofScientific mantissa false e.toNat
    else Float.ofScientific mantissa true (-e).toNat
  if w.negative then -magnitude else magnitude

def floatJson (f : Float) : Json :=
  if f.isFinite then .number (.double f.toBits) else .null

/--
A float in digits. One that is too large is broken, while one that is too small for its sign to
matter, and one beyond the negative end, is not.
-/
def writtenFloat (cs : List Char) : Attempt Json :=
  let (negative, cs) := sign cs
  match wholeDigits cs with
  | .found whole cs =>
    match floatTail negative whole cs with
    | .found w cs =>
      let f := w.value
      if f.isInf && 0 < f then .broken else .found (floatJson f) cs
    | .broken => .broken
    | .absent => .absent
  | .broken => .broken
  | .absent => .absent

def specialFloat (cs : List Char) : Attempt Json :=
  match (sign cs).2 with
  | 'i' :: 'n' :: 'f' :: cs => .found .null cs
  | 'n' :: 'a' :: 'n' :: cs => .found .null cs
  | _ => .absent

def integerJson (negative : Bool) (magnitude : Nat) (rest : List Char) : Attempt Json :=
  if magnitude < UInt64.size / 2 + (if negative then 1 else 0) then
    .found (.number (.integer (if negative then -magnitude else magnitude))) rest
  else .broken

def basedInteger (base : Nat) (cs : List Char) : Attempt Json :=
  let value? (c : Char) : Option Nat := (Json.Reader.hexDigit? c).filter (· < base)
  match digitRun₁ (fun c => (value? c).isSome) cs with
  | .found digits rest =>
    integerJson false (digits.foldl (fun n c => n * base + (value? c).getD 0) 0) rest
  | _ => .broken

def integer (cs : List Char) : Attempt Json :=
  match cs with
  | '0' :: 'x' :: cs => basedInteger 16 cs
  | '0' :: 'o' :: cs => basedInteger 8 cs
  | '0' :: 'b' :: cs => basedInteger 2 cs
  | cs =>
    let (negative, cs) := sign cs
    match wholeDigits cs with
    | .found digits rest => integerJson negative (Text.digitsValue digits) rest
    | .broken => .broken
    | .absent => .absent

def scalar (cs : List Char) : Reading Json :=
  match cs with
  | 't' :: 'r' :: 'u' :: 'e' :: cs => some (.bool true, cs)
  | 'f' :: 'a' :: 'l' :: 's' :: 'e' :: cs => some (.bool false, cs)
  | cs =>
    ((dateTimeText cs).map dateTimeJson <|> writtenFloat cs <|> specialFloat cs
      <|> integer cs).toReading

end GovernanceLock.Toml
