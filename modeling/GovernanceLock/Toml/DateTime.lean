import GovernanceLock.Json.Basic
import GovernanceLock.Text.Ascii
import GovernanceLock.Toml.Attempt

/-!
This module contains dates and times: as they stand in a document, and as texts that a document
gives for them, which follow laxer rules. What is read is their text in normal form.
-/

namespace GovernanceLock.Toml

def digits? (count : Nat) (cs : List Char) : Reading Nat :=
  let front := cs.take count
  if front.length = count ∧ front.all Text.isAsciiDigit then
    some (Text.digitsValue front, cs.drop count)
  else none

def bounded? (low high : Nat) (cs : List Char) : Reading Nat :=
  (digits? 2 cs).filter fun (n, _) => low ≤ n && n ≤ high

def char? (c : Char) : List Char → Option (List Char)
  | d :: cs => if d = c then some cs else none
  | [] => none

def padded (width n : Nat) : List Char :=
  let text := Nat.toDigits 10 n
  List.replicate (width - text.length) '0' ++ text

def daysIn (year month : Nat) : Nat :=
  if month = 2 then
    if year % 4 = 0 ∧ (year % 100 ≠ 0 ∨ year % 400 = 0) then 29 else 28
  else if month ∈ [4, 6, 9, 11] then 30
  else 31

def afterYear? (year : Nat) (cs : List Char) : Option (List Char × List Char) := do
  let (month, cs) ← bounded? 1 12 cs
  let cs ← char? '-' cs
  let (day, cs) ← bounded? 1 31 cs
  if day ≤ daysIn year month then
    some (padded 4 year ++ '-' :: padded 2 month ++ '-' :: padded 2 day, cs)
  else none

def date (cs : List Char) : Attempt (List Char) :=
  match digits? 4 cs with
  | some (year, '-' :: cs) => .ofReading (afterYear? year cs)
  | _ => .absent

def fractionText (digits : List Char) : List Char :=
  let kept := ((digits.take 9).reverse.dropWhile (· == '0')).reverse
  if kept.isEmpty then [] else '.' :: kept

def secondFraction (cs : List Char) : List Char × List Char :=
  match cs with
  | '.' :: rest =>
    let digits := rest.takeWhile Text.isAsciiDigit
    if digits.isEmpty then ([], cs) else (fractionText digits, rest.dropWhile Text.isAsciiDigit)
  | _ => ([], cs)

def afterHour? (hour : Nat) (cs : List Char) : Option (List Char × List Char) := do
  let (minute, cs) ← bounded? 0 59 cs
  let cs ← char? ':' cs
  let (second, cs) ← bounded? 0 60 cs
  let (fraction, cs) := secondFraction cs
  some (padded 2 hour ++ ':' :: padded 2 minute ++ ':' :: padded 2 second ++ fraction, cs)

def time (cs : List Char) : Attempt (List Char) :=
  match bounded? 0 23 cs with
  | some (hour, ':' :: cs) => .ofReading (afterHour? hour cs)
  | _ => .absent

def afterSign? (sign : Char) (cs : List Char) : Option (List Char × List Char) := do
  let (hour, cs) ← bounded? 0 23 cs
  let cs ← char? ':' cs
  let (minute, cs) ← bounded? 0 59 cs
  let sign := if hour = 0 ∧ minute = 0 then '+' else sign
  some (sign :: padded 2 hour ++ ':' :: padded 2 minute, cs)

def offset : List Char → Attempt (List Char)
  | 'Z' :: cs | 'z' :: cs => .found ['Z'] cs
  | '+' :: cs => .ofReading (afterSign? '+' cs)
  | '-' :: cs => .ofReading (afterSign? '-' cs)
  | _ => .absent

def withOffset (text cs : List Char) : Attempt (List Char) :=
  match offset cs with
  | .found o cs => .found (text ++ o) cs
  | .broken => .broken
  | .absent => .found text cs

def withTime (day cs : List Char) : Attempt (List Char) :=
  match cs with
  | c :: rest =>
    if c = 'T' ∨ c = 't' ∨ c = ' ' then
      match time rest with
      | .found clock rest => withOffset (day ++ 'T' :: clock) rest
      | .broken => .broken
      | .absent => .found day cs
    else .found day cs
  | [] => .found day cs

def dateTimeText (cs : List Char) : Attempt (List Char) :=
  match date cs with
  | .found day cs => withTime day cs
  | .broken => .broken
  | .absent => time cs

/-! ## Texts of dates and times -/

def offsetLimit : Nat := 1440

def givenOffset? : List Char → Option (List Char)
  | [] => some []
  | ['Z'] | ['z'] => some ['Z']
  | sign :: cs => do
    let (hour, cs) ← digits? 2 cs
    let cs ← char? ':' cs
    let (minute, cs) ← digits? 2 cs
    let total := 60 * hour + minute
    if (sign = '+' ∨ sign = '-') ∧ cs.isEmpty ∧ total ≤ offsetLimit then
      let sign := if total = 0 then '+' else sign
      some (sign :: padded 2 (total / 60) ++ ':' :: padded 2 (total % 60))
    else none

def givenTime? (cs : List Char) : Option (List Char × List Char) := do
  let (hour, cs) ← bounded? 0 24 cs
  afterHour? hour (← char? ':' cs)

/--
The normal form of a text that is a date, a time of day, or both. A date without a time may have an
offset too.
-/
def givenDateTime? (cs : List Char) : Option (List Char) :=
  if cs[2]? = some ':' then
    match givenTime? cs with
    | some (clock, []) => some clock
    | _ => none
  else do
    let (year, cs) ← digits? 4 cs
    let (day, cs) ← afterYear? year (← char? '-' cs)
    let (clock, cs) ←
      match cs with
      | c :: rest =>
        if c = 'T' ∨ c = 't' ∨ c = ' ' then
          (givenTime? rest).map fun (clock, rest) => ('T' :: clock, rest)
        else some ([], cs)
      | [] => some ([], [])
    let offset ← givenOffset? cs
    some (day ++ clock ++ offset)

def dateTimeKey : String := "$__toml_private_datetime"

def dateTimeJson (text : List Char) : Json :=
  .object [(dateTimeKey, .string (String.ofList text))]

end GovernanceLock.Toml
