import Regrid.Value.Number
import Regrid.Yaml.Cursor

/-!
Contract: moments that are written in YAML documents.

Owns: the days, and the times on them, that a plain text stands for.

A day alone has two digits each for its month and its day. A text of the right form whose
day or time does not exist is refused.
-/

namespace Regrid.Yaml

/-- A run of decimal digits, at least so many and read up to so many, as a number, and what
follows it. -/
def digitRun (least most : Nat) (cs : List Char) : Option (Nat × List Char) :=
  let digits := (cs.take most).takeWhile Char.isDigit
  if digits.length < least then none
  else
    some (digits.foldl (fun value c => 10 * value + (c.toNat - 48)) 0, cs.drop digits.length)

/-- What follows a character. -/
def past (c : Char) : List Char → Option (List Char)
  | first :: rest => if first = c then some rest else none
  | [] => none

/-- What follows the mark between a day and a time: a letter, or blanks. -/
def pastDay (cs : List Char) : Option (List Char) :=
  match cs with
  | 'T' :: rest => some rest
  | 't' :: rest => some rest
  | c :: rest => if isSpace c then some (rest.dropWhile isSpace) else none
  | [] => none

/-- The first six digits of a fraction as millionths, and what follows the fraction. -/
def fraction (cs : List Char) : Nat × List Char :=
  match cs with
  | '.' :: rest =>
    let digits := rest.takeWhile Char.isDigit
    let kept := digits.take 6 ++ List.replicate (6 - digits.length) '0'
    (kept.foldl (fun value c => 10 * value + (c.toNat - 48)) 0, rest.drop digits.length)
  | _ => (0, cs)

/-- The distance from universal time in minutes, where one is given. -/
def zone? (cs : List Char) : Option (Option Int) :=
  match cs with
  | [] => some none
  | _ =>
    match cs.dropWhile isSpace with
    | ['Z'] => some (some 0)
    | sign :: rest => do
      if sign ≠ '+' ∧ sign ≠ '-' then none
      let (hours, rest) ← digitRun 1 2 rest
      let minutes ← match rest with
        | [] => some 0
        | ':' :: rest => do
          let (minutes, rest) ← digitRun 2 2 rest
          if rest.isEmpty then some minutes else none
        | _ => none
      let size : Int := hours * 60 + minutes
      return some (if sign = '-' then -size else size)
    | [] => none

def clock? (cs : List Char) : Option Clock := do
  let (hour, rest) ← digitRun 1 2 cs
  let (minute, rest) ← digitRun 2 2 (← past ':' rest)
  let (second, rest) ← digitRun 2 2 (← past ':' rest)
  let (microsecond, rest) := fraction rest
  return { hour, minute, second, microsecond, offset := ← zone? rest }

def timestamp? (cs : List Char) : Option (Except Error Moment) := do
  let (year, rest) ← digitRun 4 4 cs
  let (month, rest) ← digitRun 1 2 (← past '-' rest)
  let (day, rest) ← digitRun 1 2 (← past '-' rest)
  let clock ← if rest.isEmpty then (if cs.length = 10 then some none else none)
    else (clock? (← pastDay rest)).map some
  let moment : Moment := { year, month, day, clock }
  return if moment.isValid then .ok moment else .error .wordUnknown

end Regrid.Yaml
