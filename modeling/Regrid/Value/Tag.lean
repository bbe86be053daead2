import Regrid.Value.Number

/-!
Contract: tags read from values.

Owns:
- the forgiving reading of a tag, where case and surrounding blanks do not matter;
- the exact reading of a tag.
-/

namespace Regrid

open Regrid.Text

/-- The upper-case form of a character, as far as the canonical tags can tell:
the two letters outside ASCII whose capital is an ASCII letter are included. -/
def capital (c : Char) : Char :=
  if c = 'ı' then 'I' else if c = 'ſ' then 'S' else c.toUpper

/-- The member of a tag set with the given canonical text. -/
def tagOfText? (τ : Type) [TagFamily τ] (text : String) : Option τ :=
  (TagFamily.members (τ := τ)).find? fun member => tagText member = text

/-- Reads a tag: blanks around it and the case of its letters do not matter. `shown`
quotes a value that is no tag. -/
def readTag {τ : Type} [TagFamily τ] (value : Value)
    (shown : Value → String := Value.shown) : Except Error τ := do
  let written ← value.writable
  match tagOfText? τ (String.ofList ((trim written.toList).map capital)) with
  | some member => return member
  | none =>
    throw (.tagUnknown (TagFamily.family τ) (shown value)
      ((TagFamily.members (τ := τ)).map tagText))

/-- Reads a tag that has to be spelt exactly. -/
def exactTag {τ : Type} [TagFamily τ] : Value → Except Error τ
  | .text s =>
    match tagOfText? τ s with
    | some member => .ok member
    | none => .error .wordUnknown
  | _ => .error .wordUnknown

end Regrid
