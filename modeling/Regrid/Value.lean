import Regrid.Decimal.Layout
import Regrid.Text.Quoted
import Regrid.Value.Moment

/-!
Contract: values whose type is only known when they are read: entries of documents,
attributes of tables, and whatever a caller passes without saying what it is.

Owns:
- the value type and the text of a value, plain and quoted;
- access to items of lists and entries of mappings;
- the values that stand for an absent option.

Does not own: numbers among values, nor where values come from.
-/

namespace Regrid

open Regrid.Text

/-- A value of a document. -/
inductive Value where
  | null
  | bool (b : Bool)
  | int (n : Int)
  | float (x : Float)
  | text (s : String)
  | moment (m : Moment)
  | list (items : List Value)
  | map (entries : List (Value × Value))
  deriving Inhabited

namespace Value

mutual

/-- The text of a value as messages quote it. -/
def shown : Value → String
  | null => "None"
  | bool b => if b then "True" else "False"
  | int n => toString n
  | float x => Decimal.Layout.plain.render x
  | text s => quote s
  | moment m => m.shown
  | list items => "[" ++ ", ".intercalate (shownItems items) ++ "]"
  | map entries => "\x7b" ++ ", ".intercalate (shownEntries entries) ++ "\x7d"

def shownItems : List Value → List String
  | [] => []
  | item :: rest => shown item :: shownItems rest

def shownEntries : List (Value × Value) → List String
  | [] => []
  | entry :: rest => shownEntry entry :: shownEntries rest

def shownEntry : Value × Value → String
  | (key, value) => shown key ++ ": " ++ shown value

end

/-- The text of a value where a text is wanted: a text is itself. -/
def plain : Value → String
  | text s => s
  | moment m => m.text
  | value => shown value

def get? (entries : List (Value × Value)) (key : String) : Option Value :=
  (entries.find? fun entry => match entry.1 with
    | text s => s = key
    | _ => false).map (·.2)

/-- A value that counts as absent where an option is wanted. -/
def isBlankOption : Value → Bool
  | null => true
  | bool b => !b
  | int n => n = 0
  | float x => x == 0.0
  | text s => s.isEmpty
  | moment _ => false
  | list items => items.isEmpty
  | map entries => entries.isEmpty

/-- The value, or the empty text in place of one that counts as absent. -/
def orEmpty (value : Value) : Value := if value.isBlankOption then text "" else value

/-- The mapping with the given texts as keys. -/
def record (entries : List (String × Value)) : Value :=
  map (entries.map fun entry => (text entry.1, entry.2))

def ints (items : List Int) : Value := list (items.map int)

def reals (items : List Float) : Value := list (items.map float)

/-- The items of a list; other values have none. -/
def items : Value → List Value
  | list items => items
  | _ => []

/-- The value under a key of a mapping, if there is one. -/
def field? (key : String) : Value → Option Value
  | map entries => get? entries key
  | _ => none

/-- The value under a key of a mapping, and null where there is none. -/
def field (key : String) (value : Value) : Value := (value.field? key).getD null

end Value

end Regrid
