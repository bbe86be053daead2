import Regrid.Value.Number

/-!
Contract: tables of entities under integer keys.

Owns:
- entries in insertion order with the largest key and the extent of the key space;
- the admission of a key, insertion, restriction and the fixing of the extent;
- the order by key.

The extent counts the whole domain, of which the table may hold a part. Until it
is fixed it is one more than the largest key.
-/

namespace Regrid

/-- Entries in insertion order; `top` is the largest key and `-1` without entries. -/
structure Table (ι : Type) where
  entries : List (Int × ι) := []
  top : Int := -1
  fixedExtent : Option Int := none
  deriving Repr

namespace Table

variable {ι κ : Type}

def empty : Table ι := {}

instance : Inhabited (Table ι) := ⟨empty⟩

/-- The keys in insertion order. -/
def keys (table : Table ι) : List Int := table.entries.map (·.1)

/-- The entities in insertion order. -/
def items (table : Table ι) : List ι := table.entries.map (·.2)

def size (table : Table ι) : Nat := table.entries.length

def get? (table : Table ι) (key : Int) : Option ι :=
  (table.entries.find? fun entry => entry.1 == key).map (·.2)

def contains (table : Table ι) (key : Int) : Bool := table.entries.any fun entry => entry.1 == key

/-- The entity under a key that has to be in use. -/
def get (table : Table ι) (key : Int) : Except Error ι :=
  match table.get? key with
  | some item => .ok item
  | none => .error (.keyAbsent (toString key))

/-- The key in use that a value equals. -/
def member? (table : Table ι) (value : Value) : Except Error (Option Int) := do
  return (← value.integerKey?).filter table.contains

/-- The entity under the key that a value equals, which has to be in use. -/
def getAt (table : Table ι) (value : Value) : Except Error ι := do
  match ← table.member? value with
  | some key => table.get key
  | none => .error (.keyAbsent value.shown)

/-- The size of the whole key space. -/
def extent (table : Table ι) : Int := table.fixedExtent.getD (table.top + 1)

/-- The key that an entity without one gets. -/
def nextKey (table : Table ι) : Int := table.top + 1

/-- Checks that a key may be used: it is natural, inside a fixed extent and new. -/
def checkKey (kind : EntityKind) (table : Table ι) (key : Int) : Except Error Unit :=
  if key < 0 then .error (.negativeIndex kind key)
  else
    match table.fixedExtent with
    | some extent =>
      if extent ≤ key then .error (.beyondExtent kind key extent)
      else if table.contains key then .error (.repeatedIndex kind key)
      else .ok ()
    | none => if table.contains key then .error (.repeatedIndex kind key) else .ok ()

def push (table : Table ι) (key : Int) (item : ι) : Table ι :=
  { table with entries := table.entries ++ [(key, item)], top := max table.top key }

/-- The table with every entity replaced. -/
def map (f : ι → κ) (table : Table ι) : Table κ :=
  ⟨table.entries.map fun entry => (entry.1, f entry.2), table.top, table.fixedExtent⟩

/-- The entries by ascending key. -/
def sorted (table : Table ι) : List (Int × ι) :=
  table.entries.mergeSort fun first second => decide (first.1 ≤ second.1)

/-- The entities by ascending key. -/
def sortedItems (table : Table ι) : List ι := table.sorted.map (·.2)

/-- The largest key of a list, and `-1` for none. -/
def topOf (keys : List Int) : Int := keys.foldl max (-1)

/-- Fixes the extent at what it is. -/
def freeze (table : Table ι) : Table ι := { table with fixedExtent := some table.extent }

/-- Keeps the entries whose key passes a test; the extent stays. -/
def restrict (keep : Int → Bool) (table : Table ι) : Table ι :=
  let kept := table.entries.filter fun entry => keep entry.1
  { table with entries := kept, top := topOf (kept.map (·.1)) }

/-- Fixes the extent at a size that covers every key in use. A size that is no integer
is compared as it is and then loses its fraction. -/
def fixExtent (kind : EntityKind) (extent : Value) (table : Table ι) :
    Except Error (Table ι) := do
  if ← extent.isBelow (.int 0) then throw (.negativeExtent kind extent.plain)
  if ← extent.isAtMost (.int table.top) then
    throw (.extentTooSmall kind extent.plain table.top)
  return { table with fixedExtent := some (← extent.toInteger) }

end Table

end Regrid
