/-!
# Fields in Order of Arrival

Property bags, catalogs and registries show their entries in the order in which the keys first
arrived, so a table is a list of pairs with distinct keys.  Writing to a present key keeps its
place; a new key goes to the end.

Two removals differ in what they do to the order: `erase` closes the gap, `swapErase` moves the
last entry into it.
-/

namespace ComponentCanvas

/-- A table with string keys in order of arrival. -/
abbrev Fields (α : Type) := List (String × α)

namespace Fields

variable {α : Type}

/-- The keys in order. -/
def keys (fields : Fields α) : List String := fields.map (·.1)

/-- The value of a key. -/
def get? : Fields α → String → Option α
  | [], _ => none
  | (k, v) :: rest, key => if k == key then some v else get? rest key

/-- Whether the key is present. -/
def contains (fields : Fields α) (key : String) : Bool := (get? fields key).isSome

/-- Writes a value: in place if the key is present, else at the end. -/
def insert : Fields α → String → α → Fields α
  | [], key, value => [(key, value)]
  | (k, v) :: rest, key, value =>
    if k == key then (k, value) :: rest else (k, v) :: insert rest key value

/-- Writes all entries of a second table, in its order. -/
def insertAll (fields additions : Fields α) : Fields α :=
  additions.foldl (fun acc entry => insert acc entry.1 entry.2) fields

/-- A table from a list of entries; of two entries with one key the later value and the earlier
place stay. -/
def ofList (entries : List (String × α)) : Fields α := insertAll [] entries

/-- Removes a key and closes the gap. -/
def erase : Fields α → String → Fields α
  | [], _ => []
  | (k, v) :: rest, key => if k == key then rest else (k, v) :: erase rest key

/-- Helper: the rest of a table after its first entry is taken out: the last entry comes first. -/
def fillGap (rest : Fields α) : Fields α :=
  match rest.getLast? with
  | none => []
  | some last => last :: rest.dropLast

/-- Removes a key and moves the last entry into its place. -/
def swapErase : Fields α → String → Fields α
  | [], _ => []
  | (k, v) :: rest, key => if k == key then fillGap rest else (k, v) :: swapErase rest key

/-- Writes a value into a table that is sorted by key. -/
def insertSorted : Fields α → String → α → Fields α
  | [], key, value => [(key, value)]
  | (k, v) :: rest, key, value =>
    if k == key then (k, value) :: rest
    else if key < k then (key, value) :: (k, v) :: rest
    else (k, v) :: insertSorted rest key value

/-- The table sorted by key. -/
def sorted (fields : Fields α) : Fields α :=
  fields.foldl (fun acc entry => insertSorted acc entry.1 entry.2) []

end Fields

/-- Adds a name to an ascending list of distinct names. -/
def insertName : List String → String → List String
  | [], name => [name]
  | n :: rest, name =>
    if n == name then n :: rest
    else if name < n then name :: n :: rest
    else n :: insertName rest name

/-- The distinct names of a list in ascending order. -/
def sortedNames (names : List String) : List String := names.foldl insertName []

end ComponentCanvas
