import ComponentCanvas.Json.Basic

/-!
# Tables under Construction

A TOML document fills its tables line by line: by the header of a table, by the header of an item
of a list of tables, and by keys with dots.  Each table remembers how it came to be, since a table
is defined once: neither a second header nor dotted keys may define it again.
-/

namespace ComponentCanvas.Toml

/-- How a table came to be. -/
inductive Origin where
  /-- By a header of its own, or as the root. -/
  | defined
  /-- On the way of a header to a table below it. -/
  | passed
  /-- By a dotted key. -/
  | dotted
deriving DecidableEq

mutual

/-- What stands under a key. -/
inductive Entry where
  | value (value : Json)
  | table (table : Table)
  /-- A list of tables, of which the last one is still being filled. -/
  | tables (earlier : List Table) (last : Table)

/-- A table. -/
inductive Table where
  | mk (origin : Origin) (entries : List (String × Entry))

end

namespace Table

/-- How the table came to be. -/
def origin : Table → Origin
  | .mk origin _ => origin

/-- The entries in the order of the document. -/
def entries : Table → Fields Entry
  | .mk _ entries => entries

/-- The table with an entry written. -/
def insert (table : Table) (key : String) (entry : Entry) : Table :=
  .mk table.origin (Fields.insert table.entries key entry)

/-- Changes the table at a path.  Tables that are missing on the way are made with the given
origin; in a list of tables the way leads through the last one.  A dotted key does not lead into a
table that has been defined. -/
def modify (onWay : Origin) (change : Table → Option Table) : List String → Table → Option Table
  | [], table => change table
  | key :: rest, table =>
    match Fields.get? table.entries key with
    | none => do return table.insert key (.table (← modify onWay change rest (.mk onWay [])))
    | some (.table below) =>
      if onWay == .dotted && below.origin == .defined then none
      else do return table.insert key (.table (← modify onWay change rest below))
    | some (.tables earlier last) => do
      return table.insert key (.tables earlier (← modify onWay change rest last))
    | some (.value _) => none

/-- Defines a table in a table, by its header. -/
def define (key : String) (table : Table) : Option Table :=
  match Fields.get? table.entries key with
  | none => some (table.insert key (.table (.mk .defined [])))
  | some (.table (.mk .passed entries)) => some (table.insert key (.table (.mk .defined entries)))
  | _ => none

/-- Starts the next item of a list of tables in a table, by its header. -/
def append (key : String) (table : Table) : Option Table :=
  match Fields.get? table.entries key with
  | none => some (table.insert key (.tables [] (.mk .defined [])))
  | some (.tables earlier last) =>
    some (table.insert key (.tables (earlier ++ [last]) (.mk .defined [])))
  | _ => none

/-- Gives a key in a table its value; `direct` if no dots lead to the table. -/
def assign (direct : Bool) (key : String) (value : Json) (table : Table) : Option Table :=
  if (table.origin == .dotted) == direct || Fields.contains table.entries key then none
  else some (table.insert key (.value value))

/-- Gives a dotted key its value. -/
def assignAt (path : List String) (key : String) (value : Json) (table : Table) : Option Table :=
  table.modify .dotted (assign path.isEmpty key value) path

end Table

mutual

/-- The value of an entry. -/
def Entry.toJson : Entry → Json
  | .value value => value
  | .table table => table.toJson
  | .tables earlier last => .arr (Table.listToJson earlier ++ [last.toJson])

/-- The object of a table. -/
def Table.toJson : Table → Json
  | .mk _ entries => .obj (Entry.fieldsToJson entries)

/-- The objects of tables. -/
def Table.listToJson : List Table → List Json
  | [] => []
  | table :: rest => table.toJson :: Table.listToJson rest

/-- The values of entries. -/
def Entry.fieldsToJson : List (String × Entry) → List (String × Json)
  | [] => []
  | (key, entry) :: rest => (key, entry.toJson) :: Entry.fieldsToJson rest

end

end ComponentCanvas.Toml
