import SqlAccess.Entries

/-!
# Settings documents

A settings document is a table of named values; tables may stand in tables, and a list of tables may
grow table by table.  What may be added to a table depends on how it came about (`TableOrigin`):

* a header defines a table, once;
* a longer header or a dotted key implies the tables that it passes through;
* a dotted key adds to no table that a header defined, and a header defines no table that a dotted
  key made;
* a table or a list that is written as one value is closed.

The functions of this module add one thing to a document and answer nothing where these rules forbid
it.
-/

namespace SqlAccess

/-- How a table came about. -/
inductive TableOrigin where
  /-- By its own header. -/
  | header
  /-- On the way of a longer header. -/
  | longerHeader
  /-- On the way of a dotted key. -/
  | dottedKey
deriving DecidableEq, Repr

/-- A value of a settings document. -/
inductive Toml where
  | string (s : String)
  | integer (n : Int)
  | bool (b : Bool)
  /-- A word that is no setting, such as a date. -/
  | other
  /-- A list that is written as one value. -/
  | array (items : List Toml)
  /-- A table that is written as one value. -/
  | inline (members : List (String × Toml))
  | table (origin : TableOrigin) (members : List (String × Toml))
  /-- Tables that grow one by one. -/
  | tables (elements : List (List (String × Toml)))

namespace Toml

/-- The members of a table. -/
def members? : Toml → Option (Entries Toml)
  | .inline members => some members
  | .table _ members => some members
  | _ => none

/-- The items of a list. -/
def items? : Toml → Option (List Toml)
  | .array items => some items
  | .tables elements => some (elements.map (.table .header))
  | _ => none

/-! ## Growing a document -/

/-- Changes the last of several tables. -/
def changeLast (f : Entries Toml → Option (Entries Toml)) :
    List (Entries Toml) → Option (List (Entries Toml))
  | [] => none
  | [last] => (f last).map fun last => [last]
  | element :: elements => (changeLast f elements).map (element :: ·)

/-- Changes the table under a name, on the way of a header. -/
def changeUnder (key : String) (f : Entries Toml → Option (Entries Toml)) (members : Entries Toml) :
    Option (Entries Toml) :=
  match members.find? key with
  | none => (f []).map fun inner => members.put key (.table .longerHeader inner)
  | some (.table origin inner) => (f inner).map fun inner => members.put key (.table origin inner)
  | some (.tables elements) =>
    (changeLast f elements).map fun elements => members.put key (.tables elements)
  | some _ => none

/-- Changes the table that a header names. -/
def changeAt (f : Entries Toml → Option (Entries Toml)) :
    (header : List String) → Entries Toml → Option (Entries Toml)
  | [], members => f members
  | key :: header, members => changeUnder key (changeAt f header) members

/-- Defines the table that a header names. -/
def defineTable : (header : List String) → Entries Toml → Option (Entries Toml)
  | [], _ => none
  | [key], members =>
    match members.find? key with
    | none => some (members.put key (.table .header []))
    | some (.table .longerHeader inner) => some (members.put key (.table .header inner))
    | some _ => none
  | key :: header, members => changeUnder key (defineTable header) members

/-- Adds a table to the tables that a header names. -/
def appendTable : (header : List String) → Entries Toml → Option (Entries Toml)
  | [], _ => none
  | [key], members =>
    match members.find? key with
    | none => some (members.put key (.tables [[]]))
    | some (.tables elements) => some (members.put key (.tables (elements ++ [[]])))
    | some _ => none
  | key :: header, members => changeUnder key (appendTable header) members

/-- Puts a value under a dotted key.  `isOpen` tells whether the table may take a value. -/
def assign (value : Toml) : (isOpen : Bool) → (key : List String) → Entries Toml →
    Option (Entries Toml)
  | _, [], _ => none
  | isOpen, [name], members =>
    if isOpen && (members.find? name).isNone then some (members.put name value) else none
  | _, name :: key, members =>
    match members.find? name with
    | none => (assign value true key []).map fun inner => members.put name (.table .dottedKey inner)
    | some (.table .header _) => none
    | some (.table origin inner) =>
      (assign value (origin == .dottedKey) key inner).map fun inner =>
        members.put name (.table origin inner)
    | some (.tables elements) =>
      (changeLast (assign value false key) elements).map fun elements =>
        members.put name (.tables elements)
    | some _ => none

end Toml

end SqlAccess
