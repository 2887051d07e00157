import SqlAccess.Text.Quoted

/-!
# Structured data in messages

Settings and other structured data are shown in messages by name: the name of the structure, and in
braces its fields with their values.  A structure may show some of its fields only; two dots then
stand for the others.
-/

namespace SqlAccess.Text

/-- A list, from what its items show. -/
def shownList (items : List String) : String :=
  "[" ++ ", ".intercalate items ++ "]"

/-- An optional datum, from what it shows when it is there. -/
def shownOption : Option String → String
  | none => "None"
  | some item => "Some(" ++ item ++ ")"

/-- A truth value. -/
def shownBool (b : Bool) : String :=
  if b then "true" else "false"

/-- The fields of a structure, each with its name. -/
def shownFields (fields : List (String × String)) : List String :=
  fields.map fun (name, value) => name ++ ": " ++ value

/-- A structure with all its fields. -/
def shownStructure (name : String) (fields : List (String × String)) : String :=
  name ++ " \x7b " ++ ", ".intercalate (shownFields fields) ++ " \x7d"

/-- A structure with some of its fields. -/
def shownPartly (name : String) (fields : List (String × String)) : String :=
  name ++ " \x7b " ++ ", ".intercalate (shownFields fields ++ [".."]) ++ " \x7d"

end SqlAccess.Text
