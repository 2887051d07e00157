/-!
# Kinds of statements and operations on the database

A statement is one of six kinds, `other` being everything that neither reads nor writes rows in one
of the known ways.  An operation is what a caller asks for; each of the first five is for statements
of one kind, a generic query takes every statement, and a stream is a select whose rows are handed
out one by one.
-/

namespace SqlAccess

/-- The kinds of statements. -/
inductive StatementKind where
  | select
  | insert
  | upsert
  | update
  | delete
  | other
deriving DecidableEq, Repr

/-- The name of a kind. -/
def StatementKind.name : StatementKind → String
  | .select => "SELECT"
  | .insert => "INSERT"
  | .upsert => "UPSERT"
  | .update => "UPDATE"
  | .delete => "DELETE"
  | .other => "OTHER"

/-- All kinds. -/
def StatementKind.all : List StatementKind :=
  [.select, .insert, .upsert, .update, .delete, .other]

/-- The kind of a name. -/
def StatementKind.ofName? (name : String) : Option StatementKind :=
  all.find? fun kind => kind.name = name

/-- What a caller asks the database to do. -/
inductive Operation where
  | select
  | insert
  | upsert
  | update
  | delete
  | generic
  | stream
deriving DecidableEq, Repr

/-- The name of an operation. -/
def Operation.name : Operation → String
  | .select => "select"
  | .insert => "insert"
  | .upsert => "upsert"
  | .update => "update"
  | .delete => "delete"
  | .generic => "generic"
  | .stream => "stream"

/-- The kind of statement that an operation is for; a generic query is for all. -/
def Operation.kind? : Operation → Option StatementKind
  | .select => some .select
  | .insert => some .insert
  | .upsert => some .upsert
  | .update => some .update
  | .delete => some .delete
  | .generic => none
  | .stream => some .select

end SqlAccess
