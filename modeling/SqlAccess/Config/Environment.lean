/-!
# References to environment variables

Configured text may refer to variables of the environment, as `${NAME}`.  Every reference is
replaced by the value of its variable, from left to right and once only: a value that looks like a
reference is left as it is.  A dollar sign that no brace follows stands for itself.

A reference is everything between `${` and the next closing brace, other dollar signs and braces
included.  It must be closed, must not be empty and must name a variable that is set.
-/

namespace SqlAccess

/-- The values of the variables that are set. -/
abbrev Environment := String → Option String

/-- Why references cannot be replaced. -/
inductive ExpansionError where
  | unterminated (name : String)
  | unnamed
  | unset (name : String)
deriving DecidableEq, Repr

/-- The fault, in words. -/
def ExpansionError.message : ExpansionError → String
  | .unterminated name => "unterminated env var reference: $\x7b" ++ name
  | .unnamed => "invalid env var reference: $\x7b\x7d"
  | .unset name => s!"missing env var for config expansion: {name}"

namespace Environment

/-- The value that a reference to `name` stands for. -/
def resolve (env : Environment) (name : List Char) : Except ExpansionError (List Char) :=
  if name.isEmpty then .error .unnamed
  else
    match env (String.ofList name) with
    | none => .error (.unset (String.ofList name))
    | some value => .ok value.toList

/-- Replaces references.  Inside a reference, `name?` holds what has been read of its name. -/
def expandFrom (env : Environment) :
    (name? : Option (List Char)) → List Char → Except ExpansionError (List Char)
  | none, [] => .ok []
  | none, '$' :: '\x7b' :: text => expandFrom env (some []) text
  | none, c :: text => (expandFrom env none text).map (c :: ·)
  | some name, [] => .error (.unterminated (String.ofList name))
  | some name, c :: text =>
    if c = '\x7d' then do
      let value ← env.resolve name
      let rest ← expandFrom env none text
      .ok (value ++ rest)
    else expandFrom env (some (name ++ [c])) text

/-- The text with every reference replaced. -/
def expand (env : Environment) (s : String) : Except ExpansionError String :=
  (expandFrom env none s.toList).map String.ofList

/-- The texts with every reference replaced, in order. -/
def expandAll (env : Environment) : List String → Except ExpansionError (List String)
  | [] => .ok []
  | s :: texts => do
    let s ← env.expand s
    let texts ← expandAll env texts
    .ok (s :: texts)

end Environment

end SqlAccess
