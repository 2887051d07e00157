import SqlAccess.Number.Integer
import SqlAccess.Url.Host

/-!
# Addresses

An address names a scheme, and behind two slashes who connects to which host and port; a path, a
query and a fragment follow.  `Address.read` takes an address apart from left to right:

* blanks and control characters around the address, and tabs and line breaks inside it, do not
  count;
* the user part ends at the last `@` before the path, and its password starts at its first colon;
* a user part that is not empty needs a host, and so does a port;
* in a path, `.` and `..` are resolved, also in their encoded forms.

User, password and path are kept encoded, because what they decode to need not be text.

The schemes of the web and of files know more rules about hosts than the others do.
-/

namespace SqlAccess.Url

/-- An address, taken apart. -/
structure Address where
  scheme : String
  /-- The encoded name of the user. -/
  user : List Char
  /-- The encoded password. -/
  password : List Char
  /-- The host, unless there is none. -/
  host : Option String
  /-- The port, if it is named. -/
  port : Option UInt16
  /-- The encoded path. -/
  path : List Char
  /-- The encoded query, empty if there is none. -/
  query : List Char

/-! ## Schemes -/

/-- The families of schemes. -/
inductive SchemeFamily where
  | web
  | file
  | other
deriving DecidableEq, Repr

/-- The family of a scheme. -/
def SchemeFamily.ofScheme (scheme : String) : SchemeFamily :=
  if ["http", "https", "ws", "wss", "ftp"].contains scheme then .web
  else if scheme = "file" then .file
  else .other

/-- Whether a backslash is as good as a slash. -/
def SchemeFamily.hasBackslash : SchemeFamily → Bool
  | .other => false
  | _ => true

/-- A letter, digit or mark that a scheme may hold behind its first letter. -/
def isSchemeChar (c : Char) : Bool :=
  c.isAlphanum || c == '+' || c == '-' || c == '.'

/-- The scheme in lower case, and what follows its colon. -/
def readScheme? (text : List Char) : Option (String × List Char) :=
  if text.head?.any Char.isAlpha then
    match text.dropWhile isSchemeChar with
    | ':' :: rest => some (String.ofList ((text.takeWhile isSchemeChar).map Char.toLower), rest)
    | _ => none
  else none

/-! ## User, host and port -/

/-- Whether a character ends the part between the slashes and the path. -/
def endsAuthority (family : SchemeFamily) (c : Char) : Bool :=
  c == '/' || c == '?' || c == '#' || (family.hasBackslash && c == '\\')

/-- Splits at the last `@`: what is before it, if there is one, and what is after it. -/
def splitAtLastAt : List Char → Option (List Char) × List Char
  | [] => (none, [])
  | c :: text =>
    match splitAtLastAt text with
    | (some before, after) => (some (c :: before), after)
    | (none, after) => if c = '@' then (some [], after) else (none, c :: after)

/-- Name and password of a user part. -/
def splitUser (text : List Char) : List Char × List Char :=
  match Text.splitAtMark? [':'] text with
  | some (user, password) => (user, password)
  | none => (text, [])

/-- Splits a host from what follows it: a colon outside brackets ends it. -/
def splitHost (inBrackets : Bool) : List Char → List Char × List Char
  | [] => ([], [])
  | c :: text =>
    if c = ':' ∧ !inBrackets then ([], c :: text)
    else
      let inside := if c = '[' then true else if c = ']' then false else inBrackets
      let (host, rest) := splitHost inside text
      (c :: host, rest)

/-- Reads a port behind its colon, up to a character that may follow it.  No digits name no port. -/
def readPort (text : List Char) : Except UrlError (Option UInt16 × List Char) :=
  let digits := text.takeWhile Char.isDigit
  let rest := text.dropWhile Char.isDigit
  let ends := match rest with
    | [] => true
    | c :: _ => c == '/' || c == '\\' || c == '?' || c == '#'
  if digits.isEmpty then
    if ends then .ok (none, rest) else .error .invalidPort
  else
    match (IntegerRange.unsigned 16).read digits with
    | .error _ => .error .invalidPort
    | .ok n => if ends then .ok (some (UInt16.ofNat n.toNat), rest) else .error .invalidPort

/-- Reads the port that may follow a host. -/
def readPortAfter : List Char → Except UrlError (Option UInt16 × List Char)
  | ':' :: text => readPort text
  | text => .ok (none, text)

/-- The host of a scheme, empty where the scheme allows it. -/
def readHostOf (family : SchemeFamily) (text : List Char) : Except UrlError (List Char) :=
  match family with
  | .other => readHost text
  | _ => if text.isEmpty then .error .emptyHost else readWebHost text

/-- Who connects where. -/
structure Authority where
  user : List Char
  password : List Char
  host : Option String
  port : Option UInt16

/-- Reads an authority up to the path, and answers the path with it. -/
def readAuthority (family : SchemeFamily) (text : List Char) :
    Except UrlError (Authority × List Char) := do
  let before := text.takeWhile fun c => !endsAuthority family c
  let after := text.dropWhile fun c => !endsAuthority family c
  let (userPart?, hostPart) := splitAtLastAt before
  if userPart? = some [] ∧ hostPart = [] ∧ after ≠ [] then .error .emptyHost
  else
    let (user, password) := splitUser (userPart?.getD [])
    let (hostText, afterHost) := splitHost false hostPart
    let host ← readHostOf family hostText
    if host.isEmpty ∧ afterHost ≠ [] then .error .emptyHost
    else
      let (port, rest) ← readPortAfter (afterHost ++ after)
      if host.isEmpty ∧ (user ≠ [] ∨ password ≠ []) then .error .emptyHost
      else
        let host := if host.isEmpty then none else some (String.ofList host)
        .ok (⟨user, password, host, port⟩, rest)

/-! ## Paths -/

/-- A segment with its encoded points decoded. -/
def withPoints : List Char → List Char
  | [] => []
  | '%' :: '2' :: e :: text =>
    if e = 'e' ∨ e = 'E' then '.' :: withPoints text else '%' :: '2' :: withPoints (e :: text)
  | c :: text => c :: withPoints text

/-- The segment that stays where it is. -/
def isHere (segment : List Char) : Bool := withPoints segment == ['.']

/-- The segment that goes up. -/
def isUp (segment : List Char) : Bool := withPoints segment == ['.', '.']

/-- A segment that names a drive; no segment goes up across it. -/
def isDrive : List Char → Bool
  | letter :: mark :: rest =>
    letter.isAlpha && (mark == ':' || mark == '|') && (rest.isEmpty || rest.head? == some '\\')
  | _ => false

/-- The directories of a path after going up, `dirs` being in reverse. -/
def goUp : List (List Char) → List (List Char)
  | [] => []
  | dir :: dirs => if isDrive dir then dir :: dirs else dirs

/-- Resolves segments below the directories `dirs`, which are in reverse. -/
def resolve (dirs : List (List Char)) : List (List Char) → List (List Char)
  | [] => dirs.reverse
  | [segment] =>
    if isUp segment then ([] :: goUp dirs).reverse
    else if isHere segment then ([] :: dirs).reverse
    else (segment :: dirs).reverse
  | segment :: segments =>
    if isUp segment then resolve (goUp dirs) segments
    else if isHere segment then resolve dirs segments
    else resolve (segment :: dirs) segments

/-- The path of segments. -/
def pathOf (segments : List (List Char)) : List Char :=
  segments.flatMap fun segment => '/' :: segment

/-- The resolved path of what follows an authority. -/
def readPath : List Char → List Char
  | [] => []
  | '/' :: text => pathOf (resolve [] (Text.pieces '/' text))
  | text => pathOf (resolve [] (Text.pieces '/' text))

/-- Splits a path from the query behind it; a fragment does not count. -/
def splitQuery (text : List Char) : List Char × List Char :=
  let text := text.takeWhile (· ≠ '#')
  (text.takeWhile (· ≠ '?'), (text.dropWhile (· ≠ '?')).drop 1)

/-! ## Whole addresses -/

/-- The address behind its scheme and two slashes. -/
def readBehindSlashes (scheme : String) (family : SchemeFamily) (text : List Char) :
    Except UrlError Address := do
  let (authority, rest) ← readAuthority family text
  let (path, query) := splitQuery rest
  .ok { scheme
        user := authority.user
        password := authority.password
        host := authority.host
        port := authority.port
        path := readPath path
        query }

/-- An address without authority. -/
def withoutAuthority (scheme : String) (text : List Char) : Address :=
  let (path, query) := splitQuery text
  { scheme, user := [], password := [], host := none, port := none, path, query }

/-- The address of a file: two slashes may name a host, which has no port and no user. -/
def readFileUrl (scheme : String) (text : List Char) : Except UrlError Address :=
  match text.span fun c => c == '/' || c == '\\' with
  | ([_, _], rest) => do
    let host := rest.takeWhile fun c => !endsAuthority .file c
    if host.isEmpty ∨ (host.length = 2 ∧ isDrive host) then .ok (withoutAuthority scheme rest)
    else
      let name ← readWebHost host
      .ok { withoutAuthority scheme (rest.dropWhile fun c => !endsAuthority .file c) with
            host := some (String.ofList name) }
  | _ => .ok (withoutAuthority scheme text)

/-- The address behind its scheme. -/
def readBehindScheme (scheme : String) (text : List Char) : Except UrlError Address :=
  match SchemeFamily.ofScheme scheme with
  | .web => readBehindSlashes scheme .web (text.dropWhile fun c => c == '/' || c == '\\')
  | .file => readFileUrl scheme text
  | .other =>
    match text with
    | '/' :: '/' :: rest => readBehindSlashes scheme .other rest
    | _ => .ok (withoutAuthority scheme text)

/-- A control character or a space. -/
def isEdge (c : Char) : Bool := c ≤ ' '

/-- The characters of an address that count. -/
def significant (text : List Char) : List Char :=
  let front := text.dropWhile isEdge
  let inner := (front.reverse.dropWhile isEdge).reverse
  inner.filter fun c => !(c == '\t' || c == '\n' || c == '\r')

/-- Reads an address. -/
def Address.read (s : String) : Except UrlError Address :=
  match readScheme? (significant s.toList) with
  | none => .error .noScheme
  | some (scheme, rest) => readBehindScheme scheme rest

end SqlAccess.Url
