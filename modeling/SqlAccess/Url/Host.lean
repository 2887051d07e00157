import SqlAccess.Url.Domain
import SqlAccess.Url.Ipv6
import SqlAccess.Url.Percent

/-!
# Hosts

The host of an address is a name or an IPv6 address in brackets.  What a name may hold depends on
the scheme.  The web's schemes resolve names, so there a name is decoded, must be one that can be
resolved, and is an IPv4 address if its last label is a number.  Every other scheme takes a name as
it is, in its own case; only characters that cannot be seen are encoded.
-/

namespace SqlAccess.Url

/-- Why an address cannot be read. -/
inductive UrlError where
  /-- There is no scheme. -/
  | noScheme
  | emptyHost
  /-- The name of a web host cannot be resolved. -/
  | unresolvable
  | invalidPort
  | invalidIpv4
  | invalidIpv6
  | invalidCharacter
deriving DecidableEq, Repr

/-- The fault, in words. -/
def UrlError.message : UrlError → String
  | .noScheme => "relative URL without a base"
  | .emptyHost => "empty host"
  | .unresolvable => "invalid international domain name"
  | .invalidPort => "invalid port number"
  | .invalidIpv4 => "invalid IPv4 address"
  | .invalidIpv6 => "invalid IPv6 address"
  | .invalidCharacter => "invalid domain character"

/-- Reads an address in brackets, from what follows the first bracket. -/
def readBracketed (text : List Char) : Except UrlError (List Char) :=
  if text.getLast? = some ']' then
    match readIpv6? text.dropLast with
    | some groups => .ok ('[' :: ipv6Text groups ++ [']'])
    | none => .error .invalidIpv6
  else .error .invalidIpv6

/-! ## Names taken as they are -/

/-- The host of a scheme that takes names as they are. -/
def readHost : List Char → Except UrlError (List Char)
  | '[' :: text => readBracketed text
  | text =>
    if text.any isForbiddenInHost then .error .invalidCharacter else .ok (encodeControls text)

/-! ## Names that are resolved -/

/-- The number that a part of an IPv4 address spells: decimal, or hexadecimal behind `0x`, or octal
behind a zero. -/
def ipv4Number? (part : List Char) : Option Nat :=
  let inBase (base : Nat) (digits : List Char) : Option Nat :=
    if digits.all fun c => (Text.hexValue? c).any (· < base) then
      some (digits.foldl (fun n c => n * base + (Text.hexValue? c).getD 0) 0)
    else none
  match part with
  | [] => none
  | '0' :: 'x' :: digits => inBase 16 digits
  | '0' :: 'X' :: digits => inBase 16 digits
  | '0' :: d :: digits => inBase 8 (d :: digits)
  | digits => inBase 10 digits

/-- The labels of a name, without the empty one behind a closing point. -/
def labels (name : List Char) : List (List Char) :=
  let parts := Text.pieces '.' name
  if parts.getLast? = some [] then parts.dropLast else parts

/-- Whether a name is an IPv4 address because its last label is a number. -/
def endsInNumber (name : List Char) : Bool :=
  match (labels name).getLast? with
  | none => false
  | some label =>
    (!label.isEmpty && label.all Char.isDigit) || (ipv4Number? label).isSome

/-- Whether numbers are the parts of an IPv4 address: all but the last are bytes, and the last fills
what is left of the 32 bits. -/
def areIpv4Parts (numbers : List Nat) : Bool :=
  match numbers.getLast? with
  | none => false
  | some last =>
    last < Nat.pow 256 (5 - numbers.length) && numbers.dropLast.all (· < 256)

/-- Whether a name is the text of an IPv4 address. -/
def isIpv4 (name : List Char) : Bool :=
  let parts := labels name
  parts.length ≤ 4 &&
    match parts.mapM ipv4Number? with
    | some numbers => areIpv4Parts numbers
    | none => false

/-- The host of a web address: a name that can be resolved. -/
def readWebHost : List Char → Except UrlError (List Char)
  | '[' :: text => readBracketed text
  | text =>
    match decode text with
    | .error _ => .error .unresolvable
    | .ok written =>
      match readDomain? written.toList with
      | none => .error .unresolvable
      | some name =>
        if name.isEmpty then .error .emptyHost
        else if endsInNumber name && !isIpv4 name then .error .invalidIpv4
        else .ok name

end SqlAccess.Url
