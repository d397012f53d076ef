import OrderDesk.Host.Name
import OrderDesk.Host.Numeric
import OrderDesk.Text.Utf8

/-!
# `OrderDesk.Host.Basic` — hosts

A host is an address of the sixth version in brackets, an address of the fourth version, or a name. A
name whose last label is a number has to be an address.

## Contents
- `Host.percentDecoded`: the bytes behind percent signs.
- `Host.accepts`: a text names a host.
-/

namespace OrderDesk.Host

/-- The byte that two hexadecimal digits write. -/
def byte? (high low : UInt8) : Option UInt8 := do
  let high ← Hex.value? (Char.ofNat high.toNat)
  let low ← Hex.value? (Char.ofNat low.toNat)
  some (UInt8.ofNat (high * 16 + low))

/-- Takes two digits behind a percent sign for a byte. Other percent signs stay. -/
def percentDecoded : Bytes → Bytes
  | first :: high :: low :: rest =>
    match if first = 0x25 then byte? high low else none with
    | some byte => byte :: percentDecoded rest
    | none => first :: percentDecoded (high :: low :: rest)
  | short => short

/-- The last label that is not empty, or the one before an empty one. -/
def decidingLabel (labels : List (List Char)) : List Char :=
  match labels.reverse with
  | [] :: label :: _ => label
  | label :: _ => label
  | [] => []

/-- A name whose last label is a number; a number with a digit too many for its base is one as well. -/
def endsInNumber (labels : List (List Char)) : Bool :=
  let last := decidingLabel labels
  !last.isEmpty && last.all Char.isDigit || (Ipv4.readNumber? last).isSome

/-- The labels of a host make a name or an address. -/
def acceptsLabels (labels : List (List Char)) : Bool :=
  labels != [[]] && (!endsInNumber labels || (Ipv4.read? labels).isSome)

/-- A text names a host. -/
def accepts (text : List Char) : Bool :=
  match text with
  | '[' :: rest =>
    rest.getLast? == some ']' && Ipv6.accepts rest.dropLast
  | text =>
    match (Utf8.decode? (percentDecoded (Utf8.encode (String.ofList text)))).bind
        fun name => HostName.read? name.toList with
    | some labels => acceptsLabels labels
    | none => false

end OrderDesk.Host
