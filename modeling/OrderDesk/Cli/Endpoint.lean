import OrderDesk.Host.Basic
import OrderDesk.Text.Numeral

/-!
# `OrderDesk.Cli.Endpoint` — addresses of nodes

A node is reached over HTTP; its address names a scheme and a host, and may name a user, a socket and a
path. The scheme may be left out before the local host and before a numeric host with its socket.

## Contents
- `Endpoint.hostAndSocket`: the two parts of an authority.
- `Endpoint.accepts`: a text can be a node's address.
-/

namespace OrderDesk.Endpoint

/-- Blanks and control characters about an address are passed over. -/
def trimmed (text : List Char) : List Char :=
  let isMargin (c : Char) : Bool := c.toNat ≤ 0x20
  ((text.dropWhile isMargin).reverse.dropWhile isMargin).reverse

/-- Tabs and line ends are passed over everywhere. -/
def isPassedOver (c : Char) : Bool := c == '\t' || c == '\n' || c == '\r'

def isSlash (c : Char) : Bool := c == '/' || c == '\\'

/-- Where the path, the query or the fragment begins. -/
def endsAuthority (c : Char) : Bool := isSlash c || c == '?' || c == '#'

/-- The number of a socket, which may be left empty. -/
def acceptsSocket (digits : List Char) : Bool := (Numeral.read? 10 digits).any (· < 65536)

/-- The part of an authority before the first colon that is not in brackets, and the part behind it. -/
def hostAndSocket (inBrackets : Bool) : List Char → List Char × List Char
  | [] => ([], [])
  | c :: rest =>
    if c = ':' ∧ !inBrackets then ([], rest)
    else
      let inBrackets := c == '[' || inBrackets && c != ']'
      let (host, socket) := hostAndSocket inBrackets rest
      (c :: host, socket)

/-- A user, if there is one, a host, and a socket, if there is one. The user ends with the last sign for
it. -/
def acceptsAuthority (text : List Char) : Bool :=
  let place := (text.reverse.takeWhile (· != '@')).reverse
  let (host, socket) := hostAndSocket false place
  !host.isEmpty && Host.accepts host && acceptsSocket socket

/-- The text behind the scheme, if it is one over which nodes are reached. -/
def behindScheme? (text : List Char) : Option (List Char) :=
  let (scheme, rest) := text.span (· != ':')
  let scheme := scheme.map Char.toLower
  if (scheme = "http".toList ∨ scheme = "https".toList) ∧ !rest.isEmpty then some (rest.drop 1)
  else none

/-- An address of a socket: a numeric host, a colon and a number. -/
def isSocketAddress (text : List Char) : Bool :=
  let (host, socket) := hostAndSocket false text
  !socket.isEmpty && acceptsSocket socket && match host with
    | '[' :: rest => rest.getLast? == some ']' && Ipv6.accepts rest.dropLast
    | host => Ipv4.acceptsQuad 4 host

/-- The text with its scheme, which the local host and addresses of sockets may lack. -/
def withScheme (text : List Char) : List Char :=
  if "localhost:".toList.isPrefixOf text ∨ isSocketAddress text then "http://".toList ++ text
  else text

/-- A text can be a node's address. -/
def accepts (text : String) : Bool :=
  let chars := (trimmed (withScheme text.toList)).filter (!isPassedOver ·)
  match behindScheme? chars with
  | some rest => acceptsAuthority ((rest.dropWhile isSlash).takeWhile (!endsAuthority ·))
  | none => false

end OrderDesk.Endpoint
