import OrderDesk.Hex
import OrderDesk.Json.Binary64

/-!
# `OrderDesk.Json.Value` — values exchanged with a node

Object fields are kept in the order of their names, so equal objects are written the same.

## Contents
- `Json`, its constructors for common shapes and `Json.field?`.
- `Json.compact`: the written form, without spaces.
-/

namespace OrderDesk

/-- A value of JSON. -/
inductive Json where
  | null
  | bool (value : Bool)
  /-- A whole number. -/
  | integer (value : Int)
  /-- A number with a fraction, or beyond the whole numbers of 64 bits. -/
  | float (value : Binary64)
  | string (text : String)
  | array (items : List Json)
  | object (fields : List (String × Json))
deriving Inhabited, BEq, Repr

namespace Json

/-- A count. -/
def nat (n : Nat) : Json := integer n

/-- Puts a field where its name belongs; a later field of a name replaces an earlier one. -/
def insertField (name : String) (value : Json) : List (String × Json) → List (String × Json)
  | [] => [(name, value)]
  | (n, v) :: rest =>
    if name < n then (name, value) :: (n, v) :: rest
    else if name = n then (name, value) :: rest
    else (n, v) :: insertField name value rest

/-- An object of the given fields. -/
def ofFields (fields : List (String × Json)) : Json :=
  object (fields.foldl (fun sorted (n, v) => insertField n v sorted) [])

/-- A value, or null for none. -/
def ofOption : Option Json → Json
  | some j => j
  | none => null

/-- The field of an object. -/
def field? (name : String) : Json → Option Json
  | object fields => (fields.find? (·.1 == name)).map (·.2)
  | _ => none

/-- The field of an object; one that is null counts as absent. -/
def present? (name : String) (j : Json) : Option Json :=
  match j.field? name with
  | some null | none => none
  | some value => some value

/-- The text of a string. -/
def text? : Json → Option String
  | string text => some text
  | _ => none

/-- The items of an array. -/
def items? : Json → Option (List Json)
  | array items => some items
  | _ => none

/-- A character inside quotation marks. -/
def escaped (c : Char) : List Char :=
  match c with
  | '"' => ['\\', '"']
  | '\\' => ['\\', '\\']
  | '\x08' => ['\\', 'b']
  | '\t' => ['\\', 't']
  | '\n' => ['\\', 'n']
  | '\x0c' => ['\\', 'f']
  | '\r' => ['\\', 'r']
  | c =>
    if c.toNat < 0x20 then ['\\', 'u', '0', '0', Hex.digit (c.toNat / 16), Hex.digit (c.toNat % 16)]
    else [c]

/-- A text in quotation marks. -/
def quoted (text : String) : String :=
  "\"" ++ String.ofList (text.toList.flatMap escaped) ++ "\""

mutual

/-- The written form of a value, without spaces. -/
def compact : Json → String
  | null => "null"
  | bool true => "true"
  | bool false => "false"
  | integer value => toString value
  | float value => value.text
  | string text => quoted text
  | array items => "[" ++ compactItems items ++ "]"
  | object fields => "\x7b" ++ compactFields fields ++ "\x7d"

/-- The items of an array, with commas between them. -/
def compactItems : List Json → String
  | [] => ""
  | [item] => compact item
  | item :: next :: rest => compact item ++ "," ++ compactItems (next :: rest)

/-- The fields of an object, with commas between them. -/
def compactFields : List (String × Json) → String
  | [] => ""
  | [(name, value)] => quoted name ++ ":" ++ compact value
  | (name, value) :: next :: rest =>
    quoted name ++ ":" ++ compact value ++ "," ++ compactFields (next :: rest)

end

end Json
end OrderDesk
