import OrderDesk.Text.Codepoint
import OrderDesk.Text.Numeral

/-!
# `OrderDesk.Toml.Text` — keys and strings of a settings document

Each reader takes characters from the front of a text and hands on the rest.

## Contents
- `Toml.readString`: any of the four forms of a string.
- `Toml.readKey`: a key, possibly dotted.
- `Toml.skipSpace`, `Toml.skipLayout`: what may stand between tokens.
-/

namespace OrderDesk.Toml

/-- Spaces and tabs. -/
def isSpace (c : Char) : Bool := c == ' ' || c == '\t'

/-- A character of a comment or a string: no control character but a tab. -/
def isText (c : Char) : Bool := c == '\t' || (0x20 ≤ c.toNat && c.toNat != 0x7f)

/-- Leaves out spaces and tabs. -/
def skipSpace (text : List Char) : List Char := text.dropWhile isSpace

/-- The end of a line, or of the text. -/
def endOfLine? : List Char → Option (List Char)
  | [] => some []
  | '\n' :: rest | '\r' :: '\n' :: rest => some rest
  | _ => none

/-- Leaves out a comment, if one follows. -/
def skipComment : List Char → List Char
  | '#' :: rest => rest.dropWhile isText
  | rest => rest

/-- Leaves out spaces, comments and line ends between the items of an array. A comment ends with its
line; `comment` says whether the text goes on inside one. -/
def skipLayout (comment : Bool) : List Char → Option (List Char)
  | '\r' :: '\n' :: rest | '\n' :: rest => skipLayout false rest
  | c :: rest =>
    if comment then (if isText c then skipLayout true rest else none)
    else if isSpace c then skipLayout false rest
    else if c = '#' then skipLayout true rest
    else some (c :: rest)
  | [] => if comment then none else some []

/-- The character whose code hexadecimal digits write. -/
def charOfDigits? (digits : List Char) : Option Char :=
  (Numeral.read? 16 digits).bind Codepoint.char?

/-- The character that a letter stands for behind a backslash. -/
def escapedChar? : Char → Option Char
  | 'b' => some '\x08'
  | 't' => some '\t'
  | 'n' => some '\n'
  | 'f' => some '\x0c'
  | 'r' => some '\r'
  | '"' => some '"'
  | '\\' => some '\\'
  | _ => none

/-- The rest of a string of one line; `seen` holds what came before, last first. -/
def readBasic (seen : List Char) : List Char → Option (String × List Char)
  | '"' :: rest => some (String.ofList seen.reverse, rest)
  | '\\' :: 'u' :: a :: b :: c :: d :: rest => do
    readBasic ((← charOfDigits? [a, b, c, d]) :: seen) rest
  | '\\' :: 'U' :: a :: b :: c :: d :: e :: f :: g :: h :: rest => do
    readBasic ((← charOfDigits? [a, b, c, d, e, f, g, h]) :: seen) rest
  | '\\' :: c :: rest => do readBasic ((← escapedChar? c) :: seen) rest
  | c :: rest => if isText c ∧ c ≠ '\\' then readBasic (c :: seen) rest else none
  | [] => none

/-- The rest of a string of one line without escapes. -/
def readLiteral (seen : List Char) : List Char → Option (String × List Char)
  | '\'' :: rest => some (String.ofList seen.reverse, rest)
  | c :: rest => if isText c then readLiteral (c :: seen) rest else none
  | [] => none

/-- Where a string of several lines stands. -/
inductive Folding where
  | none
  /-- Behind a backslash at the end of a line. -/
  | untilLineEnd
  /-- At the front of the lines that the backslash joins. -/
  | untilText
deriving DecidableEq, Repr

/-- The rest of a string of several lines. Up to two quotation marks may stand before the closing
ones. -/
def readLongBasic (folding : Folding) (seen : List Char) : List Char → Option (String × List Char)
  | '\r' :: '\n' :: rest | '\n' :: rest =>
    match folding with
    | .none => readLongBasic .none ('\n' :: seen) rest
    | .untilLineEnd | .untilText => readLongBasic .untilText seen rest
  | '"' :: '"' :: '"' :: '"' :: '"' :: rest =>
    if folding = .untilLineEnd then none else some (String.ofList ('"' :: '"' :: seen).reverse, rest)
  | '"' :: '"' :: '"' :: '"' :: rest =>
    if folding = .untilLineEnd then none else some (String.ofList ('"' :: seen).reverse, rest)
  | '"' :: '"' :: '"' :: rest =>
    if folding = .untilLineEnd then none else some (String.ofList seen.reverse, rest)
  | '\\' :: 'u' :: a :: b :: c :: d :: rest =>
    if folding = .untilLineEnd then none
    else do readLongBasic .none ((← charOfDigits? [a, b, c, d]) :: seen) rest
  | '\\' :: 'U' :: a :: b :: c :: d :: e :: f :: g :: h :: rest =>
    if folding = .untilLineEnd then none
    else do readLongBasic .none ((← charOfDigits? [a, b, c, d, e, f, g, h]) :: seen) rest
  | '\\' :: c :: rest =>
    if folding = .untilLineEnd then none
    else match escapedChar? c with
      | some char => readLongBasic .none (char :: seen) rest
      | none =>
        if c = '\n' then readLongBasic .untilText seen rest
        else if isSpace c ∨ c = '\r' ∧ rest.head? = some '\n' then
          readLongBasic .untilLineEnd seen rest
        else none
  | c :: rest =>
    if folding ≠ .none ∧ isSpace c then readLongBasic folding seen rest
    else if folding = .untilLineEnd then none
    else if isText c ∧ c ≠ '\\' then readLongBasic .none (c :: seen) rest
    else none
  | [] => none

/-- The rest of a string of several lines without escapes. -/
def readLongLiteral (seen : List Char) : List Char → Option (String × List Char)
  | '\r' :: '\n' :: rest | '\n' :: rest => readLongLiteral ('\n' :: seen) rest
  | '\'' :: '\'' :: '\'' :: '\'' :: '\'' :: rest =>
    some (String.ofList ('\'' :: '\'' :: seen).reverse, rest)
  | '\'' :: '\'' :: '\'' :: '\'' :: rest => some (String.ofList ('\'' :: seen).reverse, rest)
  | '\'' :: '\'' :: '\'' :: rest => some (String.ofList seen.reverse, rest)
  | c :: rest => if isText c then readLongLiteral (c :: seen) rest else none
  | [] => none

/-- Leaves out a line end right behind the opening marks of a string of several lines. -/
def skipFirstLineEnd (text : List Char) : List Char :=
  match text with
  | '\n' :: rest | '\r' :: '\n' :: rest => rest
  | rest => rest

/-- A string of any form, if one is there. -/
def readString : List Char → Option (String × List Char)
  | '"' :: '"' :: '"' :: rest => readLongBasic .none [] (skipFirstLineEnd rest)
  | '\'' :: '\'' :: '\'' :: rest => readLongLiteral [] (skipFirstLineEnd rest)
  | '"' :: rest => readBasic [] rest
  | '\'' :: rest => readLiteral [] rest
  | _ => none

/-- A character of a key without quotation marks. -/
def isKeyChar (c : Char) : Bool := c.isAlphanum || c == '_' || c == '-'

/-- One part of a key. -/
def readKeyPart : List Char → Option (String × List Char)
  | '"' :: rest => readBasic [] rest
  | '\'' :: rest => readLiteral [] rest
  | text =>
    let (key, rest) := text.span isKeyChar
    if key.isEmpty then none else some (String.ofList key, rest)

/-- Keys have no more parts. -/
def keyParts : Nat := 79

/-- A key of up to `room` parts, of which the last is apart. -/
def readKey : (room : Nat) → List Char → Option (List String × String × List Char)
  | 0, _ => none
  | room + 1, text => do
    let (part, rest) ← readKeyPart (skipSpace text)
    match skipSpace rest with
    | '.' :: rest =>
      let (path, key, rest) ← readKey room rest
      some (part :: path, key, rest)
    | rest => some ([], part, rest)

end OrderDesk.Toml
