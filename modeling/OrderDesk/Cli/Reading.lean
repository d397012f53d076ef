import OrderDesk.Cli.Arguments

/-!
# `OrderDesk.Cli.Reading` — reading a command line word by word

A value is looked at when the next argument comes, or the end; so the first problem met is the one
reported. Behind a lone `--` all words are values told apart by their place.

## Contents
- `Reading`: what has been read on one level, and `Reading.word`: one more word.
- `CommandLine.read`: the command line that words make.
-/

namespace OrderDesk

/-- What has been read on one level. -/
structure Reading where
  level : Level
  given : Given := []
  /-- An argument that is not settled yet, with its value if that has come. -/
  pending : Option (Argument × Option String) := none
  /-- A lone `--` was read. -/
  trailing : Bool := false
  /-- How many values were told apart by their place. -/
  places : Nat := 0
deriving Inhabited

namespace Reading

/-- The next word is the value of an option. -/
def awaitsValue (r : Reading) : Bool :=
  match r.pending with
  | some (_, none) => true
  | _ => false

/-- Takes a value; an argument is given once, and its value must be one that it accepts. -/
def give (r : Reading) (a : Argument) (text : String) : Except UsageProblem Reading :=
  if r.given.has a then .error .argumentConflict
  else match a.problem? text with
    | some p => .error p
    | none => .ok { r with given := r.given ++ [(a, text)] }

/-- Settles the argument that is still open. -/
def settle (r : Reading) : Except UsageProblem Reading :=
  match r.pending with
  | none => .ok r
  | some (_, none) => .error .invalidValue
  | some (a, some text) => { r with pending := none }.give a text

/-- An option without a value. -/
def flag (r : Reading) (a : Argument) : Except UsageProblem Reading := do
  let r ← r.settle
  match a with
  | .help => .error .displayHelp
  | .version => .error .displayVersion
  | a => r.give a "true"

/-- An option by its long name, with the value attached to it. -/
def option (r : Reading) (name : String) (attached : Option String) :
    Except UsageProblem Reading :=
  match r.level.option? name with
  | none => .error .unknownArgument
  | some a =>
    if a.isFlag then
      if attached.isSome then .error .tooManyValues else r.flag a
    else do
      let r ← r.settle
      match attached with
      | some text => r.give a text
      | none => pure { r with pending := some (a, none) }

/-- Options by their letters. All of them end the reading. -/
def letters (r : Reading) : List Char → Except UsageProblem Reading
  | [] => .ok r
  | c :: rest =>
    match r.level.letter? c with
    | none => .error .unknownArgument
    | some a => do (← r.flag a).letters rest

/-- A value told apart by its place. -/
def positional (r : Reading) (word : String) : Except UsageProblem Reading :=
  match r.level.positionals[r.places]? with
  | some a => do
    let r ← r.settle
    pure { r with pending := some (a, some word), places := r.places + 1 }
  | none =>
    if r.level ≠ .top then .error .unknownArgument
    else if r.trailing ∧ (word = "help" ∨ (Level.ofName? word).isSome) then .error .unknownArgument
    else .error .invalidSubcommand

/-- The name and the attached value of a long option. -/
def splitOption (text : List Char) : String × Option String :=
  match text.span (· != '=') with
  | (name, _ :: value) => (String.ofList name, some (String.ofList value))
  | (name, []) => (String.ofList name, none)

/-- One more word. -/
def word (r : Reading) (word : String) : Except UsageProblem Reading :=
  if r.trailing then r.positional word
  else match word.toList with
    | ['-', '-'] => .ok { r with trailing := true }
    | '-' :: '-' :: text =>
      let (name, attached) := splitOption text
      r.option name attached
    | '-' :: c :: rest => r.letters (c :: rest)
    | _ =>
      match r.pending with
      | some (a, none) => .ok { r with pending := some (a, some word) }
      | _ => r.positional word

/-- The words behind a command's name. -/
def words (r : Reading) (words : List String) : Except UsageProblem Reading := do
  (← words.foldlM Reading.word r).settle

/-- The word is a command's name here. -/
def command? (r : Reading) (word : String) : Option Level :=
  if r.trailing ∨ r.awaitsValue then none else Level.ofName? word

/-- The word asks for help here. -/
def asksHelp (r : Reading) (word : String) : Bool :=
  !r.trailing && !r.awaitsValue && word == "help"

/-- Help for the command that the words behind `help` name. -/
def help : List String → UsageProblem
  | [] => .displayHelp
  | [name] => if name = "help" ∨ (Level.ofName? name).isSome then .displayHelp else .invalidSubcommand
  | _ => .invalidSubcommand

/-- The words up to a command's name, and the command line behind it. What is open in front of the
name is settled when the command is complete. -/
def front (r : Reading) : List String → Except UsageProblem CommandLine
  | [] => do
    let r ← r.settle
    if r.given.isEmpty then .error .displayHelpOnMissing else .error .missingSubcommand
  | word :: rest =>
    if r.asksHelp word then .error (help rest)
    else match r.command? word with
      | some level => do
        let behind ← Reading.words { level } rest
        let command ← behind.given.command level
        let r ← r.settle
        Given.commandLine command behind.given r.given
      | none => do (← r.word word).front rest

end Reading

/-- The command line that words make. -/
def CommandLine.read (words : List String) : Except UsageProblem CommandLine :=
  Reading.front { level := .top } words

end OrderDesk
