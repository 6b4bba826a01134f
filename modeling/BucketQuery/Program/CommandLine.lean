import BucketQuery.Program.Argument

set_option autoImplicit false

/-! # The command line

A command line has two levels: the words up to the command, and the words after it. A level
is a list of arguments with their values:

    --name value    --name=value    -n value    -nvalue    -n=value

A word after an argument that still waits for its value is that value, unless it starts with a
dash. A value that stands in a word of its own is read only when the next argument comes or the
level ends, so a word that fits nowhere is found first. After the word `--` no argument can
follow. Overrides given at the second level win, and both win over variables.
-/

namespace BucketQuery

/-- The names of commands. -/
inductive CommandName where
  | find
  | findOne
  | page
  | count
  | sum
  | explain
  deriving DecidableEq

namespace CommandName

/-- All commands. -/
def all : List CommandName := [.find, .findOne, .page, .count, .sum, .explain]

/-- The word for a command. -/
def word : CommandName → String
  | .find => "find"
  | .findOne => "find-one"
  | .page => "page"
  | .count => "count"
  | .sum => "sum"
  | .explain => "explain"

/-- The command for a word. -/
def ofWord? (word : String) : Option CommandName := all.find? fun name => name.word == word

/-- The arguments of a command's own. -/
def arguments : CommandName → List Argument
  | .find | .findOne | .count => [.filters]
  | .page => [.filters, .page, .offset, .size, .sort]
  | .sum => [.filters, .field]
  | .explain => [.filters, .page, .offset, .size, .sort, .field]

/-- The command of this name with the values given. -/
def build (name : CommandName) (given : Given) : Except Misuse Command :=
  let filters := given.filters.getD []
  if given.page.isSome && given.offset.isSome then .error .pageWithOffset
  else
    match name, given.field with
    | .find, _ => .ok (.find filters)
    | .findOne, _ => .ok (.findOne filters)
    | .count, _ => .ok (.count filters)
    | .page, _ => .ok (.page filters given.window)
    | .sum, some field => .ok (.sum filters field)
    | .sum, none => .error (.argumentAbsent .field)
    | .explain, field => .ok (.explain filters given.window field)

end CommandName

/-- What a word can be in the place of a command. -/
inductive Keyword where
  | help
  | command (name : CommandName)

/-- Reads a word in the place of a command. -/
def Keyword.ofWord? (word : String) : Option Keyword :=
  if word = "help" then some .help else (CommandName.ofWord? word).map .command

/-- What a command line asks for. -/
structure Invocation where
  overrides : Overrides
  command : Command

/-- Why a command line is no invocation. -/
inductive Stop where
  | help
  | version
  | misuse (error : Misuse)
  deriving DecidableEq

/-- A word by its dashes. -/
inductive Word where
  | plain (text : String)
  | separator
  | long (name : String) (value : Option String)
  | short (letter : Char) (value : Option String)

namespace Word

/-- The value after a letter, an equals sign in front of it left out. -/
def attached (text : List Char) : Option String :=
  match text with
  | [] => none
  | '=' :: value => some (String.ofList value)
  | value => some (String.ofList value)

/-- Sorts a word. A single dash is a plain word. -/
def ofText (text : String) : Word :=
  match text.toList with
  | ['-', '-'] => .separator
  | '-' :: '-' :: rest =>
    let name := String.ofList (rest.takeWhile (· != '='))
    match rest.dropWhile (· != '=') with
    | [] => .long name none
    | _ :: value => .long name (some (String.ofList value))
  | '-' :: letter :: rest => .short letter (attached rest)
  | _ => .plain text

end Word

/-- What a level understands: its arguments, and whether it tells the version. -/
structure Vocabulary where
  arguments : List Argument
  version : Bool

namespace Vocabulary

/-- The level before the command. -/
def outer : Vocabulary := ⟨Argument.everywhere, true⟩

/-- The level after a command. -/
def inner (name : CommandName) : Vocabulary := ⟨name.arguments ++ Argument.everywhere, false⟩

/-- What a name without a value asks for. -/
def request? (vocabulary : Vocabulary) (name : String) : Option Stop :=
  if name = "help" then some .help
  else if name = "version" ∧ vocabulary.version then some .version
  else none

/-- What a letter without a value asks for. -/
def requestLetter? (vocabulary : Vocabulary) (letter : Char) : Option Stop :=
  if letter = 'h' then some .help
  else if letter = 'V' ∧ vocabulary.version then some .version
  else none

end Vocabulary

/-- A level so far: the values read, and the last argument with its value in a word of its own,
which may not have come yet. -/
structure Level where
  given : Given
  pending : Option (Argument × Option String)

/-- What the next word makes of a level. -/
inductive Progress where
  | level (level : Level)
  | separated (level : Level)
  | stray

namespace Level

/-- The level without any word. -/
def start : Level := ⟨{}, none⟩

/-- Whether the next plain word is a value. -/
def awaits (level : Level) : Bool :=
  match level.pending with
  | some (_, none) => true
  | _ => false

/-- The values of a level, with that of the last argument read. -/
def values (level : Level) : Except Stop Given :=
  match level.pending with
  | none => .ok level.given
  | some (argument, none) => .error (.misuse (.valueAbsent argument))
  | some (argument, some value) => (level.given.put argument value).mapError .misuse

/-- The level after an argument, with its value if that is in the same word. -/
def argument (level : Level) (argument : Argument) (value : Option String) :
    Except Stop Progress := do
  let given ← level.values
  match value with
  | none => return .level ⟨given, some (argument, none)⟩
  | some value =>
    let given ← (given.put argument value).mapError .misuse
    return .level ⟨given, none⟩

/-- Stops at a request for help or for the version, once the values before it are read. -/
def stop (level : Level) (stop : Stop) : Except Stop Progress := do
  let _ ← level.values
  .error stop

/-- The level after a word. -/
def next (vocabulary : Vocabulary) (level : Level) (text : String) : Except Stop Progress :=
  match Word.ofText text with
  | .separator => .ok (.separated level)
  | .long name value =>
    match vocabulary.arguments.find? fun argument => argument.name == name with
    | some argument => level.argument argument value
    | none =>
      match vocabulary.request? name, value with
      | some request, none => level.stop request
      | some _, some _ => .error (.misuse (.valueUnexpected text))
      | none, _ => .error (.misuse (.unknownArgument text))
  | .short letter value =>
    match vocabulary.arguments.find? fun argument => argument.letter? == some letter with
    | some argument => level.argument argument value
    | none =>
      match vocabulary.requestLetter? letter with
      | some request => level.stop request
      | none => .error (.misuse (.unknownArgument text))
  | .plain text =>
    match level.pending with
    | some (argument, none) => .ok (.level ⟨level.given, some (argument, some text)⟩)
    | _ => .ok .stray

end Level

namespace CommandLine

variable (lookup : String → Option String)

/-- The values of a level that has ended, with those of variables. -/
def close (level : Level) : Except Stop Given := do
  let given ← level.values
  (given.withVariables lookup Argument.everywhere).mapError .misuse

/-- The command of a level that has ended, with its overrides. -/
def finish (name : CommandName) (level : Level) : Except Stop Invocation := do
  let given ← close lookup level
  let command ← (name.build given).mapError .misuse
  -- the variables belong to the first level, whose own values win over them
  let written ← level.values
  return ⟨written.overrides, command⟩

/-- Reads the words after the command. -/
def readInner (name : CommandName) (level : Level) : List String → Except Stop Invocation
  | [] => finish lookup name level
  | word :: rest => do
    match ← level.next (.inner name) word with
    | .level level => readInner name level rest
    | .separated level =>
      match rest with
      | [] => finish lookup name level
      | word :: _ => .error (.misuse (.unknownArgument word))
    | .stray => .error (.misuse (.unknownArgument word))

/-- Ends a command line without a command. -/
def withoutCommand (level : Level) : Except Stop Invocation := do
  let given ← close lookup level
  .error (.misuse (if given.overridesNothing then .nothingGiven else .commandAbsent))

/-- What a request for help about the given words ends in. There can be one word, for a
command. -/
def help : List String → Stop
  | [] => .help
  | first :: rest =>
    match Keyword.ofWord? first, rest with
    | none, _ => .misuse (.unknownCommand first)
    | some _, [] => .help
    | some _, second :: _ => .misuse (.unknownCommand second)

/-- What a word after `--` ends in, where a command is due. -/
def afterSeparator (word : String) : Stop :=
  match Keyword.ofWord? word with
  | some _ => .misuse (.unknownArgument word)
  | none => .misuse (.unknownCommand word)

/-- Reads the words from the first on. -/
def readOuter (level : Level) : List String → Except Stop Invocation
  | [] => withoutCommand lookup level
  | word :: rest =>
    match if level.awaits then none else Keyword.ofWord? word with
    | some .help => .error (help rest)
    | some (.command name) => do
      let invocation ← readInner lookup name .start rest
      let given ← close lookup level
      return { invocation with overrides := invocation.overrides.over given.overrides }
    | none => do
      match ← level.next .outer word with
      | .level level => readOuter level rest
      | .separated level =>
        match rest with
        | [] => withoutCommand lookup level
        | word :: _ => .error (afterSeparator word)
      | .stray => .error (.misuse (.unknownCommand word))

/-- Reads a command line, given the values of variables. -/
def read (words : List String) : Except Stop Invocation := readOuter lookup .start words

end CommandLine

end BucketQuery
