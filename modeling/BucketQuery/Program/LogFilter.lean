import BucketQuery.Number.Numeral
import BucketQuery.Program.ValuePattern
import BucketQuery.Text.AlphanumericTable
import BucketQuery.Text.Character
import BucketQuery.Text.Name

set_option autoImplicit false

/-! # Log filters

A log filter is a list of directives separated by commas. A directive is one of

    LEVEL
    PART
    PART=LEVEL
    PART[SPAN]=LEVEL
    PART[SPAN{FIELD}]=LEVEL

where the part, the span and the last level can be left out. It sets the level up to which
messages are logged: those of a part of the program, of those the ones that have a field, and
of those the ones inside a span. The program opens no spans, so a directive with a span, or with
a value for its field, decides nothing. Of the directives for a message the most specific one
decides: the one with the longest part, and then one with a field. Of two that are equally
specific it is the one whose field is later in the alphabet, and then the later one.

Blanks around a directive do not count when it is taken apart, but they stay in it: its pieces
are cut from the directive with its blanks, at the places that they have without.
-/

namespace BucketQuery

/-- The level of a message, or the last level that is logged. -/
inductive LogLevel where
  | off
  | error
  | warning
  | info
  | debug
  | trace
  deriving DecidableEq

namespace LogLevel

/-- The place of a level among the levels. -/
def rank : LogLevel → Nat
  | .off => 0
  | .error => 1
  | .warning => 2
  | .info => 3
  | .debug => 4
  | .trace => 5

/-- The word for a level. -/
def word : LogLevel → String
  | .off => "off"
  | .error => "error"
  | .warning => "warn"
  | .info => "info"
  | .debug => "debug"
  | .trace => "trace"

/-- All levels. -/
def all : List LogLevel := [.off, .error, .warning, .info, .debug, .trace]

/-- Reads a level: its word in any case, or its rank. Nothing means errors. -/
def read? (text : String) : Option LogLevel :=
  let digits := match text.toList with
    | '+' :: digits => digits
    | digits => digits
  if text = "" then some .error
  else if !digits.isEmpty && digits.all Char.isDigit then
    all.find? fun level => level.rank == ofDigits digits
  else all.find? fun level => level.word == text.map Char.toLower

end LogLevel

/-- What a message must have: a field, and perhaps one value of it. -/
structure FieldCondition where
  name : String
  value : Option String
  deriving DecidableEq

/-- A directive: the last level that is logged for messages that meet its conditions. -/
structure LogDirective where
  part : Option String
  span : Option String
  field : Option FieldCondition
  level : LogLevel
  deriving DecidableEq

/-- Why a text is no directive. -/
inductive DirectiveError where
  | form
  | level
  | value (flaw : ValuePattern.Flaw)
  deriving DecidableEq

/-- The wording of an error. -/
def DirectiveError.message : DirectiveError → String
  | .form => "invalid filter directive"
  | .level =>
    "error parsing level filter: expected one of " ++
      String.intercalate ", " (LogLevel.all.map fun level => "\"" ++ level.word ++ "\"") ++
      ", or a number 0-5"
  | .value flaw => "invalid field filter: " ++ flaw.message

/-- A message of the program. -/
structure LogMessage where
  part : String
  level : LogLevel
  fields : List String
  deriving DecidableEq

namespace LogDirective

/-! ## Places -/

/-- How many bytes characters take. -/
def width (text : List Char) : Nat := text.foldr (fun c n => c.utf8Size + n) 0

/-- The characters in the first bytes of a text. -/
def takeWidth : Nat → List Char → List Char
  | _, [] => []
  | n, c :: rest => if c.utf8Size ≤ n then c :: takeWidth (n - c.utf8Size) rest else []

/-- The characters after the first bytes of a text. -/
def dropWidth : Nat → List Char → List Char
  | _, [] => []
  | n, c :: rest => if n = 0 then c :: rest else dropWidth (n - c.utf8Size) rest

/-- A directive as it is written, and what is left to read of it without its blanks. -/
structure Reader where
  written : List Char
  place : Nat
  rest : List Char

/-- The reader after characters. -/
def Reader.skip (reader : Reader) (n : Nat) : Reader :=
  { reader with
    place := reader.place + width (reader.rest.take n)
    rest := reader.rest.drop n }

/-- What is written up to the first character that satisfies `ends`, that character if there is
one, and the reader after it. -/
def Reader.upTo (reader : Reader) (ends : Char → Bool) : String × Option Char × Reader :=
  let inner := reader.rest.takeWhile (!ends ·)
  let cut := takeWidth (width inner) (dropWidth reader.place reader.written)
  (String.ofList cut, reader.rest[inner.length]?, reader.skip (inner.length + 1))

/-- All that is left to read, as it is written. -/
def Reader.all (reader : Reader) : String :=
  String.ofList (dropWidth reader.place reader.written)

/-! ## Pieces -/

/-- Reads a level after its equals sign. No level is the last one. -/
def level? (text : String) : Except DirectiveError LogLevel :=
  if text = "" then .ok .trace
  else
    match LogLevel.read? text with
    | some level => .ok level
    | none => .error .level

/-- The level of a directive from the end of its brackets on. -/
def levelAfterBrackets (reader : Reader) : Except DirectiveError LogLevel :=
  match reader.rest with
  | [] => .ok .trace
  | '=' :: _ => level? (reader.skip 1).all
  | _ => .error .form

/-- Reads a condition. What follows a second equals sign does not count. -/
def condition (text : String) : Except DirectiveError FieldCondition :=
  match (splitOnChar '=' text.toList).map String.ofList with
  | name :: value :: _ =>
    match ValuePattern.flaw? value with
    | none => .ok ⟨name, some value⟩
    | some flaw => .error (.value flaw)
  | _ => if text = "" then .error .form else .ok ⟨text, none⟩

/-- Reads what follows an opening bracket. -/
def brackets (part : Option String) (reader : Reader) : Except DirectiveError LogDirective := do
  match reader.upTo fun c => c == ']' || c == '\x7b' with
  | (span, some ']', reader) => return ⟨part, some span, none, ← levelAfterBrackets reader⟩
  | (span, some _, reader) =>
    match reader.upTo (· == '\x7d') with
    | (field, some _, reader) =>
      let condition ← condition field
      match reader.rest with
      | ']' :: _ =>
        return ⟨part, if span = "" then none else some span, some condition,
          ← levelAfterBrackets (reader.skip 1)⟩
      | _ => .error .form
    | (_, none, _) => .error .form
  | (_, none, _) => .error .form

/-- Whether a directive without a part or a span can start with a character. -/
def isInitial (c : Char) : Bool := ['-', ':', '_'].contains c || isAlphanumeric c

/-- Reads a directive. -/
def read (text : String) : Except DirectiveError LogDirective := do
  let reader : Reader := ⟨text.toList, 0, (trimBlanks text).toList⟩
  match reader.rest with
  | [] => .error .form
  | '[' :: _ => brackets none (reader.skip 1)
  | c :: _ =>
    if !isInitial c then .error .form
    else
      match reader.upTo fun c => c == '=' || c == '[' with
      | (part, some '=', reader) => return ⟨some part, none, none, ← level? reader.all⟩
      | (part, some _, reader) => brackets (some part) reader
      | (_, none, _) =>
        match LogLevel.read? text with
        | some level => return ⟨none, none, none, level⟩
        | none => return ⟨some text, none, none, .trace⟩

/-! ## Messages -/

/-- Whether a directive is for a message. -/
def isFor (directive : LogDirective) (message : LogMessage) : Bool :=
  directive.span.isNone &&
    directive.part.all (fun part => part.toList.isPrefixOf message.part.toList) &&
    directive.field.all fun field => field.value.isNone && message.fields.contains field.name

/-- Whether the second of two directives for the same message decides, not the first. Their
parts are starts of the same text. -/
def givesWay (first second : LogDirective) : Bool :=
  let size (directive : LogDirective) : Nat := directive.part.elim 0 (·.length + 1)
  let name (directive : LogDirective) : String := directive.field.elim "" (·.name)
  size first < size second ||
    (size first == size second && !(name second < name first))

end LogDirective

/-- A log filter. -/
abbrev LogFilter := List LogDirective

namespace LogFilter

/-- The texts between the commas of a filter, apart from empty ones. -/
def entries (text : String) : List String :=
  ((splitOnChar ',' text.toList).map String.ofList).filter (· != "")

/-- The filter that logs errors. -/
def errors : LogFilter := [⟨none, none, none, .error⟩]

/-- Reads a filter, passing over what is no directive. No directives at all log errors. -/
def read (text : String) : LogFilter :=
  match (entries text).filterMap fun entry => (LogDirective.read entry).toOption with
  | [] => errors
  | directives => directives

/-- What is said about a text that is no directive. -/
def complaint? (entry : String) : Option String :=
  match LogDirective.read entry with
  | .ok _ => none
  | .error e => some ("ignoring `" ++ entry ++ "`: " ++ e.message)

/-- What is said about the texts of a filter that are no directives. -/
def complaints (text : String) : List String := (entries text).filterMap complaint?

/-- The directive that decides about a message. -/
def deciding? (filter : LogFilter) (message : LogMessage) : Option LogDirective :=
  (filter.filter (·.isFor message)).foldl
    (fun best directive =>
      match best with
      | some chosen => if chosen.givesWay directive then some directive else some chosen
      | none => some directive)
    none

/-- Whether a message is logged. -/
def admits (filter : LogFilter) (message : LogMessage) : Bool :=
  (filter.deciding? message).any fun directive => message.level.rank ≤ directive.level.rank

/-- The text of the filter when no other is given. -/
def usual : String := "info,couchquery=info"

end LogFilter

end BucketQuery
