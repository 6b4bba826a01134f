import BucketQuery.Program.CommandLine
import BucketQuery.Program.LogFilter
import BucketQuery.Program.VariableFile

set_option autoImplicit false

/-! # A run of the program

A run reads the log filter, the command line, the settings and the command's data, and ends
with a text for each of the two outputs. What it needs from outside comes through
`Surroundings`: variables of the environment, files, and the exchange with a query service. A
run can be followed in any monad, so the same definition runs on a machine and on values.
-/

namespace BucketQuery

/-- What a run needs from outside. An exchange that is lost has no reply. -/
structure Surroundings (m : Type → Type) where
  variableValue : String → m (Option String)
  look : String → m FileState
  send : Request → m (Option Reply)

/-- How a run ends. -/
structure Ending where
  code : UInt32
  out : String
  err : String
  deriving DecidableEq

/-- Why a run fails after the command line has been read. -/
inductive Failure where
  | settings (error : SettingsError)
  | data (path : String) (error : TransportError)
  | query (error : QueryError)

/-- The wording of a failure. -/
def Failure.message : Failure → String
  | .settings error => error.message
  | .data path error => "Failed to load bucket file: " ++ path ++ ": " ++ error.message
  | .query error => error.message

namespace Ending

/-- The end of a run with an output. -/
def success (out err : String) : Ending := ⟨0, out, err⟩

/-- The end of a run that fails. An empty line stands before the failure. -/
def failure (failure : Failure) (err : String) : Ending :=
  ⟨1, "", err ++ "\nError: " ++ failure.message ++ "\n\n"⟩

/-- The text on how the program is used. -/
def usage : String :=
  "Usage: couchquery [OPTIONS] <" ++
    String.intercalate "|" (CommandName.all.map CommandName.word) ++ "> [OPTIONS]\n"

/-- The end of a run without an invocation. -/
def stopped (stop : Stop) (err : String) : Ending :=
  match stop with
  | .help => ⟨0, usage, err⟩
  | .version => ⟨0, "couchquery 0.1.0\n", err⟩
  | .misuse error => ⟨2, "", err ++ "error: " ++ error.message ++ "\n"⟩

end Ending

namespace Run

/-- The report on unknown members of a settings file, as a message. -/
def unknownMessage : LogMessage :=
  ⟨"couchquery::core::config", .warning, ["message", "fields"]⟩

/-- The report on the unknown members of a file. -/
def unknownReport (members : List String) : String :=
  "WARN Unknown fields in config file (possible typos) fields=" ++
    String.intercalate ", " members ++ "\n"

/-- The name of a file of variables. -/
def variableFileName : String := ".env"

variable {m : Type → Type} [Monad m]

/-- Variables that are set by a file. -/
abbrev Assigned := List (String × String)

/-- The value of a variable. The environment wins over a file. -/
def valueOf (world : Surroundings m) (assigned : Assigned) (name : String) :
    m (Option String) := do
  match ← world.variableValue name with
  | some value => return some value
  | none => return assigned.lookup name

/-- The text of a value with the values of the variables in it; one that is not set is empty. -/
def partsText (world : Surroundings m) (assigned : Assigned) :
    List VariableFile.Part → m (List Char)
  | [] => return []
  | .character c :: rest => return c :: (← partsText world assigned rest)
  | .variable name :: rest => do
    let value ← valueOf world assigned name
    return (value.getD "").toList ++ (← partsText world assigned rest)

/-- Sets the variables of a file in turn, except those that have a value. -/
def assign (world : Surroundings m) (assigned : Assigned) :
    List VariableFile.Assignment → m Assigned
  | [] => return assigned
  | assignment :: rest => do
    match ← valueOf world assigned assignment.name with
    | some _ => assign world assigned rest
    | none =>
      let text ← partsText world assigned assignment.value
      assign world (assigned ++ [(assignment.name, String.ofList text)]) rest

/-- The content of the first file of variables in a list of directories. -/
def variableFile (world : Surroundings m) : List String → m String
  | [] => return ""
  | directory :: rest => do
    match ← world.look (Path.join directory variableFileName) with
    | .text content => return content
    | _ => variableFile world rest

/-- The variables set by the file for a working directory. -/
def assigned (world : Surroundings m) (work : String) : m Assigned := do
  assign world [] (VariableFile.read (← variableFile world (Path.ancestors work)))

/-- The values of a list of variables. -/
def values (world : Surroundings m) (assigned : Assigned) : List String → m Assigned
  | [] => return []
  | name :: rest => do
    let later ← values world assigned rest
    match ← valueOf world assigned name with
    | some value => return (name, value) :: later
    | none => return later

/-- The text of the log filter. -/
def logFilterText (world : Surroundings m) (assigned : Assigned) : m String := do
  match ← valueOf world assigned "COUCHQUERY_LOG" with
  | some text => return text
  | none => return (← valueOf world assigned "RUST_LOG").getD LogFilter.usual

/-- The answer of a query service to a query. -/
def answerFrom (world : Surroundings m) (service : Service) (query : Query) :
    m (Except TransportError (List Json)) := do
  match service.request? query with
  | none => return .error (.exchange "the endpoint is no web address")
  | some request =>
    match ← world.send request with
    | none => return .error (.exchange "the connection is lost")
    | some reply => return reply.rows

/-- Executes a command with settings. -/
def execute (world : Surroundings m) (settings : Settings) (command : Command) :
    m (Except Failure Output) := do
  let plan := command.plan ⟨settings.bucket, settings.shape⟩
  match settings.data with
  | some path =>
    match Bucket.load settings.bucket path (← world.look path) with
    | .error e => return .error (.data path e)
    | .ok bucket => return (plan.run bucket.answer).mapError .query
  | none => return (← plan.follow (answerFrom world settings.service)).mapError .query

/-- The state of the file at a path, if there is a path. -/
def lookAt (world : Surroundings m) : Option String → m FileState
  | some path => world.look path
  | none => return .absent

/-- Goes on with an invocation: the reports on settings files and the result. -/
def invoke (world : Surroundings m) (place : Place) (filter : LogFilter) (err : String)
    (invocation : Invocation) : m Ending := do
  let overrides := invocation.overrides
  let profile ← lookAt world (Settings.profilePath place)
  let overlay ← world.look (Settings.overlayPath place overrides)
  let reports :=
    if filter.admits unknownMessage then
      (Settings.unknownMembers place overrides profile overlay).map unknownReport
    else []
  let err := err ++ String.join reports
  match Settings.load place overrides profile overlay with
  | .error e => return .failure (.settings e) err
  | .ok settings =>
    match ← execute world settings invocation.command with
    | .error e => return .failure e err
    | .ok output => return .success output.screen err

end Run

/-- Runs the program in a working directory. -/
def run {m : Type → Type} [Monad m] (world : Surroundings m) (work : String)
    (words : List String) : m Ending := do
  let assigned ← Run.assigned world work
  let filterText ← Run.logFilterText world assigned
  let err := String.join ((LogFilter.complaints filterText).map (· ++ "\n"))
  let values ← Run.values world assigned (Argument.everywhere.filterMap Argument.variableName)
  match CommandLine.read (fun name => List.lookup name values) words with
  | .error stop => return .stopped stop err
  | .ok invocation =>
    let home := (← Run.valueOf world assigned "HOME").filter (· != "")
    Run.invoke world ⟨home, work⟩ (.read filterText) err invocation

end BucketQuery
