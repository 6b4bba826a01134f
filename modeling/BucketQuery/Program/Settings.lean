import BucketQuery.Operation.Memory
import BucketQuery.Program.Layer
import BucketQuery.Program.Path
import BucketQuery.Record.Basic
import BucketQuery.Service.Request
import BucketQuery.Text.Debug

set_option autoImplicit false

/-! # Settings

The settings of a run come from up to three layers over the defaults:

    overrides       the command line and the environment
    overlay         the file that the overrides name, else `couchquery.json` where the run starts
    profile         `.couchquery/couchquery.json` in the home directory
    defaults

`Settings.load` puts the layers over each other and resolves what they say.
-/

namespace BucketQuery

/-- The settings of a run. The timeout is in seconds. -/
structure Settings where
  bucket : String
  shape : RowShape
  service : Service
  timeout : UInt64
  data : Option String
  deriving DecidableEq

/-- Why there are no settings. -/
inductive SettingsError where
  | fileAbsent (path : String)
  | fileUnreadable (path : String)
  | fileMalformed (path : String)
  | bucketAbsent
  | timeoutZero
  deriving DecidableEq

/-- The wording of a failure. -/
def SettingsError.message : SettingsError → String
  | .fileAbsent path => "Config file not found: " ++ path
  | .fileUnreadable path => "Failed to read config file: " ++ path
  | .fileMalformed path => "Failed to parse config file: " ++ path
  | .bucketAbsent => "No bucket configured. Use --bucket or set \"bucket\" in the config file"
  | .timeoutZero => "query.timeout_secs must be greater than 0"

/-- What the command line and the environment say: the overlay file and the top layer. -/
structure Overrides where
  file : Option String := none
  layer : Layer := {}
  deriving DecidableEq

/-- What two sources of overrides say, the first one over the second. -/
def Overrides.over (upper lower : Overrides) : Overrides :=
  ⟨upper.file.or lower.file, upper.layer.over lower.layer⟩

namespace Settings

/-- The endpoint of a service on the same machine. -/
def defaultEndpoint : String := "http://127.0.0.1:8093"

/-- The default timeout in seconds. -/
def defaultTimeout : UInt64 := 75

/-- The bucket that a layer names, blanks around it removed; a blank name is none. -/
def bucket? (layer : Layer) : Option String :=
  (layer.bucket.map trimBlanks).filter (· != "")

/-- The settings of all layers together, with the defaults below them. -/
def resolve (place : Place) (layer : Layer) : Except SettingsError Settings :=
  match bucket? layer with
  | none => .error .bucketAbsent
  | some bucket =>
    let timeout := layer.service.timeout.getD defaultTimeout
    if timeout = 0 then .error .timeoutZero
    else
      .ok
        { bucket := bucket
          shape := ⟨layer.gateway.getD false, layer.defaultIdField.getD true⟩
          service :=
            { endpoint := layer.service.endpoint.getD defaultEndpoint
              username := layer.service.username
              password := layer.service.password }
          timeout := timeout
          data := layer.data.map (Path.expand place) }

/-- The name of a file with settings. -/
def fileName : String := "couchquery.json"

/-- The path of the profile. There is none without a home directory. -/
def profilePath (place : Place) : Option String :=
  place.home.map fun home => Path.join (Path.join home ".couchquery") fileName

/-- The path of the overlay. -/
def overlayPath (place : Place) (overrides : Overrides) : String :=
  match overrides.file with
  | some path => Path.expand place path
  | none => fileName

/-- The layer in a file, if the file is there. -/
def fileLayer (path : String) : FileState → Except SettingsError (Option LayerFile)
  | .absent => .ok none
  | .unreadable => .error (.fileUnreadable path)
  | .text content =>
    match LayerFile.read? content with
    | some file => .ok (some file)
    | none => .error (.fileMalformed path)

/-- The overlay, which has to be there if the overrides name it. -/
def overlay (place : Place) (overrides : Overrides) (state : FileState) :
    Except SettingsError (Option LayerFile) :=
  if overrides.file.isSome ∧ state = .absent then
    .error (.fileAbsent (overlayPath place overrides))
  else fileLayer (overlayPath place overrides) state

/-- The profile. -/
def profile (place : Place) (state : FileState) : Except SettingsError (Option LayerFile) :=
  match profilePath place with
  | some path => fileLayer path state
  | none => .ok none

/-- The layer of a file that may be absent. -/
def layerOf (file : Option LayerFile) : Layer := (file.map LayerFile.layer).getD {}

/-- The settings, given what is found at the paths of the profile and the overlay. -/
def load (place : Place) (overrides : Overrides) (profileState overlayState : FileState) :
    Except SettingsError Settings := do
  let profile ← profile place profileState
  let overlay ← overlay place overrides overlayState
  resolve place (overrides.layer.over ((layerOf overlay).over (layerOf profile)))

/-- The unknown members of a file that could be read, if it has any. -/
def unknownOf : Except SettingsError (Option LayerFile) → List (List String)
  | .ok (some file) => if file.unknown.isEmpty then [] else [file.unknown]
  | _ => []

/-- The unknown members of each file that is read while loading, the profile first. -/
def unknownMembers (place : Place) (overrides : Overrides)
    (profileState overlayState : FileState) : List (List String) :=
  match profile place profileState with
  | .error _ => []
  | .ok file => unknownOf (.ok file) ++ unknownOf (overlay place overrides overlayState)

/-- The settings of the query service in words, without the password. -/
def serviceText (settings : Settings) : String :=
  "QueryConfig \x7b endpoint: " ++ Debug.quoted settings.service.endpoint ++
    ", username: " ++ Debug.quotedOption settings.service.username ++
    ", password: " ++
      Debug.quotedOption (settings.service.password.map fun _ => "[REDACTED]") ++
    ", timeout: " ++ String.ofList (digitsOf settings.timeout.toNat) ++ "s \x7d"

end Settings

end BucketQuery
