import FrameGrabber.Configuration
import FrameGrabber.Toml

/-!
# Loading a configuration

Three layers make up a configuration: the defaults, over them a file if there is
one, and over that the environment. In the file and in the environment what is
not said is left as it is. The result is read in the lenient dialect, since the
environment knows nothing but text. A value that does not fit is blamed on the
layer that said it.
-/

namespace FrameGrabber

/-- A file that a configuration is to be read from. -/
structure ConfigFile where
  name : String
  /-- Its text, if it can be read. -/
  content : Option String
  deriving DecidableEq, Repr, Inhabited

/-- Why a configuration could not be loaded. -/
inductive ConfigError where
  | unreadable (file : String)
  /-- The file cannot be read on at some place. -/
  | malformed (file : String) (place : Toml.Place)
  /-- The file as a whole is no table; `found` is what it is. -/
  | shapeless (file found : String)
  | misfit (m : Misfit)
  deriving DecidableEq, Repr, Inhabited

def ConfigError.message : ConfigError → String
  | unreadable file => s!"configuration file \"{file}\" not found"
  | malformed _ place => s!"TOML parse error at line {place.line}, column {place.column}"
  | shapeless file found => s!"invalid type: {found}, expected a map in {file} in {file}"
  | misfit m => m.message

namespace Configuration

/-- What the names of the variables that count begin with, in any case. -/
def variableMark : String := "gigecast__"

/-- Text with every pair of underscores replaced by a point, from the left. -/
def pointed : List Char → List Char
  | '_' :: '_' :: rest => '.' :: pointed rest
  | c :: rest => c :: pointed rest
  | [] => []

/-- The path that a variable sets, if it sets one. -/
def variablePath? (name : String) : Option String :=
  let s := Letter.lowerCase name
  if s.startsWith variableMark then
    some (String.ofList (pointed (s.toList.drop variableMark.length)))
  else none

def environmentLayer (environment : List (String × String)) : Entries :=
  environment.filterMap fun (name, value) =>
    (variablePath? name).map (·, .text value "the environment")

def fileLayer (file : ConfigFile) : Except ConfigError Entries :=
  match file.content with
  | none => .error (.unreadable file.name)
  | some content =>
    match Toml.parse content with
    | .error place => .error (.malformed file.name place)
    | .ok (.table es _) => .ok (Document.entriesSaidIn file.name es)
    | .ok d => .error (.shapeless file.name d.describe)

mutual

/-- The paths of all the values that are no tables. -/
def leaves : Document → List (List String)
  | .table es _ => leavesOf es
  | _ => [[]]

def leavesOf : Entries → List (List String)
  | [] => []
  | (key, d) :: rest => (leaves d).map (key :: ·) ++ leavesOf rest

end

def variableNames : List String :=
  (leaves (Documented.write ({} : Configuration))).map fun path =>
    (variableMark ++ "__".intercalate path).toUpper

/-- Load a configuration from the file and the environment. -/
def load (file : Option ConfigFile) (environment : List (String × String)) :
    Except ConfigError Configuration := do
  let said ← match file with
    | none => pure []
    | some file => fileLayer file
  let base := Documented.write ({} : Configuration)
  let document := Document.overlay (environmentLayer environment) (Document.overlay said base)
  (Documented.read Dialect.lenient document).mapError .misfit

end Configuration
end FrameGrabber
