import Headset.Config.Source
import Headset.Number.Reading

/-!
# Command line of the simulator

The settings, in the forms `--name value`, `--name=value`, `-n value`, `-nvalue` and `-n=value`.
Arguments are taken in order, and the first one that ends the reading decides: a request for help,
or a misuse.  A setting may be given once; its value may not begin with a dash, unless it is
attached or is a dash alone.  What is left out may come from the environment.
-/

namespace Headset.Simulator

/-- What a session is run with. -/
structure Options where
  config : Option String := none
  /-- Frames after which the session ends. -/
  frames : Nat := 300
  /-- Takes the place of the configured refresh rate. -/
  refreshRate : Option Float32 := none
  /-- Frames after which a loss is reported. -/
  lossAt : Option Nat := none
  deriving Inhabited

/-- What the arguments ask for. -/
inductive Request where
  | help
  | run (options : Options)
  deriving Inhabited

/-- Why the arguments ask for nothing. -/
inductive Misuse where
  | unknown (argument : String)
  | missingValue
  | invalidValue (value : String)
  | repeated
  deriving DecidableEq, Repr, Inhabited

/-- An option that takes a value. -/
inductive Setting where
  | config
  | frames
  | refreshRate
  | lossAt
  deriving DecidableEq, Repr, Inhabited

/-- The environment variable that stands in for the path of the configuration. -/
def configVariable : String := "WAVRY_VR_CONFIG"

namespace Setting

def ofLong? : List Char → Option Setting := fun name =>
  if name = "config".toList then some .config
  else if name = "frames".toList then some .frames
  else if name = "refresh-hz".toList then some .refreshRate
  else if name = "loss-at".toList then some .lossAt
  else none

def ofLetter? : Char → Option Setting
  | 'c' => some .config
  | 'f' => some .frames
  | _ => none

def store (s : Setting) (value : List Char) (o : Options) : Except Misuse Options :=
  let text := String.ofList value
  let invalid : Except Misuse Options := .error (.invalidValue text)
  match s with
  | .config => if text.isEmpty then invalid else .ok { o with config := some text }
  | .frames => (readCount? text).elim invalid fun n => .ok { o with frames := n }
  | .refreshRate => (readSingle? text).elim invalid fun x => .ok { o with refreshRate := some x }
  | .lossAt => (readCount? text).elim invalid fun n => .ok { o with lossAt := some n }

end Setting

/-- What the reading of the arguments has come to. -/
structure Options.Reader where
  options : Options := {}
  given : List Setting := []
  /-- A setting whose value is the next argument. -/
  pending : Option Setting := none
  /-- Whether the mark was seen behind which everything is a value. -/
  closed : Bool := false

/-- How the reading ends early. -/
inductive Options.Stop where
  | help
  | misuse (m : Misuse)

namespace Options.Reader

/-- Gives a setting its value, if it has none. -/
def assign (r : Reader) (s : Setting) (value : List Char) : Except Stop Reader :=
  if s ∈ r.given then .error (.misuse .repeated)
  else match s.store value r.options with
  | .error m => .error (.misuse m)
  | .ok options => .ok { r with options, given := s :: r.given, pending := none }

/-- Takes the name of a setting with an attached value, or none. -/
def name (r : Reader) (s : Setting) (value : Option (List Char)) : Except Stop Reader :=
  if r.pending.isSome then .error (.misuse .missingValue)
  else match value with
  | some value => r.assign s value
  | none => .ok { r with pending := some s }

/-- Takes a request for help. -/
def help (r : Reader) : Except Stop Reader :=
  if r.pending.isSome then .error (.misuse .missingValue) else .error .help

/-- Takes an argument that begins with two dashes, which are left out. -/
def long (r : Reader) (body : List Char) : Except Stop Reader :=
  let key := body.takeWhile (· ≠ '=')
  let value := match body.dropWhile (· ≠ '=') with
    | _ :: value => some value
    | [] => none
  match Setting.ofLong? key with
  | some s => r.name s value
  | none =>
    if key = "help".toList ∧ value.isNone then r.help
    else .error (.misuse (.unknown (String.ofList body)))

/-- Takes an argument that begins with one dash, which is left out. -/
def short (r : Reader) : List Char → Except Stop Reader
  | [] => .error (.misuse (.unknown ""))
  | 'h' :: _ => r.help
  | letter :: rest =>
    match Setting.ofLetter? letter with
    | none => .error (.misuse (.unknown (String.ofList (letter :: rest))))
    | some s =>
      match rest with
      | [] => r.name s none
      | '=' :: value => r.name s (some value)
      | value => r.name s (some value)

/-- Takes an argument that is not an option. -/
def value (r : Reader) (text : List Char) : Except Stop Reader :=
  match r.closed, r.pending with
  | false, some s => r.assign s text
  | _, _ => .error (.misuse (.unknown (String.ofList text)))

def step (r : Reader) (argument : String) : Except Stop Reader :=
  if r.closed then r.value argument.toList
  else match argument.toList with
  | ['-', '-'] => .ok { r with closed := true }
  | '-' :: '-' :: body => r.long body
  | ['-'] => r.value ['-']
  | '-' :: body => r.short body
  | text => r.value text

/-- The options when the arguments end here. -/
def finish (r : Reader) (environment : Option String) : Except Misuse Options :=
  if r.pending.isSome then .error .missingValue
  else match environment with
  | some path =>
    if .config ∈ r.given then .ok r.options else Setting.config.store path.toList r.options
  | none => .ok r.options

end Options.Reader

/-- What the arguments ask for, with the environment's path of the configuration. -/
def Request.read (environment : Option String) (arguments : List String) :
    Except Misuse Request :=
  match arguments.foldlM Options.Reader.step {} with
  | .error .help => .ok .help
  | .error (.misuse m) => .error m
  | .ok r => (r.finish environment).map .run

end Headset.Simulator
