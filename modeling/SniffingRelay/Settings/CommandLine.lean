import SniffingRelay.Settings.Flag

set_option autoImplicit false

-- Arguments are taken from left to right, and the first problem wins. The value in `--flag value`
-- is looked at only when the next flag comes or the line ends, the one in `--flag=value` at once.
-- Flags that are not given take their environment variable, or else the default.

namespace SniffingRelay

inductive UsageError where
  | helpWanted
  | versionWanted
  | unknown (argument : String)
  | noValue (flag : Flag)
  | badValue (flag : Flag) (error : ValueError)
  | repeated (flag : Flag)
  -- A value was given to a flag that takes none.
  | unwantedValue
  deriving DecidableEq, Repr

def UsageError.message : UsageError -> String
  | .helpWanted => "help was asked for"
  | .versionWanted => "the version was asked for"
  | .unknown argument => "unexpected argument '" ++ argument ++ "' found"
  | .noValue flag => "a value is required for '--" ++ flag.name ++ "' but none was supplied"
  | .badValue flag _ => "invalid value for '--" ++ flag.name ++ "'"
  | .repeated flag => "the argument '--" ++ flag.name ++ "' cannot be used multiple times"
  | .unwantedValue => "a value was given to a flag that takes none"

/-- What one argument looks like by itself. -/
inductive Argument where
  | escape
  | known (flag : Flag) (value : Option String)
  | help (value : Option String)
  | version (value : Option String)
  | noFlag
  | word
  deriving DecidableEq, Repr

namespace Argument

-- The text up to the first equals sign, and after it if there is one.
def splitValue : List Char -> List Char × Option (List Char)
  | [] => ([], none)
  | c :: rest =>
      if c = '=' then ([], some rest)
      else
        let (name, value) := splitValue rest
        (c :: name, value)

def ofLong (text : List Char) : Argument :=
  let (name, value) := splitValue text
  let value := value.map String.ofList
  match String.ofList name with
  | "help" => .help value
  | "version" => .version value
  | name =>
      match Flag.ofName? name with
      | some flag => .known flag value
      | none => .noFlag

-- A dash alone is a word. Only the first letter after a single dash counts.
def ofText (text : String) : Argument :=
  match text.toList with
  | ['-', '-'] => .escape
  | '-' :: '-' :: long => ofLong long
  | '-' :: 'h' :: _ => .help none
  | '-' :: 'V' :: _ => .version none
  | '-' :: _ :: _ => .noFlag
  | _ => .word

end Argument

/-- A flag whose value, if it has come, has not been looked at. -/
structure PendingFlag where
  flag : Flag
  value : Option String
  deriving DecidableEq, Repr

structure CommandLine where
  settings : Settings := {}
  given : List Flag := []
  pending : Option PendingFlag := none
  deriving DecidableEq, Repr

namespace CommandLine

def assign (line : CommandLine) (flag : Flag) (value : String) : Except UsageError CommandLine :=
  match flag.set value line.settings with
  | .ok settings => .ok { settings, given := flag :: line.given }
  | .error error => .error (.badValue flag error)

-- A second occurrence is refused before its value is looked at.
def give (line : CommandLine) (flag : Flag) (value : String) : Except UsageError CommandLine :=
  if flag ∈ line.given then .error (.repeated flag) else line.assign flag value

def settle (line : CommandLine) : Except UsageError CommandLine :=
  match line.pending with
  | none => .ok line
  | some { flag, value := none } => .error (.noValue flag)
  | some { flag, value := some value } => line.give flag value

-- A word can only be the value of the flag before it.
def giveWord (line : CommandLine) (word : String) : Except UsageError CommandLine :=
  match line.pending with
  | some { flag, value := none } => .ok { line with pending := some ⟨flag, some word⟩ }
  | _ => .error (.unknown word)

def readArguments (line : CommandLine) : List String -> Except UsageError CommandLine
  | [] => line.settle
  | argument :: later =>
      match Argument.ofText argument, later with
      | .escape, [] => line.settle
      | .escape, word :: _ => .error (.unknown word)
      | .known flag none, _ => do
          readArguments { <- line.settle with pending := some ⟨flag, none⟩ } later
      | .known flag (some value), _ => do
          readArguments (<- (<- line.settle).give flag value) later
      | .help none, _ => do
          let _ <- line.settle
          throw .helpWanted
      | .version none, _ => do
          let _ <- line.settle
          throw .versionWanted
      | .help (some _), _ | .version (some _), _ => .error .unwantedValue
      | .noFlag, _ => .error (.unknown argument)
      | .word, _ => do readArguments (<- line.giveWord argument) later

def readEnvironment (environment : String -> Option String) (line : CommandLine) (flag : Flag) :
    Except UsageError CommandLine :=
  if flag ∈ line.given then .ok line
  else
    match environment flag.environmentName with
    | some value => line.assign flag value
    | none => .ok line

def read (arguments : List String) (environment : String -> Option String) :
    Except UsageError Settings := do
  let line <- readArguments {} arguments
  let line <- Flag.all.foldlM (readEnvironment environment) line
  return line.settings

end CommandLine

end SniffingRelay
