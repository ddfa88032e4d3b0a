import PortableFilter.Dialect

/-! # The command line

The command takes a file of settings, a dialect, a switch to show trees, and a
filter; each may be left out, and none may be repeated. An option's value stands
behind an equals sign or is the next argument. Behind two hyphens everything is
taken as it is. -/

namespace PortableFilter

/-- What the command is asked to do. -/
structure CommandLine where
  /-- The file that holds the settings. -/
  settingsFile : Option String := none
  dialect : Option Dialect := none
  showTree : Bool := false
  /-- The filter to render; none asks for a session. -/
  filter : Option String := none
  deriving DecidableEq, Repr

namespace CommandLine

/-- Sets the file that holds the settings. -/
def setFile? (path : String) (line : CommandLine) : Option CommandLine :=
  if line.settingsFile.isSome then none else some { line with settingsFile := some path }

/-- Sets the dialect. -/
def setDialect? (name : String) (line : CommandLine) : Option CommandLine :=
  if line.dialect.isSome then none
  else (Dialect.ofName? name).map fun dialect => { line with dialect := some dialect }

/-- Sets the switch to show trees. -/
def setShowTree? (line : CommandLine) : Option CommandLine :=
  if line.showTree then none else some { line with showTree := true }

/-- Sets the filter. -/
def setFilter? (text : String) (line : CommandLine) : Option CommandLine :=
  if line.filter.isSome then none else some { line with filter := some text }

/-- The name of an option and the value behind its equals sign, if there is one. -/
def splitOption (argument : String) : String × Option String :=
  let name := argument.toList.takeWhile (· ≠ '=')
  match argument.toList.drop name.length with
  | _ :: value => (String.ofList name, some (String.ofList value))
  | [] => (argument, none)

/-- Takes arguments as they are. -/
def takeAll? (line : CommandLine) (arguments : List String) : Option CommandLine :=
  arguments.foldlM (fun line argument => line.setFilter? argument) line

/-- Takes an option with its value; none if there is no such option. -/
def takeOption? (line : CommandLine) (name value : String) : Option CommandLine :=
  match name with
  | "--config" | "-c" => line.setFile? value
  | "--dialect" | "-d" => line.setDialect? value
  | _ => none

/-- Takes an argument that stands for itself: the switch, an option with its value behind an equals
sign, or a filter. -/
def takeArgument? (line : CommandLine) (argument : String) : Option CommandLine :=
  if argument = "--ast" then line.setShowTree?
  else if argument.toList.head? = some '-' then
    match splitOption argument with
    | (name, some value) => line.takeOption? name value
    | (_, none) => none
  else line.setFilter? argument

/-- Whether the value of an option is the next argument. -/
def isOpenOption (argument : String) : Bool :=
  ["--config", "-c", "--dialect", "-d"].contains argument

/-- Takes arguments one after the other; none if one of them cannot be taken. -/
def takeFrom? (line : CommandLine) : List String → Option CommandLine
  | [] => some line
  | [argument] => if argument = "--" then some line else line.takeArgument? argument
  | argument :: next :: arguments =>
    if argument = "--" then line.takeAll? (next :: arguments)
    else if isOpenOption argument then
      (line.takeOption? argument next).bind fun line => takeFrom? line arguments
    else (line.takeArgument? argument).bind fun line => takeFrom? line (next :: arguments)

/-- What arguments ask for; none if they cannot be understood. -/
def parse? (arguments : List String) : Option CommandLine := takeFrom? {} arguments

/-- How the command is used. -/
def usage : String := "usage: filterc [--config FILE] [--dialect NAME] [--ast] [--] [FILTER]"

end CommandLine

end PortableFilter
