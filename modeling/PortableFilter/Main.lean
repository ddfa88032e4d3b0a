import PortableFilter.CommandLine
import PortableFilter.Session
import PortableFilter.Settings.Reader

/-! # Running the command

The outer layer of the command: it reads the settings and, for a session, the lines
up to the end of the input, and prints what `Session.execute` says. -/

namespace PortableFilter

/-- Prints to the stream that something belongs to. -/
def Printed.emit : Printed → IO Unit
  | .out text => IO.println text
  | .err text => IO.eprintln text

/-- The settings of a file, or the default ones if there are none to be had. -/
def loadSettings (path : Option String) : IO Settings := do
  match path with
  | none => return {}
  | some path =>
    try
      let bytes ← IO.FS.readBinFile path
      return (Settings.ofBytes bytes).toOption.getD {}
    catch _ => return {}

/-- The lines of standard input. -/
def inputLines : IO (List (List Char)) := do
  let input ← IO.getStdin
  let mut lines := #[]
  repeat
    let line ← input.getLine
    if line.isEmpty then break
    lines := lines.push line.toList
  return lines.toList

end PortableFilter

open PortableFilter in
/-- Runs the command on its arguments. -/
def main (arguments : List String) : IO UInt32 := do
  match CommandLine.parse? arguments with
  | none =>
    IO.eprintln CommandLine.usage
    return 2
  | some line =>
    let settings ← loadSettings line.settingsFile
    let session := Session.start settings line.dialect line.showTree
    let lines ← if line.filter.isSome then pure [] else inputLines
    let (printed, status) := session.execute line.filter lines
    printed.forM Printed.emit
    return UInt32.ofNat status
