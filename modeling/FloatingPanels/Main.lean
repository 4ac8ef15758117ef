import FloatingPanels.App.Screen
import FloatingPanels.Log
/-!
# The program

Reads lines from the standard input, takes every character of a line as a key,
and prints the screen after each line. A log file takes a line for each refresh
and one for the end.
-/

namespace FloatingPanels

def usage : String :=
  "Usage: floating-panels [--log-file <FILE>] [--sensitivity <CELLS>] [--no-cling] [-v|--verbose]"

/-- What is said about a mistake on the command line. -/
def UsageError.message : UsageError → String
  | missingValue => "an option needs a value"
  | emptyValue => "the value of an option is empty"
  | malformedValue value => "not a number of cells: " ++ value
  | unknownArgument argument => "unexpected argument: " ++ argument
  | repeated => "an option is given twice"
  | unwantedValue => "a flag takes no value"
  | help => usage

/-- The keys of a line in turn, up to the one that quits. -/
def App.type (a : App) : List Char → App × Decision
  | [] => (a, .proceed)
  | c :: cs =>
    match a.press (if c = '\t' then .tab else .char c) with
    | (a, .quit) => (a, .quit)
    | (a, .proceed) => a.type cs

def screenColumns : Nat := 80

def screenRows : Nat := 24

def printScreen (output : IO.FS.Stream) (a : App) : IO Unit := do
  for line in (a.draw screenColumns screenRows).text do
    output.putStrLn line
  output.flush

def log (path : Option String) (text : String) : IO Unit :=
  match path with
  | none => pure ()
  | some path => do
    let file ← IO.FS.Handle.mk path .append
    file.putStr text

/-- Prints the screen and takes a line, until the input ends or a key quits. -/
partial def converse (input output : IO.FS.Stream) (path : Option String) (a : App) :
    IO Unit := do
  printScreen output a
  let line ← input.getLine
  let (b, decision) := a.type (line.toList.filter (· ≠ '\n'))
  if b.refreshes ≠ a.refreshes then log path s!"refreshes: {b.refreshes}\n"
  if line.isEmpty || decision = .quit then log path "desktop closed\n"
  else converse input output path b

end FloatingPanels

open FloatingPanels in
def main (arguments : List String) : IO UInt32 := do
  match CommandLine.read arguments with
  | .error .help => IO.println usage; return 0
  | .error e => IO.eprintln e.message; return 2
  | .ok line =>
    log line.logFile ""
    converse (← IO.getStdin) (← IO.getStdout) line.logFile (App.start line screenColumns screenRows)
    return 0
