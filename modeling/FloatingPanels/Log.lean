/-!
# Log files

Log lines go to the end of a file or nowhere. Opening a file creates it if its
directory is there.
-/

namespace FloatingPanels

abbrev LogFile := Option String

inductive LogSink where
  | file
  /-- Takes everything and keeps nothing. -/
  | discard
  deriving DecidableEq, Repr, Inhabited

inductive LogError where
  | notFound
  deriving DecidableEq, Repr, Inhabited

namespace LogSink

def choose : Option String → LogSink
  | some _ => file
  | none => discard

def opened (f : LogFile) : LogSink → LogFile
  | file => some (f.getD "")
  | discard => f

/-- Opens the sink; `directory` says whether the directory of the file is there. -/
def opened? (f : LogFile) (directory : Bool) (s : LogSink) : Except LogError LogFile :=
  if s = file && !directory then .error .notFound else .ok (s.opened f)

/-- The file after a text was written, and the number of bytes that were taken. -/
def write (f : LogFile) (text : String) : LogSink → LogFile × Nat
  | file => (some (f.getD "" ++ text), text.utf8ByteSize)
  | discard => (f, text.utf8ByteSize)

/-- The file after a sink was opened and the texts were written in turn, and the
number of bytes taken of each. -/
def session (s : LogSink) (f : LogFile) (texts : List String) : LogFile × List Nat :=
  texts.foldl
    (fun (f, counts) text =>
      let (f, n) := s.write f text
      (f, counts ++ [n]))
    (s.opened f, [])

end LogSink

end FloatingPanels
