import FloatingPanels.Keyed
import FloatingPanels.Text.Numeral
/-!
# The command line

Arguments are read from left to right. An option whose value is a separate
argument stays open until the next option or the end, and only then are its
values looked at, so that a mistake further on can be found first.
-/

namespace FloatingPanels

structure CommandLine where
  logFile : Option String := none
  /-- The largest distance in cells at which windows cling to each other. -/
  sensitivity : Option Int := none
  noCling : Bool := false
  verbose : Bool := false
  deriving DecidableEq, Repr, Inhabited

inductive UsageError where
  | missingValue
  | emptyValue
  /-- A value that is not an integer of 32 bits where one is needed, be it empty. -/
  | malformedValue (value : String)
  | unknownArgument (argument : String)
  | repeated
  | unwantedValue
  | help
  deriving DecidableEq, Repr, Inhabited

namespace CommandLine

def usualSensitivity : Int := 2

inductive Opt where
  | logFile | sensitivity
  deriving DecidableEq, Repr, Inhabited

inductive Flag where
  | noCling | verbose | help
  deriving DecidableEq, Repr, Inhabited

def names : Keyed String (Opt ⊕ Flag) :=
  [("log-file", .inl .logFile), ("sensitivity", .inl .sensitivity), ("no-cling", .inr .noCling),
   ("verbose", .inr .verbose), ("help", .inr .help)]

def letters : Keyed Char Flag := [('v', .verbose), ('h', .help)]

/-- An option that is still open, with the value that it has been given. -/
structure Open where
  option : Opt
  value : Option String := none
  deriving DecidableEq, Repr, Inhabited

structure Progress where
  line : CommandLine := {}
  pending : Option Open := none
  deriving DecidableEq, Repr, Inhabited

def assign (l : CommandLine) (value : String) : Opt → Except UsageError CommandLine
  | .logFile =>
    if l.logFile.isSome then .error .repeated
    else if value.isEmpty then .error .emptyValue
    else .ok { l with logFile := some value }
  | .sensitivity =>
    if l.sensitivity.isSome then .error .repeated
    else
      match Numeral.word? value with
      | none => .error (.malformedValue value)
      | some n => .ok { l with sensitivity := some n }

def raiseFlag (l : CommandLine) : Flag → Except UsageError CommandLine
  | .noCling => if l.noCling then .error .repeated else .ok { l with noCling := true }
  | .verbose => if l.verbose then .error .repeated else .ok { l with verbose := true }
  | .help => .error .help

namespace Progress

/-- The line once the open option is closed. -/
def close (p : Progress) : Except UsageError CommandLine :=
  match p.pending with
  | none => .ok p.line
  | some ⟨_, none⟩ => .error .missingValue
  | some ⟨option, some value⟩ => p.line.assign value option

def flag (p : Progress) (f : Flag) : Except UsageError Progress := do
  return { line := ← (← p.close).raiseFlag f }

def long (p : Progress) (name : String) (value : Option String) : Except UsageError Progress :=
  match names.value? name, value with
  | none, _ => .error (.unknownArgument ("--" ++ name))
  | some (.inr _), some _ => .error .unwantedValue
  | some (.inr f), none => p.flag f
  | some (.inl option), some value => do return { line := ← (← p.close).assign value option }
  | some (.inl option), none => do return { line := ← p.close, pending := some { option } }

def short (p : Progress) : List Char → Except UsageError Progress
  | [] => .ok p
  | c :: cs =>
    match letters.value? c with
    | none => .error (.unknownArgument (String.ofList ['-', c]))
    | some f => do (← p.flag f).short cs

def plain (p : Progress) (s : String) : Except UsageError Progress :=
  match p.pending with
  | some ⟨option, none⟩ => .ok { p with pending := some ⟨option, some s⟩ }
  | _ => .error (.unknownArgument s)

/-- A text up to its first equals sign, and what follows it. -/
def splitEquals (s : List Char) : String × Option String :=
  (String.ofList (s.takeWhile (· ≠ '=')),
   match s.dropWhile (· ≠ '=') with
   | [] => none
   | _ :: value => some (String.ofList value))

def argument (p : Progress) (s : String) : Except UsageError Progress :=
  match s.toList with
  | '-' :: '-' :: cs => let (name, value) := splitEquals cs; p.long name value
  | '-' :: c :: cs => p.short (c :: cs)
  | _ => p.plain s

/-- The arguments from here on. After a bare double hyphen nothing may follow. -/
def arguments (p : Progress) : List String → Except UsageError CommandLine
  | [] => p.close
  | "--" :: [] => p.close
  | "--" :: s :: _ => .error (.unknownArgument s)
  | s :: rest => do (← p.argument s).arguments rest

end Progress

def read (arguments : List String) : Except UsageError CommandLine :=
  Progress.arguments {} arguments

def chosenSensitivity (l : CommandLine) : Int := l.sensitivity.getD usualSensitivity

end CommandLine

end FloatingPanels
