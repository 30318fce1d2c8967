import PrivacyAudit.Disk.Path
import PrivacyAudit.Numeral.Count

/-!
# Arguments

The command line knows one command, `scan`, with options that take a value and flags that take none.
A value stands behind an equals sign or as the next word, and then it does not begin with a dash
unless it is one. What a value means is settled only when the next option begins or the words end,
so a fault in a word counts before a fault in the value of the option in front of it.
-/

namespace PrivacyAudit.CommandLine

/-- What is asked of the command `scan`. -/
structure Arguments where
  input : Path
  output? : Option Path
  force : Bool
  includes : List String
  excludes : List String
  maxFiles? : Option Nat
  concurrency? : Option String
  sequential : Bool
  config? : Option Path
  deriving DecidableEq, Repr

/-- Why there is nothing to run. -/
inductive Stop
  | helpAsked
  | versionAsked
  /-- There are no words at all. -/
  | nothingAsked
  | unknownCommand
  | unknownArgument
  | missingInput
  | missingValue
  | unwantedValue
  | repeated
  | badNumber
  deriving DecidableEq, Repr

/-! ## 1. Options -/

/-- The options that take a value. -/
inductive Slot
  | input
  | output
  | includes
  | excludes
  | maxFiles
  | concurrency
  | config
  deriving DecidableEq, Repr

/-- The options of the command `scan`. -/
inductive Choice
  | slot (s : Slot)
  | force
  | sequential
  | help
  deriving DecidableEq, Repr

/-- The option of a name. -/
def Choice.ofName? : String → Option Choice
  | "input" => some (.slot .input)
  | "output" => some (.slot .output)
  | "include" => some (.slot .includes)
  | "exclude" => some (.slot .excludes)
  | "max-files" => some (.slot .maxFiles)
  | "concurrency" => some (.slot .concurrency)
  | "config" => some (.slot .config)
  | "force" => some .force
  | "sequential" => some .sequential
  | "help" => some .help
  | _ => none

/-- What has been settled so far. -/
structure Settled where
  input? : Option Path
  output? : Option Path
  force : Bool
  includes : List String
  excludes : List String
  maxFiles? : Option Nat
  concurrency? : Option String
  sequential : Bool
  config? : Option Path
  deriving DecidableEq, Repr

namespace Settled

/-- Nothing settled yet. -/
def nothing : Settled := ⟨none, none, false, [], [], none, none, false, none⟩

/-- The value of an option that may stand only once. -/
def once {α : Type} (old? : Option α) (value : Except Stop α) : Except Stop (Option α) :=
  if old?.isSome then .error .repeated else value.map some

/-- A path, which must not be empty. -/
def path (value : String) : Except Stop Path :=
  if value = "" then .error .missingValue else .ok (.ofText value)

/-- A number of files. -/
def number (value : String) : Except Stop Nat :=
  match Numeral.readCount value with
  | some n => .ok n
  | none => .error .badNumber

/-- Settles the value of an option. -/
def put (s : Settled) (value : String) : Slot → Except Stop Settled
  | .input => do return { s with input? := ← once s.input? (path value) }
  | .output => do return { s with output? := ← once s.output? (path value) }
  | .includes => .ok { s with includes := s.includes ++ [value] }
  | .excludes => .ok { s with excludes := s.excludes ++ [value] }
  | .maxFiles => do return { s with maxFiles? := ← once s.maxFiles? (number value) }
  | .concurrency => do return { s with concurrency? := ← once s.concurrency? (.ok value) }
  | .config => do return { s with config? := ← once s.config? (path value) }

/-- What is asked, if a project is named. -/
def arguments (s : Settled) : Except Stop Arguments :=
  match s.input? with
  | none => .error .missingInput
  | some input => .ok
    { input
      output? := s.output?
      force := s.force
      includes := s.includes
      excludes := s.excludes
      maxFiles? := s.maxFiles?
      concurrency? := s.concurrency?
      sequential := s.sequential
      config? := s.config? }

end Settled

/-! ## 2. Words -/

/-- How far the words have been read: what is settled, and an option that may still get its value or
has got it. -/
structure Progress where
  settled : Settled
  pending? : Option (Slot × Option String)

/-- Settles the option that is pending. -/
def Progress.settle (p : Progress) : Except Stop Settled :=
  match p.pending? with
  | none => .ok p.settled
  | some (_, none) => .error .missingValue
  | some (slot, some value) => p.settled.put value slot

/-- A word as it looks. -/
inductive Word
  /-- Two dashes; all that follows is no option. -/
  | separator
  /-- An option by its name, perhaps with a value behind an equals sign. -/
  | long (name : String) (value? : Option String)
  /-- An option by one letter. -/
  | short (letter : Char)
  | plain (text : String)
  deriving DecidableEq, Repr

/-- The parts of a text in front of and behind its first equals sign. -/
def splitAtEquals : List Char → List Char × Option (List Char)
  | [] => ([], none)
  | c :: rest =>
    if c = '=' then ([], some rest)
    else
      let (name, value?) := splitAtEquals rest
      (c :: name, value?)

/-- How a word looks. -/
def Word.ofText (s : String) : Word :=
  match s.toList with
  | ['-', '-'] => .separator
  | '-' :: '-' :: rest =>
    let (name, value?) := splitAtEquals rest
    .long (String.ofList name) (value?.map String.ofList)
  | '-' :: letter :: _ => .short letter
  | _ => .plain s

/-- Reads an option. -/
def Progress.readChoice (p : Progress) (value? : Option String) : Choice → Except Stop Progress
  | .slot slot => do
    let settled ← p.settle
    match value? with
    | some value => return ⟨← settled.put value slot, none⟩
    | none => return ⟨settled, some (slot, none)⟩
  | .force => do
    if value?.isSome then throw .unwantedValue
    let settled ← p.settle
    if settled.force then throw .repeated
    return ⟨{ settled with force := true }, none⟩
  | .sequential => do
    if value?.isSome then throw .unwantedValue
    let settled ← p.settle
    if settled.sequential then throw .repeated
    return ⟨{ settled with sequential := true }, none⟩
  | .help => do
    if value?.isSome then throw .unwantedValue
    let _ ← p.settle
    throw .helpAsked

/-- Reads the words behind the command `scan`. -/
def Progress.read (p : Progress) : List String → Except Stop Arguments
  | [] => do (← p.settle).arguments
  | word :: words =>
    match Word.ofText word with
    | .separator => if words.isEmpty then do (← p.settle).arguments else .error .unknownArgument
    | .long name value? =>
      match Choice.ofName? name with
      | none => .error .unknownArgument
      | some choice => do (← p.readChoice value? choice).read words
    | .short letter => do
      if letter = 'h' then
        let _ ← p.settle
        throw .helpAsked
      throw .unknownArgument
    | .plain value =>
      match p.pending? with
      | some (slot, none) => Progress.read ⟨p.settled, some (slot, some value)⟩ words
      | _ => .error .unknownArgument

/-- The words that name a command. -/
def commandNames : List String := ["scan", "help"]

/-- What words behind the name of the program ask for. -/
def Arguments.read : List String → Except Stop Arguments
  | [] => .error .nothingAsked
  | word :: words =>
    match Word.ofText word with
    | .plain "scan" => Progress.read ⟨.nothing, none⟩ words
    | .plain "help" =>
      match words with
      | [] => .error .helpAsked
      | [topic] => .error (if commandNames.contains topic then .helpAsked else .unknownCommand)
      | _ => .error .unknownCommand
    | .plain _ => .error .unknownCommand
    | .separator =>
      match words with
      | [] => .error .nothingAsked
      | next :: _ => .error (if commandNames.contains next then .unknownArgument
          else .unknownCommand)
    | .long "help" value? => .error (if value?.isSome then .unwantedValue else .helpAsked)
    | .long "version" value? => .error (if value?.isSome then .unwantedValue else .versionAsked)
    | .long _ _ => .error .unknownArgument
    | .short 'h' => .error .helpAsked
    | .short 'V' => .error .versionAsked
    | .short _ => .error .unknownArgument

end PrivacyAudit.CommandLine
