import PrivacyAudit.Pattern.Fault

/-!
# Reports on faulty patterns

The report on a fault shows the written pattern with carets under the place of the fault. A pattern
of one line is indented by four blanks; the lines of a longer one are numbered and stand between two
rules, and a place that spans several lines is named below them instead.
-/

namespace PrivacyAudit.Pattern

/-- The parts of a text between its line feeds; a text that ends with one has an empty last part. -/
def splitLines : List Char → List (List Char)
  | [] => [[]]
  | c :: rest =>
    match splitLines rest with
    | [] => [[c]]
    | line :: lines => if c == '\n' then [] :: line :: lines else (c :: line) :: lines

/-- A line as it is shown, without a carriage return in front of its line feed. -/
def shownLine (line : List Char) : List Char :=
  if line.getLast? == some '\r' then line.dropLast else line

/-- The lines of a text as they are shown. The part behind the last line feed is a line if it holds
any character; it keeps its carriage return. -/
def shownLines (text : List Char) : List (List Char) :=
  let lines := splitLines text
  let last := lines.getLast?.getD []
  lines.dropLast.map shownLine ++ (if last.isEmpty then [] else [last])

/-- The line and the column of a position, both counted from 1. -/
def lineColumn (text : List Char) (position : Nat) : Nat × Nat :=
  let lines := splitLines (text.take position)
  (lines.length, (lines.getLast?.getD []).length + 1)

/-- A text repeated. -/
def repeated (n : Nat) (c : Char) : String := String.ofList (List.replicate n c)

/-- The carets under a place, behind blanks in front of it. -/
def carets (indent first behind : Nat) : String :=
  repeated (indent + (first - 1)) ' ' ++ repeated (max 1 (behind - first)) '^' ++ "\n"

/-- The lines of a pattern, each behind `lead` and followed by the carets that belong under it. -/
def notated (lead : Nat → String) (marked : Option Nat) (under : String)
    (lines : List (List Char)) : String :=
  String.join ((List.range lines.length).zip lines |>.map fun (i, line) =>
    lead (i + 1) ++ String.ofList line ++ "\n" ++ if marked = some (i + 1) then under else "")

/-- The report on a fault of a written pattern between two positions. -/
def report (text : List Char) (start stop : Nat) (fault : Fault) : String :=
  let (line, first) := lineColumn text start
  let (lastLine, behind) := lineColumn text stop
  let lines := shownLines text
  let marked := if line = lastLine then some line else none
  if text.contains '\n' then
    let rule := repeated 79 '~' ++ "\n"
    let width := (toString (splitLines text).length).length
    let lead (n : Nat) := repeated (width - (toString n).length) ' ' ++ toString n ++ ": "
    let place := if line = lastLine then "" else
      s!"on line {line} (column {first}) through line {lastLine} (column {behind - 1})\n"
    "regex parse error:\n" ++ rule ++ notated lead marked (carets (width + 2) first behind) lines ++
      rule ++ place ++ fault.message
  else
    "regex parse error:\n" ++ notated (fun _ => "    ") marked (carets 4 first behind) lines ++
      fault.message

end PrivacyAudit.Pattern
