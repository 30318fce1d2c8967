import PrivacyAudit.Pattern.Expr
import PrivacyAudit.Pattern.Fault
import PrivacyAudit.Pattern.Meta
import PrivacyAudit.Text.Blank
import PrivacyAudit.Text.Letter

/-!
# Reading a pattern

`Expr.read` reads the text of a pattern from left to right and reports the first fault that it
meets. In verbose mode white space and comments between the tokens are skipped. The readers of the
parts take what is left of the text and answer what they leave of it; the loops over a whole class
and a whole pattern are bounded by the length of the text, of which every round reads at least one
character.
-/

namespace PrivacyAudit.Pattern

open Text (isBlank isAlphabetic isAlphanumeric)

/-- The text that a reader has left. -/
abbrev Rest := List Char

/-! ## 1. White space and numbers -/

/-- What is left behind white space and comments; `comment` while inside a comment. -/
def skipVerbose (comment : Bool) : Rest → Rest
  | [] => []
  | c :: rest =>
    if comment then skipVerbose (c != '\n') rest
    else if isBlank c then skipVerbose false rest
    else if c == '#' then skipVerbose true rest
    else c :: rest

/-- What is left behind the white space and comments that verbose mode passes over. -/
def skip (verbose : Bool) (rest : Rest) : Rest := if verbose then skipVerbose false rest else rest

/-- The next character behind white space and at most one opened comment. -/
def peekBehindSpace (verbose : Bool) (rest : Rest) : Option Char :=
  if verbose then
    match rest.dropWhile isBlank with
    | '#' :: rest => (rest.dropWhile isBlank).head?
    | rest => rest.head?
  else rest.head?

/-- The value of a decimal digit of ASCII. -/
def digit? (c : Char) : Option Nat := if c.isDigit then some (c.toNat - '0'.toNat) else none

/-- The value of a hexadecimal digit. -/
def hexDigit? (c : Char) : Option Nat :=
  if c.isDigit then some (c.toNat - '0'.toNat)
  else if 'a' ≤ c ∧ c ≤ 'f' then some (c.toNat - 'a'.toNat + 10)
  else if 'A' ≤ c ∧ c ≤ 'F' then some (c.toNat - 'A'.toNat + 10)
  else none

/-- The decimal digits at the front: their number, their value, and what is left. Verbose mode
passes over white space and comments behind a digit; `comment` while inside a comment. -/
def readDigits (verbose comment : Bool) : (count value : Nat) → Rest → Nat × Nat × Rest
  | count, value, [] => (count, value, [])
  | count, value, c :: rest =>
    if comment then readDigits verbose (c != '\n') count value rest
    else match digit? c with
      | some d => readDigits verbose false (count + 1) (value * 10 + d) rest
      | none =>
        if verbose && count != 0 && isBlank c then readDigits verbose false count value rest
        else if verbose && count != 0 && c == '#' then readDigits verbose true count value rest
        else (count, value, c :: rest)

/-- The largest number of repetitions that can be written. -/
def countLimit : Nat := 4294967295

/-- A decimal number with white space around it, and what is left in either case. -/
def readCount (verbose : Bool) (rest : Rest) : Except Fault Nat × Rest :=
  let (count, value, rest) := readDigits verbose false 0 0 (rest.dropWhile isBlank)
  let rest := if rest.head?.any isBlank then skip verbose (rest.dropWhile isBlank) else rest
  (if count = 0 then .error .countEmpty
   else if value > countLimit then .error .decimalInvalid
   else .ok value, rest)

/-! ## 2. Escapes -/

/-- The character with a number, unless the number is no scalar value. -/
def scalar? (n : Nat) : Except Fault Char :=
  if n < 0xD800 ∨ (0xDFFF < n ∧ n < 0x110000) then .ok (Char.ofNat n) else .error .hexNoScalar

/-- A fixed number of hexadecimal digits. -/
def readHexFixed (verbose : Bool) : (digits value : Nat) → Rest → Except Fault (Nat × Rest)
  | 0, value, rest => .ok (value, rest)
  | _ + 1, _, [] => .error .escapeAtEnd
  | digits + 1, value, c :: rest =>
    match hexDigit? c with
    | none => .error .hexDigit
    | some d => readHexFixed verbose digits (value * 16 + d) (skip verbose rest)

/-- Hexadecimal digits up to a closing brace; `comment` while inside a comment of verbose mode. -/
def readHexBraced (verbose comment : Bool) :
    (digits value : Nat) → Rest → Except Fault (Nat × Nat × Rest)
  | _, _, [] => .error .escapeAtEnd
  | digits, value, c :: rest =>
    if comment then readHexBraced verbose (c != '\n') digits value rest
    else if verbose && isBlank c then readHexBraced verbose false digits value rest
    else if verbose && c == '#' then readHexBraced verbose true digits value rest
    else if c == '}' then .ok (digits, value, skip verbose rest)
    else match hexDigit? c with
      | none => .error .hexDigit
      | some d => readHexBraced verbose false (digits + 1) (value * 16 + d) rest

/-- A character by its hexadecimal number; the letter `kind` of the escape has just been read. -/
def readHex (verbose : Bool) (kind : Char) (rest : Rest) : Except Fault (Expr × Rest) := do
  match skip verbose rest with
  | [] => throw .escapeAtEnd
  | '{' :: rest =>
    let (digits, value, rest) ← readHexBraced verbose false 0 0 rest
    if digits = 0 then throw .hexEmpty
    return (.literal (← scalar? value) false, rest)
  | rest =>
    let digits := if kind == 'x' then 2 else if kind == 'u' then 4 else 8
    let (value, rest) ← readHexFixed verbose digits 0 rest
    return (.literal (← scalar? value) (kind == 'x'), rest)

/-- The text up to a closing brace, without what verbose mode passes over. -/
def readBraced (verbose comment : Bool) (read : List Char) : Rest → Except Fault (List Char × Rest)
  | [] => .error .escapeAtEnd
  | c :: rest =>
    if comment then readBraced verbose (c != '\n') read rest
    else if verbose && isBlank c then readBraced verbose false read rest
    else if verbose && c == '#' then readBraced verbose true read rest
    else if c == '}' then .ok (read.reverse, rest)
    else readBraced verbose false (c :: read) rest

/-- The parts of a text before and behind the first occurrence of a separator. -/
def splitAtFirst? (separator : List Char) : List Char → Option (List Char × List Char)
  | [] => none
  | c :: rest =>
    if separator.isPrefixOf (c :: rest) then some ([], (c :: rest).drop separator.length)
    else (splitAtFirst? separator rest).map fun (before, behind) => (c :: before, behind)

/-- The property that a braced text asks for. -/
def propertyQuery (text : List Char) : PropertyQuery :=
  match splitAtFirst? ['!', '='] text with
  | some (name, value) => .valued (String.ofList name) (String.ofList value) true
  | none =>
    match splitAtFirst? [':'] text with
    | some (name, value) => .valued (String.ofList name) (String.ofList value) false
    | none =>
      match splitAtFirst? ['='] text with
      | some (name, value) => .valued (String.ofList name) (String.ofList value) false
      | none => .named (String.ofList text)

/-- A Unicode property; the letter of the escape has just been read. -/
def readProperty (verbose negated : Bool) (rest : Rest) : Except Fault (Expr × Rest) := do
  match skip verbose rest with
  | [] => throw .escapeAtEnd
  | '{' :: rest =>
    let (text, rest) ← readBraced verbose false [] rest
    return (.property (propertyQuery text) negated, rest)
  | '\\' :: _ => throw .propertyName
  | c :: rest => return (.property (.named (String.singleton c)) negated, skip verbose rest)

/-- Whether a backslash before the character changes nothing. -/
def isPlainEscape (c : Char) : Bool :=
  isMeta c || (c.toNat < 0x80 && !c.isAlphanum && c != '<' && c != '>')

/-- The letters and the minus sign in front, without what verbose mode passes over between them. -/
def readWordCondition (verbose comment : Bool) (read : List Char) : Rest → List Char × Rest
  | [] => (read.reverse, [])
  | c :: rest =>
    if comment then readWordCondition verbose (c != '\n') read rest
    else if verbose && isBlank c then readWordCondition verbose false read rest
    else if verbose && c == '#' then readWordCondition verbose true read rest
    else if c.isAlpha || c == '-' then readWordCondition verbose false (c :: read) rest
    else (read.reverse, c :: rest)

/-- A word boundary that may be named in braces; what stands behind `\b` is left. Braces that begin
with anything but a letter or a minus sign belong to a repetition. -/
def readBoundary (verbose : Bool) (rest : Rest) : Except Fault (Expr × Rest) :=
  match rest with
  | '{' :: inside =>
    match skip verbose inside with
    | [] => .error .wordConditionAtEnd
    | c :: _ =>
      if c.isAlpha || c == '-' then
        match readWordCondition verbose false [] (skip verbose inside) with
        | (name, '}' :: rest) =>
          match String.ofList name with
          | "start" => .ok (.anchor .wordStart, rest)
          | "end" => .ok (.anchor .wordEnd, rest)
          | "start-half" => .ok (.anchor .wordStartHalf, rest)
          | "end-half" => .ok (.anchor .wordEndHalf, rest)
          | _ => .error .wordConditionUnknown
        | _ => .error .wordConditionUnclosed
      else .ok (.anchor .boundary, rest)
  | _ => .ok (.anchor .boundary, rest)

/-- An escape; its backslash has just been read. -/
def readEscape (verbose : Bool) : Rest → Except Fault (Expr × Rest)
  | [] => .error .escapeAtEnd
  | c :: rest =>
    if c.isDigit then .error .backreference
    else if isPlainEscape c then .ok (.literal c false, rest)
    else match c with
      | 'x' | 'u' | 'U' => readHex verbose c rest
      | 'p' => readProperty verbose false rest
      | 'P' => readProperty verbose true rest
      | 'd' => .ok (.shorthand .digit false, rest)
      | 's' => .ok (.shorthand .blank false, rest)
      | 'w' => .ok (.shorthand .word false, rest)
      | 'D' => .ok (.shorthand .digit true, rest)
      | 'S' => .ok (.shorthand .blank true, rest)
      | 'W' => .ok (.shorthand .word true, rest)
      | 'a' => .ok (.literal '\x07' false, rest)
      | 'f' => .ok (.literal '\x0C' false, rest)
      | 't' => .ok (.literal '\t' false, rest)
      | 'n' => .ok (.literal '\n' false, rest)
      | 'r' => .ok (.literal '\r' false, rest)
      | 'v' => .ok (.literal '\x0B' false, rest)
      | 'A' => .ok (.anchor .textStart, rest)
      | 'z' => .ok (.anchor .textEnd, rest)
      | 'b' => readBoundary verbose rest
      | 'B' => .ok (.anchor .inner, rest)
      | '<' => .ok (.anchor .wordStart, rest)
      | '>' => .ok (.anchor .wordEnd, rest)
      | _ => .error .escapeUnknown

/-- One character or escape outside brackets; the text is not at its end. -/
def readPrimitive (verbose : Bool) : Rest → Except Fault (Expr × Rest)
  | [] => .error .escapeAtEnd
  | '\\' :: rest => readEscape verbose rest
  | '.' :: rest => .ok (.dot, rest)
  | '^' :: rest => .ok (.anchor .lineStart, rest)
  | '$' :: rest => .ok (.anchor .lineEnd, rest)
  | c :: rest => .ok (.literal c false, rest)

/-! ## 3. Bracketed classes -/

/-- The name of a class of ASCII characters. -/
def asciiClass? : String → Option AsciiClass
  | "alnum" => some .alnum
  | "alpha" => some .alpha
  | "ascii" => some .ascii
  | "blank" => some .blank
  | "cntrl" => some .cntrl
  | "digit" => some .digit
  | "graph" => some .graph
  | "lower" => some .lower
  | "print" => some .print
  | "punct" => some .punct
  | "space" => some .space
  | "upper" => some .upper
  | "word" => some .word
  | "xdigit" => some .xdigit
  | _ => none

/-- A named class such as `[:alpha:]`; its bracket has just been read. -/
def readAsciiClass? : Rest → Option (ClassExpr × Rest)
  | ':' :: rest =>
    let (negated, rest) := match rest with
      | '^' :: rest => (true, rest)
      | rest => (false, rest)
    match rest.dropWhile (· != ':') with
    | ':' :: ']' :: after =>
      (asciiClass? (String.ofList (rest.takeWhile (· != ':')))).map fun cls =>
        (.ascii cls negated, after)
    | _ => none
  | _ => none

/-- One level of brackets: the items since the last operator, the latest first, and the operator
with all that stands before it. -/
structure ClassLevel where
  items : List ClassExpr
  pending : Option (ClassOp × ClassExpr)

/-- The class that the items form together. -/
def ClassExpr.ofItems : List ClassExpr → ClassExpr
  | [] => .empty
  | [item] => item
  | items => .union items

/-- The class that a level stands for. -/
def ClassLevel.close (level : ClassLevel) : ClassExpr :=
  let right := ClassExpr.ofItems level.items.reverse
  match level.pending with
  | none => right
  | some (kind, left) => .op kind left right

/-- The level with an item more. -/
def ClassLevel.push (level : ClassLevel) (item : ClassExpr) : ClassLevel :=
  { level with items := item :: level.items }

/-- The level behind an operator. -/
def ClassLevel.operator (level : ClassLevel) (kind : ClassOp) : ClassLevel :=
  ⟨[], some (kind, level.close)⟩

/-- The minus signs in front, which stand for themselves; a text that ends here leaves a class
open. -/
def readMinusSigns (verbose : Bool) : (comment : Bool) → List ClassExpr → Rest →
    Except Fault (List ClassExpr × Rest)
  | _, _, [] => .error .classUnclosed
  | true, items, c :: rest => readMinusSigns verbose (c != '\n') items rest
  | false, items, c :: rest =>
    if verbose && isBlank c then readMinusSigns verbose false items rest
    else if verbose && c == '#' then readMinusSigns verbose true items rest
    else if c == '-' then readMinusSigns verbose false (.literal '-' false :: items) rest
    else .ok (items, c :: rest)

/-- The start of a class behind its bracket: whether it is negated, and the minus signs or the
closing bracket in front that stand for themselves. -/
def readClassOpen (verbose : Bool) (rest : Rest) : Except Fault (Bool × ClassLevel × Rest) := do
  let (negated, rest) := match skip verbose rest with
    | '^' :: rest => (true, skip verbose rest)
    | rest => (false, rest)
  let (items, rest) ← readMinusSigns verbose false [] rest
  match items, rest with
  | [], ']' :: rest =>
    let rest := skip verbose rest
    if rest.isEmpty then throw .classUnclosed
    return (negated, ⟨[.literal ']' false], none⟩, rest)
  | items, rest => return (negated, ⟨items, none⟩, rest)

/-- One character or escape inside brackets. -/
def readClassPrimitive (verbose : Bool) : Rest → Except Fault (Expr × Rest)
  | [] => .error .classUnclosed
  | '\\' :: rest => readEscape verbose rest
  | c :: rest => .ok (.literal c false, rest)

/-- A character or class of characters as an item of a bracketed class. -/
def classItem : Expr → Except Fault ClassExpr
  | .literal c byte => .ok (.literal c byte)
  | .shorthand cls negated => .ok (.shorthand cls negated)
  | .property query negated => .ok (.property query negated)
  | _ => .error .classEscape

/-- The end of a range. -/
def rangeBound : Expr → Except Fault (Char × Bool)
  | .literal c byte => .ok (c, byte)
  | _ => .error .classRangeBound

/-- An item of a class or a range between two. -/
def readClassRange (verbose : Bool) (rest : Rest) : Except Fault (ClassExpr × Rest) := do
  let (first, rest) ← readClassPrimitive verbose rest
  match skip verbose rest with
  | [] => throw .classUnclosed
  | '-' :: behind =>
    let next := peekBehindSpace verbose behind
    if next == some ']' || next == some '-' then
      return (← classItem first, '-' :: behind)
    let behind := skip verbose behind
    if behind.isEmpty then throw .classUnclosed
    let (last, rest) ← readClassPrimitive verbose behind
    let (a, aByte) ← rangeBound first
    let (b, bByte) ← rangeBound last
    if b < a then throw .classRangeOrder
    return (.range a aByte b bByte, rest)
  | rest => return (← classItem first, rest)

/-- The classes around the one being read, each with whether the one inside it is negated. -/
abbrev ClassStack := List (Bool × ClassLevel)

/-- A bracketed class from inside its first bracket on; `negated` belongs to the innermost class. -/
def readClassFrom (verbose : Bool) : (fuel : Nat) → (negated : Bool) → ClassLevel →
    ClassStack → Rest → Except Fault (Expr × Rest)
  | 0, _, _, _, _ => .error .classUnclosed
  | fuel + 1, negated, level, outer, rest =>
    match skip verbose rest with
    | [] => .error .classUnclosed
    | '[' :: rest =>
      match readAsciiClass? rest with
      | some (item, rest) => readClassFrom verbose fuel negated (level.push item) outer rest
      | none => do
        let (inner, fresh, rest) ← readClassOpen verbose rest
        readClassFrom verbose fuel inner fresh ((negated, level) :: outer) rest
    | ']' :: rest =>
      match outer with
      | [] => .ok (.bracketed negated level.close, rest)
      | (outerNegated, outerLevel) :: outer =>
        readClassFrom verbose fuel outerNegated
          (outerLevel.push (.bracketed negated level.close)) outer
          rest
    | '&' :: '&' :: rest =>
      readClassFrom verbose fuel negated (level.operator .intersection) outer rest
    | '-' :: '-' :: rest =>
      readClassFrom verbose fuel negated (level.operator .difference) outer rest
    | '~' :: '~' :: rest =>
      readClassFrom verbose fuel negated (level.operator .symmetricDifference) outer rest
    | rest => do
      let (item, rest) ← readClassRange verbose rest
      readClassFrom verbose fuel negated (level.push item) outer rest

/-- A bracketed class; its bracket has just been read. -/
def readClass (verbose : Bool) (rest : Rest) : Except Fault (Expr × Rest) := do
  let (negated, level, left) ← readClassOpen verbose rest
  readClassFrom verbose (rest.length + 1) negated level [] left

/-! ## 4. Groups, repetitions and the whole pattern -/

/-- The letter of a flag. -/
def flag? : Char → Option Flag
  | 'i' => some .ignoreCase
  | 'm' => some .multiLine
  | 's' => some .dotAll
  | 'U' => some .swapGreed
  | 'u' => some .unicode
  | 'R' => some .carriageReturn
  | 'x' => some .verbose
  | _ => none

/-- Flags up to the colon or the bracket that ends them, which is left. `negated` once a minus sign
was read, `dangling` if it was the last character. -/
def readFlags (negated dangling : Bool) (change : FlagChange) :
    Rest → Except Fault (FlagChange × Rest)
  | [] => .error .flagAtEnd
  | c :: rest =>
    if c == ':' || c == ')' then
      if dangling then .error .flagDanglingNegation else .ok (change, c :: rest)
    else if c == '-' then
      if negated then .error .flagRepeatedNegation
      else readFlags true true change rest
    else match flag? c with
      | none => .error .flagUnknown
      | some flag =>
        if change.on.contains flag || change.off.contains flag then .error .flagDuplicate
        else
          readFlags negated false
            (if negated then { change with off := change.off ++ [flag] }
             else { change with on := change.on ++ [flag] }) rest

/-- The name of a group up to the angle bracket that ends it; `read` holds it backwards. -/
def readGroupName (read : List Char) : Rest → Except Fault (String × Rest)
  | [] => .error .groupNameAtEnd
  | c :: rest =>
    if c == '>' then
      if read.isEmpty then .error .groupNameEmpty else .ok (String.ofList read.reverse, rest)
    else if c == '_' || (if read.isEmpty then isAlphabetic c
        else c == '.' || c == '[' || c == ']' || isAlphanumeric c) then
      readGroupName (c :: read) rest
    else .error .groupNameInvalid

/-- The sequences of one group that are complete, the latest first, and the parts of the sequence
being read, the latest first. -/
structure Level where
  choices : List Expr
  parts : List Expr

/-- The expression that parts form one after the other. -/
def Expr.ofParts : List Expr → Expr
  | [] => .empty
  | [part] => part
  | parts => .sequence parts

/-- The sequence being read. -/
def Level.current (level : Level) : Expr := Expr.ofParts level.parts.reverse

/-- The expression that a level stands for. -/
def Level.close (level : Level) : Expr :=
  match level.choices with
  | [] => level.current
  | choices => .choice (level.current :: choices).reverse

/-- The level with a part more. -/
def Level.push (level : Level) (part : Expr) : Level := { level with parts := part :: level.parts }

/-- A group that is open: what stands around it, its number and flags, and the mode in force
there. -/
structure OpenGroup where
  around : Level
  number : Option Nat
  change : FlagChange
  verbose : Bool

/-- Where the reader of a pattern stands. -/
structure ReadState where
  verbose : Bool
  groups : Nat
  names : List String
  level : Level
  openGroups : List OpenGroup

/-- The state before the first character. -/
def ReadState.start : ReadState := ⟨false, 0, [], ⟨[], []⟩, []⟩

/-- The state inside a new group. -/
def ReadState.enter (state : ReadState) (number : Option Nat) (change : FlagChange) : ReadState :=
  { state with
    verbose := (change.value? .verbose).getD state.verbose
    level := ⟨[], []⟩
    openGroups := ⟨state.level, number, change, state.verbose⟩ :: state.openGroups }

/-- No flags at all. -/
def FlagChange.empty : FlagChange := ⟨[], []⟩

/-- Whether the text, behind a bracket, asks for a condition on the text around. -/
def isLookAround : Rest → Bool
  | '?' :: '=' :: _ | '?' :: '!' :: _ | '?' :: '<' :: '=' :: _ | '?' :: '<' :: '!' :: _ => true
  | _ => false

/-- A group that captures under a name; the angle bracket before the name has just been read. -/
def readNamedGroup (state : ReadState) (rest : Rest) : Except Fault (ReadState × Rest) := do
  let (name, rest) ← readGroupName [] rest
  if state.names.contains name then throw .groupNameDuplicate
  let state := { state with groups := state.groups + 1, names := name :: state.names }
  return (state.enter (some state.groups) .empty, rest)

/-- A group or a change of flags; its bracket has just been read. -/
def readGroup (state : ReadState) (rest : Rest) : Except Fault (ReadState × Rest) := do
  let rest := skip state.verbose rest
  if isLookAround rest then throw .lookAround
  match rest with
  | '?' :: 'P' :: '<' :: rest => readNamedGroup state rest
  | '?' :: '<' :: rest => readNamedGroup state rest
  | '?' :: rest =>
    if rest.isEmpty then throw .groupUnclosed
    let (change, rest) ← readFlags false false .empty rest
    match rest with
    | ')' :: rest =>
      if change.on.isEmpty && change.off.isEmpty then throw .repetitionMissing
      return ({ state with
        verbose := (change.value? .verbose).getD state.verbose
        level := state.level.push (.flags change) }, rest)
    | rest => return (state.enter none change, rest.drop 1)
  | rest =>
    let state := { state with groups := state.groups + 1 }
    return (state.enter (some state.groups) .empty, rest)

/-- The end of a group. -/
def ReadState.leave (state : ReadState) : Except Fault ReadState :=
  match state.openGroups with
  | [] => .error .groupUnopened
  | outer :: openGroups =>
    .ok { state with
      verbose := outer.verbose
      level := outer.around.push (.group outer.number outer.change state.level.close)
      openGroups }

/-- The part that a repetition applies to, and the level without it. Flags cannot be repeated. -/
def Level.popPart (level : Level) : Except Fault (Expr × Level) :=
  match level.parts with
  | [] => .error .repetitionMissing
  | .empty :: _ => .error .repetitionMissing
  | .flags _ :: _ => .error .repetitionMissing
  | part :: parts => .ok (part, { level with parts })

/-- Whether a question mark, which makes a repetition reluctant, comes next; and what is left. -/
def readReluctance : Rest → Bool × Rest
  | '?' :: rest => (false, rest)
  | rest => (true, rest)

/-- The bounds of a counted repetition up to its closing brace; the opening brace has just been
read. -/
def readBounds (verbose : Bool) (rest : Rest) : Except Fault (Nat × Option Nat × Rest) := do
  let rest := skip verbose rest
  if rest.isEmpty then throw .countUnclosed
  let (least, rest) := readCount verbose rest
  let (least, most, rest) ← match rest with
    | [] => throw .countUnclosed
    | ',' :: rest =>
      match skip verbose rest with
      | [] => throw .countUnclosed
      | '}' :: rest => do
        let least ← least
        pure (least, none, '}' :: rest)
      | rest => do
        let least ← least
        let (most, rest) := readCount verbose rest
        let most ← most
        pure (least, some most, rest)
    | rest => do
      let least ← least
      pure (least, some least, rest)
  match rest with
  | '}' :: rest => return (least, most, skip verbose rest)
  | _ => throw .countUnclosed

/-- A counted repetition; its brace has just been read. -/
def readCounted (state : ReadState) (rest : Rest) : Except Fault (ReadState × Rest) := do
  let (part, level) ← state.level.popPart
  let (least, most, rest) ← readBounds state.verbose rest
  let (greedy, rest) := readReluctance rest
  if most.any (· < least) then throw .countOrder
  return ({ state with level := level.push (.repeated part least most greedy) }, rest)

/-- A repetition by one sign, which has just been read. -/
def readUncounted (state : ReadState) (least : Nat) (most : Option Nat) (rest : Rest) :
    Except Fault (ReadState × Rest) := do
  let (part, level) ← state.level.popPart
  let (greedy, rest) := readReluctance rest
  return ({ state with level := level.push (.repeated part least most greedy) }, rest)

/-- One token of a pattern. -/
def readToken (state : ReadState) : Rest → Except Fault (ReadState × Rest)
  | [] => .ok (state, [])
  | '(' :: rest => readGroup state rest
  | ')' :: rest => do
    let state ← state.leave
    return (state, rest)
  | '|' :: rest =>
    .ok ({ state with level := ⟨state.level.current :: state.level.choices, []⟩ }, rest)
  | '[' :: rest => do
    let (cls, rest) ← readClass state.verbose rest
    return ({ state with level := state.level.push cls }, rest)
  | '?' :: rest => readUncounted state 0 (some 1) rest
  | '*' :: rest => readUncounted state 0 none rest
  | '+' :: rest => readUncounted state 1 none rest
  | '{' :: rest => readCounted state rest
  | rest => do
    let (part, rest) ← readPrimitive state.verbose rest
    return ({ state with level := state.level.push part }, rest)

/-- The whole expression at the end of the text. -/
def ReadState.finish (state : ReadState) : Except Fault Expr :=
  match state.openGroups with
  | [] => .ok state.level.close
  | _ => .error .groupUnclosed

/-- The tokens of a pattern one after the other. -/
def readTokens : (fuel : Nat) → ReadState → Rest → Except Fault Expr
  | 0, state, _ => state.finish
  | fuel + 1, state, rest =>
    match skip state.verbose rest with
    | [] => state.finish
    | rest =>
      match readToken state rest with
      | .error fault => .error fault
      | .ok (state, rest) => readTokens fuel state rest

/-- Reads a written pattern. Too deep a nesting is found when all else is well. -/
def Expr.read (text : List Char) : Except Fault Expr := do
  let expr ← readTokens (text.length + 1) .start text
  if expr.depth > nestingLimit then throw .nestingTooDeep
  return expr

end PrivacyAudit.Pattern
