/-!
# Faults of a written pattern

The reasons for which the text of a pattern is refused, and their wording.
-/

namespace PrivacyAudit.Pattern

/-- Why a written pattern is refused. -/
inductive Fault
  | classEscape
  | classRangeOrder
  | classRangeBound
  | classUnclosed
  | decimalEmpty
  | decimalInvalid
  | hexEmpty
  | hexNoScalar
  | hexDigit
  | escapeAtEnd
  | escapeUnknown
  | flagDanglingNegation
  | flagDuplicate
  | flagRepeatedNegation
  | flagAtEnd
  | flagUnknown
  | groupNameDuplicate
  | groupNameEmpty
  | groupNameInvalid
  | groupNameAtEnd
  | groupUnclosed
  | groupUnopened
  | nestingTooDeep
  | countOrder
  | countEmpty
  | countUnclosed
  | repetitionMissing
  | wordConditionUnclosed
  | wordConditionUnknown
  | wordConditionAtEnd
  | propertyName
  | backreference
  | lookAround
  | unicodeOff
  | invalidUtf8
  | propertyUnknown
  | propertyValueUnknown
  | tooLarge
  deriving DecidableEq, Repr

/-- The deepest nesting of groups, classes, repetitions, sequences and choices. -/
def nestingLimit : Nat := 250

/-- The largest size of a pattern in memory, in bytes. -/
def sizeLimit : Nat := 10485760

/-- What is wrong, in words. -/
def Fault.reason : Fault → String
  | .classEscape => "invalid escape sequence found in character class"
  | .classRangeOrder => "invalid character class range, the start must be <= the end"
  | .classRangeBound => "invalid range boundary, must be a literal"
  | .classUnclosed => "unclosed character class"
  | .decimalEmpty => "decimal literal empty"
  | .decimalInvalid => "decimal literal invalid"
  | .hexEmpty => "hexadecimal literal empty"
  | .hexNoScalar => "hexadecimal literal is not a Unicode scalar value"
  | .hexDigit => "invalid hexadecimal digit"
  | .escapeAtEnd => "incomplete escape sequence, reached end of pattern prematurely"
  | .escapeUnknown => "unrecognized escape sequence"
  | .flagDanglingNegation => "dangling flag negation operator"
  | .flagDuplicate => "duplicate flag"
  | .flagRepeatedNegation => "flag negation operator repeated"
  | .flagAtEnd => "expected flag but got end of regex"
  | .flagUnknown => "unrecognized flag"
  | .groupNameDuplicate => "duplicate capture group name"
  | .groupNameEmpty => "empty capture group name"
  | .groupNameInvalid => "invalid capture group character"
  | .groupNameAtEnd => "unclosed capture group name"
  | .groupUnclosed => "unclosed group"
  | .groupUnopened => "unopened group"
  | .nestingTooDeep =>
    s!"exceed the maximum number of nested parentheses/brackets ({nestingLimit})"
  | .countOrder => "invalid repetition count range, the start must be <= the end"
  | .countEmpty => "repetition quantifier expects a valid decimal"
  | .countUnclosed => "unclosed counted repetition"
  | .repetitionMissing => "repetition operator missing expression"
  | .wordConditionUnclosed =>
    "special word boundary assertion is either unclosed or contains an invalid character"
  | .wordConditionUnknown =>
    "unrecognized special word boundary assertion, valid choices are: start, end, start-half or end-half"
  | .wordConditionAtEnd =>
    "found either the beginning of a special word boundary or a bounded repetition on a \\b with an opening brace, but no closing brace"
  | .propertyName => "invalid Unicode character class"
  | .backreference => "backreferences are not supported"
  | .lookAround => "look-around, including look-ahead and look-behind, is not supported"
  | .unicodeOff => "Unicode not allowed here"
  | .invalidUtf8 => "pattern can match invalid UTF-8"
  | .propertyUnknown => "Unicode property not found"
  | .propertyValueUnknown => "Unicode property value not found"
  | .tooLarge => s!"Compiled regex exceeds size limit of {sizeLimit} bytes."

/-- The last line of the report on a pattern: the size limit is reported without the word
`error`. -/
def Fault.message : Fault → String
  | .tooLarge => Fault.tooLarge.reason
  | fault => "error: " ++ fault.reason

end PrivacyAudit.Pattern
