import PrivacyAudit.Pattern.CharSet
import PrivacyAudit.Pattern.Expr
import PrivacyAudit.Pattern.Fault
import PrivacyAudit.Text.Blank
import PrivacyAudit.Text.Category
import PrivacyAudit.Text.Digit
import PrivacyAudit.Text.Letter
import PrivacyAudit.Text.Lower

/-!
# Unicode properties in patterns

The general categories, under their long names and abbreviations, and the binary properties that
this library has tables for. Names are compared without regard to case, white space, hyphens,
underscores and a leading `is`.
-/

namespace PrivacyAudit.Pattern

open Text

/-- A name as it is looked up: small letters without separators and without a leading `is`. -/
def looseName (name : String) : String :=
  let cs := (name.toList.filter fun c => !(c.isWhitespace || c == '_' || c == '-')).filterMap
    fun c => if c.toNat < 0x80 then some c.toLower else none
  match cs with
  | 'i' :: 's' :: 'c' :: [] => "isc"
  | 'i' :: 's' :: rest => String.ofList rest
  | cs => String.ofList cs

/-- The code points of all assigned categories. -/
def assignedRanges : List (Nat × Nat) :=
  uppercaseLetterRanges ++ lowercaseLetterRanges ++ titlecaseLetterRanges ++ modifierLetterRanges ++
  otherLetterRanges ++ nonspacingMarkRanges ++ spacingMarkRanges ++ enclosingMarkRanges ++
  digitRanges ++
  letterNumberRanges ++ otherNumberRanges ++ connectorPunctuationRanges ++ dashPunctuationRanges ++
  openPunctuationRanges ++ closePunctuationRanges ++ initialPunctuationRanges ++
  finalPunctuationRanges ++ otherPunctuationRanges ++ mathSymbolRanges ++ currencySymbolRanges ++
  modifierSymbolRanges ++ otherSymbolRanges ++ spaceSeparatorRanges ++ lineSeparatorRanges ++
  paragraphSeparatorRanges ++ controlRanges ++ formatRanges ++ privateUseRanges ++
  [(0xD800, 0xDFFF)]

/-- The code points of no assigned category. -/
def unassigned : CharSet := (CharSet.ofRanges assignedRanges).complement

/-- The set of a general category, by its loose name. -/
def category? (name : String) : Option CharSet :=
  match name with
  | "lu" | "uppercaseletter" => some (.ofRanges uppercaseLetterRanges)
  | "ll" | "lowercaseletter" => some (.ofRanges lowercaseLetterRanges)
  | "lt" | "titlecaseletter" => some (.ofRanges titlecaseLetterRanges)
  | "lc" | "casedletter" =>
    some (.ofRanges (uppercaseLetterRanges ++ lowercaseLetterRanges ++ titlecaseLetterRanges))
  | "lm" | "modifierletter" => some (.ofRanges modifierLetterRanges)
  | "lo" | "otherletter" => some (.ofRanges otherLetterRanges)
  | "l" | "letter" =>
    some (.ofRanges (uppercaseLetterRanges ++ lowercaseLetterRanges ++ titlecaseLetterRanges ++
      modifierLetterRanges ++ otherLetterRanges))
  | "mn" | "nonspacingmark" => some (.ofRanges nonspacingMarkRanges)
  | "mc" | "spacingmark" => some (.ofRanges spacingMarkRanges)
  | "me" | "enclosingmark" => some (.ofRanges enclosingMarkRanges)
  | "m" | "mark" | "combiningmark" =>
    some (.ofRanges (nonspacingMarkRanges ++ spacingMarkRanges ++ enclosingMarkRanges))
  | "nd" | "decimalnumber" | "digit" => some (.ofRanges digitRanges)
  | "nl" | "letternumber" => some (.ofRanges letterNumberRanges)
  | "no" | "othernumber" => some (.ofRanges otherNumberRanges)
  | "n" | "number" => some (.ofRanges numericRanges)
  | "pc" | "connectorpunctuation" => some (.ofRanges connectorPunctuationRanges)
  | "pd" | "dashpunctuation" => some (.ofRanges dashPunctuationRanges)
  | "ps" | "openpunctuation" => some (.ofRanges openPunctuationRanges)
  | "pe" | "closepunctuation" => some (.ofRanges closePunctuationRanges)
  | "pi" | "initialpunctuation" => some (.ofRanges initialPunctuationRanges)
  | "pf" | "finalpunctuation" => some (.ofRanges finalPunctuationRanges)
  | "po" | "otherpunctuation" => some (.ofRanges otherPunctuationRanges)
  | "p" | "punctuation" | "punct" =>
    some (.ofRanges (connectorPunctuationRanges ++ dashPunctuationRanges ++ openPunctuationRanges ++
      closePunctuationRanges ++ initialPunctuationRanges ++ finalPunctuationRanges ++
      otherPunctuationRanges))
  | "sm" | "mathsymbol" => some (.ofRanges mathSymbolRanges)
  | "sc" | "currencysymbol" => some (.ofRanges currencySymbolRanges)
  | "sk" | "modifiersymbol" => some (.ofRanges modifierSymbolRanges)
  | "so" | "othersymbol" => some (.ofRanges otherSymbolRanges)
  | "s" | "symbol" =>
    some (.ofRanges (mathSymbolRanges ++ currencySymbolRanges ++ modifierSymbolRanges ++
      otherSymbolRanges))
  | "zs" | "spaceseparator" => some (.ofRanges spaceSeparatorRanges)
  | "zl" | "lineseparator" => some (.ofRanges lineSeparatorRanges)
  | "zp" | "paragraphseparator" => some (.ofRanges paragraphSeparatorRanges)
  | "z" | "separator" =>
    some (.ofRanges (spaceSeparatorRanges ++ lineSeparatorRanges ++ paragraphSeparatorRanges))
  | "cc" | "control" | "cntrl" => some (.ofRanges controlRanges)
  | "cf" | "format" => some (.ofRanges formatRanges)
  | "cs" | "surrogate" => some .none
  | "co" | "privateuse" => some (.ofRanges privateUseRanges)
  | "cn" | "unassigned" => some unassigned
  | "c" | "other" =>
    some (.union (.ofRanges (controlRanges ++ formatRanges ++ privateUseRanges)) unassigned)
  | "any" => some .all
  | "ascii" => some (.range 0 0x7F)
  | "assigned" => some unassigned.complement
  | _ => none

/-- The set of a binary property, by its loose name. -/
def binaryProperty? (name : String) : Option CharSet :=
  match name with
  | "alphabetic" | "alpha" => some (.ofRanges alphabeticRanges)
  | "whitespace" | "wspace" | "space" => some (.ofRanges blankRanges)
  | "cased" => some (.ofRanges casedRanges)
  | "caseignorable" | "ci" => some (.ofRanges caseIgnorableRanges)
  | _ => none

/-- The set that a query asks for. -/
def PropertyQuery.find : PropertyQuery → Except Fault CharSet
  | .named name =>
    let name := looseName name
    match (binaryProperty? name).orElse fun _ => category? name with
    | some s => .ok s
    | none => .error .propertyUnknown
  | .valued property value negated =>
    let property := looseName property
    if property == "gc" || property == "generalcategory" then
      match category? (looseName value) with
      | some s => .ok (if negated then s.complement else s)
      | none => .error .propertyValueUnknown
    else .error .propertyUnknown

end PrivacyAudit.Pattern
