/-
# Faults of templates

What can be wrong with a template, and with how one of its fields asks for a number or a text
to be shown.
-/

namespace Criteria

inductive TemplateFault where
  /-- A brace that opens no field, at the end of the template. -/
  | loneOpening
  /-- A brace that closes no field and is not doubled. -/
  | loneClosing
  | unclosedField
  | openingInName
  /-- A conversion was announced and the template ended. -/
  | missingConversion
  /-- Something other than a specification after a conversion. -/
  | strayAfterConversion
  | unclosedSpec
  /-- A field in a specification that itself stands in a specification. -/
  | nestedTooDeep
  | numberTooLarge
  | unclosedIndex
  | emptyAttribute
  | strayAfterIndex
  /-- Numbered fields before a field without a number. -/
  | numberedThenAutomatic
  /-- Fields without a number before a numbered one. -/
  | automaticThenNumbered
  | unknownConversion (conversion : Char)
  /-- A specification with something left over after its parts. -/
  | invalidSpec (spec : List Char) (kind : String)
  | missingPrecision
  | commaAndUnderscore
  /-- Digits cannot be grouped in the form that a code asks for. -/
  | ungroupable (separator code : Char)
  | unknownCode (code : Char) (kind : String)
  | precisionOfInteger
  | unsignedZeroOfInteger
  | signOfCharacter
  | alternateCharacter
  | precisionTooLarge
  | blankBeforeText
  | signOfText
  | unsignedZeroOfText
  | alternateText
  | paddingInsideText

namespace TemplateFault

/-- A character as it stands in a message: by its code unless it is between the blank and
`limit`. -/
def shownCode (limit : Nat) (c : Char) : String :=
  if 32 < c.toNat && c.toNat < limit then c.toString
  else "\\x" ++ String.ofList (Nat.toDigits 16 c.toNat)

/-- The message of a fault. -/
def message : TemplateFault → String
  | .loneOpening => "Single '\x7b' encountered in format string"
  | .loneClosing => "Single '\x7d' encountered in format string"
  | .unclosedField => "expected '\x7d' before end of string"
  | .openingInName => "unexpected '\x7b' in field name"
  | .missingConversion => "end of string while looking for conversion specifier"
  | .strayAfterConversion => "expected ':' after conversion specifier"
  | .unclosedSpec => "unmatched '\x7b' in format spec"
  | .nestedTooDeep => "Max string recursion exceeded"
  | .numberTooLarge => "Too many decimal digits in format string"
  | .unclosedIndex => "Missing ']' in format string"
  | .emptyAttribute => "Empty attribute in format string"
  | .strayAfterIndex => "Only '.' or '[' may follow ']' in format field specifier"
  | .numberedThenAutomatic =>
    "cannot switch from manual field specification to automatic field numbering"
  | .automaticThenNumbered =>
    "cannot switch from automatic field numbering to manual field specification"
  | .unknownConversion c => "Unknown conversion specifier " ++ shownCode 127 c
  | .invalidSpec spec kind =>
    "Invalid format specifier '" ++ String.ofList spec ++ "' for object of type '" ++ kind ++ "'"
  | .missingPrecision => "Format specifier missing precision"
  | .commaAndUnderscore => "Cannot specify both ',' and '_'."
  | .ungroupable separator code =>
    "Cannot specify '" ++ separator.toString ++ "' with '" ++ shownCode 128 code ++ "'."
  | .unknownCode code kind =>
    "Unknown format code '" ++ shownCode 128 code ++ "' for object of type '" ++ kind ++ "'"
  | .precisionOfInteger => "Precision not allowed in integer format specifier"
  | .unsignedZeroOfInteger =>
    "Negative zero coercion (z) not allowed in integer format specifier"
  | .signOfCharacter => "Sign not allowed with integer format specifier 'c'"
  | .alternateCharacter => "Alternate form (#) not allowed with integer format specifier 'c'"
  | .precisionTooLarge => "precision too big"
  | .blankBeforeText => "Space not allowed in string format specifier"
  | .signOfText => "Sign not allowed in string format specifier"
  | .unsignedZeroOfText =>
    "Negative zero coercion (z) not allowed in string format specifier"
  | .alternateText => "Alternate form (#) not allowed in string format specifier"
  | .paddingInsideText => "'=' alignment not allowed in string format specifier"

end TemplateFault
end Criteria
