/-
# Reading numbers

The written forms of doubles that are accepted: an optional sign, then a decimal with an
optional point and exponent, or one of the names of infinity and not-a-number in any letter
case.  The digits may be those of any script.  Blanks around are ignored, and a single
underscore may stand between two digits.
-/
import Criteria.Number.Binary64
import Criteria.Text.Digit

namespace Criteria

/-- Take a leading sign off. -/
def readSign : List Char → Bool × List Char
  | '-' :: s => (true, s)
  | '+' :: s => (false, s)
  | s => (false, s)

/-- The longest run of digits at the front, with the single underscores between them left
out, and what follows it.  The flag says whether a digit came just before. -/
def readDigits (afterDigit : Bool) : List Char → List Nat × List Char
  | [] => ([], [])
  | c :: s =>
    match Text.digit? c with
    | some d =>
      let (ds, rest) := readDigits true s
      (d :: ds, rest)
    | none =>
      if afterDigit && c == '_' && s.head?.any (Text.digit? · |>.isSome) then
        readDigits false s
      else ([], c :: s)

/-- The integer with some digits. -/
def integerOfDigits (negative : Bool) (ds : List Nat) : Int :=
  if negative then -(Text.digitsValue ds : Int) else Text.digitsValue ds

/-- Digits up to the end of the text, at least one, as a number. -/
def readInteger (negative : Bool) (s : List Char) : Option Int :=
  match readDigits false s with
  | ([], _) => none
  | (ds, []) => some (integerOfDigits negative ds)
  | _ => none

namespace Binary64

/-- An exponent with its mark, up to the end of the text; no text is exponent zero. -/
def readExponent : List Char → Option Int
  | [] => some 0
  | c :: s =>
    if c == 'e' || c == 'E' then
      let (negative, s) := readSign s
      readInteger negative s
    else none

/-- A decimal without its sign: digits on at least one side of the point. -/
def readDecimal (negative : Bool) (s : List Char) : Option Binary64 :=
  let (whole, rest) := readDigits false s
  let (fraction, rest) :=
    match rest with
    | '.' :: rest => readDigits false rest
    | rest => ([], rest)
  if whole.isEmpty && fraction.isEmpty then none
  else
    let digits := whole ++ fraction
    (readExponent rest).map fun e =>
      ofDecimal negative (Text.digitsValue digits) digits.length (e - fraction.length)

/-- The double with the given written form. -/
def ofText? (text : List Char) : Option Binary64 :=
  let (negative, s) := readSign (Text.strip text)
  let word := s.map Char.toLower
  if word = "nan".toList then some .nan
  else if word = "inf".toList ∨ word = "infinity".toList then some (.infinite negative)
  else readDecimal negative s

end Binary64
end Criteria
