/-
# Numbers and texts as they are shown

The code of a specification names the form in which a number is shown: a whole number in some
base or as a character, a double with a fixed number of places or of significant digits, with
an exponent or without.  A text is shown as it is, or cut.

* `Spec.within` refuses a width that cannot be filled.
* `Spec.integer` shows a whole number; one of too many digits has no decimal form.
* `Spec.real` shows a double.
* `Spec.text` shows a text.
-/
import Criteria.Template.Numeral
import Criteria.Value.Numeral

namespace Criteria
namespace Template
namespace Spec

/-! ## Widths -/

/-- The greatest width that is filled; a longer text is not held. -/
def widthLimit : Nat := Nat.pow 2 28

/-- What is shown, unless it would be too wide.  All else that can be wrong is found
before that. -/
def within (show' : Spec → Except Fault (List Char)) (spec : Spec) :
    Except Fault (List Char) :=
  if spec.width ≤ widthLimit then show' spec
  else do
    let _ ← show' { spec with width := 0 }
    .error .tooLong

/-! ## Doubles -/

/-- The precision, or the one that stands where none is given. -/
def precisionOr (spec : Spec) (standing : Nat) : Nat := spec.precision.getD standing

/-- The number of significant digits, which is not zero. -/
def significance (spec : Spec) : Nat := max (spec.precisionOr 6) 1

/-- A magnitude in units to so many significant digits, positionally if its exponent is
moderate and below `limit`.  Zeros at the end go, unless the form is written with all its
marks; so where they go, no digits are sought that can only be zeros. -/
def significant (spec : Spec) (limit : Int) (pointZero : Bool) (units : Nat) : List Char :=
  let s := Significand.rounded units
    (if spec.alternate then spec.significance else min spec.significance Binary64.digitsOfAny)
  Layout.significand ⟨-4, limit, 2, pointZero, spec.alternate⟩
    (if spec.alternate then s else s.trim)

/-- A magnitude in units in the form of a code in lower case.  Without a code it is written
as numbers are, or to so many significant digits. -/
def magnitude (spec : Spec) (code : Option Char) (units : Nat) : List Char :=
  let layout : Layout := { Layout.standard with keepPoint := spec.alternate }
  match code, spec.precision with
  | some 'e', _ =>
    let s := Significand.rounded units (spec.precisionOr 6 + 1)
    layout.scientific s.digits s.exponent
  | some 'f', _ | some '%', _ => layout.places (spec.precisionOr 6) units
  | some _, _ => spec.significant spec.significance false units
  | none, some _ => spec.significant (spec.significance - 1 : Nat) true units
  | none, none => layout.significand (.shortest units)

/-- The codes of the forms of a double. -/
def realCodes : List Char := ['e', 'E', 'f', 'F', 'g', 'G', 'n', '%']

/-- The greatest precision of a double. -/
def precisionLimit : Nat := Nat.pow 2 31 - 1

/-- Whether a written magnitude is zero. -/
def isZeroText (s : List Char) : Bool :=
  (s.takeWhile (· != 'e')).all fun c => c == '0' || c == '.'

/-- Whether a double is written with a minus sign, and its magnitude. -/
def signed (spec : Spec) : Binary64 → Bool × List Char
  | .nan => (false, "nan".toList)
  | .infinite negative => (negative, "inf".toList)
  | .finite negative units =>
    let s := spec.magnitude (spec.code.map Char.toLower) units
    (negative && !(spec.unsignedZero && isZeroText s), s)

/-- A double as a specification asks for it. -/
def double (spec : Spec) (x : Binary64) : Except TemplateFault (List Char) :=
  if precisionLimit < spec.precisionOr 0 then .error .precisionTooLarge
  else
    let percent := spec.code = some '%'
    let (negative, s) := spec.signed (if percent then x.times 100 else x)
    let s := if spec.code.any Char.isUpper then s.map Char.toUpper else s
    .ok (spec.numeral negative [] (s.takeWhile Char.isDigit)
      (s.dropWhile Char.isDigit ++ if percent then ['%'] else []))

/-- A double as a specification asks for it, if it is one for doubles. -/
def real (spec : Spec) (x : Binary64) : Except TemplateFault (List Char) :=
  match spec.code with
  | none => spec.double x
  | some code =>
    if realCodes.contains code then spec.double x else .error (.unknownCode code "float")

/-! ## Whole numbers -/

/-- The base that a code stands for. -/
def base : Char → Nat
  | 'b' => 2
  | 'o' => 8
  | 'x' | 'X' => 16
  | _ => 10

/-- A whole number in the base of a code. -/
def based (spec : Spec) (code : Char) (n : Int) : List Char :=
  let mark := if spec.alternate && base code ≠ 10 then ['0', code] else []
  let ds := Nat.toDigits (base code) n.natAbs
  spec.numeral (n < 0) mark (if code = 'X' then ds.map Char.toUpper else ds) []

/-- The character of a whole number. -/
def character (spec : Spec) (n : Int) : Except Fault (List Char) :=
  if spec.sign.isSome then .error (.template .signOfCharacter)
  else if spec.alternate then .error (.template .alternateCharacter)
  else if n < 0 ∨ 0x110000 ≤ n then .error .tooLarge
  else .ok (spec.numeral false [] [] [Char.ofNat n.toNat])

/-- A whole number as a specification asks for it.  The forms of doubles show the nearest
double. -/
def integer (spec : Spec) (kind : String) (n : Int) : Except Fault (List Char) :=
  let code := spec.code.getD 'd'
  if ['b', 'c', 'd', 'n', 'o', 'x', 'X'].contains code then
    if spec.precision.isSome then .error (.template .precisionOfInteger)
    else if spec.unsignedZero then .error (.template .unsignedZeroOfInteger)
    else if code = 'c' then spec.character n
    else if base code = 10 then (Number.int n).whenWritable (spec.based code n)
    else .ok (spec.based code n)
  else if realCodes.contains code then
    match Binary64.ofInt n with
    | .finite negative units => (spec.double (.finite negative units)).mapError .template
    | _ => .error .tooLarge
  else .error (.template (.unknownCode code kind))

/-! ## Texts -/

/-- A text as a specification asks for it. -/
def text (spec : Spec) (s : List Char) : Except TemplateFault (List Char) :=
  let code := spec.code.getD 's'
  if code ≠ 's' then .error (.unknownCode code "str")
  else if spec.sign = some ' ' then .error .blankBeforeText
  else if spec.sign.isSome then .error .signOfText
  else if spec.unsignedZero then .error .unsignedZeroOfText
  else if spec.alternate then .error .alternateText
  else if spec.align = .apart then .error .paddingInsideText
  else .ok (spec.filled [] (s.take (spec.precisionOr s.length)))

end Spec
end Template
end Criteria
