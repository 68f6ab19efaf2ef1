/-
# Specifications

A specification says how a number or a text is shown: what fills it up to which width and on
which side, how its sign is written, how its digits are grouped, how precise it is, and in
which form, named by a code, it is written.  All parts are optional, but their order is fixed.

`Spec.ofText` reads a specification.
-/
import Criteria.Template.Fault
import Criteria.Text.Digit

namespace Criteria
namespace Template

/-- Where the shown text stands in its width. -/
inductive Alignment where
  | left
  | right
  | centre
  /-- At both ends: the filling goes between the sign and the digits. -/
  | apart
deriving DecidableEq

/-- The alignment that a character stands for. -/
def Alignment.ofChar? : Char → Option Alignment
  | '<' => some .left
  | '>' => some .right
  | '^' => some .centre
  | '=' => some .apart
  | _ => none

structure Spec where
  fill : Char
  align : Alignment
  sign : Option Char
  /-- Whether what is rounded to zero loses its sign. -/
  unsignedZero : Bool
  /-- Whether the form is written with all its marks. -/
  alternate : Bool
  width : Nat
  separator : Option Char
  precision : Option Nat
  code : Option Char

/-- What a specification means where it says nothing; it depends on what is shown. -/
structure Standing where
  /-- The name of what is shown. -/
  kind : String
  align : Alignment
  code : Option Char

namespace Spec

/-- The greatest number that may stand in a template. -/
def numberLimit : Nat := Nat.pow 2 63 - 1

/-- A number at the front of a text, if there is one, and what follows it. -/
def readNumber (s : List Char) : Except TemplateFault (Option Nat × List Char) :=
  match Text.leadingDigits s with
  | ([], _) => .ok (none, s)
  | (ds, rest) =>
    let n := Text.digitsValue ds
    if n ≤ numberLimit then .ok (some n, rest) else .error .numberTooLarge

/-- A character at the front of a text, if it is one of some, and what follows it. -/
def readOne (allowed : List Char) : List Char → Option Char × List Char
  | c :: s => if allowed.contains c then (some c, s) else (none, c :: s)
  | [] => (none, [])

/-- The filling and the alignment at the front of a text; the filling cannot stand alone. -/
def readAlignment : List Char → Option Char × Option Alignment × List Char
  | [] => (none, none, [])
  | c :: s =>
    match s.head?.bind Alignment.ofChar? with
    | some a => (some c, some a, s.drop 1)
    | none =>
      match Alignment.ofChar? c with
      | some a => (none, some a, s)
      | none => (none, none, c :: s)

/-- The separator of groups of digits at the front of a text; there is only one. -/
def readSeparator (s : List Char) : Except TemplateFault (Option Char × List Char) :=
  match readOne [',', '_'] s with
  | (some ',', '_' :: _) | (some '_', ',' :: _) => .error .commaAndUnderscore
  | r => .ok r

/-- The precision behind a point at the front of a text. -/
def readPrecision : List Char → Except TemplateFault (Option Nat × List Char)
  | '.' :: s => do
    let (precision, rest) ← readNumber s
    if precision.isNone then .error .missingPrecision else return (precision, rest)
  | s => .ok (none, s)

/-- The codes of numbers in a base other than ten. -/
def baseCodes : List Char := ['b', 'o', 'x', 'X']

/-- The codes of numbers in base ten. -/
def decimalCodes : List Char := ['d', 'e', 'E', 'f', 'F', 'g', 'G', '%']

/-- The code that says no more than if there were none. -/
def blankCode : Char := '\x00'

/-- The code at the end of a specification.  A blank one is none, unless one stands where
none is given: then it is read as a code, which nothing has. -/
def readCode (standing : Option Char) : List Char → Option (Option Char)
  | [] => some standing
  | [c] => some (if c = blankCode ∧ standing = none then none else some c)
  | _ => none

/-- Refuse to group digits in a form that is not grouped, or not by this separator: in the
other bases only an underscore is one.  What a blank code means is left to what is shown. -/
def checkGroups : Option Char → Option Char → Except TemplateFault Unit
  | some separator, some code =>
    if decimalCodes.contains code || code = blankCode
        || baseCodes.contains code && separator = '_' then .ok ()
    else .error (.ungroupable separator code)
  | _, _ => .ok ()

/-- The specification that a text gives. -/
def ofText (standing : Standing) (text : List Char) : Except TemplateFault Spec := do
  let (fill, align, s) := readAlignment text
  let (sign, s) := readOne ['+', '-', ' '] s
  let (unsignedZero, s) := readOne ['z'] s
  let (alternate, s) := readOne ['#'] s
  let (zero, s) := if fill.isSome then (none, s) else readOne ['0'] s
  let (width, s) ← readNumber s
  let (separator, s) ← readSeparator s
  let (precision, s) ← readPrecision s
  let some code := readCode standing.code s | .error (.invalidSpec text standing.kind)
  checkGroups separator code
  let standingAlign := if zero.isSome && standing.align = .right then .apart else standing.align
  return {
    fill := fill.getD (zero.getD ' ')
    align := align.getD standingAlign
    sign := sign
    unsignedZero := unsignedZero.isSome
    alternate := alternate.isSome
    width := width.getD 0
    separator := separator
    precision := precision
    code := code }

end Spec
end Template
end Criteria
