/-
# Quoted text

A text is shown between quotes with everything unprintable escaped.  The quotes are single
ones unless the text has a single quote and no double quote in it.
-/
import Criteria.Text.Printable

namespace Criteria
namespace Text

/-- The quote that encloses a text. -/
def quoteFor (s : List Char) : Char :=
  if s.contains '\'' && !s.contains '"' then '"' else '\''

/-- A number in hexadecimal, with zeros in front up to a width. -/
def hex (width n : Nat) : List Char :=
  let digits := Nat.toDigits 16 n
  List.replicate (width - digits.length) '0' ++ digits

/-- The escape of a code point: its hexadecimal digits behind a mark for their number. -/
def codeEscape (n : Nat) : List Char :=
  if n < 0x100 then '\\' :: 'x' :: hex 2 n
  else if n < 0x10000 then '\\' :: 'u' :: hex 4 n
  else '\\' :: 'U' :: hex 8 n

/-- A character as it stands between quotes, if it has an escape of its own there: the
backslash, the quote itself and three control characters. -/
def shortEscape? (quote c : Char) : Option (List Char) :=
  if c = quote || c = '\\' then some ['\\', c]
  else if c = '\n' then some ['\\', 'n']
  else if c = '\r' then some ['\\', 'r']
  else if c = '\t' then some ['\\', 't']
  else none

/-- A character as it stands between quotes. -/
def quotedChar (quote c : Char) : List Char :=
  match shortEscape? quote c with
  | some s => s
  | none => if isPrintable c then [c] else codeEscape c.toNat

/-- A text between quotes. -/
def quoted (s : List Char) : List Char :=
  let quote := quoteFor s
  quote :: (s.flatMap (quotedChar quote) ++ [quote])

/-- A text with everything escaped that is not ASCII. -/
def asciiOnly (s : List Char) : List Char :=
  s.flatMap fun c => if c.toNat < 0x80 then [c] else codeEscape c.toNat

/-- A byte as it stands between quotes: only ASCII is shown as characters. -/
def quotedByte (quote : Char) (b : UInt8) : List Char :=
  let c := Char.ofNat b.toNat
  match shortEscape? quote c with
  | some s => s
  | none => if 0x20 ≤ b && b < 0x7f then [c] else codeEscape b.toNat

/-- Bytes between quotes, marked by the letter `b` in front. -/
def quotedBytes (bs : List UInt8) : List Char :=
  let quote := quoteFor (bs.map fun b => Char.ofNat b.toNat)
  'b' :: quote :: (bs.flatMap (quotedByte quote) ++ [quote])

end Text
end Criteria
