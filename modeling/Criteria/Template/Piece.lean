/-
# Pieces of a template

A template is a text with fields in braces; a doubled brace stands for itself.  A field has a
name, then perhaps a conversion behind an exclamation mark, then perhaps a specification
behind a colon, in which braces may open further fields.

`Piece.ofText` takes a template apart.  A template that is broken somewhere still has its
pieces up to there, and the last of them says what is wrong.
-/
import Criteria.Template.Fault

namespace Criteria
namespace Template

/-- A field as it stands in a template. -/
structure Field where
  name : List Char
  conversion : Option Char
  spec : List Char

inductive Piece where
  | literal (c : Char)
  | field (f : Field)
  | broken (e : TemplateFault)

namespace Piece

/-- The conversion that a character stands for; the null character stands for none. -/
def conversionOf (c : Char) : Option Char := if c = '\x00' then none else some c

mutual

/-- The pieces of a template. -/
def ofText : List Char → List Piece
  | [] => []
  | '\x7b' :: s =>
    match s with
    | [] => [.broken .loneOpening]
    | '\x7b' :: s => .literal '\x7b' :: ofText s
    | s => ofName [] s
  | '\x7d' :: s =>
    match s with
    | '\x7d' :: s => .literal '\x7d' :: ofText s
    | _ => [.broken .loneClosing]
  | c :: s => .literal c :: ofText s
termination_by structural s => s

/-- The pieces from within the name of a field, which was read backwards so far. -/
def ofName (read : List Char) : List Char → List Piece
  | [] => [.broken .unclosedField]
  | '\x7b' :: _ => [.broken .openingInName]
  | '\x7d' :: s => .field ⟨read.reverse, none, []⟩ :: ofText s
  | ':' :: s => ofSpec read.reverse none [] 0 s
  | '!' :: s =>
    match s with
    | [] => [.broken .missingConversion]
    | [_] => [.broken .unclosedSpec]
    | c :: '\x7d' :: s => .field ⟨read.reverse, conversionOf c, []⟩ :: ofText s
    | c :: ':' :: s => ofSpec read.reverse (conversionOf c) [] 0 s
    | _ => [.broken .strayAfterConversion]
  | '[' :: s => ofIndex ('[' :: read) s
  | c :: s => ofName (c :: read) s
termination_by structural s => s

/-- The pieces from within brackets in the name of a field, where only the closing bracket
has a meaning. -/
def ofIndex (read : List Char) : List Char → List Piece
  | [] => [.broken .unclosedField]
  | ']' :: s => ofName (']' :: read) s
  | c :: s => ofIndex (c :: read) s
termination_by structural s => s

/-- The pieces from within the specification of a field, where so many fields are open. -/
def ofSpec (name : List Char) (conversion : Option Char) (read : List Char) (depth : Nat) :
    List Char → List Piece
  | [] => [.broken .unclosedSpec]
  | '\x7b' :: s => ofSpec name conversion ('\x7b' :: read) (depth + 1) s
  | '\x7d' :: s =>
    match depth with
    | 0 => .field ⟨name, conversion, read.reverse⟩ :: ofText s
    | depth + 1 => ofSpec name conversion ('\x7d' :: read) depth s
  | c :: s => ofSpec name conversion (c :: read) depth s
termination_by structural s => s

end

/-- A text without braces is made of its characters. -/
theorem ofText_of_no_braces {s : List Char} (h : ∀ c ∈ s, c ≠ '\x7b' ∧ c ≠ '\x7d') :
    ofText s = s.map .literal := by
  induction s with
  | nil => rfl
  | cons c s ih =>
    obtain ⟨⟨hopen, hclose⟩, hs⟩ := List.forall_mem_cons.1 h
    rw [ofText, ih hs, List.map_cons]
    · exact hopen
    · exact hclose

end Piece
end Template
end Criteria
