/-
# Templates

A template is a text with fields, which are filled with a number.  A specification of a
field may have fields of its own; these have none in theirs.

`Template.fill` is the text that a template and a number make.
-/
import Criteria.Template.Item
import Criteria.Template.Piece

namespace Criteria
namespace Template

/-- What is done from field to field: how they say which number they mean is kept. -/
abbrev Filling := StateT Numbering (Except Fault)

/-- The item that a field names. -/
def Field.item (f : Field) (n : Number) : Filling Item := do
  let (i, numbering) ← Item.ofName n (← get) f.name
  set numbering
  i.converted f.conversion

/-- A field, filled with a number, where `nested` fills its specification if that has fields
of its own. -/
def Field.filled (nested : List Char → Filling (List Char)) (n : Number) (f : Field) :
    Filling (List Char) := do
  let i ← f.item n
  let spec ← if f.spec.contains '\x7b' then nested f.spec else pure f.spec
  i.shown spec

/-- The pieces of a template, filled with a number. -/
def fillPieces (nested : List Char → Filling (List Char)) (n : Number) :
    List Piece → Filling (List Char)
  | [] => pure []
  | .literal c :: ps => return c :: (← fillPieces nested n ps)
  | .broken e :: _ => throw (.template e)
  | .field f :: ps => do
    let s ← f.filled nested n
    return s ++ (← fillPieces nested n ps)

/-- A template, filled with a number, where fields stand in each other `depth` deep at
most. -/
def fillWithin (n : Number) : Nat → List Char → Filling (List Char)
  | 0, _ => throw (.template .nestedTooDeep)
  | depth + 1, s => fillPieces (fillWithin n depth) n (Piece.ofText s)

/-- A template, filled with a number. -/
def fill (template : List Char) (n : Number) : Except Fault (List Char) :=
  (fillWithin n 2 template).run' .undecided

/-- A text without braces stays as it is. -/
theorem fill_of_no_braces {s : List Char} (h : ∀ c ∈ s, c ≠ '\x7b' ∧ c ≠ '\x7d')
    (n : Number) : fill s n = .ok s := by
  have key (k : Numbering) :
      fillPieces (fillWithin n 1) n (s.map .literal) k = .ok (s, k) := by
    clear h
    induction s with
    | nil => rfl
    | cons c s ih =>
      simp only [List.map_cons, fillPieces]
      change Except.bind (fillPieces (fillWithin n 1) n (s.map .literal) k) _ = _
      rw [ih]
      rfl
  simp only [fill, fillWithin, Piece.ofText_of_no_braces h]
  change (fillPieces (fillWithin n 1) n (s.map .literal) .undecided).map _ = _
  rw [key]
  rfl

end Template
end Criteria
