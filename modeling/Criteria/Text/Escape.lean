/-
# Reserved characters of query strings

In a query string some characters steer the search; behind a backslash they stand for
themselves.  `escape` first drops the backslashes that already protect a character and
then protects every reserved character, so that text which is partly escaped comes out
escaped once.
-/

namespace Criteria
namespace Text

/-- The reserved characters; the backslash is one of them. -/
def reserved : List Char := "+-=&|><!()\x7b\x7d[]^\"~*?\\:/ ".toList

/-- Whether a character has to be escaped to stand for itself. -/
def isReserved (c : Char) : Bool := reserved.contains c

/-- Drop each backslash that protects a reserved character, from left to right; the
protected character protects nothing itself. -/
def unescape : List Char → List Char
  | '\\' :: c :: s => if isReserved c then c :: unescape s else '\\' :: c :: unescape s
  | c :: s => c :: unescape s
  | [] => []

/-- A character in a form that stands for itself. -/
def escapeChar (c : Char) : List Char := if isReserved c then ['\\', c] else [c]

/-- Protect every reserved character. -/
def protect (s : List Char) : List Char := s.flatMap escapeChar

/-- Escape a text exactly once. -/
def escape (s : List Char) : List Char := protect (unescape s)

theorem unescape_cons {c : Char} (h : c ≠ '\\') (s : List Char) :
    unescape (c :: s) = c :: unescape s := by
  rw [unescape.eq_def]
  split <;> simp_all

theorem unescape_escaped {c : Char} (h : isReserved c) (s : List Char) :
    unescape ('\\' :: c :: s) = c :: unescape s := by
  simp [unescape, h]

theorem ne_backslash {c : Char} (h : isReserved c = false) : c ≠ '\\' := by
  rintro rfl
  exact absurd h (by decide)

theorem protect_cons_reserved {c : Char} (h : isReserved c) (s : List Char) :
    protect (c :: s) = '\\' :: c :: protect s := by
  simp [protect, escapeChar, h]

theorem protect_cons_plain {c : Char} (h : isReserved c = false) (s : List Char) :
    protect (c :: s) = c :: protect s := by
  simp [protect, escapeChar, h]

/-- Protection is undone exactly. -/
theorem unescape_protect (s : List Char) : unescape (protect s) = s := by
  induction s with
  | nil => rfl
  | cons c s ih =>
    cases h : isReserved c with
    | true => rw [protect_cons_reserved h, unescape_escaped h, ih]
    | false => rw [protect_cons_plain h, unescape_cons (ne_backslash h), ih]

end Text
end Criteria
