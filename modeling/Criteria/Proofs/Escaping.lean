/-
# The escaped form of a text

Texts that differ only in which of their reserved characters are protected already have one
escaped form in common, and escaping a text gives that form.  A text is escaped if it is made
up of characters that are not reserved and of reserved characters behind a backslash.

* `Escaped`: the escaped texts; `Escaped.protect_unescape` says that such a text is what comes
  of protecting what it stands for.
* `Bare`: the texts in which no backslash stands before a reserved character, so that nothing
  is protected yet; `unescape_eq_self_iff` says that just these stand for themselves.
* `escape_canonical`: what escaping is, and what follows from that.
* `Splits`: the cuts between a backslash and the reserved character that it protects;
  `unescape_append` says that the scan can be cut anywhere else, and `escape_append` what comes of
  escaping a text piece by piece.
-/
import Mathlib.Algebra.Ring.Parity
import Mathlib.Data.List.DropRight
import Mathlib.Data.List.Induction
import Mathlib.Data.List.Infix
import Mathlib.Tactic.Common
import Criteria.Compiler

namespace Criteria
namespace Text

/-- Texts whose reserved characters are all protected, and nothing else is. -/
inductive Escaped : List Char → Prop
  | nil : Escaped []
  | plain {c : Char} {s : List Char} (hc : isReserved c = false) (h : Escaped s) :
      Escaped (c :: s)
  | reserved {c : Char} {s : List Char} (hc : isReserved c) (h : Escaped s) :
      Escaped ('\\' :: c :: s)

/-- Texts in which no backslash stands right before a reserved character. -/
def Bare (s : List Char) : Prop := ∀ c ∈ reserved, ¬ ['\\', c] <:+: s

variable {s t : List Char}

/-! ## Escaped texts -/

lemma escaped_protect (s : List Char) : Escaped (protect s) := by
  induction s with
  | nil => exact .nil
  | cons c s ih =>
    cases h : isReserved c with
    | true =>
      rw [protect_cons_reserved h]
      exact .reserved h ih
    | false =>
      rw [protect_cons_plain h]
      exact .plain h ih

/-- An escaped text is what comes of protecting the text that it stands for. -/
lemma Escaped.protect_unescape (h : Escaped s) : protect (unescape s) = s := by
  induction h with
  | nil => rfl
  | plain hc _ ih => rw [unescape_cons (ne_backslash hc), protect_cons_plain hc, ih]
  | reserved hc _ ih => rw [unescape_escaped hc, protect_cons_reserved hc, ih]

/-- Escaping changes the form of a text and not what it stands for. -/
lemma unescape_escape (s : List Char) : unescape (escape s) = unescape s :=
  unescape_protect (unescape s)

/-- Of the texts that stand for the same the escaped one is unique. -/
lemma eq_escape_iff {w : List Char} :
    w = escape s ↔ Escaped w ∧ unescape w = unescape s := by
  constructor
  · rintro rfl
    exact ⟨escaped_protect _, unescape_escape s⟩
  · rintro ⟨hw, hs⟩
    rw [escape, ← hs, hw.protect_unescape]

lemma escape_eq_self_iff : escape s = s ↔ Escaped s := by
  rw [eq_comm, eq_escape_iff]
  simp

instance (s : List Char) : Decidable (Escaped s) :=
  decidable_of_iff (escape s = s) escape_eq_self_iff

lemma escape_eq_escape_iff : escape s = escape t ↔ unescape s = unescape t := by
  rw [eq_escape_iff, unescape_escape]
  exact and_iff_right (escaped_protect _)

/-! ## Texts in which nothing is protected -/

lemma bare_cons_iff {c : Char} :
    Bare (c :: s) ↔ (c = '\\' → ∀ d ∈ reserved, s.head? ≠ some d) ∧ Bare s := by
  have hhead : ∀ d, ['\\', d] <+: c :: s ↔ c = '\\' ∧ s.head? = some d := by
    intro d
    rcases s with _ | ⟨e, s⟩ <;> simp [eq_comm]
  simp only [Bare, List.infix_cons_iff, hhead]
  grind

lemma length_unescape_le (s : List Char) : (unescape s).length ≤ s.length := by
  fun_induction unescape s with
  | case1 c s _ ih => simp only [List.length_cons]; omega
  | case2 c s _ ih => simpa using ih
  | case3 c s _ ih => simpa using ih
  | case4 => simp

/-- Nothing is dropped just from the bare texts.  The cases are those of the scan; in the first
of them it drops a backslash. -/
lemma unescape_eq_self_iff : unescape s = s ↔ Bare s := by
  fun_induction unescape s with
  | case1 c s hc _ =>
    have hmem : c ∈ Text.reserved := by simpa [isReserved] using hc
    have hlength := length_unescape_le s
    refine iff_of_false ?_ ?_
    · intro h
      have := congrArg List.length h
      simp only [List.length_cons] at this
      omega
    · exact fun h => (bare_cons_iff.mp h).1 rfl c hmem rfl
  | case2 c s hc ih =>
    have hmem : c ∉ Text.reserved := by simpa [isReserved] using hc
    have hne : c ≠ '\\' := ne_backslash (by simpa using hc)
    simp only [List.cons.injEq, true_and, ih, bare_cons_iff, List.head?_cons]
    grind
  | case3 c s hc ih =>
    rw [List.cons.injEq, bare_cons_iff, ih]
    have hhead : c = '\\' → ∀ d ∈ Text.reserved, s.head? ≠ some d := by
      rintro rfl d - hd
      obtain ⟨u, rfl⟩ := List.head?_eq_some_iff.mp hd
      exact hc d u rfl rfl
    exact ⟨fun h => ⟨hhead, h.2⟩, fun h => ⟨rfl, h.2⟩⟩
  | case4 => simp [Bare]

instance (s : List Char) : Decidable (Bare s) :=
  decidable_of_iff (unescape s = s) unescape_eq_self_iff

end Text

/-- Only the text of a value matters to its escaped form. -/
lemma Value.escaped_of_text {v : Value} {s : String} (h : v.text? = some s) :
    v.escaped = .str (String.ofList (Text.escape s.toList)) := by
  rw [escaped, h]

namespace Text

/-- Escaping brings a text into the one escaped form of what it stands for.  It has no effect on
a text that is escaped already, so that a second time changes nothing.  Two texts have the same
escaped form if and only if they stand for the same.  A text in which nothing is protected stands
for itself and can be had back from its escaped form. -/
theorem escape_canonical (s : List Char) :
    (∀ v : Value, v.text? = some (String.ofList s) →
      v.escaped = .str (String.ofList (escape s))) ∧
    (∀ w, w = escape s ↔ Escaped w ∧ unescape w = unescape s) ∧
    escape (escape s) = escape s ∧
    (escape s = s ↔ Escaped s) ∧
    (∀ t, escape s = escape t ↔ unescape s = unescape t) ∧
    (Bare s → unescape (escape s) = s ∧ ∀ t, Bare t → escape s = escape t → s = t) := by
  refine ⟨?_, fun w => eq_escape_iff, ?_, escape_eq_self_iff, fun t => escape_eq_escape_iff, ?_⟩
  · intro v hv
    simpa using Value.escaped_of_text hv
  · rw [escape_eq_self_iff]
    exact escaped_protect _
  · intro hs
    rw [← unescape_eq_self_iff] at hs
    refine ⟨(unescape_escape s).trans hs, ?_⟩
    intro t ht h
    rw [← unescape_eq_self_iff] at ht
    rw [← hs, ← ht]
    exact escape_eq_escape_iff.mp h

/-- `escape_canonical` at backslashes: of three before a plus sign the first protects the second
and the third the plus sign, and one at the end of a text protects nothing. -/
theorem escape_canonical_backslashes :
    let s := "\\\\\\+\\".toList
    let w := "\\\\\\+\\\\".toList
    let bare := "a\\n +".toList
    (Value.str "\\\\\\+\\").escaped = .str "\\\\\\+\\\\" ∧
    (Escaped w ∧ unescape w = unescape s ∧ w = escape s) ∧
    ¬ Escaped s ∧ escape s ≠ s ∧
    Bare bare ∧ unescape (escape bare) = bare := by
  intro s w bare
  obtain ⟨hvalue, hunique, -, hself, -⟩ := escape_canonical s
  have hw : Escaped w ∧ unescape w = unescape s := by decide +kernel
  have hs : ¬ Escaped s := by decide +kernel
  have hbare : Bare bare := by decide +kernel
  exact ⟨hvalue _ rfl, ⟨hw.1, hw.2, (hunique w).mpr hw⟩, hs, fun h => hs (hself.mp h), hbare,
    ((escape_canonical bare).2.2.2.2.2 hbare).1⟩

/-! ## Escaping in pieces -/

/-- The number of backslashes at the end of a text. -/
def trailing (s : List Char) : Nat := (s.rtakeWhile (· = '\\')).length

/-- A text is cut between a backslash and the reserved character that it protects.  Backslashes
protect each other in pairs, so of those before the cut the last is free just when their number is
odd. -/
def Splits (s t : List Char) : Prop := Odd (trailing s) ∧ t.head?.any isReserved

instance (s t : List Char) : Decidable (Splits s t) := inferInstanceAs (Decidable (_ ∧ _))

@[simp] lemma trailing_nil : trailing [] = 0 := rfl

lemma trailing_concat (s : List Char) (c : Char) :
    trailing (s ++ [c]) = if c = '\\' then trailing s + 1 else 0 := by
  rw [trailing, List.rtakeWhile_concat]
  by_cases hc : c = '\\' <;> simp [hc, trailing]

/-- A text that ends in an even number of backslashes does not matter to whether there is an odd
number of them at the end of what follows. -/
lemma odd_trailing_append (hs : ¬ Odd (trailing s)) (t : List Char) :
    Odd (trailing (s ++ t)) ↔ Odd (trailing t) := by
  induction t using List.reverseRecOn with
  | nil => simpa using hs
  | append_singleton t c ih =>
    rw [← List.append_assoc, trailing_concat, trailing_concat]
    by_cases hc : c = '\\'
    · rw [if_pos hc, if_pos hc, Nat.odd_add_one, Nat.odd_add_one, ih]
    · rw [if_neg hc, if_neg hc]

/-- Two characters that the scan takes together end in an even number of backslashes. -/
lemma not_odd_trailing_pair (c : Char) : ¬ Odd (trailing ['\\', c]) := by
  have h : trailing ['\\', c] = if c = '\\' then 2 else 0 := trailing_concat ['\\'] c
  rw [h]
  split <;> decide

lemma not_odd_trailing_singleton {c : Char} (hc : c ≠ '\\') : ¬ Odd (trailing [c]) := by
  have h : trailing [c] = 0 := (trailing_concat [] c).trans (if_neg hc)
  rw [h]
  decide

lemma splits_append_left_iff {r : List Char} (hr : ¬ Odd (trailing r)) :
    Splits (r ++ s) t ↔ Splits s t := and_congr_left' (odd_trailing_append hr s)

/-- The scan of a text can be cut anywhere but between a backslash and what it protects.  The
cases are those of the scan of the first piece, which takes one or two characters at a time. -/
lemma unescape_append (h : ¬ Splits s t) : unescape (s ++ t) = unescape s ++ unescape t := by
  fun_induction unescape s with
  | case1 c s hc ih =>
    have hrest : ¬ Splits s t :=
      mt (splits_append_left_iff (not_odd_trailing_pair c)).mpr h
    rw [List.cons_append, List.cons_append, unescape_escaped hc, ih hrest, List.cons_append]
  | case2 c s hc ih =>
    have hrest : ¬ Splits s t :=
      mt (splits_append_left_iff (not_odd_trailing_pair c)).mpr h
    rw [List.cons_append, List.cons_append, unescape, if_neg hc, ih hrest, List.cons_append,
      List.cons_append]
  | case3 c s hc ih =>
    by_cases hback : c = '\\'
    -- a backslash that the scan takes alone is the last character before the cut
    · subst hback
      obtain rfl : s = [] := by
        rcases s with _ | ⟨d, s⟩
        · rfl
        · exact absurd rfl (hc d s rfl)
      have hodd : Odd (trailing ['\\']) := by decide
      rcases t with _ | ⟨d, t⟩
      · rfl
      · have hd : isReserved d = false := by
          by_contra hd
          exact h ⟨hodd, by simpa using hd⟩
        simp [unescape, hd, unescape_cons (ne_backslash hd)]
    · have hrest : ¬ Splits s t :=
        mt (splits_append_left_iff (not_odd_trailing_singleton hback)).mpr h
      rw [List.cons_append, unescape_cons hback, ih hrest, List.cons_append]
  | case4 => rfl

lemma protect_append (s t : List Char) : protect (s ++ t) = protect s ++ protect t :=
  List.flatMap_append

/-- A piece that ends in an odd number of backslashes is another piece and a backslash. -/
lemma exists_of_odd_trailing (h : Odd (trailing s)) :
    ∃ u, s = u ++ ['\\'] ∧ ¬ Odd (trailing u) := by
  induction s using List.reverseRecOn with
  | nil => exact absurd h (by decide)
  | append_singleton u c _ =>
    rw [trailing_concat] at h
    split at h
    · rename_i hc
      exact ⟨u, by rw [hc], Nat.odd_add_one.mp h⟩
    · exact absurd h (by decide)

/-- A text can be escaped piece by piece, unless it is cut between a backslash and the reserved
character that it protects.  Then these two belong together, and all that is before them and
behind them can be escaped by itself. -/
theorem escape_append (s t : List Char) :
    (∀ u : List Char,
      (Value.str (String.ofList u)).escaped = .str (String.ofList (escape u))) ∧
    (¬ Splits s t → escape (s ++ t) = escape s ++ escape t) ∧
    (Splits s t → ∃ u c v, s = u ++ ['\\'] ∧ t = c :: v ∧ isReserved c ∧
      escape (s ++ t) = escape u ++ '\\' :: c :: escape v) := by
  refine ⟨?_, ?_, ?_⟩
  · intro u
    simpa using Value.escaped_of_text (Value.text?_str (String.ofList u))
  · intro h
    rw [escape, escape, escape, unescape_append h, protect_append]
  · rintro ⟨hodd, hhead⟩
    obtain ⟨u, rfl, hu⟩ := exists_of_odd_trailing hodd
    rcases t with _ | ⟨c, v⟩
    · simp at hhead
    · have hc : isReserved c = true := by simpa using hhead
      have hcut : ¬ Splits u ('\\' :: c :: v) := fun h => hu h.1
      refine ⟨u, c, v, rfl, rfl, hc, ?_⟩
      rw [List.append_assoc, List.singleton_append, escape, unescape_append hcut,
        unescape_escaped hc, protect_append, protect_cons_reserved hc, escape, escape]

/-- `escape_append` at two cuts of one text, the first behind a backslash that is protected and the
second behind one that protects. -/
theorem escape_append_backslashes :
    let s := "a\\\\".toList
    let t := "\\+".toList
    let u := "a\\\\\\".toList
    let v := "+".toList
    ¬ Splits s t ∧ escape (s ++ t) = escape s ++ escape t ∧
    Splits u v ∧ escape (u ++ v) = escape s ++ "\\+".toList ∧
    escape (u ++ v) ≠ escape u ++ escape v := by
  intro s t u v
  have hs : ¬ Splits s t := by decide +kernel
  have hu : Splits u v := by decide +kernel
  obtain ⟨s', c, v', hs', hv', -, h⟩ := (escape_append u v).2.2 hu
  obtain ⟨rfl, rfl⟩ : c = '+' ∧ v' = [] := by simpa [v, eq_comm] using hv'
  obtain rfl : s' = s := (List.append_cancel_right (hs'.symm : s' ++ ['\\'] = s ++ ['\\']))
  exact ⟨hs, (escape_append s t).2.1 hs, hu, h, by decide +kernel⟩

end Text
end Criteria
