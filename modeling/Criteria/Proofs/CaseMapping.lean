/-
# Upper case and case folding

A case table sends the members of its runs elsewhere and leaves all other code points alone.
What is true of every member of every run, and of the code points that are left alone, is
therefore true of every character.

* `CaseTable.code_cases`: an image is that of a member of a run, or the code point itself.
* `CaseTable.near_eq`: a look-up may pass over all that ends before a place further on, which
  is what keeps the checks of all members short.
* `casefold_uppercase`: case folding forgets about upper case, except for the dotless i.
* `exists_uppercase_char`: upper case starts with a character that is in upper case.
* `head_casefold_char_ne`: no other character is folded to a text that starts with a dotless i.
-/
import Mathlib.Data.List.Basic
import Mathlib.Tactic.Common
import Criteria.Name

namespace Criteria
namespace Text

/-! ## Look-ups -/

namespace Run

/-- The number of members of a run. -/
def size (r : Run) : Nat := (r.last - r.first) / r.step + 1

lemma offset_le {r : Run} {i : Nat} (h : i < r.size) : r.step * i ≤ r.last - r.first := by
  have hi : i ≤ (r.last - r.first) / r.step := Nat.lt_succ_iff.mp h
  exact Nat.le_trans (Nat.mul_le_mul_left _ hi) (Nat.mul_div_le _ _)

/-- What is found for a code point is the image of a member of a run, or the code point. -/
lemma find_cases (rs : List Run) (c : Nat) :
    find rs c = [c] ∨ ∃ r ∈ rs, ∃ i < r.size, c = r.first + r.step * i ∧
      find rs c = r.image.map (· + r.step * i) := by
  induction rs with
  | nil => exact .inl rfl
  | cons r rs ih =>
    by_cases hlast : r.last < c
    · rw [find, if_pos hlast]
      rcases ih with h | ⟨r', hr', h⟩
      · exact .inl h
      · exact .inr ⟨r', List.mem_cons_of_mem r hr', h⟩
    by_cases hholds : r.holds c
    · rw [find, if_neg hlast, if_pos hholds]
      obtain ⟨hfirst, hstep⟩ : r.first ≤ c ∧ (c - r.first) % r.step = 0 := by
        simpa [holds] using hholds
      have hoffset : r.step * ((c - r.first) / r.step) = c - r.first :=
        Nat.mul_div_cancel' (Nat.dvd_of_mod_eq_zero hstep)
      have hsize : (c - r.first) / r.step < r.size :=
        Nat.lt_succ_iff.mpr (Nat.div_le_div_right (by omega))
      refine .inr ⟨r, List.mem_cons_self, (c - r.first) / r.step, hsize, ?_, ?_⟩
      · omega
      · rw [hoffset]
    · rw [find, if_neg hlast, if_neg hholds]
      exact .inl rfl

/-- Runs that end before a place are of no matter from there on. -/
lemma find_dropWhile {a c : Nat} (h : a ≤ c) (rs : List Run) :
    find (rs.dropWhile (·.last < a)) c = find rs c := by
  induction rs with
  | nil => rfl
  | cons r rs ih =>
    by_cases hlast : r.last < a
    · rw [List.dropWhile_cons_of_pos (by simpa using hlast), ih]
      exact (if_pos (Nat.lt_of_lt_of_le hlast h)).symm
    · rw [List.dropWhile_cons_of_neg (by simpa using hlast)]

end Run

namespace CaseTable

/-- All runs of a table. -/
def runs (t : CaseTable) : List Run := t.blocks.flatMap Block.runs

/-- The blocks from a place on, the first without the runs that end before the place. -/
def dropTo (a : Nat) : List Block → List Block
  | [] => []
  | b :: bs =>
    if b.last < a then dropTo a bs else ⟨b.last, b.runs.dropWhile (·.last < a)⟩ :: bs

/-- The image of a code point, looked up from a place before it on. -/
def near (t : CaseTable) (a c : Nat) : List Nat := find (dropTo a t.blocks) c

variable {t : CaseTable}

lemma code_cases (t : CaseTable) (c : Nat) :
    t.code c = [c] ∨ ∃ r ∈ t.runs, ∃ i < r.size, c = r.first + r.step * i ∧
      t.code c = r.image.map (· + r.step * i) := by
  rw [code, runs]
  induction t.blocks with
  | nil => exact .inl rfl
  | cons b bs ih =>
    rw [find, List.flatMap_cons]
    split
    · rcases ih with h | ⟨r, hr, h⟩
      · exact .inl h
      · exact .inr ⟨r, List.mem_append_right _ hr, h⟩
    · rcases Run.find_cases b.runs c with h | ⟨r, hr, h⟩
      · exact .inl h
      · exact .inr ⟨r, List.mem_append_left _ hr, h⟩

lemma near_eq (t : CaseTable) {a c : Nat} (h : a ≤ c) : t.near a c = t.code c := by
  rw [near, code]
  induction t.blocks with
  | nil => rfl
  | cons b bs ih =>
    by_cases hlast : b.last < a
    · rw [dropTo, if_pos hlast, ih]
      exact (if_pos (Nat.lt_of_lt_of_le hlast h)).symm
    · rw [dropTo, if_neg hlast, find, find, Run.find_dropWhile h]

/-- A table in which every image has a code point loses no character. -/
lemma char_ne_nil (h : ∀ r ∈ t.runs, r.image ≠ []) (c : Char) : t.char c ≠ [] := by
  have hcode : t.code c.toNat ≠ [] := by
    rcases t.code_cases c.toNat with hc | ⟨r, hr, i, -, -, hc⟩
    · simp [hc]
    · simpa [hc] using h r hr
  simpa [char] using hcode

/-- All images are characters: they lie on one side of the surrogates. -/
def Valid (t : CaseTable) : Prop :=
  ∀ r ∈ t.runs, ∀ x ∈ r.image, x + (r.last - r.first) < 0xd800 ∨
    (0xdfff < x ∧ x + (r.last - r.first) < 0x110000)

lemma toNat_ofNat_of_mem_code (h : t.Valid) {c : Char} {y : Nat} (hy : y ∈ t.code c.toNat) :
    (Char.ofNat y).toNat = y := by
  rcases t.code_cases c.toNat with hc | ⟨r, hr, i, hi, -, hc⟩
  · rw [hc, List.mem_singleton] at hy
    rw [hy, Char.ofNat_toNat]
  · rw [hc] at hy
    obtain ⟨x, hx, rfl⟩ := List.mem_map.mp hy
    have hoffset : r.step * i ≤ r.last - r.first := Run.offset_le hi
    have hvalid : (x + r.step * i).isValidChar := by
      rcases h r hr x hx with hlow | ⟨hhigh, hend⟩
      · exact .inl (by omega)
      · exact .inr ⟨by omega, by omega⟩
    rw [Char.ofNat, dif_pos hvalid]
    rfl

end CaseTable

/-! ## What holds of all members -/

lemma uppercase_char_ne_nil (c : Char) : uppercase.char c ≠ [] :=
  CaseTable.char_ne_nil (by decide +kernel) c

lemma casefold_char_ne_nil (c : Char) : casefold.char c ≠ [] :=
  CaseTable.char_ne_nil (by decide +kernel) c

lemma uppercase_valid : uppercase.Valid := by
  unfold CaseTable.Valid
  decide +kernel

lemma casefold_valid : casefold.Valid := by
  unfold CaseTable.Valid
  decide +kernel

/-- The folding of a code point and that of its upper case, for all that have one. -/
lemma casefold_code_runs : ∀ r ∈ uppercase.runs, ∀ i < r.size, r.first + r.step * i = 'ı'.toNat ∨
    (r.image.flatMap fun x => casefold.near x (x + r.step * i)) =
      casefold.near r.first (r.first + r.step * i) := by
  decide +kernel

/-- No run has an image that starts with the dotless i. -/
lemma casefold_head_runs : ∀ r ∈ casefold.runs, ∀ x ∈ r.image.head?,
    'ı'.toNat < x ∨ x + (r.last - r.first) < 'ı'.toNat := by
  decide +kernel

/-- The upper case of the first code point of an upper case. -/
lemma uppercase_code_runs : ∀ r ∈ uppercase.runs, ∀ i < r.size, ∀ x ∈ r.image.head?,
    uppercase.near x (x + r.step * i) = [x + r.step * i] := by
  decide +kernel

/-- Case folding forgets about upper case, except for the dotless i. -/
lemma casefold_uppercase {c : Char} (hc : c ≠ 'ı') :
    casefold.text (uppercase.char c) = casefold.char c := by
  have hcodes : (uppercase.code c.toNat).flatMap casefold.code = casefold.code c.toNat := by
    rcases uppercase.code_cases c.toNat with h | ⟨r, hr, i, hi, hn, h⟩
    · simp [h]
    · have hrun := (casefold_code_runs r hr i hi).resolve_left fun hdotless =>
        hc (Char.toNat_inj.mp (hn.trans hdotless))
      rw [h, List.flatMap_map, hn, ← casefold.near_eq (Nat.le_add_right r.first _), ← hrun]
      refine List.flatMap_congr fun x _ => ?_
      rw [casefold.near_eq (Nat.le_add_right x _)]
  have hchars : ∀ y ∈ uppercase.code c.toNat,
      casefold.char (Char.ofNat y) = (casefold.code y).map Char.ofNat := by
    intro y hy
    rw [CaseTable.char, CaseTable.toNat_ofNat_of_mem_code uppercase_valid hy]
  calc casefold.text (uppercase.char c)
      = (uppercase.code c.toNat).flatMap fun y => casefold.char (Char.ofNat y) := by
        rw [CaseTable.text, CaseTable.char, List.flatMap_map]
    _ = (uppercase.code c.toNat).flatMap fun y => (casefold.code y).map Char.ofNat :=
        List.flatMap_congr hchars
    _ = casefold.char c := by
        rw [CaseTable.char, ← hcodes, List.map_flatMap]

/-- The first character of an upper case is in upper case. -/
lemma exists_uppercase_char (c : Char) :
    ∃ c' s, uppercase.char c = c' :: s ∧ uppercase.char c' = [c'] := by
  have hne : uppercase.code c.toNat ≠ [] := by
    intro h
    exact uppercase_char_ne_nil c (by rw [CaseTable.char, h, List.map_nil])
  obtain ⟨y, ys, hcode⟩ := List.exists_cons_of_ne_nil hne
  have hy : uppercase.code y = [y] := by
    rcases uppercase.code_cases c.toNat with h | ⟨r, hr, i, hi, -, h⟩
    · rw [h] at hcode
      obtain ⟨rfl, -⟩ := List.cons.inj hcode
      exact h
    · rw [h] at hcode
      obtain ⟨x, xs, himage, rfl, -⟩ := List.map_eq_cons_iff.mp hcode
      rw [← uppercase.near_eq (Nat.le_add_right x _)]
      exact uppercase_code_runs r hr i hi x (by simp [himage])
  refine ⟨Char.ofNat y, ys.map Char.ofNat, ?_, ?_⟩
  · rw [CaseTable.char, hcode, List.map_cons]
  · have hvalid : (Char.ofNat y).toNat = y :=
      CaseTable.toNat_ofNat_of_mem_code uppercase_valid (c := c) (by simp [hcode])
    rw [CaseTable.char, hvalid, hy, List.map_singleton]

/-- No character but the dotless i is folded to a text that starts with one. -/
lemma head_casefold_char_ne {c : Char} (hc : c ≠ 'ı') : (casefold.char c).head? ≠ some 'ı' := by
  intro h
  rw [CaseTable.char, List.head?_map] at h
  obtain ⟨y, hy, hdotless⟩ := Option.map_eq_some_iff.mp h
  have hvalue : y = 'ı'.toNat := by
    rw [← hdotless, CaseTable.toNat_ofNat_of_mem_code casefold_valid (List.mem_of_head? hy)]
  rcases casefold.code_cases c.toNat with hcode | ⟨r, hr, i, hi, -, hcode⟩
  · rw [hcode] at hy
    have hn : c.toNat = y := by simpa using hy
    exact hc (Char.toNat_inj.mp (hn.trans hvalue))
  · rw [hcode, List.head?_map] at hy
    obtain ⟨x, hx, rfl⟩ := Option.map_eq_some_iff.mp hy
    have hoffset : r.step * i ≤ r.last - r.first := Run.offset_le hi
    have hrun := casefold_head_runs r hr x (by simp [hx])
    omega

end Text
end Criteria
