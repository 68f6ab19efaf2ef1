/-
# The new names of fields

A field map is set up from a list of entries, in which a field can come more than once; the last
entry for a field counts.  It is enough to look at entries whose fields and new names are
texts.

* `FieldMap.newName`: the new name of a field by a list of entries.
* `Table.get?_ofList`: the last entry under a text is the one that a table has.
* `FieldMap.find_ofArguments`: a field map gives the new names of its entries.
-/
import Mathlib.Data.List.Induction
import Mathlib.Tactic.Common
import Criteria.FieldMap

namespace Criteria

/-! ## Texts as keys -/

namespace Value

lemma same_of_text? {k : Value} {s : String} (h : k.text? = some s) (v : Value) :
    k.same v = decide (v.text? = some s) := by
  cases k <;> simp [text?] at h <;> subst h <;> simp [same]

lemma isKey_of_isSome_text? {v : Value} (h : v.text?.isSome) : v.isKey = true := by
  obtain ⟨s, hs⟩ := Option.isSome_iff_exists.mp h
  exact isKey_of_text? hs

end Value

namespace Table

variable {α : Type}

/-- All keys of a table are texts. -/
def HasTexts (t : Table Value α) : Prop := ∀ e ∈ t, e.1.text?.isSome

lemma HasTexts.put {t : Table Value α} (ht : HasTexts t) {k : Value} (hk : k.text?.isSome)
    (a : α) : HasTexts (t.put Value.same k a) := by
  induction t with
  | nil => simpa [HasTexts, Table.put] using hk
  | cons e t ih =>
    have he : e.1.text?.isSome := ht e (by simp)
    have hrest : HasTexts t := fun e' he' => ht e' (by simp [he'])
    rw [Table.put]
    split
    · intro e' he'
      rcases List.mem_cons.mp he' with rfl | he'
      · exact he
      · exact hrest e' he'
    · intro e' he'
      rcases List.mem_cons.mp he' with rfl | he'
      · exact he
      · exact ih hrest e' he'

/-- What is put under a text is found under all that is the same key, and nothing else changes.
This needs the keys to be texts: there are values that are not the same key as themselves. -/
lemma get?_put_of_texts {t : Table Value α} (ht : HasTexts t) {k : Value} (hk : k.text?.isSome)
    (a : α) (v : Value) :
    get? Value.same v (t.put Value.same k a) =
      if k.same v then some a else get? Value.same v t := by
  obtain ⟨s, hs⟩ := Option.isSome_iff_exists.mp hk
  induction t with
  | nil => rfl
  | cons e t ih =>
    obtain ⟨s', hs'⟩ := Option.isSome_iff_exists.mp (ht e (by simp))
    have hrest : HasTexts t := fun e' he' => ht e' (by simp [he'])
    have hk : ∀ v, k.same v = decide (v.text? = some s) := Value.same_of_text? hs
    have he : ∀ v, e.1.same v = decide (v.text? = some s') := Value.same_of_text? hs'
    by_cases h : s = s'
    -- the entry is replaced
    · subst h
      rw [Table.put, if_pos (by rw [he, hs]; simp)]
      by_cases hv : v.text? = some s <;> simp [get?, hk, he, hv]
    -- the entry stays, and is not found under the same values
    · rw [Table.put, if_neg (by rw [he, hs]; simpa using h), get?, get?, ih hrest]
      by_cases hv : v.text? = some s'
      · simp [hk, he, hv, Ne.symm h]
      · simp [he, hv]

lemma hasTexts_ofList {entries : List (Value × α)} (h : ∀ e ∈ entries, e.1.text?.isSome) :
    HasTexts (ofList Value.same entries) := by
  induction entries using List.reverseRecOn with
  | nil => simp [HasTexts, ofList]
  | append_singleton entries e ih =>
    rw [ofList, List.foldl_append]
    exact (ih fun e' he' => h e' (by simp [he'])).put (h e (by simp)) e.2

/-- The last entry under a text counts. -/
lemma get?_ofList {entries : List (Value × α)} (h : ∀ e ∈ entries, e.1.text?.isSome)
    (v : Value) :
    get? Value.same v (ofList Value.same entries) =
      (entries.reverse.find? (·.1.same v)).map Prod.snd := by
  induction entries using List.reverseRecOn with
  | nil => rfl
  | append_singleton entries e ih =>
    have hrest : ∀ e' ∈ entries, e'.1.text?.isSome := fun e' he' => h e' (by simp [he'])
    have hput : ofList Value.same (entries ++ [e]) =
        (ofList Value.same entries).put Value.same e.1 e.2 := by
      rw [ofList, List.foldl_append]
      rfl
    rw [hput, get?_put_of_texts (hasTexts_ofList hrest) (h e (by simp)), ih hrest,
      List.reverse_concat, List.find?_cons]
    by_cases he : e.1.same v <;> simp [he]

/-- A table is made of any entries whose keys can be keys. -/
lemma ofValues_map_ok {entries : List (Value × α)} (h : ∀ e ∈ entries, e.1.isKey) :
    ofValues (entries.map .ok) = .ok (ofList Value.same entries) := by
  rw [ofValues, ofList]
  generalize ([] : Table Value α) = t
  induction entries generalizing t with
  | nil => rfl
  | cons e entries ih =>
    rw [List.map_cons, List.foldlM_cons, List.foldl_cons, ← ih fun e' he' => h e' (by simp [he'])]
    have hput : putValue t e.1 e.2 = .ok (put Value.same e.1 e.2 t) := by
      rw [putValue, if_pos (h e (by simp))]
    simp only [bind, Except.bind, hput]

end Table

/-! ## Field maps -/

namespace FieldMap

/-- The new name of a field: that of the last entry for the field.  A field without an entry
keeps its name. -/
def newName (entries : List (Value × Value)) (field : Value) : Value :=
  ((entries.reverse.find? (·.1.same field)).map Prod.snd).getD field

/-- Entries in which the fields and their new names are texts. -/
def AreTexts (entries : List (Value × Value)) : Prop :=
  ∀ e ∈ entries, e.1.text?.isSome ∧ e.2.text?.isSome

variable {entries : List (Value × Value)}

lemma isKey_newName (h : AreTexts entries) (field : Value) :
    (newName entries field).isKey = field.isKey := by
  rw [newName]
  rcases hfind : entries.reverse.find? (·.1.same field) with _ | e
  · rw [hfind]
    rfl
  · have hmem : e ∈ entries := by simpa using List.mem_of_find?_eq_some hfind
    have hsame : e.1.same field = true := by simpa using List.find?_some hfind
    obtain ⟨s, hs⟩ := Option.isSome_iff_exists.mp (h e hmem).1
    have hfield : field.text? = some s := by simpa [Value.same_of_text? hs] using hsame
    have hname : e.2.isKey = true := Value.isKey_of_isSome_text? (h e hmem).2
    have hkey : field.isKey = true := Value.isKey_of_isSome_text? (by simp [hfield])
    rw [hfind, hkey]
    exact hname

/-- A field map can be set up from texts, and then gives each field its new name, which is not
looked up again. -/
theorem find_ofArguments (h : AreTexts entries) {args : List Arguments}
    (hargs : args.mapM entryOfArguments = .ok entries) :
    ∃ m, ofArguments (args.map .ok) = .ok m ∧
      ∀ field, m.find field = empty.find (newName entries field) := by
  have hkeys : ∀ e ∈ entries, e.1.isKey := fun e he => Value.isKey_of_isSome_text? (h e he).1
  have hentries : (args.map Except.ok).mapM (· >>= entryOfArguments) =
      (.ok entries : Except Fault _) := by
    rw [List.mapM_map]
    exact hargs
  refine ⟨⟨Table.ofList Value.same entries⟩, ?_, ?_⟩
  · rw [ofArguments, hentries]
    simp only [bind, Except.bind, pure, Except.pure, Table.ofValues_map_ok hkeys]
  · intro field
    have hname : newName entries field =
        (Table.get? Value.same field (Table.ofList Value.same entries)).getD field := by
      rw [newName, Table.get?_ofList fun e he => (h e he).1]
    by_cases hfield : field.isKey
    · have hkey : (newName entries field).isKey = true := (isKey_newName h field).trans hfield
      rw [find_empty hkey, find, if_pos hfield, hname]
    · have hkey : ¬ (newName entries field).isKey = true := by rwa [isKey_newName h field]
      rw [find, find, if_neg hfield, if_neg hkey]

end FieldMap
end Criteria
