/-
# Names that differ in letter case only

The key of a name is the case folding of its displayed form, in which the first character is in
upper case.  Case folding forgets about that, unless the name starts with a dotless i, whose
upper case is folded to the letter i.  Only a dotless i is folded to a dotless i, so that the
key can be had from the folding of the name itself, and names with the same folding are one name
to a registry.

* `Name.keyChars_eq`: the key from the folding of the name.
* `Registry.same_folding`: what a registry does with two names that have the same folding.
-/
import Criteria.Proofs.DisplayedNames

namespace Criteria

/-! ## Keys from foldings -/

namespace Name

/-- A text with an i in place of a dotless i at its start. -/
def dotted : List Char → List Char
  | [] => []
  | c :: s => (if c = 'ı' then 'i' else c) :: s

lemma keyChars_eq (s : List Char) : keyChars s = dotted (Text.casefold.text s) := by
  cases s with
  | nil => rfl
  | cons c s =>
    rw [keyChars, displayChars, Text.CaseTable.text_append, Text.CaseTable.text_cons]
    by_cases hc : c = 'ı'
    · have hupper : Text.casefold.text (Text.uppercase.char 'ı') = ['i'] := by decide +kernel
      have hfold : Text.casefold.char 'ı' = ['ı'] := by decide +kernel
      rw [hc, hupper, hfold]
      rfl
    -- the folding of `c` has a first character, and that is no dotless i
    · obtain ⟨d, u, hfold⟩ := List.exists_cons_of_ne_nil (Text.casefold_char_ne_nil c)
      have hd : d ≠ 'ı' := by
        intro hd
        exact Text.head_casefold_char_ne hc (by rw [hfold, hd, List.head?_cons])
      rw [Text.casefold_uppercase hc, hfold, List.cons_append, dotted, if_neg hd]

lemma key_eq_of_casefold_eq {n m : String}
    (h : Text.casefold.text n.toList = Text.casefold.text m.toList) : key n = key m := by
  rw [key, key, keyChars_eq, keyChars_eq, h]

end Name

/-! ## One name to a registry -/

namespace Registry

/-- Whatever calls a registry has had since it was set up, two names with the same case folding
are one name to it.  Both lead to the same constructor, or both are unknown; the same query is
created under both; and a constructor that is registered under the second takes the place of the
entry that is known under the first, which is the only one with this key. -/
theorem same_folding {withStandard : Bool} {constructors : Table Value Candidate}
    {r₀ : Registry} (h : (ofConstructors withStandard constructors).result = .ok r₀)
    (calls : List (Value × Candidate)) {name name' : Value} {n m : String}
    (hn : name.text? = some n) (hm : name'.text? = some m)
    (hfold : Text.casefold.text n.toList = Text.casefold.text m.toList) :
    let r := r₀.attemptAll calls
    (∃ found, r.find name = .ok found ∧ r.find name' = .ok found) ∧
    (∀ field arguments, r.create name field arguments = r.create name' field arguments) ∧
    r.contains name = r.contains name' ∧
    (r.contains name = true → ∀ c : Constructor, ∃ before e after,
      r.entries = before ++ (Name.key n, e) :: after ∧
      Name.key n ∉ (before ++ after).map Prod.fst ∧
      r.register name' (.constructor c) = ⟨[.registered (Name.display m)],
        .ok ⟨before ++ (Name.key n, ⟨Name.display m, c⟩) :: after⟩⟩) := by
  intro r
  have hr : r.Consistent := consistent_attemptAll h calls
  have hkey : Name.key n = Name.key m := Name.key_eq_of_casefold_eq hfold
  have hsame : Name.keyOfValue name = Name.keyOfValue name' := by
    rw [Name.keyOfValue_of_text hn, Name.keyOfValue_of_text hm, hkey]
  have hfind : r.find name = r.find name' := by rw [find, find, hsame]
  refine ⟨⟨(r.get? (Name.key n)).map (·.constructor), ?_, ?_⟩, ?_, ?_, ?_⟩
  · rw [find, Name.keyOfValue_of_text hn]
    rfl
  · rw [find, Name.keyOfValue_of_text hm, hkey]
    rfl
  · intro field arguments
    rw [create, create, hfind]
  · rw [contains, contains, hn, hm]
    simp only [hkey]
  · intro hcontains c
    rw [contains, hn] at hcontains
    obtain ⟨e, he⟩ := Option.isSome_iff_exists.mp hcontains
    obtain ⟨before, after, hentries, hregister⟩ := hr.register_known hm (hkey ▸ he) c
    rw [← hkey] at hentries hregister
    refine ⟨before, e, after, hentries, ?_, hregister⟩
    have hnodup := hr.nodup
    rw [hentries, List.map_append, List.map_cons, List.nodup_middle] at hnodup
    simpa using (List.nodup_cons.mp hnodup).1

/-- `same_folding` at a sharp s and the two letters that it is folded to. -/
theorem same_folding_sharp :
    let calls : List (Value × Candidate) := [
      (.str "ßx", .constructor .declining), (.str "near", .constructor .everything)]
    Text.casefold.text "ßx".toList = Text.casefold.text "sSx".toList ∧
    ∃ r₀, (ofConstructors false []).result = .ok r₀ ∧
      let r := r₀.attemptAll calls
      r.find (.str "sSx") = .ok (some .declining) ∧ r.contains (.str "sSx") = true ∧
      ∃ before e after, r.entries = before ++ (Name.key "ßx", e) :: after ∧
        Name.key "ßx" ∉ (before ++ after).map Prod.fst ∧
        r.register (.str "sSx") (.constructor .atLeast) = ⟨[.registered "SSx"],
          .ok ⟨before ++ (Name.key "ßx", ⟨"SSx", .atLeast⟩) :: after⟩⟩ := by
  intro calls
  have hfold : Text.casefold.text "ßx".toList = Text.casefold.text "sSx".toList := by
    decide +kernel
  refine ⟨hfold, _, rfl, ?_⟩
  have hknown : (attemptAll empty calls).find (.str "ßx") = .ok (some .declining) := rfl
  have hmem : (attemptAll empty calls).contains (.str "ßx") = true := by decide +kernel
  obtain ⟨⟨found, hfirst, hsecond⟩, -, hcontains, hregister⟩ :=
    @same_folding false [] _ rfl calls _ _ _ _ (Value.text?_str "ßx") (Value.text?_str "sSx") hfold
  have hfound : some Constructor.declining = found := Except.ok.inj (hknown.symm.trans hfirst)
  exact ⟨hsecond.trans (congrArg _ hfound.symm), hcontains.symm.trans hmem, hregister hmem .atLeast⟩

end Registry
end Criteria
