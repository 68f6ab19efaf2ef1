/-
# Displayed names

A registry stores a constructor under the key of the name that was registered and shows the
displayed form of this name, which may be longer.  A displayed form is its own displayed form
and has the key of the name, so that each name in the list of names leads to its own entry.

* `Name.display_display` and `Name.key_display`: displaying a displayed form again changes
  neither it nor its key.
* `Registry.Consistent`: the keys of a registry are distinct and are those of the displayed
  names; `Registry.consistent_attemptAll` says that every registry that can be set up and
  called is like this.
* `Registry.names_resolve`: what is known of the names in the list of names.
-/
import Criteria.Proofs.Registering

namespace Criteria

/-! ## Displaying a name again -/

namespace Name

lemma displayChars_displayChars (s : List Char) :
    displayChars (displayChars s) = displayChars s := by
  cases s with
  | nil => rfl
  | cons c s =>
    obtain ⟨c', u, hc, hc'⟩ := Text.exists_uppercase_char c
    rw [displayChars, hc, List.cons_append, displayChars, hc', List.singleton_append]

lemma display_display (name : String) : display (display name) = display name := by
  rw [display, display, String.toList_ofList, displayChars_displayChars]

lemma key_display (name : String) : key (display name) = key name := by
  rw [key, key, keyChars, keyChars, display, String.toList_ofList, displayChars_displayChars]

/-- Only the empty name has an empty key. -/
lemma key_eq_empty_iff {name : String} : key name = "" ↔ name = "" := by
  have hchars : keyChars name.toList = [] ↔ name.toList = [] := by
    rcases name.toList with _ | ⟨c, s⟩
    · simp [keyChars, displayChars, Text.CaseTable.text_nil]
    · obtain ⟨c', u, hc, -⟩ := Text.exists_uppercase_char c
      simp [keyChars, displayChars, hc, Text.CaseTable.text_cons, Text.casefold_char_ne_nil]
  rw [key, ← String.toList_inj, String.toList_ofList, String.toList_empty, hchars]
  simp

end Name

/-! ## Consistent registries -/

namespace Registry

/-- No key stands twice, and the key of an entry is that of its displayed name, which is not
empty and is displayed as it is. -/
structure Consistent (r : Registry) : Prop where
  nodup : (r.entries.map Prod.fst).Nodup
  display_ne : ∀ e ∈ r.entries, e.2.display ≠ ""
  display_display : ∀ e ∈ r.entries, Name.display e.2.display = e.2.display
  key_display : ∀ e ∈ r.entries, Name.key e.2.display = e.1

/-- An entry comes from a registration of the history. -/
lemma Tells.exists_of_mem {r : Registry} {history : List (String × Constructor)}
    (h : r.Tells history) {e : String × Registration} (he : e ∈ r.entries) :
    ∃ x ∈ history, Name.key x.1 = e.1 ∧ Name.display x.1 = e.2.display := by
  have hnodup : (r.entries.map Prod.fst).Nodup := h.keys ▸ nodup_eraseDups _
  have hentry : r.get? e.1 = some e.2 := Table.get?_of_mem hnodup he
  rw [h.get?_eq] at hentry
  obtain ⟨x, hx, hshown⟩ := Option.map_eq_some_iff.mp hentry
  refine ⟨x, ?_, ?_, congrArg Registration.display hshown⟩
  · exact List.mem_reverse.mp (List.mem_of_find?_eq_some hx)
  · simpa using List.find?_some hx

lemma Tells.consistent {r : Registry} {history : List (String × Constructor)}
    (h : r.Tells history) (hne : ∀ x ∈ history, x.1 ≠ "") : r.Consistent where
  nodup := h.keys ▸ nodup_eraseDups _
  display_ne e he := by
    obtain ⟨x, hx, -, hdisplay⟩ := h.exists_of_mem he
    rw [← hdisplay]
    exact fun hempty => hne x hx (Name.display_eq_empty_iff.mp hempty)
  display_display e he := by
    obtain ⟨x, -, -, hdisplay⟩ := h.exists_of_mem he
    rw [← hdisplay, Name.display_display]
  key_display e he := by
    obtain ⟨x, -, hkey, hdisplay⟩ := h.exists_of_mem he
    rw [← hdisplay, Name.key_display, hkey]

lemma ne_empty_of_mem_initial {withStandard : Bool} :
    ∀ x ∈ initial withStandard, x.1 ≠ "" := by
  cases withStandard <;> simp [initial, Standard.all, Standard.display]

lemma ne_empty_of_accepted {call : Value × Candidate} {x : String × Constructor}
    (h : accepted call = some x) : x.1 ≠ "" := by
  rw [accepted] at h
  split at h
  · split at h
    · simp at h
    · obtain rfl := Option.some.inj h
      assumption
  · simp at h

/-- A registry that was set up is consistent, whatever calls it has had since. -/
lemma consistent_attemptAll {withStandard : Bool} {constructors : Table Value Candidate}
    {r₀ : Registry} (h : (ofConstructors withStandard constructors).result = .ok r₀)
    (calls : List (Value × Candidate)) : (r₀.attemptAll calls).Consistent := by
  have hstart : r₀.attemptAll calls =
      (if withStandard then standard else empty).attemptAll (constructors ++ calls) := by
    rw [eq_attemptAll_of_registerAll h, attemptAll, attemptAll, attemptAll, List.foldl_append]
  rw [hstart]
  refine ((Tells.start withStandard).attemptAll _).consistent ?_
  intro x hx
  rcases List.mem_append.mp hx with hx | hx
  · exact ne_empty_of_mem_initial x hx
  · obtain ⟨call, -, hcall⟩ := List.mem_filterMap.mp hx
    exact ne_empty_of_accepted hcall

/-! ## Entries under their names -/

section

variable {r : Registry}

lemma find_str (r : Registry) (name : String) :
    r.find (.str name) = .ok ((r.get? (Name.key name)).map (·.constructor)) := by
  rw [find, Name.keyOfValue_str]
  rfl

lemma contains_str (r : Registry) (name : String) :
    r.contains (.str name) = (r.get? (Name.key name)).isSome := rfl

lemma Consistent.get?_display (h : r.Consistent) {e : String × Registration}
    (he : e ∈ r.entries) : r.get? (Name.key e.2.display) = some e.2 := by
  rw [h.key_display e he]
  exact Table.get?_of_mem h.nodup he

/-- The names that a registry knows are not empty. -/
lemma Consistent.ne_empty_of_get? (h : r.Consistent) {name : String} {e : Registration}
    (he : r.get? (Name.key name) = some e) : name ≠ "" := by
  obtain ⟨before, after, hentries, -⟩ := Table.exists_split_of_get? he
  have hmem : (Name.key name, e) ∈ r.entries := by simp [hentries]
  have hkey : Name.key e.display = Name.key name := h.key_display (Name.key name, e) hmem
  have hdisplay : e.display ≠ "" := h.display_ne (Name.key name, e) hmem
  rwa [Ne, ← Name.key_eq_empty_iff, ← hkey, Name.key_eq_empty_iff]

/-- A constructor that is registered under a known name takes the place of the one there. -/
lemma Consistent.register_known (h : r.Consistent) {name : Value} {n : String}
    (hn : name.text? = some n) {e : Registration} (he : r.get? (Name.key n) = some e)
    (c : Constructor) :
    ∃ before after, r.entries = before ++ (Name.key n, e) :: after ∧
      r.register name (.constructor c) = ⟨[.registered (Name.display n)],
        .ok ⟨before ++ (Name.key n, ⟨Name.display n, c⟩) :: after⟩⟩ := by
  obtain ⟨before, after, hentries, hput⟩ := Table.exists_split_of_get? he
  have hinsert : r.insert (Name.key n) (Name.display n) c =
      ⟨before ++ (Name.key n, ⟨Name.display n, c⟩) :: after⟩ := by
    rw [insert, hput]
  refine ⟨before, after, hentries, ?_⟩
  rw [r.register_of_text hn, if_neg (h.ne_empty_of_get? he)]
  simp only [hinsert]

/-- Registering under a displayed name leaves the list of names as it is. -/
lemma Consistent.register_display (h : r.Consistent) {e : String × Registration}
    (he : e ∈ r.entries) (c : Constructor) :
    ∃ r', r.register (.str e.2.display) (.constructor c) = ⟨[.registered e.2.display], .ok r'⟩ ∧
      r'.names = r.names := by
  obtain ⟨before, after, hentries, hregister⟩ :=
    h.register_known (Value.text?_str _) (h.get?_display he) c
  rw [h.display_display e he] at hregister
  refine ⟨_, hregister, ?_⟩
  rw [names, names, hentries]
  simp

/-- Whatever calls a registry has had since it was set up, a name in its list of names is not
empty and is displayed as it is.  It is known, with the constructor at its place, and registering
any constructor under it again leaves the list of names as it is.  No two names in the list have
one key.  Of any name the displayed form is displayed as it is, and has the key of the name. -/
theorem names_resolve {withStandard : Bool} {constructors : Table Value Candidate}
    {r₀ : Registry} (h : (ofConstructors withStandard constructors).result = .ok r₀)
    (calls : List (Value × Candidate)) :
    let r := r₀.attemptAll calls
    (∀ (i : Nat) (d : String), r.names[i]? = some d →
      d ≠ "" ∧ Name.display d = d ∧ r.contains (.str d) = true ∧
      (∃ e, r.entries[i]? = some e ∧ r.find (.str d) = .ok (some e.2.constructor)) ∧
      ∀ c, ∃ r', r.register (.str d) (.constructor c) = ⟨[.registered d], .ok r'⟩ ∧
        r'.names = r.names) ∧
    (r.names.map Name.key).Nodup ∧
    ∀ name, Name.display (Name.display name) = Name.display name ∧
      Name.key (Name.display name) = Name.key name := by
  intro r
  have hr : r.Consistent := consistent_attemptAll h calls
  refine ⟨?_, ?_, fun name => ⟨Name.display_display name, Name.key_display name⟩⟩
  · intro i d hd
    rw [names, List.getElem?_map] at hd
    obtain ⟨e, hi, rfl⟩ := Option.map_eq_some_iff.mp hd
    have he : e ∈ r.entries := List.mem_of_getElem? hi
    have hget : r.get? (Name.key e.2.display) = some e.2 := hr.get?_display he
    refine ⟨hr.display_ne e he, hr.display_display e he, ?_, ⟨e, hi, ?_⟩, ?_⟩
    · rw [contains_str, hget]
      rfl
    · rw [find_str, hget]
      rfl
    · exact hr.register_display he
  · have hkeys : r.names.map Name.key = r.entries.map Prod.fst := by
      rw [names, List.map_map]
      exact List.map_congr_left hr.key_display
    rw [hkeys]
    exact hr.nodup

/-- `names_resolve` at a registry of three names whose first characters have an upper case of
two characters, of another letter and of their own, after a call that is refused and one that
replaces a constructor. -/
theorem names_resolve_dotless :
    let calls : List (Value × Candidate) := [
      (.str "ßx", .constructor .declining), (.str "ıx", .constructor .declining),
      (.str "Near", .constructor .declining), (.str "near", .value .null),
      (.str "ix", .constructor .everything)]
    ∃ r₀, (ofConstructors false []).result = .ok r₀ ∧
      let r := r₀.attemptAll calls
      r.names = ["SSx", "Ix", "Near"] ∧ r.contains (.str "Ix") = true ∧
      (∃ e, r.entries[1]? = some e ∧ r.find (.str "Ix") = .ok (some e.2.constructor)) ∧
      (∃ r', r.register (.str "SSx") (.constructor .atLeast) = ⟨[.registered "SSx"], .ok r'⟩ ∧
        r'.names = r.names) ∧
      (r.names.map Name.key).Nodup := by
  intro calls
  refine ⟨_, rfl, ?_⟩
  obtain ⟨hnames, hkeys, -⟩ := @names_resolve false [] _ rfl calls
  obtain ⟨-, -, hcontains, hfind, -⟩ := hnames 1 "Ix" rfl
  obtain ⟨-, -, -, -, hregister⟩ := hnames 0 "SSx" rfl
  exact ⟨rfl, hcontains, hfind, hregister .atLeast, hkeys⟩

end

end Registry
end Criteria
