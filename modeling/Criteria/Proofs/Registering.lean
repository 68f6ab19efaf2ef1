/-
# What a registry knows

The registrations that are accepted make up the history of a registry, behind the standard
ones if these are wanted.  A registry tells this history: under each key the last
registration counts, and the names stand in the order in which their keys first came.

* `Name.display_eq_empty_iff`: only the empty name is displayed as nothing.
* `Registry.register_of_text`: what comes of a call with a text as the name, and
  `Registry.register_of_no_text` that a call with another value is refused.
* `Registry.accepted`: the registration that a call brings; `Registry.attempt_eq`: what the
  call does to the registry.
* `Registry.Tells`: the entries of a registry are those of its history;
  `Registry.Tells.insert` is the case of one more registration, and
  `Registry.Tells.attemptAll` that of several calls.
* `Registry.last_registration_counts`: the answers of a registry after any calls.
-/
import Mathlib.Data.List.Induction
import Mathlib.Data.List.Nodup
import Mathlib.Tactic.Common
import Criteria.Registry
import Criteria.Proofs.CaseMapping

namespace Criteria

/-! ## Names -/

namespace Name

/-- Only the empty name is displayed as nothing. -/
lemma display_eq_empty_iff {s : String} : display s = "" ↔ s = "" := by
  have hchars : displayChars s.toList = [] ↔ s.toList = [] := by
    rcases s.toList with _ | ⟨c, cs⟩
    · simp [displayChars]
    · simp [displayChars, Text.uppercase_char_ne_nil]
  have hempty : ∀ cs : List Char, String.ofList cs = "" ↔ cs = [] := by
    intro cs
    rw [← String.toList_inj]
    simp
  rw [display, hempty, hchars]
  simp

lemma ofValue_of_text {v : Value} {s : String} (h : v.text? = some s) :
    ofValue v = .ok (display s) := by
  cases v with
  | str s' =>
    cases h
    exact ofValue_str s
  | operator o =>
    cases h
    rfl
  | _ => exact absurd h (by simp [Value.text?])

lemma keyOfValue_of_text {v : Value} {s : String} (h : v.text? = some s) :
    keyOfValue v = .ok (key s) := by
  simp [keyOfValue, ofValue_of_text h, Except.map, display, key, keyChars]

/-- A value that is no text has no name, or the empty one if it counts as nothing. -/
lemma ofValue_of_no_text {v : Value} (h : v.text? = none) :
    ofValue v = .ok "" ∨ ∃ e, ofValue v = .error e := by
  unfold ofValue
  by_cases hv : v.truthy
  · rw [if_neg (by simpa using hv)]
    refine .inr ?_
    cases v with
    | str s => exact absurd h (by simp)
    | operator o => exact absurd h (by simp [Value.text?])
    | list xs => cases xs <;> exact ⟨_, rfl⟩
    | tuple xs => cases xs <;> exact ⟨_, rfl⟩
    | dict entries =>
      rcases hget : Table.get? Value.same (.int 0) entries with _ | x
      · exact ⟨.noSuchKey, by simp [hget]⟩
      · exact ⟨headFault x, by simp [hget]⟩
    | _ => exact ⟨_, rfl⟩
  · rw [if_pos (by simpa using hv)]
    exact .inl rfl

end Name

/-! ## Ordered tables -/

namespace Table

variable {κ α : Type} [BEq κ] [LawfulBEq κ]

/-- A key that is new comes last, and one that is there keeps its place. -/
lemma map_fst_put (t : Table κ α) (k : κ) (a : α) :
    (t.put (· == ·) k a).map Prod.fst =
      if k ∈ t.map Prod.fst then t.map Prod.fst else t.map Prod.fst ++ [k] := by
  induction t with
  | nil => simp [put]
  | cons e t ih =>
    by_cases he : e.1 = k
    · simp [put, he]
    · have hk : k ≠ e.1 := Ne.symm he
      simp only [put, beq_iff_eq, he, if_false, List.map_cons, ih, List.mem_cons, hk, false_or]
      split <;> rfl

/-- Where no key stands twice, each entry is found under its key. -/
lemma get?_of_mem {t : Table κ α} (h : (t.map Prod.fst).Nodup) {e : κ × α} (he : e ∈ t) :
    get? (· == ·) e.1 t = some e.2 := by
  induction t with
  | nil => simp at he
  | cons e' t ih =>
    obtain ⟨hfirst, hrest⟩ := List.nodup_cons.mp h
    rcases List.mem_cons.mp he with rfl | he
    · simp [get?]
    · have hne : e'.1 ≠ e.1 := by
        intro heq
        exact hfirst (heq ▸ List.mem_map_of_mem he)
      rw [get?, if_neg (by simpa using hne)]
      exact ih hrest he

/-- The entry that is found under a key stands at one place of the table, and another entry put
under the key takes that place. -/
lemma exists_split_of_get? {t : Table κ α} {k : κ} {a : α} (h : get? (· == ·) k t = some a) :
    ∃ before after, t = before ++ (k, a) :: after ∧
      ∀ b, t.put (· == ·) k b = before ++ (k, b) :: after := by
  induction t with
  | nil => simp [get?] at h
  | cons e t ih =>
    obtain ⟨k', a'⟩ := e
    by_cases hk : k' = k
    · subst hk
      obtain rfl : a' = a := by simpa [get?] using h
      exact ⟨[], t, rfl, fun b => by simp [put]⟩
    · obtain ⟨before, after, rfl, hput⟩ := ih (by simpa [get?, hk] using h)
      exact ⟨(k', a') :: before, after, rfl, fun b => by simp [put, hk, hput b]⟩

end Table

section EraseDups

variable {α : Type} [BEq α] [LawfulBEq α]

lemma eraseDups_concat (l : List α) (a : α) [Decidable (a ∈ l)] :
    (l ++ [a]).eraseDups = if a ∈ l then l.eraseDups else l.eraseDups ++ [a] := by
  rw [List.eraseDups_append]
  by_cases h : a ∈ l <;> simp [h, List.removeAll, List.eraseDups_cons]

lemma nodup_eraseDups (l : List α) : l.eraseDups.Nodup := by
  classical
  induction l using List.reverseRecOn with
  | nil => simp
  | append_singleton l a ih =>
    rw [eraseDups_concat]
    split
    · exact ih
    · rename_i ha
      have hnew : a ∉ l.eraseDups := by simpa using ha
      simpa using ih.concat hnew

end EraseDups

/-! ## Registrations -/

namespace Registry

/-- The registration that a call brings: a name that is not empty, with a constructor.  Other
calls are refused. -/
def accepted (call : Value × Candidate) : Option (String × Constructor) :=
  match call.1.text?, call.2 with
  | some name, .constructor c => if name = "" then none else some (name, c)
  | _, _ => none

/-- The registrations that a registry has from the start. -/
def initial (withStandard : Bool) : List (String × Constructor) :=
  if withStandard then Standard.all.map fun s => (s.display, .standard s) else []

/-- The last registration under a key. -/
def latest (history : List (String × Constructor)) (key : String) :
    Option (String × Constructor) :=
  history.reverse.find? (Name.key ·.1 = key)

/-- What is known under a key: the last registration, or else the one from the start. -/
def known (start history : List (String × Constructor)) (key : String) :
    Option (String × Constructor) :=
  (latest history key).or (latest start key)

/-- The registry after several attempts to register. -/
def attemptAll (r : Registry) (calls : List (Value × Candidate)) : Registry :=
  calls.foldl (fun r call => r.attempt call.1 call.2) r

lemma latest_append (xs ys : List (String × Constructor)) (key : String) :
    latest (xs ++ ys) key = (latest ys key).or (latest xs key) := by
  rw [latest, List.reverse_append, List.find?_append]
  rfl

/-! ### What comes of a call -/

section

variable (r : Registry) {name : Value}

/-- With a text as the name a call is refused if the text is empty, and then if there is no
constructor. -/
lemma register_of_text {s : String} (h : name.text? = some s) (candidate : Candidate) :
    r.register name candidate =
      if s = "" then ⟨[], .error .emptyName⟩
      else match candidate with
        | .constructor c => ⟨[.registered (Name.display s)],
            .ok (r.insert (Name.key s) (Name.display s) c)⟩
        | .value v => ⟨[], .error (.notAConstructor v)⟩ := by
  simp only [register, Name.ofValue_of_text h, Name.keyOfValue_of_text h,
    Name.display_eq_empty_iff]
  rfl

/-- With another value as the name a call is refused. -/
lemma register_of_no_text (h : name.text? = none) (candidate : Candidate) :
    ∃ e, r.register name candidate = ⟨[], .error e⟩ := by
  rcases Name.ofValue_of_no_text h with hname | ⟨e, hname⟩
  · exact ⟨.emptyName, by simp [register, Name.keyOfValue, hname, Except.map, Outcome.silent]⟩
  · exact ⟨e, by simp [register, Name.keyOfValue, hname, Except.map, Outcome.silent]⟩

/-- An accepted registration is inserted under the key of its name; a refused call changes
nothing. -/
lemma attempt_eq (call : Value × Candidate) :
    r.attempt call.1 call.2 =
      match accepted call with
      | some (name, c) => r.insert (Name.key name) (Name.display name) c
      | none => r := by
  rcases hname : call.1.text? with _ | s
  · obtain ⟨e, he⟩ := r.register_of_no_text hname call.2
    simp [attempt, he, accepted, hname]
  · rw [attempt, r.register_of_text hname, accepted, hname]
    rcases call.2 with c | v <;> by_cases hs : s = "" <;> simp [hs]

end

/-! ### What a registry tells -/

/-- The entries of a registry are those of a history: one for each key, in the order in which
the keys first came, with the last registration under the key. -/
structure Tells (r : Registry) (history : List (String × Constructor)) : Prop where
  keys : r.entries.map Prod.fst = (history.map (Name.key ·.1)).eraseDups
  get?_eq : ∀ key, r.get? key = (latest history key).map fun e => ⟨Name.display e.1, e.2⟩

namespace Tells

variable {r : Registry} {history : List (String × Constructor)}

lemma empty : Registry.empty.Tells [] := ⟨by simp [Registry.empty], fun _ => rfl⟩

/-- One more registration comes last in the history. -/
lemma insert (h : r.Tells history) (name : String) (c : Constructor) :
    (r.insert (Name.key name) (Name.display name) c).Tells (history ++ [(name, c)]) where
  keys := by
    have hmem : Name.key name ∈ r.entries.map Prod.fst ↔
        Name.key name ∈ history.map (Name.key ·.1) := by
      rw [h.keys, List.mem_eraseDups]
    rw [Registry.insert, Table.map_fst_put, List.map_append, List.map_cons, List.map_nil,
      eraseDups_concat, h.keys]
    simp only [← h.keys, hmem]
  get?_eq key := by
    rw [latest_append]
    by_cases hkey : Name.key name = key
    · subst hkey
      simp [Registry.get?, Registry.insert, Table.get?_put_self, latest]
    · have hrest : (r.insert (Name.key name) (Name.display name) c).get? key = r.get? key :=
        Table.get?_put_of_ne _ _ hkey
      rw [hrest, h.get?_eq]
      simp [latest, hkey]

/-- Of several calls those that are accepted come last in the history. -/
lemma attemptAll (h : r.Tells history) (calls : List (Value × Candidate)) :
    (r.attemptAll calls).Tells (history ++ calls.filterMap accepted) := by
  induction calls using List.reverseRecOn with
  | nil => simpa [Registry.attemptAll] using h
  | append_singleton calls call ih =>
    have hlast : r.attemptAll (calls ++ [call]) =
        (r.attemptAll calls).attempt call.1 call.2 := by
      simp [Registry.attemptAll]
    rw [hlast, attempt_eq, List.filterMap_append]
    rcases hcall : accepted call with _ | ⟨name, c⟩
    · simpa [hcall] using ih
    · simpa [hcall] using ih.insert name c

/-- The standard constructors are registered under their own names, in order. -/
lemma standard : Registry.standard.Tells (initial true) := by
  have hdisplay : ∀ s : Standard, Name.display s.display = s.display := by
    intro s
    cases s <;> decide +kernel
  have hall : ∀ ss : List Standard,
      (ss.foldl (fun r s => r.insert (Name.key s.display) s.display (.standard s))
        Registry.empty).Tells (ss.map fun s => (s.display, .standard s)) := by
    intro ss
    induction ss using List.reverseRecOn with
    | nil => exact empty
    | append_singleton ss s ih =>
      have hs := ih.insert s.display (.standard s)
      rw [hdisplay] at hs
      simpa using hs
  exact hall Standard.all

lemma start (withStandard : Bool) :
    (if withStandard then Registry.standard else Registry.empty).Tells
      (initial withStandard) := by
  cases withStandard with
  | false => exact empty
  | true => exact standard

end Tells

/-- A registry that is set up from some constructors has made an attempt with each of them. -/
lemma eq_attemptAll_of_registerAll {r r' : Registry} {calls : List (Value × Candidate)}
    (h : (r.registerAll calls).result = .ok r') : r' = r.attemptAll calls := by
  induction calls generalizing r with
  | nil => exact (Except.ok.inj h).symm
  | cons call calls ih =>
    obtain ⟨name, candidate⟩ := call
    rw [registerAll, Outcome.andThen] at h
    rcases hcall : (r.register name candidate).result with e | r₁
    · rw [hcall] at h
      exact absurd h (by simp)
    · rw [hcall] at h
      have hfirst : r.attempt name candidate = r₁ := by rw [attempt, hcall]
      rw [attemptAll, List.foldl_cons, hfirst]
      exact ih h

/-! ## The answers of a registry -/

/-- A registry that has the registrations `start` from the start answers by those of `history`:
what it knows under a key is the last registration of `history`, or else the one of `start`. -/
structure Follows (r : Registry) (start history : List (String × Constructor)) : Prop where
  find : ∀ {name : Value} {s : String}, name.text? = some s →
    r.find name =
      .ok ((known start history (Name.key s)).map Prod.snd)
  create : ∀ {name : Value} {s : String}, name.text? = some s → ∀ field arguments,
    r.create name field arguments =
      match known start history (Name.key s) with
      | some e => e.2.build field arguments
      | none => .ok none
  contains : ∀ {name : Value} {s : String}, name.text? = some s →
    r.contains name = (known start history (Name.key s)).isSome
  /-- One name for each key, in the order in which the keys first came. -/
  names : r.names.map some =
    ((start ++ history).map (Name.key ·.1)).eraseDups.map fun key =>
      (known start history key).map fun e => Name.display e.1

lemma Tells.follows {r : Registry} {start history : List (String × Constructor)}
    (h : r.Tells (start ++ history)) : r.Follows start history := by
  have hget : ∀ key, r.get? key =
      (known start history key).map fun e => ⟨Name.display e.1, e.2⟩ := by
    intro key
    rw [h.get?_eq, latest_append, known]
  have hfind : ∀ {name : Value} {s : String}, name.text? = some s → r.find name =
      .ok ((known start history (Name.key s)).map Prod.snd) := by
    intro name s hs
    rw [Registry.find, Name.keyOfValue_of_text hs]
    simp [Except.map, hget, Function.comp_def]
  constructor
  case find => exact hfind
  case create =>
    intro name s hs field arguments
    rw [Registry.create, hfind hs]
    rcases known start history (Name.key s) with _ | e <;> rfl
  case contains =>
    intro name s hs
    rw [Registry.contains, hs]
    simp [hget]
  case names =>
    have hnodup : (r.entries.map Prod.fst).Nodup := h.keys ▸ nodup_eraseDups _
    rw [← h.keys, Registry.names, List.map_map, List.map_map]
    refine List.map_congr_left ?_
    intro e he
    -- an entry is what is found under its key
    have hentry : r.get? e.1 = some e.2 := Table.get?_of_mem hnodup he
    have hshown := congrArg (Option.map Registration.display) ((hget e.1).symm.trans hentry)
    simpa [Function.comp_def] using hshown.symm

/-- Whatever calls a registry has had since it was set up, accepted and refused ones, the last
accepted registration counts under each key, then the standard constructors if they are wanted.
The names stand in the order in which their keys first came.  A call is refused if the name is
empty, and then if there is no constructor; this changes nothing and nothing is logged. -/
theorem last_registration_counts {withStandard : Bool} {constructors : Table Value Candidate}
    {r₀ : Registry} (h : (ofConstructors withStandard constructors).result = .ok r₀)
    (calls : List (Value × Candidate)) :
    let r := r₀.attemptAll calls
    r.Follows (initial withStandard) ((constructors ++ calls).filterMap accepted) ∧
    ∀ {name : Value} {s : String}, name.text? = some s → ∀ candidate : Candidate,
      (s = "" → r.register name candidate = ⟨[], .error .emptyName⟩) ∧
      (s ≠ "" → ∀ v, candidate = .value v →
        r.register name candidate = ⟨[], .error (.notAConstructor v)⟩) ∧
      ((s = "" ∨ ∃ v, candidate = .value v) → r.attempt name candidate = r) ∧
      (s ≠ "" → ∀ c, candidate = .constructor c → r.register name candidate =
        ⟨[.registered (Name.display s)], .ok (r.attempt name candidate)⟩) := by
  intro r
  have hstart : r = (if withStandard then standard else empty).attemptAll
      (constructors ++ calls) := by
    rw [attemptAll, List.foldl_append]
    exact congrArg (attemptAll · calls) (eq_attemptAll_of_registerAll h)
  refine ⟨hstart ▸ ((Tells.start withStandard).attemptAll _).follows, ?_⟩
  intro name s hs candidate
  rw [r.register_of_text hs]
  have hattempt := r.attempt_eq (name, candidate)
  rw [accepted, hs] at hattempt
  refine ⟨?_, ?_, ?_, ?_⟩
  · intro hempty
    rw [if_pos hempty]
  · rintro hne v rfl
    rw [if_neg hne]
  · rintro (hempty | ⟨v, rfl⟩)
    · rcases candidate with c | v <;> simpa [hempty] using hattempt
    · exact hattempt
  · rintro hne c rfl
    rw [if_neg hne, hattempt]
    simp [hne]

/-- `last_registration_counts` at a registry in which a standard constructor is replaced, and a
run with a name that comes twice, a call without a name and a call without a constructor. -/
theorem last_registration_counts_replaced :
    let constructors : Table Value Candidate := [(.str "rANGE", .constructor .atLeast)]
    let calls : List (Value × Candidate) := [
      (.str "near", .constructor .declining), (.str "", .constructor .everything),
      (.str "Near", .constructor .everything), (.str "term", .value .null)]
    ∃ r₀, (ofConstructors true constructors).result = .ok r₀ ∧
      let r := r₀.attemptAll calls
      r.find (.str "range") = .ok (some .atLeast) ∧
      r.find (.str "NEAR") = .ok (some .everything) ∧
      r.find (.str "TERM") = .ok (some (.standard .term)) ∧
      r.contains (.str "") = false ∧
      r.names.map some =
        ["RANGE", "Terms", "Term", "Match", "Prefix", "Wildcard", "Near"].map some ∧
      r.register (.str "") (.value .null) = ⟨[], .error .emptyName⟩ ∧
      r.attempt (.str "term") (.value .null) = r := by
  intro constructors calls
  refine ⟨_, rfl, ?_⟩
  obtain ⟨hfollows, hcalls⟩ := @last_registration_counts true constructors _ rfl calls
  refine ⟨?_, ?_, ?_, ?_, ?_, ?_, ?_⟩
  · exact (hfollows.find rfl).trans rfl
  · exact (hfollows.find rfl).trans rfl
  · exact (hfollows.find rfl).trans rfl
  · exact (hfollows.contains rfl).trans rfl
  · exact hfollows.names.trans rfl
  · exact (hcalls rfl _).1 rfl
  · exact (hcalls rfl _).2.2.1 (.inr ⟨_, rfl⟩)

end Registry

end Criteria
