/-
# Calls that add constraints

A call that adds a constraint has all its required arguments and no unknown ones, or it is not
understood.  Among the calls that are understood, only two look at a value so closely that it can
be refused: the call for a batch, which asks for the pairs of a mapping, and the call for a query
string, which goes through its fields.  All other values are kept, whatever they are.

* `Request.Complete`: the calls that are understood, by `Request.exists_ofArguments_iff`.
* `Request.Refuses`: the values that are not taken; `Request.constraint_eq_error_iff` says that no
  other call fails.
* `Request.Kept`: how an argument is found in the constraint; `Request.exists_kept` says that each
  argument is.
* `Session.intake`: the statement for all calls on a subject, and `Session.intake_refused`: two
  calls that fail.
-/
import Criteria.Proofs.Arrival
import Criteria.Proofs.Boosts

namespace Criteria

/-! ## Arguments of a call -/

namespace Arguments

variable {args : Arguments} {name : String} {v : Value}

lemma required_eq_ok_iff : args.required name = .ok v ↔ args.given? name = some v := by
  rw [required]
  rcases args.given? name with _ | v' <;> simp

lemma only_eq_ok_iff {known : List String} :
    args.only known = .ok () ↔ ∀ a ∈ args, a.1 ∈ known := by
  simp [only]

lemma exists_mem_of_given? (h : args.given? name = some v) : ∃ a ∈ args, a.1 = name := by
  induction args with
  | nil => simp [given?, Table.get?] at h
  | cons a args ih =>
    by_cases ha : a.1 = name
    · exact ⟨a, by simp, ha⟩
    · obtain ⟨a', ha', hname⟩ := ih (by simpa [given?, Table.get?, ha] using h)
      exact ⟨a', by simp [ha'], hname⟩

end Arguments

namespace Request

/-- The names of the arguments of a request that have no default. -/
def requiredNames : Kind → List String
  | .equals | .notEquals | .notIn | .inRange | .notInRange | .present | .absent => ["field"]
  | .termsAny => ["field", "values"]
  | .whereOr => ["mapping"]
  | .textMatch | .textMismatch | .simpleQueryString => ["field", "keyword"]
  | .geoDistance => ["field", "location", "distance"]
  | .queryString => ["fields"]
  | .namedConditionOr => ["field", "operator_name", "arguments"]

/-- The arguments of a call: all that have no default are given, and none is unknown. -/
structure Complete (k : Kind) (args : Arguments) : Prop where
  required : ∀ name ∈ requiredNames k, ∃ v, args.given? name = some v
  known : ∀ a ∈ args, a.1 ∈ argumentNames k

/-- The values that a call does not take, whatever else is given, and the fault. -/
inductive Refuses : Kind → Arguments → Fault → Prop
  /-- A mapping that does not count as nothing has to be a dictionary. -/
  | mapping {args : Arguments} {v : Value} (h : args.given? "mapping" = some v)
      (hv : v.truthy = true) (hdict : ∀ entries, v ≠ .dict entries) :
      Refuses .whereOr args .noSuchAttribute
  /-- Fields are given one by one, unless there are none. -/
  | fields {args : Arguments} {v : Value} (h : args.given? "fields" = some v) (hv : v ≠ .null)
      (helements : v.elements? = none) : Refuses .queryString args .wrongType

/-- How an argument is kept in a constraint: most are kept as they are, under their names. -/
inductive Kept (defaultBoost : Value) : String → Value → String × Value → Prop
  | boost {v : Value} (hv : v.truthy = true) : Kept defaultBoost "boost" v ("boost", v)
  | fallback {v : Value} (hv : v.truthy = false) :
      Kept defaultBoost "boost" v ("boost", defaultBoost)
  | pairs {entries : List (Value × Value)} :
      Kept defaultBoost "mapping" (.dict entries)
        ("terms", .tuple (entries.map fun e => .tuple [e.1, e.2]))
  | noPairs {v : Value} (hv : v.truthy = false) :
      Kept defaultBoost "mapping" v ("terms", .tuple [])
  | oneField {v : Value} (hv : v.text?.isSome) : Kept defaultBoost "fields" v ("fields", .tuple [v])
  | noFields : Kept defaultBoost "fields" .null ("fields", .tuple [])
  | fields {v : Value} {vs : List Value} (hv : v.text? = none) (hvs : v.elements? = some vs) :
      Kept defaultBoost "fields" v ("fields", .tuple vs)
  | asGiven {name : String} {v : Value} (hname : name ∉ ["boost", "mapping", "fields"]) :
      Kept defaultBoost name v (name, v)

variable {k : Kind} {args : Arguments} {b : Value}

/-- A complete call is understood, and no other call is. -/
lemma exists_ofArguments_iff : (∃ r, ofArguments k args = .ok r) ↔ Complete k args := by
  have hcomplete : Complete k args ↔
      args.only (argumentNames k) = .ok () ∧ ∀ name ∈ requiredNames k, ∃ v,
        args.required name = .ok v := by
    simp only [Arguments.only_eq_ok_iff, Arguments.required_eq_ok_iff]
    exact ⟨fun h => ⟨h.known, h.required⟩, fun h => ⟨h.2, h.1⟩⟩
  rw [hcomplete]
  cases k <;>
    simp only [ofArguments, requiredNames, bind_eq_ok_iff, pure_eq_ok_iff, List.forall_mem_cons] <;>
    grind

lemma mem_argumentNames_of_given {r : Request} (hr : ofArguments k args = .ok r) {name : String}
    {v : Value} (hv : args.given? name = some v) : name ∈ argumentNames k := by
  obtain ⟨a, ha, rfl⟩ := Arguments.exists_mem_of_given? hv
  exact (exists_ofArguments_iff.mp ⟨r, hr⟩).known a ha

/-! ### Requests with values that are looked at -/

lemma eq_whereOr_of_ofArguments {r : Request} (h : ofArguments .whereOr args = .ok r) :
    ∃ v, args.given? "mapping" = some v ∧ r = .whereOr v := by
  rw [ofArguments, bind_eq_ok_iff] at h
  obtain ⟨-, -, h⟩ := h
  simpa only [bind_eq_ok_iff, pure_eq_ok_iff, Arguments.required_eq_ok_iff] using h

lemma eq_queryString_of_ofArguments {r : Request} (h : ofArguments .queryString args = .ok r) :
    ∃ v, args.given? "fields" = some v ∧
      r = .queryString v (args.given? "default_operator") (args.given? "keyword")
        (args.given? "escape") := by
  rw [ofArguments, bind_eq_ok_iff] at h
  obtain ⟨-, -, h⟩ := h
  simpa only [bind_eq_ok_iff, pure_eq_ok_iff, Arguments.required_eq_ok_iff] using h

lemma constraint_queryString_eq_ok_iff {v : Value} {defaultOperator keyword escape : Option Value}
    {x : Constraint} :
    (queryString v defaultOperator keyword escape).constraint b = .ok x ↔
      ∃ fields, fieldList v = .ok fields ∧
        x = .queryString fields (defaultOperator.getD .null) (keyword.getD .null)
          (escape.getD (.bool false)) := by
  simp only [constraint, bind_eq_ok_iff, pure_eq_ok_iff]

lemma pairs_eq_error_iff {v : Value} {e : Fault} :
    pairs v = .error e ↔
      v.truthy = true ∧ (∀ entries, v ≠ .dict entries) ∧ e = .noSuchAttribute := by
  unfold pairs
  split
  · simp
  · rename_i hdict
    have hno : ∀ entries, v ≠ .dict entries := fun entries h => hdict entries h
    by_cases hv : v.truthy
    · simp [hv, hno, eq_comm]
    · simp [hv]

lemma fieldList_of_text? {v : Value} {t : String} (h : v.text? = some t) :
    fieldList v = .ok (.tuple [v]) := by
  unfold fieldList
  split
  · cases h
  · simp [h]

lemma fieldList_of_elements? {v : Value} {vs : List Value} (h : v.text? = none)
    (hvs : v.elements? = some vs) : fieldList v = .ok (.tuple vs) := by
  unfold fieldList
  split
  · cases hvs
  · simp [h, hvs]

lemma fieldList_eq_error_iff {v : Value} {e : Fault} :
    fieldList v = .error e ↔ v ≠ .null ∧ v.elements? = none ∧ e = .wrongType := by
  cases v <;> simp [fieldList, Value.text?, Value.elements?, eq_comm]

lemma constraint_whereOr_eq_error_iff {v : Value} {e : Fault} :
    (whereOr v).constraint b = .error e ↔
      v.truthy = true ∧ (∀ entries, v ≠ .dict entries) ∧ e = .noSuchAttribute := by
  rw [← pairs_eq_error_iff, constraint]
  rcases pairs v with e' | v' <;> simp [Except.map]

lemma constraint_queryString_eq_error_iff {v : Value}
    {defaultOperator keyword escape : Option Value} {e : Fault} :
    (queryString v defaultOperator keyword escape).constraint b = .error e ↔
      v ≠ .null ∧ v.elements? = none ∧ e = .wrongType := by
  rw [← fieldList_eq_error_iff, constraint]
  rcases fieldList v with e' | v' <;> simp [bind, Except.bind, pure, Except.pure]

/-- The calls that are understood and fail are those with a value that is not taken. -/
lemma constraint_eq_error_iff {r : Request} {e : Fault} (hr : ofArguments k args = .ok r) :
    r.constraint b = .error e ↔ Refuses k args e := by
  have hkind : r.kind = k := kind_of_ofArguments hr
  cases r with
  | whereOr v =>
    obtain rfl : Kind.whereOr = k := hkind
    obtain ⟨v', hv, hr⟩ := eq_whereOr_of_ofArguments hr
    cases hr
    rw [constraint_whereOr_eq_error_iff]
    constructor
    · rintro ⟨htruthy, hdict, rfl⟩
      exact .mapping hv htruthy hdict
    · rintro (⟨hv', htruthy, hdict⟩ | _)
      cases hv.symm.trans hv'
      exact ⟨htruthy, hdict, rfl⟩
  | queryString v defaultOperator keyword escape =>
    obtain rfl : Kind.queryString = k := hkind
    obtain ⟨v', hv, hr⟩ := eq_queryString_of_ofArguments hr
    cases hr
    rw [constraint_queryString_eq_error_iff]
    constructor
    · rintro ⟨hnull, helements, rfl⟩
      exact .fields hv hnull helements
    · rintro (_ | ⟨hv', hnull, helements⟩)
      cases hv.symm.trans hv'
      exact ⟨hnull, helements, rfl⟩
  -- the other calls look at no value
  | _ =>
    subst hkind
    refine iff_of_false (by simp [constraint]) ?_
    intro h
    cases h

/-! ### What is kept -/

/-- An argument that is kept as it is given is found in the constraint under its name. -/
lemma mem_arguments_of_given {r : Request} {x : Constraint} (hr : ofArguments k args = .ok r)
    (hx : r.constraint b = .ok x) {name : String} {v : Value} (hv : args.given? name = some v)
    (hname : name ∉ ["boost", "mapping", "fields"]) : (name, v) ∈ x.arguments := by
  have hmem := mem_argumentNames_of_given hr hv
  rw [ofArguments, bind_eq_ok_iff] at hr
  obtain ⟨-, -, hr⟩ := hr
  simp only [List.mem_cons, List.not_mem_nil, or_false, not_or] at hname
  cases k <;>
    simp only [bind_eq_ok_iff, pure_eq_ok_iff, Arguments.required_eq_ok_iff, argumentNames,
      Constraint.argumentNames, List.mem_cons, List.not_mem_nil, or_false] at hr hmem <;>
    grind [constraint, constraint_queryString_eq_ok_iff, Constraint.arguments]

/-- A boost is kept, or the default boost in its place. -/
lemma mem_arguments_boost {r : Request} {x : Constraint} (hr : ofArguments k args = .ok r)
    (hx : r.constraint b = .ok x) {v : Value} (hv : args.given? "boost" = some v) :
    ("boost", coerceBoost b (some v)) ∈ x.arguments := by
  have hmem := mem_argumentNames_of_given hr hv
  rw [ofArguments, bind_eq_ok_iff] at hr
  obtain ⟨-, -, hr⟩ := hr
  cases k with
  | equals | notEquals =>
    simp only [bind_eq_ok_iff, pure_eq_ok_iff] at hr
    obtain ⟨f, -, rfl⟩ := hr
    cases hx
    simp [Constraint.arguments, hv]
  | _ => exact absurd hmem (by decide)

/-- A boost is kept as it is, or as the default boost. -/
lemma kept_boost_iff {v : Value} {e : String × Value} :
    Kept b "boost" v e ↔ e = ("boost", coerceBoost b (some v)) := by
  have htruthy : v.truthy = true → coerceBoost b (some v) = v := by
    intro hv
    simp [coerceBoost, hv]
  constructor
  · generalize hname : "boost" = name
    intro h
    cases h with
    | boost hv => rw [htruthy hv]
    | fallback hv => rw [coerceBoost_of_not_truthy b hv]
    | asGiven hother => exact absurd (by simp [← hname]) hother
    | _ => exact absurd hname (by decide)
  · rintro rfl
    cases hv : v.truthy with
    | true =>
      rw [htruthy hv]
      exact .boost hv
    | false =>
      rw [coerceBoost_of_not_truthy b hv]
      exact .fallback hv

lemma pairs_of_not_truthy {v : Value} (hv : v.truthy = false) : pairs v = .ok (.tuple []) := by
  unfold pairs
  split
  · rename_i entries
    obtain rfl : entries = [] := by simpa [Value.truthy] using hv
    rfl
  · simp [hv]

/-- A mapping is kept as its pairs, and what is not taken as a mapping is not kept. -/
lemma kept_mapping_iff {v : Value} {e : String × Value} :
    Kept b "mapping" v e ↔ ∃ terms, pairs v = .ok terms ∧ e = ("terms", terms) := by
  constructor
  · generalize hname : "mapping" = name
    intro h
    cases h with
    | pairs => exact ⟨_, rfl, rfl⟩
    | noPairs hv => exact ⟨_, pairs_of_not_truthy hv, rfl⟩
    | asGiven hother => exact absurd (by simp [← hname]) hother
    | _ => exact absurd hname (by decide)
  · rintro ⟨terms, h, rfl⟩
    unfold pairs at h
    split at h
    · cases h
      exact .pairs
    · split at h
      · cases h
      · rename_i hv
        cases h
        exact .noPairs (by simpa using hv)

/-- The fields of a query string are kept one by one. -/
lemma kept_fields_iff {v : Value} {e : String × Value} :
    Kept b "fields" v e ↔ ∃ fields, fieldList v = .ok fields ∧ e = ("fields", fields) := by
  constructor
  · generalize hname : "fields" = name
    intro h
    cases h with
    | oneField hv =>
      obtain ⟨t, ht⟩ := Option.isSome_iff_exists.mp hv
      exact ⟨_, fieldList_of_text? ht, rfl⟩
    | noFields => exact ⟨_, rfl, rfl⟩
    | fields hv hvs => exact ⟨_, fieldList_of_elements? hv hvs, rfl⟩
    | asGiven hother => exact absurd (by simp [← hname]) hother
    | _ => exact absurd hname (by decide)
  · rintro ⟨fields, h, rfl⟩
    unfold fieldList at h
    split at h
    · cases h
      exact .noFields
    · split at h
      · rename_i hv
        cases h
        exact .oneField (by simp [hv])
      · rename_i hv hvs
        cases h
        exact .fields hv hvs
      · cases h

/-- Only a batch has a mapping. -/
lemma eq_whereOr_of_mem (h : "mapping" ∈ argumentNames k) : k = .whereOr := by
  cases k with
  | whereOr => rfl
  | _ => exact absurd h (by decide)

/-- Only a query string has several fields. -/
lemma eq_queryString_of_mem (h : "fields" ∈ argumentNames k) : k = .queryString := by
  cases k with
  | queryString => rfl
  | _ => exact absurd h (by decide)

/-- Each argument that is given is kept in the constraint. -/
lemma exists_kept {r : Request} {x : Constraint} (hr : ofArguments k args = .ok r)
    (hx : r.constraint b = .ok x) {name : String} {v : Value} (hv : args.given? name = some v) :
    ∃ e ∈ x.arguments, Kept b name v e := by
  by_cases hname : name ∈ ["boost", "mapping", "fields"]
  · have hmem := mem_argumentNames_of_given hr hv
    simp only [List.mem_cons, List.not_mem_nil, or_false] at hname
    rcases hname with rfl | rfl | rfl
    · exact ⟨_, mem_arguments_boost hr hx hv, kept_boost_iff.mpr rfl⟩
    · obtain rfl := eq_whereOr_of_mem hmem
      obtain ⟨v', hv', rfl⟩ := eq_whereOr_of_ofArguments hr
      cases hv.symm.trans hv'
      obtain ⟨terms, hterms, rfl⟩ := map_eq_ok_iff.mp hx
      exact ⟨_, List.mem_singleton_self _, kept_mapping_iff.mpr ⟨terms, hterms, rfl⟩⟩
    · obtain rfl := eq_queryString_of_mem hmem
      obtain ⟨v', hv', rfl⟩ := eq_queryString_of_ofArguments hr
      cases hv.symm.trans hv'
      obtain ⟨fields, hfields, rfl⟩ := constraint_queryString_eq_ok_iff.mp hx
      exact ⟨_, List.mem_cons_self, kept_fields_iff.mpr ⟨fields, hfields, rfl⟩⟩
  · exact ⟨_, mem_arguments_of_given hr hx hv hname, .asGiven hname⟩

end Request

/-! ## Calls of a session -/

namespace Session

/-- Whatever a subject holds, a complete call fails just when it is refused: a mapping that is
neither a dictionary nor counts as nothing, or fields that are neither nothing nor a sequence.  Then
nothing changes.  All other complete calls succeed, whatever their values are.  They add one
constraint of their kind, in which each argument is kept.  It comes behind the others of its kind,
or in their place if it is a batch, and the other kinds stay as they are. -/
theorem intake (s : Session) {k : Kind} {args : Arguments} (h : Request.Complete k args) :
    let store := s.subject.store
    let call := s.step (.request k args)
    (∀ e, Request.Refuses k args e → call = (s, .silent (.error e))) ∧
    ((∀ e, ¬ Request.Refuses k args e) → ∃ x : Constraint, x.kind = k ∧
      (∀ name v, args.given? name = some v →
        ∃ e ∈ x.arguments, Request.Kept store.defaultBoost name v e) ∧
      call.1 = s.withStore (store.add x) ∧ call.2 = .silent (.ok (.text call.1.subject.summary)) ∧
      call.1.subject.store.get k = (if k = .whereOr then [] else store.get k) ++ [x] ∧
      ∀ k', k' ≠ k → call.1.subject.store.get k' = store.get k') := by
  intro store call
  obtain ⟨r, hr⟩ := Request.exists_ofArguments_iff.mpr h
  have hcall : call = s.change ((r.constraint store.defaultBoost).map store.add) := by
    simp only [call, step, hr]
    rfl
  constructor
  · intro e he
    rw [hcall, (Request.constraint_eq_error_iff hr).mpr he]
    rfl
  · intro hno
    rcases hx : r.constraint store.defaultBoost with e | x
    · exact absurd ((Request.constraint_eq_error_iff hr).mp hx) (hno e)
    have hkind : x.kind = k := by
      rw [Request.kind_of_constraint hx, Request.kind_of_ofArguments hr]
    have hadd : call = (s.withStore (store.add x),
        .silent (.ok (.text (s.withStore (store.add x)).subject.summary))) := by
      rw [hcall, hx]
      rfl
    refine ⟨x, hkind, fun name v hv => Request.exists_kept hr hx hv, ?_, ?_, ?_, ?_⟩
    · rw [hadd]
    · rw [hadd]
    · rw [hadd, store_withStore, Store.get_add, if_pos hkind]
      simp [Kind.replaces]
    · intro k' hk'
      rw [hadd, store_withStore, Store.get_add, if_neg fun h => hk' (h.symm.trans hkind)]

/-- `intake` at a builder that holds a batch: a call for a batch without pairs takes the place of
that batch, a boost of zero is kept as the default boost, and a number is refused as the fields of a
query string. -/
theorem intake_batch :
    let b := Builder.new ⟨.int 2, .bool false⟩ .empty .empty
    let s : Session := ⟨.builder { b with store := b.store.add (.whereOr .null) }, none⟩
    let boosted : Arguments := [("field", .str "a"), ("boost", .int 0)]
    (∃ x, (s.step (.request .whereOr [("mapping", .str "")])).1.subject.store.get .whereOr = [x] ∧
      ("terms", .tuple []) ∈ x.arguments) ∧
    (∃ x, (s.step (.request .equals boosted)).1.subject.store.get .equals = [x] ∧
      ("boost", .int 2) ∈ x.arguments) ∧
    s.step (.request .queryString [("fields", .int 5)]) = (s, .silent (.error .wrongType)) := by
  intro b s boosted
  refine ⟨?_, ?_, ?_⟩
  · have hcomplete : Request.Complete .whereOr [("mapping", .str "")] :=
      Request.exists_ofArguments_iff.mp ⟨_, rfl⟩
    have htaken : ∀ e, ¬ Request.Refuses .whereOr [("mapping", .str "")] e := by
      rintro e (⟨hv, htruthy, -⟩ | _)
      cases hv
      exact absurd htruthy (by decide)
    obtain ⟨x, -, hkept, -, -, hget, -⟩ := (intake s hcomplete).2 htaken
    obtain ⟨e, he, hmapping⟩ := hkept "mapping" _ rfl
    obtain ⟨terms, hterms, rfl⟩ := Request.kept_mapping_iff.mp hmapping
    cases hterms
    exact ⟨x, hget, he⟩
  · have hcomplete : Request.Complete .equals boosted :=
      Request.exists_ofArguments_iff.mp ⟨_, rfl⟩
    have htaken : ∀ e, ¬ Request.Refuses .equals boosted e := by
      rintro e ⟨⟩
    obtain ⟨x, -, hkept, -, -, hget, -⟩ := (intake s hcomplete).2 htaken
    obtain ⟨e, he, hboost⟩ := hkept "boost" _ rfl
    obtain rfl := Request.kept_boost_iff.mp hboost
    exact ⟨x, hget, he⟩
  · have hcomplete : Request.Complete .queryString [("fields", .int 5)] :=
      Request.exists_ofArguments_iff.mp ⟨_, rfl⟩
    exact (intake s hcomplete).1 _ (.fields rfl (by simp [Value.int]) rfl)

/-- A complete call can fail: a number is not taken as the fields of a query string, nor a list as
a mapping. -/
theorem intake_refused :
    let s : Session := ⟨.separate (.empty (.num .one)) ⟨.standard, .empty, .bool false⟩, none⟩
    Request.Complete .queryString [("fields", .int 5)] ∧
    s.step (.request .queryString [("fields", .int 5)]) = (s, .silent (.error .wrongType)) ∧
    Request.Complete .whereOr [("mapping", .list [.int 1])] ∧
    s.step (.request .whereOr [("mapping", .list [.int 1])]) =
      (s, .silent (.error .noSuchAttribute)) := by
  intro s
  exact ⟨Request.exists_ofArguments_iff.mp ⟨_, rfl⟩, rfl,
    Request.exists_ofArguments_iff.mp ⟨_, rfl⟩, rfl⟩

end Session
end Criteria
