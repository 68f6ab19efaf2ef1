/-
# The clauses of constraints

Each kind of constraint has a clause of its own form, with the name under which its field is
sent and with the values of the constraint.  This file writes these forms down and shows that
they are what a compiler contributes.

* `FieldMap.Sends`: the name under which a field is sent.
* `Leaf`: the queries that constraints are made of.
* `Compiler.Yields`: the clause of a constraint.
* `Compiler.yields_of_clause`: a contribution is a clause of this form, and it goes to the
  list of its kind; `Compiler.declines_of_skipped` is the case without a clause.
* `Compiler.collected_of_collect`: the clauses of a collection are of these forms.
-/
import Criteria.Proofs.Gathering

namespace Criteria

/-! ## Results that may fail -/

section Except

variable {α β : Type}

lemma bind_eq_ok_iff {r : Except Fault α} {f : α → Except Fault β} {b : β} :
    r >>= f = .ok b ↔ ∃ a, r = .ok a ∧ f a = .ok b := by
  rcases r with e | a <;> simp [bind, Except.bind]

lemma map_eq_ok_iff {r : Except Fault α} {f : α → β} {b : β} :
    r.map f = .ok b ↔ ∃ a, r = .ok a ∧ f a = b := by
  rcases r with e | a <;> simp [Except.map]

lemma pure_eq_ok_iff {a b : α} : (pure a : Except Fault α) = .ok b ↔ b = a := by
  simp [pure, Except.pure, eq_comm]

end Except

/-! ## Names of fields -/

/-- The name under which a field is sent: the new name of the field has to be a text that is
not reserved. -/
def FieldMap.Sends (m : FieldMap) (field : Value) (name : String) : Prop :=
  ∃ v s, m.find field = .ok v ∧ v.text? = some s ∧ s ∉ Query.forbiddenNames ∧
    name = Query.sentName s

/-! ## The forms of leaves -/

namespace Leaf

def term (name : String) (value boost : Value) : Query :=
  .leaf "term" [(name, .record [("value", value), ("boost", boost)])]

def terms (name : String) (values : Value) : Query :=
  .leaf "terms" [(name, Query.sentValue "terms" values)]

def range (name : String) (lower upper : Value) : Query :=
  .leaf "range" [(name, .record [("from", lower), ("to", upper)])]

def textMatch (name : String) (keyword : Value) : Query := .leaf "match" [(name, keyword)]

/-- The field is a value here, and need not be a text. -/
def presence (field : Value) : Query := .leaf "exists" [("field", field)]

/-- A field that has the name of the distance takes its place. -/
def nearby (name : String) (location distance : Value) : Query :=
  .leaf "geo_distance"
    (if name = "distance" then [("distance", location)]
      else [("distance", distance), (name, location)])

def simpleQueryString (field keyword : Value) : Query :=
  .leaf "simple_query_string" [("query", keyword), ("fields", .list [field])]

def queryString (fields : List Value) (keyword defaultOperator : Value) : Query :=
  .leaf "query_string" ([("query", keyword), ("fields", .list fields)] ++
    Compiler.operatorParameter defaultOperator)

end Leaf

/-! ## Queries with a field as parameter -/

namespace Query

lemma parameterName_eq_ok_iff {v : Value} {name : String} :
    parameterName v = .ok name ↔
      ∃ s, v.text? = some s ∧ s ∉ forbiddenNames ∧ name = sentName s := by
  rw [parameterName]
  rcases hv : v.text? with _ | s
  · simp
  · by_cases hs : s ∈ forbiddenNames
    · simp [hs]
    · simp [hs, eq_comm]

/-- The query of a type whose parameters are not made of queries is a leaf. -/
lemma ofParameters_of_plain {type : String} (ht : types.contains type = true)
    (hs : shapes type = []) (parameters : List (Value × Value)) :
    ofParameters (.str type) parameters =
      (leafParameters type parameters).map (.leaf type) := by
  simp only [ofParameters, assemble, typeName, Value.text?_str, ht, if_true]
  rcases h : leafParameters type parameters with e | sent
  · simp [h, bind, Except.bind, Except.map]
  · simp [h, hs, bind, Except.bind, Except.map, pure, Except.pure]

lemma ofField_eq_ok_iff {type : String} (ht : types.contains type = true)
    (hs : shapes type = []) {field v : Value} {q : Query} :
    ofField type field v = .ok q ↔
      ∃ s, field.text? = some s ∧ s ∉ forbiddenNames ∧
        q = .leaf type [(sentName s, sentValue type v)] := by
  rw [ofField, ofParameters_of_plain ht hs]
  constructor
  · intro h
    split at h
    · rcases hn : parameterName field with e | name
      · simp [leafParameters, sentParameters, hn, bind, Except.bind, Except.map] at h
      · obtain ⟨s, hfield, hs, rfl⟩ := parameterName_eq_ok_iff.mp hn
        refine ⟨s, hfield, hs, ?_⟩
        simp only [leafParameters, sentParameters, hn, bind, Except.bind, Except.map, pure,
          Except.pure, Table.ofList, Table.put, List.foldl_cons, List.foldl_nil] at h
        exact (Except.ok.inj h).symm
    · exact absurd h (by simp)
  · rintro ⟨s, hfield, hs, rfl⟩
    have hn : parameterName field = .ok (sentName s) :=
      parameterName_eq_ok_iff.mpr ⟨s, hfield, hs, rfl⟩
    rw [if_pos (Value.isKey_of_text? hfield)]
    simp [leafParameters, sentParameters, hn, bind, Except.bind, Except.map, pure, Except.pure,
      Table.ofList, Table.put]

end Query

namespace Compiler

variable (c : Compiler)

lemma find_ofField_eq_ok_iff {type : String} (ht : Query.types.contains type = true)
    (hs : Query.shapes type = []) {field v : Value} {q : Query} :
    (c.fields.find field >>= fun f => Query.ofField type f v) = .ok q ↔
      ∃ name, c.fields.Sends field name ∧ q = .leaf type [(name, Query.sentValue type v)] := by
  simp only [bind_eq_ok_iff, Query.ofField_eq_ok_iff ht hs, FieldMap.Sends]
  constructor
  · rintro ⟨f, hf, s, h1, h2, rfl⟩
    exact ⟨_, ⟨f, s, hf, h1, h2, rfl⟩, rfl⟩
  · rintro ⟨name, ⟨f, s, hf, h1, h2, rfl⟩, rfl⟩
    exact ⟨f, hf, s, h1, h2, rfl⟩

lemma term_eq_ok_iff {field value boost : Value} {q : Query} :
    c.term field value boost = .ok q ↔
      ∃ name, c.fields.Sends field name ∧ q = Leaf.term name value boost :=
  c.find_ofField_eq_ok_iff (by decide) rfl

lemma terms_eq_ok_iff {field values : Value} {q : Query} :
    c.terms field values = .ok q ↔
      ∃ name, c.fields.Sends field name ∧ q = Leaf.terms name values :=
  c.find_ofField_eq_ok_iff (by decide) rfl

lemma range_eq_ok_iff {field lower upper : Value} {q : Query} :
    c.range field lower upper = .ok q ↔
      ∃ name, c.fields.Sends field name ∧ q = Leaf.range name lower upper :=
  c.find_ofField_eq_ok_iff (by decide) rfl

lemma textMatch_eq_ok_iff {field keyword : Value} {q : Query} :
    c.textMatch field keyword = .ok q ↔
      ∃ name, c.fields.Sends field name ∧ q = Leaf.textMatch name keyword :=
  c.find_ofField_eq_ok_iff (by decide) rfl

lemma presence_eq_ok_iff {field : Value} {q : Query} :
    c.presence field = .ok q ↔ ∃ v, c.fields.find field = .ok v ∧ q = Leaf.presence v := by
  simp only [presence, bind_eq_ok_iff, pure_eq_ok_iff, Leaf.presence]

lemma simpleQueryString_eq_ok_iff {field keyword escape : Value} {q : Query} :
    c.simpleQueryString field keyword escape = .ok q ↔
      ∃ v, c.fields.find field = .ok v ∧
        q = Leaf.simpleQueryString v (keywordText keyword escape) := by
  simp only [simpleQueryString, bind_eq_ok_iff, pure_eq_ok_iff, Leaf.simpleQueryString]

lemma queryString_eq_ok_iff {fields defaultOperator keyword escape : Value} {q : Query} :
    c.queryString fields defaultOperator keyword escape = .ok q ↔
      ∃ vs, c.fields.findAll fields = .ok vs ∧
        q = Leaf.queryString vs (keywordText keyword escape) defaultOperator := by
  simp only [queryString, bind_eq_ok_iff, pure_eq_ok_iff, Leaf.queryString]

/-- The parameters of a distance: the field comes second, or it takes the place of the distance
if it has its name. -/
lemma sentParameters_nearby {field location distance : Value} :
    Query.sentParameters "geo_distance"
        (Table.put Value.same field location [(.str "distance", distance)]) =
      (Query.parameterName field).map fun name =>
        if name = "distance" then [("distance", location)]
        else [("distance", distance), (name, location)] := by
  have hdistance : Query.parameterName (.str "distance") = .ok "distance" := rfl
  have hsame : Value.same (.str "distance") field = decide (field.text? = some "distance") := by
    simp [Value.same]
  rcases hn : Query.parameterName field with e | name
  · have hfield : field.text? ≠ some "distance" := by
      intro h
      have hok := Query.parameterName_eq_ok_iff.mpr ⟨_, h, by decide, rfl⟩
      exact absurd (hn.symm.trans hok) (by simp)
    simp [Table.put, hsame, hfield, Query.sentParameters, hdistance, hn, bind, Except.bind,
      Except.map]
  · obtain ⟨s, hs, -, rfl⟩ := Query.parameterName_eq_ok_iff.mp hn
    by_cases h : s = "distance"
    · subst h
      simp [Table.put, hsame, hs, Query.sentParameters, hdistance, bind, Except.bind, pure,
        Except.pure, Except.map, Query.sentName, Query.sentValue]
    · have hne : Query.sentName s ≠ "distance" := by
        rw [Query.sentName]
        split
        · decide
        · exact h
      simp [Table.put, hsame, hs, h, hne, Query.sentParameters, hdistance, hn, bind,
        Except.bind, pure, Except.pure, Except.map, Query.sentValue]

lemma nearby_eq_ok_iff {field location distance unit : Value} {q : Query} :
    c.nearby field location distance unit = .ok q ↔
      ∃ d name, distance.toDistance unit = .ok d ∧ c.fields.Sends field name ∧
        q = Leaf.nearby name location.toLocation d := by
  have hleaf : ∀ d name, Query.leaf "geo_distance" (Table.ofList (· == ·)
      (if name = "distance" then [("distance", location.toLocation)]
        else [("distance", d), (name, location.toLocation)])) =
      Leaf.nearby name location.toLocation d := by
    intro d name
    rw [Leaf.nearby]
    split
    · rfl
    · rename_i hne
      simp [Table.ofList, Table.put, Ne.symm hne]
  have hplain := @Query.ofParameters_of_plain "geo_distance" (by decide) rfl
  simp only [nearby, bind_eq_ok_iff, hplain, Query.leafParameters, sentParameters_nearby,
    FieldMap.Sends]
  constructor
  · rintro ⟨d, hd, f, hf, h⟩
    split at h
    · simp only [map_eq_ok_iff, Query.parameterName_eq_ok_iff] at h
      obtain ⟨_, ⟨_, ⟨_, ⟨s, hs, hforbidden, rfl⟩, rfl⟩, rfl⟩, rfl⟩ := h
      exact ⟨d, _, hd, ⟨f, s, hf, hs, hforbidden, rfl⟩, hleaf d _⟩
    · exact absurd h (by simp)
  · rintro ⟨d, name, hd, ⟨f, s, hf, hs, hforbidden, rfl⟩, rfl⟩
    refine ⟨d, hd, f, hf, ?_⟩
    rw [if_pos (Value.isKey_of_text? hs)]
    simp only [map_eq_ok_iff, Query.parameterName_eq_ok_iff]
    exact ⟨_, ⟨_, ⟨_, ⟨s, hs, hforbidden, rfl⟩, rfl⟩, rfl⟩, hleaf d _⟩

/-- The alternatives of a batch: a leaf for each pair, in the order of the pairs. -/
lemma termsOfPairs_eq_ok_iff {vs : List Value} {qs : List Query} :
    c.termsOfPairs vs = .ok qs ↔
      List.Forall₂ (fun v q => ∃ field values name, pairOf v = .ok (field, values) ∧
        c.fields.Sends field name ∧ q = Leaf.terms name values) vs qs := by
  induction vs generalizing qs with
  | nil => simp [termsOfPairs, eq_comm]
  | cons v vs ih =>
    simp only [termsOfPairs, bind_eq_ok_iff, pure_eq_ok_iff, terms_eq_ok_iff, ih,
      List.forall₂_cons_left_iff]
    constructor
    · rintro ⟨⟨field, values⟩, hp, q, ⟨name, hn, rfl⟩, qs, hqs, rfl⟩
      exact ⟨_, qs, ⟨field, values, name, hp, hn, rfl⟩, hqs, rfl⟩
    · rintro ⟨q, qs, ⟨field, values, name, hp, hn, rfl⟩, hqs, rfl⟩
      exact ⟨(field, values), hp, _, ⟨name, hn, rfl⟩, qs, hqs, rfl⟩

lemma alternatives_eq_ok_iff {terms : Value} {qs : List Query} :
    c.alternatives terms = .ok qs ↔
      ∃ vs, terms.elements? = some vs ∧
        List.Forall₂ (fun v q => ∃ field values name, pairOf v = .ok (field, values) ∧
          c.fields.Sends field name ∧ q = Leaf.terms name values) vs qs := by
  rw [alternatives]
  rcases terms.elements? with _ | vs
  · simp
  · simp [termsOfPairs_eq_ok_iff]

/-! ## The clause of a constraint -/

/-- The constraint `x` has the clause `q`. -/
inductive Yields (c : Compiler) : Constraint → Query → Prop
  | equals {field value boost : Value} {name : String} (h : c.fields.Sends field name) :
      Yields c (.equals field value boost) (Leaf.term name value boost)
  | notEquals {field value boost : Value} {name : String} (h : c.fields.Sends field name) :
      Yields c (.notEquals field value boost) (Leaf.term name value boost)
  | notIn {field values : Value} {name : String} (h : c.fields.Sends field name) :
      Yields c (.notIn field values) (Leaf.terms name values)
  | inRange {field lower upper : Value} {name : String} (h : c.fields.Sends field name) :
      Yields c (.inRange field lower upper) (Leaf.range name lower upper)
  | notInRange {field lower upper : Value} {name : String} (h : c.fields.Sends field name) :
      Yields c (.notInRange field lower upper) (Leaf.range name lower upper)
  | termsAny {field values : Value} {name : String} (h : c.fields.Sends field name) :
      Yields c (.termsAny field values) (.anyOf [Leaf.terms name values])
  /-- One alternative for each pair, in the order of the pairs. -/
  | whereOr {terms : Value} {vs : List Value} {qs : List Query} (hvs : terms.elements? = some vs)
      (hqs : List.Forall₂ (fun v q => ∃ field values name, pairOf v = .ok (field, values) ∧
        c.fields.Sends field name ∧ q = Leaf.terms name values) vs qs) :
      Yields c (.whereOr terms) (.anyOf qs)
  | present {field v : Value} (h : c.fields.find field = .ok v) :
      Yields c (.present field) (Leaf.presence v)
  | absent {field v : Value} (h : c.fields.find field = .ok v) :
      Yields c (.absent field) (Leaf.presence v)
  | textMatch {field keyword : Value} {name : String} (h : c.fields.Sends field name) :
      Yields c (.textMatch field keyword) (Leaf.textMatch name keyword)
  | textMismatch {field keyword : Value} {name : String} (h : c.fields.Sends field name) :
      Yields c (.textMismatch field keyword) (Leaf.textMatch name keyword)
  | geoDistance {field location distance unit d : Value} {name : String}
      (hd : distance.toDistance unit = .ok d) (h : c.fields.Sends field name) :
      Yields c (.geoDistance field location distance unit)
        (Leaf.nearby name location.toLocation d)
  | simpleQueryString {field keyword escape v : Value} (h : c.fields.find field = .ok v) :
      Yields c (.simpleQueryString field keyword escape)
        (Leaf.simpleQueryString v (keywordText keyword escape))
  | queryString {fields defaultOperator keyword escape : Value} {vs : List Value}
      (h : c.fields.findAll fields = .ok vs) :
      Yields c (.queryString fields defaultOperator keyword escape)
        (Leaf.queryString vs (keywordText keyword escape) defaultOperator)
  /-- The one query that the registry creates. -/
  | named {field operatorName arguments v : Value} {q : Query} (h : c.fields.find field = .ok v)
      (hq : c.registry.create operatorName v arguments = .ok (some q)) :
      Yields c (.namedConditionOr field operatorName arguments) (.anyOf [q])

/-- The constraint is a condition with a named operator for which the registry creates no
query. -/
inductive Declines (c : Compiler) : Constraint → Prop
  | named {field operatorName arguments v : Value} (h : c.fields.find field = .ok v)
      (hq : c.registry.create operatorName v arguments = .ok none) :
      Declines c (.namedConditionOr field operatorName arguments)

end Compiler

/-- The list that the clauses of a kind go to. -/
def Kind.slot : Kind → Slot
  | .equals | .inRange | .termsAny | .whereOr | .present | .namedConditionOr => .must
  | .notEquals | .notIn | .notInRange | .absent | .textMismatch => .mustNot
  | .textMatch | .geoDistance | .simpleQueryString | .queryString => .filter

namespace Compiler

variable {c : Compiler}

lemma inSlot_eq_clause_iff {slot slot' : Slot} {r : Except Fault Query} {q : Query} :
    inSlot slot r = .ok (.clause slot' q) ↔ slot' = slot ∧ r = .ok q := by
  rcases r with e | q' <;> simp [inSlot, Except.map, eq_comm]

lemma inSlot_ne_skipped {slot : Slot} {r : Except Fault Query} {operatorName field : Value} :
    inSlot slot r ≠ .ok (.skipped operatorName field) := by
  rcases r with e | q <;> simp [inSlot, Except.map]

/-- What a condition with a named operator contributes follows what the registry creates. -/
lemma named_eq_ok_iff {field operatorName arguments : Value} {r : Contribution} :
    c.named field operatorName arguments = .ok r ↔
      (∃ v q, c.fields.find field = .ok v ∧
        c.registry.create operatorName v arguments = .ok (some q) ∧
        r = .clause .must (.anyOf [q])) ∨
      (∃ v, c.fields.find field = .ok v ∧
        c.registry.create operatorName v arguments = .ok none ∧ c.strict.truthy = false ∧
        r = .skipped operatorName field) := by
  simp only [named, bind_eq_ok_iff]
  constructor
  · rintro ⟨v, hv, o, ho, h⟩
    rcases o with _ | q
    · by_cases hs : c.strict.truthy
      · simp [hs] at h
      · simp only [hs, Bool.false_eq_true, if_false, pure_eq_ok_iff] at h
        exact .inr ⟨v, hv, ho, by simpa using hs, h⟩
    · exact .inl ⟨v, q, hv, ho, pure_eq_ok_iff.mp h⟩
  · rintro (⟨v, q, hv, hq, rfl⟩ | ⟨v, hv, hq, hs, rfl⟩)
    · exact ⟨v, hv, some q, hq, rfl⟩
    · exact ⟨v, hv, none, hq, by simp [hs, pure_eq_ok_iff]⟩

/-- A clause goes to the list of the kind of its constraint. -/
lemma slot_of_clause {x : Constraint} {slot : Slot} {q : Query}
    (h : c.contribution x = .ok (.clause slot q)) : slot = x.kind.slot := by
  cases x with
  | namedConditionOr field operatorName arguments =>
    rcases named_eq_ok_iff.mp h with ⟨v, q', -, -, hq⟩ | ⟨v, -, -, -, hq⟩
    · cases hq
      rfl
    · cases hq
  | _ => exact (inSlot_eq_clause_iff.mp h).1

/-- A clause that is contributed is the clause of the constraint. -/
theorem yields_of_clause {x : Constraint} {slot : Slot} {q : Query}
    (h : c.contribution x = .ok (.clause slot q)) : c.Yields x q := by
  cases x with
  | equals field value boost =>
    obtain ⟨name, hn, rfl⟩ := c.term_eq_ok_iff.mp (inSlot_eq_clause_iff.mp h).2
    exact .equals hn
  | notEquals field value boost =>
    obtain ⟨name, hn, rfl⟩ := c.term_eq_ok_iff.mp (inSlot_eq_clause_iff.mp h).2
    exact .notEquals hn
  | notIn field values =>
    obtain ⟨name, hn, rfl⟩ := c.terms_eq_ok_iff.mp (inSlot_eq_clause_iff.mp h).2
    exact .notIn hn
  | inRange field lower upper =>
    obtain ⟨name, hn, rfl⟩ := c.range_eq_ok_iff.mp (inSlot_eq_clause_iff.mp h).2
    exact .inRange hn
  | notInRange field lower upper =>
    obtain ⟨name, hn, rfl⟩ := c.range_eq_ok_iff.mp (inSlot_eq_clause_iff.mp h).2
    exact .notInRange hn
  | termsAny field values =>
    obtain ⟨q', hq, rfl⟩ := map_eq_ok_iff.mp (inSlot_eq_clause_iff.mp h).2
    obtain ⟨name, hn, rfl⟩ := c.terms_eq_ok_iff.mp hq
    exact .termsAny hn
  | whereOr terms =>
    obtain ⟨qs, hqs, rfl⟩ := map_eq_ok_iff.mp (inSlot_eq_clause_iff.mp h).2
    obtain ⟨vs, hvs, hqs⟩ := c.alternatives_eq_ok_iff.mp hqs
    exact .whereOr hvs hqs
  | present field =>
    obtain ⟨v, hv, rfl⟩ := c.presence_eq_ok_iff.mp (inSlot_eq_clause_iff.mp h).2
    exact .present hv
  | absent field =>
    obtain ⟨v, hv, rfl⟩ := c.presence_eq_ok_iff.mp (inSlot_eq_clause_iff.mp h).2
    exact .absent hv
  | textMatch field keyword =>
    obtain ⟨name, hn, rfl⟩ := c.textMatch_eq_ok_iff.mp (inSlot_eq_clause_iff.mp h).2
    exact .textMatch hn
  | textMismatch field keyword =>
    obtain ⟨name, hn, rfl⟩ := c.textMatch_eq_ok_iff.mp (inSlot_eq_clause_iff.mp h).2
    exact .textMismatch hn
  | geoDistance field location distance unit =>
    obtain ⟨d, name, hd, hn, rfl⟩ := c.nearby_eq_ok_iff.mp (inSlot_eq_clause_iff.mp h).2
    exact .geoDistance hd hn
  | simpleQueryString field keyword escape =>
    obtain ⟨v, hv, rfl⟩ := c.simpleQueryString_eq_ok_iff.mp (inSlot_eq_clause_iff.mp h).2
    exact .simpleQueryString hv
  | queryString fields defaultOperator keyword escape =>
    obtain ⟨vs, hvs, rfl⟩ := c.queryString_eq_ok_iff.mp (inSlot_eq_clause_iff.mp h).2
    exact .queryString hvs
  | namedConditionOr field operatorName arguments =>
    rcases named_eq_ok_iff.mp h with ⟨v, q', hv, hq, hr⟩ | ⟨v, -, -, -, hr⟩
    · cases hr
      exact .named hv hq
    · cases hr

/-- Only a condition with a named operator is ever skipped. -/
theorem declines_of_skipped {x : Constraint} {operatorName field : Value}
    (h : c.contribution x = .ok (.skipped operatorName field)) : c.Declines x := by
  cases x with
  | namedConditionOr field operatorName arguments =>
    rcases named_eq_ok_iff.mp h with ⟨v, q, -, -, h⟩ | ⟨v, hv, hq, -, h⟩
    · cases h
    · exact .named hv hq
  | _ => exact absurd h inSlot_ne_skipped

/-- A condition is skipped under its own field. -/
lemma eq_of_skipped {x : Constraint} {operatorName field : Value}
    (h : c.contribution x = .ok (.skipped operatorName field)) :
    ∃ arguments, x = .namedConditionOr field operatorName arguments := by
  cases x with
  | namedConditionOr field' operatorName' arguments =>
    rcases named_eq_ok_iff.mp h with ⟨v, q, -, -, hr⟩ | ⟨v, -, -, -, hr⟩
    · cases hr
    · cases hr
      exact ⟨arguments, rfl⟩
  | _ => exact absurd h inSlot_ne_skipped

/-! ## The clauses of a collection -/

/-- The constraints `xs` have the clauses `p`, each in the list of its kind. -/
inductive Collected (c : Compiler) : List Constraint → Clauses → Prop
  | nil : Collected c [] .none
  | clause {x : Constraint} {q : Query} {xs : List Constraint} {p : Clauses} (hq : c.Yields x q)
      (h : Collected c xs p) : Collected c (x :: xs) ((Clauses.none.push x.kind.slot q).append p)
  | declined {x : Constraint} {xs : List Constraint} {p : Clauses} (hx : c.Declines x)
      (h : Collected c xs p) : Collected c (x :: xs) p

/-- A collection that does not fail has the clauses of its constraints. -/
theorem collected_of_collect {xs : List Constraint} {log : List Event} {p : Clauses}
    (h : c.collect xs = ⟨log, .ok p⟩) : c.Collected xs p := by
  induction xs generalizing log p with
  | nil =>
    cases h
    exact .nil
  | cons x xs ih =>
    obtain ⟨log₁, p₁, log₂, p₂, hg, hc, rfl, rfl⟩ := c.collect_cons_ok h
    rcases c.gathered_ok_cases hg with ⟨slot, q, hx, -, rfl⟩ | ⟨operatorName, field, hx, -, rfl⟩
    · rw [slot_of_clause hx]
      exact .clause (yields_of_clause hx) (ih hc)
    · rw [Clauses.none_append]
      exact .declined (declines_of_skipped hx) (ih hc)

/-- A query that was compiled is the tree of the clauses of the stored constraints. -/
theorem collected_of_compile {s : Store} {q : Query} (h : (c.compile s).result = .ok q) :
    ∃ p, c.Collected s.constraints p ∧ q = tree p := by
  rw [result_compile] at h
  obtain ⟨p, hp, rfl⟩ := map_eq_ok_iff.mp h
  rcases hc : c.collect s.constraints with ⟨log, r⟩
  rw [hc] at hp
  exact ⟨p, collected_of_collect (hc.trans (congrArg _ hp)), rfl⟩

end Compiler
end Criteria
