/-
# What a compiled query means

A document passes a store if it passes each of its constraints: it matches the leaf of a
condition, does not match the leaf of an exclusion, matches one of the alternatives of a
batch, and matches what the registry creates.  The query of the store finds exactly these
documents, whatever it is that leaves match.

* `Query.Matches` reads a query as a search engine does: it takes combinations apart, and
  asks a predicate about the rest.
* `Compiler.Passes` is what a constraint asks for.
* `Compiler.matches_compile`: the documents that a compiled query finds;
  `Compiler.engine_compile_iff` says it of an engine that reads all combinations itself.
-/
import Criteria.Proofs.Leaf

namespace Criteria

/-! ## Matching -/

namespace Query

/-- How a search engine reads a combination: the alternatives only count where nothing else
has to match. -/
def Combined (holds : Query → Prop) (must mustNot filter should : List Query) : Prop :=
  (∀ q ∈ must, holds q) ∧ (∀ q ∈ filter, holds q) ∧ (∀ q ∈ mustNot, ¬ holds q) ∧
    (must = [] → filter = [] → should ≠ [] → ∃ q ∈ should, holds q)

/-- Whether a query matches, read down to some depth.  What lies deeper is up to `M`, and so is
all that is no plain combination. -/
def Matches (M : Query → Prop) : Nat → Query → Prop
  | depth + 1, .bool must mustNot filter should [] =>
    Combined (Matches M depth) must mustNot filter should
  | _, q => M q

variable {M : Query → Prop}

@[simp] lemma matches_leaf (depth : Nat) (type : String) (parameters : Table String Value) :
    Matches M depth (.leaf type parameters) ↔ M (.leaf type parameters) := by
  cases depth <;> rfl

@[simp] lemma matches_zero (q : Query) : Matches M 0 q ↔ M q := Iff.rfl

@[simp] lemma matches_anyOf (depth : Nat) (qs : List Query) :
    Matches M (depth + 1) (.anyOf qs) ↔ (qs ≠ [] → ∃ q ∈ qs, Matches M depth q) := by
  simp [anyOf, Matches, Combined]

@[simp] lemma matches_filters (depth : Nat) (qs : List Query) :
    Matches M (depth + 1) (.filters qs) ↔ ∀ q ∈ qs, Matches M depth q := by
  simp [filters, Matches, Combined]

/-- The depth does not matter if the predicate reads combinations as a search engine does. -/
theorem matches_iff_of_combined
    (hM : ∀ must mustNot filter should,
      M (.bool must mustNot filter should []) ↔ Combined M must mustNot filter should)
    (depth : Nat) (q : Query) : Matches M depth q ↔ M q := by
  induction depth generalizing q with
  | zero => rfl
  | succ depth ih =>
    have hdepth : Matches M depth = M := funext fun q => propext (ih q)
    rcases q with ⟨type, parameters⟩ | ⟨must, mustNot, filter, should, _ | ⟨entry, settings⟩⟩
    · rfl
    · rw [Matches, hdepth, hM]
    · rfl

end Query

/-! ## Names and leaves -/

/-- A field is sent under one name only. -/
lemma FieldMap.Sends.exists_and_iff {m : FieldMap} {field : Value} {name : String}
    (h : m.Sends field name) {P : String → Prop} : (∃ n, m.Sends field n ∧ P n) ↔ P name := by
  constructor
  · rintro ⟨n, ⟨v', s', hv', hs', -, rfl⟩, hP⟩
    obtain ⟨v, s, hv, hs, -, rfl⟩ := h
    cases hv.symm.trans hv'
    cases hs.symm.trans hs'
    exact hP
  · intro hP
    exact ⟨name, h, hP⟩

lemma exists_ok_and_iff {α : Type} {r : Except Fault α} {a : α} (h : r = .ok a)
    {P : α → Prop} : (∃ b, r = .ok b ∧ P b) ↔ P a := by
  subst h
  simp

/-! ## Lists of clauses -/

/-- What a list of clauses asks for, for a clause of which it is known whether it holds. -/
def Slot.Asks : Slot → Prop → Prop
  | .mustNot, p => ¬ p
  | _, p => p

namespace Clauses

/-- Whether the clauses of the lists hold or fail, as their list asks for. -/
def Meets (holds : Query → Prop) (p : Clauses) : Prop :=
  (∀ q ∈ p.must, holds q) ∧ (∀ q ∈ p.filter, holds q) ∧ ∀ q ∈ p.mustNot, ¬ holds q

variable {holds : Query → Prop}

@[simp] lemma meets_none : none.Meets holds := by simp [Meets, none]

lemma meets_append (a b : Clauses) :
    (a.append b).Meets holds ↔ a.Meets holds ∧ b.Meets holds := by
  simp only [Meets, append, List.forall_mem_append]
  tauto

lemma meets_push_none (slot : Slot) (q : Query) :
    (none.push slot q).Meets holds ↔ slot.Asks (holds q) := by
  cases slot <;> simp [Meets, push, none, Slot.Asks]

end Clauses

namespace Compiler

variable {c : Compiler} {M : Query → Prop}

/-- The tree of some clauses matches if the clauses meet what their lists ask for. -/
lemma matches_tree (depth : Nat) (p : Clauses) :
    Query.Matches M (depth + 2) (tree p) ↔ p.Meets (Query.Matches M depth) := by
  rw [tree, Query.matches_filters]
  simp [Clauses.query, Query.Matches, Query.Combined, Clauses.Meets]

/-! ## What a constraint asks for -/

/-- Whether a document passes a constraint, where `M` are the leaves and the queries of the
registry that the document matches. -/
def Passes (c : Compiler) (M : Query → Prop) : Constraint → Prop
  | .equals field value boost =>
    ∃ name, c.fields.Sends field name ∧ M (Leaf.term name value boost)
  | .notEquals field value boost =>
    ∃ name, c.fields.Sends field name ∧ ¬ M (Leaf.term name value boost)
  | .notIn field values => ∃ name, c.fields.Sends field name ∧ ¬ M (Leaf.terms name values)
  | .inRange field lower upper =>
    ∃ name, c.fields.Sends field name ∧ M (Leaf.range name lower upper)
  | .notInRange field lower upper =>
    ∃ name, c.fields.Sends field name ∧ ¬ M (Leaf.range name lower upper)
  | .termsAny field values => ∃ name, c.fields.Sends field name ∧ M (Leaf.terms name values)
  -- without any pairs there is nothing to pass
  | .whereOr terms =>
    ∃ vs, terms.elements? = some vs ∧
      (vs = [] ∨ ∃ v ∈ vs, ∃ field values, pairOf v = .ok (field, values) ∧
        ∃ name, c.fields.Sends field name ∧ M (Leaf.terms name values))
  | .present field => ∃ v, c.fields.find field = .ok v ∧ M (Leaf.presence v)
  | .absent field => ∃ v, c.fields.find field = .ok v ∧ ¬ M (Leaf.presence v)
  | .textMatch field keyword =>
    ∃ name, c.fields.Sends field name ∧ M (Leaf.textMatch name keyword)
  | .textMismatch field keyword =>
    ∃ name, c.fields.Sends field name ∧ ¬ M (Leaf.textMatch name keyword)
  | .geoDistance field location distance unit =>
    ∃ d, distance.toDistance unit = .ok d ∧
      ∃ name, c.fields.Sends field name ∧ M (Leaf.nearby name location.toLocation d)
  | .simpleQueryString field keyword escape =>
    ∃ v, c.fields.find field = .ok v ∧
      M (Leaf.simpleQueryString v (keywordText keyword escape))
  | .queryString fields defaultOperator keyword escape =>
    ∃ vs, c.fields.findAll fields = .ok vs ∧
      M (Leaf.queryString vs (keywordText keyword escape) defaultOperator)
  -- a condition for which no query is created asks for nothing
  | .namedConditionOr field operatorName arguments =>
    ∃ v, c.fields.find field = .ok v ∧
      ∃ r, c.registry.create operatorName v arguments = .ok r ∧ ∀ q ∈ r, M q

/-- One of the pairs has a comparison that matches if one of their comparisons does. -/
lemma exists_pair_iff {vs : List Value} {qs : List Query}
    (h : List.Forall₂ (fun v q => ∃ field values name, pairOf v = .ok (field, values) ∧
      c.fields.Sends field name ∧ q = Leaf.terms name values) vs qs) :
    (∃ v ∈ vs, ∃ field values, pairOf v = .ok (field, values) ∧
      ∃ name, c.fields.Sends field name ∧ M (Leaf.terms name values)) ↔ ∃ q ∈ qs, M q := by
  induction h with
  | nil => simp
  | @cons v q vs qs hq _ ih =>
    obtain ⟨field, values, name, hp, hn, rfl⟩ := hq
    have hpair : (∃ field values, pairOf v = .ok (field, values) ∧
        ∃ name, c.fields.Sends field name ∧ M (Leaf.terms name values)) ↔
        M (Leaf.terms name values) := by
      constructor
      · rintro ⟨field', values', hp', hM⟩
        cases hp.symm.trans hp'
        exact hn.exists_and_iff.mp hM
      · intro hM
        exact ⟨field, values, hp, name, hn, hM⟩
    simp only [List.mem_cons, exists_eq_or_imp, ih, hpair]

/-- A constraint is passed when its clause is as the list of the clause asks for. -/
lemma passes_iff_of_yields {x : Constraint} {q : Query} (h : c.Yields x q) :
    c.Passes M x ↔ x.kind.slot.Asks (Query.Matches M 1 q) := by
  cases h with
  | equals h => exact h.exists_and_iff
  | notEquals h => exact h.exists_and_iff
  | notIn h => exact h.exists_and_iff
  | inRange h => exact h.exists_and_iff
  | notInRange h => exact h.exists_and_iff
  | termsAny h =>
    rw [Passes, h.exists_and_iff]
    simp [Constraint.kind, Kind.slot, Slot.Asks]
  | @whereOr terms vs qs hvs hqs =>
    have hnil : vs = [] ↔ qs = [] := by
      rw [← List.length_eq_zero_iff, hqs.length_eq, List.length_eq_zero_iff]
    simp only [Passes, hvs, Option.some.injEq, exists_eq_left', exists_pair_iff hqs, hnil,
      Constraint.kind, Kind.slot, Slot.Asks, Query.matches_anyOf, Query.matches_zero]
    tauto
  | present h => exact exists_ok_and_iff h
  | absent h => exact exists_ok_and_iff h
  | textMatch h => exact h.exists_and_iff
  | textMismatch h => exact h.exists_and_iff
  | geoDistance hd h => exact (exists_ok_and_iff hd).trans h.exists_and_iff
  | simpleQueryString h => exact exists_ok_and_iff h
  | queryString h => exact exists_ok_and_iff h
  | named h hq =>
    rw [Passes, exists_ok_and_iff h, exists_ok_and_iff hq]
    simp [Constraint.kind, Kind.slot, Slot.Asks]

/-- A condition that is left out is passed by all documents. -/
lemma passes_of_declines {x : Constraint} (h : c.Declines x) : c.Passes M x := by
  cases h with
  | named h hq => exact ⟨_, h, none, hq, by simp⟩

/-- The clauses of some constraints hold or fail as their lists ask for just when all the
constraints are passed. -/
lemma Collected.meets_iff {xs : List Constraint} {p : Clauses} (h : c.Collected xs p) :
    p.Meets (Query.Matches M 1) ↔ ∀ x ∈ xs, c.Passes M x := by
  induction h with
  | nil => simp
  | clause hq _ ih =>
    rw [Clauses.meets_append, Clauses.meets_push_none, List.forall_mem_cons, ih,
      passes_iff_of_yields hq]
  | declined hx _ ih =>
    rw [List.forall_mem_cons, ih]
    simp [passes_of_declines hx]

/-! ## The query of a store -/

/-- A document matches the query of a store, read down to the members of its groups, just when
it passes each constraint of the store.  Nothing is assumed of what the leaves and the queries
of the registry match. -/
theorem matches_compile {Document : Type} (M : Query → Document → Prop) (c : Compiler) (s : Store)
    {q : Query} (h : (c.compile s).result = .ok q) (d : Document) :
    q.Matches (M · d) 3 ↔ ∀ x ∈ s.constraints, c.Passes (M · d) x := by
  obtain ⟨p, hp, rfl⟩ := collected_of_compile h
  rw [matches_tree, hp.meets_iff]

/-- `matches_compile` for documents that match the leaves of one type each, at a store with an
exclusion, a batch without alternatives and a condition that the registry resolves. -/
theorem matches_compile_types :
    let M : Query → String → Prop := fun q d => ∃ parameters, q = .leaf d parameters
    let c : Compiler := ⟨.standard, .empty, .bool false⟩
    let s := (((Store.empty .null).add (.absent (.str "a"))).add (.whereOr (.tuple []))).add
      (.namedConditionOr (.str "b") (.str "term") (.str "x"))
    ∃ q, (c.compile s).result = .ok q ∧
      (q.Matches (M · "term") 3 ∧ ∀ x ∈ s.constraints, c.Passes (M · "term") x) ∧
      ¬ ∀ x ∈ s.constraints, c.Passes (M · "exists") x := by
  intro M c s
  have hs : (c.compile s).result = .ok (tree ⟨[.anyOf [], .anyOf [.leaf "term" [("b", .str "x")]]],
      [Leaf.presence (.str "a")], []⟩) := rfl
  have hterm : (tree ⟨[.anyOf [], .anyOf [.leaf "term" [("b", .str "x")]]],
      [Leaf.presence (.str "a")], []⟩).Matches (M · "term") 3 := by
    rw [matches_tree]
    simp [Clauses.Meets, Leaf.presence, M]
  refine ⟨_, hs, ⟨hterm, (matches_compile M c s hs "term").mp hterm⟩, ?_⟩
  rw [← matches_compile M c s hs, matches_tree]
  simp [Clauses.Meets, Leaf.presence, M]

/-- A search engine that reads combinations as described finds the documents that pass. -/
theorem engine_compile_iff {E : Query → Prop}
    (hE : ∀ must mustNot filter should,
      E (.bool must mustNot filter should []) ↔ Query.Combined E must mustNot filter should)
    {s : Store} {q : Query} (h : (c.compile s).result = .ok q) :
    E q ↔ ∀ x ∈ s.constraints, c.Passes E x := by
  obtain ⟨p, hp, rfl⟩ := collected_of_compile h
  rw [← Query.matches_iff_of_combined hE 3, matches_tree, hp.meets_iff]

end Compiler
end Criteria
