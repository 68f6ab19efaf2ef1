/-
# Boosts of comparisons

A comparison with a value, and its exclusion, are asked for with a boost or without one.  A
boost that counts as nothing stands for the default boost of the settings.  A boost that is
left out does not: it stands for `Number.one`, whatever the settings say, so that the two are
the same only where this is the default boost.

* `Step.comparison`: the call for a comparison; `Session.step_comparison`: the constraint that
  it adds.
* `Store.add_inj`: a store tells the constraint that was added last from others of its kind.
* `Compiler.exists_term_of_compile`: the clause of a comparison carries its boost.
* `Session.boost_of_comparison`: the statement for all runs, and
  `Session.default_boost_ignored`: settings for which the call without a boost goes its own way.
-/
import Criteria.Proofs.Layout

namespace Criteria

/-! ## Calls for comparisons -/

/-- The comparison with a value, or its exclusion. -/
def Constraint.comparison (negated : Bool) (field value boost : Value) : Constraint :=
  if negated then .notEquals field value boost else .equals field value boost

/-- The call for a comparison or its exclusion; a value or a boost that is left out is
`none`. -/
def Step.comparison (negated : Bool) (field : Value) (value boost : Option Value) : Step :=
  .request (if negated then .notEquals else .equals)
    ([("field", field)] ++ (value.map ("value", ·)).toList ++ (boost.map ("boost", ·)).toList)

lemma Constraint.kind_comparison (negated : Bool) (field value boost : Value) :
    (Constraint.comparison negated field value boost).kind =
      if negated then .notEquals else .equals := by
  cases negated <;> rfl

lemma Constraint.comparison_inj {negated : Bool} {field value b b' : Value}
    (h : Constraint.comparison negated field value b = .comparison negated field value b') :
    b = b' := by
  cases negated
  · exact (Constraint.equals.inj h).2.2
  · exact (Constraint.notEquals.inj h).2.2

lemma Request.coerceBoost_none (defaultBoost : Value) :
    coerceBoost defaultBoost none = .num .one := by simp [coerceBoost]

lemma Request.coerceBoost_of_not_truthy (defaultBoost : Value) {b : Value}
    (hb : b.truthy = false) : coerceBoost defaultBoost (some b) = defaultBoost := by
  simp [coerceBoost, hb]

/-- A call for a comparison is always accepted. -/
lemma Session.step_comparison (s : Session) (negated : Bool) (field : Value)
    (value boost : Option Value) :
    (s.step (.comparison negated field value boost)).1 =
      s.withStore (s.subject.store.add (.comparison negated field (value.getD .null)
        (Request.coerceBoost s.subject.store.defaultBoost boost))) := by
  cases negated <;> cases value <;> cases boost <;> rfl

/-! ## Telling stores apart -/

/-- A store tells the constraint that was added last from others of its kind. -/
lemma Store.add_inj {s : Store} {x y : Constraint} (hkind : x.kind = y.kind)
    (h : s.add x = s.add y) : x = y := by
  have hget : (s.add x).get x.kind = (s.add y).get x.kind := by rw [h]
  rw [get_add, get_add, if_pos rfl, if_pos hkind.symm] at hget
  simpa using hget

lemma Store.mem_constraints_add (s : Store) (x : Constraint) : x ∈ (s.add x).constraints := by
  refine List.mem_flatMap.mpr ⟨x.kind, Kind.mem_all _, ?_⟩
  rw [get_add, if_pos rfl]
  simp

lemma Session.withStore_inj {s : Session} {t u : Store} (h : s.withStore t = s.withStore u) :
    t = u := by
  have hstore := congrArg (·.subject.store) h
  simpa using hstore

/-! ## Clauses of single constraints -/

/-- The list that the clause of a comparison goes to. -/
def Slot.comparison (negated : Bool) : Slot := if negated then .mustNot else .must

/-- The clause of a comparison carries its boost. -/
lemma Compiler.Yields.eq_term {c : Compiler} {negated : Bool} {field value boost : Value}
    {q : Query} (h : c.Yields (.comparison negated field value boost) q) :
    ∃ name, c.fields.Sends field name ∧ q = Leaf.term name value boost := by
  cases negated with
  | false =>
    cases h with
    | equals hname => exact ⟨_, hname, rfl⟩
  | true =>
    cases h with
    | notEquals hname => exact ⟨_, hname, rfl⟩

/-- Where a store with a comparison is compiled, the clause of the comparison carries its
boost. -/
lemma Compiler.exists_term_of_compile {c : Compiler} {s : Store} {negated : Bool}
    {field value boost : Value} {q : Query}
    (h : (c.compile (s.add (.comparison negated field value boost))).result = .ok q) :
    ∃ p name, q = tree p ∧ c.fields.Sends field name ∧
      Leaf.term name value boost ∈ p.inSlot (.comparison negated) := by
  obtain ⟨p, hp, rfl⟩ := collected_of_compile h
  have hmem := s.mem_constraints_add (.comparison negated field value boost)
  have hslot : (Constraint.comparison negated field value boost).kind.slot =
      .comparison negated := by cases negated <;> rfl
  obtain ⟨q, hq, hyields⟩ := hp.exists_clause hmem (by cases negated <;> rfl)
  rw [hslot] at hq
  obtain ⟨name, hname, rfl⟩ := hyields.eq_term
  exact ⟨p, name, rfl, hname, hq⟩

/-! ## All runs -/

namespace Session

open Compiler (tree)

/-- Whatever steps a builder has gone through, a call for a comparison whose boost counts as
nothing leaves the builder with a comparison of the default boost, and one without a boost with a
comparison of boost `Number.one`; these are the same just when that is the default boost.  A
default boost of `1` or `True` is not: it equals `Number.one` as a number, but it is another value,
written in another way.  The clause that is then compiled carries the boost of the comparison. -/
theorem boost_of_comparison (config : Config) (registry : Registry) (fields : FieldMap)
    (steps : List Step) (negated : Bool) (field : Value) (value : Option Value) :
    let s := ((⟨.builder (.new config registry fields), none⟩ : Session).run steps).1
    let after (boost : Option Value) := (s.step (.comparison negated field value boost)).1
    let holding (boost : Value) :=
      s.withStore (s.subject.store.add (.comparison negated field (value.getD .null) boost))
    (∀ b, b.truthy = false → after (some b) = holding config.defaultBoost) ∧
    after none = holding (.num .one) ∧
    (∀ b, b.truthy = false → (after none = after (some b) ↔ config.defaultBoost = .num .one)) ∧
    ∀ boost q, ((holding boost).step .compile).2.result = .ok (.query q) →
      ∃ p name, q = tree p ∧ fields.Sends field name ∧
        Leaf.term name (value.getD .null) boost ∈ p.inSlot (.comparison negated) := by
  intro s after holding
  have hboost : s.subject.store.defaultBoost = config.defaultBoost := defaultBoost_run _ steps
  have hcompiler : s.subject.compiler = ⟨registry, fields, config.strictOperators⟩ :=
    compiler_run _ steps
  have hnothing : ∀ b, b.truthy = false → after (some b) = holding config.defaultBoost := by
    intro b hb
    simp only [after, holding, step_comparison, hboost, Request.coerceBoost_of_not_truthy _ hb]
  have homitted : after none = holding (.num .one) := by
    simp only [after, holding, step_comparison, Request.coerceBoost_none]
  refine ⟨hnothing, homitted, ?_, ?_⟩
  · intro b hb
    rw [homitted, hnothing b hb]
    constructor
    · intro h
      have hadd := Store.add_inj (by simp only [Constraint.kind_comparison]) (withStore_inj h)
      exact (Constraint.comparison_inj hadd).symm
    · intro h
      rw [h]
  · intro boost q hq
    obtain ⟨q', hq', hanswer⟩ := map_eq_ok_iff.mp hq
    cases hanswer
    rw [store_withStore, compiler_withStore, hcompiler] at hq'
    exact Compiler.exists_term_of_compile hq'

/-- With a default boost of two, a comparison that is asked for without a boost is compiled with
a boost of one, and not like one that is asked for with a boost of nothing or of zero. -/
theorem default_boost_ignored :
    let config : Config := ⟨.int 2, .bool false⟩
    let s : Session := ⟨.builder (.new config .standard .empty), none⟩
    let compiled (boost : Option Value) :=
      ((s.step (.comparison false (.str "a") (some (.int 1)) boost)).1.step .compile).2.result
    let query (boost : Value) := tree ⟨[Leaf.term "a" (.int 1) boost], [], []⟩
    (∃ accepted, config.check = .ok accepted) ∧
    compiled none = .ok (.query (query (.num .one))) ∧
    compiled (some .null) = .ok (.query (query (.int 2))) ∧
    compiled (some (.int 0)) = .ok (.query (query (.int 2))) ∧
    compiled none ≠ compiled (some .null) := by
  intro config s compiled query
  have hpositive : (Number.int 2).le (.int 0) = false := by
    have hone := Binary64.unitsOfOne_pos
    simp only [Number.le, Number.value?, Number.Extended.le, decide_eq_false_iff_not]
    omega
  have hcheck : config.check = .ok config := by
    simp [config, Config.check, Value.truthy, Value.int, Number.isZero, hpositive]
  have homitted : compiled none = .ok (.query (query (.num .one))) := by
    simp only [compiled, step_comparison, Request.coerceBoost_none]
    rfl
  have hnull : compiled (some .null) = .ok (.query (query (.int 2))) := rfl
  have hzero : compiled (some (.int 0)) = .ok (.query (query (.int 2))) := rfl
  refine ⟨⟨config, hcheck⟩, homitted, hnull, hzero, ?_⟩
  rw [homitted, hnull]
  intro h
  cases h

end Session

end Criteria
