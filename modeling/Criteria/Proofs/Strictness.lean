/-
# Strict and lenient compilers

A strict compiler refuses a condition whose operator is unknown, and a lenient one skips it
with a warning.  Nothing else sets the two apart: as long as the lenient one has nothing to
warn of they do the same, and the strict one fails at the first condition that the lenient
one skips, before anything is logged.

* `Compiler.gathered_strict`: the two compilers at one constraint.
* `Compiler.collect_strict_of_silent` and `Compiler.collect_strict_of_warning`: the two at a
  list of constraints, without and with a warning.
* `Compiler.compile_strict_lenient`: the two at a store.
-/
import Criteria.Proofs.Gathering

namespace Criteria
namespace Compiler

variable {registry : Registry} {fields : FieldMap} {no yes : Value}

/-! ## One constraint -/

lemma termsOfPairs_strict (vs : List Value) :
    termsOfPairs ⟨registry, fields, yes⟩ vs = termsOfPairs ⟨registry, fields, no⟩ vs := by
  induction vs with
  | nil => rfl
  | cons v vs ih =>
    rw [termsOfPairs, termsOfPairs, ih]
    rfl

lemma alternatives_strict (terms : Value) :
    alternatives ⟨registry, fields, yes⟩ terms = alternatives ⟨registry, fields, no⟩ terms := by
  rw [alternatives, alternatives]
  split
  · exact termsOfPairs_strict _
  · rfl

/-- A constraint without a named operator contributes the same to both. -/
lemma contribution_strict_of_unnamed {x : Constraint} (hx : x.kind ≠ .namedConditionOr) :
    contribution ⟨registry, fields, yes⟩ x = contribution ⟨registry, fields, no⟩ x := by
  cases x with
  | whereOr terms =>
    have h : alternatives ⟨registry, fields, yes⟩ terms = alternatives ⟨registry, fields, no⟩ terms :=
      alternatives_strict terms
    simp only [contribution, h]
  | namedConditionOr field operatorName arguments => exact absurd rfl hx
  | _ => rfl

/-- A condition with a named operator is either taken by both in the same way or refused by
the strict one and skipped by the lenient one. -/
lemma named_strict (hno : no.truthy = false) (hyes : yes.truthy = true)
    (field operatorName arguments : Value) :
    let x : Constraint := .namedConditionOr field operatorName arguments
    (contribution ⟨registry, fields, yes⟩ x = contribution ⟨registry, fields, no⟩ x ∧
      ∃ slot q, contribution ⟨registry, fields, no⟩ x = inSlot slot q) ∨
    (contribution ⟨registry, fields, yes⟩ x = .error (.unsupportedOperator operatorName field) ∧
      contribution ⟨registry, fields, no⟩ x = .ok (.skipped operatorName field)) := by
  have hcreated : created ⟨registry, fields, yes⟩ field operatorName arguments =
      created ⟨registry, fields, no⟩ field operatorName arguments := rfl
  simp only [named_eq, hcreated]
  rcases created ⟨registry, fields, no⟩ field operatorName arguments with e | _ | q
  · exact .inl ⟨rfl, .must, .error e, rfl⟩
  · exact .inr ⟨by simp [hyes], by simp [hno]⟩
  · exact .inl ⟨rfl, .must, .ok (.anyOf [q]), rfl⟩

lemma gathered_strict (hno : no.truthy = false) (hyes : yes.truthy = true) (x : Constraint) :
    (gathered ⟨registry, fields, yes⟩ x = gathered ⟨registry, fields, no⟩ x ∧
      (gathered ⟨registry, fields, no⟩ x).log = []) ∨
    ∃ field name arguments, x = .namedConditionOr field name arguments ∧
      contribution ⟨registry, fields, no⟩ x = .ok (.skipped name field) ∧
      gathered ⟨registry, fields, yes⟩ x = ⟨[], .error (.unsupportedOperator name field)⟩ := by
  by_cases hx : x.kind = .namedConditionOr
  · obtain ⟨field, name, arguments, rfl⟩ := eq_namedConditionOr hx
    rcases named_strict hno hyes field name arguments with ⟨heq, hslot⟩ | ⟨hs, hl⟩
    · exact .inl ⟨gathered_congr heq, gathered_log_of_inSlot _ hslot⟩
    · exact .inr ⟨field, name, arguments, rfl, hl, gathered_error _ hs⟩
  · have heq : contribution ⟨registry, fields, yes⟩ x = contribution ⟨registry, fields, no⟩ x :=
      contribution_strict_of_unnamed hx
    exact .inl ⟨gathered_congr heq, gathered_log_of_inSlot _ (contribution_eq_inSlot _ hx)⟩

/-! ## Several constraints -/

/-- Without a warning of the lenient compiler the two collect the same. -/
lemma collect_strict_of_silent (hno : no.truthy = false) (hyes : yes.truthy = true)
    {xs : List Constraint} (h : (collect ⟨registry, fields, no⟩ xs).log = []) :
    collect ⟨registry, fields, yes⟩ xs = collect ⟨registry, fields, no⟩ xs := by
  induction xs with
  | nil => rfl
  | cons x xs ih =>
    rw [collect_cons] at h
    rw [collect_cons, collect_cons]
    rcases gathered_strict hno hyes x with ⟨heq, hlog⟩ | ⟨field, name, arguments, -, hl, -⟩
    · rw [heq]
      rcases hg : gathered ⟨registry, fields, no⟩ x with ⟨log, e | p⟩
      · rfl
      · rw [hg, Outcome.join_ok] at h
        rw [ih (List.append_eq_nil_iff.mp h).2]
    · rw [gathered_skipped _ hl, Outcome.join_ok] at h
      exact absurd h (by simp)

/-- The first warning of the lenient compiler is the fault of the strict one, which has not
logged anything before. -/
lemma collect_strict_of_warning (hno : no.truthy = false) (hyes : yes.truthy = true)
    {xs : List Constraint} (h : (collect ⟨registry, fields, no⟩ xs).log ≠ []) :
    ∃ before field name arguments after,
      xs = before ++ .namedConditionOr field name arguments :: after ∧
      (∀ y ∈ before, (gathered ⟨registry, fields, no⟩ y).log = []) ∧
      contribution ⟨registry, fields, no⟩ (.namedConditionOr field name arguments) =
        .ok (.skipped name field) ∧
      collect ⟨registry, fields, yes⟩ xs = ⟨[], .error (.unsupportedOperator name field)⟩ := by
  induction xs with
  | nil => exact absurd rfl h
  | cons x xs ih =>
    rw [collect_cons] at h ⊢
    rcases gathered_strict hno hyes x with ⟨heq, hlog⟩ | ⟨field, name, arguments, rfl, hl, hs⟩
    · rcases hg : gathered ⟨registry, fields, no⟩ x with ⟨log, e | p⟩
      · rw [hg] at h hlog
        exact absurd hlog h
      · rw [hg] at h hlog
        simp only at hlog
        subst hlog
        obtain ⟨before, field, name, arguments, after, rfl, hbefore, hskip, hs⟩ := ih h
        refine ⟨x :: before, field, name, arguments, after, rfl, ?_, hskip, ?_⟩
        · intro y hy
          rcases List.mem_cons.mp hy with rfl | hy
          · rw [hg]
          · exact hbefore y hy
        · rw [heq, hg, hs]
          rfl
    · exact ⟨[], field, name, arguments, xs, rfl, by simp, hl, by rw [hs]; rfl⟩

/-! ## A store -/

/-- A strict compiler succeeds exactly where a lenient one does without a warning, with the
same query and the same log.  Where the lenient one warns, the strict one fails at the first
condition that is skipped, and logs nothing.  A fault that comes without a warning is the
fault of both. -/
theorem compile_strict_lenient (registry : Registry) (fields : FieldMap) {no yes : Value}
    (hno : no.truthy = false) (hyes : yes.truthy = true) (s : Store) :
    let lenient := compile ⟨registry, fields, no⟩ s
    let strict := compile ⟨registry, fields, yes⟩ s
    (((∃ q, strict.result = .ok q) ↔ (∃ q, lenient.result = .ok q) ∧ lenient.warnings = []) ∧
      ((∃ q, strict.result = .ok q) → strict = lenient)) ∧
    (lenient.warnings ≠ [] →
      ∃ before field name arguments after,
        s.constraints = before ++ .namedConditionOr field name arguments :: after ∧
        (∀ y ∈ before, ∀ n f, contribution ⟨registry, fields, no⟩ y ≠ .ok (.skipped n f)) ∧
        contribution ⟨registry, fields, no⟩ (.namedConditionOr field name arguments) =
          .ok (.skipped name field) ∧
        strict = ⟨[], .error (.unsupportedOperator name field)⟩ ∧
        (Fault.unsupportedOperator name field).message =
          some ("Unsupported operator: " ++ name.literal ++ " (field=" ++ field.literal ++ ")")) ∧
    (∀ e, lenient.result = .error e → lenient.warnings = [] → strict.result = .error e) := by
  intro lenient strict
  have hwarnings : lenient.warnings = (collect ⟨registry, fields, no⟩ s.constraints).log :=
    warnings_compile _ s
  have hsilent : lenient.warnings = [] → strict = lenient := by
    intro h
    rw [hwarnings] at h
    simp only [strict, lenient, compile_eq, collect_strict_of_silent hno hyes h]
  have hwarned : lenient.warnings ≠ [] → ∃ before field name arguments after,
      s.constraints = before ++ .namedConditionOr field name arguments :: after ∧
      (∀ y ∈ before, (gathered ⟨registry, fields, no⟩ y).log = []) ∧
      contribution ⟨registry, fields, no⟩ (.namedConditionOr field name arguments) =
        .ok (.skipped name field) ∧
      strict = ⟨[], .error (.unsupportedOperator name field)⟩ := by
    intro h
    rw [hwarnings] at h
    obtain ⟨before, field, name, arguments, after, hs, hbefore, hskip, hstrict⟩ :=
      collect_strict_of_warning hno hyes h
    exact ⟨before, field, name, arguments, after, hs, hbefore, hskip, compile_of_error _ hstrict⟩
  have hfails : (∃ q, strict.result = .ok q) → lenient.warnings = [] := by
    rintro ⟨q, hq⟩
    by_contra h
    obtain ⟨_, _, _, _, _, _, _, _, hstrict⟩ := hwarned h
    exact absurd hq (by simp [hstrict])
  refine ⟨⟨⟨?_, ?_⟩, ?_⟩, ?_, ?_⟩
  -- the strict compiler succeeds
  · intro hq
    exact ⟨hsilent (hfails hq) ▸ hq, hfails hq⟩
  · rintro ⟨hq, h⟩
    rw [hsilent h]
    exact hq
  · intro hq
    exact hsilent (hfails hq)
  -- the lenient one warns
  · intro h
    obtain ⟨before, field, name, arguments, after, hs, hbefore, hskip, hstrict⟩ := hwarned h
    refine ⟨before, field, name, arguments, after, hs, ?_, hskip, hstrict, rfl⟩
    intro y hy n f hy'
    exact absurd (hbefore y hy) (by simp [gathered_skipped _ hy'])
  -- both fail
  · intro e he h
    rw [hsilent h, he]

/-- `compile_strict_lenient` at a store with a presence of what cannot be a field before an operator
that nobody knows, at one with a clause and two such operators, and at one without any. -/
theorem compile_strict_lenient_unknown :
    let near : Constraint := .namedConditionOr (.str "b") (.str "near") .null
    let far : Constraint := .namedConditionOr (.str "c") (.str "far") .null
    let s := ((Store.empty .null).add (.absent (.list []))).add near
    let t := (((Store.empty .null).add near).add (.present (.str "a"))).add far
    let u := ((Store.empty .null).add (.present (.str "a"))).add (.absent (.str "b"))
    let lenient : Compiler := ⟨.empty, .empty, .bool false⟩
    let strict : Compiler := ⟨.empty, .empty, .bool true⟩
    (strict.compile s).result = .error .wrongType ∧
    ¬ (∃ q, (strict.compile t).result = .ok q) ∧
    (∃ before field name arguments after,
      t.constraints = before ++ .namedConditionOr field name arguments :: after ∧
      (∀ y ∈ before, ∀ n f, lenient.contribution y ≠ .ok (.skipped n f)) ∧
      lenient.contribution (.namedConditionOr field name arguments) = .ok (.skipped name field) ∧
      strict.compile t = ⟨[], .error (.unsupportedOperator name field)⟩ ∧
      (Fault.unsupportedOperator name field).message =
        some ("Unsupported operator: " ++ name.literal ++ " (field=" ++ field.literal ++ ")")) ∧
    t.constraints = [.present (.str "a"), near, far] ∧
    strict.compile t = ⟨[], .error (.unsupportedOperator (.str "near") (.str "b"))⟩ ∧
    (∃ q, (strict.compile u).result = .ok q) ∧ strict.compile u = lenient.compile u := by
  intro near far s t u lenient strict
  have hno : (Value.bool false).truthy = false := by decide
  have hyes : (Value.bool true).truthy = true := by decide
  obtain ⟨-, -, hfault⟩ := compile_strict_lenient .empty .empty hno hyes s
  obtain ⟨⟨hiff, -⟩, hwarned, -⟩ := compile_strict_lenient .empty .empty hno hyes t
  obtain ⟨⟨hcompiles, hsame⟩, -, -⟩ := compile_strict_lenient .empty .empty hno hyes u
  have hwarns : (lenient.compile t).warnings ≠ [] := by decide
  have hstrict : ∃ q, (strict.compile u).result = .ok q :=
    hcompiles.mpr ⟨⟨_, rfl⟩, by decide⟩
  refine ⟨hfault _ rfl (by decide), ?_, hwarned hwarns, by cbv, ?_, hstrict, hsame hstrict⟩
  · intro h
    exact hwarns (hiff.mp h).2
  · apply strict.compile_of_error
    rfl

end Compiler
end Criteria
