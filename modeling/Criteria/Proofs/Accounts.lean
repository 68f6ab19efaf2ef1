/-
# What a compilation accounts for

Every constraint of a store is accounted for when the store is compiled: it has one clause in
one of the three lists or one warning in the log, and never both.  The log ends with a note
that gives the numbers, which are those of the query that is returned.

* `Compiler.skipNote`: the warning about a constraint whose operator is unknown.
* `Compiler.log_of_collect` and `Compiler.length_of_collect`: the log and the number of clauses
  of a collection that succeeds; `Compiler.log_collect_strict`: a strict compiler has nothing to
  warn of.
* `Compiler.compile_accounted`: the statement for stores.
-/
import Criteria.Proofs.Leaf

namespace Criteria

/-! ## Numbers of clauses -/

/-- The number of clauses in all lists. -/
def Clauses.size (p : Clauses) : Nat := p.must.length + p.mustNot.length + p.filter.length

namespace Clauses

@[simp] lemma size_none : none.size = 0 := rfl

lemma size_push_none (slot : Slot) (q : Query) : (none.push slot q).size = 1 := by
  cases slot <;> rfl

lemma size_append (a b : Clauses) : (a.append b).size = a.size + b.size := by
  simp only [size, append, List.length_append]
  omega

end Clauses

lemma Query.length_toValues (qs : List Query) : (toValues qs).length = qs.length := by
  induction qs with
  | nil => simp [toValues]
  | cons q qs ih => simp [toValues, ih]

/-- The note on a finished compilation in words. -/
lemma Event.message_compiled (total must mustNot filter : Nat) :
    (compiled total must mustNot filter).message = "Compiled " ++ total.repr ++
      " constraints into " ++ (must + mustNot + filter).repr ++ " clauses (must=" ++ must.repr ++
      ", must_not=" ++ mustNot.repr ++ ", filter=" ++ filter.repr ++ ")" := by
  -- not by `rfl`, which would compare the texts character by character
  delta message
  dsimp only

namespace Compiler

variable {c : Compiler}

/-! ## Warnings -/

/-- The warning about a constraint: a condition with a named operator is skipped if the registry
creates no query for it. -/
def skipNote (c : Compiler) : Constraint → Option Event
  | .namedConditionOr field operatorName arguments =>
    match c.created field operatorName arguments with
    | .ok none => some (.skipped operatorName field)
    | _ => none
  | _ => none

lemma skipNote_of_ne {x : Constraint} (h : x.kind ≠ .namedConditionOr) : c.skipNote x = none := by
  cases x with
  | namedConditionOr field operatorName arguments => exact absurd rfl h
  | _ => rfl

lemma skipNote_of_clause {x : Constraint} {slot : Slot} {q : Query}
    (h : c.contribution x = .ok (.clause slot q)) : c.skipNote x = none := by
  cases yields_of_clause h with
  | named hv hq => simp [skipNote, created, hv, hq, bind, Except.bind]
  | _ => rfl

lemma skipNote_of_skipped {x : Constraint} {operatorName field : Value}
    (h : c.contribution x = .ok (.skipped operatorName field)) :
    c.skipNote x = some (.skipped operatorName field) ∧ c.strict.truthy = false := by
  cases x with
  | namedConditionOr field' operatorName' arguments =>
    rcases named_eq_ok_iff.mp h with ⟨v, q, -, -, hr⟩ | ⟨v, hv, hq, hs, hr⟩
    · cases hr
    · cases hr
      exact ⟨by simp [skipNote, created, hv, hq, bind, Except.bind], hs⟩
  | _ => exact absurd h inSlot_ne_skipped

/-! ## Collections -/

/-- A collection that succeeds has logged the warnings about its constraints, in order. -/
lemma log_of_collect {xs : List Constraint} {log : List Event} {p : Clauses}
    (h : c.collect xs = ⟨log, .ok p⟩) : log = xs.filterMap c.skipNote := by
  induction xs generalizing log p with
  | nil =>
    cases h
    rfl
  | cons x xs ih =>
    obtain ⟨log₁, p₁, log₂, p₂, hg, hc, rfl, -⟩ := c.collect_cons_ok h
    rw [ih hc]
    rcases c.gathered_ok_cases hg with ⟨slot, q, hx, rfl, -⟩ | ⟨operatorName, field, hx, rfl, -⟩
    · rw [List.filterMap_cons_none (skipNote_of_clause hx)]
      rfl
    · rw [List.filterMap_cons_some (skipNote_of_skipped hx).1]
      rfl

/-- Each constraint of a collection that succeeds has a clause or a warning. -/
lemma length_of_collect {xs : List Constraint} {log : List Event} {p : Clauses}
    (h : c.collect xs = ⟨log, .ok p⟩) : xs.length = p.size + log.length := by
  induction xs generalizing log p with
  | nil =>
    cases h
    rfl
  | cons x xs ih =>
    obtain ⟨log₁, p₁, log₂, p₂, hg, hc, rfl, rfl⟩ := c.collect_cons_ok h
    have hrest : xs.length = p₂.size + log₂.length := ih hc
    have hone : p₁.size + log₁.length = 1 := by
      rcases c.gathered_ok_cases hg with ⟨slot, q, -, rfl, rfl⟩ | ⟨operatorName, field, -, rfl, rfl⟩
      · simp [Clauses.size_push_none]
      · simp
    rw [List.length_cons, Clauses.size_append, List.length_append]
    omega

/-- A strict compiler warns of nothing. -/
lemma log_collect_strict (hs : c.strict.truthy = true) (xs : List Constraint) :
    (c.collect xs).log = [] := by
  induction xs with
  | nil => rfl
  | cons x xs ih =>
    rw [collect_cons]
    rcases hx : c.contribution x with e | ⟨slot, q⟩ | ⟨operatorName, field⟩
    · rw [c.gathered_error hx]
      rfl
    · rw [c.gathered_clause hx, Outcome.join_ok, ih]
      rfl
    · exact absurd hs (by simp [(skipNote_of_skipped hx).2])

/-! ## Stores -/

/-- Only the conditions with a named operator can give a warning. -/
lemma filterMap_skipNote (s : Store) :
    s.constraints.filterMap c.skipNote = (s.get .namedConditionOr).filterMap c.skipNote := by
  have hnone : ∀ k, k ≠ .namedConditionOr → (s.get k).filterMap c.skipNote = [] := by
    intro k hk
    refine List.filterMap_eq_nil_iff.mpr ?_
    intro x hx
    have hkind : x.kind = k := Store.kind_eq_of_mem_get hx
    exact skipNote_of_ne (hkind ▸ hk)
  rw [Store.constraints, List.filterMap_flatMap]
  simp [Kind.all, hnone]

/-- The query and the log of a compilation account for each constraint of the store: with one
member of the three lists, or with one warning. -/
structure Accounted (c : Compiler) (s : Store) (q : Query) (must mustNot filter : List Value) :
    Prop where
  /-- The lists are those of the inner combination; a list without members is left out. -/
  toValue : q.toValue = .record [("bool", .record [("filter", .list [
    .record [("bool", .record (Query.clauseEntry "must" must ++
      Query.clauseEntry "must_not" mustNot ++ Query.clauseEntry "filter" filter))]])])]
  size : s.size = must.length + mustNot.length + filter.length + (c.compile s).warnings.length
  strict : c.strict.truthy = true → (c.compile s).warnings = []
  /-- One warning for each condition that is skipped, in the order in which they came. -/
  warnings : (c.compile s).warnings = (s.get .namedConditionOr).filterMap c.skipNote
  /-- After the warnings comes one note with the numbers, and nothing else. -/
  log : ∃ last : Event, (c.compile s).log = (c.compile s).warnings ++ [last] ∧
    last.severity = .debug ∧
    last.message = "Compiled " ++ s.size.repr ++ " constraints into " ++
      (must.length + mustNot.length + filter.length).repr ++ " clauses (must=" ++
      must.length.repr ++ ", must_not=" ++ mustNot.length.repr ++ ", filter=" ++
      filter.length.repr ++ ")"

/-- A compilation that succeeds accounts for each constraint of the store, and its log tells the
truth about the query that it gives. -/
theorem compile_accounted (c : Compiler) (s : Store) {q : Query}
    (h : (c.compile s).result = .ok q) :
    ∃ must mustNot filter, Accounted c s q must mustNot filter := by
  have hwarnings : (c.compile s).warnings = (c.collect s.constraints).log := warnings_compile c s
  rcases hcollect : c.collect s.constraints with ⟨log, e | p⟩
  · rw [c.compile_of_error hcollect] at h
    exact absurd h (by simp)
  have hcompile : c.compile s = ⟨log ++ [finished s p], .ok (tree p)⟩ := c.compile_of_ok hcollect
  have hq : tree p = q := by
    rw [hcompile] at h
    exact Except.ok.inj h
  have hlog : (c.compile s).warnings = log := by rw [hwarnings, hcollect]
  have hsize : s.size = p.size + log.length := by
    rw [← s.length_constraints]
    exact length_of_collect hcollect
  refine ⟨Query.toValues p.must, Query.toValues p.mustNot, Query.toValues p.filter, ?_⟩
  constructor
  case toValue =>
    rw [← hq]
    simp [tree, Clauses.query, Query.filters, Query.toValue, Query.toValues, Query.clauseEntry]
  case size =>
    rw [hlog, hsize]
    simp only [Query.length_toValues, Clauses.size]
  case strict =>
    intro hs
    rw [hwarnings]
    exact log_collect_strict hs s.constraints
  case warnings => rw [hlog, log_of_collect hcollect, filterMap_skipNote]
  case log =>
    refine ⟨finished s p, ?_, ?_, ?_⟩
    · rw [hlog, hcompile]
    · simp [finished, Event.severity]
    · simp only [Query.length_toValues]
      exact Event.message_compiled s.size p.must.length p.mustNot.length p.filter.length

/-- `compile_accounted` at a store with an exclusion, a batch without alternatives and a
condition that is skipped. -/
theorem compile_accounted_skipped :
    let c : Compiler := ⟨.empty, .empty, .bool false⟩
    let s := (((Store.empty .null).add (.absent (.str "a"))).add (.whereOr (.tuple []))).add
      (.namedConditionOr (.str "b") (.str "near") .null)
    let q := tree ⟨[.anyOf []], [Leaf.presence (.str "a")], []⟩
    (c.compile s).warnings = [.skipped (.str "near") (.str "b")] ∧
    ∃ must mustNot filter, Accounted c s q must mustNot filter := by
  intro c s q
  exact ⟨rfl, compile_accounted c s rfl⟩

end Compiler
end Criteria
