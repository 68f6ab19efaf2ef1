/-
# Compilation is compositional

The query of a store is put together from the queries that its constraints have when each of
them is compiled in a store of its own.  The same holds of what goes wrong: the first
constraint that fails alone makes the compilation fail, with its own fault, and what was
logged until then are the warnings of those before it.

* `Store.only` is the store of a single constraint; `Compiler.warnings_only` and
  `Compiler.result_only` say what becomes of it.
* `Compiler.compile_compositional` is the statement for all stores.
-/
import Criteria.Proofs.Gathering

namespace Criteria

/-- The store with one constraint. -/
def Store.only (defaultBoost : Value) (x : Constraint) : Store :=
  (Store.empty defaultBoost).add x

lemma Store.constraints_only (b : Value) (x : Constraint) : (Store.only b x).constraints = [x] := by
  cases x <;> rfl

namespace Compiler

variable {c : Compiler} {b : Value}

/-! ## A constraint by itself -/

lemma result_only (x : Constraint) :
    (c.compile (.only b x)).result = (c.gathered x).result.map tree := by
  rw [result_compile, Store.constraints_only, collect_singleton]

lemma warnings_only (x : Constraint) :
    (c.compile (.only b x)).warnings = (c.gathered x).log := by
  rw [warnings_compile, Store.constraints_only, collect_singleton]

lemma only_ok_iff {x : Constraint} :
    (∃ q, (c.compile (.only b x)).result = .ok q) ↔ ∃ p, (c.gathered x).result = .ok p := by
  rw [result_only]
  rcases (c.gathered x).result with e | p <;> simp [Except.map]

lemma only_error_iff {x : Constraint} {e : Fault} :
    (c.compile (.only b x)).result = .error e ↔ (c.gathered x).result = .error e := by
  rw [result_only]
  rcases (c.gathered x).result with e' | p <;> simp [Except.map]

/-- A list in which not all constraints compile has a first one that does not. -/
lemma exists_first_error {xs : List Constraint}
    (h : ¬ ∀ x ∈ xs, ∃ p, (c.gathered x).result = .ok p) :
    ∃ before x after e, xs = before ++ x :: after ∧
      (∀ y ∈ before, ∃ p, (c.gathered y).result = .ok p) ∧ (c.gathered x).result = .error e := by
  induction xs with
  | nil => exact absurd (by simp) h
  | cons x xs ih =>
    rcases hx : (c.gathered x).result with e | p
    · exact ⟨[], x, xs, e, rfl, by simp, hx⟩
    -- `x` compiles, so the one that does not is further on
    · have hxs : ¬ ∀ y ∈ xs, ∃ p, (c.gathered y).result = .ok p := by
        intro hall
        exact h fun y hy => (List.mem_cons.mp hy).elim (fun hyx => ⟨p, hyx ▸ hx⟩) (hall y)
      obtain ⟨before, y, after, e, rfl, hok, he⟩ := ih hxs
      refine ⟨x :: before, y, after, e, rfl, ?_, he⟩
      intro z hz
      rcases List.mem_cons.mp hz with rfl | hz
      · exact ⟨p, hx⟩
      · exact hok z hz

/-! ## All constraints together -/

/-- A constraint that gives a warning adds nothing to what is collected. -/
lemma result_collect_of_warning {before after : List Constraint} {x : Constraint}
    (h : (c.gathered x).log ≠ []) :
    (c.collect (before ++ x :: after)).result = (c.collect (before ++ after)).result := by
  rcases hx : c.contribution x with e | ⟨slot, q⟩ | ⟨operatorName, field⟩
  · exact absurd (by rw [c.gathered_error hx]) h
  · exact absurd (by rw [c.gathered_clause hx]) h
  · have hcons : (c.collect (x :: after)).result = (c.collect after).result := by
      rw [collect_cons, c.gathered_skipped hx]
      rcases c.collect after with ⟨log, e | p⟩ <;> simp [Except.map]
    rw [collect_append, collect_append]
    rcases c.collect before with ⟨log, e | p⟩
    · rfl
    · simp [hcons]

/-- Compiling a store is compiling each of its constraints alone.  If all of these succeed,
the three lists of clauses are put together from theirs, in the order of compilation;
otherwise the first that fails decides on the fault, and the warnings before it are all that
is logged.  A constraint that only gives a warning can be left out. -/
theorem compile_compositional (c : Compiler) (b : Value) (s : Store) :
    ((∀ x ∈ s.constraints, ∃ q, (c.compile (.only b x)).result = .ok q) →
      ∃ parts : List Clauses,
        List.Forall₂ (fun x p => (c.compile (.only b x)).result = .ok (tree p))
          s.constraints parts ∧
        (c.compile s).result = .ok (tree ⟨parts.flatMap Clauses.must,
          parts.flatMap Clauses.mustNot, parts.flatMap Clauses.filter⟩)) ∧
    ((¬ ∀ x ∈ s.constraints, ∃ q, (c.compile (.only b x)).result = .ok q) →
      ∃ before x after e, s.constraints = before ++ x :: after ∧
        (∀ y ∈ before, ∃ q, (c.compile (.only b y)).result = .ok q) ∧
        (c.compile (.only b x)).result = .error e ∧
        c.compile s = ⟨before.flatMap fun y => (c.compile (.only b y)).warnings, .error e⟩) ∧
    (∀ (t : Store) before x after, s.constraints = before ++ x :: after →
      t.constraints = before ++ after → (c.compile (.only b x)).warnings ≠ [] →
      (c.compile t).result = (c.compile s).result) := by
  refine ⟨?_, ?_, ?_⟩
  -- all compile alone
  · intro hall
    have hok : ∀ x ∈ s.constraints, ∃ p, (c.gathered x).result = .ok p :=
      fun x hx => only_ok_iff.mp (hall x hx)
    obtain ⟨parts, hparts⟩ := c.exists_parts hok
    refine ⟨parts, hparts.imp fun x p hp => by rw [result_only, hp]; rfl, ?_⟩
    rw [result_compile, c.collect_of_ok hparts]
    rfl
  -- some constraint does not
  · intro hnot
    simp only [only_ok_iff] at hnot
    obtain ⟨before, x, after, e, hs, hok, he⟩ := exists_first_error hnot
    refine ⟨before, x, after, e, hs, fun y hy => only_ok_iff.mpr (hok y hy),
      only_error_iff.mpr he, ?_⟩
    simp only [warnings_only]
    apply c.compile_of_error
    rw [hs, c.collect_of_error hok he]
  -- leaving out what is skipped
  · intro t before x after hs ht hw
    rw [warnings_only] at hw
    rw [result_compile, result_compile, hs, ht, result_collect_of_warning hw]

/-- `compile_compositional` at a store with clauses in all three lists and two conditions that are
skipped, at one where two conditions fail behind these, in different ways, and at the first store
without one of the skipped conditions. -/
theorem compile_compositional_mixed :
    let c : Compiler := ⟨.empty, .empty, .bool false⟩
    let alone (x : Constraint) := c.compile (.only .null x)
    let near (field : Value) : Constraint := .namedConditionOr field (.str "near") .null
    let unnamed : Constraint := .namedConditionOr (.str "g") (.bytes [0x67]) .null
    let holding : List Constraint → Store := List.foldl .add (.empty .null)
    let s := holding [near (.str "d"), .textMatch (.str "c") (.str "x"), .absent (.str "b"),
      .present (.str "a"), near (.str "f"), .absent (.str "e")]
    let t := holding [near (.str "d"), .absent (.str "b"), near (.str "f"), near (.list []),
      .present (.str "a"), near (.str "e"), unnamed]
    let u := holding [.textMatch (.str "c") (.str "x"), .absent (.str "b"), .present (.str "a"),
      near (.str "f"), .absent (.str "e")]
    let presence (field : String) : Query := .leaf "exists" [("field", .str field)]
    (∃ parts : List Clauses,
      List.Forall₂ (fun x p => (alone x).result = .ok (tree p)) s.constraints parts ∧
      (c.compile s).result = .ok (tree ⟨parts.flatMap Clauses.must,
        parts.flatMap Clauses.mustNot, parts.flatMap Clauses.filter⟩)) ∧
    (c.compile s).result = .ok (tree ⟨[presence "a"], [presence "b", presence "e"],
      [.leaf "match" [("c", .str "x")]]⟩) ∧
    (∃ before x after e, t.constraints = before ++ x :: after ∧
      (∀ y ∈ before, ∃ q, (alone y).result = .ok q) ∧ (alone x).result = .error e ∧
      c.compile t = ⟨before.flatMap fun y => (alone y).warnings, .error e⟩) ∧
    (alone (near (.list []))).result = .error .wrongType ∧
    (alone unnamed).result = .error .noSuchAttribute ∧
    c.compile t = ⟨[.skipped (.str "near") (.str "d"), .skipped (.str "near") (.str "f")],
      .error .wrongType⟩ ∧
    (c.compile u).result = (c.compile s).result := by
  intro c alone near unnamed holding s t u presence
  obtain ⟨hparts, -, hdelete⟩ := compile_compositional c .null s
  obtain ⟨-, hfails, -⟩ := compile_compositional c .null t
  have hs : s.constraints = [.present (.str "a"), .absent (.str "b"), .absent (.str "e"),
      .textMatch (.str "c") (.str "x"), near (.str "d"), near (.str "f")] := by cbv
  have ht : t.constraints = [.present (.str "a"), .absent (.str "b"), near (.str "d"),
      near (.str "f"), near (.list []), near (.str "e"), unnamed] := by cbv
  have hcompiles : ∀ x ∈ s.constraints, ∃ q, (alone x).result = .ok q := by
    rw [hs]
    simp only [List.forall_mem_cons]
    exact ⟨⟨_, rfl⟩, ⟨_, rfl⟩, ⟨_, rfl⟩, ⟨_, rfl⟩, ⟨_, rfl⟩, ⟨_, rfl⟩, by simp⟩
  have hunnamed : (alone unnamed).result = .error .noSuchAttribute := rfl
  have hstops : ¬ ∀ x ∈ t.constraints, ∃ q, (alone x).result = .ok q := by
    intro hall
    obtain ⟨q, hq⟩ := hall unnamed (by simp [ht])
    exact absurd (hunnamed.symm.trans hq) (by simp)
  refine ⟨hparts hcompiles, ?_, hfails hstops, rfl, hunnamed, ?_, ?_⟩
  · rw [result_compile, hs]
    rfl
  · apply c.compile_of_error
    rw [ht]
    rfl
  · exact hdelete u [.present (.str "a"), .absent (.str "b"), .absent (.str "e"),
      .textMatch (.str "c") (.str "x")] (near (.str "d")) [near (.str "f")] hs (by cbv) (by decide)

end Compiler
end Criteria
