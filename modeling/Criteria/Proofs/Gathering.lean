/-
# Gathering the contributions of a store

A compiler goes through a store kind by kind and puts every clause behind those that are
there already.  What comes of this does not depend on the kinds, nor on what is there: each
constraint has an outcome of its own, and compilation joins these outcomes in the order of
compilation, up to the first fault.

* `Compiler.gathered` is the outcome of a single constraint, and `Compiler.collect` joins
  those of several.
* `Compiler.clauses_eq`: the clauses of a store are collected from its constraints.
* `Compiler.collect_of_ok` and `Compiler.collect_of_error` are the two ways in which a
  collection ends; `Compiler.compile_eq` carries this over to the query of a store.
-/
import Mathlib.Data.List.Forall2
import Mathlib.Tactic.Common
import Criteria.Compiler

namespace Criteria

/-! ## Clauses -/

namespace Clauses

/-- The clauses of `b` behind those of `a`. -/
def append (a b : Clauses) : Clauses :=
  ⟨a.must ++ b.must, a.mustNot ++ b.mustNot, a.filter ++ b.filter⟩

/-- The clauses of a list of clauses, in order. -/
def join (parts : List Clauses) : Clauses :=
  ⟨parts.flatMap must, parts.flatMap mustNot, parts.flatMap filter⟩

@[simp] lemma append_none (a : Clauses) : a.append none = a := by simp [append, none]

@[simp] lemma none_append (a : Clauses) : none.append a = a := by simp [append, none]

lemma append_assoc (a b c : Clauses) : (a.append b).append c = a.append (b.append c) := by
  simp [append]

lemma push_eq_append (a : Clauses) (slot : Slot) (q : Query) :
    a.push slot q = a.append (none.push slot q) := by
  cases slot <;> simp [push, append, none]

@[simp] lemma join_nil : join [] = none := rfl

@[simp] lemma join_cons (p : Clauses) (ps : List Clauses) :
    join (p :: ps) = p.append (join ps) := by simp [join, append]

end Clauses

/-! ## Outcomes -/

namespace Outcome

variable {α β : Type}

/-- The warnings in the log of an outcome. -/
def warnings (o : Outcome α) : List Event := o.log.filter (·.severity = .warning)

/-- Join two outcomes; the second counts if the first did not fail. -/
def join (a b : Outcome Clauses) : Outcome Clauses := a.andThen fun p => b.map p.append

@[simp] lemma join_ok (log : List Event) (p : Clauses) (b : Outcome Clauses) :
    join ⟨log, .ok p⟩ b = ⟨log ++ b.log, b.result.map p.append⟩ := rfl

@[simp] lemma join_error (log : List Event) (e : Fault) (b : Outcome Clauses) :
    join ⟨log, .error e⟩ b = ⟨log, .error e⟩ := rfl

lemma result_join (a b : Outcome Clauses) :
    (a.join b).result = a.result >>= fun p => b.result.map p.append := by
  rcases a with ⟨log, e | p⟩ <;> rfl

@[simp] lemma map_none_append (a : Outcome Clauses) : a.map Clauses.none.append = a := by
  rcases a with ⟨log, e | p⟩ <;> simp [map, Except.map]

lemma none_join (a : Outcome Clauses) : join ⟨[], .ok .none⟩ a = a := a.map_none_append

@[simp] lemma join_none (a : Outcome Clauses) : join a ⟨[], .ok .none⟩ = a := by
  rcases a with ⟨log, e | p⟩ <;> simp [Except.map]

/-- Clauses that come before two outcomes come before the first. -/
lemma map_append_join (before : Clauses) (a b : Outcome Clauses) :
    (a.join b).map before.append = (a.map before.append).andThen fun p => b.map p.append := by
  rcases a with ⟨log, e | p⟩
  · rfl
  · rcases b with ⟨log', e | p'⟩ <;> simp [map, andThen, Except.map, Clauses.append_assoc]

lemma join_assoc (a b d : Outcome Clauses) : (a.join b).join d = a.join (b.join d) := by
  rcases a with ⟨log, e | p⟩
  · rfl
  rcases b with ⟨log', e | p'⟩
  · rfl
  rcases d with ⟨log'', e | p''⟩ <;> simp [Except.map, Clauses.append_assoc]

end Outcome

namespace Compiler

variable (c : Compiler)

/-! ## Collecting -/

/-- The outcome of a constraint taken by itself: its clause, or the note that it was
skipped. -/
def gathered (x : Constraint) : Outcome Clauses :=
  match c.contribution x with
  | .error e => .silent (.error e)
  | .ok (.clause slot q) => .silent (.ok (Clauses.none.push slot q))
  | .ok (.skipped operatorName field) => ⟨[.skipped operatorName field], .ok .none⟩

lemma gathered_error {x : Constraint} {e : Fault} (h : c.contribution x = .error e) :
    c.gathered x = ⟨[], .error e⟩ := by
  rw [gathered, h]
  rfl

lemma gathered_clause {x : Constraint} {slot : Slot} {q : Query}
    (h : c.contribution x = .ok (.clause slot q)) :
    c.gathered x = ⟨[], .ok (Clauses.none.push slot q)⟩ := by
  rw [gathered, h]
  rfl

lemma gathered_skipped {x : Constraint} {operatorName field : Value}
    (h : c.contribution x = .ok (.skipped operatorName field)) :
    c.gathered x = ⟨[.skipped operatorName field], .ok .none⟩ := by
  rw [gathered, h]

lemma gathered_congr {c c' : Compiler} {x x' : Constraint}
    (h : c'.contribution x' = c.contribution x) : c'.gathered x' = c.gathered x := by
  rw [gathered, gathered, h]

/-- The outcomes of some constraints, joined in order. -/
def collect (c : Compiler) : List Constraint → Outcome Clauses
  | [] => ⟨[], .ok .none⟩
  | x :: xs => (c.gathered x).join (c.collect xs)

@[simp] lemma collect_nil : c.collect [] = ⟨[], .ok .none⟩ := rfl

lemma collect_cons (x : Constraint) (xs : List Constraint) :
    c.collect (x :: xs) = (c.gathered x).join (c.collect xs) := rfl

@[simp] lemma collect_singleton (x : Constraint) : c.collect [x] = c.gathered x := by
  simp [collect_cons]

lemma collect_append (xs ys : List Constraint) :
    c.collect (xs ++ ys) = (c.collect xs).join (c.collect ys) := by
  induction xs with
  | nil => exact (Outcome.none_join _).symm
  | cons x xs ih => rw [List.cons_append, collect_cons, collect_cons, ih, Outcome.join_assoc]

/-! ## Going through a store is collecting -/

lemma each_eq (before : Clauses) (xs : List Constraint) :
    c.each before xs = (c.collect xs).map before.append := by
  induction xs generalizing before with
  | nil => simp [each, Outcome.silent, Outcome.map, Except.map]
  | cons x xs ih =>
    rw [collect_cons, Outcome.map_append_join, each, gathered]
    rcases c.contribution x with e | ⟨slot, q⟩ | ⟨operatorName, field⟩
    · rfl
    · simp [ih, Outcome.silent, Outcome.map, Outcome.andThen, Except.map,
        ← Clauses.push_eq_append]
    · simp [ih, Outcome.after, Outcome.map, Outcome.andThen, Except.map]

/-- A batch that is alone has the shared clause for itself. -/
lemma shared_singleton (before : Clauses) (terms : Value) :
    c.shared before [.whereOr terms] = (c.gathered (.whereOr terms)).map before.append := by
  simp only [shared, gathered, contribution, inSlot, alternativesOf, List.mapM_cons,
    List.mapM_nil]
  rcases c.alternatives terms with e | qs
  · rfl
  · simp [Outcome.silent, Outcome.map, Except.map, bind, Except.bind, pure, Except.pure,
      ← Clauses.push_eq_append]

/-- The constraints of a kind, as a store holds them, are collected like any others. -/
lemma ofKind_eq (before : Clauses) {k : Kind} {xs : List Constraint} (hne : xs ≠ [])
    (hkind : ∀ x ∈ xs, x.kind = k) (hlen : k.replaces → xs.length ≤ 1) :
    c.ofKind before k xs = (c.collect xs).map before.append := by
  by_cases hk : k = .whereOr
  -- the shared clause has one batch only, since later batches replace earlier ones
  · subst hk
    obtain ⟨x, rfl⟩ : ∃ x, xs = [x] :=
      List.length_eq_one_iff.mp (Nat.le_antisymm (hlen rfl) (List.length_pos_iff.mpr hne))
    have hx : x.kind = .whereOr := hkind x (by simp)
    obtain ⟨terms, rfl⟩ : ∃ terms, x = .whereOr terms := by
      cases x <;> simp [Constraint.kind] at hx ⊢
    rw [collect_singleton]
    exact c.shared_singleton before terms
  · rw [← each_eq]
    cases k <;> first | exact absurd rfl hk | rfl

/-- Kind by kind: the induction is on the kinds that are still to come, of which those without
constraints are left out. -/
lemma ofItems_eq (s : Store) (ks : List Kind) (before : Clauses) :
    c.ofItems before ((ks.map fun k => (k, s.get k)).filter (!·.2.isEmpty)) =
      (c.collect (ks.flatMap s.get)).map before.append := by
  induction ks generalizing before with
  | nil => simp [ofItems, Outcome.silent, Outcome.map, Except.map]
  | cons k ks ih =>
    rw [List.map_cons, List.flatMap_cons, collect_append]
    by_cases hne : s.get k = []
    -- no constraints of the kind: neither side does anything
    · rw [List.filter_cons_of_neg (by simp [hne]), ih, hne, collect_nil, Outcome.none_join]
    · have hk : c.ofKind before k (s.get k) = (c.collect (s.get k)).map before.append :=
        c.ofKind_eq before hne (fun x hx => Store.kind_eq_of_mem_get hx)
          (fun hr => s.proper.length_le k hr)
      rw [List.filter_cons_of_pos (by simp [hne]), ofItems, hk, Outcome.map_append_join]
      simp only [ih]

/-- The clauses of a store are those that its constraints contribute, in the order of
compilation. -/
theorem clauses_eq (s : Store) :
    c.clauses s =
      (c.collect s.constraints).andThen fun clauses => ⟨[finished s clauses], .ok clauses⟩ := by
  have h := c.ofItems_eq s Kind.all .none
  rw [Outcome.map_none_append] at h
  rw [clauses, Store.items, h, Store.constraints]

/-! ## How a collection ends -/

/-- A constraint that fails has nothing in its log. -/
lemma gathered_eq_of_error {x : Constraint} {e : Fault} (h : (c.gathered x).result = .error e) :
    c.gathered x = ⟨[], .error e⟩ := by
  rcases hx : c.contribution x with e' | ⟨slot, q⟩ | ⟨operatorName, field⟩
  · rw [c.gathered_error hx] at h ⊢
    rw [Except.error.inj h]
  · exact absurd h (by simp [c.gathered_clause hx])
  · exact absurd h (by simp [c.gathered_skipped hx])

/-- A constraint that does not fail gives a clause or a warning. -/
lemma gathered_ok_cases {x : Constraint} {log : List Event} {p : Clauses}
    (h : c.gathered x = ⟨log, .ok p⟩) :
    (∃ slot q, c.contribution x = .ok (.clause slot q) ∧ log = [] ∧ p = Clauses.none.push slot q) ∨
    (∃ operatorName field, c.contribution x = .ok (.skipped operatorName field) ∧
      log = [.skipped operatorName field] ∧ p = .none) := by
  rcases hx : c.contribution x with e | ⟨slot, q⟩ | ⟨operatorName, field⟩
  · exact absurd (congrArg Outcome.result h) (by simp [c.gathered_error hx])
  · rw [c.gathered_clause hx] at h
    cases h
    exact .inl ⟨slot, q, rfl, rfl, rfl⟩
  · rw [c.gathered_skipped hx] at h
    cases h
    exact .inr ⟨operatorName, field, rfl, rfl, rfl⟩

/-- A collection that does not fail has an outcome of its first constraint and one of the
others that do not fail either. -/
lemma collect_cons_ok {x : Constraint} {xs : List Constraint} {log : List Event} {p : Clauses}
    (h : c.collect (x :: xs) = ⟨log, .ok p⟩) :
    ∃ log₁ p₁ log₂ p₂, c.gathered x = ⟨log₁, .ok p₁⟩ ∧ c.collect xs = ⟨log₂, .ok p₂⟩ ∧
      log = log₁ ++ log₂ ∧ p = p₁.append p₂ := by
  rw [collect_cons] at h
  rcases hg : c.gathered x with ⟨log₁, e | p₁⟩
  · rw [hg] at h
    exact absurd (congrArg Outcome.result h) (by simp)
  rcases hc : c.collect xs with ⟨log₂, e | p₂⟩
  · rw [hg, hc] at h
    exact absurd (congrArg Outcome.result h) (by simp [Except.map])
  · rw [hg, hc] at h
    cases h
    exact ⟨log₁, p₁, log₂, p₂, rfl, rfl, rfl, rfl⟩

/-- A collection fails just when one of its constraints fails by itself. -/
lemma result_collect_ok_iff {xs : List Constraint} :
    (∃ p, (c.collect xs).result = .ok p) ↔ ∀ x ∈ xs, ∃ p, (c.gathered x).result = .ok p := by
  induction xs with
  | nil => simp
  | cons x xs ih =>
    rw [collect_cons, Outcome.result_join, List.forall_mem_cons, ← ih]
    rcases (c.gathered x).result with e | p
    · simp [bind, Except.bind]
    · rcases (c.collect xs).result with e | p' <;> simp [bind, Except.bind, Except.map]

/-- If no constraint fails by itself, the collection has the clauses and the notes of all. -/
lemma collect_of_ok {xs : List Constraint} {parts : List Clauses}
    (h : List.Forall₂ (fun x p => (c.gathered x).result = .ok p) xs parts) :
    c.collect xs = ⟨xs.flatMap fun x => (c.gathered x).log, .ok (.join parts)⟩ := by
  induction h with
  | nil => rfl
  | @cons x p xs parts hx _ ih =>
    rw [collect_cons, ih]
    rcases hg : c.gathered x with ⟨log, r⟩
    rw [hg] at hx
    simp only at hx
    simp [hx, hg, Except.map]

/-- Constraints that do not fail by themselves have parts to be put together. -/
lemma exists_parts {xs : List Constraint}
    (h : ∀ x ∈ xs, ∃ p, (c.gathered x).result = .ok p) :
    ∃ parts, List.Forall₂ (fun x p => (c.gathered x).result = .ok p) xs parts := by
  induction xs with
  | nil => exact ⟨[], .nil⟩
  | cons x xs ih =>
    obtain ⟨p, hp⟩ := h x (by simp)
    obtain ⟨parts, hparts⟩ := ih fun y hy => h y (by simp [hy])
    exact ⟨p :: parts, .cons hp hparts⟩

/-- The first constraint that fails by itself ends the collection, with the notes of those
before it. -/
lemma collect_of_error {before after : List Constraint} {x : Constraint} {e : Fault}
    (hok : ∀ y ∈ before, ∃ p, (c.gathered y).result = .ok p)
    (he : (c.gathered x).result = .error e) :
    c.collect (before ++ x :: after) =
      ⟨before.flatMap fun y => (c.gathered y).log, .error e⟩ := by
  obtain ⟨parts, hparts⟩ := c.exists_parts hok
  rw [collect_append, c.collect_of_ok hparts, collect_cons, c.gathered_eq_of_error he]
  simp [Except.map]

/-! ## The query of a store -/

lemma compile_eq (s : Store) :
    c.compile s =
      (c.collect s.constraints).andThen fun p => ⟨[finished s p], .ok (tree p)⟩ := by
  rw [compile, clauses_eq]
  rcases c.collect s.constraints with ⟨log, e | p⟩ <;> rfl

lemma compile_of_ok {s : Store} {log : List Event} {p : Clauses}
    (h : c.collect s.constraints = ⟨log, .ok p⟩) :
    c.compile s = ⟨log ++ [finished s p], .ok (tree p)⟩ := by
  rw [compile_eq, h]
  rfl

lemma compile_of_error {s : Store} {log : List Event} {e : Fault}
    (h : c.collect s.constraints = ⟨log, .error e⟩) : c.compile s = ⟨log, .error e⟩ := by
  rw [compile_eq, h]
  rfl

lemma result_compile (s : Store) :
    (c.compile s).result = (c.collect s.constraints).result.map tree := by
  rcases h : c.collect s.constraints with ⟨log, e | p⟩
  · rw [c.compile_of_error h]; rfl
  · rw [c.compile_of_ok h]; rfl

/-! ### Named operators -/

/-- The query that the registry creates for a condition with a named operator, or none if it does
not know the operator. -/
def created (field operatorName arguments : Value) : Except Fault (Option Query) :=
  c.fields.find field >>= fun v => c.registry.create operatorName v arguments

/-- The clause of a condition with a named operator is what is created.  Whether the compiler is
strict matters only where nothing is created. -/
lemma named_eq (field operatorName arguments : Value) :
    c.contribution (.namedConditionOr field operatorName arguments) =
      match c.created field operatorName arguments with
      | .error e => .error e
      | .ok (some q) => .ok (.clause .must (.anyOf [q]))
      | .ok none =>
        if c.strict.truthy then .error (.unsupportedOperator operatorName field)
        else .ok (.skipped operatorName field) := by
  rw [contribution, named, created]
  rcases c.fields.find field with e | v
  · rfl
  simp only [bind, Except.bind]
  rcases c.registry.create operatorName v arguments with e | _ | q <;> rfl

/-! ### Warnings -/

/-- What is in a slot, or fails, gives no warning. -/
lemma gathered_log_of_inSlot {x : Constraint} (h : ∃ slot q, c.contribution x = inSlot slot q) :
    (c.gathered x).log = [] := by
  rcases h with ⟨slot, e | q, h⟩
  · rw [c.gathered_error h]
  · rw [c.gathered_clause h]

lemma eq_namedConditionOr {x : Constraint} (hx : x.kind = .namedConditionOr) :
    ∃ field operatorName arguments, x = .namedConditionOr field operatorName arguments := by
  cases x <;> simp [Constraint.kind] at hx ⊢

/-- Only a condition with a named operator can be skipped. -/
lemma contribution_eq_inSlot {x : Constraint} (hx : x.kind ≠ .namedConditionOr) :
    ∃ slot q, c.contribution x = inSlot slot q := by
  cases x with
  | namedConditionOr field operatorName arguments => exact absurd rfl hx
  | _ => exact ⟨_, _, rfl⟩

lemma gathered_log_warnings (x : Constraint) :
    (c.gathered x).log.filter (·.severity = .warning) = (c.gathered x).log := by
  rcases h : c.contribution x with e | ⟨slot, q⟩ | ⟨operatorName, field⟩
  · simp [c.gathered_error h]
  · simp [c.gathered_clause h]
  · simp [c.gathered_skipped h, Event.severity]

/-- All that a collection logs are warnings. -/
lemma collect_log_warnings (xs : List Constraint) :
    (c.collect xs).log.filter (·.severity = .warning) = (c.collect xs).log := by
  induction xs with
  | nil => rfl
  | cons x xs ih =>
    have hx := c.gathered_log_warnings x
    rw [collect_cons]
    rcases hg : c.gathered x with ⟨log, e | p⟩ <;> rw [hg] at hx
    · simpa using hx
    · rw [Outcome.join_ok, List.filter_append, ih, hx]

/-- The warnings of a compilation are what was logged while the clauses were collected. -/
lemma warnings_compile (s : Store) : (c.compile s).warnings = (c.collect s.constraints).log := by
  have hw := c.collect_log_warnings s.constraints
  rcases h : c.collect s.constraints with ⟨log, e | p⟩ <;> rw [h] at hw
  · rw [c.compile_of_error h]
    exact hw
  · rw [c.compile_of_ok h, Outcome.warnings, List.filter_append, hw]
    simp [finished, Event.severity]

end Compiler
end Criteria
