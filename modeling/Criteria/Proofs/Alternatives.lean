/-
# Three ways to ask for a group

A group whose only alternative compares a field with several values can be asked for as such, as
a batch with one pair, and by the name of an operator that is looked up when the query is made.
The three are constraints of different kinds, but each of them contributes the same clause, and
where no other constraint is compiled between them they contribute it at the same place.

* `Compiler.ContributesGroup`: the constraints that contribute such a group.  The ways through a
  pair and through the registry are `Compiler.contributesGroup_whereOr` and
  `Compiler.contributesGroup_named`.
* `Store.Apart`: a store without the constraints between which the place of the group would
  matter, with the places where a constraint is added to it.
* `Compiler.compile_add_group`: what is compiled of such a store with a group.
* `Session.group_three_ways`: the statement for the calls of a session.
-/
import Criteria.Proofs.Layout

namespace Criteria

/-! ## Constraints that contribute a group -/

namespace Compiler

variable {c : Compiler} {field values : Value}

/-- The constraint contributes what a group with one alternative does, or fails like it. -/
def ContributesGroup (c : Compiler) (field values : Value) (x : Constraint) : Prop :=
  c.contribution x = inSlot .must ((c.terms field values).map fun q => .anyOf [q])

lemma contributesGroup_termsAny : c.ContributesGroup field values (.termsAny field values) := rfl

/-- A batch with one pair shares its group with no other pair. -/
lemma contributesGroup_whereOr {terms pair : Value} (hterms : terms.elements? = some [pair])
    (hpair : pairOf pair = .ok (field, values)) :
    c.ContributesGroup field values (.whereOr terms) := by
  have halternatives : c.alternatives terms = (c.terms field values).map fun q => [q] := by
    rw [alternatives, hterms]
    simp only [termsOfPairs, hpair, bind, Except.bind]
    rcases c.terms field values with e | q <;> rfl
  rw [ContributesGroup, contribution, halternatives]
  rcases c.terms field values with e | q <;> rfl

/-- An operator is looked up after the field has got its new name, so that a field that cannot
have one fails here as it does elsewhere. -/
lemma contributesGroup_named {name : Value}
    (h : c.registry.find name = .ok (some (.standard .terms))) :
    c.ContributesGroup field values (.namedConditionOr field name values) := by
  have hcreate : ∀ v, c.registry.create name v values =
      (Query.ofField "terms" v values).map some := by
    intro v
    rw [Registry.create, h]
    rfl
  rw [ContributesGroup, named_eq, created, terms]
  rcases c.fields.find field with e | v
  · rfl
  simp only [bind, Except.bind, hcreate]
  rcases Query.ofField "terms" v values with e | q <;> rfl

lemma ContributesGroup.gathered {x : Constraint} (h : c.ContributesGroup field values x) :
    c.gathered x =
      .silent ((c.terms field values).map fun q => Clauses.none.push .must (.anyOf [q])) := by
  rcases hq : c.terms field values with e | q
  · have herror : c.contribution x = .error e := h.trans (by rw [hq]; rfl)
    exact c.gathered_error herror
  · have hclause : c.contribution x = .ok (.clause .must (.anyOf [q])) := h.trans (by rw [hq]; rfl)
    exact c.gathered_clause hclause

end Compiler

/-! ## The place of a group -/

namespace Store

/-- The kinds that are compiled before the first way to ask for a group, and this way itself. -/
def early : List Kind := [.equals, .notEquals, .notIn, .inRange, .notInRange, .termsAny]

/-- The kinds that are compiled between the second and the third way, apart from presence. -/
def late : List Kind :=
  [.absent, .textMatch, .textMismatch, .geoDistance, .simpleQueryString, .queryString]

/-- The store has no batch and no condition with a named operator, and nothing that must match is
compiled between these. -/
structure Apart (s : Store) : Prop where
  whereOr : s.get .whereOr = []
  present : s.get .present = []
  named : s.get .namedConditionOr = []

variable {s : Store}

lemma Apart.constraints_eq (h : s.Apart) :
    s.constraints = early.flatMap s.get ++ late.flatMap s.get := by
  simp [constraints, Kind.all, early, late, h.whereOr, h.present, h.named]

/-- The first two ways come next to each other in the order of compilation. -/
lemma Apart.constraints_add_group (h : s.Apart) {x : Constraint}
    (hx : x.kind = .termsAny ∨ x.kind = .whereOr) :
    (s.add x).constraints = early.flatMap s.get ++ x :: late.flatMap s.get := by
  rcases hx with hx | hx <;>
    simp [constraints, Kind.all, early, late, get_add, hx, h.whereOr, h.present, h.named,
      Kind.replaces]

lemma Apart.constraints_add_named (h : s.Apart) {x : Constraint}
    (hx : x.kind = .namedConditionOr) :
    (s.add x).constraints = early.flatMap s.get ++ (late.flatMap s.get ++ [x]) := by
  simp [constraints, Kind.all, early, late, get_add, hx, h.whereOr, h.present, h.named,
    Kind.replaces]

end Store

namespace Compiler

variable {c : Compiler}

/-- Only a condition with a named operator can be left out, with a warning. -/
lemma collect_eq_of_unnamed {xs : List Constraint} {p : Clauses}
    (hxs : ∀ x ∈ xs, x.kind ≠ .namedConditionOr) (h : (c.collect xs).result = .ok p) :
    c.collect xs = ⟨[], .ok p⟩ := by
  obtain ⟨parts, hparts⟩ := c.exists_parts (c.result_collect_ok_iff.mp ⟨p, h⟩)
  have hlog : (xs.flatMap fun x => (c.gathered x).log) = [] := by
    refine List.flatMap_eq_nil_iff.mpr ?_
    intro x hx
    exact c.gathered_log_of_inSlot (c.contribution_eq_inSlot (hxs x hx))
  have hcollect := c.collect_of_ok hparts
  rw [hlog] at hcollect
  rw [hcollect] at h ⊢
  exact congrArg _ h

/-- Constraints whose clauses go to other lists have none that must match. -/
lemma must_eq_nil_of_collect {xs : List Constraint} {log : List Event} {p : Clauses}
    (h : c.collect xs = ⟨log, .ok p⟩) (hxs : ∀ x ∈ xs, x.kind.slot ≠ .must) : p.must = [] := by
  have hmust := (collected_of_collect h).yields .must
  have hnone : (xs.filter fun x => x.kind.slot = .must && c.resolves x) = [] := by
    refine List.filter_eq_nil_iff.mpr ?_
    intro x hx
    simp [hxs x hx]
  rw [hnone] at hmust
  exact List.forall₂_nil_left_iff.mp hmust

/-- A group can be put in front of clauses of which none must match, or behind them. -/
lemma join_group_comm {r : Except Fault Query} {p : Clauses} (hp : p.must = []) :
    let group := Outcome.silent (r.map fun q => Clauses.none.push .must (.anyOf [q]))
    group.join ⟨[], .ok p⟩ = Outcome.join ⟨[], .ok p⟩ group := by
  rcases r with e | q
  · rfl
  · simp [Outcome.silent, Except.map, Clauses.append, Clauses.push, Clauses.none, hp]

section

variable {s : Store} {p : Clauses} {field values : Value} {x : Constraint}

/-- What is collected of the store splits at the place of a group, and none of the constraints
behind it must match. -/
lemma exists_collect_append (hs : s.Apart) (hp : (c.collect s.constraints).result = .ok p) :
    ∃ p₁ p₂, c.collect (Store.early.flatMap s.get) = ⟨[], .ok p₁⟩ ∧
      c.collect (Store.late.flatMap s.get) = ⟨[], .ok p₂⟩ ∧ p₂.must = [] ∧ p = p₁.append p₂ := by
  have hkind : ∀ ks : List Kind, ∀ y ∈ ks.flatMap s.get, y.kind ∈ ks := by
    intro ks y hy
    obtain ⟨k, hk, hy⟩ := List.mem_flatMap.mp hy
    rwa [Store.kind_eq_of_mem_get hy]
  have hearly : ∀ y ∈ Store.early.flatMap s.get, y.kind ≠ .namedConditionOr := by
    intro y hy h
    have hmem := hkind _ y hy
    rw [h] at hmem
    exact absurd hmem (by decide)
  have hlate : ∀ y ∈ Store.late.flatMap s.get,
      y.kind ≠ .namedConditionOr ∧ y.kind.slot ≠ .must := by
    intro y hy
    have hall : ∀ k ∈ Store.late, k ≠ .namedConditionOr ∧ k.slot ≠ .must := by decide
    exact hall _ (hkind _ y hy)
  rw [hs.constraints_eq] at hp
  have hok := c.result_collect_ok_iff.mp ⟨p, hp⟩
  obtain ⟨p₁, h₁⟩ := c.result_collect_ok_iff.mpr fun y hy => hok y (List.mem_append_left _ hy)
  obtain ⟨p₂, h₂⟩ := c.result_collect_ok_iff.mpr fun y hy => hok y (List.mem_append_right _ hy)
  have hc₁ := collect_eq_of_unnamed hearly h₁
  have hc₂ := collect_eq_of_unnamed (fun y hy => (hlate y hy).1) h₂
  have hmust : p₂.must = [] := must_eq_nil_of_collect hc₂ fun y hy => (hlate y hy).2
  refine ⟨p₁, p₂, hc₁, hc₂, hmust, ?_⟩
  rw [collect_append, hc₁, hc₂] at hp
  exact (Except.ok.inj hp).symm

/-- In whichever way a group is asked for, it comes behind all else that must match. -/
lemma collect_add_group (hs : s.Apart) (hp : (c.collect s.constraints).result = .ok p)
    (hx : c.ContributesGroup field values x)
    (hkind : x.kind = .termsAny ∨ x.kind = .whereOr ∨ x.kind = .namedConditionOr) :
    c.collect (s.add x).constraints =
      .silent ((c.terms field values).map fun q => p.push .must (.anyOf [q])) := by
  obtain ⟨p₁, p₂, h₁, h₂, hmust, rfl⟩ := exists_collect_append hs hp
  have hplace : c.collect (s.add x).constraints =
      (c.collect (Store.early.flatMap s.get)).join
        ((c.gathered x).join (c.collect (Store.late.flatMap s.get))) := by
    rw [← or_assoc] at hkind
    rcases hkind with hkind | hkind
    · rw [hs.constraints_add_group hkind, collect_append, collect_cons]
    · rw [hs.constraints_add_named hkind, collect_append, collect_append, collect_singleton,
        hx.gathered, h₂, join_group_comm hmust]
  rw [hplace, hx.gathered, h₁, h₂]
  rcases c.terms field values with e | q
  · rfl
  · simp [Outcome.silent, Except.map, Clauses.append, Clauses.push, Clauses.none, hmust]

/-- What is compiled of a group besides some constraints, whose number and clauses are known. -/
def withGroup (c : Compiler) (size : Nat) (p : Clauses) (field values : Value) : Outcome Query :=
  (Outcome.silent ((c.terms field values).map fun q => p.push .must (.anyOf [q]))).andThen fun p =>
    ⟨[.compiled (size + 1) p.must.length p.mustNot.length p.filter.length], .ok (tree p)⟩

/-- Whatever way a group is asked for, the same query is compiled, with the same log. -/
lemma compile_add_group (hs : s.Apart) (hp : (c.collect s.constraints).result = .ok p)
    (hx : c.ContributesGroup field values x)
    (hkind : x.kind = .termsAny ∨ x.kind = .whereOr ∨ x.kind = .namedConditionOr) :
    c.compile (s.add x) = c.withGroup s.size p field values := by
  have hsize : (s.add x).size = s.size + 1 := by
    rw [← Store.length_constraints, ← Store.length_constraints, hs.constraints_eq]
    rw [← or_assoc] at hkind
    rcases hkind with hkind | hkind
    · rw [hs.constraints_add_group hkind]
      simp only [List.length_append, List.length_cons]
      omega
    · rw [hs.constraints_add_named hkind]
      simp only [List.length_append, List.length_singleton]
      omega
  rw [compile_eq, collect_add_group hs hp hx hkind, withGroup]
  simp only [finished, hsize]

end

end Compiler

/-! ## The calls of a session -/

/-- The call for a group of its own. -/
def Step.group (field values : Value) : Step :=
  .request .termsAny [("field", field), ("values", values)]

/-- The call with a ready batch. -/
def Step.batch (terms : Value) : Step := .offer (.constraint .whereOr [("terms", terms)])

/-- The call for a condition with a named operator. -/
def Step.named (field operatorName arguments : Value) : Step :=
  .request .namedConditionOr
    [("field", field), ("operator_name", operatorName), ("arguments", arguments)]

namespace Session

open Compiler (tree)

lemma step_compile_withStore (s : Session) (t : Store) :
    ((s.withStore t).step .compile).2 = (s.subject.compiler.compile t).map .query := by
  simp [step]

/-- A subject that compiles and has no batch, presence or condition with a named operator is asked
for a group with one alternative: as a group of its own, as a ready batch with this pair, or by any
name whose key leads to the standard constructor for comparisons with several values.  None of
these calls fails, and what is compiled after them is the same, log included.  It is the query of
before with the group behind all else that must match, or, if the comparison cannot be built, the
fault of this. -/
theorem group_three_ways (s : Session) {q : Query} {field values pair terms name : Value}
    (hs : s.subject.store.Apart) (hq : (s.step .compile).2.result = .ok (.query q))
    (hterms : terms.elements? = some [pair]) (hpair : Compiler.pairOf pair = .ok (field, values))
    (hname : Name.keyOfValue name = .ok "terms")
    (hstandard : (s.subject.compiler.registry.get? "terms").map (·.constructor) =
      some (.standard .terms)) :
    ∃ (p : Clauses) (compiled : Outcome Answer), q = tree p ∧
      (∀ x ∈ [Step.group field values, .batch terms, .named field name values],
        (∃ a, (s.step x).2.result = .ok a) ∧ ((s.step x).1.step .compile).2 = compiled) ∧
      compiled.result = (s.subject.compiler.terms field values).map fun l =>
        .query (tree (p.push .must (.anyOf [l]))) := by
  set c := s.subject.compiler
  set store := s.subject.store
  obtain ⟨p, hp, rfl⟩ : ∃ p, (c.collect store.constraints).result = .ok p ∧ q = tree p := by
    have hcompile := result_compile_of_step hq
    rw [Compiler.result_compile] at hcompile
    obtain ⟨p, hp, htree⟩ := map_eq_ok_iff.mp hcompile
    exact ⟨p, hp, htree.symm⟩
  have hfind : c.registry.find name = .ok (some (.standard .terms)) := by
    rw [Registry.find, hname, ← hstandard]
    rfl
  -- the three calls add one constraint each
  have hcalls : ∀ x ∈ [Step.group field values, .batch terms, .named field name values],
      ∃ y, c.ContributesGroup field values y ∧
        (y.kind = .termsAny ∨ y.kind = .whereOr ∨ y.kind = .namedConditionOr) ∧
        s.step x = s.change (.ok (store.add y)) := by
    simp only [List.forall_mem_cons]
    exact ⟨⟨_, Compiler.contributesGroup_termsAny, .inl rfl, rfl⟩,
      ⟨_, Compiler.contributesGroup_whereOr hterms hpair, .inr (.inl rfl), rfl⟩,
      ⟨_, Compiler.contributesGroup_named hfind, .inr (.inr rfl), rfl⟩, by simp⟩
  refine ⟨p, (c.withGroup store.size p field values).map .query, rfl, ?_, ?_⟩
  · intro x hx
    obtain ⟨y, hy, hkind, hstep⟩ := hcalls x hx
    rw [hstep]
    refine ⟨⟨_, rfl⟩, ?_⟩
    rw [change, step_compile_withStore, Compiler.compile_add_group hs hp hy hkind]
  · rw [Compiler.withGroup]
    rcases c.terms field values with e | l <;> rfl

/-- `group_three_ways` at a strict compiler and a store with constraints of late kinds: for a field
that is renamed with bytes as its values, and for what cannot be a field. -/
theorem group_three_ways_bytes :
    let c : Compiler := ⟨.standard, ⟨[(.str "a", .str "b__c")]⟩, .bool true⟩
    let store := ((Store.empty .null).add (.absent (.str "x"))).add (.textMatch (.str "y") .null)
    let s : Session := ⟨.separate store c, none⟩
    let ways (field values : Value) : List Step :=
      [.group field values, .batch (.list [.tuple [field, values]]),
        .named field (.str "tERMſ") values]
    let before : Clauses := ⟨[], [Leaf.presence (.str "x")], [Leaf.textMatch "y" .null]⟩
    let group := Query.anyOf [.leaf "terms" [("b__c", .list [.int 1])]]
    let compiled (x : Step) := ((s.step x).1.step .compile).2.result
    (∀ x ∈ ways (.str "a") (.bytes [1]),
      compiled x = .ok (.query (tree (before.push .must group)))) ∧
    ∀ x ∈ ways (.list []) .null, compiled x = .error .wrongType := by
  intro c store s ways before group compiled
  have hs : store.Apart := ⟨rfl, rfl, rfl⟩
  have hname : Name.keyOfValue (.str "tERMſ") = .ok "terms" := by
    have hkey : Name.key "tERMſ" = "terms" := by decide +kernel
    rw [Name.keyOfValue_str, hkey]
  have hstandard : (Registry.standard.get? "terms").map (·.constructor) =
      some (.standard .terms) := rfl
  have hways : ∀ field values, ∀ x ∈ ways field values, compiled x =
      (c.terms field values).map fun l => .query (tree (before.push .must (.anyOf [l]))) := by
    intro field values x hx
    obtain ⟨p, o, hp, hall, ho⟩ := @group_three_ways s (tree before) field values
      (.tuple [field, values]) (.list [.tuple [field, values]]) (.str "tERMſ") hs rfl rfl rfl hname
      hstandard
    rw [← (hall x hx).2, ← Compiler.tree_inj hp] at ho
    exact ho
  exact ⟨hways (.str "a") (.bytes [1]), hways (.list []) .null⟩

end Session
end Criteria
