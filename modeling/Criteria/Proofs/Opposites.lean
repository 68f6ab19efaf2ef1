/-
# Opposite constraints

Equality, ranges and presence come in pairs: a constraint, and one with the same values that
excludes what the first asks for.  The two are compiled to the same leaf, one into the list of
what must match and the other into the list of what must not, and the kinds of the two lists are
compiled in the same order.  Taking the opposite of everything therefore exchanges the lists.

* `Constraint.opposite` and `Store.opposite`: the opposite of a constraint and of all in a store.
* `Compiler.Yields.opposite_eq`: opposite constraints have the same clause.
* `Compiler.LaidOut.opposite`: what is laid out from a store and from its opposite.
* `Compiler.compile_opposite`: the query of the opposite of a store.
-/
import Criteria.Proofs.FieldKeys
import Criteria.Proofs.Layout

namespace Criteria

/-! ## Opposites -/

/-- The kind of the opposite constraints.  Kinds without an opposite stay as they are. -/
def Kind.opposite : Kind → Kind
  | .equals => .notEquals
  | .notEquals => .equals
  | .inRange => .notInRange
  | .notInRange => .inRange
  | .present => .absent
  | .absent => .present
  | k => k

/-- The kinds that have an opposite. -/
def Kind.opposed : List Kind := [.equals, .notEquals, .inRange, .notInRange, .present, .absent]

/-- The constraint with the same values that excludes what a constraint asks for, if its kind has
an opposite. -/
def Constraint.opposite : Constraint → Constraint
  | .equals field value boost => .notEquals field value boost
  | .notEquals field value boost => .equals field value boost
  | .inRange field lower upper => .notInRange field lower upper
  | .notInRange field lower upper => .inRange field lower upper
  | .present field => .absent field
  | .absent field => .present field
  | x => x

namespace Kind

@[simp] lemma opposite_opposite (k : Kind) : k.opposite.opposite = k := by cases k <;> rfl

lemma opposite_inj {k k' : Kind} (h : k.opposite = k'.opposite) : k = k' := by
  rw [← opposite_opposite k, h, opposite_opposite]

lemma opposite_mem_opposed_iff {k : Kind} : k.opposite ∈ opposed ↔ k ∈ opposed := by
  cases k <;> decide

end Kind

lemma Constraint.kind_opposite (x : Constraint) : x.opposite.kind = x.kind.opposite := by
  cases x <;> rfl

namespace Groups

/-- The opposites of all constraints, under their kinds. -/
def opposite (g : Groups) : Groups :=
  g.map fun (k, xs) => (k.opposite, xs.map Constraint.opposite)

lemma get_opposite (g : Groups) (k : Kind) :
    g.opposite.get k = (g.get k.opposite).map Constraint.opposite := by
  have hget : Table.get? (· == ·) k.opposite.opposite g.opposite =
      (Table.get? (· == ·) k.opposite g).map (List.map Constraint.opposite) :=
    Table.get?_map Kind.opposite_inj (List.map Constraint.opposite) g k.opposite
  rw [Kind.opposite_opposite] at hget
  rw [get, get, hget]
  rcases Table.get? (· == ·) k.opposite g with _ | xs <;> rfl

lemma Proper.opposite {g : Groups} (h : g.Proper) : g.opposite.Proper where
  kind_eq k x hx := by
    rw [get_opposite] at hx
    obtain ⟨y, hy, rfl⟩ := List.mem_map.mp hx
    rw [Constraint.kind_opposite, h.kind_eq _ y hy, Kind.opposite_opposite]
  length_le k hk := by
    obtain rfl : k = .whereOr := by simpa [Kind.replaces] using hk
    rw [get_opposite, List.length_map]
    exact h.length_le .whereOr rfl

end Groups

/-- The store with the opposite of each constraint, in the same order. -/
def Store.opposite (s : Store) : Store := ⟨s.defaultBoost, s.groups.opposite, s.proper.opposite⟩

lemma Store.get_opposite (s : Store) (k : Kind) :
    s.opposite.get k = (s.get k.opposite).map Constraint.opposite := s.groups.get_opposite k

lemma FieldMap.Sends.unique {m : FieldMap} {field : Value} {a b : String} (ha : m.Sends field a)
    (hb : m.Sends field b) : a = b := by
  obtain ⟨name, hname, -, rfl⟩ := sends_iff.mp ha
  obtain ⟨name', hname', -, rfl⟩ := sends_iff.mp hb
  rw [hname.unique hname']

namespace Compiler

variable {c : Compiler}

/-! ## Clauses of opposites -/

/-- Opposite constraints have the same clause. -/
lemma Yields.opposite_eq {x : Constraint} {q q' : Query} (hx : x.kind ∈ Kind.opposed)
    (h : c.Yields x q) (h' : c.Yields x.opposite q') : q' = q := by
  cases h with
  | equals hname =>
    cases h' with
    | notEquals hname' => rw [hname'.unique hname]
  | notEquals hname =>
    cases h' with
    | equals hname' => rw [hname'.unique hname]
  | inRange hname =>
    cases h' with
    | notInRange hname' => rw [hname'.unique hname]
  | notInRange hname =>
    cases h' with
    | inRange hname' => rw [hname'.unique hname]
  | present hfield =>
    cases h' with
    | absent hfield' => rw [Except.ok.inj (hfield'.symm.trans hfield)]
  | absent hfield =>
    cases h' with
    | present hfield' => rw [Except.ok.inj (hfield'.symm.trans hfield)]
  | _ => exact absurd hx (by simp [Kind.opposed, Constraint.kind])

lemma eq_of_yields_opposite {xs : List Constraint} {qs qs' : List Query}
    (hxs : ∀ x ∈ xs, x.kind ∈ Kind.opposed) (h : List.Forall₂ c.Yields xs qs)
    (h' : List.Forall₂ c.Yields (xs.map Constraint.opposite) qs') : qs' = qs := by
  induction h generalizing qs' with
  | nil =>
    cases h'
    rfl
  | @cons x q xs qs hq _ ih =>
    obtain ⟨hx, hxs⟩ := List.forall_mem_cons.mp hxs
    obtain ⟨q', qs', hq', hqs', rfl⟩ := List.forall₂_cons_left_iff.mp h'
    rw [hq.opposite_eq hx hq', ih hxs hqs']

/-- Where only kinds with an opposite are in view, each of the two lists has the clauses of three
kinds, and nothing is filtered. -/
lemma LaidOut.of_opposed {view : Kind → List Constraint} {p : Clauses} (h : c.LaidOut view p)
    (hview : ∀ k, k ∉ Kind.opposed → view k = []) :
    List.Forall₂ c.Yields (view .equals ++ view .inRange ++ view .present) p.must ∧
    List.Forall₂ c.Yields (view .notEquals ++ view .notInRange ++ view .absent) p.mustNot ∧
    p.filter = [] := by
  have hmust := h.must
  have hmustNot := h.mustNot
  have hfilter := h.filter
  rw [hview .termsAny (by decide), hview .whereOr (by decide),
    hview .namedConditionOr (by decide)] at hmust
  rw [hview .notIn (by decide), hview .textMismatch (by decide)] at hmustNot
  rw [hview .textMatch (by decide), hview .geoDistance (by decide),
    hview .simpleQueryString (by decide), hview .queryString (by decide)] at hfilter
  exact ⟨by simpa using hmust, by simpa using hmustNot, by simpa using hfilter⟩

/-! ## Failing together -/

/-- A constraint and its opposite fail together: what they put into their slots is the same. -/
lemma gathered_opposite_ok_iff {x : Constraint} (hx : x.kind ∈ Kind.opposed) :
    (∃ p, (c.gathered x.opposite).result = .ok p) ↔ ∃ p, (c.gathered x).result = .ok p := by
  obtain ⟨slot, slot', r, h, h'⟩ : ∃ slot slot' r,
      c.contribution x = inSlot slot r ∧ c.contribution x.opposite = inSlot slot' r := by
    cases x with
    | equals | notEquals | inRange | notInRange | present | absent => exact ⟨_, _, _, rfl, rfl⟩
    | _ => exact absurd hx (by simp [Kind.opposed, Constraint.kind])
  rcases r with e | q
  · rw [c.gathered_error h, c.gathered_error h']
  · simp [c.gathered_clause h, c.gathered_clause h']

lemma compile_ok_iff {s : Store} :
    (∃ q, (c.compile s).result = .ok q) ↔
      ∀ k, ∀ x ∈ s.get k, ∃ p, (c.gathered x).result = .ok p := by
  have hcollect : (∃ q, (c.compile s).result = .ok q) ↔
      ∃ p, (c.collect s.constraints).result = .ok p := by
    rw [result_compile]
    rcases (c.collect s.constraints).result with e | p <;> simp [Except.map]
  rw [hcollect, result_collect_ok_iff, Store.constraints, List.forall_mem_flatMap]
  simp [Kind.mem_all]

/-! ## The opposite of a store -/

section

variable {s : Store}

lemma kind_mem_opposed (h : ∀ k, s.get k ≠ [] → k ∈ Kind.opposed) {k : Kind} {x : Constraint}
    (hx : x ∈ s.get k) : x.kind ∈ Kind.opposed := by
  rw [Store.kind_eq_of_mem_get hx]
  exact h k (List.ne_nil_of_mem hx)

lemma compile_opposite_ok_iff (h : ∀ k, s.get k ≠ [] → k ∈ Kind.opposed) :
    (∃ q, (c.compile s.opposite).result = .ok q) ↔ ∃ q, (c.compile s).result = .ok q := by
  rw [compile_ok_iff, compile_ok_iff]
  simp only [Store.get_opposite, List.forall_mem_map]
  constructor
  · intro hall k x hx
    have := hall k.opposite x (by rwa [Kind.opposite_opposite])
    exact (gathered_opposite_ok_iff (kind_mem_opposed h hx)).mp this
  · intro hall k x hx
    exact (gathered_opposite_ok_iff (kind_mem_opposed h hx)).mpr (hall _ x hx)

/-- The kinds of one list are the opposites of those of the other, in the same order, so that the
lists are exchanged. -/
lemma LaidOut.opposite (h : ∀ k, s.get k ≠ [] → k ∈ Kind.opposed) {p p' : Clauses}
    (hp : c.LaidOut s.get p) (hp' : c.LaidOut s.opposite.get p') :
    p'.must = p.mustNot ∧ p'.mustNot = p.must ∧ p.filter = [] ∧ p'.filter = [] := by
  have hview : ∀ k, k ∉ Kind.opposed → s.get k = [] := by
    intro k hk
    by_contra hne
    exact hk (h k hne)
  have hview' : ∀ k, k ∉ Kind.opposed → s.opposite.get k = [] := by
    intro k hk
    rw [Store.get_opposite, hview k.opposite (by rwa [Kind.opposite_mem_opposed_iff]),
      List.map_nil]
  obtain ⟨hmust, hmustNot, hfilter⟩ := hp.of_opposed hview
  obtain ⟨hmust', hmustNot', hfilter'⟩ := hp'.of_opposed hview'
  simp only [Store.get_opposite, Kind.opposite, ← List.map_append] at hmust' hmustNot'
  have hkind : ∀ k, ∀ x ∈ s.get k, x.kind ∈ Kind.opposed := fun _ _ => kind_mem_opposed h
  refine ⟨eq_of_yields_opposite ?_ hmustNot hmust', eq_of_yields_opposite ?_ hmust hmustNot',
    hfilter, hfilter'⟩
  · simp only [List.forall_mem_append]
    exact ⟨⟨hkind _, hkind _⟩, hkind _⟩
  · simp only [List.forall_mem_append]
    exact ⟨⟨hkind _, hkind _⟩, hkind _⟩

end

/-- A store that holds only constraints with an opposite compiles if and only if its opposite
does, and the two queries differ in that the clauses that must match and those that must not are
exchanged, in the same order.  There are no others. -/
theorem compile_opposite (c : Compiler) {s : Store} (h : ∀ k, s.get k ≠ [] → k ∈ Kind.opposed) :
    ((∃ q, (c.compile s.opposite).result = .ok q) ↔ ∃ q, (c.compile s).result = .ok q) ∧
    ∀ q, (c.compile s).result = .ok q → ∃ must mustNot,
      q = .filters [.bool must mustNot [] [] []] ∧
      (c.compile s.opposite).result = .ok (.filters [.bool mustNot must [] [] []]) := by
  refine ⟨compile_opposite_ok_iff h, ?_⟩
  intro q hq
  obtain ⟨q', hq'⟩ := (compile_opposite_ok_iff h).mpr ⟨q, hq⟩
  obtain ⟨p, hp, rfl⟩ := collected_of_compile hq
  obtain ⟨p', hp', rfl⟩ := collected_of_compile hq'
  obtain ⟨hexcluded, hdemanded, hfilter, hfilter'⟩ := LaidOut.opposite h hp.laidOut hp'.laidOut
  refine ⟨p.must, p.mustNot, ?_, ?_⟩
  · rw [tree, Clauses.query, hfilter]
  · rw [hq', tree, Clauses.query, hexcluded, hdemanded, hfilter']

/-- `compile_opposite` at a store with constraints of both sides, of which an equality came last,
and at one whose only constraint is about what cannot be a field. -/
theorem compile_opposite_mixed :
    let c : Compiler := ⟨.empty, .empty, .null⟩
    let equals (field : String) : Constraint := .equals (.str field) .null (.num .one)
    let s := (((Store.empty .null).add (.present (.str "a"))).add
      (.notInRange (.str "b") .null .null)).add (equals "c")
    let t := (Store.empty .null).add (.absent (.list []))
    (∀ k, s.get k ≠ [] → k ∈ Kind.opposed) ∧ (∀ k, t.get k ≠ [] → k ∈ Kind.opposed) ∧
    (∃ must mustNot,
      (c.compile s).result = .ok (.filters [.bool must mustNot [] [] []]) ∧
      (c.compile s.opposite).result = .ok (.filters [.bool mustNot must [] [] []])) ∧
    ¬ ∃ q, (c.compile t.opposite).result = .ok q := by
  intro c equals s t
  have hs : ∀ k, s.get k ≠ [] → k ∈ Kind.opposed := by
    intro k
    cases k <;> decide
  have ht : ∀ k, t.get k ≠ [] → k ∈ Kind.opposed := by
    intro k
    cases k <;> decide
  obtain ⟨must, mustNot, hq, hopposite⟩ := (compile_opposite c hs).2 _ rfl
  refine ⟨hs, ht, ⟨must, mustNot, congrArg _ hq, hopposite⟩, ?_⟩
  rw [(compile_opposite c ht).1]
  rintro ⟨q, hq⟩
  exact absurd (show Except.error Fault.wrongType = Except.ok q from hq) (by simp)

end Compiler
end Criteria
