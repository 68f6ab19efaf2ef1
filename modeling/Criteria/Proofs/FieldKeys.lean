/-
# Fields as names of parameters

In most leaves the field of a constraint is the name of a parameter.  There it stands under
its new name, letter by letter, except that a new name `from_` loses its underscore: it comes
under the same name as the field `from`.  All other names are kept, and kept apart.

* `FieldMap.Maps`: the new name of a field; `Query.sentName_eq_self_iff` and
  `Query.sentName_inj_iff`: the names that are kept, and those that are not kept apart.
* `Compiler.keyFields`: the fields of a constraint that are names of parameters.
* `Compiler.Names`: the leaves of a clause have the fields of its constraint as names;
  `Compiler.names_of_yields` is the way in which names are sent, and `Compiler.names_id_iff`
  says which clauses have the names unchanged.
* `Compiler.compile_names`: the statement for all queries that are compiled, and
  `Compiler.from_merged`: two fields that come under the same name.
-/
import Criteria.Proofs.Layout

namespace Criteria

/-! ## Names that are sent -/

/-- The field has a text as its new name. -/
def FieldMap.Maps (m : FieldMap) (field : Value) (name : String) : Prop :=
  ∃ v, m.find field = .ok v ∧ v.text? = some name

lemma FieldMap.Maps.unique {m : FieldMap} {field : Value} {name name' : String}
    (h : m.Maps field name) (h' : m.Maps field name') : name = name' := by
  obtain ⟨v, hv, hname⟩ := h
  obtain ⟨v', hv', hname'⟩ := h'
  cases hv.symm.trans hv'
  exact Option.some.inj (hname.symm.trans hname')

lemma FieldMap.sends_iff {m : FieldMap} {field : Value} {key : String} :
    m.Sends field key ↔
      ∃ name, m.Maps field name ∧ name ∉ Query.forbiddenNames ∧ key = Query.sentName name := by
  constructor
  · rintro ⟨v, name, hv, hname, hallowed, rfl⟩
    exact ⟨name, ⟨v, hv, hname⟩, hallowed, rfl⟩
  · rintro ⟨name, ⟨v, hv, hname⟩, hallowed, rfl⟩
    exact ⟨v, name, hv, hname, hallowed, rfl⟩

namespace Query

/-- One name is not kept. -/
lemma sentName_eq_self_iff {name : String} : sentName name = name ↔ name ≠ "from_" := by
  rw [sentName]
  split
  · rename_i h
    subst h
    decide
  · rename_i h
    simpa using h

/-- Two different names are kept apart, unless they are `from_` and `from`. -/
lemma sentName_inj_iff {a b : String} :
    sentName a = sentName b ↔ a = b ∨ (a = "from_" ∧ b = "from") ∨ (a = "from" ∧ b = "from_") := by
  rw [sentName, sentName]
  by_cases ha : a = "from_" <;> by_cases hb : b = "from_"
  · simp [ha, hb]
  · simp [ha, hb, Ne.symm hb, eq_comm]
  · simp [ha, hb]
  · simp [ha, hb]

/-- The query is a leaf with one parameter, and the name of the parameter is the new name of the
field, as `κ` writes it. -/
def Under (q : Query) (m : FieldMap) (κ : String → String) (type : String) (field : Value) :
    Prop :=
  ∃ name v, m.Maps field name ∧ q = .leaf type [(κ name, v)]

lemma under_sent {m : FieldMap} {field : Value} {key : String} (h : m.Sends field key)
    (type : String) (v : Value) :
    (leaf type [(key, v)]).Under m sentName type field := by
  obtain ⟨name, hname, -, rfl⟩ := FieldMap.sends_iff.mp h
  exact ⟨name, v, hname, rfl⟩

lemma under_id_iff {m : FieldMap} {field : Value} {key : String} (h : m.Sends field key)
    (type : String) (v : Value) :
    (leaf type [(key, v)]).Under m id type field ↔ ¬ m.Maps field "from_" := by
  obtain ⟨name, hname, -, rfl⟩ := FieldMap.sends_iff.mp h
  constructor
  · rintro ⟨name', v', hname', hleaf⟩ hfrom
    obtain rfl := hname.unique hname'
    obtain rfl := hname.unique hfrom
    have hkey : sentName "from_" = "from_" := by
      have hparameters := (Query.leaf.inj hleaf).2
      simp only [List.cons.injEq, Prod.mk.injEq, id] at hparameters
      exact hparameters.1.1
    exact sentName_eq_self_iff.mp hkey rfl
  · intro hfrom
    have hkept : sentName name = name := by
      refine sentName_eq_self_iff.mpr ?_
      rintro rfl
      exact hfrom hname
    exact ⟨name, v, hname, by rw [hkept]; rfl⟩

end Query

/-! ## Types of the standard constructors -/

lemma Standard.contains_type (s : Standard) : Query.types.contains s.type = true := by
  cases s <;> decide

lemma Standard.shapes_type (s : Standard) : Query.shapes s.type = [] := by cases s <;> rfl

namespace Compiler

/-! ## The fields of a constraint -/

/-- The fields of those values that are pairs of a field and its values. -/
def pairFields (vs : List Value) : List Value :=
  vs.filterMap fun v => (pairOf v).toOption.map Prod.fst

/-- The fields of the pairs of a batch. -/
def batchFields (terms : Value) : List Value := pairFields (terms.elements?.getD [])

lemma pairFields_cons {v field values : Value} (h : pairOf v = .ok (field, values))
    (vs : List Value) : pairFields (v :: vs) = field :: pairFields vs := by
  simp [pairFields, h, Except.toOption]

lemma batchFields_of_elements {terms : Value} {vs : List Value} (h : terms.elements? = some vs) :
    batchFields terms = pairFields vs := by
  rw [batchFields, h, Option.getD_some]

/-- The fields of a constraint that are names of parameters. -/
def keyFields (c : Compiler) : Constraint → List Value
  | .equals field _ _ | .notEquals field _ _ | .notIn field _ | .inRange field _ _
  | .notInRange field _ _ | .termsAny field _ | .textMatch field _ | .textMismatch field _
  | .geoDistance field _ _ _ => [field]
  | .whereOr terms => batchFields terms
  -- of the queries that the registry creates, those of standard constructors
  | .namedConditionOr field operatorName _ =>
    match c.registry.find operatorName with
    | .ok (some (.standard _)) => [field]
    | _ => []
  | .present _ | .absent _ | .simpleQueryString .. | .queryString .. => []

/-- The leaves of a clause are about the fields of its constraint, whose new names stand in them
as `κ` writes them. -/
def Names (c : Compiler) (κ : String → String) (q : Query) : Constraint → Prop
  | .equals field _ _ | .notEquals field _ _ => q.Under c.fields κ "term" field
  | .notIn field _ => q.Under c.fields κ "terms" field
  | .inRange field _ _ | .notInRange field _ _ => q.Under c.fields κ "range" field
  | .termsAny field _ => ∃ l, q = .anyOf [l] ∧ l.Under c.fields κ "terms" field
  | .whereOr terms => ∃ vs ls, terms.elements? = some vs ∧ q = .anyOf ls ∧
      List.Forall₂ (fun v l => ∃ field values, pairOf v = .ok (field, values) ∧
        l.Under c.fields κ "terms" field) vs ls
  | .textMatch field _ | .textMismatch field _ => q.Under c.fields κ "match" field
  -- the field stands next to the distance
  | .geoDistance field location _ _ => ∃ name parameters, c.fields.Maps field name ∧
      q = .leaf "geo_distance" parameters ∧
      Table.get? (· == ·) (κ name) parameters = some location.toLocation
  | .namedConditionOr field operatorName _ =>
      ∀ s, c.registry.find operatorName = .ok (some (.standard s)) →
        ∃ l, q = .anyOf [l] ∧ l.Under c.fields κ s.type field
  | .present _ | .absent _ | .simpleQueryString .. | .queryString .. => True

variable {c : Compiler}

/-- Most constraints have one field that is the name of a parameter. -/
lemma iff_forall_keyFields {x : Constraint} {field : Value} {P : Value → Prop} {Q : Prop}
    (h : c.keyFields x = [field]) (hP : Q ↔ P field) : Q ↔ ∀ f ∈ c.keyFields x, P f := by
  rw [h, List.forall_mem_singleton, hP]

/-- The field of a condition counts if its operator is that of a standard constructor. -/
lemma mem_keyFields_named {field operatorName arguments f : Value} :
    f ∈ c.keyFields (.namedConditionOr field operatorName arguments) ↔
      f = field ∧ ∃ s, c.registry.find operatorName = .ok (some (.standard s)) := by
  rw [keyFields]
  split
  · rename_i s hs
    simp [hs]
  · rename_i hno
    simp only [List.not_mem_nil, false_iff, not_and, not_exists]
    intro _ s hs
    exact hno s hs

/-- A standard constructor makes a leaf of its type, with the field as the only parameter. -/
lemma exists_sends_of_standard {field operatorName arguments v : Value} {s : Standard} {q : Query}
    (hs : c.registry.find operatorName = .ok (some (.standard s)))
    (hv : c.fields.find field = .ok v)
    (hq : c.registry.create operatorName v arguments = .ok (some q)) :
    ∃ key, c.fields.Sends field key ∧ q = .leaf s.type [(key, Query.sentValue s.type arguments)] := by
  have hbuild : (s.build v arguments).map some = .ok (some q) := by
    rw [Registry.create, hs] at hq
    exact hq
  obtain ⟨q', hq', hsome⟩ := map_eq_ok_iff.mp hbuild
  cases hsome
  obtain ⟨name, hname, hallowed, rfl⟩ :=
    (Query.ofField_eq_ok_iff s.contains_type s.shapes_type).mp hq'
  exact ⟨_, ⟨v, name, hv, hname, hallowed, rfl⟩, rfl⟩

/-! ## The names in a clause -/

/-- The location of a distance stands under the name of the field, also if the field takes the
place of the distance. -/
lemma get?_nearby (key : String) (location distance : Value) :
    ∃ parameters, Leaf.nearby key location distance = .leaf "geo_distance" parameters ∧
      Table.get? (· == ·) key parameters = some location ∧
      ∀ name, name ≠ key → name ≠ "distance" → Table.get? (· == ·) name parameters = none := by
  rw [Leaf.nearby]
  split
  · rename_i h
    subst h
    refine ⟨_, rfl, by simp [Table.get?], ?_⟩
    intro name _ hname
    simp [Table.get?, Ne.symm hname]
  · rename_i h
    refine ⟨_, rfl, by simp [Table.get?, Ne.symm h], ?_⟩
    intro name hkey hname
    simp [Table.get?, Ne.symm hkey, Ne.symm hname]

/-- The clause of a constraint has its fields under the names that are sent for them. -/
theorem names_of_yields {x : Constraint} {q : Query} (h : c.Yields x q) :
    c.Names Query.sentName q x := by
  cases h with
  | equals h => exact Query.under_sent h "term" _
  | notEquals h => exact Query.under_sent h "term" _
  | notIn h => exact Query.under_sent h "terms" _
  | inRange h => exact Query.under_sent h "range" _
  | notInRange h => exact Query.under_sent h "range" _
  | termsAny h => exact ⟨_, rfl, Query.under_sent h "terms" _⟩
  | @whereOr terms vs qs hvs hqs =>
    refine ⟨vs, qs, hvs, rfl, hqs.imp ?_⟩
    rintro v q ⟨field, values, name, hpair, hname, rfl⟩
    exact ⟨field, values, hpair, Query.under_sent hname "terms" _⟩
  | textMatch h => exact Query.under_sent h "match" _
  | textMismatch h => exact Query.under_sent h "match" _
  | @geoDistance field location distance unit d key hd h =>
    obtain ⟨name, hname, -, rfl⟩ := FieldMap.sends_iff.mp h
    obtain ⟨parameters, hleaf, hget, -⟩ :=
      get?_nearby (Query.sentName name) location.toLocation d
    exact ⟨name, parameters, hname, hleaf, hget⟩
  | named h hq =>
    intro s hs
    obtain ⟨key, hkey, rfl⟩ := exists_sends_of_standard hs h hq
    exact ⟨_, rfl, Query.under_sent hkey s.type _⟩
  | present _ => trivial
  | absent _ => trivial
  | simpleQueryString _ => trivial
  | queryString _ => trivial

lemma exists_anyOf_iff {q : Query} {P : Query → Prop} :
    (∃ l, Query.anyOf [q] = .anyOf [l] ∧ P l) ↔ P q := by
  simp [Query.anyOf]

/-- The leaves of a batch have the new names unchanged, unless one of them is `from_`. -/
lemma pairs_id_iff {vs : List Value} {qs : List Query}
    (h : List.Forall₂ (fun v q => ∃ field values key, pairOf v = .ok (field, values) ∧
      c.fields.Sends field key ∧ q = Leaf.terms key values) vs qs) :
    List.Forall₂ (fun v l => ∃ field values, pairOf v = .ok (field, values) ∧
        l.Under c.fields id "terms" field) vs qs ↔
      ∀ field ∈ pairFields vs, ¬ c.fields.Maps field "from_" := by
  induction h with
  | nil => simp [pairFields]
  | @cons v q vs qs hq _ ih =>
    obtain ⟨field, values, key, hpair, hkey, rfl⟩ := hq
    have hunder := Query.under_id_iff hkey "terms" (Query.sentValue "terms" values)
    have hfirst : (∃ field' values', pairOf v = .ok (field', values') ∧
        (Leaf.terms key values).Under c.fields id "terms" field') ↔
          ¬ c.fields.Maps field "from_" := by
      constructor
      · rintro ⟨field', values', hpair', h⟩
        cases hpair.symm.trans hpair'
        exact hunder.mp h
      · intro h
        exact ⟨field, values, hpair, hunder.mpr h⟩
    rw [List.forall₂_cons, hfirst, ih, pairFields_cons hpair, List.forall_mem_cons]

/-- The location of a distance stands under the unchanged name of the field, unless that is
`from_`. -/
lemma nearby_id_iff {field location distance : Value} {key : String}
    (h : c.fields.Sends field key) :
    (∃ name parameters, c.fields.Maps field name ∧
        Leaf.nearby key location distance = .leaf "geo_distance" parameters ∧
        Table.get? (· == ·) (id name) parameters = some location) ↔
      ¬ c.fields.Maps field "from_" := by
  obtain ⟨name, hname, -, rfl⟩ := FieldMap.sends_iff.mp h
  obtain ⟨parameters, hleaf, hget, hothers⟩ := get?_nearby (Query.sentName name) location distance
  constructor
  · rintro ⟨name', parameters', hname', hleaf', hget'⟩ hfrom
    obtain rfl := hname.unique hname'
    obtain rfl := hname.unique hfrom
    obtain rfl := (Query.leaf.inj (hleaf.symm.trans hleaf')).2
    have hnone := hothers "from_" (by decide) (by decide)
    exact absurd (hnone.symm.trans hget') (by simp)
  · intro hfrom
    have hkept : Query.sentName name = name := by
      refine Query.sentName_eq_self_iff.mpr ?_
      rintro rfl
      exact hfrom hname
    rw [hkept] at hget
    exact ⟨name, parameters, hname, hleaf, hget⟩

/-- The clause of a constraint has the new names unchanged, unless one of them is `from_`. -/
theorem names_id_iff {x : Constraint} {q : Query} (h : c.Yields x q) :
    c.Names id q x ↔ ∀ field ∈ c.keyFields x, ¬ c.fields.Maps field "from_" := by
  cases h with
  | equals h => exact iff_forall_keyFields rfl (Query.under_id_iff h "term" _)
  | notEquals h => exact iff_forall_keyFields rfl (Query.under_id_iff h "term" _)
  | notIn h => exact iff_forall_keyFields rfl (Query.under_id_iff h "terms" _)
  | inRange h => exact iff_forall_keyFields rfl (Query.under_id_iff h "range" _)
  | notInRange h => exact iff_forall_keyFields rfl (Query.under_id_iff h "range" _)
  | termsAny h =>
    exact iff_forall_keyFields rfl (exists_anyOf_iff.trans (Query.under_id_iff h "terms" _))
  | @whereOr terms vs qs hvs hqs =>
    rw [keyFields, batchFields_of_elements hvs, ← pairs_id_iff hqs]
    simp [Names, hvs, Query.anyOf]
  | textMatch h => exact iff_forall_keyFields rfl (Query.under_id_iff h "match" _)
  | textMismatch h => exact iff_forall_keyFields rfl (Query.under_id_iff h "match" _)
  | geoDistance hd h => exact iff_forall_keyFields rfl (nearby_id_iff h)
  | @named field operatorName arguments v q h hq =>
    constructor
    · intro hnames f hf
      obtain ⟨rfl, s, hs⟩ := mem_keyFields_named.mp hf
      obtain ⟨key, hkey, rfl⟩ := exists_sends_of_standard hs h hq
      exact (Query.under_id_iff hkey s.type _).mp (exists_anyOf_iff.mp (hnames s hs))
    · intro hfields s hs
      obtain ⟨key, hkey, rfl⟩ := exists_sends_of_standard hs h hq
      refine exists_anyOf_iff.mpr ((Query.under_id_iff hkey s.type _).mpr ?_)
      exact hfields field (mem_keyFields_named.mpr ⟨rfl, s, hs⟩)
  | present _ => simp [Names, keyFields]
  | absent _ => simp [Names, keyFields]
  | simpleQueryString _ => simp [Names, keyFields]
  | queryString _ => simp [Names, keyFields]

/-! ## Queries that are compiled -/

/-- A constraint with a field that is the name of a parameter has a clause. -/
lemma resolves_of_mem_keyFields {xs : List Constraint} {p : Clauses} (h : c.Collected xs p)
    {x : Constraint} (hx : x ∈ xs) {field : Value} (hfield : field ∈ c.keyFields x) :
    c.resolves x = true := by
  rcases hr : c.resolves x with _ | _
  · cases h.declines x hx hr with
    | @named field' operatorName arguments v hv hq =>
      obtain ⟨-, s, hs⟩ := mem_keyFields_named.mp hfield
      have hbuild : (s.build v arguments).map some = .ok none := by
        rw [Registry.create, hs] at hq
        exact hq
      obtain ⟨q, -, hnone⟩ := map_eq_ok_iff.mp hbuild
      exact absurd hnone (by simp)
  · rfl

/-- The constraints of a store that have a clause in a list, in the order of the clauses. -/
def contributors (c : Compiler) (s : Store) (slot : Slot) : List Constraint :=
  s.constraints.filter fun x => x.kind.slot = slot && c.resolves x

/-- In a query that is compiled, each leaf stands for a field of its constraint, and has the new
name of the field as it is sent.  All of them have the new names unchanged just when no new name
is `from_`; and different new names come under different names, unless they are `from_` and
`from`. -/
theorem compile_names {c : Compiler} {s : Store} {q : Query} (h : (c.compile s).result = .ok q) :
    ∃ p : Clauses, q = tree p ∧
      (∀ slot, List.Forall₂ (fun x q => c.Names Query.sentName q x) (c.contributors s slot)
        (p.inSlot slot)) ∧
      ((∀ slot, List.Forall₂ (fun x q => c.Names id q x) (c.contributors s slot)
          (p.inSlot slot)) ↔
        ∀ x ∈ s.constraints, ∀ field ∈ c.keyFields x, ¬ c.fields.Maps field "from_") ∧
      ∀ a b : String, Query.sentName a = Query.sentName b ↔
        a = b ∨ (a = "from_" ∧ b = "from") ∨ (a = "from" ∧ b = "from_") := by
  obtain ⟨p, hp, rfl⟩ := collected_of_compile h
  have hyields : ∀ slot, List.Forall₂ c.Yields (c.contributors s slot) (p.inSlot slot) :=
    fun slot => hp.yields slot
  refine ⟨p, rfl, fun slot => (hyields slot).imp fun _ _ => names_of_yields, ?_,
    fun _ _ => Query.sentName_inj_iff⟩
  constructor
  · intro hnames x hx field hfield
    have hmem : x ∈ c.contributors s x.kind.slot := by
      simp [contributors, hx, resolves_of_mem_keyFields hp hx hfield]
    have hboth := (hyields x.kind.slot).mp (fun _ _ hy hn => And.intro hy hn) (hnames x.kind.slot)
    obtain ⟨q, -, hy, hn⟩ := exists_of_mem_forall₂ hboth hmem
    exact (names_id_iff hy).mp hn field hfield
  · intro hfrom slot
    have hall : ∀ x ∈ c.contributors s slot,
        ∀ field ∈ c.keyFields x, ¬ c.fields.Maps field "from_" :=
      fun x hx => hfrom x (List.mem_filter.mp hx).1
    refine ((List.forall₂_and_left _ _).mpr ⟨hall, hyields slot⟩).imp ?_
    rintro x q ⟨hx, hy⟩
    exact (names_id_iff hy).mpr hx

/-- `compile_names` at a store with a field that is renamed, and one that is called like the
distance next to it: their names are unchanged. -/
theorem compile_names_distance :
    let c : Compiler := ⟨.standard, ⟨[(.str "a", .str "b__c")]⟩, .bool false⟩
    let x := Constraint.textMatch (.str "a") .null
    let y := Constraint.geoDistance (.str "distance") (.str "1,2") (.str "5km") .null
    let s := ((Store.empty .null).add x).add y
    let q := tree ⟨[], [], [Leaf.textMatch "b__c" .null,
      .leaf "geo_distance" [("distance", .str "1,2")]]⟩
    (c.compile s).result = .ok q ∧
    ∃ p : Clauses, q = tree p ∧ ∀ slot,
      List.Forall₂ (fun x q => c.Names id q x) (c.contributors s slot) (p.inSlot slot) := by
  intro c x y s q
  have hq : (c.compile s).result = .ok q := rfl
  obtain ⟨p, hp, -, hunchanged, -⟩ := compile_names hq
  refine ⟨hq, p, hp, hunchanged.mpr ?_⟩
  have hs : s.constraints = [x, y] := rfl
  have ha : c.fields.Maps (.str "a") "b__c" := ⟨_, rfl, rfl⟩
  have hdistance : c.fields.Maps (.str "distance") "distance" := ⟨_, rfl, rfl⟩
  simp only [hs, List.forall_mem_cons, x, y, keyFields]
  refine ⟨⟨?_, by simp⟩, ⟨?_, by simp⟩, by simp⟩
  · intro h
    exact absurd (ha.unique h) (by decide)
  · intro h
    exact absurd (hdistance.unique h) (by decide)

/-- Fields of the names `from_` and `from` are sent under the same name, and the first of them not
under its own. -/
theorem from_merged :
    let c : Compiler := ⟨.empty, .empty, .bool false⟩
    let x := Constraint.equals (.str "from_") (.int 1) (.int 1)
    let y := Constraint.equals (.str "from") (.int 2) (.int 1)
    let leaf (value : Value) := Leaf.term "from" value (.int 1)
    (c.compile (((Store.empty .null).add x).add y)).result =
      .ok (tree ⟨[leaf (.int 1), leaf (.int 2)], [], []⟩) ∧
    c.fields.Maps (.str "from_") "from_" ∧ c.fields.Maps (.str "from") "from" ∧
    ¬ c.Names id (leaf (.int 1)) x := by
  intro c x y leaf
  have hsends : c.fields.Sends (.str "from_") "from" := ⟨_, "from_", rfl, rfl, by decide, rfl⟩
  refine ⟨rfl, ⟨_, rfl, rfl⟩, ⟨_, rfl, rfl⟩, ?_⟩
  intro hnames
  exact (Query.under_id_iff hsends "term" _).mp hnames ⟨_, rfl, rfl⟩

end Compiler
end Criteria
