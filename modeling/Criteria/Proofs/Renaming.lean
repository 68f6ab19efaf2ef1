/-
# Renaming fields before compilation or in it

A compiler with a field map sends fields under new names.  The same comes of renaming the
fields in the store beforehand, wherever a constraint names one, and compiling with a map that
renames nothing.  The two runs differ only in the fields that they mention in warnings and in
the fault of an unsupported operator: the first mentions the caller's fields, the second their
new names.

* `Constraint.renamed` and `Store.renamed`: a constraint and a store with other names of fields.
* `Outcome.Renamed`: what the two runs have in common.
* `Compiler.contribution_renamed` and `Compiler.named_renamed`: the two runs at a constraint;
  `Compiler.collect_renamed` at a list of constraints; `Compiler.compile_renamed_of_find` at a
  store.
* `Compiler.compile_renamed`: the statement for a map that is set up from texts.
-/
import Criteria.Proofs.FieldNames
import Criteria.Proofs.Leaf

namespace Criteria

/-! ## Renamed constraints -/

/-- The elements of a sequence changed one by one.  What is no sequence stays as it is. -/
def Value.mapElements (f : Value → Value) (v : Value) : Value :=
  match v.elements? with
  | some vs => .tuple (vs.map f)
  | none => v

lemma Value.elements?_mapElements (f : Value → Value) (v : Value) :
    (v.mapElements f).elements? = v.elements?.map (List.map f) := by
  rcases h : v.elements? with _ | vs
  · rw [mapElements, h]
    exact h
  · rw [mapElements, h]
    rfl

/-- A pair of a field and some values, with another name of the field.  What is no pair stays as
it is. -/
def Compiler.renamedPair (ρ : Value → Value) (v : Value) : Value :=
  match pairOf v with
  | .ok (field, values) => .tuple [ρ field, values]
  | .error _ => v

lemma Compiler.pairOf_renamedPair (ρ : Value → Value) (v : Value) :
    pairOf (renamedPair ρ v) = (pairOf v).map fun p => (ρ p.1, p.2) := by
  rcases h : pairOf v with e | ⟨field, values⟩
  · rw [renamedPair, h]
    exact h
  · rw [renamedPair, h]
    rfl

/-- A constraint with other names of its fields: of its only field, of the field of each pair, or of
each of several fields. -/
def Constraint.renamed (ρ : Value → Value) : Constraint → Constraint
  | .equals field value boost => .equals (ρ field) value boost
  | .notEquals field value boost => .notEquals (ρ field) value boost
  | .notIn field values => .notIn (ρ field) values
  | .inRange field lower upper => .inRange (ρ field) lower upper
  | .notInRange field lower upper => .notInRange (ρ field) lower upper
  | .termsAny field values => .termsAny (ρ field) values
  | .whereOr terms => .whereOr (terms.mapElements (Compiler.renamedPair ρ))
  | .present field => .present (ρ field)
  | .absent field => .absent (ρ field)
  | .textMatch field keyword => .textMatch (ρ field) keyword
  | .textMismatch field keyword => .textMismatch (ρ field) keyword
  | .geoDistance field location distance unit => .geoDistance (ρ field) location distance unit
  | .simpleQueryString field keyword escape => .simpleQueryString (ρ field) keyword escape
  | .queryString fields defaultOperator keyword escape =>
    .queryString (fields.mapElements ρ) defaultOperator keyword escape
  | .namedConditionOr field operatorName arguments =>
    .namedConditionOr (ρ field) operatorName arguments

variable {ρ : Value → Value}

@[simp] lemma Constraint.kind_renamed (x : Constraint) : (x.renamed ρ).kind = x.kind := by
  cases x <;> rfl

/-! ## Renamed stores -/

namespace Groups

/-- Groups with other names of fields in all constraints. -/
def renamed (ρ : Value → Value) (g : Groups) : Groups :=
  g.map fun (k, xs) => (k, xs.map (·.renamed ρ))

lemma get_renamed (g : Groups) (k : Kind) : (g.renamed ρ).get k = (g.get k).map (·.renamed ρ) := by
  have hget : Table.get? (· == ·) k (g.renamed ρ) =
      (Table.get? (· == ·) k g).map (List.map (·.renamed ρ)) :=
    Table.get?_map id (List.map (Constraint.renamed ρ)) g k
  rw [get, get, hget]
  rcases Table.get? (· == ·) k g with _ | xs <;> rfl

lemma Proper.renamed {g : Groups} (h : g.Proper) (ρ : Value → Value) : (g.renamed ρ).Proper where
  kind_eq k x hx := by
    rw [get_renamed] at hx
    obtain ⟨y, hy, rfl⟩ := List.mem_map.mp hx
    rw [Constraint.kind_renamed]
    exact h.kind_eq k y hy
  length_le k hk := by
    rw [get_renamed, List.length_map]
    exact h.length_le k hk

end Groups

namespace Store

/-- A store with other names of fields in all constraints. -/
def renamed (ρ : Value → Value) (s : Store) : Store :=
  ⟨s.defaultBoost, s.groups.renamed ρ, s.proper.renamed ρ⟩

@[simp] lemma get_renamed (s : Store) (k : Kind) :
    (s.renamed ρ).get k = (s.get k).map (·.renamed ρ) := s.groups.get_renamed k

lemma constraints_renamed (s : Store) :
    (s.renamed ρ).constraints = s.constraints.map (·.renamed ρ) := by
  have hget : (s.renamed ρ).get = fun k => (s.get k).map (·.renamed ρ) := funext s.get_renamed
  rw [constraints, constraints, hget, List.map_flatMap]

lemma size_renamed (s : Store) : (s.renamed ρ).size = s.size := by
  rw [← length_constraints, ← length_constraints, constraints_renamed, List.length_map]

end Store

/-! ## What two runs have in common -/

/-- The note with another name of its field. -/
def Event.renamed (ρ : Value → Value) : Event → Event
  | .skipped operatorName field => .skipped operatorName (ρ field)
  | e => e

/-- The second fault is the first, but for the name of the field of an unsupported operator. -/
inductive Fault.Renamed (ρ : Value → Value) : Fault → Fault → Prop
  | same (e : Fault) : Renamed ρ e e
  | unsupportedOperator (operatorName field : Value) :
      Renamed ρ (.unsupportedOperator operatorName field)
        (.unsupportedOperator operatorName (ρ field))

/-- The second outcome is the first, but for the names of fields in the log and in the fault of
an unsupported operator. -/
inductive Outcome.Renamed {α : Type} (ρ : Value → Value) : Outcome α → Outcome α → Prop
  | ok (log : List Event) (a : α) :
      Renamed ρ ⟨log, .ok a⟩ ⟨log.map (·.renamed ρ), .ok a⟩
  | error (log : List Event) {e e' : Fault} (h : e.Renamed ρ e') :
      Renamed ρ ⟨log, .error e⟩ ⟨log.map (·.renamed ρ), .error e'⟩

namespace Outcome

lemma Renamed.join {a a' b b' : Outcome Clauses} (ha : a.Renamed ρ a') (hb : b.Renamed ρ b') :
    (a.join b).Renamed ρ (a'.join b') := by
  cases ha with
  | error log h => exact .error log h
  | ok log p =>
    cases hb with
    | ok log' p' =>
      have hok : Renamed ρ ⟨log ++ log', .ok (p.append p')⟩ _ := .ok _ _
      rwa [List.map_append] at hok
    | error log' h =>
      have herror : Renamed ρ ⟨log ++ log', .error _⟩ ⟨_, (.error _ : Except Fault Clauses)⟩ :=
        .error _ h
      rwa [List.map_append] at herror

/-- An outcome without notes is the same under any names. -/
lemma renamed_self {o : Outcome Clauses} (ho : o.log = []) : o.Renamed ρ o := by
  rcases o with ⟨log, e | p⟩
  · obtain rfl : log = [] := ho
    exact .error [] (.same e)
  · obtain rfl : log = [] := ho
    exact .ok [] p

end Outcome

namespace Compiler

section

-- The first map gives each field the name that the second gives to the renamed field.
variable {registry : Registry} {fields fields' : FieldMap} {strict : Value}
  (h : ∀ field, fields.find field = fields'.find (ρ field))

include h

/-! ## The two runs at a constraint -/

lemma findAll_renamed (v : Value) :
    fields'.findAll (v.mapElements ρ) = fields.findAll v := by
  rw [FieldMap.findAll, FieldMap.findAll, Value.elements?_mapElements]
  rcases v.elements? with _ | vs
  · rfl
  · have hfind : fields.find = fields'.find ∘ ρ := funext h
    simp only [Option.map_some, List.mapM_map, hfind]

lemma termsOfPairs_renamed (vs : List Value) :
    termsOfPairs ⟨registry, fields', strict⟩ (vs.map (renamedPair ρ)) =
      termsOfPairs ⟨registry, fields, strict⟩ vs := by
  induction vs with
  | nil => rfl
  | cons v vs ih =>
    rw [List.map_cons, termsOfPairs, termsOfPairs, ih, pairOf_renamedPair]
    rcases pairOf v with e | ⟨field, values⟩
    · rfl
    · simp only [Except.map, bind, Except.bind, terms, h]

lemma alternatives_renamed (terms : Value) :
    alternatives ⟨registry, fields', strict⟩ (terms.mapElements (renamedPair ρ)) =
      alternatives ⟨registry, fields, strict⟩ terms := by
  rw [alternatives, alternatives, Value.elements?_mapElements]
  rcases terms.elements? with _ | vs
  · rfl
  · exact termsOfPairs_renamed h vs

/-- A constraint without a named operator contributes the same in both runs. -/
lemma contribution_renamed {x : Constraint} (hx : x.kind ≠ .namedConditionOr) :
    contribution ⟨registry, fields', strict⟩ (x.renamed ρ) =
      contribution ⟨registry, fields, strict⟩ x := by
  cases x with
  | whereOr terms => simp only [Constraint.renamed, contribution, alternatives_renamed h]
  | queryString fields defaultOperator keyword escape =>
    simp only [Constraint.renamed, contribution, queryString, findAll_renamed h]
  | namedConditionOr field operatorName arguments => exact absurd rfl hx
  | _ =>
    simp only [Constraint.renamed, contribution, term, terms, range, presence, textMatch, nearby,
      simpleQueryString, h]

/-- A condition with a named operator contributes the same in both runs, or is refused or skipped
in both, each time under its own name. -/
lemma named_renamed (field operatorName arguments : Value) :
    let x : Constraint := .namedConditionOr field operatorName arguments
    (contribution ⟨registry, fields', strict⟩ (x.renamed ρ) =
        contribution ⟨registry, fields, strict⟩ x ∧
      ∃ slot q, contribution ⟨registry, fields, strict⟩ x = inSlot slot q) ∨
    (contribution ⟨registry, fields, strict⟩ x =
        .error (.unsupportedOperator operatorName field) ∧
      contribution ⟨registry, fields', strict⟩ (x.renamed ρ) =
        .error (.unsupportedOperator operatorName (ρ field))) ∨
    (contribution ⟨registry, fields, strict⟩ x = .ok (.skipped operatorName field) ∧
      contribution ⟨registry, fields', strict⟩ (x.renamed ρ) =
        .ok (.skipped operatorName (ρ field))) := by
  have hcreated : created ⟨registry, fields', strict⟩ (ρ field) operatorName arguments =
      created ⟨registry, fields, strict⟩ field operatorName arguments := by
    rw [created, created, h field]
  simp only [Constraint.renamed, named_eq, hcreated]
  rcases created ⟨registry, fields, strict⟩ field operatorName arguments with e | _ | q
  · exact .inl ⟨rfl, .must, .error e, rfl⟩
  · by_cases hs : strict.truthy
    · exact .inr (.inl ⟨by simp [hs], by simp [hs]⟩)
    · exact .inr (.inr ⟨by simp [hs], by simp [hs]⟩)
  · exact .inl ⟨rfl, .must, .ok (.anyOf [q]), rfl⟩

lemma gathered_renamed (x : Constraint) :
    (gathered ⟨registry, fields, strict⟩ x).Renamed ρ
      (gathered ⟨registry, fields', strict⟩ (x.renamed ρ)) := by
  by_cases hx : x.kind = .namedConditionOr
  · obtain ⟨field, operatorName, arguments, rfl⟩ := eq_namedConditionOr hx
    rcases named_renamed h field operatorName arguments
      with ⟨heq, hslot⟩ | ⟨herror, herror'⟩ | ⟨hskip, hskip'⟩
    · rw [gathered_congr heq]
      exact Outcome.renamed_self (gathered_log_of_inSlot _ hslot)
    · rw [gathered_error _ herror, gathered_error _ herror']
      exact .error [] (.unsupportedOperator operatorName field)
    · rw [gathered_skipped _ hskip, gathered_skipped _ hskip']
      exact .ok [.skipped operatorName field] Clauses.none
  · rw [gathered_congr (contribution_renamed h hx)]
    exact Outcome.renamed_self (gathered_log_of_inSlot _ (contribution_eq_inSlot _ hx))

/-- The two runs at a list of constraints. -/
lemma collect_renamed (xs : List Constraint) :
    (collect ⟨registry, fields, strict⟩ xs).Renamed ρ
      (collect ⟨registry, fields', strict⟩ (xs.map (·.renamed ρ))) := by
  induction xs with
  | nil => exact .ok [] Clauses.none
  | cons x xs ih => exact (gathered_renamed h x).join ih

/-! ## The two runs at a store -/

/-- Going through a store ends in the same way in both runs. -/
lemma compile_renamed_of_find (s : Store) :
    (compile ⟨registry, fields, strict⟩ s).Renamed ρ
      (compile ⟨registry, fields', strict⟩ (s.renamed ρ)) := by
  have hcollect : (collect ⟨registry, fields, strict⟩ s.constraints).Renamed ρ
      (collect ⟨registry, fields', strict⟩ (s.renamed ρ).constraints) := by
    rw [Store.constraints_renamed]
    exact collect_renamed h s.constraints
  rw [compile_eq, compile_eq]
  generalize collect ⟨registry, fields, strict⟩ s.constraints = o at hcollect ⊢
  generalize collect ⟨registry, fields', strict⟩ (s.renamed ρ).constraints = o' at hcollect ⊢
  cases hcollect with
  | error log he => exact .error log he
  | ok log p =>
    have hfinished : finished (s.renamed ρ) p = finished s p := by
      rw [finished, finished, Store.size_renamed]
    have hlast : [finished s p].map (·.renamed ρ) = [finished s p] := rfl
    have hok : Outcome.Renamed ρ ⟨log ++ [finished s p], .ok (tree p)⟩ _ := .ok _ _
    rw [List.map_append, hlast] at hok
    simpa only [Outcome.andThen, hfinished] using hok

end

/-- A warning is about a condition that is stored, under the field that it has there. -/
lemma exists_of_skipped_mem_collect {c : Compiler} {xs : List Constraint}
    {operatorName field : Value} (h : Event.skipped operatorName field ∈ (c.collect xs).log) :
    ∃ arguments, Constraint.namedConditionOr field operatorName arguments ∈ xs := by
  induction xs with
  | nil => simp at h
  | cons x xs ih =>
    have hmem : Event.skipped operatorName field ∈ (c.gathered x).log ++ (c.collect xs).log := by
      rw [collect_cons] at h
      rcases hg : c.gathered x with ⟨log, e | p⟩ <;> rw [hg] at h
      · exact List.mem_append_left _ h
      · exact h
    rcases List.mem_append.mp hmem with hx | hxs
    · rcases hc : c.contribution x with e | ⟨slot, q⟩ | ⟨operatorName', field'⟩
      · simp [c.gathered_error hc] at hx
      · simp [c.gathered_clause hc] at hx
      · simp only [c.gathered_skipped hc, List.mem_singleton] at hx
        obtain ⟨rfl, rfl⟩ := Event.skipped.inj hx
        obtain ⟨arguments, rfl⟩ := eq_of_skipped hc
        exact ⟨arguments, List.mem_cons_self⟩
    · obtain ⟨arguments, hargs⟩ := ih hxs
      exact ⟨arguments, List.mem_cons_of_mem x hargs⟩

/-- The same of the warnings about a store. -/
lemma exists_of_skipped_mem_compile {c : Compiler} {s : Store} {operatorName field : Value}
    (h : Event.skipped operatorName field ∈ (c.compile s).log) :
    ∃ arguments, Constraint.namedConditionOr field operatorName arguments ∈
      s.get .namedConditionOr := by
  have hwarning : Event.skipped operatorName field ∈ (c.compile s).warnings := by
    rw [Outcome.warnings, List.mem_filter]
    exact ⟨h, by simp [Event.severity]⟩
  rw [warnings_compile] at hwarning
  obtain ⟨arguments, hmem⟩ := exists_of_skipped_mem_collect hwarning
  obtain ⟨k, -, hk⟩ := List.mem_flatMap.mp hmem
  obtain rfl : Kind.namedConditionOr = k := Store.kind_eq_of_mem_get hk
  exact ⟨arguments, hk⟩

/-- A field map that is set up from texts renames the fields of a store like this: compilation
with the map and compilation of the renamed store without one have the same query, or both fail,
and the notes differ in the names of fields only.  The warnings of the compilation with the map
are about the fields that the conditions in the store have. -/
theorem compile_renamed (registry : Registry) (strict : Value) {args : List Arguments}
    {entries : List (Value × Value)}
    (hargs : args.mapM FieldMap.entryOfArguments = .ok entries)
    (htexts : FieldMap.AreTexts entries) (s : Store) :
    ∃ fields, FieldMap.ofArguments (args.map .ok) = .ok fields ∧
      let ρ := FieldMap.newName entries
      let mapped := compile ⟨registry, fields, strict⟩ s
      let renamed := compile ⟨registry, .empty, strict⟩ (s.renamed ρ)
      ((∃ q, mapped.result = .ok q ∧ renamed.result = .ok q) ∨
        (∃ e e', mapped.result = .error e ∧ renamed.result = .error e' ∧ e.Renamed ρ e')) ∧
      renamed.log = mapped.log.map (·.renamed ρ) ∧
      ∀ operatorName field, Event.skipped operatorName field ∈ mapped.log →
        ∃ arguments, Constraint.namedConditionOr field operatorName arguments ∈
          s.get .namedConditionOr := by
  obtain ⟨fields, hfields, hfind⟩ := FieldMap.find_ofArguments htexts hargs
  refine ⟨fields, hfields, ?_⟩
  intro ρ mapped renamed
  have hruns : mapped.Renamed ρ renamed := compile_renamed_of_find hfind s
  have hskipped : ∀ operatorName field, Event.skipped operatorName field ∈ mapped.log →
      ∃ arguments, Constraint.namedConditionOr field operatorName arguments ∈
        s.get .namedConditionOr := fun _ _ h => exists_of_skipped_mem_compile h
  generalize mapped = o at hruns hskipped ⊢
  generalize renamed = o' at hruns ⊢
  cases hruns with
  | ok log q => exact ⟨.inl ⟨q, rfl, rfl⟩, rfl, hskipped⟩
  | error log he => exact ⟨.inr ⟨_, _, rfl, rfl, he⟩, rfl, hskipped⟩

/-- `compile_renamed` at a map whose second entry is about the new name in the first, and a batch
whose pairs it does not merge.  The batch and the skipped condition about `a` are sent as `b`. -/
theorem compile_renamed_chain :
    let args : List Arguments := [[("field", .str "a"), ("es_field", .str "b")],
      [("field", .str "b"), ("es_field", .str "c")]]
    let entries : List (Value × Value) := [(.str "a", .str "b"), (.str "b", .str "c")]
    let ρ := FieldMap.newName entries
    let s := ((Store.empty .null).add (.whereOr (.tuple [.tuple [.str "a", .tuple []],
      .tuple [.str "b", .tuple []]]))).add (.namedConditionOr (.str "a") (.str "near") .null)
    args.mapM FieldMap.entryOfArguments = .ok entries ∧ FieldMap.AreTexts entries ∧
    ρ (.str "a") = .str "b" ∧
    ∃ fields, FieldMap.ofArguments (args.map .ok) = .ok fields ∧
      let mapped := compile ⟨.empty, fields, .bool false⟩ s
      let renamed := compile ⟨.empty, .empty, .bool false⟩ (s.renamed ρ)
      (∃ q, mapped.result = .ok q ∧ renamed.result = .ok q) ∧
      mapped.warnings = [.skipped (.str "near") (.str "a")] ∧
      renamed.warnings = [.skipped (.str "near") (.str "b")] := by
  intro args entries ρ s
  have htexts : FieldMap.AreTexts entries := by simp [entries, FieldMap.AreTexts, Value.text?]
  have hargs : args.mapM FieldMap.entryOfArguments = .ok entries := rfl
  obtain ⟨fields, hfields, hresults, -⟩ := compile_renamed .empty (.bool false) hargs htexts s
  obtain rfl := Except.ok.inj hfields
  refine ⟨hargs, htexts, rfl, _, rfl, ?_, rfl, rfl⟩
  rcases hresults with hok | ⟨e, e', herror, -⟩
  · exact hok
  · cases herror

end Compiler
end Criteria
