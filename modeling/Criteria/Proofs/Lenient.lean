/-
# Lenient compilation

A lenient compiler that knows the standard operators takes almost everything, once the fields
are texts: neither unknown operators nor most values stop it.  But where a field is the name of a
parameter, its new name can be one that a parameter cannot have, and an integer that is to be
joined to a unit can have too many digits.  Either of these makes the compilation end with a fault
of its own, and nothing else does.

* `Hinges`: a result that is there unless some faults stop it; such results can be put together.
* `FieldMap.Free`: a field whose new name can be the name of a parameter.
* `Constraint.Plain`, `Request.Plain` and `Step.Plain`: what has texts as its fields.
* `Constraint.Measurable`: a distance that can be joined to its unit.
* `Compiler.Lenient`: the compilers that this is about, and `Compiler.Stops`: the faults that can
  stop them at a constraint; `Compiler.Lenient.hinges_contribution` is what they make of one
  constraint, and `Compiler.Lenient.hinges_compile` of all constraints of a store.
* `Session.compile_lenient`: the statement for all runs of a builder, and
  `Session.compile_lenient_self`: a lenient compilation that fails.
-/
import Criteria.Proofs.FieldKeys
import Criteria.Proofs.FieldNames
import Criteria.Proofs.Registering

namespace Criteria

/-! ## Results that can be stopped -/

/-- The fault `e` can stop a computation, unless the condition holds. -/
def Fault.Unless (e : Fault) (P : Prop) (e' : Fault) : Prop := e' = e ∧ ¬ P

lemma Fault.not_unless {e : Fault} {P : Prop} (hP : P) (e' : Fault) : ¬ e.Unless P e' :=
  fun h => h.2 hP

/-- No fault stops a computation just when the condition holds. -/
lemma Fault.forall_not_unless {e : Fault} {P : Prop} : (∀ e', ¬ e.Unless P e') ↔ P :=
  ⟨fun h => not_not.mp fun hP => h e ⟨rfl, hP⟩, Fault.not_unless⟩

/-- Two conditions against the same fault are one. -/
lemma Fault.unless_and {e e' : Fault} {P Q : Prop} :
    e.Unless (P ∧ Q) e' ↔ e.Unless P e' ∨ e.Unless Q e' := by
  simp only [Fault.Unless, not_and_or, and_or_left]

lemma Fault.unless_forall {α : Type} {e e' : Fault} {xs : List α} {P : α → Prop} :
    e.Unless (∀ x ∈ xs, P x) e' ↔ ∃ x ∈ xs, e.Unless (P x) e' := by
  simp only [Fault.Unless, not_forall, exists_prop]
  constructor
  · rintro ⟨he, x, hx, hP⟩
    exact ⟨x, hx, he, hP⟩
  · rintro ⟨x, hx, he, hP⟩
    exact ⟨he, x, hx, hP⟩

/-- The result is there if no fault stops it, and otherwise its fault is one that does. -/
structure Hinges {α : Type} (r : Except Fault α) (Stops : Fault → Prop) : Prop where
  free : ∀ a, r = .ok a → ∀ e, ¬ Stops e
  stops : ∀ e, r = .error e → Stops e

namespace Hinges

variable {α β : Type} {r : Except Fault α} {S T : Fault → Prop}

lemma of_ok {a : α} (h : r = .ok a) (hS : ∀ e, ¬ S e) : Hinges r S where
  free _ _ := hS
  stops _ he := absurd (h.symm.trans he) (by simp)

lemma of_error {e : Fault} (h : r = .error e) (hS : S e) : Hinges r S where
  free _ ha := absurd (h.symm.trans ha) (by simp)
  stops e' he := by
    cases h.symm.trans he
    exact hS

lemma congr (h : Hinges r S) (hST : ∀ e, S e ↔ T e) : Hinges r T := by
  rwa [← funext fun e => propext (hST e)]

lemma ok_iff (h : Hinges r S) : (∃ a, r = .ok a) ↔ ∀ e, ¬ S e := by
  constructor
  · rintro ⟨a, ha⟩
    exact h.free a ha
  · intro hnone
    rcases hr : r with e | a
    · exact absurd (h.stops e hr) (hnone e)
    · exact ⟨a, rfl⟩

lemma map (h : Hinges r S) (f : α → β) : Hinges (r.map f) S := by
  rcases hr : r with e | a
  · exact of_error rfl (h.stops e hr)
  · exact of_ok rfl (h.free a hr)

/-- Of two results in a row each can be stopped. -/
lemma bind (h : Hinges r S) {f : α → Except Fault β} (hf : ∀ a, Hinges (f a) T) :
    Hinges (r >>= f) fun e => S e ∨ T e := by
  rcases hr : r with e | a
  · exact of_error rfl (.inl (h.stops e hr))
  · refine ⟨?_, ?_⟩
    · intro b hb e he
      exact he.elim (h.free a hr e) ((hf a).free b hb e)
    · intro e he
      exact .inr ((hf a).stops e he)

/-- What comes after a result and is always there does not matter. -/
lemma bind_ok (h : Hinges r S) {f : α → Except Fault β} (hf : ∀ a, ∃ b, f a = .ok b) :
    Hinges (r >>= f) S := by
  have hnever : ∀ a, Hinges (f a) fun _ => False := by
    intro a
    obtain ⟨b, hb⟩ := hf a
    exact of_ok hb fun _ => id
  exact (h.bind hnever).congr fun e => or_iff_left id

end Hinges

/-! ## Names of parameters -/

lemma Table.exists_mem_of_get? {κ α : Type} {same : κ → κ → Bool} {t : Table κ α} {k : κ} {a : α}
    (h : t.get? same k = some a) : ∃ e ∈ t, e.2 = a := by
  induction t with
  | nil => simp [get?] at h
  | cons e t ih =>
    rw [get?] at h
    split at h
    · exact ⟨e, by simp, Option.some.inj h⟩
    · obtain ⟨e', he', ha⟩ := ih h
      exact ⟨e', by simp [he'], ha⟩

lemma exists_mapM {α β : Type} {f : α → Except Fault β} {xs : List α}
    (h : ∀ x ∈ xs, ∃ y, f x = .ok y) : ∃ ys, xs.mapM f = .ok ys := by
  induction xs with
  | nil => exact ⟨[], rfl⟩
  | cons x xs ih =>
    obtain ⟨y, hy⟩ := h x (by simp)
    obtain ⟨ys, hys⟩ := ih fun x' hx' => h x' (by simp [hx'])
    exact ⟨y :: ys, by simp [hy, hys, bind, Except.bind, pure, Except.pure]⟩

namespace FieldMap

variable {m : FieldMap} {field : Value}

/-- The new name of the field can be the name of a parameter. -/
def Free (m : FieldMap) (field : Value) : Prop :=
  ∀ name, m.Maps field name → name ∉ Query.forbiddenNames

lemma Maps.free_iff {name : String} (h : m.Maps field name) :
    m.Free field ↔ name ∉ Query.forbiddenNames := by
  constructor
  · intro hfree
    exact hfree name h
  · intro hname name' h'
    rwa [h'.unique h]

/-- A field that is a text can be looked up. -/
lemma exists_find (hfield : field.text?.isSome) : ∃ v, m.find field = .ok v :=
  ⟨_, if_pos (Value.isKey_of_isSome_text? hfield)⟩

lemma exists_findAll {fields : Value} {vs : List Value} (hvs : fields.elements? = some vs)
    (htexts : ∀ v ∈ vs, v.text?.isSome) : ∃ names, m.findAll fields = .ok names := by
  rw [findAll, hvs]
  exact exists_mapM fun v hv => m.exists_find (htexts v hv)

/-- Among texts each field has a new name. -/
lemma exists_maps (hm : AreTexts m.names) (hfield : field.text?.isSome) :
    ∃ name, m.Maps field name := by
  have hfind : ∃ v, m.find field = .ok v ∧ v.text?.isSome := by
    rw [find, if_pos (Value.isKey_of_isSome_text? hfield)]
    rcases h : Table.get? Value.same field m.names with _ | v
    · exact ⟨field, rfl, hfield⟩
    · obtain ⟨e, he, rfl⟩ := Table.exists_mem_of_get? h
      exact ⟨e.2, rfl, (hm e he).2⟩
  obtain ⟨v, hv, htext⟩ := hfind
  obtain ⟨name, hname⟩ := Option.isSome_iff_exists.mp htext
  exact ⟨name, v, hv, hname⟩

end FieldMap

namespace Query

lemma hinges_parameterName {v : Value} {name : String} (h : v.text? = some name) :
    Hinges (parameterName v) (Fault.wrongType.Unless (name ∉ forbiddenNames)) := by
  by_cases hname : name ∈ forbiddenNames
  · refine .of_error ?_ ⟨rfl, not_not_intro hname⟩
    simp [parameterName, h, hname]
  · exact .of_ok (parameterName_eq_ok_iff.mpr ⟨name, h, hname, rfl⟩) (Fault.not_unless hname)

/-- A query with a field as its only parameter is there if the field can be the name of one. -/
lemma hinges_ofField {type : String} (ht : types.contains type = true) (hs : shapes type = [])
    {field : Value} {name : String} (h : field.text? = some name) (v : Value) :
    Hinges (ofField type field v) (Fault.wrongType.Unless (name ∉ forbiddenNames)) := by
  have hsent : Hinges (sentParameters type [(field, v)])
      (Fault.wrongType.Unless (name ∉ forbiddenNames)) :=
    (hinges_parameterName h).bind_ok fun _ => ⟨_, rfl⟩
  rw [ofField, if_pos (Value.isKey_of_text? h), ofParameters_of_plain ht hs]
  exact (hsent.map _).map _

end Query

/-! ## Standard operators -/

/-- What the standard registry knows by a text, or by nothing, is a standard constructor. -/
lemma Registry.find_standard {name : Value} (h : name = .null ∨ name.text?.isSome) :
    Registry.standard.find name = .ok none ∨
      ∃ s, Registry.standard.find name = .ok (some (.standard s)) := by
  have hkey : ∃ key, Name.keyOfValue name = .ok key := by
    rcases h with rfl | h
    · exact ⟨_, rfl⟩
    · obtain ⟨s, hs⟩ := Option.isSome_iff_exists.mp h
      exact ⟨_, Name.keyOfValue_of_text hs⟩
  obtain ⟨key, hkey⟩ := hkey
  have hfind : Registry.standard.find name =
      .ok ((latest (initial true) key).map Prod.snd) := by
    rw [find, hkey]
    simp [Except.map, Tells.standard.get?_eq, Function.comp_def]
  rw [hfind]
  rcases hlatest : latest (initial true) key with _ | e
  · exact .inl rfl
  · have hmem : e ∈ initial true := List.mem_reverse.mp (List.mem_of_find?_eq_some hlatest)
    obtain ⟨s, -, rfl⟩ := List.mem_map.mp hmem
    exact .inr ⟨s, rfl⟩

/-! ## Plain constraints -/

/-- The fields are texts, the name of an operator is a text or nothing, and a unit is a unit of
distances or nothing. -/
def Constraint.Plain : Constraint → Prop
  | .equals field _ _ | .notEquals field _ _ | .notIn field _ | .inRange field _ _
  | .notInRange field _ _ | .termsAny field _ | .present field | .absent field
  | .textMatch field _ | .textMismatch field _ | .simpleQueryString field _ _ =>
    field.text?.isSome
  | .whereOr terms => ∃ vs, terms.elements? = some vs ∧
      ∀ v ∈ vs, ∃ field values, Compiler.pairOf v = .ok (field, values) ∧ field.text?.isSome
  | .geoDistance field _ _ unit => field.text?.isSome ∧ (unit = .null ∨ ∃ u, unit = .unit u)
  | .queryString fields _ _ _ => ∃ vs, fields.elements? = some vs ∧ ∀ v ∈ vs, v.text?.isSome
  | .namedConditionOr field operatorName _ =>
    field.text?.isSome ∧ (operatorName = .null ∨ operatorName.text?.isSome)

/-- What is asked for has texts as its fields, in the same way. -/
def Request.Plain : Request → Prop
  | .equals field _ _ | .notEquals field _ _ | .notIn field _ | .inRange field _ _
  | .notInRange field _ _ | .termsAny field _ | .present field | .absent field
  | .textMatch field _ | .textMismatch field _ | .simpleQueryString field _ _ =>
    field.text?.isSome
  | .whereOr mapping => ∀ entries, mapping = .dict entries → ∀ e ∈ entries, e.1.text?.isSome
  | .geoDistance field _ _ unit =>
    field.text?.isSome ∧ (unit.getD .null = .null ∨ ∃ u, unit = some (.unit u))
  | .queryString fields _ _ _ => ∀ vs, fields.elements? = some vs → ∀ v ∈ vs, v.text?.isSome
  | .namedConditionOr field operatorName _ =>
    field.text?.isSome ∧ (operatorName = .null ∨ operatorName.text?.isSome)

/-- A call that is not refused has texts as its fields. -/
def Step.Plain : Step → Prop
  | .request kind args => ∀ r, Request.ofArguments kind args = .ok r → r.Plain
  | .offer o => ∀ x, o.constraint? = .ok x → x.Plain
  | _ => True

/-- The pairs of a dictionary with texts as keys have texts as their fields. -/
lemma Request.plain_pairs {mapping terms : Value}
    (h : ∀ entries, mapping = .dict entries → ∀ e ∈ entries, e.1.text?.isSome)
    (hterms : pairs mapping = .ok terms) : (Constraint.whereOr terms).Plain := by
  unfold pairs at hterms
  split at hterms
  · rename_i entries
    cases hterms
    refine ⟨_, rfl, ?_⟩
    intro v hv
    obtain ⟨e, he, rfl⟩ := List.mem_map.mp hv
    exact ⟨e.1, e.2, rfl, h entries rfl e he⟩
  · split at hterms
    · cases hterms
    · cases hterms
      exact ⟨[], rfl, by simp⟩

/-- The fields of a query string are texts if they are a text or a sequence of texts. -/
lemma Request.plain_fieldList {fields list : Value}
    (h : ∀ vs, fields.elements? = some vs → ∀ v ∈ vs, v.text?.isSome)
    (hlist : fieldList fields = .ok list) :
    ∃ vs, list.elements? = some vs ∧ ∀ v ∈ vs, v.text?.isSome := by
  unfold fieldList at hlist
  split at hlist
  · cases hlist
    exact ⟨[], rfl, by simp⟩
  · split at hlist
    · rename_i s htext
      cases hlist
      exact ⟨[fields], rfl, by simp [htext]⟩
    · rename_i vs _ hvs
      cases hlist
      exact ⟨vs, rfl, h vs hvs⟩
    · cases hlist

lemma Request.Plain.constraint {r : Request} (h : r.Plain) {b : Value} {x : Constraint}
    (hx : r.constraint b = .ok x) : x.Plain := by
  cases r with
  | whereOr mapping =>
    obtain ⟨terms, hterms, rfl⟩ := map_eq_ok_iff.mp hx
    exact plain_pairs h hterms
  | queryString fields defaultOperator keyword escape =>
    obtain ⟨list, hlist, hx⟩ := bind_eq_ok_iff.mp hx
    cases hx
    exact plain_fieldList h hlist
  | geoDistance field location distance unit =>
    cases hx
    refine ⟨h.1, h.2.imp_right ?_⟩
    rintro ⟨u, rfl⟩
    exact ⟨u, rfl⟩
  | _ =>
    cases hx
    exact h

/-- What a plain step adds is plain. -/
lemma Step.Plain.accepted {s : Step} (h : s.Plain) {b : Value} {x : Constraint}
    (hx : s.accepted b = some x) : x.Plain := by
  cases s with
  | request kind args =>
    obtain ⟨r, hr, hx⟩ := accepted_request_iff.mp hx
    exact (h r hr).constraint hx
  | offer o => exact h x (accepted_offer_iff.mp hx)
  | _ => cases hx

/-! ## Distances -/

/-- The distance can be joined to the unit: it is no number, or one that can be written. -/
def Value.Measurable : Value → Value → Prop
  | .num n, .unit _ => n.isWritable = true
  | _, _ => True

/-- A distance with a unit can be joined to it. -/
def Constraint.Measurable : Constraint → Prop
  | .geoDistance _ _ distance unit => distance.Measurable unit
  | _ => True

/-- Nothing but its digits stops a distance in a unit of distances. -/
lemma Value.hinges_toDistance {unit : Value} (hunit : unit = .null ∨ ∃ u, unit = .unit u)
    (distance : Value) :
    Hinges (distance.toDistance unit)
      ((Fault.tooManyDigits none).Unless (distance.Measurable unit)) := by
  rcases hunit with rfl | ⟨u, rfl⟩
  · have hgiven : distance.toDistance .null = .ok distance := by cases distance <;> rfl
    have hmeasurable : distance.Measurable .null := by cases distance <;> trivial
    exact .of_ok hgiven (Fault.not_unless hmeasurable)
  · cases distance with
    | num n =>
      have hjoined : ∃ s, (Value.num n).toDistance (.unit u) = n.whenWritable s := by
        cases n <;> exact ⟨_, rfl⟩
      obtain ⟨s, hs⟩ := hjoined
      by_cases h : n.isWritable = true
      · exact .of_ok (hs.trans (Number.whenWritable_of_isWritable h)) (Fault.not_unless h)
      · exact .of_error (hs.trans (Number.whenWritable_of_not_isWritable h)) ⟨rfl, h⟩
    | _ => exact .of_ok rfl (Fault.not_unless trivial)

namespace Compiler

/-- A compiler that skips unknown operators, knows the standard ones and has texts as the new
names of fields. -/
structure Lenient (c : Compiler) : Prop where
  registry : c.registry = .standard
  fields : FieldMap.AreTexts c.fields.names
  strict : c.strict.truthy = false

/-- The faults that can stop a lenient compiler at a constraint. -/
def Stops (c : Compiler) (x : Constraint) (e : Fault) : Prop :=
  Fault.wrongType.Unless (∀ field ∈ c.keyFields x, c.fields.Free field) e ∨
    (Fault.tooManyDigits none).Unless x.Measurable e

section Stops

variable {c : Compiler} {x : Constraint} {α : Type} {r : Except Fault α}

/-- Only its fields stop a constraint whose distance, if it has one, can be joined to its unit. -/
lemma hinges_stops (hx : x.Measurable)
    (h : Hinges r (Fault.wrongType.Unless (∀ field ∈ c.keyFields x, c.fields.Free field))) :
    Hinges r (c.Stops x) :=
  h.congr fun e => (or_iff_left (Fault.not_unless hx e)).symm

lemma hinges_stops_of_field {field : Value} (hx : x.Measurable) (hfield : c.keyFields x = [field])
    (h : Hinges r (Fault.wrongType.Unless (c.fields.Free field))) : Hinges r (c.Stops x) := by
  refine hinges_stops hx ?_
  rwa [hfield, List.forall_mem_singleton]

lemma hinges_stops_of_ok {a : α} (hx : x.Measurable) (hfields : c.keyFields x = [])
    (h : r = .ok a) : Hinges r (c.Stops x) :=
  hinges_stops hx (.of_ok h (Fault.not_unless (by simp [hfields])))

end Stops

namespace Lenient

variable {c : Compiler}

/-! ## Leaves -/

/-- A leaf with a field as its only parameter. -/
lemma hinges_leaf (h : c.Lenient) {type : String} (ht : Query.types.contains type = true)
    (hs : Query.shapes type = []) {field : Value} (hfield : field.text?.isSome) (v : Value) :
    Hinges (c.fields.find field >>= fun f => Query.ofField type f v)
      (Fault.wrongType.Unless (c.fields.Free field)) := by
  obtain ⟨name, hmaps⟩ := FieldMap.exists_maps h.fields hfield
  obtain ⟨f, hf, hname⟩ := hmaps
  rw [hf, FieldMap.Maps.free_iff ⟨f, hf, hname⟩]
  exact Query.hinges_ofField ht hs hname v

/-- The distance is written before the field is looked up. -/
lemma hinges_nearby (h : c.Lenient) {field unit : Value} (hfield : field.text?.isSome)
    (hunit : unit = .null ∨ ∃ u, unit = .unit u) (location distance : Value) :
    Hinges (c.nearby field location distance unit) fun e =>
      (Fault.tooManyDigits none).Unless (distance.Measurable unit) e ∨
        Fault.wrongType.Unless (c.fields.Free field) e := by
  obtain ⟨name, hmaps⟩ := FieldMap.exists_maps h.fields hfield
  obtain ⟨f, hf, hname⟩ := hmaps
  have hkey : f.isKey = true := Value.isKey_of_text? hname
  rw [nearby]
  refine (Value.hinges_toDistance hunit distance).bind fun d => ?_
  simp only [hf, bind, Except.bind, hkey, if_true]
  rw [Query.ofParameters_of_plain (by decide) rfl, Query.leafParameters, sentParameters_nearby,
    FieldMap.Maps.free_iff ⟨f, hf, hname⟩]
  exact (((Query.hinges_parameterName hname).map _).map _).map _

lemma hinges_termsOfPairs (h : c.Lenient) {vs : List Value}
    (hvs : ∀ v ∈ vs, ∃ field values, pairOf v = .ok (field, values) ∧ field.text?.isSome) :
    Hinges (c.termsOfPairs vs)
      (Fault.wrongType.Unless (∀ field ∈ pairFields vs, c.fields.Free field)) := by
  induction vs with
  | nil => exact .of_ok rfl (Fault.not_unless (by simp [pairFields]))
  | cons v vs ih =>
    obtain ⟨field, values, hpair, hfield⟩ := hvs v (by simp)
    have hfirst : Hinges (c.terms field values) (Fault.wrongType.Unless (c.fields.Free field)) :=
      h.hinges_leaf (by decide) rfl hfield values
    have hrest := ih fun w hw => hvs w (by simp [hw])
    rw [pairFields_cons hpair, List.forall_mem_cons, termsOfPairs, hpair]
    exact (hfirst.bind fun q => hrest.bind_ok fun _ => ⟨_, rfl⟩).congr fun _ =>
      Fault.unless_and.symm

/-- The query that the registry creates hinges on the field only if there is a constructor. -/
lemma hinges_create (h : c.Lenient) {field operatorName v : Value} (hfield : field.text?.isSome)
    (hname : operatorName = .null ∨ operatorName.text?.isSome) (hv : c.fields.find field = .ok v)
    (arguments : Value) :
    Hinges (c.registry.create operatorName v arguments) (Fault.wrongType.Unless
      (∀ f ∈ c.keyFields (.namedConditionOr field operatorName arguments), c.fields.Free f)) := by
  have hcreate : c.registry.create operatorName v arguments =
      Registry.standard.create operatorName v arguments := by rw [h.registry]
  rw [hcreate, Registry.create]
  rcases Registry.find_standard hname with hnone | ⟨s, hs⟩
  · rw [hnone]
    refine .of_ok rfl (Fault.not_unless ?_)
    simp [keyFields, h.registry, hnone]
  · have hfields : c.keyFields (.namedConditionOr field operatorName arguments) = [field] := by
      simp [keyFields, h.registry, hs]
    have hbuild := h.hinges_leaf s.contains_type s.shapes_type hfield arguments
    rw [hv] at hbuild
    rw [hs, hfields, List.forall_mem_singleton]
    exact hbuild.map some

/-- A condition for which there is no query is skipped. -/
lemma hinges_named (h : c.Lenient) {field operatorName : Value} (hfield : field.text?.isSome)
    (hname : operatorName = .null ∨ operatorName.text?.isSome) (arguments : Value) :
    Hinges (c.named field operatorName arguments) (Fault.wrongType.Unless
      (∀ f ∈ c.keyFields (.namedConditionOr field operatorName arguments), c.fields.Free f)) := by
  obtain ⟨v, hv⟩ := c.fields.exists_find hfield
  rw [named, hv]
  refine (h.hinges_create hfield hname hv arguments).bind_ok ?_
  rintro (_ | q)
  · exact ⟨.skipped operatorName field, by simp [h.strict, pure, Except.pure]⟩
  · exact ⟨_, rfl⟩

/-- What a constraint contributes is there if those of its fields that are names of parameters can
be such, and if its distance can be joined to its unit. -/
lemma hinges_contribution (h : c.Lenient) {x : Constraint} (hx : x.Plain) :
    Hinges (c.contribution x) (c.Stops x) := by
  cases x with
  -- a leaf with the field as its only parameter
  | equals | notEquals | notIn | inRange | notInRange | textMatch | textMismatch =>
    exact hinges_stops_of_field trivial rfl ((h.hinges_leaf (by decide) rfl hx _).map _)
  | termsAny field values =>
    have hterms : Hinges (c.terms field values) (Fault.wrongType.Unless (c.fields.Free field)) :=
      h.hinges_leaf (by decide) rfl hx values
    exact hinges_stops_of_field trivial rfl ((hterms.map _).map _)
  | whereOr terms =>
    obtain ⟨vs, hvs, hpairs⟩ := hx
    have halternatives := h.hinges_termsOfPairs hpairs
    rw [← batchFields_of_elements hvs] at halternatives
    rw [contribution, alternatives, hvs]
    exact hinges_stops trivial ((halternatives.map _).map _)
  | namedConditionOr field operatorName arguments =>
    exact hinges_stops trivial (h.hinges_named hx.1 hx.2 arguments)
  -- the distance stands next to the field
  | geoDistance field location distance unit =>
    have hnearby := h.hinges_nearby hx.1 hx.2 location distance
    refine (hnearby.map _).congr fun e => ?_
    rw [Stops, keyFields, List.forall_mem_singleton, or_comm]
    rfl
  -- the field is a value
  | present field | absent field =>
    obtain ⟨v, hv⟩ := c.fields.exists_find hx
    exact hinges_stops_of_ok trivial rfl
      (map_eq_ok_iff.mpr ⟨_, c.presence_eq_ok_iff.mpr ⟨v, hv, rfl⟩, rfl⟩)
  | simpleQueryString field keyword escape =>
    obtain ⟨v, hv⟩ := c.fields.exists_find hx
    exact hinges_stops_of_ok trivial rfl
      (map_eq_ok_iff.mpr ⟨_, c.simpleQueryString_eq_ok_iff.mpr ⟨v, hv, rfl⟩, rfl⟩)
  | queryString fields defaultOperator keyword escape =>
    obtain ⟨vs, hvs, htexts⟩ := hx
    obtain ⟨names, hnames⟩ := c.fields.exists_findAll hvs htexts
    exact hinges_stops_of_ok trivial rfl
      (map_eq_ok_iff.mpr ⟨_, c.queryString_eq_ok_iff.mpr ⟨names, hnames, rfl⟩, rfl⟩)

/-! ## Several constraints -/

lemma hinges_gathered (h : c.Lenient) {x : Constraint} (hx : x.Plain) :
    Hinges (c.gathered x).result (c.Stops x) := by
  have hresult : (c.gathered x).result = (c.contribution x).map fun
      | .clause slot q => Clauses.none.push slot q
      | .skipped _ _ => .none := by
    rw [gathered]
    rcases c.contribution x with e | ⟨slot, q⟩ | ⟨operatorName, field⟩ <;> rfl
  rw [hresult]
  exact (h.hinges_contribution hx).map _

/-- Each constraint has its say in what is collected. -/
lemma hinges_collect (h : c.Lenient) {xs : List Constraint} (hxs : ∀ x ∈ xs, x.Plain) :
    Hinges (c.collect xs).result fun e => ∃ x ∈ xs, c.Stops x e := by
  induction xs with
  | nil => exact .of_ok rfl (by simp)
  | cons x xs ih =>
    have hfirst := h.hinges_gathered (hxs x (by simp))
    have hrest := ih fun y hy => hxs y (by simp [hy])
    simp only [List.exists_mem_cons_iff]
    rw [collect_cons, Outcome.result_join]
    exact hfirst.bind fun p => hrest.map _

lemma hinges_compile (h : c.Lenient) {s : Store} (hs : ∀ x ∈ s.constraints, x.Plain) :
    Hinges (c.compile s).result fun e =>
      Fault.wrongType.Unless
        (∀ x ∈ s.constraints, ∀ field ∈ c.keyFields x, c.fields.Free field) e ∨
      (Fault.tooManyDigits none).Unless (∀ x ∈ s.constraints, x.Measurable) e := by
  rw [result_compile]
  refine ((h.hinges_collect hs).map tree).congr fun e => ?_
  simp only [Stops, and_or_left, exists_or, Fault.unless_forall]

end Lenient
end Compiler

/-! ## Runs of a builder -/

namespace Session

/-- What is live has been added by one of the steps. -/
lemma exists_step_of_mem_live {b : Value} {steps : List Step} {k : Kind} {x : Constraint}
    (h : x ∈ live b steps k) : ∃ s ∈ steps, s.accepted b = some x := by
  have hhistory : x ∈ history b steps := by
    rw [live] at h
    split at h
    · exact (List.mem_filter.mp (List.mem_of_getLast? (Option.mem_toList.mp h))).1
    · exact (List.mem_filter.mp h).1
  obtain ⟨s, hs, hx⟩ := List.mem_filterMap.mp hhistory
  exact ⟨s, (List.rtakeWhile_suffix _ _).subset hs, hx⟩

/-- Whatever steps a builder has gone through, as long as the new names of fields are texts and
what is asked for has texts as its fields: without strictness a query is compiled just when no
live constraint has a field whose new name is forbidden as the name of a parameter, and each live
distance can be joined to its unit.  Otherwise the fault is that of a wrong type, and there is such
a field, or that of too many digits, and there is such a distance. -/
theorem compile_lenient (config : Config) (fields : FieldMap) (steps : List Step)
    (hstrict : config.strictOperators.truthy = false) (hfields : FieldMap.AreTexts fields.names)
    (hsteps : ∀ x ∈ steps, x.Plain) :
    let s := ((⟨.builder (.new config .standard fields), none⟩ : Session).run steps).1
    let c : Compiler := ⟨.standard, fields, config.strictOperators⟩
    let answer := (s.step .compile).2.result
    let Allowed := ∀ k, ∀ x ∈ live config.defaultBoost steps k, ∀ field ∈ c.keyFields x,
      fields.Free field
    let Measured := ∀ k, ∀ x ∈ live config.defaultBoost steps k, x.Measurable
    ((∃ q, answer = .ok (.query q)) ↔ Allowed ∧ Measured) ∧
    ∀ e, answer = .error e →
      (e = .wrongType ∧ ¬ Allowed) ∨ (e = .tooManyDigits none ∧ ¬ Measured) := by
  intro s c answer Allowed Measured
  have hget : ∀ k, s.subject.store.get k = live config.defaultBoost steps k :=
    get_run _ (fun _ => rfl) steps
  have hcompiler : s.subject.compiler = c := compiler_run _ steps
  have hlenient : c.Lenient := ⟨rfl, hfields, hstrict⟩
  have hlive : ∀ P : Constraint → Prop, (∀ x ∈ s.subject.store.constraints, P x) ↔
      ∀ k, ∀ x ∈ live config.defaultBoost steps k, P x := by
    intro P
    simp only [Store.constraints, hget, List.mem_flatMap, Kind.mem_all, true_and,
      forall_exists_index]
    exact forall_comm
  have hplain : ∀ x ∈ s.subject.store.constraints, x.Plain := by
    rw [hlive]
    intro k x hx
    obtain ⟨step, hstep, hx⟩ := exists_step_of_mem_live hx
    exact (hsteps step hstep).accepted hx
  have hanswer : answer = (c.compile s.subject.store).result.map .query := by
    rw [← hcompiler]
    rfl
  have hcompile := (hlenient.hinges_compile hplain).map Answer.query
  simp only [hlive] at hcompile
  rw [← hanswer] at hcompile
  refine ⟨?_, hcompile.stops⟩
  calc (∃ q, answer = .ok (.query q)) ↔ ∃ a, answer = .ok a := by simp [hanswer, map_eq_ok_iff]
    _ ↔ Allowed ∧ Measured := by
      simp only [hcompile.ok_iff, not_or, forall_and, Fault.forall_not_unless]
      rfl

/-- `compile_lenient` at a field map that takes one forbidden name away and brings another: as the
name of a parameter the first is renamed, and the second is no such name.  So it depends on the
distance whether there is a query. -/
theorem compile_lenient_renamed :
    let fields : FieldMap := ⟨[(.str "self", .str "own"), (.str "a", .str "self")]⟩
    let steps (n : Nat) : List Step := [
      .request .equals [("field", .str "self"), ("value", .int 1)],
      .request .present [("field", .str "a")],
      .request .geoDistance [("field", .str "b"), ("location", .str "1,2"), ("distance", .int n),
        ("unit", .unit .metres)]]
    let s (n : Nat) :=
      ((⟨.builder (.new .standard .standard fields), none⟩ : Session).run (steps n)).1
    Config.standard.strictOperators.truthy = false ∧ FieldMap.AreTexts fields.names ∧
    (∀ n, ∀ x ∈ steps n, x.Plain) ∧
    (∃ q, ((s 15).step .compile).2.result = .ok (.query q)) ∧
    ((s (Nat.pow 10 Fault.digitLimit)).step .compile).2.result = .error (.tooManyDigits none) := by
  intro fields steps s
  have hfields : FieldMap.AreTexts fields.names := by simp [fields, FieldMap.AreTexts]
  have hsteps : ∀ n, ∀ x ∈ steps n, x.Plain := by
    intro n
    simp only [steps, List.forall_mem_cons]
    refine ⟨?_, ?_, ?_, by simp⟩
    · intro r hr
      cases hr
      rfl
    · intro r hr
      cases hr
      rfl
    · intro r hr
      cases hr
      exact ⟨rfl, .inr ⟨_, rfl⟩⟩
  have hlive : ∀ n k, ∀ x ∈ live Config.standard.defaultBoost (steps n) k,
      (∃ boost, x = .equals (.str "self") (.int 1) boost) ∨ x = .present (.str "a") ∨
        x = .geoDistance (.str "b") (.str "1,2") (.int n) (.unit .metres) := by
    intro n k x hx
    obtain ⟨step, hstep, hx⟩ := exists_step_of_mem_live hx
    simp only [steps, List.mem_cons, List.not_mem_nil, or_false] at hstep
    rcases hstep with rfl | rfl | rfl <;> cases hx
    · exact .inl ⟨_, rfl⟩
    · exact .inr (.inl rfl)
    · exact .inr (.inr rfl)
  have hallowed : ∀ n k, ∀ x ∈ live Config.standard.defaultBoost (steps n) k,
      ∀ field ∈ (⟨.standard, fields, .bool false⟩ : Compiler).keyFields x, fields.Free field := by
    intro n k x hx field hfield
    have hself : fields.Maps (.str "self") "own" := ⟨_, rfl, rfl⟩
    have hb : fields.Maps (.str "b") "b" := ⟨_, rfl, rfl⟩
    rcases hlive n k x hx with ⟨boost, rfl⟩ | rfl | rfl
    · obtain rfl := List.mem_singleton.mp hfield
      exact hself.free_iff.mpr (by decide)
    · exact absurd hfield (by simp [Compiler.keyFields])
    · obtain rfl := List.mem_singleton.mp hfield
      exact hb.free_iff.mpr (by decide)
  have hmeasured : ∀ n : Nat, (∀ k, ∀ x ∈ live Config.standard.defaultBoost (steps n) k,
      x.Measurable) ↔ n < Nat.pow 10 Fault.digitLimit := by
    intro n
    have hwritable : (Number.int n).isWritable = true ↔ n < Nat.pow 10 Fault.digitLimit :=
      Number.isWritable_int_iff_lt
    rw [← hwritable]
    constructor
    · intro h
      exact h .geoDistance _ (List.mem_singleton.mpr rfl)
    · intro hn k x hx
      rcases hlive n k x hx with ⟨boost, rfl⟩ | rfl | rfl
      · trivial
      · trivial
      · exact hn
  have hfew : ∃ q, ((s 15).step .compile).2.result = .ok (.query q) :=
    (compile_lenient .standard fields (steps 15) rfl hfields (hsteps 15)).1.mpr
      ⟨hallowed 15, (hmeasured 15).mpr (by decide +kernel)⟩
  have hmany : ∀ n, ¬ n < Nat.pow 10 Fault.digitLimit →
      ((s n).step .compile).2.result = .error (.tooManyDigits none) := by
    intro n hn
    obtain ⟨hcompiles, hfault⟩ := compile_lenient .standard fields (steps n) rfl hfields (hsteps n)
    rcases h : ((s n).step .compile).2.result with e | answer
    · obtain ⟨-, hforbidden⟩ | ⟨rfl, -⟩ := hfault e h
      · exact absurd (hallowed n) hforbidden
      · rfl
    · obtain ⟨q, -, rfl⟩ := map_eq_ok_iff.mp h
      exact absurd ((hmeasured n).mp (hcompiles.mp ⟨q, h⟩).2) hn
  exact ⟨rfl, hfields, hsteps, hfew, hmany _ (Nat.lt_irrefl _)⟩

/-- Without strictness and without a field map, the field `self` makes the compilation fail. -/
theorem compile_lenient_self :
    let s : Session := ⟨.builder (.new .standard .standard .empty), none⟩
    let x : Step := .request .equals [("field", .str "self"), ("value", .int 1)]
    Config.standard.strictOperators.truthy = false ∧ FieldMap.AreTexts FieldMap.empty.names ∧
    x.Plain ∧ (∃ a, (s.step x).2.result = .ok a) ∧
    ((s.step x).1.step .compile).2.result = .error .wrongType := by
  intro s x
  refine ⟨rfl, by simp [FieldMap.empty, FieldMap.AreTexts], ?_, ⟨_, rfl⟩, rfl⟩
  intro r hr
  cases hr
  rfl

end Session
end Criteria
