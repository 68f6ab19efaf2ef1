/-
# Boosts above zero

The settings of a builder are accepted if their default boost is a number that is not zero or
less.  Not-a-number is neither, so it is accepted too, although it does not lie above zero.  These
are all the default boosts that stand in for a boost that counts as nothing, in whatever call and
after whatever run.

* `Number.Positive`: numbers above zero; `Number.le_zero_eq_false_iff`: which numbers are not zero
  or less.
* `Config.check_eq_ok_iff`: the settings that are accepted.
* `Session.live_append`: a constraint stays at its place in what is live of its kind.
* `Session.fallback_boost`: the clause that is compiled of a call whose boost counts as nothing, and
  `Session.fallback_boost_nan`: a boost that does not lie above zero.
-/
import Criteria.Proofs.Boosts

namespace Criteria

/-! ## Numbers above zero -/

namespace Number

/-- The number lies above zero; not-a-number does not. -/
def Positive (n : Number) : Prop :=
  n.value? = some .posInf ∨ ∃ u, n.value? = some (.units u) ∧ 0 < u

variable {n : Number}

lemma value?_eq_none_iff : n.value? = none ↔ n = .real .nan := by
  rcases n with b | m | (_ | s | ⟨s, u⟩) <;> simp [value?]

lemma value?_zero : value? (.int 0) = some (.units 0) := by simp [value?]

/-- What is not zero or less lies above zero or is not-a-number. -/
lemma le_zero_eq_false_iff : n.le (.int 0) = false ↔ n.Positive ∨ n = .real .nan := by
  rw [le, value?_zero, Positive, ← value?_eq_none_iff]
  rcases n.value? with _ | _ | u | _ <;> simp [Extended.le]

lemma isZero_eq_false_of_le (h : n.le (.int 0) = false) : n.isZero = false := by
  rw [← Bool.not_eq_true, isZero_iff]
  intro hzero
  rw [le, value?_zero, hzero] at h
  simp [Extended.le] at h

lemma not_positive_nan : ¬ Positive (.real .nan) := by
  simp [Positive, value?]

end Number

/-! ## Settings that are accepted -/

/-- Settings are accepted, as they are, if their default boost lies above zero, and also if it is
not-a-number. -/
lemma Config.check_eq_ok_iff {c c' : Config} :
    c.check = .ok c' ↔
      c' = c ∧ ∃ n, c.defaultBoost = .num n ∧ (n.Positive ∨ n = .real .nan) := by
  unfold check
  cases hboost : c.defaultBoost with
  | num n =>
    simp only [Value.num.injEq, exists_eq_left', ← Number.le_zero_eq_false_iff]
    cases hle : n.le (.int 0) with
    | true => simp
    | false =>
      have htruthy : (Value.num n).truthy = true := by
        rw [Value.truthy, Number.isZero_eq_false_of_le hle]
        rfl
      simp [htruthy, eq_comm]
  -- a value that is no number is refused, as one that counts as nothing or for its type
  | _ =>
    refine iff_of_false ?_ (by simp)
    split <;> simp

/-! ## Places in a list -/

/-- What stands at a place of a list is related to what stands at the same place of the other. -/
lemma exists_getElem?_of_forall₂ {α β : Type} {R : α → β → Prop} {xs ys : List α} {x : α}
    {zs : List β} (h : List.Forall₂ R (xs ++ x :: ys) zs) :
    ∃ z, zs[xs.length]? = some z ∧ R x z := by
  obtain ⟨hlength, hget⟩ := List.forall₂_iff_get.mp h
  have hlt : xs.length < (xs ++ x :: ys).length := by simp
  have hlt' : xs.length < zs.length := hlength ▸ hlt
  refine ⟨zs.get ⟨_, hlt'⟩, by simp, ?_⟩
  simpa using hget xs.length hlt hlt'

namespace Session

/-- Until the next reset a constraint stays at its place among the live ones of its kind, unless
constraints of the kind take the place of each other. -/
lemma live_append {b : Value} {x : Step} {y : Constraint} (hy : x.accepted b = some y)
    (hkeeps : y.kind.replaces = false) (before after : List Step)
    (hafter : ∀ z ∈ x :: after, z.isReset = false) :
    ∃ rest, live b (before ++ x :: after) y.kind = live b before y.kind ++ y :: rest := by
  induction after using List.reverseRecOn with
  | nil =>
    refine ⟨[], ?_⟩
    rw [live_concat, hafter x (by simp), hy]
    simp [hkeeps]
  | append_singleton after z ih =>
    obtain ⟨rest, hrest⟩ := ih fun z' hz' => hafter z' (by simp at hz' ⊢; tauto)
    have hsplit : before ++ x :: (after ++ [z]) = (before ++ x :: after) ++ [z] := by simp
    rw [hsplit, live_concat, hafter z (by simp), hrest]
    rcases z.accepted b with _ | y'
    · exact ⟨rest, rfl⟩
    · by_cases hk : y'.kind = y.kind
      · exact ⟨rest ++ [y'], by simp [hk, hkeeps]⟩
      · exact ⟨rest, by simp [hk]⟩

lemma accepted_comparison (b : Value) (negated : Bool) (field : Value)
    (value boost : Option Value) :
    (Step.comparison negated field value boost).accepted b =
      some (.comparison negated field (value.getD .null) (Request.coerceBoost b boost)) := by
  cases negated <;> cases value <;> cases boost <;> rfl

end Session

/-! ## Clauses of comparisons -/

namespace Compiler

variable {c : Compiler}

/-- Comparisons come first in the list that their clauses go to. -/
lemma LaidOut.comparisons {view : Kind → List Constraint} {p : Clauses} (h : c.LaidOut view p)
    (negated : Bool) :
    ∃ others, List.Forall₂ c.Yields (view (if negated then .notEquals else .equals) ++ others)
      (p.inSlot (.comparison negated)) := by
  cases negated with
  | false =>
    have hmust := h.must
    simp only [List.append_assoc] at hmust
    exact ⟨_, hmust⟩
  | true =>
    have hmustNot := h.mustNot
    simp only [List.append_assoc] at hmustNot
    exact ⟨_, hmustNot⟩

end Compiler

/-! ## All runs -/

namespace Session

open Compiler (tree)

/-- Settings are accepted, so their default boost is a number.  After any run of a builder with
these settings, a comparison or its exclusion is asked for with a boost that counts as nothing, and
then any other steps are taken, but no reset.  The clause of this call in the query that is then
compiled, which stands behind those of the same calls before it, carries the default boost; and
this number lies above zero, unless it is not-a-number. -/
theorem fallback_boost {given config : Config} (hconfig : given.check = .ok config)
    (registry : Registry) (fields : FieldMap) (before after : List Step)
    (hafter : ∀ x ∈ after, x.isReset = false) (negated : Bool) (field : Value)
    (value : Option Value) {boost : Value} (hboost : boost.truthy = false) {q : Query}
    (hq : (((⟨.builder (.new config registry fields), none⟩ : Session).run
      (before ++ .comparison negated field value (some boost) :: after)).1.step
        .compile).2.result = .ok (.query q)) :
    let earlier := live config.defaultBoost before (if negated then .notEquals else .equals)
    ∃ (n : Number) (p : Clauses) (name : String),
      config.defaultBoost = .num n ∧ q = tree p ∧ fields.Sends field name ∧
      (p.inSlot (.comparison negated))[earlier.length]? =
        some (Leaf.term name (value.getD .null) (.num n)) ∧
      (n.Positive ↔ n ≠ .real .nan) := by
  intro earlier
  obtain ⟨rfl, n, hn, hpositive⟩ := Config.check_eq_ok_iff.mp hconfig
  set start : Session := ⟨.builder (.new config registry fields), none⟩
  set call := Step.comparison negated field value (some boost)
  set x := Constraint.comparison negated field (value.getD .null) (.num n)
  have haccepted : call.accepted config.defaultBoost = some x := by
    rw [accepted_comparison, Request.coerceBoost_of_not_truthy _ hboost, hn]
  have hkind : x.kind = if negated then .notEquals else .equals := Constraint.kind_comparison ..
  have hkeeps : x.kind.replaces = false := by rw [hkind]; cases negated <;> rfl
  have hcall : call.isReset = false := by cases negated <;> rfl
  -- the call has its place in the view of the store
  obtain ⟨rest, hrest⟩ := live_append haccepted hkeeps before after
    (List.forall_mem_cons.mpr ⟨hcall, hafter⟩)
  rw [hkind] at hrest
  obtain ⟨p, hp, rfl⟩ := Compiler.collected_of_compile (result_compile_of_step hq)
  obtain ⟨others, hothers⟩ := hp.laidOut.comparisons negated
  have hview := get_run start (fun _ => rfl) (before ++ call :: after)
    (if negated then .notEquals else .equals)
  have hboost' : start.subject.store.defaultBoost = config.defaultBoost := rfl
  rw [hview, hboost', hrest, List.append_assoc, List.cons_append] at hothers
  obtain ⟨l, hl, hyields⟩ := exists_getElem?_of_forall₂ hothers
  obtain ⟨name, hname, rfl⟩ := hyields.eq_term
  have hcompiler : (start.run (before ++ call :: after)).1.subject.compiler =
      ⟨registry, fields, config.strictOperators⟩ := compiler_run start _
  rw [hcompiler] at hname
  refine ⟨n, p, name, hn, rfl, hname, hl, ?_⟩
  constructor
  · rintro hn' rfl
    exact Number.not_positive_nan hn'
  · exact hpositive.resolve_right

/-- `fallback_boost` at a default boost of the truth value, for an exclusion that comes behind
another one and before a call that fails. -/
theorem fallback_boost_true :
    let config : Config := ⟨.bool true, .bool false⟩
    let s : Session := ⟨.builder (.new config .empty .empty), none⟩
    let before : List Step := [.comparison true (.str "a") none (some (.int 2)), .compile]
    let after : List Step := [.request .present []]
    let p : Clauses :=
      ⟨[], [Leaf.term "a" .null (.int 2), Leaf.term "b" (.int 1) (.bool true)], []⟩
    config.check = .ok config ∧
    ((s.run (before ++ .comparison true (.str "b") (some (.int 1)) (some .null) :: after)).1.step
      .compile).2.result = .ok (.query (tree p)) ∧
    (∃ name, p.mustNot[1]? = some (Leaf.term name (.int 1) (.bool true))) ∧
    Number.Positive (.bool true) := by
  intro config s before after p
  have hpositive : Number.Positive (.bool true) := by
    refine .inr ⟨Binary64.unitsOfOne, rfl, ?_⟩
    exact_mod_cast Binary64.unitsOfOne_pos
  have hconfig : config.check = .ok config :=
    Config.check_eq_ok_iff.mpr ⟨rfl, _, rfl, .inl hpositive⟩
  have hafter : ∀ x ∈ after, x.isReset = false := by simp [after, Step.isReset]
  have hnothing : Value.null.truthy = false := rfl
  have hq : ((s.run (before ++ .comparison true (.str "b") (some (.int 1)) (some .null) ::
      after)).1.step .compile).2.result = .ok (.query (tree p)) := rfl
  obtain ⟨n, p', name, hn, hp, hname, hterm, hpositive'⟩ :=
    fallback_boost hconfig .empty .empty before after hafter true (.str "b") (some (.int 1))
      hnothing hq
  obtain rfl : p = p' := Compiler.tree_inj hp
  cases hn
  exact ⟨hconfig, hq, ⟨name, hterm⟩, hpositive'.mpr (by simp)⟩

/-- With not-a-number as the default boost the settings are accepted, and a comparison with a boost
of zero is compiled with a boost that does not lie above zero. -/
theorem fallback_boost_nan :
    let config : Config := ⟨.num (.real .nan), .bool false⟩
    let s : Session := ⟨.builder (.new config .standard .empty), none⟩
    let call := Step.comparison false (.str "a") (some (.int 1)) (some (.int 0))
    config.check = .ok config ∧
    ((s.run [call]).1.step .compile).2.result =
      .ok (.query (tree ⟨[Leaf.term "a" (.int 1) (.num (.real .nan))], [], []⟩)) ∧
    ¬ Number.Positive (.real .nan) := by
  intro config s call
  exact ⟨Config.check_eq_ok_iff.mpr ⟨rfl, _, rfl, .inr rfl⟩, rfl, Number.not_positive_nan⟩

end Session
end Criteria
