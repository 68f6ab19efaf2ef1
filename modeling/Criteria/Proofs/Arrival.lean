/-
# The order in which constraints arrive

A store keeps the constraints of each kind apart, and compilation goes through the kinds in an
order of its own.  So calls for constraints of different kinds can come in any order, and a batch
that is replaced later need not come at all.

* `Step.kind?`: the kind of constraint that a call asks for; `Step.kind?_of_accepted`: the
  constraint that is accepted is of that kind.
* `Session.Accepts`: a run of calls that do not fail; `Session.accepts_iff`: this does not depend
  on what is stored already.
* `Session.live_of_accepted`: what is live of a kind is known from the calls of that kind, and
  `Session.live_whereOr` from the last of them where they are batches.
* `Step.SameByKind`: two sequences of calls with the same calls of each kind, or the same last
  one of the batches; `Session.get_eq_of_sameByKind`: they leave the same constraints.
* `Session.compile_any_order`: the statement for all compilers.
-/
import Criteria.Proofs.Leaf
import Criteria.Proofs.Views

namespace Criteria

/-! ## Kinds of calls -/

lemma Constraint.kind_of_ofArguments {k : Kind} {args : Arguments} {c : Constraint}
    (h : Constraint.ofArguments k args = .ok c) : c.kind = k := by
  rw [Constraint.ofArguments, bind_eq_ok_iff] at h
  obtain ⟨-, -, h⟩ := h
  cases k <;> simp only [bind_eq_ok_iff, pure_eq_ok_iff] at h <;> grind [Constraint.kind]

lemma Request.kind_of_ofArguments {k : Kind} {args : Arguments} {r : Request}
    (h : Request.ofArguments k args = .ok r) : r.kind = k := by
  rw [Request.ofArguments, bind_eq_ok_iff] at h
  obtain ⟨-, -, h⟩ := h
  cases k <;> simp only [bind_eq_ok_iff, pure_eq_ok_iff] at h <;> grind [Request.kind]

namespace Step

variable {b : Value}

/-- The kind of constraint that a call asks for. -/
def kind? : Step → Option Kind
  | .request kind _ => some kind
  | .offer (.constraint kind _) => some kind
  | _ => none

/-- The calls of a kind, in the order in which they come. -/
def ofKind (k : Kind) (steps : List Step) : List Step := steps.filter (·.kind? = some k)

lemma kind?_of_accepted {x : Step} {c : Constraint} (h : x.accepted b = some c) :
    x.kind? = some c.kind := by
  cases x with
  | request kind args =>
    obtain ⟨r, hr, hc⟩ := accepted_request_iff.mp h
    rw [kind?, Request.kind_of_constraint hc, Request.kind_of_ofArguments hr]
  | offer o =>
    have hc : o.constraint? = .ok c := accepted_offer_iff.mp h
    cases o with
    | constraint kind args => rw [kind?, Constraint.kind_of_ofArguments hc]
    | _ => simp [Offer.constraint?] at hc
  | _ => simp [accepted] at h

/-- Two sequences of calls have the same calls of each kind, in the same order; of the batches, in
which each replaces the one before it, they have the same last one. -/
structure SameByKind (xs ys : List Step) : Prop where
  ofKind_eq : ∀ k, k ≠ .whereOr → ofKind k xs = ofKind k ys
  getLast?_eq : (ofKind .whereOr xs).getLast? = (ofKind .whereOr ys).getLast?

end Step

namespace Session

variable {b : Value} {steps : List Step}

/-! ## Runs of accepted calls -/

/-- All steps are calls that bring a constraint, and none of them fails. -/
def Accepts (s : Session) (steps : List Step) : Prop :=
  (∀ x ∈ steps, x.isIntake) ∧ ∀ o ∈ (s.run steps).2, ∃ a, o.result = .ok a

lemma accepts_cons (s : Session) (x : Step) (steps : List Step) :
    s.Accepts (x :: steps) ↔
      (x.isIntake ∧ ∃ a, (s.step x).2.result = .ok a) ∧ (s.step x).1.Accepts steps := by
  simp only [Accepts, run, List.forall_mem_cons]
  tauto

/-- Whether a call is accepted does not depend on the calls before it. -/
lemma accepts_iff (s : Session) (steps : List Step) :
    s.Accepts steps ↔ ∀ x ∈ steps, ∃ c, x.accepted s.subject.store.defaultBoost = some c := by
  induction steps generalizing s with
  | nil => simp [Accepts, run]
  | cons x steps ih =>
    rw [accepts_cons, ih, defaultBoost_step, ← accepted_iff, List.forall_mem_cons]

/-! ## What accepted calls leave -/

/-- Without a reset the history is all that was accepted. -/
lemma history_of_accepted (h : ∀ x ∈ steps, ∃ c, x.accepted b = some c) :
    history b steps = steps.filterMap (·.accepted b) := by
  have hself : steps.rtakeWhile (!·.isReset) = steps := by
    refine List.rtakeWhile_eq_self_iff.mpr ?_
    intro x hx
    obtain ⟨c, hc⟩ := h x hx
    cases x <;> simp [Step.isReset, Step.accepted] at hc ⊢
  rw [history, hself]

lemma filter_kind_accepted (h : ∀ x ∈ steps, ∃ c, x.accepted b = some c) (k : Kind) :
    (steps.filterMap (·.accepted b)).filter (·.kind = k) =
      (Step.ofKind k steps).filterMap (·.accepted b) := by
  rw [Step.ofKind, List.filter_filterMap, List.filterMap_filter]
  refine List.filterMap_congr ?_
  intro x hx
  obtain ⟨c, hc⟩ := h x hx
  by_cases hk : c.kind = k <;> simp [hc, Step.kind?_of_accepted hc, hk]

lemma live_of_accepted (h : ∀ x ∈ steps, ∃ c, x.accepted b = some c) {k : Kind}
    (hk : k ≠ .whereOr) :
    live b steps k = (Step.ofKind k steps).filterMap (·.accepted b) := by
  have hkeeps : k.replaces = false := by simp [Kind.replaces, hk]
  simp [live, hkeeps, history_of_accepted h, filter_kind_accepted h]

/-- Of the batches the last one is live, if there is any. -/
lemma live_whereOr (h : ∀ x ∈ steps, ∃ c, x.accepted b = some c) :
    live b steps .whereOr =
      ((Step.ofKind .whereOr steps).getLast?.bind (·.accepted b)).toList := by
  have hreplaces : Kind.whereOr.replaces = true := rfl
  have hlast : ((Step.ofKind .whereOr steps).filterMap (·.accepted b)).getLast? =
      (Step.ofKind .whereOr steps).getLast?.bind (·.accepted b) := by
    rcases List.eq_nil_or_concat (Step.ofKind .whereOr steps) with hnil | ⟨before, x, hx⟩
    · rw [hnil]
      rfl
    · have hmem : x ∈ steps := by
        have : x ∈ Step.ofKind .whereOr steps := by simp [hx]
        exact (List.mem_filter.mp this).1
      obtain ⟨c, hc⟩ := h x hmem
      simp [hx, hc]
  simp [live, hreplaces, history_of_accepted h, filter_kind_accepted h, hlast]

/-- Calls that are the same by kind leave the same constraints of each kind. -/
theorem get_eq_of_sameByKind {s t : Session} (hs : s.subject.Fresh) (ht : t.subject.Fresh)
    (hboost : s.subject.store.defaultBoost = t.subject.store.defaultBoost) {xs ys : List Step}
    (hxs : s.Accepts xs) (hys : t.Accepts ys) (h : Step.SameByKind xs ys) :
    (s.run xs).1.subject.store.get = (t.run ys).1.subject.store.get := by
  rw [accepts_iff] at hxs hys
  rw [← hboost] at hys
  funext k
  rw [get_run s hs.get_eq, get_run t ht.get_eq, ← hboost]
  by_cases hk : k = .whereOr
  · subst hk
    rw [live_whereOr hxs, live_whereOr hys, h.getLast?_eq]
  · rw [live_of_accepted hxs hk, live_of_accepted hys hk, h.ofKind_eq k hk]

end Session

/-! ## What is compiled of it -/

/-- A compiler sees of a store no more than the constraints of each kind. -/
lemma Compiler.compile_congr (c : Compiler) {s t : Store} (h : s.get = t.get) :
    c.compile s = c.compile t := by
  have hsize : s.size = t.size := by rw [Store.size, Store.size, h]
  have hconstraints : s.constraints = t.constraints := by
    rw [Store.constraints, Store.constraints, h]
  rw [compile_eq, compile_eq, hconstraints]
  simp only [finished, hsize]

/-- Two subjects with the same default boost that have accepted the same calls of each kind, and
the same batch as the last, hold as many constraints of each kind, and every compiler makes the
same of both: the same query or the same fault, with the same log. -/
theorem Session.compile_any_order {s t : Session} (hs : s.subject.Fresh) (ht : t.subject.Fresh)
    (hboost : s.subject.store.defaultBoost = t.subject.store.defaultBoost) {xs ys : List Step}
    (hxs : s.Accepts xs) (hys : t.Accepts ys) (h : Step.SameByKind xs ys) :
    let store := (s.run xs).1.subject.store
    let store' := (t.run ys).1.subject.store
    (∀ c : Compiler, c.compile store = c.compile store') ∧ store.size = store'.size ∧
      ∀ k, (store.get k).length = (store'.get k).length := by
  intro store store'
  have hget : store.get = store'.get := get_eq_of_sameByKind hs ht hboost hxs hys h
  refine ⟨fun c => c.compile_congr hget, ?_, ?_⟩
  · rw [Store.size, Store.size, hget]
  · intro k
    rw [hget]

/-- `compile_any_order` at a builder with two batches, the first of which is replaced, and at a
store with the second batch only, which comes before all others. -/
theorem Session.compile_any_order_replaced :
    let c : Compiler := ⟨.empty, .empty, .bool false⟩
    let s : Session := ⟨.builder (.new .standard .empty .empty), none⟩
    let t : Session := ⟨.separate (.empty (.num .one)) c, none⟩
    let named : Step := .request .namedConditionOr
      [("field", .str "a"), ("operator_name", .str "near"), ("arguments", .null)]
    let present : Step := .request .present [("field", .str "a")]
    let batch (terms : Value) : Step := .offer (.constraint .whereOr [("terms", terms)])
    let xs := [named, batch (.tuple [.null]), present, batch (.tuple []), present]
    let ys := [batch (.tuple []), present, named, present]
    s.Accepts xs ∧ t.Accepts ys ∧ Step.SameByKind xs ys ∧
    c.compile (s.run xs).1.subject.store = c.compile (t.run ys).1.subject.store ∧
    (s.run xs).1.subject.store.get .whereOr = [.whereOr (.tuple [])] := by
  intro c s t named present batch xs ys
  have hs : s.subject.Fresh := .builder .standard .empty .empty
  have ht : t.subject.Fresh := .separate (.num .one) c
  have hxs : s.Accepts xs := by
    refine (accepts_iff s xs).mpr ?_
    simp only [xs, List.forall_mem_cons]
    exact ⟨⟨_, rfl⟩, ⟨_, rfl⟩, ⟨_, rfl⟩, ⟨_, rfl⟩, ⟨_, rfl⟩, by simp⟩
  have hys : t.Accepts ys := by
    refine (accepts_iff t ys).mpr ?_
    simp only [ys, List.forall_mem_cons]
    exact ⟨⟨_, rfl⟩, ⟨_, rfl⟩, ⟨_, rfl⟩, ⟨_, rfl⟩, by simp⟩
  have hcalls : Step.SameByKind xs ys := by
    refine ⟨?_, rfl⟩
    intro k hk
    cases k <;> first | exact absurd rfl hk | rfl
  obtain ⟨hcompile, -, -⟩ := compile_any_order hs ht rfl hxs hys hcalls
  exact ⟨hxs, hys, hcalls, hcompile c, rfl⟩

end Criteria
