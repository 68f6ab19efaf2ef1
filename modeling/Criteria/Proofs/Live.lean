/-
# The live constraints of a session

The steps of a session that are accepted and add a constraint make up its history, which
starts anew with every reset.  A constraint of the history is live, unless it is a batch of
alternatives and a later batch has taken its place.

* `Session.history` are the constraints accepted since the last reset, and `Session.live`
  those of a kind that are live; both look at the steps only.
* `Session.store_step` is what one step does to the store, and `Session.compiler_step` that
  it leaves the compiler alone; `Session.request_ok_iff` and `Session.offer_ok_iff` say that
  the calls that fail are those whose constraint is not accepted.
* `Session.get_run`: after any steps, the store of a session that started empty holds under
  each kind what is live.
-/
import Mathlib.Data.List.DropRight
import Mathlib.Data.List.Induction
import Mathlib.Tactic.Common
import Criteria.Session

namespace Criteria

lemma toOption_eq_some_iff {α : Type} {r : Except Fault α} {a : α} :
    r.toOption = some a ↔ r = .ok a := by
  rcases r with e | a' <;> simp [Except.toOption]

namespace Step

/-- Whether a step removes all constraints. -/
def isReset : Step → Bool
  | .reset => true
  | _ => false

/-- The constraint that a step puts into a store with a default boost, if the step is
accepted. -/
def accepted (defaultBoost : Value) : Step → Option Constraint
  | .request kind args =>
    ((Request.ofArguments kind args).bind (·.constraint defaultBoost)).toOption
  | .offer o => o.constraint?.toOption
  | _ => none

lemma accepted_request_iff {kind : Kind} {args : Arguments} {b : Value} {x : Constraint} :
    (Step.request kind args).accepted b = some x ↔
      ∃ r, Request.ofArguments kind args = .ok r ∧ r.constraint b = .ok x := by
  rw [accepted, toOption_eq_some_iff]
  rcases Request.ofArguments kind args with e | r <;> simp [Except.bind]

lemma accepted_offer_iff {o : Offer} {b : Value} {x : Constraint} :
    (Step.offer o).accepted b = some x ↔ o.constraint? = .ok x := toOption_eq_some_iff

end Step

namespace Session

/-- The constraints accepted since the last reset, in the order in which they came. -/
def history (defaultBoost : Value) (steps : List Step) : List Constraint :=
  (steps.rtakeWhile (!·.isReset)).filterMap (·.accepted defaultBoost)

/-- The constraints of a kind that are live: all of the history, but only the last where a
constraint takes the place of the earlier ones. -/
def live (defaultBoost : Value) (steps : List Step) (k : Kind) : List Constraint :=
  let past := (history defaultBoost steps).filter (·.kind = k)
  if k.replaces then past.getLast?.toList else past

/-! ## What a step does -/

@[simp] lemma store_withStore (s : Session) (store : Store) :
    (s.withStore store).subject.store = store := by
  rcases s with ⟨b | ⟨s, c⟩, search⟩ <;> rfl

@[simp] lemma compiler_withStore (s : Session) (store : Store) :
    (s.withStore store).subject.compiler = s.subject.compiler := by
  rcases s with ⟨b | ⟨s, c⟩, search⟩ <;> rfl

/-- Making a search does not touch what the search is made from. -/
lemma subject_makeSearch (s : Session) (base : Base) :
    (s.makeSearch base).1.subject = s.subject := by
  rcases s with ⟨subject, search⟩
  rw [makeSearch]
  rcases base? ⟨subject, search⟩ base with e | base
  · rfl
  · rcases subject with b | ⟨store, c⟩
    · simp only
      split <;> rfl
    · rfl

/-- A step empties the store, or adds the constraint that is accepted, or leaves the store
as it is. -/
lemma store_step (s : Session) (x : Step) :
    (s.step x).1.subject.store =
      if x.isReset then s.subject.store.reset
      else ((x.accepted s.subject.store.defaultBoost).map s.subject.store.add).getD
        s.subject.store := by
  cases x with
  | request kind args =>
    simp only [step, Step.isReset, Step.accepted]
    rcases Request.ofArguments kind args with e | r
    · rfl
    · rcases hr : r.constraint s.subject.store.defaultBoost with e | x <;>
        simp [Store.request, Except.bind, hr, Except.map, change, Except.toOption]
  | offer o =>
    simp only [step, Step.isReset, Step.accepted, Store.offer]
    rcases o.constraint? with e | x
    · rfl
    · simp [Except.map, change, Except.toOption]
  | reset => simp [step, Step.isReset]
  | toSearch base => exact congrArg Subject.store (s.subject_makeSearch base)
  | _ => rfl

/-- A request succeeds just when its constraint is accepted. -/
theorem request_ok_iff (s : Session) (kind : Kind) (args : Arguments) :
    (∃ a, (s.step (.request kind args)).2.result = .ok a) ↔
      ∃ x, (Step.request kind args).accepted s.subject.store.defaultBoost = some x := by
  simp only [step, Step.accepted]
  rcases Request.ofArguments kind args with e | r
  · simp [Except.bind, change, Outcome.silent, Except.toOption]
  · rcases hr : r.constraint s.subject.store.defaultBoost with e | x <;>
      simp [Store.request, Except.bind, hr, Except.map, change, Outcome.silent, Except.toOption]

/-- The same of a constraint that is offered. -/
theorem offer_ok_iff (s : Session) (o : Offer) :
    (∃ a, (s.step (.offer o)).2.result = .ok a) ↔
      ∃ x, (Step.offer o).accepted s.subject.store.defaultBoost = some x := by
  simp only [step, Step.accepted, Store.offer]
  rcases o.constraint? with e | x <;>
    simp [Except.map, change, Outcome.silent, Except.toOption]

lemma compiler_step (s : Session) (x : Step) :
    (s.step x).1.subject.compiler = s.subject.compiler := by
  have hchange : ∀ r, (s.change r).1.subject.compiler = s.subject.compiler := by
    rintro (e | store)
    · rfl
    · exact s.compiler_withStore store
  cases x with
  | request kind args => exact hchange _
  | offer o => exact hchange _
  | reset => exact s.compiler_withStore _
  | toSearch base => exact congrArg Subject.compiler (s.subject_makeSearch base)
  | _ => rfl

lemma defaultBoost_step (s : Session) (x : Step) :
    (s.step x).1.subject.store.defaultBoost = s.subject.store.defaultBoost := by
  rw [store_step]
  split
  · rfl
  · rcases x.accepted s.subject.store.defaultBoost with _ | y <;> rfl

/-! ## What a step adds to the history -/

lemma history_concat (b : Value) (steps : List Step) (x : Step) :
    history b (steps ++ [x]) =
      if x.isReset then [] else history b steps ++ (x.accepted b).toList := by
  rw [history, List.rtakeWhile_concat]
  by_cases hx : x.isReset
  · simp [hx]
  · simp only [hx, Bool.not_false, if_true, Bool.false_eq_true, if_false, List.filterMap_append,
      history]
    rcases hy : x.accepted b with _ | y <;> simp [hy]

/-- The live constraints are renewed in the same way as the view of a store. -/
lemma live_concat (b : Value) (steps : List Step) (x : Step) (k : Kind) :
    live b (steps ++ [x]) k =
      if x.isReset then []
      else match x.accepted b with
        | some y =>
          if y.kind = k then (if k.replaces then [] else live b steps k) ++ [y]
          else live b steps k
        | none => live b steps k := by
  rw [live, history_concat]
  by_cases hx : x.isReset
  · simp [hx]
  · rcases x.accepted b with _ | y
    · simp [hx, live]
    · by_cases hk : y.kind = k <;> by_cases hr : k.replaces <;> simp [hx, hk, hr, live]

/-! ## Runs -/

lemma compiler_run (s : Session) (steps : List Step) :
    (s.run steps).1.subject.compiler = s.subject.compiler := by
  induction steps using List.reverseRecOn with
  | nil => rfl
  | append_singleton steps x ih =>
    rw [run_append]
    exact (compiler_step _ x).trans ih

lemma defaultBoost_run (s : Session) (steps : List Step) :
    (s.run steps).1.subject.store.defaultBoost = s.subject.store.defaultBoost := by
  induction steps using List.reverseRecOn with
  | nil => rfl
  | append_singleton steps x ih =>
    rw [run_append]
    exact (defaultBoost_step _ x).trans ih

/-- After any steps, failed ones and mere questions among them, an empty store holds what is
live.  The induction is on the steps from the last one, so that the store before it is known
from the steps before it. -/
theorem get_run (s : Session) (hs : ∀ k, s.subject.store.get k = []) (steps : List Step)
    (k : Kind) :
    (s.run steps).1.subject.store.get k = live s.subject.store.defaultBoost steps k := by
  induction steps using List.reverseRecOn with
  | nil => simpa [run, live, history] using hs k
  | append_singleton steps x ih =>
    have hstep : (s.run (steps ++ [x])).1 = ((s.run steps).1.step x).1 := by
      rw [run_append]
      rfl
    rw [hstep, store_step, live_concat, defaultBoost_run]
    by_cases hx : x.isReset
    · simp [hx]
    · simp only [hx, Bool.false_eq_true, if_false]
      rcases x.accepted s.subject.store.defaultBoost with _ | y
      -- nothing is accepted, as in a failed step or a question
      · exact ih
      · simp only [Option.map_some, Option.getD_some, Store.get_add, ih]

end Session
end Criteria
