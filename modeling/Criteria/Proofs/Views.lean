/-
# What a store shows of its history

A store can be asked for the constraints of a kind, for all of them kind by kind, for their
number, whether there are any, and for a line that counts them.  Each of these answers is
worked out by itself, but all of them tell of the same thing, which is the history of the
steps since the last reset.

* `Subject.Fresh`: a subject as it is set up.
* `Session.Shows`: the questions are answered from a view of the constraints by kind;
  `Session.shows_get` is the case of the view that a store has.
* `Session.accepted_iff` and `Session.subject_step_of_not_accepted`: the steps that add to the
  history, and that the others change nothing.
* `Session.subject_run_reset`: a reset makes a subject what it was when it was set up.
* `Session.shows_live`: the statement for all runs.
-/
import Criteria.Proofs.Live

namespace Criteria

/-! ## Fresh subjects -/

/-- A subject as it is set up: nothing is stored. -/
inductive Subject.Fresh : Subject → Prop
  | builder (config : Config) (registry : Registry) (fields : FieldMap) :
      Fresh (.builder (.new config registry fields))
  | separate (defaultBoost : Value) (c : Compiler) : Fresh (.separate (.empty defaultBoost) c)

namespace Subject

lemma Fresh.store_eq {x : Subject} (h : x.Fresh) : x.store = .empty x.store.defaultBoost := by
  cases h <;> rfl

lemma Fresh.get_eq {x : Subject} (h : x.Fresh) (k : Kind) : x.store.get k = [] := by
  rw [h.store_eq]
  rfl

@[simp] lemma withStore_store (x : Subject) : x.withStore x.store = x := by cases x <;> rfl

@[simp] lemma store_withStore (x : Subject) (s : Store) : (x.withStore s).store = s := by
  cases x <;> rfl

@[simp] lemma withStore_withStore (x : Subject) (s t : Store) :
    (x.withStore s).withStore t = x.withStore t := by cases x <;> rfl

end Subject

/-! ## Views -/

/-- The constraints of each kind. -/
abbrev View := Kind → List Constraint

namespace View

variable {view : View}

/-- The number of constraints of all kinds. -/
def size (view : View) : Nat := Kind.all.foldr (fun k n => (view k).length + n) 0

/-- The kinds of which there are constraints. -/
def kinds (view : View) : List Kind := Kind.all.filter fun k => !(view k).isEmpty

/-- How many constraints there are of each kind of which there are any. -/
def counts (view : View) : List String :=
  view.kinds.map fun k => k.label ++ "=" ++ (view k).length.repr

lemma size_eq_zero_iff : view.size = 0 ↔ view.kinds = [] := by
  rw [size, kinds]
  induction Kind.all with
  | nil => simp
  | cons k ks ih =>
    by_cases hk : view k = []
    · simpa [hk] using ih
    · simp [hk]

lemma exists_label_toList (k : Kind) : ∃ c cs, k.label.toList = c :: cs ∧ c ≠ '(' := by
  cases k <;> exact ⟨_, _, rfl, by decide⟩

/-- Counts start with the label of a kind, so they are not mistaken for the absence of counts. -/
lemma commaSeparated_counts_ne (h : view.kinds ≠ []) :
    Value.commaSeparated view.counts ≠ "(empty)" := by
  obtain ⟨k, ks, hks⟩ := List.exists_cons_of_ne_nil h
  obtain ⟨c, cs, hlabel, hc⟩ := exists_label_toList k
  have hstart : ∃ rest, (Value.commaSeparated view.counts).toList = c :: rest := by
    rw [counts, hks, List.map_cons, Value.commaSeparated]
    rcases ks with _ | ⟨k', ks⟩
    · simp [hlabel]
    · simp [hlabel, String.intercalate_cons_cons]
  obtain ⟨rest, hrest⟩ := hstart
  intro heq
  rw [heq] at hrest
  have hhead : '(' = c := (List.cons.inj hrest).1
  exact hc hhead.symm

end View

lemma Store.items_eq (s : Store) :
    s.items = (View.kinds s.get).map fun k => (k, s.get k) := by
  rw [items, View.kinds, List.filter_map]
  rfl

namespace Session

/-! ## Answers to questions -/

/-- The step is a question: it is answered and changes nothing. -/
def Answers (s : Session) (x : Step) (a : Answer) : Prop := s.step x = (s, .silent (.ok a))

/-- All questions about what is stored are answered from the same view. -/
structure Shows (s : Session) (view : View) : Prop where
  get : ∀ k : Kind, s.Answers (.get (.str k.label)) (.constraints (view k))
  items : s.Answers .items (.groups (view.kinds.map fun k => (k, view k)))
  size : s.Answers .size (.count view.size)
  isEmpty : s.Answers .isEmpty (.flag (view.size = 0))
  nonempty : s.Answers .nonempty (.flag (view.size ≠ 0))
  summary : s.Answers .summary (.text ("<" ++ s.subject.title ++ ": " ++
    (if view.size = 0 then "(empty)" else Value.commaSeparated view.counts) ++ ">"))
  /-- No counts are shown just when there is nothing to count. -/
  summary_iff : s.Answers .summary (.text ("<" ++ s.subject.title ++ ": (empty)>")) ↔
    view.size = 0

/-- The line of a store shows the counts of its view. -/
lemma summary_eq (s : Store) (title : String) :
    s.summary title = "<" ++ title ++ ": " ++
      (if View.size s.get = 0 then "(empty)" else Value.commaSeparated (View.counts s.get)) ++
        ">" := by
  have hempty : (View.counts s.get).isEmpty = decide (View.size s.get = 0) := by
    rw [View.counts, List.isEmpty_map, Bool.eq_iff_iff, decide_eq_true_iff,
      View.size_eq_zero_iff, List.isEmpty_iff]
  have hline : s.summary title = "<" ++ title ++ ": " ++
      (if (View.counts s.get).isEmpty then "(empty)"
        else Value.commaSeparated (View.counts s.get)) ++ ">" := by
    rw [Store.summary, Store.items_eq, List.map_map]
    rfl
  rw [hline, hempty]
  simp

lemma answers_summary_iff {s : Session} {line : String} :
    s.Answers .summary (.text line) ↔ s.subject.summary = line := by
  simp [Answers, step, Outcome.silent]

/-- The line of a store is the one without counts just when the store is empty. -/
lemma summary_eq_empty_iff (s : Store) (title : String) :
    s.summary title = "<" ++ title ++ ": (empty)>" ↔ View.size s.get = 0 := by
  have hline : "<" ++ title ++ ": (empty)>" = "<" ++ title ++ ": " ++ "(empty)" ++ ">" := by
    simp [String.append_assoc]
  rw [summary_eq, hline, String.append_left_inj, String.append_right_inj]
  constructor
  · intro h
    by_contra hsize
    rw [if_neg hsize] at h
    exact View.commaSeparated_counts_ne (View.size_eq_zero_iff.not.mp hsize) h
  · intro hsize
    rw [if_pos hsize]

/-- A session shows what its store holds. -/
theorem shows_get (s : Session) : s.Shows s.subject.store.get where
  get k := by
    have hk : Kind.ofValue (.str k.label) = .ok k := by cases k <;> rfl
    simp [Answers, step, hk, Except.map]
  items := by simp [Answers, step, Store.items_eq]
  size := rfl
  isEmpty := rfl
  nonempty := by
    simp [Answers, step, Store.isEmpty]
    rfl
  summary := answers_summary_iff.mpr (summary_eq _ _)
  summary_iff := answers_summary_iff.trans (summary_eq_empty_iff _ _)

/-! ## Steps that add nothing -/

end Session

/-- Whether a step is a call that brings a constraint. -/
def Step.isIntake : Step → Bool
  | .request _ _ | .offer _ => true
  | _ => false

namespace Session

/-- The steps that add a constraint are the calls that bring one and do not fail. -/
theorem accepted_iff (s : Session) (x : Step) :
    (∃ c, x.accepted s.subject.store.defaultBoost = some c) ↔
      x.isIntake ∧ ∃ a, (s.step x).2.result = .ok a := by
  cases x with
  | request kind args => rw [← s.request_ok_iff kind args]; simp [Step.isIntake]
  | offer o => rw [← s.offer_ok_iff o]; simp [Step.isIntake]
  | _ => simp [Step.accepted, Step.isIntake]

/-- A step changes nothing of its subject but the store. -/
lemma subject_step (s : Session) (x : Step) :
    (s.step x).1.subject = s.subject.withStore (s.step x).1.subject.store := by
  have hsame : s.subject = s.subject.withStore s.subject.store := by simp
  have hchange : ∀ r, (s.change r).1.subject =
      s.subject.withStore (s.change r).1.subject.store := by
    rintro (e | store)
    · exact hsame
    · rw [change, store_withStore]
      rfl
  cases x with
  | request kind args => exact hchange _
  | offer o => exact hchange _
  | reset =>
    rw [step, store_withStore]
    rfl
  | toSearch base =>
    have hsearch : (s.step (.toSearch base)).1.subject = s.subject := s.subject_makeSearch base
    rw [hsearch]
    exact hsame
  | _ => exact hsame

/-- Failed calls, questions and compilations leave the subject as it is. -/
theorem subject_step_of_not_accepted (s : Session) {x : Step} (hx : x.isReset = false)
    (h : x.accepted s.subject.store.defaultBoost = none) :
    (s.step x).1.subject = s.subject := by
  rw [subject_step, store_step, hx, h]
  simp

lemma subject_run (s : Session) (steps : List Step) :
    (s.run steps).1.subject = s.subject.withStore (s.run steps).1.subject.store := by
  induction steps using List.reverseRecOn with
  | nil => simp [run]
  | append_singleton steps x ih =>
    have hstep : (s.run (steps ++ [x])).1 = ((s.run steps).1.step x).1 := by
      rw [run_append]
      rfl
    rw [hstep, subject_step, ih, Subject.withStore_withStore, Subject.store_withStore]

/-! ## Resets -/

/-- After a reset the subject is what it was when it was set up, whatever was done before. -/
theorem subject_run_reset {s : Session} (hs : s.subject.Fresh) (steps : List Step) :
    (s.run (steps ++ [.reset])).1.subject = s.subject := by
  have hstore : (s.run (steps ++ [.reset])).1.subject.store = s.subject.store := by
    have hlast : (s.run (steps ++ [.reset])).1.subject.store =
        (s.run steps).1.subject.store.reset := by
      rw [run_append]
      exact store_step _ .reset
    rw [hlast, Store.reset, defaultBoost_run]
    exact hs.store_eq.symm
  rw [subject_run, hstore, Subject.withStore_store]

/-- The steps after a reset are answered as if the subject had just been set up; the last search
is no part of the subject and is kept. -/
theorem answers_after_reset {s : Session} (hs : s.subject.Fresh) (steps rest : List Step) :
    (s.run (steps ++ .reset :: rest)).2 =
      (s.run (steps ++ [.reset])).2 ++
        (run { s with search := (s.run steps).1.search } rest).2 := by
  have hstart : (s.run (steps ++ [.reset])).1 = { s with search := (s.run steps).1.search } := by
    have hsubject := subject_run_reset hs steps
    have hsearch : (s.run (steps ++ [.reset])).1.search = (s.run steps).1.search := by
      rw [run_append]
      rfl
    rw [← hsubject, ← hsearch]
  have hsplit : steps ++ Step.reset :: rest = (steps ++ [.reset]) ++ rest := by simp
  rw [hsplit, run_append, hstart]

/-- A step that does not ask for the last search does the same, whatever that search is. -/
lemma step_eq_of_subject_eq {s t : Session} (h : s.subject = t.subject) {x : Step}
    (hx : x ≠ .toSearch .last) :
    (s.step x).2 = (t.step x).2 ∧ (s.step x).1.subject = (t.step x).1.subject := by
  rcases s with ⟨subject, search⟩
  rcases t with ⟨subject', search'⟩
  simp only at h
  subst h
  have hchange : ∀ r, (change ⟨subject, search⟩ r).2 = (change ⟨subject, search'⟩ r).2 ∧
      (change ⟨subject, search⟩ r).1.subject = (change ⟨subject, search'⟩ r).1.subject := by
    rintro (e | store) <;> exact ⟨rfl, rfl⟩
  cases x with
  | request kind args => exact hchange _
  | offer o => exact hchange _
  | toSearch base =>
    have hbase : base? ⟨subject, search⟩ base = base? ⟨subject, search'⟩ base := by
      cases base with
      | last => exact absurd rfl hx
      | _ => rfl
    have hsubject : ∀ last, (step ⟨subject, last⟩ (.toSearch base)).1.subject = subject :=
      fun last => subject_makeSearch ⟨subject, last⟩ base
    refine ⟨?_, (hsubject search).trans (hsubject search').symm⟩
    simp only [step, makeSearch, hbase]
    rcases base? ⟨subject, search'⟩ base with e | base
    · rfl
    · rcases subject with b | ⟨store, c⟩
      · simp only
        split <;> rfl
      · rfl
  | _ => exact ⟨rfl, rfl⟩

lemma answers_eq_of_subject_eq {s t : Session} (h : s.subject = t.subject) {steps : List Step}
    (hsteps : ∀ x ∈ steps, x ≠ .toSearch .last) : (s.run steps).2 = (t.run steps).2 := by
  induction steps generalizing s t with
  | nil => rfl
  | cons x steps ih =>
    obtain ⟨hanswer, hsubject⟩ := step_eq_of_subject_eq h (hsteps x (by simp))
    have hrest : ((s.step x).1.run steps).2 = ((t.step x).1.run steps).2 :=
      ih hsubject fun y hy => hsteps y (by simp [hy])
    simp only [run, hanswer, hrest]

/-! ## All runs -/

/-- Whatever steps a subject has gone through since it was set up, all questions about what it
holds are answered from the live constraints; the steps that add to these are the calls that
bring a constraint and do not fail; and the steps after a reset are answered as by the subject
as it was set up. -/
theorem shows_live {s : Session} (hs : s.subject.Fresh) (steps : List Step) :
    let now := (s.run steps).1
    let b := s.subject.store.defaultBoost
    now.Shows (live b steps) ∧
    (∀ x : Step, ((∃ c, x.accepted b = some c) ↔
        x.isIntake ∧ ∃ a, (now.step x).2.result = .ok a) ∧
      (x.isReset = false → x.accepted b = none → (now.step x).1.subject = now.subject)) ∧
    ∀ rest : List Step,
      (s.run (steps ++ .reset :: rest)).2 =
        (s.run (steps ++ [.reset])).2 ++ (run { s with search := now.search } rest).2 ∧
      ((∀ x ∈ rest, x ≠ .toSearch .last) →
        (s.run (steps ++ .reset :: rest)).2 =
          (s.run (steps ++ [.reset])).2 ++ (s.run rest).2) := by
  intro now b
  have hview : now.subject.store.get = live b steps := funext (get_run s hs.get_eq steps)
  have hboost : now.subject.store.defaultBoost = b := defaultBoost_run s steps
  refine ⟨hview ▸ shows_get now, ?_, ?_⟩
  · intro x
    have haccepted := accepted_iff now x
    have hunchanged := @subject_step_of_not_accepted now x
    rw [hboost] at haccepted hunchanged
    exact ⟨haccepted, hunchanged⟩
  · intro rest
    have hreset := answers_after_reset hs steps rest
    refine ⟨hreset, ?_⟩
    intro hrest
    have hsubject : ({ s with search := now.search } : Session).subject = s.subject := rfl
    rw [hreset, ← answers_eq_of_subject_eq hsubject hrest]

/-- `shows_live` at a run with a batch that is replaced, a condition that comes twice, a call that
fails, and a compilation. -/
theorem shows_live_twice :
    let s : Session := ⟨.builder (.new .standard .empty .empty), none⟩
    let steps : List Step := [
      .request .whereOr [("mapping", .dict [(.str "a", .list [])])],
      .request .present [("field", .str "a")], .request .present [],
      .request .whereOr [("mapping", .null)], .compile,
      .request .present [("field", .str "a")]]
    live (.num .one) steps .present = [.present (.str "a"), .present (.str "a")] ∧
    live (.num .one) steps .whereOr = [.whereOr (.tuple [])] ∧
    (s.run steps).1.Shows (live (.num .one) steps) ∧
    ((s.run steps).1.step (.request .present [])).1.subject = (s.run steps).1.subject ∧
    (s.run (steps ++ [.reset, .summary])).2 =
      (s.run (steps ++ [.reset])).2 ++ (s.run [.summary]).2 := by
  intro s steps
  have hs : s.subject.Fresh := .builder .standard .empty .empty
  obtain ⟨hshows, hsteps, hreset⟩ := shows_live hs steps
  exact ⟨rfl, rfl, hshows, (hsteps (.request .present [])).2 rfl rfl,
    (hreset [.summary]).2 (by simp)⟩

end Session
end Criteria
