/-
# Sessions

A session works on one subject, a builder or a store with a compiler at its side, in steps.
Each step answers, and an answer may change the session; a step that fails leaves it as it
was.

* `Session.step` is the effect of one step, and `Session.run` that of several.
* `Session.start` sets a session up.
-/
import Criteria.Builder

namespace Criteria

/-- What a session works on. -/
inductive Subject where
  | builder (b : Builder)
  /-- A store, and a compiler that is not part of it. -/
  | separate (s : Store) (c : Compiler)

namespace Subject

def store : Subject → Store
  | .builder b => b.store
  | .separate s _ => s

def compiler : Subject → Compiler
  | .builder b => b.compiler
  | .separate _ c => c

/-- The subject with another store. -/
def withStore (s : Store) : Subject → Subject
  | .builder b => .builder { b with store := s }
  | .separate _ c => .separate s c

/-- What the subject is called in its summary. -/
def title : Subject → String
  | .builder _ => "QueryBuilder"
  | .separate _ _ => "ConditionStore"

def summary (s : Subject) : String := s.store.summary s.title

end Subject

structure Session where
  subject : Subject
  /-- The query of the last search that was made. -/
  search : Option Query

/-- The search that a query is added to. -/
inductive Base where
  | fresh
  /-- A search for a query, in its dictionary form. -/
  | query (v : Value)
  /-- The last search of the session, or a fresh one. -/
  | last

inductive Step where
  | request (kind : Kind) (args : Arguments)
  | offer (o : Offer)
  | reset
  | summary
  | size
  | nonempty
  | isEmpty
  | get (kind : Value)
  | items
  | config
  | compilerSummary
  | compile
  | toSearch (base : Base)
  /-- A step whose values could not be made. -/
  | unreadable (e : Fault)

inductive Answer where
  | text (s : String)
  | count (n : Nat)
  | flag (b : Bool)
  | constraints (cs : List Constraint)
  | groups (gs : List (Kind × List Constraint))
  | config (c : Config)
  | query (q : Query)
  | search (q : Query)

namespace Session

/-- The session with another store. -/
def withStore (s : Session) (store : Store) : Session :=
  { s with subject := s.subject.withStore store }

/-- Change the store, if the change succeeds, and answer its summary. -/
def change (s : Session) (store : Except Fault Store) : Session × Outcome Answer :=
  match store with
  | .ok store =>
    let s := s.withStore store
    (s, .silent (.ok (.text s.subject.summary)))
  | .error e => (s, .silent (.error e))

/-- The query that a new one is added to. -/
def base? (s : Session) : Base → Except Fault (Option Query)
  | .fresh => .ok none
  | .query v => (Query.ofValue v).map some
  | .last => .ok s.search

/-- Make a search out of what the builder holds, and remember it.  Only a builder makes
searches. -/
def makeSearch (s : Session) (base : Base) : Session × Outcome Answer :=
  match s.base? base, s.subject with
  | .ok base, .builder b =>
    let made := b.toSearch base
    match made.result with
    | .ok q => ({ s with search := some q }, made.map .search)
    | .error _ => (s, made.map .search)
  | .error e, _ => (s, .silent (.error e))
  | .ok _, .separate _ _ => (s, .silent (.error .noSuchAttribute))

/-- The effect of a step, and its answer. -/
def step (s : Session) (x : Step) : Session × Outcome Answer :=
  let store := s.subject.store
  match x with
  | .request kind args => s.change ((Request.ofArguments kind args).bind store.request)
  | .offer o => s.change (store.offer o)
  | .reset =>
    let s := s.withStore store.reset
    (s, ⟨[.storeReset], .ok (.text s.subject.summary)⟩)
  | .summary => (s, .silent (.ok (.text s.subject.summary)))
  | .size => (s, .silent (.ok (.count store.size)))
  | .nonempty => (s, .silent (.ok (.flag (!store.isEmpty))))
  | .isEmpty => (s, .silent (.ok (.flag store.isEmpty)))
  | .get kind => (s, .silent ((Kind.ofValue kind).map fun k => .constraints (store.get k)))
  | .items => (s, .silent (.ok (.groups store.items)))
  | .config =>
    (s, .silent (match s.subject with
      | .builder b => .ok (.config b.config)
      | .separate _ _ => .error .noSuchAttribute))
  | .compilerSummary => (s, .silent (.ok (.text s.subject.compiler.summary)))
  | .compile => (s, (s.subject.compiler.compile store).map .query)
  | .toSearch base => s.makeSearch base
  | .unreadable e => (s, .silent (.error e))

/-- The effect of several steps, and their answers. -/
def run (s : Session) : List Step → Session × List (Outcome Answer)
  | [] => (s, [])
  | x :: xs =>
    let (s, answer) := s.step x
    let (s, answers) := s.run xs
    (s, answer :: answers)

theorem run_append (s : Session) (xs ys : List Step) :
    s.run (xs ++ ys) =
      (((s.run xs).1.run ys).1, (s.run xs).2 ++ ((s.run xs).1.run ys).2) := by
  induction xs generalizing s with
  | nil => rfl
  | cons x xs ih => simp [run, ih]

/-! ## Setting up -/

/-- How the subject of a session is set up, apart from what its compiler knows. -/
inductive Setup where
  /-- A builder with some settings. -/
  | builder (config : Config)
  /-- A store, and whether the compiler at its side is strict. -/
  | separate (store : Store) (strict : Value)

/-- The setup of a store and a compiler with the given settings.  Those of the store come
first: a fault in them is found before one in the others. -/
def Setup.ofArguments (store compiler : Except Fault Arguments) : Except Fault Setup := do
  let args ← store
  args.only ["default_boost"]
  let store := Store.empty (args.withDefault "default_boost" (.num .one))
  let args ← compiler
  args.only ["strict_operators"]
  return .separate store (args.withDefault "strict_operators" (.bool false))

/-- The subject of a session. -/
def Setup.subject (registry : Registry) (fields : FieldMap) : Setup → Subject
  | .builder config => .builder (.new config registry fields)
  | .separate store strict => .separate store ⟨registry, fields, strict⟩

/-- A session at its start.  The registry is set up first, then the field map, then the
subject. -/
def start (registry : Outcome Registry) (fields : Except Fault FieldMap)
    (setup : Except Fault Setup) : Outcome Session :=
  registry.andThen fun registry => .silent do
    let fields ← fields
    let setup ← setup
    return ⟨setup.subject registry fields, none⟩

end Session
end Criteria
