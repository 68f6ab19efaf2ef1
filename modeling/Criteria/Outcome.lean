/-
# Outcomes

The end of a computation together with its log.  The log is kept also when the computation
fails, so that it tells what happened before the fault.
-/
import Criteria.Event
import Criteria.Fault

namespace Criteria

/-- What happened during a computation, and how it ended. -/
structure Outcome (α : Type) where
  log : List Event
  result : Except Fault α

namespace Outcome

variable {α β : Type}

/-- An outcome that nothing was logged for. -/
def silent (r : Except Fault α) : Outcome α := ⟨[], r⟩

/-- Go on with the result of an outcome, unless it failed. -/
def andThen (o : Outcome α) (f : α → Outcome β) : Outcome β :=
  match o.result with
  | .ok a => ⟨o.log ++ (f a).log, (f a).result⟩
  | .error e => ⟨o.log, .error e⟩

/-- An outcome with one more event at the start of its log. -/
def after (o : Outcome α) (e : Event) : Outcome α := ⟨e :: o.log, o.result⟩

/-- Change the result of an outcome. -/
def map (f : α → β) (o : Outcome α) : Outcome β := ⟨o.log, o.result.map f⟩

end Outcome
end Criteria
