/-
# Builders

A builder is a store with a compiler and the settings of both.  It is the usual way to ask
for a query: constraints are added to it, and it compiles what it holds whenever it is asked
to.
-/
import Criteria.Compiler
import Criteria.Query.Narrowing

namespace Criteria

/-- The settings of a builder. -/
structure Config where
  defaultBoost : Value
  strictOperators : Value

namespace Config

/-- The settings without any wishes: a boost of one, and unknown operators are skipped. -/
def standard : Config := ⟨.num .one, .bool false⟩

/-- Accept settings whose default boost is something, and a number that is not zero or
less. -/
def check (c : Config) : Except Fault Config :=
  if !c.defaultBoost.truthy then .error (.boostNotPositive c.defaultBoost)
  else match c.defaultBoost with
    | .num n =>
      if n.le (.int 0) then .error (.boostNotPositive c.defaultBoost) else .ok c
    | _ => .error .wrongType

/-- The settings given by name. -/
def ofArguments (args : Arguments) : Except Fault Config := do
  args.only ["default_boost", "strict_operators"]
  check ⟨args.withDefault "default_boost" standard.defaultBoost,
    args.withDefault "strict_operators" standard.strictOperators⟩

end Config

structure Builder where
  config : Config
  store : Store
  compiler : Compiler

namespace Builder

/-- A builder without constraints. -/
def new (config : Config) (registry : Registry) (fields : FieldMap) : Builder :=
  { config
    store := .empty config.defaultBoost
    compiler := ⟨registry, fields, config.strictOperators⟩ }

/-- The query of what the builder holds. -/
def compile (b : Builder) : Outcome Query := b.compiler.compile b.store

/-- The query of a search whose matches have to pass what the builder holds, in addition to
the query that the search has already, if it has one. -/
def toSearch (b : Builder) (base : Option Query) : Outcome Query :=
  (b.compiler.clauses b.store).andThen fun clauses =>
    .silent (match base with
      | none => .ok (Compiler.tree clauses)
      | some base => base.narrow clauses.query)

end Builder
end Criteria
