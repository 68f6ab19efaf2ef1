/-
# Stores

A store collects constraints by kind.  Inside a kind they stay in the order in which they
came, except that a batch of alternatives (`Kind.whereOr`) takes the place of an earlier
one.

* `Groups.Proper` is what every store keeps: under a kind stand constraints of that kind,
  and at most one of a kind whose constraints take the place of each other.
* `Store.get` is the view through which a store is read: `get_add` says what adding a
  constraint does to it, and `get_reset` that a reset store is empty.
* `Store.constraints` lists what is stored in the order of compilation.
-/
import Criteria.Outcome
import Criteria.Request

namespace Criteria

/-- Whether a constraint takes the place of the earlier ones of its kind. -/
def Kind.replaces (k : Kind) : Bool := k = .whereOr

/-- Constraints by kind. -/
abbrev Groups := Table Kind (List Constraint)

namespace Groups

/-- The constraints of a kind, in the order in which they came. -/
def get (g : Groups) (k : Kind) : List Constraint := (Table.get? (· == ·) k g).getD []

/-- The groups with one more constraint. -/
def add (g : Groups) (c : Constraint) : Groups :=
  g.put (· == ·) c.kind ((if c.kind.replaces then [] else g.get c.kind) ++ [c])

theorem get_add_self (g : Groups) (c : Constraint) :
    (g.add c).get c.kind = (if c.kind.replaces then [] else g.get c.kind) ++ [c] := by
  simp [get, add, Table.get?_put_self]

theorem get_add_of_ne (g : Groups) {c : Constraint} {k : Kind} (h : c.kind ≠ k) :
    (g.add c).get k = g.get k := by
  simp [get, add, Table.get?_put_of_ne _ _ h]

/-- Under each kind stand constraints of the kind, and at most one where a constraint takes
the place of the earlier ones. -/
structure Proper (g : Groups) : Prop where
  kind_eq : ∀ k, ∀ c ∈ g.get k, c.kind = k
  length_le : ∀ k, k.replaces → (g.get k).length ≤ 1

theorem proper_nil : Proper [] := ⟨by simp [get, Table.get?], by simp [get, Table.get?]⟩

/-- Adding a constraint touches its own kind, where it comes last or alone. -/
theorem Proper.add {g : Groups} (h : g.Proper) (c : Constraint) : (g.add c).Proper where
  kind_eq k d hd := by
    by_cases hk : c.kind = k
    · subst hk
      rw [get_add_self] at hd
      rcases List.mem_append.mp hd with hd | hd
      · split at hd
        · exact absurd hd (by simp)
        · exact h.kind_eq _ _ hd
      · rw [List.mem_singleton.mp hd]
    · rw [get_add_of_ne g hk] at hd
      exact h.kind_eq k d hd
  length_le k hr := by
    by_cases hk : c.kind = k
    · subst hk
      simp [get_add_self, hr]
    · rw [get_add_of_ne g hk]
      exact h.length_le k hr

end Groups

structure Store where
  /-- The boost that stands in for one that counts as nothing. -/
  defaultBoost : Value
  groups : Groups
  proper : groups.Proper

namespace Store

/-- The store without constraints. -/
def empty (defaultBoost : Value) : Store := ⟨defaultBoost, [], Groups.proper_nil⟩

/-- The stored constraints of a kind, in the order in which they came. -/
def get (s : Store) (k : Kind) : List Constraint := s.groups.get k

/-- The store with one more constraint. -/
def add (s : Store) (c : Constraint) : Store :=
  ⟨s.defaultBoost, s.groups.add c, s.proper.add c⟩

/-- The store with the constraint of a request. -/
def request (s : Store) (r : Request) : Except Fault Store :=
  (r.constraint s.defaultBoost).map s.add

/-- The store with a constraint that is offered. -/
def offer (s : Store) (o : Offer) : Except Fault Store := o.constraint?.map s.add

/-- The store with all constraints removed. -/
def reset (s : Store) : Store := empty s.defaultBoost

/-! ## Views -/

/-- The kinds of which there are constraints, with these, in order. -/
def items (s : Store) : List (Kind × List Constraint) :=
  (Kind.all.map fun k => (k, s.get k)).filter (!·.2.isEmpty)

/-- The stored constraints in the order of compilation. -/
def constraints (s : Store) : List Constraint := Kind.all.flatMap s.get

/-- The number of stored constraints. -/
def size (s : Store) : Nat := Kind.all.foldr (fun k n => (s.get k).length + n) 0

/-- Whether nothing is stored. -/
def isEmpty (s : Store) : Bool := s.size = 0

/-- A line that shows how many constraints of each kind there are, after a title. -/
def summary (s : Store) (title : String) : String :=
  let counts := s.items.map fun (k, cs) => k.label ++ "=" ++ cs.length.repr
  "<" ++ title ++ ": " ++
    (if counts.isEmpty then "(empty)" else Value.commaSeparated counts) ++ ">"

/-! ## What the operations do to the views -/

@[simp] theorem get_empty (b : Value) (k : Kind) : (empty b).get k = [] := rfl

@[simp] theorem get_reset (s : Store) (k : Kind) : s.reset.get k = [] := rfl

/-- Adding a constraint changes the view at its own kind only. -/
theorem get_add (s : Store) (c : Constraint) (k : Kind) :
    (s.add c).get k =
      if c.kind = k then (if k.replaces then [] else s.get k) ++ [c] else s.get k := by
  split
  · rename_i h; subst h; exact s.groups.get_add_self c
  · rename_i h; exact s.groups.get_add_of_ne h

/-- The constraints under a kind are of that kind. -/
theorem kind_eq_of_mem_get {s : Store} {k : Kind} {c : Constraint} (h : c ∈ s.get k) :
    c.kind = k := s.proper.kind_eq k c h

/-- There is one batch of alternatives at most. -/
theorem length_get_whereOr (s : Store) : (s.get .whereOr).length ≤ 1 :=
  s.proper.length_le .whereOr rfl

/-- A store has as many constraints as the view shows over all kinds. -/
theorem length_constraints (s : Store) : s.constraints.length = s.size := by
  simp [constraints, size, Kind.all]

end Store
end Criteria
