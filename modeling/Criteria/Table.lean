/-
# Ordered tables

A table is a list of keys with their entries, in the order in which the keys first came.
Putting an entry under a key that is there already replaces the entry and keeps the place
and the spelling of the key.  When two keys are the same key is a parameter.
-/

namespace Criteria

/-- Keys and their entries, in order. -/
abbrev Table (κ α : Type) := List (κ × α)

namespace Table

variable {κ α : Type}

/-- Put an entry under a key. -/
def put (same : κ → κ → Bool) (k : κ) (a : α) : Table κ α → Table κ α
  | [] => [(k, a)]
  | (k', b) :: t => if same k' k then (k', a) :: t else (k', b) :: put same k a t

/-- The entry under a key. -/
def get? (same : κ → κ → Bool) (k : κ) : Table κ α → Option α
  | [] => none
  | (k', a) :: t => if same k' k then some a else get? same k t

/-- The table of some keys and entries, of which the last under a key counts. -/
def ofList (same : κ → κ → Bool) (entries : List (κ × α)) : Table κ α :=
  entries.foldl (fun t e => t.put same e.1 e.2) []

/-- The entries, in the order of their keys. -/
def entries (t : Table κ α) : List α := t.map Prod.snd

theorem get?_put_self [BEq κ] [LawfulBEq κ] (t : Table κ α) (k : κ) (a : α) :
    get? (· == ·) k (put (· == ·) k a t) = some a := by
  induction t with
  | nil => simp [put, get?]
  | cons e t ih =>
    by_cases h : e.1 == k
    · simp [put, get?, h]
    · simp [put, get?, h, ih]

theorem get?_put_of_ne [BEq κ] [LawfulBEq κ] (t : Table κ α) {k k' : κ} (a : α) (h : k ≠ k') :
    get? (· == ·) k' (put (· == ·) k a t) = get? (· == ·) k' t := by
  induction t with
  | nil => simp [put, get?, h]
  | cons e t ih =>
    by_cases he : e.1 = k
    · have : e.1 ≠ k' := he ▸ h
      simp [put, get?, he, h]
    · simp [put, get?, he, ih]

/-- What is found under a renamed key, when different keys have different new names. -/
theorem get?_map [BEq κ] [LawfulBEq κ] {β : Type} {f : κ → κ}
    (hf : ∀ {k k' : κ}, f k = f k' → k = k') (g : α → β) (t : Table κ α) (k : κ) :
    get? (· == ·) (f k) (t.map fun e => (f e.1, g e.2)) = (get? (· == ·) k t).map g := by
  induction t with
  | nil => rfl
  | cons e t ih =>
    by_cases he : e.1 = k
    · simp [get?, he]
    · have hne : f e.1 ≠ f k := fun h => he (hf h)
      simpa [get?, he, hne] using ih

end Table
end Criteria
