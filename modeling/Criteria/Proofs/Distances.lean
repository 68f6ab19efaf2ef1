/-
# Distances that are told apart

The text of a distance is a numeral and behind it the symbol of a unit.  Some symbols begin or end
with others, but none of them begins with what a numeral could go on with, so that there is only one
place where the text can be cut.  The integer stands in front of it and the unit behind it, and both
can be read back.  An integer of too many digits has no such text.

* `readSign_repr`, `readDigits_append` and `integerOfDigits_repr`: the written form of an integer is
  read up to its end, if no digit or underscore follows, and gives the integer.
* `DistanceUnit.ofQuantity?`: the reader of a text of a distance;
  `DistanceUnit.ofQuantity?_quantity` says that it loses nothing, from which
  `DistanceUnit.quantity_inj_iff` follows.
* `Compiler.TellsDistance`: what a clause tells of the distance of its constraint;
  `Compiler.tellsDistance_of_yields` is the step from the form of the clause.
* `Compiler.distance_unambiguous`: the statement for all distances of integers, and for all queries
  that are compiled.
-/
import Criteria.Proofs.FieldKeys

namespace Criteria

/-! ## Numerals -/

/-- A numeral ends where this text begins. -/
def EndsNumeral (s : List Char) : Prop := ∀ c ∈ s.head?, Text.digit? c = none ∧ c ≠ '_'

/-- The value of a digit. -/
def digitValue (c : Char) : Nat := c.toNat - '0'.toNat

lemma digit?_of_isDigit {c : Char} (hc : c.isDigit) : Text.digit? c = some (digitValue c) := by
  obtain ⟨hlow, hhigh⟩ := Char.isDigit_iff_toNat.mp hc
  have hzero : '0'.toNat = 0x30 := rfl
  have hnine : '9'.toNat = 0x39 := rfl
  have hrange : (0x30 ≤ c.toNat && c.toNat < 0x30 + 10) = true := by
    rw [Bool.and_eq_true, decide_eq_true_iff, decide_eq_true_iff]
    omega
  have hfind : (Text.zeros.find? fun z => z ≤ c.toNat && c.toNat < z + 10) = some 0x30 :=
    List.find?_cons_of_pos hrange
  rw [Text.digit?, hfind]
  rfl

/-- A run of digits is read up to its end.  The flag is generalised, since it is set behind the
first digit. -/
lemma readDigits_append {ds rest : List Char} (hds : ∀ c ∈ ds, c.isDigit)
    (hrest : EndsNumeral rest) (afterDigit : Bool) :
    readDigits afterDigit (ds ++ rest) = (ds.map digitValue, rest) := by
  induction ds generalizing afterDigit with
  | nil =>
    rcases rest with _ | ⟨c, rest⟩
    · rfl
    · obtain ⟨hdigit, hunderscore⟩ := hrest c rfl
      simp [readDigits, hdigit, hunderscore]
  | cons c ds ih =>
    have hc : Text.digit? c = some (digitValue c) := digit?_of_isDigit (hds c (by simp))
    have hrun := ih (fun c' hc' => hds c' (List.mem_cons_of_mem c hc')) true
    simp [readDigits, hc, hrun]

lemma isDigit_of_mem_decimal {n : Nat} {c : Char} (hc : c ∈ Nat.toDigits 10 n) : c.isDigit :=
  Nat.isDigit_of_mem_toDigits (by decide) (by decide) hc

/-- The digits of a number have its value. -/
lemma digitsValue_decimal (n : Nat) :
    Text.digitsValue ((Nat.toDigits 10 n).map digitValue) = n := by
  calc Text.digitsValue ((Nat.toDigits 10 n).map digitValue)
      = (Nat.toDigits 10 n).foldl (fun m c => 10 * m + digitValue c) 0 := List.foldl_map
    _ = Nat.ofDigitChars 10 (Nat.toDigits 10 n) 0 := Nat.ofDigitChars_eq_foldl.symm
    _ = n := Nat.ofDigitChars_ten_toDigits

/-- An integer is written with a minus sign if it lies below zero, and with the digits of its
magnitude. -/
lemma toList_repr (n : Int) :
    n.repr.toList = (if n < 0 then ['-'] else []) ++ Nat.toDigits 10 n.natAbs := by
  rcases n with m | m
  · have hpos : ¬ Int.ofNat m < 0 := Int.not_lt.mpr (Int.natCast_nonneg m)
    rw [if_neg hpos]
    exact Nat.toList_repr
  · have hneg : Int.negSucc m < 0 := Int.negSucc_lt_zero m
    rw [if_pos hneg, Int.repr, String.toList_append, Nat.toList_repr]
    rfl

/-- There is no sign in front of digits. -/
lemma readSign_decimal (n : Nat) (rest : List Char) :
    readSign (Nat.toDigits 10 n ++ rest) = (false, Nat.toDigits 10 n ++ rest) := by
  rcases h : Nat.toDigits 10 n with _ | ⟨c, ds⟩
  · exact absurd h Nat.toDigits_ne_nil
  · have hc : c.isDigit := isDigit_of_mem_decimal (n := n) (by simp [h])
    have hminus : c ≠ '-' := by rintro rfl; simp at hc
    have hplus : c ≠ '+' := by rintro rfl; simp at hc
    simp [readSign, hminus, hplus]

lemma readSign_repr (n : Int) (rest : List Char) :
    readSign (n.repr.toList ++ rest) = (decide (n < 0), Nat.toDigits 10 n.natAbs ++ rest) := by
  rw [toList_repr]
  by_cases hneg : n < 0
  · rw [if_pos hneg, decide_eq_true hneg]
    rfl
  · rw [if_neg hneg, decide_eq_false hneg]
    exact readSign_decimal n.natAbs rest

/-- The sign and the digits of an integer give it back. -/
lemma integerOfDigits_repr (n : Int) :
    integerOfDigits (decide (n < 0)) ((Nat.toDigits 10 n.natAbs).map digitValue) = n := by
  rw [integerOfDigits, digitsValue_decimal]
  simp only [decide_eq_true_eq]
  split <;> omega

/-! ## Quantities -/

namespace DistanceUnit

/-- The integer and the unit that a text gives: a sign perhaps, at least one digit, and the symbol
of the unit behind the last digit. -/
def ofQuantity? (text : String) : Option (Int × DistanceUnit) :=
  let (negative, s) := readSign text.toList
  let (ds, symbol) := readDigits false s
  if ds.isEmpty then none
  else (all.find? fun u => u.symbol.toList = symbol).map fun u => (integerOfDigits negative ds, u)

lemma endsNumeral_symbol (u : DistanceUnit) : EndsNumeral u.symbol.toList := by
  intro c hc
  have hsome : u.symbol.toList.head? = some c := hc
  cases u <;> cases hsome <;> decide

/-- Each unit is found by its symbol. -/
lemma find_symbol (u : DistanceUnit) :
    (all.find? fun v => v.symbol.toList = u.symbol.toList) = some u := by
  cases u <;> decide

/-- A quantity of an integer tells the integer and the unit. -/
theorem ofQuantity?_quantity (n : Int) (u : DistanceUnit) :
    ofQuantity? (u.quantity (.int n)) = some (n, u) := by
  have htext : (u.quantity (.int n)).toList = n.repr.toList ++ u.symbol.toList :=
    String.toList_append
  have hdigits := readDigits_append (fun _ => isDigit_of_mem_decimal (n := n.natAbs))
    u.endsNumeral_symbol false
  have hsome : ((Nat.toDigits 10 n.natAbs).map digitValue).isEmpty = false := by simp
  rw [ofQuantity?, htext, readSign_repr]
  simp [hdigits, hsome, find_symbol, integerOfDigits_repr]

/-- Quantities are the same only if they are the same number of the same unit. -/
lemma quantity_inj_iff {n n' : Int} {u u' : DistanceUnit} :
    u.quantity (.int n) = u'.quantity (.int n') ↔ n = n' ∧ u = u' := by
  constructor
  · intro h
    have hboth : some (n, u) = some (n', u') := by
      rw [← ofQuantity?_quantity n u, ← ofQuantity?_quantity n' u', h]
    simpa using hboth
  · rintro ⟨rfl, rfl⟩
    rfl

end DistanceUnit

/-! ## Distances in clauses -/

/-- The distance in a clause that asks for what is near a place. -/
def Query.distance? : Query → Option Value
  | .leaf type parameters =>
    if type = "geo_distance" then Table.get? (· == ·) "distance" parameters else none
  | .bool .. => none

lemma Leaf.distance?_nearby (name : String) (location distance : Value) :
    (Leaf.nearby name location distance).distance? =
      some (if name = "distance" then location else distance) := by
  by_cases h : name = "distance" <;> simp [Leaf.nearby, Query.distance?, Table.get?, h]

namespace Compiler

/-- The clause `q` tells the distance of its constraint, if that is an integer with a unit: the text
of the distance stands in it, and gives both back.  A field that is called like the distance takes
its place, so that the location stands there. -/
def TellsDistance (c : Compiler) (x : Constraint) (q : Query) : Prop :=
  ∀ (field location : Value) (n : Int) (u : DistanceUnit),
    x = .geoDistance field location (.int n) (.unit u) →
    (c.fields.Maps field "distance" → q.distance? = some location.toLocation) ∧
    (¬ c.fields.Maps field "distance" → ∃ text,
      (Value.int n).toDistance (.unit u) = .ok (.str text) ∧
      q.distance? = some (.str text) ∧ DistanceUnit.ofQuantity? text = some (n, u))

variable {c : Compiler}

/-- Just the field of this name is sent as the name of the distance. -/
lemma maps_distance_iff {field : Value} {key : String} (h : c.fields.Sends field key) :
    c.fields.Maps field "distance" ↔ key = "distance" := by
  obtain ⟨name, hname, -, rfl⟩ := FieldMap.sends_iff.mp h
  have hsent : Query.sentName "distance" = "distance" := by decide
  constructor
  · intro hdistance
    rw [hname.unique hdistance, hsent]
  · intro hkey
    have hname' : name = "distance" := by
      simpa using Query.sentName_inj_iff.mp (hkey.trans hsent.symm)
    rwa [hname'] at hname

/-- The clause of a constraint tells its distance. -/
theorem tellsDistance_of_yields {x : Constraint} {q : Query} (h : c.Yields x q) :
    c.TellsDistance x q := by
  rintro field location n u rfl
  cases h with
  | @geoDistance _ _ _ _ d key hd hkey =>
    obtain ⟨-, rfl⟩ := Number.whenWritable_eq_ok_iff.mp ((toDistance_unit_int u n).symm.trans hd)
    rw [maps_distance_iff hkey, Leaf.distance?_nearby]
    constructor
    · intro hname
      rw [if_pos hname]
    · intro hname
      rw [if_neg hname]
      exact ⟨u.quantity (.int n), hd, rfl, DistanceUnit.ofQuantity?_quantity n u⟩

/-- The distance of an integer that can be written is that of another integer only if they are the
same integer of the same unit.  In a query that is compiled, each clause of such a distance tells
the two, unless its field takes the place of the distance. -/
theorem distance_unambiguous (n n' : Int) (u u' : DistanceUnit) :
    ((Nat.toDigits 10 n.natAbs).length ≤ Fault.digitLimit →
      ((Value.int n).toDistance (.unit u) = (Value.int n').toDistance (.unit u') ↔
        n = n' ∧ u = u')) ∧
    ∀ (c : Compiler) (s : Store) (q : Query), (c.compile s).result = .ok q →
      ∃ p : Clauses, q = tree p ∧
        List.Forall₂ c.TellsDistance (c.contributors s .filter) (p.inSlot .filter) := by
  constructor
  · intro hdigits
    have hn : (Number.int n).isWritable = true := Number.isWritable_int_iff.mpr hdigits
    have hwritten : (Value.int n).toDistance (.unit u) = .ok (.str (n.repr ++ u.symbol)) :=
      (toDistance_unit_int u n).trans (Number.whenWritable_of_isWritable hn)
    rw [hwritten, eq_comm, toDistance_unit_int, Number.whenWritable_eq_ok_iff]
    constructor
    · rintro ⟨-, h⟩
      exact DistanceUnit.quantity_inj_iff.mp (Value.str.inj h).symm
    · rintro ⟨rfl, rfl⟩
      exact ⟨hn, rfl⟩
  · intro c s q h
    obtain ⟨p, hp, rfl⟩ := collected_of_compile h
    exact ⟨p, rfl, (hp.yields .filter).imp fun _ _ => tellsDistance_of_yields⟩

/-- `distance_unambiguous` at symbols that overlap, and at a store with a distance below zero, a
large one, and a field that takes the place of the distance. -/
theorem distance_unambiguous_overlap :
    let c : Compiler := ⟨.empty, .empty, .bool false⟩
    let near (field : String) (n : Int) (u : DistanceUnit) :=
      Constraint.geoDistance (.str field) (.str "1,2") (.int n) (.unit u)
    let s := (((Store.empty .null).add (near "a" (-15) .kilometres)).add
      (near "a" 1000000000000000000000000000000 .miles)).add (near "distance" 15 .metres)
    let q := tree ⟨[], [], [
      Leaf.nearby "a" (.str "1,2") (.str "-15km"),
      Leaf.nearby "a" (.str "1,2") (.str "1000000000000000000000000000000mi"),
      .leaf "geo_distance" [("distance", .str "1,2")]]⟩
    (Nat.toDigits 10 (15 : Int).natAbs).length ≤ Fault.digitLimit ∧
    (Value.int 15).toDistance (.unit .metres) ≠ (Value.int 15).toDistance (.unit .miles) ∧
    (c.compile s).result = .ok q ∧
    ∃ p : Clauses, q = tree p ∧
      List.Forall₂ c.TellsDistance (c.contributors s .filter) (p.inSlot .filter) := by
  intro c near s q
  have hdigits : (Nat.toDigits 10 (15 : Int).natAbs).length ≤ Fault.digitLimit := by decide
  obtain ⟨hsame, hcompiled⟩ := distance_unambiguous 15 15 .metres .miles
  have hq : (c.compile s).result = .ok q := rfl
  refine ⟨hdigits, ?_, hq, hcompiled c s q hq⟩
  intro h
  exact absurd ((hsame hdigits).mp h).2 (by decide)

end Compiler
end Criteria
