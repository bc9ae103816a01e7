import Mathlib.Data.Option.Basic

namespace Obulus.Foundation

-- the value of an SQL condition, `none` for NULL
abbrev Truth := Option Bool

namespace Truth

variable {α : Type} {t u : Truth} {ts : List Truth} {p : Prop} [Decidable p] {r : α → α → Prop}
  [DecidableRel r] {a b : Option α}

def holds (t : Truth) : Prop := t = some true

def fails (t : Truth) : Prop := t = some false

instance : Decidable t.holds := inferInstanceAs (Decidable (t = some true))

instance : Decidable t.fails := inferInstanceAs (Decidable (t = some false))

-- a condition no operand of which is NULL
def is (p : Prop) [Decidable p] : Truth := some (decide p)

-- NULL when an operand is
def compare (r : α → α → Prop) [DecidableRel r] (a b : Option α) : Truth :=
  a.bind fun x => b.map fun y => decide (r x y)

def not (t : Truth) : Truth := t.map Bool.not

def and : Truth → Truth → Truth
  | some false, _ => some false
  | some true, u => u
  | none, some false => some false
  | none, _ => none

def or (t u : Truth) : Truth := not (and (not t) (not u))

def all (ts : List Truth) : Truth := ts.foldr and (some true)

def any (ts : List Truth) : Truth := ts.foldr or (some false)

def nullif [DecidableEq α] (a : Option α) (x : α) : Option α := a.filter fun y => y ≠ x

@[simp] theorem holds_is : (is p).holds ↔ p := by
  simp [holds, is]

@[simp] theorem fails_is : (is p).fails ↔ ¬p := by
  simp [fails, is]

@[simp] theorem holds_compare : (compare r a b).holds ↔ ∃ x y, a = some x ∧ b = some y ∧ r x y := by
  cases a <;> cases b <;> simp [holds, compare]

@[simp] theorem fails_compare :
    (compare r a b).fails ↔ ∃ x y, a = some x ∧ b = some y ∧ ¬r x y := by
  cases a <;> cases b <;> simp [fails, compare]

@[simp] theorem holds_not : t.not.holds ↔ t.fails := by
  rcases t with _ | _ | _ <;> simp [holds, fails, not]

@[simp] theorem fails_not : t.not.fails ↔ t.holds := by
  rcases t with _ | _ | _ <;> simp [holds, fails, not]

@[simp] theorem holds_and : (t.and u).holds ↔ t.holds ∧ u.holds := by
  rcases t with _ | _ | _ <;> rcases u with _ | _ | _ <;> simp [holds, and]

@[simp] theorem fails_and : (t.and u).fails ↔ t.fails ∨ u.fails := by
  rcases t with _ | _ | _ <;> rcases u with _ | _ | _ <;> simp [fails, and]

@[simp] theorem holds_or : (t.or u).holds ↔ t.holds ∨ u.holds := by
  simp [or]

@[simp] theorem fails_or : (t.or u).fails ↔ t.fails ∧ u.fails := by
  simp [or]

@[simp] theorem holds_all_nil : (all []).holds := rfl

@[simp] theorem fails_all_nil : ¬(all []).fails := by
  simp [all, fails]

@[simp] theorem holds_all_cons : (all (t :: ts)).holds ↔ t.holds ∧ (all ts).holds :=
  holds_and

@[simp] theorem fails_all_cons : (all (t :: ts)).fails ↔ t.fails ∨ (all ts).fails :=
  fails_and

@[simp] theorem holds_any_nil : ¬(any []).holds := by
  simp [any, holds]

@[simp] theorem fails_any_nil : (any []).fails := rfl

@[simp] theorem holds_any_cons : (any (t :: ts)).holds ↔ t.holds ∨ (any ts).holds :=
  holds_or

@[simp] theorem fails_any_cons : (any (t :: ts)).fails ↔ t.fails ∧ (any ts).fails :=
  fails_or

@[simp] theorem nullif_eq_none [DecidableEq α] {x : α} :
    nullif a x = none ↔ ∀ y, a = some y → y = x := by
  cases a <;> simp [nullif]

end Truth

end Obulus.Foundation
