import Mathlib.Algebra.Order.Ring.Int
import Mathlib.Tactic.Common

namespace Obulus.Foundation

variable {ε α β : Type}

def reject (p : Prop) [Decidable p] (e : ε) : Except ε Unit :=
  if p then .error e else .ok ()

def orReject (x : Option α) (e : ε) : Except ε α :=
  match x with
  | some a => .ok a
  | none => .error e

theorem bind_eq_ok {x : Except ε α} {f : α → Except ε β} {b : β} :
    (x >>= f) = .ok b ↔ ∃ a, x = .ok a ∧ f a = .ok b := by
  cases x with
  | error e => simp [bind, Except.bind]
  | ok a => simp [bind, Except.bind]

theorem ok_bind (a : α) (f : α → Except ε β) : (Except.ok a >>= f) = f a := rfl

@[simp] theorem reject_eq_ok {p : Prop} [Decidable p] {e : ε} {u : Unit} :
    reject p e = .ok u ↔ ¬p := by
  by_cases h : p <;> simp [reject, h]

@[simp] theorem orReject_eq_ok {x : Option α} {e : ε} {a : α} :
    orReject x e = .ok a ↔ x = some a := by
  cases x <;> simp [orReject]

theorem pure_eq_ok {a b : α} : (pure a : Except ε α) = .ok b ↔ a = b := by
  simp [pure, Except.pure]

theorem map_eq_ok {x : Except ε α} {f : α → β} {b : β} :
    x.map f = .ok b ↔ ∃ a, x = .ok a ∧ f a = b := by
  cases x <;> simp [Except.map]

theorem ok_of_isOk {x : Except ε α} (h : x.isOk = true) : ∃ a, x = .ok a := by
  cases x with
  | error e => cases h
  | ok a => exact ⟨a, rfl⟩

theorem toOption_eq_some {x : Except ε α} {a : α} : x.toOption = some a ↔ x = .ok a := by
  cases x <;> simp [Except.toOption]

section Errors

variable {P : ε → Prop} {x : Except ε α} {f : α → Except ε β} {e : ε}

-- every error of x is one of P
def Raises (P : ε → Prop) (x : Except ε α) : Prop := ∀ e, x = .error e → P e

theorem raises_ok {a : α} : Raises P (.ok a : Except ε α) := by
  intro e h
  cases h

theorem raises_error : Raises P (.error e : Except ε α) ↔ P e := by
  constructor
  · intro h
    exact h e rfl
  · rintro h _ ⟨⟩
    exact h

theorem Raises.bind (hx : Raises P x) (hf : ∀ a, x = .ok a → Raises P (f a)) : Raises P (x >>= f) := by
  cases x with
  | error e => exact raises_error.mpr (raises_error.mp hx)
  | ok a => exact hf a rfl

theorem raises_reject {p : Prop} [Decidable p] (h : p → P e) : Raises P (reject p e) := by
  by_cases hp : p
  · rw [reject, if_pos hp]
    exact raises_error.mpr (h hp)
  · rw [reject, if_neg hp]
    exact raises_ok

theorem raises_orReject {o : Option α} (h : o = none → P e) : Raises P (orReject o e) := by
  cases o with
  | none => exact raises_error.mpr (h rfl)
  | some a => exact raises_ok

end Errors

end Obulus.Foundation
