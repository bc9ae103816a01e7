import Mathlib.Order.Basic

namespace Obulus.Foundation

-- A program that asks an outside party questions and may give up.
inductive Dialogue (ι κ α : Type)
  | done (result : α)
  | failed
  | ask (request : ι) (next : κ → Dialogue ι κ α)

namespace Dialogue

variable {ι κ α β σ : Type}

def bind : Dialogue ι κ α → (α → Dialogue ι κ β) → Dialogue ι κ β
  | done a, f => f a
  | failed, _ => failed
  | ask q next, f => ask q fun r => bind (next r) f

instance : Monad (Dialogue ι κ) where
  pure := done
  bind := bind

def answer (request : ι) : Dialogue ι κ κ := ask request done

def result? : Dialogue ι κ α → Option α
  | done a => some a
  | _ => none

@[simp] theorem pure_def (a : α) : (pure a : Dialogue ι κ α) = done a := rfl

@[simp] theorem bind_def (d : Dialogue ι κ α) (f : α → Dialogue ι κ β) : d >>= f = d.bind f := rfl

@[simp] theorem done_bind (a : α) (f : α → Dialogue ι κ β) : (done a).bind f = f a := rfl

@[simp] theorem failed_bind (f : α → Dialogue ι κ β) : (failed : Dialogue ι κ α).bind f = failed :=
  rfl

section Yields

variable [Preorder σ]

-- Every result the program can reach from state `s` on, asking while the state grows, is good.
def Yields (answers : σ → ι → κ → Prop) (good : σ → α → Prop) : Dialogue ι κ α → σ → Prop
  | done a, s => good s a
  | failed, _ => True
  | ask q next, s => ∀ t r, s ≤ t → answers t q r → Yields answers good (next r) t

variable {answers : σ → ι → κ → Prop} {good good' : σ → α → Prop} {s t : σ} {d : Dialogue ι κ α}

theorem Yields.grow (hgood : ∀ s t a, s ≤ t → good s a → good t a) (h : Yields answers good d s)
    (hst : s ≤ t) : Yields answers good d t := by
  cases d with
  | done a => exact hgood s t a hst h
  | failed => trivial
  | ask q next => exact fun u r htu hr => h u r (hst.trans htu) hr

theorem Yields.reply {q : ι} {next : κ → Dialogue ι κ α} {r : κ}
    (h : Yields answers good (ask q next) s) (hst : s ≤ t) (hr : answers t q r) :
    Yields answers good (next r) t := h t r hst hr

theorem Yields.bind {after : σ → β → Prop} {f : α → Dialogue ι κ β} (h : Yields answers good d s)
    (hf : ∀ t a, s ≤ t → good t a → Yields answers after (f a) t) :
    Yields answers after (d.bind f) s := by
  induction d generalizing s with
  | done a => exact hf s a le_rfl h
  | failed => trivial
  | ask q next ih =>
    intro t r hst hr
    exact ih r (h t r hst hr) fun u a htu => hf u a (hst.trans htu)

theorem Yields.weaken (h : Yields answers good d s)
    (hgood : ∀ t a, s ≤ t → good t a → good' t a) : Yields answers good' d s := by
  induction d generalizing s with
  | done a => exact hgood s a le_rfl h
  | failed => trivial
  | ask q next ih =>
    intro t r hst hr
    exact ih r (h t r hst hr) fun u a htu => hgood u a (hst.trans htu)

end Yields

section Ends

-- However each question is answered, the program ends well; giving up is ending with none.
def Ends (answers : ι → κ → Prop) (good : Option α → Prop) : Dialogue ι κ α → Prop
  | done a => good (some a)
  | failed => good none
  | ask q next => ∀ r, answers q r → Ends answers good (next r)

variable {answers fewer : ι → κ → Prop} {good : Option β → Prop} {weak weaker : Option α → Prop}
  {d : Dialogue ι κ α} {f : α → Dialogue ι κ β}

theorem Ends.bind (h : d.Ends answers weak) (hnone : weak none → good none)
    (hf : ∀ a, weak (some a) → (f a).Ends answers good) : (d.bind f).Ends answers good := by
  induction d with
  | done a => exact hf a h
  | failed => exact hnone h
  | ask q next ih => exact fun r hr => ih r (h r hr)

theorem Ends.weaken (h : d.Ends answers weak) (hanswers : ∀ q r, fewer q r → answers q r)
    (hgood : ∀ a, weak a → weaker a) : d.Ends fewer weaker := by
  induction d with
  | done a => exact hgood _ h
  | failed => exact hgood _ h
  | ask q next ih => exact fun r hr => ih r (h r (hanswers q r hr))

-- the run in which each question has its own reply
def play (reply : ι → κ) : Dialogue ι κ α → Option α
  | done a => some a
  | failed => none
  | ask q next => play reply (next (reply q))

theorem play_bind {reply : ι → κ} {f : α → Dialogue ι κ β} :
    (d.bind f).play reply = (d.play reply).bind fun a => (f a).play reply := by
  induction d with
  | done a => rfl
  | failed => rfl
  | ask q next ih => exact ih (reply q)

theorem Ends.play {reply : ι → κ} (h : d.Ends answers weak) (hreply : ∀ q, answers q (reply q)) :
    weak (d.play reply) := by
  induction d with
  | done a => exact h
  | failed => exact h
  | ask q next ih => exact ih (reply q) (h (reply q) (hreply q))

end Ends

section Rescue

variable {answers : ι → κ → Prop} {weak good : Option α → Prop} {cost : ι → Nat} {n m : Nat}
  {d : Dialogue ι κ α} {f : α → Dialogue ι κ β}

-- what is said instead of giving up
def orElse : Dialogue ι κ α → α → Dialogue ι κ α
  | done a, _ => done a
  | failed, b => done b
  | ask q next, b => ask q fun r => orElse (next r) b

theorem Ends.orElse {b : α} (h : d.Ends answers weak) (hnone : weak none → good (some b))
    (hsome : ∀ a, weak (some a) → good (some a)) : (d.orElse b).Ends answers good := by
  induction d with
  | done a => exact hsome a h
  | failed => exact hnone h
  | ask q next ih => exact fun r hr => ih r (h r hr)

theorem play_orElse {reply : ι → κ} {b : α} :
    (d.orElse b).play reply = some ((d.play reply).getD b) := by
  induction d with
  | done a => rfl
  | failed => rfl
  | ask q next ih => exact ih (reply q)

-- however it is answered, the questions it asks cost no more
def AtMost (cost : ι → Nat) : Dialogue ι κ α → Nat → Prop
  | done _, _ => True
  | failed, _ => True
  | ask q next, n => cost q ≤ n ∧ ∀ r, AtMost cost (next r) (n - cost q)

theorem AtMost.mono (h : d.AtMost cost n) (hnm : n ≤ m) : d.AtMost cost m := by
  induction d generalizing n m with
  | done a => trivial
  | failed => trivial
  | ask q next ih => exact ⟨Nat.le_trans h.1 hnm, fun r => ih r (h.2 r) (Nat.sub_le_sub_right hnm _)⟩

theorem AtMost.bind (h : d.AtMost cost n) (hf : ∀ a, (f a).AtMost cost m) :
    (d.bind f).AtMost cost (n + m) := by
  induction d generalizing n with
  | done a => exact (hf a).mono (Nat.le_add_left m n)
  | failed => trivial
  | ask q next ih =>
    refine ⟨Nat.le_add_right_of_le h.1, ?_⟩
    intro r
    rw [Nat.sub_add_comm h.1]
    exact ih r (h.2 r)

theorem AtMost.orElse {b : α} (h : d.AtMost cost n) : (d.orElse b).AtMost cost n := by
  induction d generalizing n with
  | done a => trivial
  | failed => trivial
  | ask q next ih => exact ⟨h.1, fun r => ih r (h.2 r)⟩

end Rescue

end Dialogue

end Obulus.Foundation
