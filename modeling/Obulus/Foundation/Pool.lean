import Mathlib.Order.Basic
import Obulus.Foundation.Dialogue
import Obulus.Foundation.Trace

namespace Obulus.Foundation.Pool

-- programs side by side, one question at a time
structure Parties (σ ι κ α : Type) where
  state : σ
  programs : List (Dialogue ι κ α)

variable {σ τ ι κ α β : Type}

inductive Step (turn : σ → ι → κ → σ → Prop) (starts : σ → List (Dialogue ι κ α) → σ → Prop) :
    Parties σ ι κ α → Option (ι × κ) → Parties σ ι κ α → Prop
  | start {s s' : σ} {new running : List (Dialogue ι κ α)} : starts s new s' →
      Step turn starts ⟨s, running⟩ none ⟨s', new ++ running⟩
  | answer {s s' : σ} {q : ι} {r : κ} {next : κ → Dialogue ι κ α}
      {before after : List (Dialogue ι κ α)} : turn s q r s' →
      Step turn starts ⟨s, before ++ .ask q next :: after⟩ (some (q, r))
        ⟨s', before ++ next r :: after⟩

theorem Step.alone {turn : σ → ι → κ → σ → Prop} {starts : σ → List (Dialogue ι κ α) → σ → Prop}
    {s s' : σ} {q : ι} {r : κ} {next : κ → Dialogue ι κ α} (h : turn s q r s') :
    Step turn starts ⟨s, [.ask q next]⟩ (some (q, r)) ⟨s', [next r]⟩ :=
  @Step.answer _ _ _ _ turn starts s s' q r next [] [] h

section Careful

variable [Preorder τ]

-- the program asks only what it may and ends well, whatever the others do meanwhile
def Careful (may : τ → ι → Prop) (answers : τ → ι → κ → Prop) (good : τ → Option α → Prop) :
    Dialogue ι κ α → τ → Prop
  | .done a, t => good t (some a)
  | .failed, t => good t none
  | .ask q next, t => may t q ∧ ∀ u r, t ≤ u → answers u q r → Careful may answers good (next r) u

variable {may : τ → ι → Prop} {answers : τ → ι → κ → Prop} {weak : τ → Option α → Prop}
  {good : τ → Option β → Prop} {d : Dialogue ι κ α} {t u : τ}

theorem Careful.grow (hmay : ∀ t u q, t ≤ u → may t q → may u q)
    (hweak : ∀ t u a, t ≤ u → weak t a → weak u a) (h : Careful may answers weak d t) (htu : t ≤ u) :
    Careful may answers weak d u := by
  cases d with
  | done a => exact hweak t u _ htu h
  | failed => exact hweak t u _ htu h
  | ask q next =>
    refine ⟨hmay t u q htu h.1, ?_⟩
    intro v r huv hr
    exact h.2 v r (htu.trans huv) hr

theorem Careful.bind {f : α → Dialogue ι κ β} (h : Careful may answers weak d t)
    (hnone : ∀ u, t ≤ u → weak u none → good u none)
    (hsome : ∀ u a, t ≤ u → weak u (some a) → Careful may answers good (f a) u) :
    Careful may answers good (d.bind f) t := by
  induction d generalizing t with
  | done a => exact hsome t a le_rfl h
  | failed => exact hnone t le_rfl h
  | ask q next ih =>
    refine ⟨h.1, ?_⟩
    intro u r htu hr
    exact ih r (h.2 u r htu hr) (fun v huv => hnone v (htu.trans huv))
      (fun v a huv => hsome v a (htu.trans huv))

theorem Careful.orElse {b : α} {better : τ → Option α → Prop} (h : Careful may answers weak d t)
    (hnone : ∀ u, t ≤ u → weak u none → better u (some b))
    (hsome : ∀ u a, t ≤ u → weak u (some a) → better u (some a)) :
    Careful may answers better (d.orElse b) t := by
  induction d generalizing t with
  | done a => exact hsome t a le_rfl h
  | failed => exact hnone t le_rfl h
  | ask q next ih =>
    refine ⟨h.1, ?_⟩
    intro u r htu hr
    exact ih r (h.2 u r htu hr) (fun v huv => hnone v (htu.trans huv))
      (fun v a huv => hsome v a (htu.trans huv))

theorem Careful.answer {q : ι} {told : τ → Option κ → Prop} (hq : may t q)
    (htold : ∀ u r, t ≤ u → answers u q r → told u (some r)) :
    Careful may answers told (.answer q) t := ⟨hq, htold⟩

-- a contract of the world with its programs: what they may ask keeps the invariant
structure Contract (turn : σ → ι → κ → σ → Prop) (starts : σ → List (Dialogue ι κ α) → σ → Prop)
    (view : σ → τ) (invariant : σ → Prop) (may : τ → ι → Prop) (answers : τ → ι → κ → Prop)
    (weak : τ → Option α → Prop) : Prop where
  may_grow : ∀ t u q, t ≤ u → may t q → may u q
  weak_grow : ∀ t u a, t ≤ u → weak t a → weak u a
  turn : ∀ s q r s', invariant s → may (view s) q → turn s q r s' →
    invariant s' ∧ view s ≤ view s' ∧ answers (view s') q r
  starts : ∀ s new s', invariant s → starts s new s' →
    invariant s' ∧ view s ≤ view s' ∧ ∀ d ∈ new, Careful may answers weak d (view s')

variable {turn : σ → ι → κ → σ → Prop} {starts : σ → List (Dialogue ι κ α) → σ → Prop}
  {view : σ → τ} {invariant : σ → Prop} {p p' : Parties σ ι κ α} {e : Option (ι × κ)}
  {events : List (Option (ι × κ))}

structure Sound (view : σ → τ) (invariant : σ → Prop) (may : τ → ι → Prop)
    (answers : τ → ι → κ → Prop) (weak : τ → Option α → Prop) (p : Parties σ ι κ α) : Prop where
  invariant : invariant p.state
  careful : ∀ d ∈ p.programs, Careful may answers weak d (view p.state)

theorem Contract.step (c : Contract turn starts view invariant may answers weak)
    (h : Sound view invariant may answers weak p) (hstep : Step turn starts p e p') :
    Sound view invariant may answers weak p' := by
  cases hstep with
  | start hstarts =>
    obtain ⟨hinvariant, hgrow, hnew⟩ := c.starts _ _ _ h.invariant hstarts
    refine ⟨hinvariant, ?_⟩
    intro d hd
    rcases List.mem_append.mp hd with hd | hd
    · exact hnew d hd
    · exact (h.careful d hd).grow c.may_grow c.weak_grow hgrow
  | @answer s s' q r next before after hturn =>
    have hasking := h.careful (.ask q next) (List.mem_append_right _ List.mem_cons_self)
    obtain ⟨hinvariant, hgrow, hanswer⟩ := c.turn _ _ _ _ h.invariant hasking.1 hturn
    refine ⟨hinvariant, ?_⟩
    intro d hd
    rcases List.mem_append.mp hd with hd | hd
    · exact (h.careful d (List.mem_append_left _ hd)).grow c.may_grow c.weak_grow hgrow
    · rcases List.mem_cons.mp hd with rfl | hd
      · exact hasking.2 _ _ hgrow hanswer
      · have hother := h.careful d (List.mem_append_right _ (List.mem_cons_of_mem _ hd))
        exact hother.grow c.may_grow c.weak_grow hgrow

theorem Contract.run (c : Contract turn starts view invariant may answers weak)
    (h : Sound view invariant may answers weak p) (hrun : Trace (Step turn starts) p events p') :
    Sound view invariant may answers weak p' :=
  hrun.invariant h fun _ _ _ => c.step

end Careful

end Obulus.Foundation.Pool
