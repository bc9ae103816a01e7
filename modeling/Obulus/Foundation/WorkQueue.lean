import Mathlib.Data.List.Basic
import Obulus.Foundation.Trace

namespace Obulus.Foundation

universe u v

-- A call takes some of the work that is due and leaves the rest of it due.
structure WorkQueue (σ : Type u) (κ : Type v) [DecidableEq κ] where
  takes : σ → List κ → σ → Prop
  ready : σ → Prop
  keys : σ → List κ
  due : σ → κ → Bool
  call : ∀ s, ready s → ∃ taken s', takes s taken s' ∧ ready s'
  keys_eq : ∀ s taken s', ready s → takes s taken s' → keys s' = keys s
  due_eq : ∀ s taken s', ready s → takes s taken s' → ∀ k,
    due s' k = (due s k && !decide (k ∈ taken))
  progress : ∀ s taken s' k, ready s → takes s taken s' → k ∈ keys s → due s k = true →
    ∃ k' ∈ taken, k' ∈ keys s ∧ due s k' = true

namespace WorkQueue

variable {σ : Type u} {κ : Type v} [DecidableEq κ] (q : WorkQueue σ κ) {s s' : σ} {k : κ}
  {taken : List κ}

def backlog (s : σ) : List κ := (q.keys s).filter (q.due s)

variable {q}

theorem backlog_takes (hs : q.ready s) (h : q.takes s taken s') :
    q.backlog s' = (q.backlog s).filter fun k => !decide (k ∈ taken) := by
  unfold backlog
  rw [q.keys_eq s taken s' hs h, List.filter_filter]
  apply List.filter_congr
  intro k _
  rw [q.due_eq s taken s' hs h, Bool.and_comm]

theorem backlog_shrinks (hs : q.ready s) (h : q.takes s taken s') (hkey : k ∈ q.keys s)
    (hdue : q.due s k = true) : (q.backlog s').length < (q.backlog s).length := by
  obtain ⟨k', htaken, hkey', hdue'⟩ := q.progress s taken s' k hs h hkey hdue
  rw [backlog_takes hs h, List.length_filter_lt_length_iff_exists]
  exact ⟨k', List.mem_filter.mpr ⟨hkey', hdue'⟩, by simpa using htaken⟩

theorem taken_eventually (hs : q.ready s) (hkey : k ∈ q.keys s) (hdue : q.due s k = true) :
    ∃ ts taken s', Trace q.takes s (ts ++ [taken]) s' ∧ k ∈ taken := by
  generalize hn : (q.backlog s).length = n
  induction n using Nat.strongRecOn generalizing s with
  | ind n ih =>
    obtain ⟨taken, s', htakes, hs'⟩ := q.call s hs
    by_cases hk : k ∈ taken
    · exact ⟨[], taken, s', Trace.single_iff.mpr htakes, hk⟩
    · have hkey' : k ∈ q.keys s' := by
        rw [q.keys_eq s taken s' hs htakes]
        exact hkey
      have hdue' : q.due s' k = true := by
        rw [q.due_eq s taken s' hs htakes, hdue]
        simpa using hk
      have hfewer := backlog_shrinks hs htakes hkey hdue
      obtain ⟨ts, last, s'', hrun, hlast⟩ :=
        ih (q.backlog s').length (by omega) hs' hkey' hdue' rfl
      exact ⟨taken :: ts, last, s'', Trace.cons_iff.mpr ⟨s', htakes, hrun⟩, hlast⟩

end WorkQueue

end Obulus.Foundation
