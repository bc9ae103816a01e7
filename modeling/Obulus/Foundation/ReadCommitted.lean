import Mathlib.Algebra.Order.Ring.Int
import Mathlib.Data.Fintype.Basic
import Obulus.Foundation.Trace

namespace Obulus.Foundation.ReadCommitted

-- databases, their rows and cells, results, what a statement draws from outside, places in a program
variable {δ κ υ ω ι τ ν ρ : Type} {view : κ → δ → υ}

structure Write (view : κ → δ → υ) where
  rows : List κ
  run : δ → δ
  frame : ∀ d, ∀ k ∉ rows, view k (run d) = view k d

instance two_processes : NeZero 2 := ⟨Nat.succ_ne_zero 1⟩

-- an operation that finishes drops the transaction it has open
inductive Outcome (view : κ → δ → υ) (ω τ : Type)
  | next (locked : List κ) (writes : List (Write view)) (place : τ)
  | commit (place : τ)
  | finish (result : ω)

-- operations as sequences of statements, each a function of the rows its session sees
structure Program (view : κ → δ → υ) (ρ ω ι τ : Type) where
  entry : ρ → τ
  statement : ι → τ → δ → Outcome view ω τ

def Outcome.map {ω' τ' : Type} (f : ω → ω') (g : τ → τ') : Outcome view ω τ → Outcome view ω' τ'
  | .next locked writes place => .next locked writes (g place)
  | .commit place => .commit (g place)
  | .finish result => .finish (f result)

structure Session (view : κ → δ → υ) (τ : Type) where
  place : Option τ
  writes : List (Write view)
  held : List κ

def Session.idle : Session view τ := ⟨none, [], []⟩

def runWrites (writes : List (Write view)) (d : δ) : δ := writes.foldl (fun d w => w.run d) d

def rowsOf (writes : List (Write view)) : List κ := writes.flatMap Write.rows

-- a session sees what is committed and what it wrote itself
def Session.visible (s : Session view τ) (d : δ) : δ := runWrites s.writes d

structure World (view : κ → δ → υ) (ν τ : Type) where
  db : δ
  sessions : ν → Session view τ

inductive Event (ν ρ ι : Type)
  | start (session : ν) (request : ρ)
  | advance (session : ν) (input : ι)
  | lose (session : ν)

-- a statement whose error ends the operation
def statement {ε α : Type} (x : Except ε (Outcome view (Except ε α) τ)) :
    Outcome view (Except ε α) τ :=
  match x with
  | .ok outcome => outcome
  | .error e => .finish (.error e)

section Outcomes

variable {ω' τ' : Type} {f : ω → ω'} {g : τ → τ'} {outcome : Outcome view ω τ} {locked : List κ}
  {writes : List (Write view)} {place : τ'}

theorem Outcome.map_eq_next (h : outcome.map f g = .next locked writes place) :
    ∃ place', outcome = .next locked writes place' ∧ g place' = place := by
  cases outcome with
  | next locked' writes' place' =>
    cases h
    exact ⟨place', rfl, rfl⟩
  | commit place' => cases h
  | finish result => cases h

theorem Outcome.map_eq_commit (h : outcome.map f g = .commit place) :
    ∃ place', outcome = .commit place' ∧ g place' = place := by
  cases outcome with
  | next locked' writes' place' => cases h
  | commit place' =>
    cases h
    exact ⟨place', rfl, rfl⟩
  | finish result => cases h

variable {ε α : Type} {x : Except ε (Outcome view (Except ε α) τ)} {place'' : τ}

theorem statement_eq_next :
    statement x = .next locked writes place'' ↔ x = .ok (.next locked writes place'') := by
  rcases x with e | outcome <;> simp [statement]

theorem statement_eq_commit : statement x = .commit place'' ↔ x = .ok (.commit place'') := by
  rcases x with e | outcome <;> simp [statement]

end Outcomes

section Frame

variable {writes writes' : List (Write view)} {d : δ} {k : κ}

theorem runWrites_append : runWrites (writes ++ writes') d = runWrites writes' (runWrites writes d) :=
  List.foldl_append

theorem rowsOf_append : rowsOf (writes ++ writes') = rowsOf writes ++ rowsOf writes' :=
  List.flatMap_append

@[simp] theorem runWrites_nil : runWrites ([] : List (Write view)) d = d := rfl

@[simp] theorem runWrites_cons {w : Write view} : runWrites (w :: writes) d = runWrites writes (w.run d) :=
  rfl

theorem runWrites_frame (h : k ∉ rowsOf writes) : view k (runWrites writes d) = view k d := by
  induction writes generalizing d with
  | nil => rfl
  | cons w writes ih =>
    simp only [rowsOf, List.flatMap_cons, List.mem_append, not_or] at h
    have hrest := ih (d := w.run d) h.2
    exact hrest.trans (w.frame d k h.1)

end Frame

section Steps

variable [DecidableEq ν] [DecidableEq κ] [Fintype ν]

def World.set (w : World view ν τ) (p : ν) (s : Session view τ) : World view ν τ :=
  { w with sessions := Function.update w.sessions p s }

-- a statement waits for the rows that another session holds
def Blocked (w : World view ν τ) (p : ν) (rows : List κ) : Prop :=
  ∃ q, q ≠ p ∧ ∃ k ∈ rows, k ∈ (w.sessions q).held

instance (w : World view ν τ) (p : ν) (rows : List κ) : Decidable (Blocked w p rows) :=
  inferInstanceAs (Decidable (∃ q, q ≠ p ∧ ∃ k ∈ rows, k ∈ (w.sessions q).held))

def advance (prog : Program view ρ ω ι τ) (w : World view ν τ) (p : ν) (place : τ) (input : ι) :
    Option (World view ν τ) :=
  let s := w.sessions p
  match prog.statement input place (s.visible w.db) with
  | .next locked writes place' =>
    if Blocked w p (locked ++ rowsOf writes) then none
    else some (w.set p ⟨some place', s.writes ++ writes, s.held ++ (locked ++ rowsOf writes)⟩)
  | .commit place' => some ({ w with db := s.visible w.db }.set p ⟨some place', [], []⟩)
  | .finish _ => some (w.set p .idle)

def exec (prog : Program view ρ ω ι τ) (w : World view ν τ) :
    Event ν ρ ι → Option (World view ν τ)
  | .start p request =>
    match (w.sessions p).place with
    | none => some (w.set p ⟨some (prog.entry request), [], []⟩)
    | some _ => none
  | .advance p input =>
    match (w.sessions p).place with
    | none => none
    | some place => advance prog w p place input
  | .lose p => some (w.set p .idle)

def Step (prog : Program view ρ ω ι τ) (w : World view ν τ) (ev : Event ν ρ ι)
    (v : World view ν τ) : Prop :=
  exec prog w ev = some v

-- the rows of a session's writes are its own, and no row is held twice
structure Disciplined (w : World view ν τ) : Prop where
  covered : ∀ p, ∀ k ∈ rowsOf (w.sessions p).writes, k ∈ (w.sessions p).held
  disjoint : ∀ p q, p ≠ q → ∀ k ∈ (w.sessions p).held, k ∉ (w.sessions q).held

variable {prog : Program view ρ ω ι τ} {w v : World view ν τ} {ev : Event ν ρ ι} {p q : ν}
  {s : Session view τ}

omit [DecidableEq κ] [Fintype ν] in
@[simp] theorem set_db : (w.set p s).db = w.db := rfl

omit [DecidableEq κ] [Fintype ν] in
@[simp] theorem set_same : (w.set p s).sessions p = s := Function.update_self ..

omit [DecidableEq κ] [Fintype ν] in
theorem set_other (h : q ≠ p) : (w.set p s).sessions q = w.sessions q :=
  Function.update_of_ne h ..

omit [DecidableEq κ] [Fintype ν] in
theorem Disciplined.set (h : Disciplined w) (hcovered : ∀ k ∈ rowsOf s.writes, k ∈ s.held)
    (hdisjoint : ∀ q, q ≠ p → ∀ k ∈ s.held, k ∉ (w.sessions q).held) : Disciplined (w.set p s) := by
  refine ⟨?_, ?_⟩
  · intro q
    by_cases hq : q = p
    · subst hq
      rw [set_same]
      exact hcovered
    · rw [set_other hq]
      exact h.covered q
  · intro q r hqr k hk
    by_cases hq : q = p
    · subst hq
      rw [set_same] at hk
      rw [set_other hqr.symm]
      exact hdisjoint r hqr.symm k hk
    · rw [set_other hq] at hk
      by_cases hr : r = p
      · subst hr
        rw [set_same]
        exact fun hmem => hdisjoint q hq k hmem hk
      · rw [set_other hr]
        exact h.disjoint q r hqr k hk

omit [DecidableEq κ] [Fintype ν] in
theorem Disciplined.fresh (h : Disciplined w) (place : Option τ) :
    Disciplined (w.set p ⟨place, [], []⟩) :=
  h.set (by simp [rowsOf]) (by simp)

-- what one step is
theorem step_cases (h : Step prog w ev v) :
    (∃ p request, ev = .start p request ∧ (w.sessions p).place = none ∧
      v = w.set p ⟨some (prog.entry request), [], []⟩) ∨
    (∃ p input place locked writes place', ev = .advance p input ∧
      (w.sessions p).place = some place ∧
      prog.statement input place ((w.sessions p).visible w.db) = .next locked writes place' ∧
      ¬Blocked w p (locked ++ rowsOf writes) ∧
      v = w.set p ⟨some place', (w.sessions p).writes ++ writes,
        (w.sessions p).held ++ (locked ++ rowsOf writes)⟩) ∨
    (∃ p input place place', ev = .advance p input ∧ (w.sessions p).place = some place ∧
      prog.statement input place ((w.sessions p).visible w.db) = .commit place' ∧
      v = { w with db := (w.sessions p).visible w.db }.set p ⟨some place', [], []⟩) ∨
    (∃ p, v = w.set p .idle ∧ (ev = .lose p ∨ ∃ input place result, ev = .advance p input ∧
      (w.sessions p).place = some place ∧
      prog.statement input place ((w.sessions p).visible w.db) = .finish result)) := by
  cases ev with
  | start p request =>
    simp only [Step, exec] at h
    split at h
    · next hplace => exact .inl ⟨p, request, rfl, hplace, (Option.some.inj h).symm⟩
    · cases h
  | advance p input =>
    simp only [Step, exec] at h
    split at h
    · cases h
    · next place hplace =>
      simp only [advance] at h
      split at h
      · next locked writes place' hstatement =>
        split at h
        · cases h
        · next hfree =>
          exact .inr (.inl ⟨p, input, place, locked, writes, place', rfl, hplace, hstatement, hfree,
            (Option.some.inj h).symm⟩)
      · next place' hstatement =>
        exact .inr (.inr (.inl ⟨p, input, place, place', rfl, hplace, hstatement,
          (Option.some.inj h).symm⟩))
      · next result hstatement =>
        exact .inr (.inr (.inr ⟨p, (Option.some.inj h).symm,
          .inr ⟨input, place, result, rfl, hplace, hstatement⟩⟩))
  | lose p => exact .inr (.inr (.inr ⟨p, (Option.some.inj h).symm, .inl rfl⟩))

theorem Disciplined.step (h : Disciplined w) (hstep : Step prog w ev v) : Disciplined v := by
  obtain ⟨p, request, -, -, rfl⟩ | ⟨p, input, place, locked, writes, place', -, -, -, hfree, rfl⟩ |
    ⟨p, input, place, place', -, -, -, rfl⟩ | ⟨p, rfl, -⟩ := step_cases hstep
  · exact h.fresh _
  · refine h.set ?_ ?_
    · intro k hk
      rw [rowsOf_append, List.mem_append] at hk
      simp only [List.mem_append]
      rcases hk with hk | hk
      · exact .inl (h.covered p k hk)
      · exact .inr (.inr hk)
    · intro q hq k hk hheld
      rcases List.mem_append.mp hk with hk | hk
      · exact h.disjoint p q hq.symm k hk hheld
      · exact hfree ⟨q, hq, k, hk, hheld⟩
  · have hsame : Disciplined { w with db := (w.sessions p).visible w.db } :=
      ⟨h.covered, h.disjoint⟩
    exact hsame.fresh _
  · exact h.fresh none

omit [DecidableEq ν] [DecidableEq κ] [Fintype ν] in
-- a commit leaves alone the rows that another session holds
theorem Disciplined.commit_frame (h : Disciplined w) (hpq : q ≠ p) :
    ∀ k ∈ (w.sessions q).held, view k ((w.sessions p).visible w.db) = view k w.db := by
  intro k hk
  apply runWrites_frame
  intro hmem
  exact h.disjoint q p hpq k hk (h.covered p k hmem)

end Steps

section Outlines

-- what a place knows of its session's writes over any database that agrees with the current one on
-- the rows the session holds
structure Outline (prog : Program view ρ ω ι τ) (condition : ι → τ → δ → Prop)
    (inv : δ → Prop) (facts : τ → List (Write view) → δ → Prop) : Prop where
  entry : ∀ request d, facts (prog.entry request) [] d
  next : ∀ input place writes d d' locked writes' place', inv d → facts place writes d →
    facts place writes d' → condition input place (runWrites writes d) →
    prog.statement input place (runWrites writes d) = .next locked writes' place' →
    (∀ k ∈ locked ++ rowsOf writes', view k d' = view k d) → facts place' (writes ++ writes') d'
  commit : ∀ input place writes d place', inv d → facts place writes d →
    prog.statement input place (runWrites writes d) = .commit place' →
    inv (runWrites writes d) ∧ ∀ d', facts place' [] d'

variable [DecidableEq ν] [DecidableEq κ] [Fintype ν] {prog : Program view ρ ω ι τ}
  {condition : ι → τ → δ → Prop} {inv : δ → Prop} {facts : τ → List (Write view) → δ → Prop}
  {w v : World view ν τ} {ev : Event ν ρ ι} {evs : List (Event ν ρ ι)}

-- the statement that an event runs meets the condition
def Meets (condition : ι → τ → δ → Prop) (w : World view ν τ) : Event ν ρ ι → Prop
  | .start _ _ | .lose _ => True
  | .advance p input => ∀ place, (w.sessions p).place = some place →
    condition input place ((w.sessions p).visible w.db)

instance [∀ input place d, Decidable (condition input place d)] :
    Decidable (Meets condition w ev) :=
  match ev with
  | .start _ _ | .lose _ => .isTrue trivial
  | .advance p input =>
    match h : (w.sessions p).place with
    | none => .isTrue fun place hplace => by
        rw [h] at hplace
        cases hplace
    | some place =>
      decidable_of_iff (condition input place ((w.sessions p).visible w.db))
        ⟨fun hmeets place' hplace => by
          rw [h] at hplace
          cases hplace
          exact hmeets, fun hmeets => hmeets place h⟩

-- an execution that stops where the condition fails
def execMeeting (prog : Program view ρ ω ι τ) (condition : ι → τ → δ → Prop)
    [∀ input place d, Decidable (condition input place d)] (w : World view ν τ)
    (ev : Event ν ρ ι) : Option (World view ν τ) :=
  if Meets condition w ev then exec prog w ev else none

theorem execMeeting_trace [∀ input place d, Decidable (condition input place d)]
    (h : runWith (execMeeting prog condition) w evs = some v) :
    Trace (fun u e u' => Step prog u e u' ∧ Meets condition u e) w evs v := by
  refine runWith_trace ?_ h
  intro u e u' hstep
  simp only [execMeeting] at hstep
  split at hstep
  · next hmeets => exact ⟨hstep, hmeets⟩
  · cases hstep

structure Annotated (inv : δ → Prop) (facts : τ → List (Write view) → δ → Prop)
    (w : World view ν τ) : Prop where
  disciplined : Disciplined w
  inv : inv w.db
  known : ∀ p place, (w.sessions p).place = some place →
    ∀ d, (∀ k ∈ (w.sessions p).held, view k d = view k w.db) → facts place (w.sessions p).writes d

omit [DecidableEq κ] [Fintype ν] in
theorem Annotated.set (h : Annotated inv facts w) {p : ν} {s : Session view τ}
    (hdisciplined : Disciplined (w.set p s))
    (hs : ∀ place, s.place = some place →
      ∀ d, (∀ k ∈ s.held, view k d = view k w.db) → facts place s.writes d) :
    Annotated inv facts (w.set p s) := by
  refine ⟨hdisciplined, h.inv, ?_⟩
  intro q place hplace
  by_cases hq : q = p
  · subst hq
    rw [set_same] at hplace ⊢
    exact hs place hplace
  · rw [set_other hq] at hplace ⊢
    exact h.known q place hplace

theorem Outline.step (o : Outline prog condition inv facts) (h : Annotated inv facts w)
    (hstep : Step prog w ev v) (hmeets : Meets condition w ev) : Annotated inv facts v := by
  have hdisciplined := h.disciplined.step hstep
  obtain ⟨p, request, -, -, rfl⟩ | ⟨p, input, place, locked, writes, place', rfl, hplace, hstatement,
    -, rfl⟩ | ⟨p, input, place, place', rfl, hplace, hstatement, rfl⟩ |
    ⟨p, rfl, -⟩ := step_cases hstep
  · apply h.set hdisciplined
    intro place hplace d _
    cases hplace
    exact o.entry request d
  · apply h.set hdisciplined
    intro place'' hplace'' d hd
    cases hplace''
    have hhere := h.known p place hplace w.db fun _ _ => rfl
    have hthere := h.known p place hplace d fun k hk => hd k (List.mem_append_left _ hk)
    exact o.next input place _ w.db d locked writes place' h.inv hhere hthere (hmeets place hplace)
      hstatement fun k hk => hd k (List.mem_append_right _ hk)
  · have hhere := h.known p place hplace w.db fun _ _ => rfl
    obtain ⟨hinv, hnext⟩ := o.commit input place _ w.db place' h.inv hhere hstatement
    refine ⟨hdisciplined, hinv, ?_⟩
    intro q place'' hplace'' d hd
    by_cases hq : q = p
    · subst hq
      rw [set_same] at hplace'' ⊢
      cases hplace''
      exact hnext d
    · rw [set_other hq] at hplace'' hd ⊢
      have hframe := h.disciplined.commit_frame hq
      exact h.known q place'' hplace'' d fun k hk => (hd k hk).trans (hframe k hk)
  · apply h.set hdisciplined
    intro place' hplace'
    cases hplace'

omit [DecidableEq ν] [DecidableEq κ] [Fintype ν] in
theorem annotated_idle (hinv : inv w.db) (hidle : ∀ p, w.sessions p = .idle) :
    Annotated inv facts w := by
  refine ⟨⟨?_, ?_⟩, hinv, ?_⟩
  · intro p
    rw [hidle p]
    simp [Session.idle, rowsOf]
  · intro p q _
    rw [hidle p]
    simp [Session.idle]
  · intro p place hplace
    rw [hidle p] at hplace
    cases hplace

theorem Outline.run (o : Outline prog condition inv facts) (h : Annotated inv facts w)
    (hrun : Trace (fun u e u' => Step prog u e u' ∧ Meets condition u e) w evs v) :
    Annotated inv facts v :=
  hrun.invariant h fun _ _ _ hu hstep => o.step hu hstep.1 hstep.2

end Outlines

end Obulus.Foundation.ReadCommitted
