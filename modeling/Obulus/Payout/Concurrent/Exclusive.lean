import Obulus.Foundation.Trace
import Obulus.Payout.Concurrent.Facts
import Obulus.Payout.Guarantees

namespace Obulus.Payout.Concurrent

open Foundation Store ReadCommitted

variable {ν : Type} [DecidableEq ν] [Fintype ν] {enc : Encoding} {c : String} {d v : Shared}

abbrev Processes (ν : Type) := ReadCommitted.World view ν Place

abbrev Happening (ν : Type) := ReadCommitted.Event ν Request Input

section Outline

def facts (place : Place) (writes : List (Write view)) (d : Shared) : Prop :=
  match place with
  | .lease request place => leaseFacts request place writes d
  | .prepare request place => prepareFacts request place writes d
  | .complete request place => completeFacts request place writes d
  | .fail request place => failFacts request place writes d

theorem outline (enc : Encoding) : Outline (program enc) Unraced Sound facts := by
  refine ⟨?_, ?_, ?_⟩
  · intro request d
    cases request <;> rfl
  · intro input place writes d d' locked writes' place' hinv hhere hthere hsteady hrun hagree
    cases place with
    | lease request place =>
      obtain ⟨next, hnext, rfl⟩ := Outcome.map_eq_next hrun
      exact lease_next hinv hhere hthere hsteady hnext hagree
    | prepare request place =>
      obtain ⟨next, hnext, rfl⟩ := Outcome.map_eq_next hrun
      exact prepare_next hthere hsteady hnext hagree
    | complete request place =>
      obtain ⟨next, hnext, rfl⟩ := Outcome.map_eq_next hrun
      exact complete_next hthere hsteady hnext hagree
    | fail request place =>
      obtain ⟨next, hnext, rfl⟩ := Outcome.map_eq_next hrun
      exact fail_next hthere hsteady hnext hagree
  · intro input place writes d place' hinv hhere hrun
    cases place with
    | lease request place =>
      obtain ⟨next, hnext, rfl⟩ := Outcome.map_eq_commit hrun
      exact lease_commit hinv hhere hnext
    | prepare request place =>
      obtain ⟨next, hnext, rfl⟩ := Outcome.map_eq_commit hrun
      exact prepare_commit hinv hhere hnext
    | complete request place =>
      obtain ⟨next, hnext, rfl⟩ := Outcome.map_eq_commit hrun
      exact complete_commit hinv hhere hnext
    | fail request place =>
      obtain ⟨next, hnext, rfl⟩ := Outcome.map_eq_commit hrun
      exact fail_commit hinv hhere hnext

end Outline

section Records

-- what the workers and the database have seen of a run
inductive Record
  | leased (now : Nat) (workerId : String) (leaseExpiresAt : Nat) (claims : List String)
  | gaveUp (claimId workerId : String)
  | prepared (claimId signature : String)
  | abandoned (claimId signature : String)
  deriving DecidableEq, Repr

def signatureOf (db : Shared) (claimId : String) : Option String :=
  (db.payoutClaims.get? claimId).bind PayoutClaim.transactionSignature

def abandonment (d v : Shared) (claimId : String) : List Record :=
  match signatureOf d claimId, signatureOf v claimId with
  | some signature, none => [.abandoned claimId signature]
  | _, _ => []

-- d as the statement found the committed rows, v as it left them
def recordsAt (place : Place) (d v : Shared) : List Record :=
  match place with
  | .lease request (.take now [] taken) =>
    [.leased now (trim request.workerId) (leaseUntil request now) (taken.map PayoutClaim.id)]
  | .prepare request (.read now) =>
    if (d.payoutClaims.get? (trim request.claimId)).any (fun row =>
      leasedBy request.workerId now row && isReplay request row) then
      [.prepared (trim request.claimId) (trim request.transactionSignature)]
    else []
  | .prepare request (.commit _) =>
    [.prepared (trim request.claimId) (trim request.transactionSignature)]
  | .complete request (.commit false _) => [.gaveUp (trim request.claimId) (trim request.workerId)]
  | .fail request (.commit _) => .gaveUp (trim request.claimId) (trim request.workerId) ::
      abandonment d v (trim request.claimId)
  | _ => []

def recordsOf (u : Processes ν) (ev : Happening ν) (v : Processes ν) : List Record :=
  match ev with
  | .advance p _ => (u.sessions p).place.elim [] fun place => recordsAt place u.db v.db
  | .start _ _ | .lose _ => []

structure History (ν : Type) where
  world : Processes ν
  records : List Record

def Logs (enc : Encoding) (s : History ν) (ev : Happening ν) (s' : History ν) : Prop :=
  ReadCommitted.Step (program enc) s.world ev s'.world ∧
    s'.records = s.records ++ recordsOf s.world ev s'.world

-- one statement of a run in which no UPDATE finds its row changed from behind
def Steps (enc : Encoding) (s : History ν) (ev : Happening ν) (s' : History ν) : Prop :=
  Logs enc s ev s' ∧ Meets Unraced s.world ev

def PreparedOnce (records : List Record) : Prop :=
  ∀ before between after c S S',
    records = before ++ .prepared c S :: between ++ .prepared c S' :: after → S ≠ S' →
      .abandoned c S ∈ between

-- the leases of a claim that no worker has given up, the latest first
def believedFrom (c : String) (leases : List (String × Nat)) : Record → List (String × Nat)
  | .leased _ workerId leaseExpiresAt claims =>
    if c ∈ claims then (workerId, leaseExpiresAt) :: leases else leases
  | .gaveUp claimId workerId =>
    if claimId = c then leases.filter fun lease => lease.1 ≠ workerId else leases
  | _ => leases

def believed (records : List Record) (c : String) : List (String × Nat) :=
  records.foldl (believedFrom c) []

def Passed (records : List Record) (t : Nat) : Prop :=
  ∀ now workerId expiry claims, .leased now workerId expiry claims ∈ records → now ≤ t

-- at any time after the leases made so far, one of them at most is unexpired for a claim
def LeasedOnce (records : List Record) : Prop :=
  ∀ c t, Passed records t →
    ((believed records c).filter fun lease => decide (t < lease.2)).length ≤ 1

def ConfirmationKept (d v : Shared) : Prop :=
  ∀ c r, d.payoutClaims.get? c = some r → r.status = .confirmed → v.payoutClaims.get? c = some r

end Records

section Orders

variable {records records' : List Record} {x : Record} {S S' : String} {leases : List (String × Nat)}
  {lease : String × Nat}

def currentFrom (c : String) (current : Option String) : Record → Option String
  | .prepared claimId signature => if claimId = c then some signature else current
  | .abandoned claimId _ => if claimId = c then none else current
  | _ => current

-- the signature last prepared for a claim and not abandoned since
def current (records : List Record) (c : String) : Option String :=
  records.foldl (currentFrom c) none

def Allowed (records : List Record) : Record → Prop
  | .prepared claimId signature | .abandoned claimId signature =>
    ∀ S, current records claimId = some S → S = signature
  | _ => True

structure Ordered (records : List Record) : Prop where
  kept : ∀ before between c S, records = before ++ .prepared c S :: between →
    .abandoned c S ∈ between ∨ current records c = some S
  once : PreparedOnce records

theorem current_snoc : current (records ++ [x]) c = currentFrom c (current records c) x := by
  simp [current]

theorem ordered_nil : Ordered [] := by
  refine ⟨?_, ?_⟩
  · intro before between c S h
    simp at h
  · intro before between after c S S' h
    simp at h

theorem Ordered.snoc (h : Ordered records) (hx : Allowed records x) : Ordered (records ++ [x]) := by
  refine ⟨?_, ?_⟩
  · intro before between c S heq
    rcases List.eq_nil_or_concat between with rfl | ⟨between, y, rfl⟩
    · obtain ⟨rfl, hx'⟩ := List.append_inj' heq rfl
      cases hx'
      right
      rw [current_snoc]
      simp [currentFrom]
    · rw [List.concat_eq_append, ← List.cons_append, ← List.append_assoc] at heq
      obtain ⟨hold, hx'⟩ := List.append_inj' heq rfl
      cases hx'
      rw [List.concat_eq_append, List.mem_append]
      rcases h.kept before between c S hold with habandoned | hcurrent
      · exact .inl (.inl habandoned)
      · rw [current_snoc]
        cases x with
        | leased => exact .inr hcurrent
        | gaveUp => exact .inr hcurrent
        | prepared claimId signature =>
          by_cases hc : claimId = c
          · subst hc
            right
            simp [currentFrom, hx S hcurrent]
          · right
            simpa [currentFrom, hc] using hcurrent
        | abandoned claimId signature =>
          by_cases hc : claimId = c
          · subst hc
            left
            right
            simp [hx S hcurrent]
          · right
            simpa [currentFrom, hc] using hcurrent
  · intro before between after c S S' heq hne
    rcases List.eq_nil_or_concat after with rfl | ⟨after, y, rfl⟩
    · obtain ⟨hold, hx'⟩ := List.append_inj' heq rfl
      cases hx'
      rcases h.kept before between c S hold with habandoned | hcurrent
      · exact habandoned
      · exact absurd (hx S hcurrent) hne
    · rw [List.concat_eq_append, ← List.cons_append, ← List.append_assoc] at heq
      obtain ⟨hold, -⟩ := List.append_inj' heq rfl
      exact h.once before between after c S S' hold hne

def Over (records : List Record) (expiry : Nat) : Prop :=
  ∃ now workerId leaseExpiresAt claims,
    .leased now workerId leaseExpiresAt claims ∈ records ∧ expiry ≤ now

def HoldsLease (db : Shared) (c : String) (lease : String × Nat) : Prop :=
  ∃ r, db.payoutClaims.get? c = some r ∧ r.leaseOwner = some lease.1 ∧
    r.leaseExpiresAt = some lease.2

-- all but the latest lease are over, and the latest is unless the row still holds it
structure LeaseOk (db : Shared) (records : List Record) (c : String) (leases : List (String × Nat)) :
    Prop where
  earlier : ∀ lease ∈ leases.tail, Over records lease.2
  latest : ∀ lease ∈ leases.head?, Over records lease.2 ∨ HoldsLease db c lease

theorem Over.append {expiry : Nat} (h : Over records expiry) : Over (records ++ records') expiry := by
  obtain ⟨now, workerId, leaseExpiresAt, claims, hmem, hle⟩ := h
  exact ⟨now, workerId, leaseExpiresAt, claims, List.mem_append_left _ hmem, hle⟩

theorem LeaseOk.all (h : LeaseOk d records c leases) (hmem : lease ∈ leases) :
    Over records lease.2 ∨ HoldsLease d c lease := by
  cases leases with
  | nil => simp at hmem
  | cons latest earlier =>
    rcases List.mem_cons.mp hmem with rfl | hmem
    · exact h.latest lease rfl
    · exact .inl (h.earlier lease hmem)

theorem leaseOk_of_over (h : ∀ lease ∈ leases, Over records lease.2) : LeaseOk d records c leases :=
  ⟨fun lease hmem => h lease (List.mem_of_mem_tail hmem),
    fun lease hmem => .inl (h lease (List.mem_of_mem_head? hmem))⟩

theorem LeaseOk.keep (h : LeaseOk d records c leases)
    (hrow : ∀ lease ∈ leases.head?, HoldsLease d c lease → Over (records ++ records') lease.2 ∨
      HoldsLease v c lease) : LeaseOk v (records ++ records') c leases := by
  refine ⟨fun lease hmem => (h.earlier lease hmem).append, ?_⟩
  intro lease hmem
  rcases h.latest lease hmem with hover | hholds
  · exact .inl hover.append
  · exact hrow lease hmem hholds

theorem LeaseOk.atMostOne (h : LeaseOk d records c leases) {t : Nat} (ht : Passed records t) :
    (leases.filter fun lease => decide (t < lease.2)).length ≤ 1 := by
  have hover {expiry : Nat} (hexpiry : Over records expiry) : expiry ≤ t := by
    obtain ⟨now, workerId, leaseExpiresAt, claims, hmem, hle⟩ := hexpiry
    exact hle.trans (ht now workerId leaseExpiresAt claims hmem)
  cases leases with
  | nil => simp
  | cons latest earlier =>
    have hnone : earlier.filter (fun lease => decide (t < lease.2)) = [] := by
      rw [List.filter_eq_nil_iff]
      intro lease hmem
      have hle := hover (h.earlier lease hmem)
      simpa using hle
    rw [List.filter_cons, hnone]
    split <;> simp

end Orders

section Steps

variable {records new : List Record} {P : PayoutClaim → PayoutClaim → Prop} {r r' : PayoutClaim}

def Carries (S : String) (r : PayoutClaim) : Prop :=
  r.transactionSignature = some S ∧ (r.status = .prepared ∨ r.status = .confirmed)

structure Logged (db : Shared) (records : List Record) : Prop where
  ordered : Ordered records
  carried : ∀ c S, current records c = some S → ∃ r, db.payoutClaims.get? c = some r ∧ Carries S r
  leases : ∀ c, LeaseOk db records c (believed records c)

theorem logged_nil : Logged d [] := by
  refine ⟨ordered_nil, ?_, ?_⟩
  · intro c S h
    cases h
  · intro c
    exact leaseOk_of_over (by simp [believed])

theorem Logged.same (h : Logged d records) (hv : v.payoutClaims = d.payoutClaims) :
    Logged v records := by
  refine ⟨h.ordered, ?_, ?_⟩
  · intro c S hS
    rw [hv]
    exact h.carried c S hS
  · intro c
    have hkeep : LeaseOk v (records ++ []) c (believed records c) := (h.leases c).keep
      fun lease _ hholds => .inr (by simpa [HoldsLease, hv] using hholds)
    simpa using hkeep

theorem believed_append : believed (records ++ new) c = new.foldl (believedFrom c) (believed records c) := by
  simp [believed]

theorem current_append : current (records ++ new) c = new.foldl (currentFrom c) (current records c) := by
  simp [current]

theorem Logged.replayed (h : Logged d records) {S : String} (hr : d.payoutClaims.get? c = some r)
    (hstatus : r.status = .prepared) (hsignature : r.transactionSignature = some S) :
    Logged d (records ++ [.prepared c S]) := by
  refine ⟨h.ordered.snoc ?_, ?_, ?_⟩
  · intro S' hS'
    obtain ⟨s, hs, hsig, -⟩ := h.carried c S' hS'
    rw [hr, Option.some.injEq] at hs
    subst hs
    exact Option.some.inj (hsig.symm.trans hsignature)
  · intro c' S' hS'
    rw [current_snoc] at hS'
    by_cases hc : c = c'
    · subst hc
      simp only [currentFrom, if_true, Option.some.injEq] at hS'
      exact ⟨r, hr, hS' ▸ hsignature, .inl hstatus⟩
    · simp only [currentFrom, hc, if_false] at hS'
      exact h.carried c' S' hS'
  · intro c'
    rw [believed_append]
    exact (h.leases c').keep fun lease _ hholds => .inr hholds

theorem Logged.wrote (h : Logged d records) (hwrote : Wrote c P d v)
    (hordered : Ordered (records ++ new))
    (hcurrent : ∀ c', c' ≠ c → current (records ++ new) c' = current records c')
    (hbelieved : ∀ c', c' ≠ c → believed (records ++ new) c' = believed records c')
    (hcarries : ∀ r r', d.payoutClaims.get? c = some r → P r r' → v.payoutClaims.get? c = some r' →
      ∀ S, current (records ++ new) c = some S → Carries S r')
    (hlease : ∀ r r', d.payoutClaims.get? c = some r → P r r' → v.payoutClaims.get? c = some r' →
      LeaseOk v (records ++ new) c (believed (records ++ new) c)) :
    Logged v (records ++ new) := by
  refine ⟨hordered, ?_, ?_⟩
  · intro c' S hS
    rcases hwrote.get? c' with ⟨hc, hget⟩ | ⟨rfl, r, r', hr, hP, -, hget⟩
    · rw [hcurrent c' hc] at hS
      rw [hget]
      exact h.carried c' S hS
    · exact ⟨r', hget, hcarries r r' hr hP hget S hS⟩
  · intro c'
    rcases hwrote.get? c' with ⟨hc, hget⟩ | ⟨rfl, r, r', hr, hP, -, hget⟩
    · rw [hbelieved c' hc]
      exact (h.leases c').keep fun lease _ hholds => .inr (by simpa [HoldsLease, hget] using hholds)
    · exact hlease r r' hr hP hget

theorem Logged.prepared {request : PrepareRequest} {S : String} (h : Logged d records)
    (hwrote : Wrote c (Preparing request) d v) (hS : S = trim request.transactionSignature) :
    Logged v (records ++ [.prepared c S]) := by
  have hnone (r : PayoutClaim) (hr : d.payoutClaims.get? c = some r) (hstatus : r.status = .leased)
      (S' : String) : current records c ≠ some S' := by
    intro hS'
    obtain ⟨s, hs, -, hprepared⟩ := h.carried c S' hS'
    rw [hr, Option.some.injEq] at hs
    subst hs
    simp [hstatus] at hprepared
  refine h.wrote hwrote (h.ordered.snoc ?_) ?_ ?_ ?_ ?_
  · intro S' hS'
    obtain ⟨r, -, hr, ⟨hstatus, -⟩, -⟩ := hwrote
    exact absurd hS' (hnone r hr hstatus S')
  · intro c' hc
    rw [current_snoc]
    simp [currentFrom, Ne.symm hc]
  · intro c' _
    rw [believed_append]
    rfl
  · rintro r r' hr ⟨hstatus, height, now, rfl⟩ - S' hS'
    rw [current_snoc] at hS'
    simp only [currentFrom, if_true, Option.some.injEq] at hS'
    exact ⟨by rw [← hS', hS]; rfl, .inl rfl⟩
  · rintro r r' hr ⟨hstatus, height, now, rfl⟩ hr'
    rw [believed_append]
    refine (h.leases c).keep ?_
    rintro lease - ⟨s, hs, howner, hexpiry⟩
    rw [hr, Option.some.injEq] at hs
    subst hs
    exact .inr ⟨_, hr', howner, hexpiry⟩

-- the worker that owns the row gives its lease up, and with it every lease it believed in
theorem LeaseOk.gaveUp {leases : List (String × Nat)} {workerId : String}
    (h : LeaseOk d records c leases) (hr : d.payoutClaims.get? c = some r)
    (howner : r.leaseOwner = some workerId) :
    LeaseOk v (records ++ new) c (leases.filter fun lease => lease.1 ≠ workerId) := by
  apply leaseOk_of_over
  intro lease hmem
  simp only [List.mem_filter, decide_not, Bool.not_eq_true', decide_eq_false_iff_not] at hmem
  rcases h.all hmem.1 with hover | ⟨s, hs, hlease, -⟩
  · exact hover.append
  · rw [hr, Option.some.injEq] at hs
    subst hs
    exact absurd (Option.some.inj (hlease.symm.trans howner)) hmem.2

theorem Logged.completed {request : CompleteRequest} {again : Bool} {workerId : String}
    (h : Logged d records) (hwrote : Concurrent.completed request again d v)
    (hid : c = trim request.claimId) (hworker : workerId = trim request.workerId) :
    Logged v (records ++ if again then [] else [.gaveUp c workerId]) := by
  cases again with
  | true =>
    simp only [if_true, List.append_nil]
    exact h.same hwrote
  | false =>
    simp only [Bool.false_eq_true, if_false]
    have hwrote' : Wrote c (Confirming request) d v := hid ▸ hwrote
    refine h.wrote hwrote' (h.ordered.snoc trivial) ?_ ?_ ?_ ?_
    · intro c' _
      rw [current_snoc]
      rfl
    · intro c' hc
      rw [believed_append]
      simp [believedFrom, Ne.symm hc]
    · rintro r r' hr ⟨-, -, now, rfl⟩ - S hS
      rw [current_snoc] at hS
      obtain ⟨s, hs, hsignature, -⟩ := h.carried c S hS
      rw [hr, Option.some.injEq] at hs
      subst hs
      exact ⟨hsignature, .inr rfl⟩
    · rintro r r' hr ⟨-, howner, -⟩ -
      rw [believed_append]
      simp only [List.foldl_cons, List.foldl_nil, believedFrom, if_true]
      exact (h.leases c).gaveUp hr (howner.trans (by rw [hworker]))

theorem abandonment_cases (d v : Shared) (c : String) :
    (abandonment d v c = [] ∧ (signatureOf d c = none ∨ signatureOf v c ≠ none)) ∨
      ∃ S, abandonment d v c = [.abandoned c S] ∧ signatureOf d c = some S := by
  unfold abandonment
  cases hd : signatureOf d c with
  | none => exact .inl ⟨rfl, .inl rfl⟩
  | some S =>
    cases hv : signatureOf v c with
    | none => exact .inr ⟨S, rfl, rfl⟩
    | some S' => exact .inl ⟨rfl, .inr (by simp)⟩

theorem signatureOf_row (hr : d.payoutClaims.get? c = some r) :
    signatureOf d c = r.transactionSignature := by
  simp [signatureOf, hr]

theorem failRow_carries {request : FailRequest} {now : Nat} {claim : PayoutClaim} {S : String}
    (hr : RowSound r) (hopen : r.status ≠ .confirmed) (hcarries : Carries S r)
    (hkept : (failRow request now claim r).transactionSignature ≠ none) :
    Carries S (failRow request now claim r) := by
  obtain ⟨hsignature, hstatus⟩ := hcarries
  have hprepared : r.status = .prepared := hstatus.resolve_right hopen
  unfold failRow at hkept ⊢
  split
  · next habandon =>
    rw [if_pos habandon] at hkept
    unfold abandonRow at hkept ⊢
    split
    · next hconfirmed =>
      rw [if_pos hconfirmed] at hkept
      exact absurd rfl hkept
    · exact ⟨hsignature, .inl rfl⟩
  · refine ⟨hsignature, .inl ?_⟩
    have hsigned := hr.signed hprepared
    simp [recordFailure, hsigned]

theorem Logged.failed {request : FailRequest} {workerId : String} (h : Logged d records) (hd : Sound d)
    (hwrote : Wrote c (Failing request) d v) (hworker : workerId = trim request.workerId) :
    Logged v (records ++ .gaveUp c workerId :: abandonment d v c) := by
  have hgave : Ordered (records ++ [.gaveUp c workerId]) := h.ordered.snoc trivial
  have hcurrent : current (records ++ [.gaveUp c workerId]) c = current records c := current_snoc
  have hsignature (S : String) (hS : current records c = some S) : signatureOf d c = some S := by
    obtain ⟨r, hr, hcarries⟩ := h.carried c S hS
    rw [signatureOf_row hr]
    exact hcarries.1
  rcases abandonment_cases d v c with ⟨hnone, hkept⟩ | ⟨S, hsome, hS⟩
  · rw [hnone]
    refine h.wrote hwrote hgave ?_ ?_ ?_ ?_
    · intro c' _
      rw [current_snoc]
      rfl
    · intro c' hc
      rw [believed_append]
      simp [believedFrom, Ne.symm hc]
    · rintro r r' hr ⟨-, hopen, -, now, claim, rfl⟩ hrow S hS
      rw [hcurrent] at hS
      obtain ⟨s, hs, hcarries⟩ := h.carried c S hS
      rw [hr, Option.some.injEq] at hs
      subst hs
      have hsome := hsignature S hS
      have hv : signatureOf v c ≠ none := hkept.resolve_left (by simp [hsome])
      rw [signatureOf_row hrow] at hv
      exact failRow_carries (hd c r hr) hopen hcarries hv
    · rintro r r' hr ⟨howner, -⟩ -
      rw [believed_append]
      simp only [List.foldl_cons, List.foldl_nil, believedFrom, if_true]
      exact (h.leases c).gaveUp hr (howner.trans (by rw [hworker]))
  · rw [hsome]
    have happend : records ++ [.gaveUp c workerId, .abandoned c S] =
        (records ++ [.gaveUp c workerId]) ++ [.abandoned c S] := by simp
    refine h.wrote hwrote ?_ ?_ ?_ ?_ ?_
    · rw [happend]
      apply hgave.snoc
      intro S' hS'
      rw [hcurrent] at hS'
      exact Option.some.inj ((hsignature S' hS').symm.trans hS)
    · intro c' hc
      rw [current_append]
      simp [currentFrom, Ne.symm hc]
    · intro c' hc
      rw [believed_append]
      simp [believedFrom, Ne.symm hc]
    · rintro r r' hr - - S' hS'
      rw [current_append] at hS'
      simp [currentFrom] at hS'
    · rintro r r' hr ⟨howner, -⟩ -
      rw [believed_append]
      simp only [List.foldl_cons, List.foldl_nil, believedFrom, if_true]
      exact (h.leases c).gaveUp hr (howner.trans (by rw [hworker]))

section Lease

variable {request : LeaseRequest} {now : Nat} {ids : List String} {taken : Bool}

theorem Leased.carries {S : String} (h : Leased request now taken r r') (hr : RowSound r)
    (hcarries : Carries S r) : Carries S r' := by
  obtain ⟨hsignature, hstatus⟩ := hcarries
  cases h with
  | kept _ => exact ⟨hsignature, hstatus⟩
  | swept _ hexpired =>
    simp only [leaseExpired, Bool.and_eq_true, decide_eq_true_eq] at hexpired
    simp [hexpired.1] at hstatus
  | sweptTook _ hexpired _ =>
    simp only [leaseExpired, Bool.and_eq_true, decide_eq_true_eq] at hexpired
    simp [hexpired.1] at hstatus
  | took _ hcan =>
    rcases hstatus with hstatus | hstatus
    · have hsigned := hr.signed hstatus
      refine ⟨hsignature, .inl ?_⟩
      simp [takeFor, takeLease, hsigned]
    · simp [canLease, leasable, freshEvidence, preparedEvidence, hstatus] at hcan

-- what the row held before a lease took it is over by then
theorem Leased.over {lease : String × Nat} (h : Leased request now true r r')
    (hholds : r.leaseOwner = some lease.1 ∧ r.leaseExpiresAt = some lease.2) : lease.2 ≤ now := by
  cases h with
  | kept hfalse => cases hfalse
  | swept hfalse _ => cases hfalse
  | took _ hcan =>
    simp only [canLease, leasable, hholds.2, Option.all_some, Bool.and_eq_true,
      decide_eq_true_eq] at hcan
    exact hcan.1.2
  | sweptTook _ hexpired _ =>
    simp only [leaseExpired, hholds.2, Option.any_some, Bool.and_eq_true,
      decide_eq_true_eq] at hexpired
    exact hexpired.2

theorem Leased.keeps {lease : String × Nat} (h : Leased request now false r r')
    (hholds : r.leaseOwner = some lease.1 ∧ r.leaseExpiresAt = some lease.2) :
    lease.2 ≤ now ∨ (r'.leaseOwner = some lease.1 ∧ r'.leaseExpiresAt = some lease.2) := by
  cases h with
  | kept _ => exact .inr hholds
  | swept _ hexpired =>
    simp only [leaseExpired, hholds.2, Option.any_some, Bool.and_eq_true,
      decide_eq_true_eq] at hexpired
    exact .inl hexpired.2
  | took htrue _ => cases htrue
  | sweptTook htrue _ _ => cases htrue

theorem Leased.granted (h : Leased request now true r r') :
    r'.leaseOwner = some (trim request.workerId) ∧ r'.leaseExpiresAt = some (leaseUntil request now) := by
  cases h with
  | kept hfalse => cases hfalse
  | swept hfalse _ => cases hfalse
  | took _ _ => exact ⟨rfl, rfl⟩
  | sweptTook _ _ _ => exact ⟨rfl, rfl⟩

theorem Logged.leased (h : Logged d records) (hd : Sound d) (hleasing : Leasing request now ids d v) :
    Logged v (records ++ [.leased now (trim request.workerId) (leaseUntil request now) ids]) := by
  have hover {expiry : Nat} (hle : expiry ≤ now) :
      Over (records ++ [.leased now (trim request.workerId) (leaseUntil request now) ids]) expiry :=
    ⟨now, _, _, ids, List.mem_append_right _ List.mem_cons_self, hle⟩
  refine ⟨h.ordered.snoc trivial, ?_, ?_⟩
  · intro c S hS
    rw [current_snoc] at hS
    obtain ⟨r, hr, hcarries⟩ := h.carried c S hS
    rcases hleasing c with ⟨hnone, -, -⟩ | ⟨s, r', hs, hr', hleased⟩
    · rw [hr] at hnone
      cases hnone
    · rw [hr, Option.some.injEq] at hs
      subst hs
      exact ⟨r', hr', hleased.carries (hd c r hr) hcarries⟩
  · intro c
    rw [believed_append]
    simp only [List.foldl_cons, List.foldl_nil, believedFrom]
    rcases hleasing c with ⟨hnone, -, hout⟩ | ⟨r, r', hr, hr', hleased⟩
    · rw [if_neg hout]
      refine (h.leases c).keep ?_
      rintro lease - ⟨s, hs, -⟩
      rw [hnone] at hs
      cases hs
    · by_cases hin : c ∈ ids
      · rw [if_pos hin]
        have htaken : Leased request now true r r' := by simpa [hin] using hleased
        refine ⟨?_, ?_⟩
        · intro lease hmem
          rcases (h.leases c).all hmem with hold | ⟨s, hs, hholds⟩
          · exact hold.append
          · rw [hr, Option.some.injEq] at hs
            subst hs
            exact hover (htaken.over hholds)
        · intro lease hlease
          cases hlease
          exact .inr ⟨r', hr', htaken.granted⟩
      · rw [if_neg hin]
        have hkept : Leased request now false r r' := by simpa [hin] using hleased
        refine (h.leases c).keep ?_
        rintro lease - ⟨s, hs, hholds⟩
        rw [hr, Option.some.injEq] at hs
        subst hs
        rcases hkept.keeps hholds with hle | hholds'
        · exact .inl (hover hle)
        · exact .inr ⟨r', hr', hholds'⟩

end Lease

end Steps

section Confirmed

theorem ConfirmationKept.refl (d : Shared) : ConfirmationKept d d := fun _ _ hr _ => hr

theorem Leasing.keepsConfirmed {request : LeaseRequest} {now : Nat} {ids : List String}
    (h : Leasing request now ids d v) : ConfirmationKept d v := by
  intro c r hr hconfirmed
  rcases h c with ⟨hnone, -, -⟩ | ⟨s, r', hs, hr', hleased⟩
  · rw [hr] at hnone
    cases hnone
  · rw [hr, Option.some.injEq] at hs
    subst hs
    cases hleased with
    | kept _ => exact hr'
    | swept _ hexpired => simp [leaseExpired, hconfirmed] at hexpired
    | sweptTook _ hexpired _ => simp [leaseExpired, hconfirmed] at hexpired
    | took _ hcan => simp [canLease, leasable, freshEvidence, preparedEvidence, hconfirmed] at hcan

theorem Wrote.keepsConfirmed {P : PayoutClaim → PayoutClaim → Prop} (h : Wrote c P d v)
    (hP : ∀ r r', P r r' → r.status ≠ .confirmed) : ConfirmationKept d v := by
  intro id r hr hconfirmed
  rcases h.get? id with ⟨-, hget⟩ | ⟨rfl, s, s', hs, hrow, -⟩
  · exact hget.trans hr
  · rw [hr, Option.some.injEq] at hs
    subst hs
    exact absurd hconfirmed (hP r s' hrow)

end Confirmed

section Run

variable {s s' : History ν} {ev : Happening ν} {place place' : Place} {input : Input}
  {records : List Record} {writes : List (Write view)}

theorem committed (hd : Sound d) (hlogged : Logged d records) (hfacts : facts place writes d)
    (hrun : (program enc).statement input place (runWrites writes d) = .commit place') :
    Logged (runWrites writes d) (records ++ recordsAt place d (runWrites writes d)) ∧
      ConfirmationKept d (runWrites writes d) := by
  cases place with
  | lease request place =>
    obtain ⟨next, hnext, -⟩ := Outcome.map_eq_commit hrun
    obtain ⟨now, taken, rfl, -⟩ := lease_commits hnext
    exact ⟨hlogged.leased hd hfacts.2, hfacts.2.keepsConfirmed⟩
  | prepare request place =>
    obtain ⟨next, hnext, -⟩ := Outcome.map_eq_commit hrun
    obtain ⟨claim, rfl, -⟩ := prepare_commits hnext
    refine ⟨hlogged.prepared hfacts rfl, Wrote.keepsConfirmed hfacts ?_⟩
    rintro r r' ⟨hstatus, -⟩
    simp [hstatus]
  | complete request place =>
    obtain ⟨next, hnext, -⟩ := Outcome.map_eq_commit hrun
    obtain ⟨again, claim, rfl, -⟩ := complete_commits hnext
    have hcompleted := hlogged.completed hfacts rfl rfl
    cases again with
    | true =>
      refine ⟨hcompleted, ?_⟩
      intro c r hr _
      have hsame : (runWrites writes d).payoutClaims = d.payoutClaims := hfacts
      rw [hsame]
      exact hr
    | false =>
      refine ⟨hcompleted, Wrote.keepsConfirmed hfacts ?_⟩
      rintro r r' ⟨hstatus, -⟩
      simp [hstatus]
  | fail request place =>
    obtain ⟨next, hnext, -⟩ := Outcome.map_eq_commit hrun
    obtain ⟨claim, rfl, -⟩ := fail_commits hnext
    refine ⟨hlogged.failed hd hfacts rfl, Wrote.keepsConfirmed hfacts ?_⟩
    rintro r r' ⟨-, hstatus, -⟩
    exact hstatus

-- a statement that commits nothing records at most that a worker prepared what was prepared
theorem uncommitted (hlogged : Logged d records)
    (hrun : ∀ place', (program enc).statement input place (runWrites writes d) ≠ .commit place') :
    Logged d (records ++ recordsAt place d d) := by
  have hsame : Logged d (records ++ []) := by simpa using hlogged
  cases place with
  | lease request place =>
    cases place with
    | take now ids taken =>
      cases ids with
      | nil => exact absurd rfl (hrun (.lease request (.done taken)))
      | cons id ids => exact hsame
    | _ => exact hsame
  | prepare request place =>
    cases place with
    | read now =>
      simp only [recordsAt]
      split
      · next hreplay =>
        rw [Option.any_eq_true] at hreplay
        obtain ⟨row, hrow, hreplay⟩ := hreplay
        simp only [isReplay, Bool.and_eq_true, decide_eq_true_eq] at hreplay
        exact hlogged.replayed hrow hreplay.2.1 hreplay.2.2.1
      · exact hsame
    | commit claim => exact absurd rfl (hrun (.prepare request (.done claim)))
    | _ => exact hsame
  | complete request place =>
    cases place with
    | commit again claim => exact absurd rfl (hrun (.complete request (.done claim)))
    | _ => exact hsame
  | fail request place =>
    cases place with
    | commit claim => exact absurd rfl (hrun (.fail request (.done claim)))
    | _ => exact hsame

structure Kept (s : History ν) : Prop where
  annotated : Annotated Sound facts s.world
  logged : Logged s.world.db s.records

theorem Kept.step (h : Kept s) (hstep : Steps enc s ev s') :
    Kept s' ∧ ConfirmationKept s.world.db s'.world.db := by
  obtain ⟨⟨hexec, hrecords⟩, hmeets⟩ := hstep
  have hannotated := (outline enc).step h.annotated hexec hmeets
  suffices hlogged : Logged s'.world.db (s.records ++ recordsOf s.world ev s'.world) ∧
      ConfirmationKept s.world.db s'.world.db from
    ⟨⟨hannotated, hrecords ▸ hlogged.1⟩, hlogged.2⟩
  obtain ⟨p, request, rfl, -, hv⟩ | ⟨p, input, place, locked, writes, place', rfl, hplace, hstatement,
    -, hv⟩ | ⟨p, input, place, place', rfl, hplace, hstatement, hv⟩ | ⟨p, hv, hev⟩ := step_cases hexec
  · rw [hv]
    simp only [recordsOf, List.append_nil, set_db]
    exact ⟨h.logged, .refl _⟩
  · rw [hv]
    simp only [recordsOf, hplace, Option.elim_some, set_db]
    have hnot (place' : Place) : (program enc).statement input place
        (runWrites (s.world.sessions p).writes s.world.db) ≠ .commit place' := by
      intro hcommit
      cases hstatement.symm.trans hcommit
    exact ⟨uncommitted h.logged hnot, .refl _⟩
  · rw [hv]
    simp only [recordsOf, hplace, Option.elim_some, set_db]
    have hfacts := h.annotated.known p place hplace s.world.db fun _ _ => rfl
    exact committed h.annotated.inv h.logged hfacts hstatement
  · rw [hv]
    rcases hev with rfl | ⟨input, place, result, rfl, hplace, hstatement⟩
    · simp only [recordsOf, List.append_nil, set_db]
      exact ⟨h.logged, .refl _⟩
    · simp only [recordsOf, hplace, Option.elim_some, set_db]
      have hnot (place' : Place) : (program enc).statement input place
          (runWrites (s.world.sessions p).writes s.world.db) ≠ .commit place' := by
        intro hcommit
        cases hstatement.symm.trans hcommit
      exact ⟨uncommitted h.logged hnot, .refl _⟩

theorem kept_run {evs : List (Happening ν)} (h : Kept s) (hrun : Trace (Steps enc) s evs s') :
    Kept s' ∧ ConfirmationKept s.world.db s'.world.db := by
  refine hrun.relates_of (R := fun s s' => ConfirmationKept s.world.db s'.world.db)
    (fun s => .refl _) ?_ h (fun _ _ _ hs hstep => hs.step hstep)
  intro s t u hst htu c r hr hconfirmed
  exact htu c r (hst c r hr hconfirmed) hconfirmed

theorem payouts_exclusive {w : Processes ν} {u v : History ν} {evs evs' : List (Happening ν)}
    (hidle : ∀ p, w.sessions p = .idle) (hsound : Sound w.db)
    (hu : Trace (Steps enc) ⟨w, []⟩ evs u) (hv : Trace (Steps enc) u evs' v) :
    PreparedOnce v.records ∧ LeasedOnce v.records ∧ ConfirmationKept u.world.db v.world.db := by
  have hstart : Kept (⟨w, []⟩ : History ν) := ⟨annotated_idle hsound hidle, logged_nil⟩
  obtain ⟨hkept, -⟩ := kept_run hstart hu
  obtain ⟨hend, hconfirmed⟩ := kept_run hkept hv
  exact ⟨hend.logged.ordered.once, fun c t ht => (hend.logged.leases c).atMostOne ht, hconfirmed⟩

end Run

section Samples

variable {next : Processes ν → Happening ν → Option (Processes ν)} {s s' : History ν} {ev : Happening ν}

def logged (next : Processes ν → Happening ν → Option (Processes ν)) (s : History ν)
    (ev : Happening ν) : Option (History ν) :=
  (next s.world ev).map fun w => ⟨w, s.records ++ recordsOf s.world ev w⟩

theorem logs_of_logged (h : logged (exec (program enc)) s ev = some s') : Logs enc s ev s' := by
  obtain ⟨w, hw, rfl⟩ := Option.map_eq_some_iff.mp h
  exact ⟨hw, rfl⟩

theorem steps_of_logged (h : logged (execMeeting (program enc) Unraced) s ev = some s') :
    Steps enc s ev s' := by
  obtain ⟨w, hw, rfl⟩ := Option.map_eq_some_iff.mp h
  simp only [execMeeting] at hw
  split at hw
  · next hmeets => exact ⟨⟨hw, rfl⟩, hmeets⟩
  · cases hw

def sampleShared : Shared := ⟨⟨[sampleClaim.row], by simp⟩, .empty, .empty, []⟩

def sampleHistory : History (Fin 2) := ⟨⟨sampleShared, fun _ => .idle⟩, []⟩

def starts (p : Fin 2) (request : Request) : Happening (Fin 2) := .start p request

def advances (p : Fin 2) (now n : Nat) : List (Happening (Fin 2)) :=
  List.replicate n (.advance p ⟨now⟩)

def leaseOf (workerId : String) : Request :=
  .lease ⟨workerId, sampleWallet, sampleNetwork, 1, 60000⟩

def leaseAlone (workerId : String) : List (Happening (Fin 2)) :=
  starts 0 (leaseOf workerId) :: advances 0 2000 7

def prepareAlone (workerId : String) : List (Happening (Fin 2)) :=
  starts 0 (.prepare (firstPrepare workerId)) :: advances 0 3000 7

-- both workers have selected the claim when the first of them takes it
def leaseTwice : List (Happening (Fin 2)) :=
  [starts 0 (leaseOf "worker-a"), starts 1 (leaseOf "worker-b")] ++ advances 0 2000 3 ++
    advances 1 2000 3 ++ advances 0 2000 4 ++ advances 1 2000 4

-- a worker asks both processes to prepare what it holds, each with a transaction of its own
def prepareTwice : List (Happening (Fin 2)) :=
  leaseAlone "worker-a" ++ [starts 0 (.prepare (firstPrepare "worker-a")),
    starts 1 (.prepare (secondPrepare "worker-a"))] ++ advances 0 3000 3 ++ advances 1 3000 3 ++
    advances 0 3000 4 ++ advances 1 3000 4

-- the failure has read the claim that the other process then confirms
def completeDuringFail : List (Happening (Fin 2)) :=
  leaseAlone "worker-a" ++ prepareAlone "worker-a" ++
    [starts 1 (.fail ⟨"payout_1", "worker-a", "confirmation timed out", false⟩)] ++ advances 1 4000 3 ++
    [starts 0 (.complete ⟨"payout_1", "worker-a", firstSignature⟩)] ++ advances 0 4000 8

-- each process reads the claim after the other has committed what it wrote to it
def leaseInTurn : List (Happening (Fin 2)) :=
  [starts 0 (leaseOf "worker-a"), starts 1 (leaseOf "worker-b")] ++ advances 0 2000 2 ++
    advances 1 2000 1 ++ advances 0 2000 2 ++ advances 1 2000 1 ++ advances 0 2000 3 ++
    advances 1 2000 3

def prepareInTurn : List (Happening (Fin 2)) :=
  [starts 0 (.prepare (firstPrepare "worker-a")), starts 1 (.prepare (firstPrepare "worker-a"))] ++
    advances 0 3000 3 ++ advances 1 3000 1 ++ advances 0 3000 4 ++ advances 1 3000 2

def completeBeforeLease : List (Happening (Fin 2)) :=
  [starts 1 (.fail ⟨"payout_1", "worker-a", "confirmation timed out", false⟩),
    starts 0 (.complete ⟨"payout_1", "worker-a", firstSignature⟩)] ++ advances 0 4000 3 ++
    advances 1 4000 2 ++ advances 0 4000 5

def payInTurn : List (Happening (Fin 2)) := leaseInTurn ++ prepareInTurn ++ completeBeforeLease

def failLate : List (Happening (Fin 2)) := advances 0 4000 1 ++ advances 1 4000 1

theorem sample_sound : Sound sampleShared := by
  intro c r h
  have hr := Table.get?_mem h
  simp only [sampleShared, List.mem_singleton] at hr
  subst hr
  refine ⟨?_, by decide⟩
  intro hprepared
  cases hprepared

-- what the samples prepare is known to be valid
def validateSample (request : PrepareRequest) : Except StoreError Unit :=
  if request = firstPrepare "worker-a" ∨ request = secondPrepare "worker-a" then .ok ()
  else validatePrepare .standard request

theorem validateSample_eq (request : PrepareRequest) :
    validatePrepare .standard request = validateSample request := by
  rw [validateSample]
  split
  · next hsample =>
    rcases hsample with rfl | rfl
    · exact firstPrepare_valid "worker-a"
    · exact secondPrepare_valid "worker-a"
  · rfl

def sampleProgram : Program view Request Reply Input Place :=
  { program .standard with
    statement := fun input place db =>
      match place with
      | .prepare request .start =>
        (statement do
          validateSample request
          return .next [] [] (.read input.now)).map (.map fun claim => [claim]) (.prepare request)
      | place => (program .standard).statement input place db }

theorem sampleProgram_eq : program .standard = sampleProgram := by
  have hstatement : (program .standard).statement = sampleProgram.statement := by
    funext input place db
    simp only [sampleProgram]
    split
    · rw [← validateSample_eq]
      simp only [program, runPrepare]
    · rfl
  exact congrArg (Program.mk (program .standard).entry) hstatement

theorem payouts_exclusive_sample :
    ∃ u v, Trace (Steps .standard) sampleHistory payInTurn u ∧
      Trace (Steps .standard) u failLate v ∧
      v.records = [.leased 2000 "worker-a" 62000 ["payout_1"], .leased 2000 "worker-b" 62000 [],
        .prepared "payout_1" firstSignature, .prepared "payout_1" firstSignature,
        .gaveUp "payout_1" "worker-a"] ∧
      (u.world.db.payoutClaims.get? "payout_1").any (fun r => decide (r.status = .confirmed)) = true ∧
      PreparedOnce v.records ∧ LeasedOnce v.records ∧ ConfirmationKept u.world.db v.world.db := by
  have hrun : (runWith (logged (execMeeting (program .standard) Unraced)) sampleHistory
      payInTurn).any (fun u =>
        (u.world.db.payoutClaims.get? "payout_1").any (fun r => decide (r.status = .confirmed)) &&
        (runWith (logged (execMeeting (program .standard) Unraced)) u failLate).any
          fun v => decide (v.records = [.leased 2000 "worker-a" 62000 ["payout_1"],
            .leased 2000 "worker-b" 62000 [], .prepared "payout_1" firstSignature,
            .prepared "payout_1" firstSignature, .gaveUp "payout_1" "worker-a"])) = true := by
    rw [sampleProgram_eq]
    decide +kernel
  obtain ⟨u, hu, hrest⟩ := (Option.any_eq_true _ _).mp hrun
  obtain ⟨hconfirmed, hrest⟩ := (Bool.and_eq_true _ _).mp hrest
  obtain ⟨v, hv, hrecords⟩ := (Option.any_eq_true _ _).mp hrest
  have hfirst : Trace (Steps .standard) sampleHistory payInTurn u :=
    runWith_trace (fun _ _ _ => steps_of_logged) hu
  have hsecond : Trace (Steps .standard) u failLate v :=
    runWith_trace (fun _ _ _ => steps_of_logged) hv
  exact ⟨u, v, hfirst, hsecond, of_decide_eq_true hrecords, hconfirmed,
    payouts_exclusive (fun _ => rfl) sample_sound hfirst hsecond⟩

omit [DecidableEq ν] [Fintype ν] in
theorem leased_twice {workerId : String} {expiry : Nat} (h : 2000 < expiry)
    (hrecords : s.records = [.leased 2000 "worker-a" expiry ["payout_1"],
      .leased 2000 workerId expiry ["payout_1"]]) : ¬LeasedOnce s.records := by
  intro honce
  have hpassed : Passed s.records 2000 := by
    intro now workerId expiry claims hmem
    simp only [hrecords, List.mem_cons, Record.leased.injEq, List.not_mem_nil, or_false] at hmem
    omega
  have hle := honce "payout_1" 2000 hpassed
  simp [hrecords, believed, believedFrom, h] at hle

omit [DecidableEq ν] [Fintype ν] in
theorem prepared_twice {x : Record} {S S' : String} (hne : S ≠ S')
    (hrecords : s.records = [x, .prepared "payout_1" S, .prepared "payout_1" S']) :
    ¬PreparedOnce s.records := by
  intro honce
  cases honce [x] [] [] "payout_1" S S' hrecords hne

theorem payouts_race :
    (∀ p, sampleHistory.world.sessions p = .idle) ∧ Sound sampleHistory.world.db ∧
      (∃ v, Trace (Logs .standard) sampleHistory leaseTwice v ∧ ¬LeasedOnce v.records) ∧
      (∃ v, Trace (Logs .standard) sampleHistory prepareTwice v ∧ ¬PreparedOnce v.records) ∧
      ∃ u v, Trace (Logs .standard) sampleHistory completeDuringFail u ∧
        Trace (Logs .standard) u (advances 1 4000 4) v ∧
        ¬ConfirmationKept u.world.db v.world.db := by
  have hlease : (runWith (logged (exec (program .standard))) sampleHistory leaseTwice).any (fun v =>
      decide (v.records = [.leased 2000 "worker-a" 62000 ["payout_1"],
        .leased 2000 "worker-b" 62000 ["payout_1"]])) = true := by
    decide +kernel
  have hprepare : (runWith (logged (exec (program .standard))) sampleHistory prepareTwice).any
      (fun v => decide (v.records = [.leased 2000 "worker-a" 62000 ["payout_1"],
        .prepared "payout_1" firstSignature, .prepared "payout_1" secondSignature])) = true := by
    rw [sampleProgram_eq]
    decide +kernel
  have hcomplete : (runWith (logged (exec (program .standard))) sampleHistory
      completeDuringFail).any (fun u =>
        (runWith (logged (exec (program .standard))) u (advances 1 4000 4)).any fun v =>
          (u.world.db.payoutClaims.get? "payout_1").any fun r => decide (r.status = .confirmed ∧
            v.world.db.payoutClaims.get? "payout_1" ≠ some r)) = true := by
    rw [sampleProgram_eq]
    decide +kernel
  refine ⟨fun _ => rfl, sample_sound, ?_, ?_, ?_⟩
  · obtain ⟨v, hv, hrecords⟩ := (Option.any_eq_true _ _).mp hlease
    exact ⟨v, runWith_trace (fun _ _ _ => logs_of_logged) hv,
      leased_twice (by decide) (of_decide_eq_true hrecords)⟩
  · obtain ⟨v, hv, hrecords⟩ := (Option.any_eq_true _ _).mp hprepare
    exact ⟨v, runWith_trace (fun _ _ _ => logs_of_logged) hv,
      prepared_twice (by decide) (of_decide_eq_true hrecords)⟩
  · obtain ⟨u, hu, hrest⟩ := (Option.any_eq_true _ _).mp hcomplete
    obtain ⟨v, hv, hlost⟩ := (Option.any_eq_true _ _).mp hrest
    obtain ⟨r, hr, hlost⟩ := (Option.any_eq_true _ _).mp hlost
    obtain ⟨hconfirmed, hchanged⟩ := of_decide_eq_true hlost
    refine ⟨u, v, runWith_trace (fun _ _ _ => logs_of_logged) hu,
      runWith_trace (fun _ _ _ => logs_of_logged) hv, ?_⟩
    intro hkept
    exact hchanged (hkept "payout_1" r hr hconfirmed)

end Samples

end Obulus.Payout.Concurrent
