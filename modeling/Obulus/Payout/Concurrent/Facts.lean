import Obulus.Payout.Concurrent.Statements

namespace Obulus.Payout.Concurrent

open Foundation Store ReadCommitted

variable {enc : Encoding} {input : Input} {d d' v : Shared} {locked : List Row}
  {writes writes' : List (Write view)} {changes : List Change} {c : String} {now : Nat}

section Condition

def leasedBy (workerId : String) (now : Nat) (r : PayoutClaim) : Bool :=
  decide (r.leaseOwner = some (trim workerId)) && r.leaseExpiresAt.any fun expiry => decide (now < expiry)

def abandons (request : FailRequest) (r : PayoutClaim) : Bool :=
  !request.abandonPreparedTransaction || (decide (r.status = .prepared) &&
    r.transactionSignature.isSome && r.signedTransactionBase64.isSome)

-- the row that an UPDATE by id finds still passes the checks its operation made before
def Unraced (_ : Input) (place : Place) (db : Shared) : Prop :=
  match place with
  | .lease request (.take now (id :: _) _) =>
    (db.payoutClaims.get? id).any (canLease request now) = true
  | .prepare request (.update now) =>
    (db.payoutClaims.get? (trim request.claimId)).any
      (fun r => leasedBy request.workerId now r && decide (r.status = .leased)) = true
  | .complete request (.update now _) =>
    (db.payoutClaims.get? (trim request.claimId)).any
      (fun r => leasedBy request.workerId now r && decide (r.status = .prepared ∧
        r.transactionSignature = some (trim request.transactionSignature))) = true
  | .fail request (.update now _) =>
    (db.payoutClaims.get? (trim request.claimId)).any
      (fun r => leasedBy request.workerId now r && decide (r.status ≠ .confirmed) &&
        abandons request r) = true
  | _ => True

instance (input : Input) (place : Place) (db : Shared) : Decidable (Unraced input place db) := by
  unfold Unraced
  split <;> infer_instance

end Condition

section Rows

structure RowSound (r : PayoutClaim) : Prop where
  signed : r.status = .prepared → r.signedTransactionBase64 ≠ none
  trimmed : trim r.id = r.id

def Sound (db : Shared) : Prop := ∀ c r, db.payoutClaims.get? c = some r → RowSound r

@[simp] theorem run_write {change : Change} : change.write.run d = change.run d := rfl

theorem writing_eq_next {α τ : Type} {place place' : τ} :
    (writing changes place' : Statement α τ) = .next locked writes place ↔
      [] = locked ∧ changes.map Change.write = writes ∧ place' = place := by
  simp [writing]

theorem view_claim (h : view (.claim c) d' = view (.claim c) d) :
    d'.payoutClaims.get? c = d.payoutClaims.get? c :=
  Cell.claim.inj h

theorem updateClaim_ok {old new : PayoutClaim} {change : Change}
    (h : updateClaim d old new = .ok change) : change = .claim new := by
  simp only [updateClaim, bind_eq_ok, pure_eq_ok] at h
  obtain ⟨-, -, -, -, rfl⟩ := h
  rfl

theorem updateById_ok {f : PayoutClaim → PayoutClaim} {r : PayoutClaim}
    (h : updateById d c f = .ok changes) (hrow : d.payoutClaims.get? c = some r) :
    changes = [.claim (f r)] := by
  simp only [updateById, hrow, bind_eq_ok, pure_eq_ok] at h
  obtain ⟨change, hchange, rfl⟩ := h
  rw [updateClaim_ok hchange]

-- the row with this id, as the statement that locks it leaves it to other databases
theorem held_row {new r : PayoutClaim} (hid : new.id = c)
    (hagree : ∀ k ∈ rowsOf ([Change.claim new].map Change.write), view k d' = view k d)
    (hrow : d.payoutClaims.get? c = some r) : d'.payoutClaims.get? c = some r := by
  have hview := hagree (.claim c) (by simp [rowsOf, Change.write, Change.rows, hid])
  exact (view_claim hview).trans hrow

end Rows

section Lease

variable {request : LeaseRequest} {place place' : LeasePlace} {ids : List String}

-- a row that the lease swept, took or left alone
inductive Leased (request : LeaseRequest) (now : Nat) (taken : Bool) (r : PayoutClaim) :
    PayoutClaim → Prop
  | kept : taken = false → Leased request now taken r r
  | swept : taken = false → leaseExpired now r = true → Leased request now taken r (expireLease now r)
  | took : taken = true → canLease request now r = true →
    Leased request now taken r (takeFor request now r)
  | sweptTook : taken = true → leaseExpired now r = true → canLease request now (expireLease now r) = true →
    Leased request now taken r (takeFor request now (expireLease now r))

def Leasing (request : LeaseRequest) (now : Nat) (ids : List String) (d v : Shared) : Prop :=
  ∀ c, (d.payoutClaims.get? c = none ∧ v.payoutClaims.get? c = none ∧ c ∉ ids) ∨
    ∃ r r', d.payoutClaims.get? c = some r ∧ v.payoutClaims.get? c = some r' ∧
      Leased request now (decide (c ∈ ids)) r r'

def leaseFacts (request : LeaseRequest) (place : LeasePlace) (writes : List (Write view)) (d : Shared) :
    Prop :=
  match place with
  | .start | .expire _ | .done _ => writes = []
  | .select now => Leasing request now [] d (runWrites writes d)
  | .take now ids taken => (∀ id ∈ ids, trim id = id) ∧
    Leasing request now (taken.map PayoutClaim.id) d (runWrites writes d)
  | .load now id ids taken => trim id = id ∧ (∀ id ∈ ids, trim id = id) ∧
    Leasing request now (taken.map PayoutClaim.id ++ [id]) d (runWrites writes d)

theorem mapM_updateClaim {f : PayoutClaim → PayoutClaim} {rows : List PayoutClaim}
    (h : rows.mapM (fun r => updateClaim d r (f r)) = .ok changes) :
    changes = rows.map fun r => .claim (f r) := by
  induction rows generalizing changes with
  | nil =>
    simp only [List.mapM_nil, pure_eq_ok] at h
    simp [← h]
  | cons r rows ih =>
    simp only [List.mapM_cons, bind_eq_ok, pure_eq_ok] at h
    obtain ⟨change, hchange, rest, hrest, rfl⟩ := h
    rw [updateClaim_ok hchange, ih hrest]
    rfl

theorem get?_puts {f : PayoutClaim → PayoutClaim} (hf : ∀ r, (f r).id = r.id)
    (rows : List PayoutClaim) (d : Shared) (c : String) :
    (∃ r ∈ rows, r.id = c ∧ (runWrites ((rows.map fun r => .claim (f r)).map Change.write)
      d).payoutClaims.get? c = some (f r)) ∨
    ((∀ r ∈ rows, r.id ≠ c) ∧ (runWrites ((rows.map fun r => .claim (f r)).map Change.write)
      d).payoutClaims.get? c = d.payoutClaims.get? c) := by
  induction rows generalizing d with
  | nil => exact .inr ⟨by simp, rfl⟩
  | cons r rows ih =>
    simp only [List.map_cons, runWrites_cons, run_write]
    have hput : ((Change.claim (f r)).run d).payoutClaims.get? c =
        if (f r).id = c then some (f r) else d.payoutClaims.get? c := Table.get?_put
    rcases ih ((Change.claim (f r)).run d) with ⟨r', hmem, hid, hget⟩ | ⟨hnone, hget⟩
    · exact .inl ⟨r', List.mem_cons_of_mem r hmem, hid, hget⟩
    · rw [hput, hf] at hget
      by_cases hid : r.id = c
      · rw [if_pos hid] at hget
        exact .inl ⟨r, List.mem_cons_self, hid, hget⟩
      · rw [if_neg hid] at hget
        refine .inr ⟨?_, hget⟩
        intro r' hr'
        rcases List.mem_cons.mp hr' with rfl | hr'
        · exact hid
        · exact hnone r' hr'

theorem leasing_expire (hagree : ∀ k ∈ rowsOf (((d.payoutClaims.rows.filter (leaseExpired now)).map
      fun r => Change.claim (expireLease now r)).map Change.write), view k d' = view k d) :
    Leasing request now [] d' (runWrites (((d.payoutClaims.rows.filter (leaseExpired now)).map
      fun r => Change.claim (expireLease now r)).map Change.write) d') := by
  intro c
  rcases get?_puts (f := expireLease now) (fun _ => rfl)
      (d.payoutClaims.rows.filter (leaseExpired now)) d' c with ⟨r, hr, hid, hget⟩ | ⟨-, hget⟩
  · obtain ⟨hmem, hexpired⟩ := List.mem_filter.mp hr
    have hview : view (.claim c) d' = view (.claim c) d := by
      apply hagree
      simp only [rowsOf, List.mem_flatMap, List.mem_map]
      exact ⟨_, ⟨_, ⟨r, hr, rfl⟩, rfl⟩, by simp [Change.write, Change.rows, expireLease, hid]⟩
    have hrow : d.payoutClaims.get? c = some r := Table.get?_eq_some.mpr ⟨hmem, hid⟩
    exact .inr ⟨r, expireLease now r, (view_claim hview).trans hrow, hget, .swept rfl hexpired⟩
  · cases hrow : d'.payoutClaims.get? c with
    | none => exact .inl ⟨rfl, hget.trans hrow, by simp⟩
    | some r => exact .inr ⟨r, r, rfl, hget.trans hrow, .kept rfl⟩

theorem Leased.take {r r' : PayoutClaim} {taken : Bool} (h : Leased request now taken r r')
    (hcan : canLease request now r' = true) : Leased request now true r (takeFor request now r') := by
  cases h with
  | kept _ => exact .took rfl hcan
  | swept _ hexpired => exact .sweptTook rfl hexpired hcan
  | took _ hold => exact .took rfl hold
  | sweptTook _ hexpired hold => exact .sweptTook rfl hexpired hold

theorem leasing_take {id : String} {r r' : PayoutClaim} (h : Leasing request now ids d v)
    (hrow : d.payoutClaims.get? id = some r) (hid : r'.id = id)
    (hleased : Leased request now (decide (id ∈ ids)) r r') (hcan : canLease request now r' = true) :
    Leasing request now (ids ++ [id]) d ((Change.claim (takeFor request now r')).run v) := by
  intro c
  have hput : ((Change.claim (takeFor request now r')).run v).payoutClaims.get? c =
      if r'.id = c then some (takeFor request now r') else v.payoutClaims.get? c := Table.get?_put
  rw [hid] at hput
  by_cases hc : c = id
  · subst hc
    rw [if_pos rfl] at hput
    refine .inr ⟨r, takeFor request now r', hrow, hput, ?_⟩
    have htaken : decide (c ∈ ids ++ [c]) = true := by simp
    rw [htaken]
    exact hleased.take hcan
  · rw [if_neg (Ne.symm hc)] at hput
    rcases h c with ⟨hnone, hnone', hmem⟩ | ⟨s, s', hs, hs', hold⟩
    · exact .inl ⟨hnone, hput.trans hnone', by simp [hmem, hc]⟩
    · refine .inr ⟨s, s', hs, hput.trans hs', ?_⟩
      have htaken : decide (c ∈ ids ++ [id]) = decide (c ∈ ids) := by simp [hc]
      rw [htaken]
      exact hold

theorem selectIds_trimmed (hinv : Sound d) (h : Leasing request now ids d v) :
    ∀ id ∈ selectIds request v now, trim id = id := by
  intro id hid
  obtain ⟨r', hr', rfl⟩ := List.mem_map.mp hid
  have hmem := (List.mem_insertionSort _).mp (List.mem_of_mem_take hr')
  have hvisible : v.payoutClaims.get? r'.id = some r' :=
    Table.get?_of_mem (List.mem_of_mem_filter hmem)
  rcases h r'.id with ⟨-, hnone, -⟩ | ⟨r, r'', hr, hr'', -⟩
  · rw [hvisible] at hnone
    cases hnone
  · have htrim := (hinv r'.id r hr).trimmed
    rwa [Table.get?_key hr] at htrim

theorem lease_next (hinv : Sound d) (hhere : leaseFacts request place writes d)
    (hthere : leaseFacts request place writes d')
    (hsteady : Unraced input (.lease request place) (runWrites writes d))
    (hrun : runLease enc request input (runWrites writes d) place = .next locked writes' place')
    (hagree : ∀ k ∈ locked ++ rowsOf writes', view k d' = view k d) :
    leaseFacts request place' (writes ++ writes') d' := by
  cases place with
  | start =>
    simp only [leaseFacts] at hthere
    subst hthere
    simp only [runLease, statement_eq_next, bind_eq_ok, pure_eq_ok, Outcome.next.injEq] at hrun
    obtain ⟨-, -, -, rfl, rfl⟩ := hrun
    rfl
  | expire now =>
    simp only [leaseFacts] at hthere
    subst hthere
    simp only [runLease, statement_eq_next, bind_eq_ok, pure_eq_ok, writing_eq_next] at hrun
    obtain ⟨-, -, changes, hchanges, rfl, rfl, rfl⟩ := hrun
    rw [mapM_updateClaim hchanges] at hagree ⊢
    exact leasing_expire hagree
  | select now =>
    simp only [runLease, Outcome.next.injEq] at hrun
    obtain ⟨-, rfl, rfl⟩ := hrun
    simp only [leaseFacts, List.append_nil, List.map_nil] at hthere ⊢
    exact ⟨selectIds_trimmed hinv hhere, hthere⟩
  | take now ids taken =>
    cases ids with
    | nil => cases hrun
    | cons id ids =>
      simp only [runLease, statement_eq_next, bind_eq_ok, pure_eq_ok, writing_eq_next] at hrun
      obtain ⟨-, -, changes, hchanges, rfl, rfl, rfl⟩ := hrun
      simp only [Unraced, Option.any_eq_true] at hsteady
      obtain ⟨r', hr', hcan⟩ := hsteady
      have hid := Table.get?_key hr'
      rw [updateById_ok hchanges hr'] at hagree ⊢
      obtain ⟨htrim, hthere⟩ := hthere
      rcases hhere.2 id with ⟨-, hnone, -⟩ | ⟨r, r'', hr, hr'', hleased⟩
      · rw [hr'] at hnone
        cases hnone
      · rw [hr', Option.some.injEq] at hr''
        subst hr''
        have hrow := @held_row _ _ _ (takeFor request now r') _ hid
          (fun k hk => hagree k (List.mem_append_right _ hk)) hr
        refine ⟨htrim id List.mem_cons_self, fun i hi => htrim i (List.mem_cons_of_mem id hi), ?_⟩
        rw [runWrites_append]
        exact leasing_take hthere hrow hid hleased hcan
  | load now id ids taken =>
    simp only [runLease, statement_eq_next, bind_eq_ok, pure_eq_ok, Outcome.next.injEq, loadClaim,
      orReject_eq_ok] at hrun
    obtain ⟨claim, hclaim, -, rfl, rfl⟩ := hrun
    obtain ⟨htrim, hrest, hthere⟩ := hthere
    have hid : claim.id = id := (Table.get?_key hclaim).trans htrim
    simp only [leaseFacts, List.append_nil, List.map_append, List.map_cons, List.map_nil, hid]
    exact ⟨hrest, hthere⟩
  | done taken => cases hrun

theorem Leased.sound {r r' : PayoutClaim} {taken : Bool} (h : Leased request now taken r r')
    (hr : RowSound r) : RowSound r' := by
  refine ⟨?_, ?_⟩
  · intro hstatus
    cases h with
    | kept _ => exact hr.signed hstatus
    | swept _ _ | took _ _ | sweptTook _ _ _ =>
      intro hraw
      have hraw' : r.signedTransactionBase64 = none := hraw
      simp [expireLease, takeFor, takeLease, hraw'] at hstatus
  · cases h <;> exact hr.trimmed

theorem lease_commits (hrun : runLease enc request input d place = .commit place') :
    ∃ now taken, place = .take now [] taken ∧ place' = .done taken := by
  cases place with
  | take now ids taken =>
    cases ids with
    | nil =>
      cases hrun
      exact ⟨now, taken, rfl, rfl⟩
    | cons id ids =>
      simp only [runLease, statement_eq_commit, bind_eq_ok, pure_eq_ok, writing, reduceCtorEq,
        and_false, exists_false] at hrun
  | select now => cases hrun
  | done taken => cases hrun
  | _ =>
    simp only [runLease, statement_eq_commit, bind_eq_ok, pure_eq_ok, writing, reduceCtorEq,
      and_false, exists_false] at hrun

theorem lease_commit (hinv : Sound d) (hhere : leaseFacts request place writes d)
    (hrun : runLease enc request input (runWrites writes d) place = .commit place') :
    Sound (runWrites writes d) ∧ ∀ d', leaseFacts request place' [] d' := by
  obtain ⟨now, taken, rfl, rfl⟩ := lease_commits hrun
  refine ⟨?_, fun _ => rfl⟩
  intro c r' hr'
  rcases hhere.2 c with ⟨-, hnone, -⟩ | ⟨r, r'', hr, hr'', hleased⟩
  · rw [hr'] at hnone
    cases hnone
  · rw [hr', Option.some.injEq] at hr''
    subst hr''
    exact hleased.sound (hinv c r hr)

end Lease

section One

-- one claim is written, from a row that meets the condition
def Wrote (c : String) (P : PayoutClaim → PayoutClaim → Prop) (d v : Shared) : Prop :=
  ∃ r r', d.payoutClaims.get? c = some r ∧ P r r' ∧ r'.id = r.id ∧
    v.payoutClaims = d.payoutClaims.put r'

variable {P : PayoutClaim → PayoutClaim → Prop} {r r' : PayoutClaim}

theorem Wrote.get? (h : Wrote c P d v) (id : String) :
    (id ≠ c ∧ v.payoutClaims.get? id = d.payoutClaims.get? id) ∨
      (id = c ∧ ∃ r r', d.payoutClaims.get? c = some r ∧ P r r' ∧ r'.id = r.id ∧
        v.payoutClaims.get? c = some r') := by
  obtain ⟨r, r', hr, hP, hid, hv⟩ := h
  have hkey : r'.id = c := hid.trans (Table.get?_key hr)
  by_cases hc : id = c
  · refine .inr ⟨hc, r, r', hr, hP, hid, ?_⟩
    rw [hv, Table.get?_put, if_pos hkey]
  · refine .inl ⟨hc, ?_⟩
    have hne : ¬r'.id = id := fun heq => hc (heq.symm.trans hkey)
    rw [hv, Table.get?_put, if_neg hne]

theorem Wrote.sound (h : Wrote c P d v) (hd : Sound d)
    (hP : ∀ r r', P r r' → RowSound r → r'.status = .prepared → r'.signedTransactionBase64 ≠ none) :
    Sound v := by
  intro id s hs
  rcases h.get? id with ⟨-, hget⟩ | ⟨rfl, r, r', hr, hrow, hid, hget⟩
  · rw [hget] at hs
    exact hd id s hs
  · rw [hget, Option.some.injEq] at hs
    subst hs
    have hsound := hd id r hr
    exact ⟨hP r r' hrow hsound, by rw [hid]; exact hsound.trimmed⟩

theorem Wrote.unchanged {u : Shared} (h : Wrote c P d u) (hv : v.payoutClaims = u.payoutClaims) :
    Wrote c P d v := by
  obtain ⟨r, r', hr, hP, hid, hu⟩ := h
  exact ⟨r, r', hr, hP, hid, hv.trans hu⟩

-- what an UPDATE by id leaves, read from where its operation has written nothing yet
theorem wrote_update {f : PayoutClaim → PayoutClaim} (h : updateById d c f = .ok changes)
    (hr : d.payoutClaims.get? c = some r) (hid : (f r).id = r.id) (hP : P r (f r))
    (hagree : ∀ k ∈ rowsOf (changes.map Change.write), view k d' = view k d) :
    Wrote c P d' (runWrites (changes.map Change.write) d') := by
  rw [updateById_ok h hr] at hagree ⊢
  have hkey := Table.get?_key hr
  exact ⟨r, f r, held_row (hid.trans hkey) hagree hr, hP, hid, rfl⟩

end One

section Prepare

variable {request : PrepareRequest} {place place' : PreparePlace}

def Preparing (request : PrepareRequest) (r r' : PayoutClaim) : Prop :=
  r.status = .leased ∧ ∃ height now, r' = recordPrepared request height now r

def prepareFacts (request : PrepareRequest) (place : PreparePlace) (writes : List (Write view))
    (d : Shared) : Prop :=
  match place with
  | .load | .commit _ => Wrote (trim request.claimId) (Preparing request) d (runWrites writes d)
  | _ => writes = []

theorem prepare_next (hthere : prepareFacts request place writes d')
    (hsteady : Unraced input (.prepare request place) (runWrites writes d))
    (hrun : runPrepare enc request input (runWrites writes d) place = .next locked writes' place')
    (hagree : ∀ k ∈ locked ++ rowsOf writes', view k d' = view k d) :
    prepareFacts request place' (writes ++ writes') d' := by
  cases place with
  | start =>
    simp only [prepareFacts] at hthere
    subst hthere
    simp only [runPrepare, statement_eq_next, bind_eq_ok, pure_eq_ok, Outcome.next.injEq] at hrun
    obtain ⟨-, -, -, rfl, rfl⟩ := hrun
    rfl
  | read now =>
    simp only [prepareFacts] at hthere
    subst hthere
    simp only [runPrepare, statement_eq_next, bind_eq_ok, considerPrepare] at hrun
    obtain ⟨row, -, -, -, hrun⟩ := hrun
    split at hrun
    · simp only [pure_eq_ok, Outcome.next.injEq] at hrun
      obtain ⟨-, rfl, rfl⟩ := hrun
      rfl
    · simp only [bind_eq_ok, pure_eq_ok, Outcome.next.injEq] at hrun
      obtain ⟨-, -, -, -, -, rfl, rfl⟩ := hrun
      rfl
  | replay => cases hrun
  | holds now =>
    simp only [prepareFacts] at hthere
    subst hthere
    simp only [runPrepare, statement_eq_next, bind_eq_ok, pure_eq_ok, Outcome.next.injEq] at hrun
    obtain ⟨-, -, -, rfl, rfl⟩ := hrun
    rfl
  | update now =>
    simp only [prepareFacts] at hthere
    subst hthere
    simp only [runPrepare, statement_eq_next, bind_eq_ok, pure_eq_ok, writing_eq_next] at hrun
    obtain ⟨height, -, at', -, changes, hchanges, rfl, rfl, rfl⟩ := hrun
    simp only [Unraced, Option.any_eq_true, Bool.and_eq_true, decide_eq_true_eq] at hsteady
    obtain ⟨r, hr, -, hstatus⟩ := hsteady
    exact wrote_update hchanges hr rfl ⟨hstatus, height, at', rfl⟩ hagree
  | load =>
    simp only [runPrepare, statement_eq_next, bind_eq_ok, pure_eq_ok, Outcome.next.injEq] at hrun
    obtain ⟨claim, -, -, rfl, rfl⟩ := hrun
    simpa [prepareFacts] using hthere
  | commit claim => cases hrun
  | done claim => cases hrun

theorem prepare_commits (hrun : runPrepare enc request input d place = .commit place') :
    ∃ claim, place = .commit claim ∧ place' = .done claim := by
  cases place with
  | commit claim =>
    cases hrun
    exact ⟨claim, rfl, rfl⟩
  | replay => cases hrun
  | done claim => cases hrun
  | read now =>
    simp only [runPrepare, statement_eq_commit, bind_eq_ok, considerPrepare] at hrun
    obtain ⟨row, -, -, -, hrun⟩ := hrun
    split at hrun <;> simp only [bind_eq_ok, pure_eq_ok, reduceCtorEq, and_false,
      exists_false] at hrun
  | _ =>
    simp only [runPrepare, statement_eq_commit, bind_eq_ok, pure_eq_ok, writing, reduceCtorEq,
      and_false, exists_false] at hrun

theorem prepare_commit (hinv : Sound d) (hhere : prepareFacts request place writes d)
    (hrun : runPrepare enc request input (runWrites writes d) place = .commit place') :
    Sound (runWrites writes d) ∧ ∀ d', prepareFacts request place' [] d' := by
  obtain ⟨claim, rfl, rfl⟩ := prepare_commits hrun
  refine ⟨hhere.sound hinv ?_, fun _ => rfl⟩
  rintro r r' ⟨-, height, now, rfl⟩ - -
  simp [recordPrepared]

end Prepare

section Complete

variable {request : CompleteRequest} {place place' : CompletePlace}

def Confirming (request : CompleteRequest) (r r' : PayoutClaim) : Prop :=
  r.status = .prepared ∧ r.leaseOwner = some (trim request.workerId) ∧
    ∃ now, r' = recordConfirmed now r

def completed (request : CompleteRequest) (again : Bool) (d v : Shared) : Prop :=
  if again then v.payoutClaims = d.payoutClaims
  else Wrote (trim request.claimId) (Confirming request) d v

def completeFacts (request : CompleteRequest) (place : CompletePlace) (writes : List (Write view))
    (d : Shared) : Prop :=
  match place with
  | .earning _ _ => completed request false d (runWrites writes d)
  | .refundJob again _ _ | .closeJob again _ _ _ | .reload again | .commit again _ =>
    completed request again d (runWrites writes d)
  | .start | .load _ | .readLease _ _ | .update _ _ | .done _ => writes = []

theorem completed_append {again : Bool} (h : completed request again d (runWrites writes d))
    (hv : ∀ u : Shared, (runWrites writes' u).payoutClaims = u.payoutClaims) :
    completed request again d (runWrites (writes ++ writes') d) := by
  rw [runWrites_append]
  cases again with
  | true => exact (hv _).trans h
  | false => exact Wrote.unchanged h (hv _)

theorem complete_next (hthere : completeFacts request place writes d')
    (hsteady : Unraced input (.complete request place) (runWrites writes d))
    (hrun : runComplete request input (runWrites writes d) place = .next locked writes' place')
    (hagree : ∀ k ∈ locked ++ rowsOf writes', view k d' = view k d) :
    completeFacts request place' (writes ++ writes') d' := by
  cases place with
  | start =>
    simp only [completeFacts] at hthere
    subst hthere
    simp only [runComplete, Outcome.next.injEq] at hrun
    obtain ⟨-, rfl, rfl⟩ := hrun
    rfl
  | load now =>
    simp only [completeFacts] at hthere
    subst hthere
    simp only [runComplete, statement_eq_next, bind_eq_ok, loadForComplete] at hrun
    obtain ⟨claim, -, hrun⟩ := hrun
    split at hrun
    · simp only [bind_eq_ok, pure_eq_ok, Outcome.next.injEq] at hrun
      obtain ⟨-, -, -, rfl, rfl⟩ := hrun
      rfl
    · simp only [pure_eq_ok, Outcome.next.injEq] at hrun
      obtain ⟨-, rfl, rfl⟩ := hrun
      rfl
  | readLease now claim =>
    simp only [completeFacts] at hthere
    subst hthere
    simp only [runComplete, statement_eq_next, bind_eq_ok, considerComplete, pure_eq_ok,
      Outcome.next.injEq] at hrun
    obtain ⟨row, -, -, -, -, -, -, rfl, rfl⟩ := hrun
    rfl
  | update now claim =>
    simp only [completeFacts] at hthere
    subst hthere
    simp only [runComplete, statement_eq_next, bind_eq_ok, pure_eq_ok, writing_eq_next] at hrun
    obtain ⟨at', -, changes, hchanges, rfl, rfl, rfl⟩ := hrun
    simp only [Unraced, Option.any_eq_true, Bool.and_eq_true, decide_eq_true_eq, leasedBy] at hsteady
    obtain ⟨r, hr, ⟨howner, -⟩, hstatus, -⟩ := hsteady
    exact wrote_update hchanges hr rfl ⟨hstatus, howner, at', rfl⟩ hagree
  | earning now claim =>
    simp only [runComplete, writing_eq_next] at hrun
    obtain ⟨-, rfl, rfl⟩ := hrun
    refine completed_append hthere ?_
    intro u
    unfold payEarning
    cases claim.earningEventId.bind (runWrites writes d).earningEvents.get? <;> rfl
  | refundJob again now claim =>
    have hkeep : completed request again d' (runWrites (writes ++ []) d') :=
      completed_append hthere fun _ => rfl
    simp only [runComplete, statement_eq_next, refundJob] at hrun
    split at hrun
    · simp only [pure_eq_ok, Outcome.next.injEq] at hrun
      obtain ⟨-, rfl, rfl⟩ := hrun
      exact hkeep
    · simp only [bind_eq_ok] at hrun
      obtain ⟨jobId, -, job, -, hrun⟩ := hrun
      split at hrun
      · simp only [pure_eq_ok, Outcome.next.injEq] at hrun
        obtain ⟨-, rfl, rfl⟩ := hrun
        exact hkeep
      · simp only [bind_eq_ok, pure_eq_ok, Outcome.next.injEq] at hrun
        obtain ⟨-, -, -, rfl, rfl⟩ := hrun
        exact hkeep
  | closeJob again now claim jobId =>
    simp only [runComplete, statement_eq_next, bind_eq_ok, pure_eq_ok, writing_eq_next,
      closeJob] at hrun
    obtain ⟨changes, ⟨at', -, job, -, rfl⟩, -, rfl, rfl⟩ := hrun
    exact completed_append hthere fun _ => rfl
  | reload again =>
    simp only [runComplete, statement_eq_next, bind_eq_ok, pure_eq_ok, Outcome.next.injEq] at hrun
    obtain ⟨claim, -, -, rfl, rfl⟩ := hrun
    simpa [completeFacts] using hthere
  | commit again claim => cases hrun
  | done claim => cases hrun

theorem complete_commits (hrun : runComplete request input d place = .commit place') :
    ∃ again claim, place = .commit again claim ∧ place' = .done claim := by
  cases place with
  | commit again claim =>
    cases hrun
    exact ⟨again, claim, rfl, rfl⟩
  | start => cases hrun
  | done claim => cases hrun
  | earning now claim => cases hrun
  | load now =>
    simp only [runComplete, statement_eq_commit, bind_eq_ok, loadForComplete] at hrun
    obtain ⟨claim, -, hrun⟩ := hrun
    split at hrun <;> simp only [bind_eq_ok, pure_eq_ok, reduceCtorEq, and_false,
      exists_false] at hrun
  | refundJob again now claim =>
    simp only [runComplete, statement_eq_commit, refundJob] at hrun
    split at hrun
    · simp only [pure_eq_ok, reduceCtorEq] at hrun
    · simp only [bind_eq_ok] at hrun
      obtain ⟨jobId, -, job, -, hrun⟩ := hrun
      split at hrun <;> simp only [bind_eq_ok, pure_eq_ok, reduceCtorEq, and_false,
        exists_false] at hrun
  | _ =>
    simp only [runComplete, statement_eq_commit, bind_eq_ok, considerComplete, closeJob, pure_eq_ok,
      writing, reduceCtorEq, and_false, exists_false] at hrun

theorem complete_commit (hinv : Sound d) (hhere : completeFacts request place writes d)
    (hrun : runComplete request input (runWrites writes d) place = .commit place') :
    Sound (runWrites writes d) ∧ ∀ d', completeFacts request place' [] d' := by
  obtain ⟨again, claim, rfl, rfl⟩ := complete_commits hrun
  refine ⟨?_, fun _ => rfl⟩
  cases again with
  | true =>
    have hsame : (runWrites writes d).payoutClaims = d.payoutClaims := hhere
    intro c r hr
    rw [hsame] at hr
    exact hinv c r hr
  | false =>
    refine Wrote.sound hhere hinv ?_
    rintro r r' ⟨-, -, now, rfl⟩ - hstatus
    cases hstatus

end Complete

section Fail

variable {request : FailRequest} {place place' : FailPlace}

def Failing (request : FailRequest) (r r' : PayoutClaim) : Prop :=
  r.leaseOwner = some (trim request.workerId) ∧ r.status ≠ .confirmed ∧ abandons request r = true ∧
    ∃ now claim, r' = failRow request now claim r

theorem failRow_id (now : Nat) (claim r : PayoutClaim) : (failRow request now claim r).id = r.id := by
  unfold failRow
  split
  · exact abandonRow_id ..
  · rfl

def failFacts (request : FailRequest) (place : FailPlace) (writes : List (Write view)) (d : Shared) :
    Prop :=
  match place with
  | .reload | .commit _ => Wrote (trim request.claimId) (Failing request) d (runWrites writes d)
  | _ => writes = []

theorem fail_next (hthere : failFacts request place writes d')
    (hsteady : Unraced input (.fail request place) (runWrites writes d))
    (hrun : runFail request input (runWrites writes d) place = .next locked writes' place')
    (hagree : ∀ k ∈ locked ++ rowsOf writes', view k d' = view k d) :
    failFacts request place' (writes ++ writes') d' := by
  cases place with
  | start =>
    simp only [failFacts] at hthere
    subst hthere
    simp only [runFail, statement_eq_next, bind_eq_ok, pure_eq_ok, Outcome.next.injEq] at hrun
    obtain ⟨-, -, -, rfl, rfl⟩ := hrun
    rfl
  | load now =>
    simp only [failFacts] at hthere
    subst hthere
    simp only [runFail, statement_eq_next, bind_eq_ok, pure_eq_ok, Outcome.next.injEq] at hrun
    obtain ⟨claim, -, -, rfl, rfl⟩ := hrun
    rfl
  | readLease now claim =>
    simp only [failFacts] at hthere
    subst hthere
    simp only [runFail, statement_eq_next, bind_eq_ok, considerFail] at hrun
    obtain ⟨row, -, -, -, hrun⟩ := hrun
    split at hrun
    · simp only [pure_eq_ok, reduceCtorEq] at hrun
    · split at hrun
      · simp only [bind_eq_ok, pure_eq_ok, Outcome.next.injEq] at hrun
        obtain ⟨-, -, -, rfl, rfl⟩ := hrun
        rfl
      · simp only [pure_eq_ok, Outcome.next.injEq] at hrun
        obtain ⟨-, rfl, rfl⟩ := hrun
        rfl
  | update now claim =>
    simp only [failFacts] at hthere
    subst hthere
    simp only [runFail, statement_eq_next, bind_eq_ok, pure_eq_ok, writing_eq_next] at hrun
    obtain ⟨at', -, changes, hchanges, rfl, rfl, rfl⟩ := hrun
    simp only [Unraced, Option.any_eq_true, Bool.and_eq_true, decide_eq_true_eq, leasedBy] at hsteady
    obtain ⟨r, hr, ⟨⟨howner, -⟩, hstatus⟩, habandons⟩ := hsteady
    exact wrote_update hchanges hr (failRow_id at' claim r)
      ⟨howner, hstatus, habandons, at', claim, rfl⟩ hagree
  | reload =>
    simp only [runFail, statement_eq_next, bind_eq_ok, pure_eq_ok, Outcome.next.injEq] at hrun
    obtain ⟨claim, -, -, rfl, rfl⟩ := hrun
    simpa [failFacts] using hthere
  | commit claim => cases hrun
  | done claim => cases hrun

theorem fail_commits (hrun : runFail request input d place = .commit place') :
    ∃ claim, place = .commit claim ∧ place' = .done claim := by
  cases place with
  | commit claim =>
    cases hrun
    exact ⟨claim, rfl, rfl⟩
  | done claim => cases hrun
  | readLease now claim =>
    simp only [runFail, statement_eq_commit, bind_eq_ok, considerFail] at hrun
    obtain ⟨row, -, -, -, hrun⟩ := hrun
    split at hrun
    · simp only [pure_eq_ok, reduceCtorEq] at hrun
    · split at hrun <;> simp only [bind_eq_ok, pure_eq_ok, reduceCtorEq, and_false,
        exists_false] at hrun
  | _ =>
    simp only [runFail, statement_eq_commit, bind_eq_ok, pure_eq_ok, writing, reduceCtorEq,
      and_false, exists_false] at hrun

theorem failRow_signed {r : PayoutClaim} {claim : PayoutClaim}
    (habandons : abandons request r = true) (hstatus : (failRow request now claim r).status = .prepared) :
    (failRow request now claim r).signedTransactionBase64 ≠ none := by
  unfold failRow at hstatus ⊢
  split at hstatus
  · next habandon =>
    simp only [abandons, habandon, Bool.not_true, Bool.false_or, Bool.and_eq_true,
      Option.isSome_iff_ne_none] at habandons
    unfold abandonRow at hstatus ⊢
    split at hstatus
    · cases hstatus
    · next hconfirmed =>
      rw [if_pos habandon, if_neg hconfirmed]
      exact habandons.2
  · next habandon =>
    rw [if_neg habandon]
    intro hraw
    have hraw' : r.signedTransactionBase64 = none := hraw
    simp [recordFailure, hraw'] at hstatus

theorem fail_commit (hinv : Sound d) (hhere : failFacts request place writes d)
    (hrun : runFail request input (runWrites writes d) place = .commit place') :
    Sound (runWrites writes d) ∧ ∀ d', failFacts request place' [] d' := by
  obtain ⟨claim, rfl, rfl⟩ := fail_commits hrun
  refine ⟨Wrote.sound hhere hinv ?_, fun _ => rfl⟩
  rintro r r' ⟨-, -, habandons, now, claim, rfl⟩ - hstatus
  exact failRow_signed habandons hstatus

end Fail

end Obulus.Payout.Concurrent
