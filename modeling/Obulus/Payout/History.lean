import Obulus.Foundation.Trace
import Obulus.Payout.Effects

namespace Obulus.Payout

open Foundation Store

section Insert

structure NewClaim where
  id : String
  earningEventId : Option String
  openCallId : Option String
  beneficiaryUserId : String
  kind : String
  escrowWallet : String
  recipientWallet : String
  asset : String
  network : String
  amountAtomic : Nat
  amountKrw : Nat
  createdAt : Nat
  deriving DecidableEq, Repr

def NewClaim.row (c : NewClaim) : PayoutClaim where
  id := c.id
  earningEventId := c.earningEventId
  openCallId := c.openCallId
  beneficiaryUserId := c.beneficiaryUserId
  kind := c.kind
  escrowWallet := c.escrowWallet
  recipientWallet := c.recipientWallet
  asset := c.asset
  network := c.network
  amountAtomic := c.amountAtomic
  amountKrw := c.amountKrw
  status := .pending
  leaseOwner := none
  leaseExpiresAt := none
  transactionSignature := none
  signedTransactionBase64 := none
  recentBlockhash := none
  lastValidBlockHeight := none
  preparedAt := none
  absenceObservedAt := none
  attemptCount := 0
  lastError := none
  createdAt := c.createdAt
  updatedAt := c.createdAt
  confirmedAt := none

theorem signaturesOf_insert? {claims claims' : Table PayoutClaim.id} {c : NewClaim}
    (h : claims.insert? c.row = some claims') : signaturesOf claims' = signaturesOf claims := by
  simp [signaturesOf, (Table.insert?_eq_some.mp h).2, NewClaim.row]

def insertRow (db : Database) (c : NewClaim) : Except StoreError Database :=
  match h : db.payoutClaims.insert? c.row with
  | none => .error (.database "UNIQUE constraint failed: payout_claims.id")
  | some claims =>
    if unique : (earningEventsOf claims).Nodup then
      .ok { db with
        payoutClaims := claims
        uniqueSignatures := signaturesOf_insert? h ▸ db.uniqueSignatures
        uniqueEarningEvents := unique }
    else .error (.database "UNIQUE constraint failed: payout_claims.earning_event_id")

def insertPayoutClaim (enc : Encoding) (db : Database) (c : NewClaim) :
    Except StoreError Database := do
  reject (c.amountAtomic = 0) (.validation "payout claim amount must be greater than zero")
  reject (validSolanaAddress enc c.escrowWallet = false ∨
      validSolanaAddress enc c.recipientWallet = false)
    (.validation "payout claim wallets must be valid Solana addresses")
  let _ ← asI64 c.amountAtomic
  let _ ← asI64 c.amountKrw
  let _ ← asI64 c.createdAt
  insertRow db c

variable {enc : Encoding} {db db' : Database} {c : NewClaim}

theorem insertPayoutClaim_ok (h : insertPayoutClaim enc db c = .ok db') :
    db.payoutClaims.insert? c.row = some db'.payoutClaims ∧
      db'.earningEvents = db.earningEvents := by
  simp only [insertPayoutClaim, bind_eq_ok] at h
  obtain ⟨_, _, _, _, _, _, _, _, _, _, h⟩ := h
  unfold insertRow at h
  split at h
  · cases h
  · next claims hinsert =>
    split at h
    · cases h
      exact ⟨hinsert, rfl⟩
    · cases h

end Insert

inductive Event
  | accepted (now : Nat) (req : Request)
  | rejected (now : Nat) (req : Request) (error : StoreError)
  | enqueued (c : NewClaim)
  | earned (e : EarningEvent)
  | matured (ids : List String)
  | elsewhere (researchJobs : Table ResearchJob.id) (recoveryHolds : List RecoveryHold)

def mature (ids : List String) (earningEvents : Table EarningEvent.id) : Table EarningEvent.id :=
  earningEvents.update (fun e => decide (e.id ∈ ids ∧ e.payoutStatus = .held))
    (fun e => { e with payoutStatus := .accrued }) (fun _ => rfl)

-- Besides the four requests the store enqueues claims for claimable earnings (and for refunds,
-- which have none), records and releases earnings, and moves research jobs and recovery holds.
inductive Step (enc : Encoding) : Database → Event → Database → Prop
  | accepted {db now req db' response} : execute enc db now req = .ok (db', response) →
      Step enc db (.accepted now req) db'
  | rejected {db now req error} : execute enc db now req = .error error →
      Step enc db (.rejected now req error) db
  | enqueued {db c db'} : insertPayoutClaim enc db c = .ok db' →
      (∀ id, c.earningEventId = some id →
        ∃ e, db.earningEvents.get? id = some e ∧ e.payoutStatus = .claimable) →
      Step enc db (.enqueued c) db'
  | earned {db e earningEvents} : e.payoutStatus ≠ .paid →
      db.earningEvents.insert? e = some earningEvents →
      Step enc db (.earned e) { db with earningEvents := earningEvents }
  | matured {db ids} :
      Step enc db (.matured ids) { db with earningEvents := mature ids db.earningEvents }
  | elsewhere {db researchJobs recoveryHolds} :
      Step enc db (.elsewhere researchJobs recoveryHolds)
        { db with researchJobs := researchJobs, recoveryHolds := recoveryHolds }

abbrev Run (enc : Encoding) := Trace (Step enc) Database.empty

def execEvent (enc : Encoding) (db : Database) : Event → Option Database
  | .accepted now req => (execute enc db now req).toOption.map Prod.fst
  | .rejected _ _ _ => none
  | .enqueued c =>
    if c.earningEventId.all fun id =>
        (db.earningEvents.get? id).any fun e => decide (e.payoutStatus = .claimable) then
      (insertPayoutClaim enc db c).toOption
    else none
  | .earned e =>
    if e.payoutStatus ≠ .paid then
      (db.earningEvents.insert? e).map fun earningEvents => { db with earningEvents := earningEvents }
    else none
  | .matured ids => some { db with earningEvents := mature ids db.earningEvents }
  | .elsewhere researchJobs recoveryHolds =>
    some { db with researchJobs := researchJobs, recoveryHolds := recoveryHolds }

theorem step_of_execEvent {enc : Encoding} (db : Database) (e : Event) (db' : Database)
    (h : execEvent enc db e = some db') : Step enc db e db' := by
  unfold execEvent at h
  split at h
  · simp only [Option.map_eq_some_iff] at h
    obtain ⟨⟨_, _⟩, hx, rfl⟩ := h
    exact .accepted (toOption_eq_some.mp hx)
  · cases h
  · split at h
    · next hclaimable =>
      refine .enqueued (toOption_eq_some.mp h) ?_
      intro id hid
      simpa [hid, Option.any_eq_true] using hclaimable
    · cases h
  · split at h
    · next hstatus =>
      simp only [Option.map_eq_some_iff] at h
      obtain ⟨earningEvents, hinsert, rfl⟩ := h
      exact .earned hstatus hinsert
    · cases h
  · cases h
    exact .matured
  · cases h
    exact .elsewhere

section Phase

inductive Phase
  | idle
  | prepared (signature : String) (absenceObservedAt : Option Nat)
  | confirmed (signature : String)
  deriving DecidableEq, Repr

def PayoutClaim.phase (r : PayoutClaim) : Phase :=
  match r.status with
  | .pending | .leased | .failed => .idle
  | .prepared => .prepared (r.transactionSignature.getD "") r.absenceObservedAt
  | .confirmed => .confirmed (r.transactionSignature.getD "")

-- which columns each status of a claim carries
def Sound (r : PayoutClaim) : Prop :=
  match r.status with
  | .pending | .leased | .failed =>
    r.transactionSignature = none ∧ r.signedTransactionBase64 = none ∧
      r.absenceObservedAt = none ∧ r.confirmedAt = none
  | .prepared =>
    r.transactionSignature ≠ none ∧ r.signedTransactionBase64 ≠ none ∧ r.confirmedAt = none
  | .confirmed =>
    r.transactionSignature ≠ none ∧ r.signedTransactionBase64 = none ∧
      r.absenceObservedAt = none ∧ r.confirmedAt ≠ none

variable {r r' : PayoutClaim} {now : Nat} {req : Request} {S : String} {a : Option Nat}

theorem phase_prepared_iff (h : Sound r) :
    r.phase = .prepared S a ↔ r.status = .prepared ∧ r.transactionSignature = some S ∧
      r.absenceObservedAt = a := by
  unfold Sound at h
  unfold PayoutClaim.phase
  cases hs : r.status with
  | prepared =>
    simp only [hs] at h
    obtain ⟨hsig, -, -⟩ := h
    obtain ⟨S', hS'⟩ := Option.ne_none_iff_exists'.mp hsig
    simp [hS']
  | pending => simp
  | leased => simp
  | failed => simp
  | confirmed => simp

theorem phase_confirmed_iff (h : Sound r) :
    r.phase = .confirmed S ↔ r.status = .confirmed ∧ r.transactionSignature = some S := by
  unfold Sound at h
  unfold PayoutClaim.phase
  cases hs : r.status with
  | confirmed =>
    simp only [hs] at h
    obtain ⟨hsig, -⟩ := h
    obtain ⟨S', hS'⟩ := Option.ne_none_iff_exists'.mp hsig
    simp [hS']
  | pending => simp
  | leased => simp
  | failed => simp
  | prepared => simp

theorem phase_idle_iff (h : Sound r) : r.phase = .idle ↔ r.transactionSignature = none := by
  unfold Sound at h
  unfold PayoutClaim.phase
  cases hs : r.status <;> simp_all

theorem lapse_eq (h : Sound r) :
    lapse now r = r ∨ lapse now r =
      { r with status := .pending, leaseOwner := none, leaseExpiresAt := none, updatedAt := now } ∧
        r.status = .leased := by
  unfold lapse
  split
  · next hl =>
    simp only [leaseExpired, Bool.and_eq_true, decide_eq_true_eq] at hl
    unfold Sound at h
    simp only [hl.1] at h
    refine .inr ⟨?_, hl.1⟩
    simp [expireLease, h.2.1]
  · exact .inl rfl

theorem lapse_sound (h : Sound r) : Sound (lapse now r) ∧ (lapse now r).phase = r.phase := by
  rcases lapse_eq h with heq | ⟨heq, hs⟩
  · rw [heq]
    exact ⟨h, rfl⟩
  · rw [heq]
    unfold Sound at h ⊢
    simp only [hs] at h
    exact ⟨h, by simp [PayoutClaim.phase, hs]⟩

theorem takeLease_sound {w network escrow : String} {e : Nat} (h : Sound r)
    (hl : leasable now escrow network r = true) :
    Sound (takeLease w e now r) ∧ (takeLease w e now r).phase = r.phase := by
  simp only [leasable, freshEvidence, preparedEvidence, Bool.and_eq_true, Bool.or_eq_true,
    decide_eq_true_eq, Option.isNone_iff_eq_none] at hl
  unfold Sound at h ⊢
  rcases hl.2 with hfresh | hprepared
  · obtain ⟨⟨⟨⟨⟨hs, hsig⟩, hraw⟩, -⟩, -⟩, hab⟩ := hfresh
    rcases hs with hs | hs
    · simp [takeLease, PayoutClaim.phase, hs, hsig, hraw, hab, hl.1.1.1.1.1]
    · simp [takeLease, PayoutClaim.phase, hs, hsig, hraw, hab, hl.1.1.1.1.1]
  · obtain ⟨⟨⟨⟨⟨hs, -⟩, -⟩, -⟩, -⟩, -⟩ := hprepared
    simp only [hs] at h
    obtain ⟨hsig, hraw, hconf⟩ := h
    simp [takeLease, PayoutClaim.phase, hs, hsig, hraw, hconf]

-- what a request does to the phase of the claim it reaches
inductive Move (now : Nat) (r r' : PayoutClaim) : Request → Prop
  | elsewhere {req c} : req.target = some c → r.id ≠ c → r' = r → Move now r r' req
  | lease {q} : r'.phase = r.phase → Move now r r' (.lease q)
  | prepared {q} : trim q.claimId = r.id → ActiveLease q.workerId now r → r.phase = .idle →
      r'.phase = .prepared (trim q.transactionSignature) none → Move now r r' (.prepare q)
  | resent {q a} : trim q.claimId = r.id → r.phase = .prepared (trim q.transactionSignature) a →
      r' = r → Move now r r' (.prepare q)
  | confirmed {q a} : trim q.claimId = r.id → ActiveLease q.workerId now r →
      r.phase = .prepared (trim q.transactionSignature) a →
      r'.phase = .confirmed (trim q.transactionSignature) → Move now r r' (.complete q)
  | reconfirmed {q} : trim q.claimId = r.id →
      r.phase = .confirmed (trim q.transactionSignature) → r' = r → Move now r r' (.complete q)
  | observed {q S} : trim q.claimId = r.id → ActiveLease q.workerId now r →
      q.abandonPreparedTransaction = true → r.phase = .prepared S none →
      r'.phase = .prepared S (some now) → Move now r r' (.fail q)
  | awaited {q S t} : trim q.claimId = r.id → ActiveLease q.workerId now r →
      q.abandonPreparedTransaction = true → r.phase = .prepared S (some t) →
      now < t + payoutAbsenceConfirmationMs → r'.phase = .prepared S (some t) →
      Move now r r' (.fail q)
  | released {q S t} : trim q.claimId = r.id → ActiveLease q.workerId now r →
      q.abandonPreparedTransaction = true → r.phase = .prepared S (some t) →
      t + payoutAbsenceConfirmationMs ≤ now → r'.phase = .idle → Move now r r' (.fail q)
  | retained {q S a} : trim q.claimId = r.id → ActiveLease q.workerId now r →
      q.abandonPreparedTransaction = false → r.phase = .prepared S a →
      r'.phase = .prepared S none → Move now r r' (.fail q)
  | failed {q} : trim q.claimId = r.id → q.abandonPreparedTransaction = false →
      r.phase = .idle → r'.phase = .idle → Move now r r' (.fail q)
  | ignored {q S} : trim q.claimId = r.id → r.phase = .confirmed S → r' = r →
      Move now r r' (.fail q)

theorem Effect.kept (h : Effect now req r r') :
    r'.id = r.id ∧ r'.earningEventId = r.earningEventId := by
  have hlapse : (lapse now r).id = r.id ∧ (lapse now r).earningEventId = r.earningEventId := by
    unfold lapse
    split <;> exact ⟨rfl, rfl⟩
  cases h with
  | lapsed => exact hlapse
  | leased _ => exact hlapse
  | abandoned _ _ _ _ => exact ⟨abandonRow_id _ _ _ _, abandonRow_earningEventId _ _ _ _⟩
  | elsewhere _ _ => exact ⟨rfl, rfl⟩
  | prepared _ _ _ => exact ⟨rfl, rfl⟩
  | resent _ _ _ _ _ => exact ⟨rfl, rfl⟩
  | completed _ _ _ _ => exact ⟨rfl, rfl⟩
  | recompleted _ _ _ => exact ⟨rfl, rfl⟩
  | retained _ _ _ _ => exact ⟨rfl, rfl⟩
  | ignored _ _ _ => exact ⟨rfl, rfl⟩

theorem idle_of_leased (hs : r.status = .leased) : r.phase = .idle := by
  simp [PayoutClaim.phase, hs]

theorem recordPrepared_sound {q : PrepareRequest} {height : Nat} (h : Sound r)
    (hs : r.status = .leased) : Sound (recordPrepared q height now r) := by
  unfold Sound at h ⊢
  simp only [hs] at h
  simp [recordPrepared, h.2.2.2]

theorem recordConfirmed_sound (h : Sound r) (hs : r.status = .prepared) :
    Sound (recordConfirmed now r) := by
  unfold Sound at h ⊢
  simp only [hs] at h
  simp [recordConfirmed, h.1]

theorem recordFailure_sound {error : String} (h : Sound r) (hs : r.status ≠ .confirmed) :
    Sound (recordFailure error now r) ∧
      ((∃ S a, r.phase = .prepared S a ∧ (recordFailure error now r).phase = .prepared S none) ∨
        (r.phase = .idle ∧ (recordFailure error now r).phase = .idle)) := by
  unfold Sound at h ⊢
  cases hst : r.status with
  | confirmed => exact absurd hst hs
  | prepared =>
    simp only [hst] at h
    simp [recordFailure, PayoutClaim.phase, hst, h]
  | pending =>
    simp only [hst] at h
    simp [recordFailure, PayoutClaim.phase, hst, h]
  | leased =>
    simp only [hst] at h
    simp [recordFailure, PayoutClaim.phase, hst, h]
  | failed =>
    simp only [hst] at h
    simp [recordFailure, PayoutClaim.phase, hst, h]

theorem abandonRow_sound {error : String} (h : Sound r) (ha : Abandonable now r) :
    Sound (abandonRow r error now r) := by
  unfold Sound at h
  simp only [ha.status] at h
  unfold abandonRow
  split
  · simp [Sound, recordAbandoned, h.2.2]
  · simp [Sound, recordAbsence, h]

theorem absenceConfirmed_iff {t : Nat} (hnow : now ≤ i64Max) (hab : r.absenceObservedAt = some t) :
    absenceConfirmed r now = true ↔ t + payoutAbsenceConfirmationMs ≤ now := by
  unfold absenceConfirmed
  rw [hab, Option.any_some, decide_eq_true_eq]
  exact saturatingAdd_le_iff hnow

theorem abandonRow_phase {error : String} (h : Sound r) (ha : Abandonable now r)
    (hnow : now ≤ i64Max) {q : FailRequest} (hid : trim q.claimId = r.id)
    (hlease : ActiveLease q.workerId now r) (hflag : q.abandonPreparedTransaction = true) :
    Move now r (abandonRow r error now r) (.fail q) := by
  obtain ⟨S, hS⟩ := Option.ne_none_iff_exists'.mp ha.signature
  have hphase (a : Option Nat) (hab : r.absenceObservedAt = a) : r.phase = .prepared S a :=
    (phase_prepared_iff h).mpr ⟨ha.status, hS, hab⟩
  cases hab : r.absenceObservedAt with
  | none =>
    refine .observed (S := S) hid hlease hflag (hphase none hab) ?_
    simp [abandonRow, absenceConfirmed, hab, recordAbsence, PayoutClaim.phase, hS]
  | some t =>
    have hconf := absenceConfirmed_iff hnow hab
    by_cases hle : t + payoutAbsenceConfirmationMs ≤ now
    · refine .released hid hlease hflag (hphase _ hab) hle ?_
      simp [abandonRow, hconf.mpr hle, recordAbandoned, PayoutClaim.phase]
    · refine .awaited hid hlease hflag (hphase _ hab) (Nat.lt_of_not_le hle) ?_
      simp [abandonRow, mt hconf.mp hle, recordAbsence, PayoutClaim.phase, hab, hS]

theorem Effect.move (h : Effect now req r r') (hr : Sound r) : Sound r' ∧ Move now r r' req := by
  cases h with
  | elsewhere hc hid => exact ⟨hr, .elsewhere hc hid rfl⟩
  | lapsed =>
    obtain ⟨hsound, hphase⟩ := lapse_sound hr
    exact ⟨hsound, .lease hphase⟩
  | leased hl =>
    obtain ⟨hsound, hphase⟩ := lapse_sound hr
    obtain ⟨hsound', hphase'⟩ := takeLease_sound hsound hl
    exact ⟨hsound', .lease (hphase'.trans hphase)⟩
  | prepared hid hlease hs =>
    exact ⟨recordPrepared_sound hr hs, .prepared hid hlease (idle_of_leased hs) rfl⟩
  | resent hid hlease hs hsig _ =>
    exact ⟨hr, .resent hid ((phase_prepared_iff hr).mpr ⟨hs, hsig, rfl⟩) rfl⟩
  | completed hid hlease hs hsig =>
    refine ⟨recordConfirmed_sound hr hs,
      .confirmed hid hlease ((phase_prepared_iff hr).mpr ⟨hs, hsig, rfl⟩) ?_⟩
    simp [recordConfirmed, PayoutClaim.phase, hsig]
  | recompleted hid hs hsig =>
    exact ⟨hr, .reconfirmed hid ((phase_confirmed_iff hr).mpr ⟨hs, hsig⟩) rfl⟩
  | abandoned hid hlease hflag ha hnow =>
    exact ⟨abandonRow_sound hr ha, abandonRow_phase hr ha hnow hid hlease hflag⟩
  | retained hid hlease hflag hs =>
    obtain ⟨hsound, hphase⟩ := recordFailure_sound hr hs
    rcases hphase with ⟨S, a, hp, hp'⟩ | ⟨hp, hp'⟩
    · exact ⟨hsound, .retained hid hlease hflag hp hp'⟩
    · exact ⟨hsound, .failed hid hflag hp hp'⟩
  | ignored hid hlease hs =>
    obtain ⟨S, hS⟩ : ∃ S, r.transactionSignature = some S := by
      unfold Sound at hr
      simp only [hs] at hr
      exact Option.ne_none_iff_exists'.mp hr.1
    exact ⟨hr, .ignored hid ((phase_confirmed_iff hr).mpr ⟨hs, hS⟩) rfl⟩

end Phase

end Obulus.Payout
