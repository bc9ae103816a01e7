import Mathlib.Data.List.Dedup
import Obulus.Foundation.WorkQueue
import Obulus.Payout.Lifecycle

namespace Obulus.Payout

open Foundation Store

def recoveryScheduleClockSkewMs : Nat := 60 * 1000

section Backlogs

structure PayoutClaimBacklog where
  escrowWallet : String
  network : String
  claimCount : Nat
  preparedCount : Nat
  blockedCount : Nat
  oldestCreatedAt : Nat
  deriving DecidableEq, Repr

variable (maximumLeaseExpiry maximumObservationTime : Nat)

def lacksEvidence (r : PayoutClaim) : Bool :=
  decide (r.status = .prepared) &&
    (r.transactionSignature.isNone || r.signedTransactionBase64.isNone ||
      r.recentBlockhash.isNone || r.lastValidBlockHeight.isNone || decide (r.attemptCount = 0))

def strayEvidence (r : PayoutClaim) : Bool :=
  decide (r.status = .pending ∨ r.status = .failed ∨ r.status = .leased) &&
    (r.transactionSignature.isSome || r.signedTransactionBase64.isSome ||
      r.recentBlockhash.isSome || r.lastValidBlockHeight.isSome || r.absenceObservedAt.isSome)

def hiddenLease (r : PayoutClaim) : Bool :=
  (decide (r.status = .leased) && (r.leaseOwner.isNone || r.leaseExpiresAt.isNone)) ||
    (decide (r.status = .leased ∨ r.status = .prepared) &&
      r.leaseExpiresAt.any fun expiry => decide (maximumLeaseExpiry < expiry))

def impossibleTimes (r : PayoutClaim) : Bool :=
  decide (r.createdAt = 0) || decide (maximumObservationTime < r.createdAt) ||
    r.absenceObservedAt.any fun observedAt =>
      decide (observedAt < r.preparedAt.getD r.createdAt ∨ maximumObservationTime < observedAt)

def blocked (r : PayoutClaim) : Bool :=
  decide (10 ≤ r.attemptCount) || decide (r.status = .confirmed) || lacksEvidence r ||
    strayEvidence r || hiddenLease maximumLeaseExpiry r || impossibleTimes maximumObservationTime r

def unsettled (r : PayoutClaim) : Bool :=
  r.confirmedAt.isNone || decide (r.status ≠ .confirmed)

def backlogKey (r : PayoutClaim) : String × String := (r.escrowWallet, r.network)

def backlogOf (rows : List PayoutClaim) (key : String × String) : PayoutClaimBacklog :=
  let group := rows.filter fun r => decide (backlogKey r = key)
  { escrowWallet := key.1
    network := key.2
    claimCount := group.length
    preparedCount := group.countP fun r => r.signedTransactionBase64.isSome
    blockedCount := group.countP (blocked maximumLeaseExpiry maximumObservationTime)
    oldestCreatedAt := ((group.map PayoutClaim.createdAt).min?).getD 0 }

def backlogOrder (a b : PayoutClaimBacklog) : Bool :=
  decide (a.oldestCreatedAt < b.oldestCreatedAt) ||
    (decide (a.oldestCreatedAt = b.oldestCreatedAt) &&
      (decide (a.escrowWallet < b.escrowWallet) ||
        (decide (a.escrowWallet = b.escrowWallet) && decide (a.network ≤ b.network))))

-- `now_ms` is read twice
def payoutClaimBacklogs (db : Database) (now now' : Nat) :
    Except StoreError (List PayoutClaimBacklog) := do
  let maximumLeaseExpiry :=
    saturatingAdd (saturatingAdd now payoutMaxLeaseMs) recoveryScheduleClockSkewMs
  let maximumObservationTime := saturatingAdd now' recoveryScheduleClockSkewMs
  let maximumLeaseExpiry ← asI64 maximumLeaseExpiry
  let maximumObservationTime ← asI64 maximumObservationTime
  let rows := db.payoutClaims.rows.filter unsettled
  return ((rows.map backlogKey).dedup.map
    (backlogOf maximumLeaseExpiry maximumObservationTime rows)).mergeSort backlogOrder

end Backlogs

section Clocked

-- milliseconds, with room for two leases below the i64 limit
abbrev Clock := { now : Nat // 0 < now ∧ now + 2 * payoutMaxLeaseMs ≤ i64Max }

structure Desk where
  db : Database
  clock : Clock

inductive DeskEvent
  | store (e : Event)
  | tick (clock : Clock)

def Event.happensAt (now : Nat) : Event → Prop
  | .accepted t _ => t = now
  | .rejected t _ _ => t = now
  | .enqueued c => 0 < c.createdAt ∧ c.createdAt ≤ now
  | _ => True

-- identifiers are generated and networks come trimmed from the payment policy
structure NewClaim.Regular (c : NewClaim) : Prop where
  id : trim c.id = c.id
  network : trim c.network = c.network ∧ c.network ≠ ""

def AwaitsRefund (db : Database) (r : PayoutClaim) : Prop :=
  ∃ jobId job, refundJobId r.beneficiaryUserId = some jobId ∧
    db.researchJobs.get? jobId = some job ∧ job.refundClaimId = some r.id ∧
    (job.status = "refund_pending" ∨ job.status = "balance_refunded")

def RefundsPending (db : Database) : Prop :=
  ∀ c r, db.payoutClaims.get? c = some r → r.status ≠ .confirmed → r.kind = "research_refund" →
    AwaitsRefund db r

def Event.outside : Event → Bool
  | .accepted _ _ => false
  | .rejected _ _ _ => false
  | _ => true

-- A refund is enqueued for a job that waits for it, and only the refund ends the wait.
inductive DeskStep (enc : Encoding) : Desk → DeskEvent → Desk → Prop
  | store {w : Desk} {e : Event} {db' : Database} : Step enc w.db e db' →
      e.happensAt w.clock.1 → (∀ c, e = .enqueued c → c.Regular) →
      (e.outside = true → RefundsPending w.db → RefundsPending db') →
      DeskStep enc w (.store e) { w with db := db' }
  | tick {w : Desk} {clock : Clock} : w.clock.1 ≤ clock.1 →
      DeskStep enc w (.tick clock) { w with clock := clock }

abbrev DeskRun (enc : Encoding) := Trace (DeskStep enc)

end Clocked

section Health

variable {enc : Encoding} {r r' : PayoutClaim} {now now' : Nat} {req : Request}

-- the columns and times the lease query and the backlog query both look at
structure Healthy (enc : Encoding) (now : Nat) (r : PayoutClaim) : Prop where
  sound : Sound r
  idle : r.status = .pending ∨ r.status = .leased ∨ r.status = .failed →
    r.recentBlockhash = none ∧ r.lastValidBlockHeight = none
  prepared : r.status = .prepared →
    r.recentBlockhash ≠ none ∧ r.lastValidBlockHeight ≠ none ∧ 0 < r.attemptCount
  leased : r.status = .leased → r.leaseOwner ≠ none ∧ r.leaseExpiresAt ≠ none ∧ r.attemptCount < 10
  expiry : ∀ t, r.leaseExpiresAt = some t → t ≤ now + payoutMaxLeaseMs
  created : 0 < r.createdAt ∧ r.createdAt ≤ now
  preparedAt : ∀ t, r.preparedAt = some t → t ≤ now
  observed : ∀ t, r.absenceObservedAt = some t → r.preparedAt.getD r.createdAt ≤ t ∧ t ≤ now
  wallet : validSolanaAddress enc r.escrowWallet = true
  id : trim r.id = r.id
  network : trim r.network = r.network ∧ r.network ≠ ""
  signature : ∀ S, r.transactionSignature = some S → trim S = S

theorem Healthy.later (h : Healthy enc now r) (hle : now ≤ now') : Healthy enc now' r := by
  refine ⟨h.sound, h.idle, h.prepared, h.leased, ?_, ?_, ?_, ?_, h.wallet, h.id, h.network, h.signature⟩
  · intro t ht
    have hexpiry := h.expiry t ht
    omega
  · have hcreated := h.created
    omega
  · intro t ht
    have hprepared := h.preparedAt t ht
    omega
  · intro t ht
    have hobserved := h.observed t ht
    omega

theorem lapse_healthy (h : Healthy enc now r) : Healthy enc now (lapse now r) := by
  rcases lapse_eq h.sound with heq | ⟨heq, hs⟩
  · rw [heq]
    exact h
  · have hsound : Sound (lapse now r) := (lapse_sound h.sound).1
    rw [heq] at hsound ⊢
    exact ⟨hsound, fun _ => h.idle (.inr (.inl hs)), by simp, by simp, by simp, h.created,
      h.preparedAt, h.observed, h.wallet, h.id, h.network, h.signature⟩

theorem takeLease_healthy {workerId escrowWallet network : String} {leaseMs : Nat}
    (h : Healthy enc now r) (hl : leasable now escrowWallet network r = true)
    (hms : leaseMs ≤ payoutMaxLeaseMs) :
    Healthy enc now (takeLease workerId (saturatingAdd now leaseMs) now r) := by
  have hsound := (takeLease_sound (w := workerId) (e := saturatingAdd now leaseMs) h.sound hl).1
  have hs : (takeLease workerId (saturatingAdd now leaseMs) now r).status = .leased ∧
      (r.status = .pending ∨ r.status = .failed) ∨
      (takeLease workerId (saturatingAdd now leaseMs) now r).status = .prepared ∧
        r.status = .prepared := by
    have hraw := h.sound
    simp only [leasable, freshEvidence, preparedEvidence, Bool.and_eq_true, Bool.or_eq_true,
      decide_eq_true_eq, Option.isNone_iff_eq_none] at hl
    rcases hl.2 with hfresh | hprepared
    · exact .inl ⟨by simp [takeLease, hfresh.1.1.1.2], hfresh.1.1.1.1.1⟩
    · have hstatus := hprepared.1.1.1.1.1
      unfold Sound at hraw
      simp only [hstatus] at hraw
      exact .inr ⟨by simp [takeLease, hraw.2.1], hstatus⟩
  have hfew : r.attemptCount < 10 := by
    simp only [leasable, Bool.and_eq_true, decide_eq_true_eq] at hl
    exact hl.1.1.1.1.2
  refine ⟨hsound, ?_, ?_, ?_, ?_, h.created, h.preparedAt, h.observed, h.wallet, h.id, h.network, h.signature⟩
  · intro hidle
    rcases hs with ⟨-, hidle'⟩ | ⟨hprepared, -⟩
    · exact h.idle (hidle'.imp id .inr)
    · simp [hprepared] at hidle
  · intro hprepared
    rcases hs with ⟨hleased, -⟩ | ⟨-, hprepared'⟩
    · simp [hleased] at hprepared
    · exact h.prepared hprepared'
  · intro _
    exact ⟨by simp [takeLease], by simp [takeLease], hfew⟩
  · intro t ht
    simp only [takeLease, Option.some.injEq] at ht
    rw [← ht]
    exact (Nat.min_le_left _ _).trans (Nat.add_le_add_left hms now)

theorem recordAbsence_healthy {error : String} (h : Healthy enc now r) (hs : r.status = .prepared)
    (hsound : Sound (recordAbsence error now r)) : Healthy enc now (recordAbsence error now r) := by
  refine ⟨hsound, by simp [recordAbsence], fun _ => h.prepared hs, by simp [recordAbsence],
    by simp [recordAbsence], h.created, h.preparedAt, ?_, h.wallet, h.id, h.network, h.signature⟩
  intro t ht
  cases hab : r.absenceObservedAt with
  | some t' =>
    obtain rfl : t' = t := by simpa [recordAbsence, hab] using ht
    exact h.observed t' hab
  | none =>
    obtain rfl : now = t := by simpa [recordAbsence, hab] using ht
    have hle : r.preparedAt.getD r.createdAt ≤ now := by
      cases hp : r.preparedAt with
      | none => exact h.created.2
      | some p => exact h.preparedAt p hp
    exact ⟨hle, le_rfl⟩

theorem abandonRow_healthy {error : String} (h : Healthy enc now r) (ha : Abandonable now r) :
    Healthy enc now (abandonRow r error now r) := by
  have hsound : Sound (abandonRow r error now r) := abandonRow_sound h.sound ha
  unfold abandonRow at hsound ⊢
  split at hsound
  · next hconfirmed =>
    rw [if_pos hconfirmed]
    exact ⟨hsound, by simp [recordAbandoned], by simp [recordAbandoned], by simp [recordAbandoned],
      by simp [recordAbandoned], h.created, by simp [recordAbandoned], by simp [recordAbandoned],
      h.wallet, h.id, h.network, by simp [recordAbandoned]⟩
  · next hopen =>
    rw [if_neg hopen]
    exact recordAbsence_healthy h ha.status hsound

theorem recordFailure_healthy {error : String} (h : Healthy enc now r)
    (hs : r.status ≠ .confirmed) : Healthy enc now (recordFailure error now r) := by
  have hsound : Sound (recordFailure error now r) := (recordFailure_sound h.sound hs).1
  have hstatus : (recordFailure error now r).status = .failed ∧
      (r.status = .pending ∨ r.status = .leased ∨ r.status = .failed) ∨
      (recordFailure error now r).status = .prepared ∧ r.status = .prepared := by
    have hraw := h.sound
    unfold Sound at hraw
    cases hst : r.status with
    | confirmed => exact absurd hst hs
    | prepared =>
      simp only [hst] at hraw
      exact .inr ⟨by simp [recordFailure, hraw.2.1], rfl⟩
    | pending =>
      simp only [hst] at hraw
      exact .inl ⟨by simp [recordFailure, hraw.2.1], .inl rfl⟩
    | leased =>
      simp only [hst] at hraw
      exact .inl ⟨by simp [recordFailure, hraw.2.1], .inr (.inl rfl)⟩
    | failed =>
      simp only [hst] at hraw
      exact .inl ⟨by simp [recordFailure, hraw.2.1], .inr (.inr rfl)⟩
  refine ⟨hsound, ?_, ?_, ?_, by simp [recordFailure], h.created, h.preparedAt,
    by simp [recordFailure], h.wallet, h.id, h.network, h.signature⟩
  · intro hidle
    rcases hstatus with ⟨-, hidle'⟩ | ⟨hprepared, -⟩
    · exact h.idle hidle'
    · simp [hprepared] at hidle
  · intro hprepared
    rcases hstatus with ⟨hfailed, -⟩ | ⟨-, hprepared'⟩
    · simp [hfailed] at hprepared
    · obtain ⟨hblock, hheight, hcount⟩ := h.prepared hprepared'
      refine ⟨hblock, hheight, ?_⟩
      simp only [recordFailure]
      omega
  · intro hleased
    rcases hstatus with ⟨hfailed, -⟩ | ⟨hprepared, -⟩
    · simp [hfailed] at hleased
    · simp [hprepared] at hleased

theorem Effect.healthy (h : Effect now req r r') (hr : Healthy enc now r)
    (hms : ∀ q, req = .lease q → q.leaseMs ≤ payoutMaxLeaseMs) : Healthy enc now r' := by
  have hsound := (h.move hr.sound).1
  cases h with
  | elsewhere _ _ => exact hr
  | lapsed => exact lapse_healthy hr
  | leased hl => exact takeLease_healthy (lapse_healthy hr) hl (hms _ rfl)
  | prepared _ _ hs =>
    refine ⟨hsound, by simp [recordPrepared], by simp [recordPrepared], by simp [recordPrepared],
      hr.expiry, hr.created, ?_, by simp [recordPrepared], hr.wallet, hr.id, hr.network, ?_⟩
    · intro t ht
      simp only [recordPrepared, Option.some.injEq] at ht
      omega
    · intro S hS
      simp only [recordPrepared, Option.some.injEq] at hS
      rw [← hS, trim_trim]
  | resent _ _ _ _ _ => exact hr
  | completed _ _ _ _ =>
    exact ⟨hsound, by simp [recordConfirmed], by simp [recordConfirmed], by simp [recordConfirmed],
      by simp [recordConfirmed], hr.created, hr.preparedAt, by simp [recordConfirmed], hr.wallet,
      hr.id, hr.network, hr.signature⟩
  | recompleted _ _ _ => exact hr
  | abandoned _ _ _ ha _ => exact abandonRow_healthy hr ha
  | retained _ _ _ hs => exact recordFailure_healthy hr hs
  | ignored _ _ _ => exact hr

end Health

end Obulus.Payout
