import Obulus.Payout.Lifecycle
import Obulus.Store.Encoding

namespace Obulus.Payout

open Foundation Store

variable {enc : Encoding} {db : Database} {es : List Event}

theorem outstanding_length (run : Run enc es db) (c : String) : (outstanding c es).length ≤ 1 := by
  rw [outstanding_eq_evidence run]
  unfold evidenceOf
  cases db.payoutClaims.get? c with
  | none => simp
  | some r => cases h : r.phase <;> simp [Phase.evidence, h]

theorem mem_outstanding (run : Run enc es db) (c S : String) :
    (∃ a, (S, a) ∈ outstanding c es) ↔ ∃ r, db.payoutClaims.get? c = some r ∧
      r.status = .prepared ∧ r.transactionSignature = some S := by
  rw [outstanding_eq_evidence run]
  unfold evidenceOf
  have hsound := run_allSound run
  cases hr : db.payoutClaims.get? c with
  | none => simp
  | some r =>
    have hphase (a : Option Nat) := phase_prepared_iff (S := S) (a := a) (hsound c r hr)
    simp only [Option.elim_some, Option.some.injEq, exists_eq_left']
    constructor
    · rintro ⟨a, ha⟩
      have hp : r.phase = .prepared S a := by
        cases h : r.phase <;> simp_all [Phase.evidence]
      exact ⟨((hphase a).mp hp).1, ((hphase a).mp hp).2.1⟩
    · rintro ⟨hs, hsig⟩
      refine ⟨r.absenceObservedAt, ?_⟩
      rw [(hphase r.absenceObservedAt).mpr ⟨hs, hsig, rfl⟩]
      simp [Phase.evidence]

theorem payout_claims_never_pay_twice (run : Run enc es db) (c : String) :
    ((outstanding c es).length ≤ 1 ∧
      ∀ S, (∃ a, (S, a) ∈ outstanding c es) ↔ ∃ r, db.payoutClaims.get? c = some r ∧
        r.status = .prepared ∧ r.transactionSignature = some S) ∧
    (∀ before e after old mid S, es = before ++ e :: after → Run enc before old →
      Step enc old e mid → Trace (Step enc) mid after db → signatureOf old c ≠ some S →
      signatureOf mid c = some S → signatureOf db c ≠ some S → AbsenceConfirmed enc mid c after) ∧
    (∀ before after mid r S, es = before ++ after → Run enc before mid →
      Trace (Step enc) mid after db → mid.payoutClaims.get? c = some r → r.status = .confirmed →
      r.transactionSignature = some S → ∃ r', db.payoutClaims.get? c = some r' ∧
        r'.status = .confirmed ∧ r'.transactionSignature = some S) ∧
    (∀ r, db.payoutClaims.get? c = some r → r.status = .confirmed →
      ∃ S, r.transactionSignature = some S ∧ LastPrepared c S es) ∧
    (∀ r id, db.payoutClaims.get? c = some r → r.earningEventId = some id →
      ∃ e, db.earningEvents.get? id = some e ∧ (e.payoutStatus = .paid ↔ r.status = .confirmed)) := by
  have hsound := run_allSound run
  refine ⟨⟨outstanding_length run c, mem_outstanding run c⟩, ?_, ?_, ?_, run_linked run c⟩
  · intro before e after old mid S _ hbefore hstep hafter hold hmid hdb
    exact replaced_after_confirmed_absence (run_allSound hbefore) hstep hold hmid hafter hdb
  · intro before after mid r S _ hbefore hafter hr hs hS
    have hmid := run_allSound hbefore
    have hconfirmed : ConfirmedWith c S mid :=
      ⟨r, hr, (phase_confirmed_iff (hmid c r hr)).mpr ⟨hs, hS⟩⟩
    obtain ⟨r', hr', hphase⟩ := confirmed_forever hmid hconfirmed hafter
    exact ⟨r', hr', (phase_confirmed_iff (hsound c r' hr')).mp hphase⟩
  · intro r hr hs
    have hr' := hsound c r hr
    obtain ⟨S, hS⟩ : ∃ S, r.transactionSignature = some S := by
      unfold Sound at hr'
      simp only [hs] at hr'
      exact Option.ne_none_iff_exists'.mp hr'.1
    exact ⟨S, hS, signature_lastPrepared run hr ((phase_signature hr').trans hS)⟩

section Sample

def sampleWallet : String := "EPjFWdd5AufqSSqeM2qN1xzybapC8G4wEGGkZwyTDt1v"
def sampleNetwork : String := "solana:devnet"
def sampleBlockhash : String := "US517G5965aydkZ46HS38QLi7UQiSojurfbQfKCELFx"

def sampleClaim : NewClaim where
  id := "payout_1"
  earningEventId := some "earning_1"
  openCallId := some "call_1"
  beneficiaryUserId := "user_1"
  kind := "open_call_answer"
  escrowWallet := sampleWallet
  recipientWallet := sampleWallet
  asset := sampleWallet
  network := sampleNetwork
  amountAtomic := 250000
  amountKrw := 350
  createdAt := 1000

def sampleLease (workerId : String) : Request :=
  .lease ⟨workerId, sampleWallet, sampleNetwork, 1, 60000⟩

def firstSignature : String :=
  "2AXDGYSE4f2sz7tvMMzyHvUfcoJmxudvdhBcmiUSo6ijwfYmfZYsKRxboQMPh3R4kUhXRVdtSXFXMheka4Rc4P2"

def secondSignature : String :=
  "3L3RY5sT8K4kyEnqhizwaqxLEbcYvpGrGPNEYRwtbCSUtL6YL86jdrvCbohnP5q8VxQ3qzGmt3W3iQJW97rD7m3"

def firstPrepare (workerId : String) : PrepareRequest where
  claimId := "payout_1"
  workerId := workerId
  transactionSignature := firstSignature
  signedTransactionBase64 :=
    "AQEBAQEBAQEBAQEBAQEBAQEBAQEBAQEBAQEBAQEBAQEBAQEBAQEBAQEBAQEBAQEBAQEBAQEBAQEBAQEBAQEBAQEBAA=="
  recentBlockhash := sampleBlockhash
  lastValidBlockHeight := 500

def secondPrepare (workerId : String) : PrepareRequest where
  claimId := "payout_1"
  workerId := workerId
  transactionSignature := secondSignature
  signedTransactionBase64 :=
    "AQICAgICAgICAgICAgICAgICAgICAgICAgICAgICAgICAgICAgICAgICAgICAgICAgICAgICAgICAgICAgICAgIBAA=="
  recentBlockhash := sampleBlockhash
  lastValidBlockHeight := 900

def sampleAbandon (workerId : String) : Request :=
  .fail ⟨"payout_1", workerId, "absent from finalized history", true⟩

def sampleEvents : List Event :=
  [.earned ⟨"earning_1", .claimable⟩, .enqueued sampleClaim,
    .accepted 2000 (sampleLease "worker-a"), .accepted 3000 (.prepare (firstPrepare "worker-a")),
    .accepted 10000 (sampleAbandon "worker-a"),
    .accepted 140000 (sampleLease "worker-b"), .accepted 141000 (sampleAbandon "worker-b"),
    .accepted 150000 (sampleLease "worker-b"), .accepted 151000 (.prepare (secondPrepare "worker-b")),
    .accepted 152000 (.complete ⟨"payout_1", "worker-b", secondSignature⟩)]

section Texts

variable {signature transaction : List Char} {claimId recentBlockhash : String} {lastValidBlockHeight : Nat}

theorem validatePrepare_ofList (workerId : String)
    (hsignature : signature.all (fun c => !isWhiteSpace c) = true)
    (htransaction : transaction.all (fun c => !isWhiteSpace c) = true)
    (hdecoded : (decodeBase58 (String.ofList signature)).any (fun decoded => decoded.length == 64) = true)
    (hsize : 32 ≤ (String.ofList transaction).utf8ByteSize ∧
      (String.ofList transaction).utf8ByteSize ≤ 32768)
    (hcharacters : transaction.all base64Character = true)
    (hsigned : (base64Groups transaction).bind (fullySignedSolanaTransactionSignature .standard) =
      some (String.ofList signature))
    (hblockhash : validSolanaAddress .standard recentBlockhash = true ∧ lastValidBlockHeight ≠ 0) :
    validatePrepare .standard ⟨claimId, workerId, String.ofList signature, String.ofList transaction,
      recentBlockhash, lastValidBlockHeight⟩ = .ok () := by
  obtain ⟨bytes, hbytes, hsigned⟩ := Option.bind_eq_some_iff.mp hsigned
  simp only [validatePrepare, trim_ofList hsignature, trim_ofList htransaction, bind_eq_ok, reject_eq_ok,
    exists_const, orReject_eq_ok, String.toList_ofList]
  refine ⟨?_, ?_, bytes, ?_, ?_, ?_⟩
  · simpa only [not_not, Encoding.standard] using hdecoded
  · rw [hcharacters]
    tauto
  · simpa [Encoding.standard] using hbytes
  · simpa using hsigned
  · simp [hblockhash]

theorem sampleAddresses_valid : validSolanaAddress .standard sampleWallet = true ∧
    validSolanaAddress .standard sampleBlockhash = true := by
  decide +kernel

theorem trim_sampleWallet : trim sampleWallet = sampleWallet := trim_ofList (by decide)

theorem trim_sampleNetwork : trim sampleNetwork = sampleNetwork := trim_ofList (by decide)

theorem trim_firstSignature : trim firstSignature = firstSignature := trim_ofList (by decide)

theorem trim_secondSignature : trim secondSignature = secondSignature := trim_ofList (by decide)

theorem samplePrepares_valid (workerId : String) :
    validatePrepare .standard (firstPrepare workerId) = .ok () ∧
      validatePrepare .standard (secondPrepare workerId) = .ok () := by
  refine ⟨validatePrepare_ofList workerId (by decide) (by decide) ?_ (by decide +kernel) (by decide)
    (by decide +kernel) ⟨sampleAddresses_valid.2, by decide⟩,
    validatePrepare_ofList workerId (by decide) (by decide) ?_ (by decide +kernel) (by decide)
    (by decide +kernel) ⟨sampleAddresses_valid.2, by decide⟩⟩
  · rw [decodeBase58_ofList]
    decide +kernel
  · rw [decodeBase58_ofList]
    decide +kernel

theorem firstPrepare_valid (workerId : String) :
    validatePrepare .standard (firstPrepare workerId) = .ok () := (samplePrepares_valid workerId).1

theorem secondPrepare_valid (workerId : String) :
    validatePrepare .standard (secondPrepare workerId) = .ok () := (samplePrepares_valid workerId).2

theorem sampleWallet_valid : validSolanaAddress .standard sampleWallet = true := sampleAddresses_valid.1

end Texts

theorem sample_runs : (runWith (execEvent .standard) .empty sampleEvents).isSome = true := by
  simp only [sampleEvents, runWith, execEvent, execute, sampleLease, leasePayoutClaims, sampleClaim,
    insertPayoutClaim, trim_sampleWallet, trim_sampleNetwork, sampleWallet_valid, preparePayoutClaim,
    firstPrepare_valid, secondPrepare_valid, completePayoutClaim, completePrepared, trim_secondSignature]
  decide +kernel

theorem payout_claims_never_pay_twice_sample :
    ∃ db, Run .standard sampleEvents db ∧ (outstanding "payout_1" sampleEvents).length ≤ 1 := by
  obtain ⟨db, hdb⟩ := Option.isSome_iff_exists.mp sample_runs
  have run : Run .standard sampleEvents db := runWith_trace step_of_execEvent hdb
  exact ⟨db, run, (payout_claims_never_pay_twice run "payout_1").1.1⟩

end Sample

end Obulus.Payout
