import Obulus.Payout.AtMostOnce
import Obulus.Payout.Guarantees

namespace Obulus.Payout

open Foundation Store

variable {enc : Encoding} {lastValid : String → Nat} {start w : World} {es : List WorldEvent}

def TransferredOnce (es : List WorldEvent) (w : World) : Prop :=
  (∀ c S S', PreparedIn es c S → PreparedIn es c S' → w.chain.paidFinally S = true →
    w.chain.paidFinally S' = true → S = S') ∧
  ∀ c r, w.db.payoutClaims.get? c = some r → r.status = .confirmed →
    ∃ S, r.transactionSignature = some S ∧ w.chain.paidFinally S = true

theorem Chain.paid_of_paidFinally {chain : Chain} {S : String} (h : chain.paidFinally S = true) :
    chain.paid S = true := by
  simp only [Chain.paidFinally, Option.any_eq_true, Bool.and_eq_true] at h
  obtain ⟨o, ho, hok, -⟩ := h
  simp only [Chain.paid, Option.any_eq_true]
  exact ⟨o, ho, hok⟩

theorem Accounted.paid {c S : String} (h : Accounted lastValid es w) (hS : PreparedIn es c S)
    (hpaid : w.chain.paid S = true) : signatureOf w.db c = some S := by
  rcases h c S hS with hsig | hdead
  · exact hsig
  · rw [hdead.2] at hpaid
    cases hpaid

theorem payouts_transfer_at_most_once (hstart : Start start)
    (run : Trace (FencedStep enc lastValid) start es w) : TransferredOnce es w := by
  obtain ⟨hc, ha⟩ := fenced_run hstart run
  refine ⟨?_, ?_⟩
  · intro c S S' hS hS' hpaid hpaid'
    have hsig := ha.paid hS (Chain.paid_of_paidFinally hpaid)
    have hsig' := ha.paid hS' (Chain.paid_of_paidFinally hpaid')
    rw [hsig, Option.some.injEq] at hsig'
    exact hsig'
  · intro c r hr hs
    have hsound := hc.sound c r hr
    obtain ⟨S, hS⟩ : ∃ S, r.transactionSignature = some S := by
      unfold Sound at hsound
      simp only [hs] at hsound
      exact Option.ne_none_iff_exists'.mp hsound.1
    exact ⟨S, hS, (hc.rows c r hr).paid S ((phase_confirmed_iff hsound).mpr ⟨hs, hS⟩)⟩

section Sample

def sampleLastValid (signature : String) : Nat :=
  if signature = firstSignature then 500 else 900

def sampleWorker : Worker where
  kind := .gateway
  workerId := "worker-a"
  escrowWallet := sampleWallet
  network := sampleNetwork
  rpcUrls := ["https://rpc-a.example", "https://rpc-b.example"]
  stage := .idle

def sampleStart : World where
  db := .empty
  chain := ⟨499, [], []⟩
  workers := fun _ => sampleWorker
  messages := []
  next := 0
  holder := fun _ => none

theorem sampleStart_start : Start sampleStart :=
  ⟨rfl, fun _ => rfl, rfl, fun _ => rfl⟩

def pollMessage (ticket p : Nat) : Message :=
  ⟨ticket, p, none, .lease ⟨"worker-a", sampleWallet, sampleNetwork, 1, 600000⟩⟩

def prepareMessage (ticket grant : Nat) (q : PrepareRequest) : Message :=
  ⟨ticket, 0, some ⟨grant, "payout_1"⟩, .prepare q⟩

def completeMessage (ticket grant : Nat) : Message :=
  ⟨ticket, 0, some ⟨grant, "payout_1"⟩, .complete ⟨"payout_1", "worker-a", firstSignature⟩⟩

def abandonMessage (ticket p grant : Nat) : Message :=
  ⟨ticket, p, some ⟨grant, "payout_1"⟩, .fail ⟨"payout_1", "worker-a",
    "two independent finalized RPC views found no successful prepared payout", true⟩⟩

def sampleSent : List WorldEvent :=
  [.store (.earned ⟨"earning_1", .claimable⟩), .store (.enqueued sampleClaim),
    .act 0 .poll, .handle (pollMessage 0 0) 2000 true,
    .act 0 (.sign firstSignature (firstPrepare "worker-a").signedTransactionBase64 sampleBlockhash),
    .handle (prepareMessage 2 1 (firstPrepare "worker-a")) 3000 true, .act 0 .broadcast]

def sampleConfirmed : List WorldEvent :=
  [.land firstSignature true 499,
    .act 0 (.readStatus 0 (some ⟨.null, some (.string "finalized")⟩)),
    .act 0 (.readStatus 1 (some ⟨.null, some (.string "finalized")⟩)),
    .act 0 (.readHeight 0 499), .act 0 (.readHeight 1 499), .act 0 .conclude,
    .handle (completeMessage 9 1) 9000 true]

-- A second process under the same worker id overtakes the first one between its reads.
def sampleOvertaken : List WorldEvent :=
  [.act 0 (.readStatus 0 none), .act 0 (.readStatus 1 none),
    .act 1 .poll, .handle (pollMessage 7 1) 700000 true,
    .act 1 (.readStatus 0 none), .act 1 (.readStatus 1 none),
    .land firstSignature true 500, .tick, .tick,
    .act 1 (.readHeight 0 501), .act 1 (.readHeight 1 501), .act 1 .conclude,
    .handle (abandonMessage 13 1 8) 701000 true,
    .act 1 .poll, .handle (pollMessage 15 1) 830000 true,
    .act 0 (.readHeight 0 501), .act 0 (.readHeight 1 501), .act 0 .conclude,
    .handle (abandonMessage 19 0 1) 831000 true,
    .act 0 .poll, .handle (pollMessage 21 0) 840000 true,
    .act 0 (.sign secondSignature (secondPrepare "worker-a").signedTransactionBase64
      sampleBlockhash),
    .handle (prepareMessage 23 22 (secondPrepare "worker-a")) 841000 true,
    .act 0 .broadcast, .land secondSignature true 501]

def calmStep (w : World) (e : WorldEvent) : Option World :=
  if abandons e then none else w.step .standard sampleLastValid e

theorem calmStep_fenced {e : WorldEvent} {w' : World} (h : calmStep w e = some w') :
    FencedStep .standard sampleLastValid w e w' := by
  unfold calmStep at h
  split at h
  · cases h
  · next hcalm => exact ⟨h, fenced_of_not_abandons (by simpa using hcalm)⟩

theorem sampleConfirmed_runs :
    (runWith calmStep sampleStart (sampleSent ++ sampleConfirmed)).any (fun w =>
      w.chain.paidFinally firstSignature) = true := by
  simp only [sampleSent, sampleConfirmed, List.cons_append, List.nil_append, runWith, calmStep, World.step, World.handleMessage, pollMessage, prepareMessage, completeMessage,
    execEvent, insertPayoutClaim, sampleClaim, execute, leasePayoutClaims, trim_sampleWallet, trim_sampleNetwork,
    sampleWallet_valid, preparePayoutClaim, firstPrepare_valid, completePayoutClaim, completePrepared,
    trim_firstSignature]
  decide +kernel

theorem payouts_transfer_at_most_once_sample :
    ∃ es w, Trace (FencedStep .standard sampleLastValid) sampleStart es w ∧
      w.chain.paidFinally firstSignature = true ∧ TransferredOnce es w := by
  obtain ⟨w, hw, hpaid⟩ := Option.any_eq_true _ _ |>.mp sampleConfirmed_runs
  have run := runWith_trace (fun _ _ _ => calmStep_fenced) hw
  exact ⟨_, w, run, hpaid, payouts_transfer_at_most_once sampleStart_start run⟩

theorem sampleOvertaken_runs :
    (runWith (World.step .standard sampleLastValid) sampleStart
      (sampleSent ++ sampleOvertaken)).any (fun w =>
        w.chain.paidFinally firstSignature && w.chain.paidFinally secondSignature) = true := by
  simp only [sampleSent, sampleOvertaken, List.cons_append, List.nil_append, runWith, World.step, World.handleMessage, pollMessage, prepareMessage, abandonMessage,
    execEvent, insertPayoutClaim, sampleClaim, execute, leasePayoutClaims, trim_sampleWallet, trim_sampleNetwork,
    sampleWallet_valid, preparePayoutClaim, firstPrepare_valid, secondPrepare_valid]
  decide +kernel

theorem payouts_transfer_twice :
    ∃ es w, Trace (fun w e w' => w.step .standard sampleLastValid e = some w') sampleStart es w ∧
      Start sampleStart ∧ ¬TransferredOnce es w := by
  obtain ⟨w, hw, hpaid⟩ := Option.any_eq_true _ _ |>.mp sampleOvertaken_runs
  rw [Bool.and_eq_true] at hpaid
  refine ⟨_, w, runWith_trace (fun _ _ _ h => h) hw, sampleStart_start, fun hone => ?_⟩
  have hfirst : PreparedIn (sampleSent ++ sampleOvertaken) "payout_1" firstSignature :=
    ⟨prepareMessage 2 1 (firstPrepare "worker-a"), 3000, true, firstPrepare "worker-a",
      by simp [sampleSent], rfl, by decide, trim_firstSignature⟩
  have hsecond : PreparedIn (sampleSent ++ sampleOvertaken) "payout_1" secondSignature :=
    ⟨prepareMessage 23 22 (secondPrepare "worker-a"), 841000, true, secondPrepare "worker-a",
      by simp [sampleOvertaken], rfl, by decide, trim_secondSignature⟩
  have heq := hone.1 "payout_1" firstSignature secondSignature hfirst hsecond hpaid.1 hpaid.2
  exact absurd heq (by decide)

end Sample

end Obulus.Payout
