import Obulus.Research.FailFacts
import Obulus.Research.SettleFacts
import Obulus.Store.Encoding

namespace Obulus.Research

open Foundation Store ReadCommitted

variable {env : Environment} {ν : Type} [DecidableEq ν] [Fintype ν] {d : Database}

abbrev Processes (ν : Type) := World view ν Place

-- a run of operations, statement by statement, in which no job is failed from behind
def Runs (env : Environment) (w : Processes ν) (evs : List (Event ν Request Input)) (v : Processes ν) :
    Prop :=
  Trace (fun u e u' => Step (program env) u e u' ∧ Meets Steady u e) w evs v

def facts (place : Place) (writes : List (Write view)) (d : Database) : Prop :=
  match place with
  | .fail request place => Fail.facts request place writes d
  | .begin request place => Begin.facts request place writes d
  | .prepare _ place => Prepare.facts place writes d
  | .settle request place => Settle.facts request place writes d

theorem outline : Outline (program env) Steady Consistent facts := by
  refine ⟨?_, ?_, ?_⟩
  · intro request d
    cases request <;> rfl
  · intro input place writes d d' locked writes' place' _ hhere hthere hsteady hrun hagree
    cases place with
    | fail request place =>
      obtain ⟨next, hnext, rfl⟩ := Outcome.map_eq_next hrun
      exact Fail.next hhere hthere hsteady hnext hagree
    | begin request place =>
      obtain ⟨next, hnext, rfl⟩ := Outcome.map_eq_next hrun
      exact Begin.next hhere hthere hnext hagree
    | prepare request place =>
      obtain ⟨next, hnext, rfl⟩ := Outcome.map_eq_next hrun
      exact Prepare.next hthere hnext hagree
    | settle request place =>
      obtain ⟨next, hnext, rfl⟩ := Outcome.map_eq_next hrun
      exact Settle.next hhere hthere hnext hagree
  · intro input place writes d place' hinv hhere hrun
    cases place with
    | fail request place =>
      obtain ⟨next, hnext, rfl⟩ := Outcome.map_eq_commit hrun
      exact Fail.commit hinv hhere hnext
    | begin request place =>
      obtain ⟨next, hnext, rfl⟩ := Outcome.map_eq_commit hrun
      exact Begin.commit hinv hhere hnext
    | prepare request place =>
      obtain ⟨next, hnext, rfl⟩ := Outcome.map_eq_commit hrun
      exact Prepare.commit hinv hhere hnext
    | settle request place =>
      obtain ⟨next, hnext, rfl⟩ := Outcome.map_eq_commit hrun
      exact Settle.commit hinv hhere hnext

theorem Consistent.exclusive (h : Consistent d) : RefundExclusive d := by
  intro jobId
  have hload := h.load jobId
  refine ⟨by omega, ?_⟩
  rintro ⟨a, hmem, hjob, hactive⟩
  have hpos : 0 < activeAttempts d jobId := by
    apply List.countP_pos_iff.mpr
    exact ⟨a, hmem, by simp [hjob, hactive]⟩
  omega

theorem refunds_exclusive {w v : Processes ν} {evs : List (Event ν Request Input)}
    (hidle : ∀ p, w.sessions p = .idle) (hconsistent : Consistent w.db) (hrun : Runs env w evs v) :
    RefundExclusive v.db :=
  (outline.run (annotated_idle hconsistent hidle) hrun).inv.exclusive

section Samples

def sampleEnvironment : Environment := ⟨.standard, fun text => text⟩

def sampleWallet : String := "EPjFWdd5AufqSSqeM2qN1xzybapC8G4wEGGkZwyTDt1v"

def sampleJob : Job where
  id := "job"
  queryId := "query"
  payTo := sampleWallet
  network := "solana"
  asset := "usdc"
  amountAtomic := 740741
  totalPriceKrw := 1000
  krwPerUsdc := 1350
  bundleHash := "hash"
  expiresAt := 900
  createdAt := 100
  settledAt := some 200
  deliveredAt := none
  status := .processing
  payerWallet := some sampleWallet
  depositAtomic := 740741
  minimumDepositAtomic := 0
  fundingSource := .agentDirect
  failureReason := none
  refundClaimId := none
  balanceReleaseAtomic := 0
  paymentAttemptQuoteId := none
  paymentAttemptId := none

def sampleDocument : BundleDocument :=
  ⟨⟨"job", 0, "document", "handle", "author", sampleWallet, 1000, some "quote"⟩, "shelf", "text"⟩

def sampleQuote : PaymentQuote :=
  ⟨⟨"quote", "query", "document", "handle", sampleWallet, "solana", 740741, 1000, 2000, .quoted,
    some .paySh, none, none⟩, "usdc", 1350, "hash", 1, "consent", "shelf", "text"⟩

def sampleDatabase : Database :=
  { Database.empty with
    queries := ["query"]
    bundleQuotes := ⟨[sampleJob], by simp⟩
    bundleDocuments := ⟨[sampleDocument], by simp⟩
    paymentQuotes := ⟨[sampleQuote], by simp⟩ }

def sampleWorld : Processes (Fin 2) := ⟨sampleDatabase, fun _ => .idle⟩

def failRequest : Request := .fail ⟨"job", "the provider is down"⟩

def beginRequest : Request :=
  .begin ⟨"job", "quote", "aaaaaaaaaaaaaaaaaaaaaaaaaaaaaaaaaaaaaaaaaaaaaaaaaaaaaaaaaaaaaaaa"⟩

def steps (p : Fin 2) (n : Nat) (newId : String) : List (Event (Fin 2) Request Input) :=
  List.replicate n (.advance p ⟨1000, newId⟩)

-- both processes have read the status of the job when the first of them closes it
def failTwice : List (Event (Fin 2) Request Input) :=
  [.start 0 failRequest, .start 1 failRequest] ++ steps 0 5 "a" ++ steps 1 5 "b" ++ steps 0 5 "a" ++
    steps 1 5 "b"

-- a payment begins between the status the job is failed from and its refund
def failDuringPayment : List (Event (Fin 2) Request Input) :=
  [.start 0 failRequest, .start 1 beginRequest] ++ steps 0 5 "a" ++ steps 1 9 "b" ++ steps 0 5 "a"

def failAlone : List (Event (Fin 2) Request Input) := .start 0 failRequest :: steps 0 10 "a"

theorem sample_consistent : Consistent sampleDatabase :=
  ⟨fun _ => Nat.zero_le _, fun _ _ _ _ => rfl⟩

theorem refunds_exclusive_sample :
    ∃ v, Runs sampleEnvironment sampleWorld failAlone v ∧ refunds v.db "job" = 1 ∧
      RefundExclusive v.db := by
  have hrun : (runWith (execMeeting (program sampleEnvironment) Steady) sampleWorld failAlone).map
      (fun v => refunds v.db "job") = some 1 := by decide +kernel
  obtain ⟨v, hv, hrefunds⟩ := Option.map_eq_some_iff.mp hrun
  have htrace := execMeeting_trace hv
  exact ⟨v, htrace, hrefunds, refunds_exclusive (fun _ => rfl) sample_consistent htrace⟩

theorem not_exclusive (h : 1 < refunds d "job" ∨ (refunds d "job" ≠ 0 ∧ activeAttempts d "job" ≠ 0)) :
    ¬RefundExclusive d := by
  intro hexclusive
  obtain ⟨hone, hnone⟩ := hexclusive "job"
  rcases h with h | ⟨hrefunds, hactive⟩
  · omega
  · apply hrefunds
    apply hnone
    have hpos : 0 < activeAttempts d "job" := Nat.pos_of_ne_zero hactive
    obtain ⟨a, hmem, ha⟩ := List.countP_pos_iff.mp hpos
    rw [Bool.and_eq_true, decide_eq_true_eq] at ha
    exact ⟨a, hmem, ha⟩

theorem refunds_race :
    (∀ p, sampleWorld.sessions p = .idle) ∧ Consistent sampleWorld.db ∧
      ∀ evs ∈ [failTwice, failDuringPayment],
        ∃ v, Trace (Step (program sampleEnvironment)) sampleWorld evs v ∧ ¬RefundExclusive v.db := by
  refine ⟨fun _ => rfl, sample_consistent, ?_⟩
  intro evs hevs
  have hrun : ∀ evs ∈ [failTwice, failDuringPayment],
      (runWith (exec (program sampleEnvironment)) sampleWorld evs).any (fun v =>
        decide (1 < refunds v.db "job" ∨ (refunds v.db "job" ≠ 0 ∧ activeAttempts v.db "job" ≠ 0))) =
          true := by
    decide +kernel
  obtain ⟨v, hv, hbad⟩ := (Option.any_eq_true _ _).mp (hrun evs hevs)
  exact ⟨v, runWith_trace (fun _ _ _ h => h) hv, not_exclusive (of_decide_eq_true hbad)⟩

end Samples

end Obulus.Research
