import Mathlib.Data.Set.Function
import Obulus.Gateway.Fences
import Obulus.Gateway.ScanFacts

namespace Obulus.Gateway

open Foundation Store Funds

section Reading

-- the asset column of a document quote, which nothing writes after its insert
variable (documentAsset : String → String) (db : Database)

structure QuoteTerms where
  payTo : String
  network : String
  asset : String
  amountAtomic : Nat

def quoteTerms (quoteId : String) : SettlementKind → Option QuoteTerms
  | .document => (db.paymentQuotes.get? quoteId).map fun quote =>
      ⟨quote.payTo, quote.network, documentAsset quoteId, quote.amountAtomic⟩
  | .bundle => (db.bundleQuotes.get? quoteId).map fun quote =>
      ⟨quote.payTo, quote.network, quote.asset, quote.depositAtomic⟩
  | .openCall => (db.fundingQuotes.get? quoteId).map fun quote =>
      ⟨quote.payTo, quote.network, quote.asset, quote.amountAtomic⟩

def reconciliationOf (attempt : PaymentAttempt) : Option ReconciliationAttempt :=
  (quoteTerms documentAsset db attempt.quoteId attempt.settlementKind).map fun quote =>
    { settlementKind := .quote attempt.settlementKind
      quoteId := attempt.quoteId
      attemptId := attempt.attemptId
      reconcileAfter := attempt.reconcileAfter
      createdAt := attempt.createdAt
      payTo := quote.payTo
      network := quote.network
      asset := quote.asset
      amountAtomic := toString quote.amountAtomic
      payer := attempt.payerWallet
      signedTransactionBase64 := attempt.signedTransactionBase64
      recentBlockhash := attempt.recentBlockhash
      absenceObservedAt := attempt.absenceObservedAt }

def dueSooner (a b : ReconciliationAttempt) : Bool :=
  decide (a.reconcileAfter < b.reconcileAfter ∨
    a.reconcileAfter = b.reconcileAfter ∧ a.createdAt ≤ b.createdAt)

def paymentAttemptReconciliations (now limit : Nat) : List ReconciliationAttempt :=
  (((db.paymentAttempts.rows.filterMap (reconciliationOf documentAsset db)).filter fun attempt =>
    attempt.reconcileAfter ≤ now).mergeSort dueSooner).take (max 1 (min limit 100))

end Reading

section Passes

-- one RPC endpoint of a pass: its scan, and the reply of its blockhash check once it has one
structure View where
  scan : Scan ExactChainScanResult
  blockhash : Option (Option Bool)

-- a scan that fails is caught as inconclusive
def View.result? (view : View) : Option ExactChainScanResult :=
  match view.scan with
  | .done result => some result
  | .failed => some .inconclusive
  | .ask _ _ => none

structure Pass where
  attempt : ReconciliationAttempt
  views : List View

def Pass.start (lib : Libraries) (attempt : ReconciliationAttempt) (maxSignaturePages views : Nat) :
    Pass where
  attempt := attempt
  views := List.replicate views
    ⟨scanExactFinalizedChainAttempt lib attempt maxSignaturePages, none⟩

def Pass.scans (pass : Pass) : List ExactChainScanResult := pass.views.filterMap View.result?

def Pass.blockhashViews (pass : Pass) : List (Option Bool) := pass.views.filterMap View.blockhash

def Pass.isComplete (pass : Pass) : Bool :=
  pass.views.all fun view => view.result?.isSome && view.blockhash.isSome

def Pass.decision (pass : Pass) : AbsenceDecision :=
  exactAbsenceDecision pass.scans pass.blockhashViews pass.attempt.absenceObservedAt

def Pass.setView (pass : Pass) (index : Nat) (view : View) : Pass :=
  { pass with views := pass.views.set index view }

def Pass.request (pass : Pass) (absenceObserved : Bool) : ClaimPaymentAttemptRequest where
  settlementKind := kindText pass.attempt.settlementKind
  quoteId := pass.attempt.quoteId
  attemptId := pass.attempt.attemptId
  payer := none
  signedTransactionBase64 := none
  recentBlockhash := none
  absenceObserved := absenceObserved

variable (lib : Libraries)

-- `expired` are the blockhashes a finalized view has reported invalid, `released` the attempts
-- that release_reconciled_payment_attempt has deleted
structure World where
  db : Database
  chain : Chain lib
  expired : List String
  passes : List Pass
  released : List PaymentAttempt

variable {lib}

def accepted (db : Database) (result : Except StoreError (Database × β)) : Database :=
  match result with
  | .ok (db', _) => db'
  | .error _ => db

def World.conclude (w : World lib) (pass : Pass) (now : Nat) : World lib :=
  match pass.decision with
  | .defer =>
    { w with db := accepted w.db (deferPaymentAttemptReconciliation w.db now (pass.request false)) }
  | .observe =>
    { w with db := accepted w.db (deferPaymentAttemptReconciliation w.db now (pass.request true)) }
  | .release =>
    let db' := accepted w.db (releaseReconciledPaymentAttempt w.db now (pass.request false))
    { w with
      db := db'
      released := w.released ++
        w.db.paymentAttempts.rows.filter fun a => a ∉ db'.paymentAttempts.rows }

inductive Event
  | store (event : Funds.Event)
  | land (transaction : ExactTransaction)
  | read (now limit : Nat) (attempt : ReconciliationAttempt) (maxSignaturePages views : Nat)
  | answer (pass view : Nat) (reply : Json)
  | lose (pass view : Nat)
  | check (pass view : Nat) (reply : Option Json)
  | conclude (pass now : Nat)

variable (net : Network) (ext : Externals) (documentAsset : String → String) (payloads : Set String)

-- The store runs, the chain grows and the passes of any number of gateways ask their views;
-- every claim submits one of the `payloads`.
inductive Step : World lib → Event → World lib → Prop
  | store {w : World lib} {event : Funds.Event} {db' : Database} :
      Funds.Step ext w.db event db' → ¬Reconciles event →
      (∀ signed, submitted event = some signed → signed ∈ payloads) →
      Step w (.store event) { w with db := db' }
  | land {w : World lib} {transaction : ExactTransaction} {chain : Chain lib} :
      chain.transactions = w.chain.transactions ++ [transaction] →
      net.blockhash (messageOf transaction.bytes) ∉ w.expired →
      Step w (.land transaction) { w with chain := chain }
  | read {w : World lib} {now limit maxSignaturePages views : Nat}
      {attempt : ReconciliationAttempt} :
      attempt ∈ paymentAttemptReconciliations documentAsset w.db now limit →
      Step w (.read now limit attempt maxSignaturePages views)
        { w with passes := w.passes ++ [Pass.start lib attempt maxSignaturePages views] }
  | answer {w : World lib} {i j : Nat} {pass : Pass} {view : View} {request : RpcRequest}
      {next : Json → Scan ExactChainScanResult} {reply : Json} :
      w.passes[i]? = some pass → pass.views[j]? = some view → view.scan = .ask request next →
      Answers lib net w.chain request reply →
      Step w (.answer i j reply)
        { w with passes := w.passes.set i (pass.setView j { view with scan := next reply }) }
  | lose {w : World lib} {i j : Nat} {pass : Pass} {view : View} {request : RpcRequest}
      {next : Json → Scan ExactChainScanResult} :
      w.passes[i]? = some pass → pass.views[j]? = some view → view.scan = .ask request next →
      Step w (.lose i j)
        { w with passes := w.passes.set i (pass.setView j { view with scan := .failed }) }
  | check {w : World lib} {i j : Nat} {pass : Pass} {view : View} {hash : String}
      {reply : Option Json} :
      w.passes[i]? = some pass → pass.views[j]? = some view → view.blockhash = none →
      pass.attempt.recentBlockhash = some hash →
      Step w (.check i j reply)
        { w with
          expired := if reply.bind blockhashView = some false then hash :: w.expired else w.expired
          passes := w.passes.set i
            (pass.setView j { view with blockhash := some (reply.bind blockhashView) }) }
  | conclude {w : World lib} {i now : Nat} {pass : Pass} :
      w.passes[i]? = some pass → pass.isComplete = true →
      Step w (.conclude i now) { w.conclude pass now with passes := w.passes.eraseIdx i }

abbrev Run := Trace (@Step lib net ext documentAsset payloads)

end Passes

end Obulus.Gateway
