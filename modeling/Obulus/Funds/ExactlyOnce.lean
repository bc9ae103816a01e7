import Obulus.Funds.History
import Obulus.Store.Encoding

namespace Obulus.Funds

open Foundation Store

variable {ext : Externals} {start mid mid' db db' : Database} {es : List Event} {e : Event}
  {ids : NewIds} {now amount : Nat} {request : RecordChainSettlementRequest} {S : String}
  {k : SettlementKind × String} {s : ChainSettlement}

structure Safe (db : Database) : Prop where
  sound : db.custody.Sound
  spent : ∀ k s, db.custody.settled k = some s → Spent db k.1 k.2
  unfenced : ∀ k s, db.custody.settled k = some s → db.custody.fence k = none

theorem Vacant.safe (h : Vacant start) : Safe start := by
  refine ⟨⟨?_, ?_, ?_⟩, ?_, ?_⟩
  · intro k s hs
    rw [h.settled k] at hs
    cases hs
  · intro S e he
    rw [h.deposit S] at he
    cases he
  · intro k a ha
    rw [h.fence k] at ha
    cases ha
  · intro k s hs
    rw [h.settled k] at hs
    cases hs
  · intro k s hs
    rw [h.settled k] at hs
    cases hs

theorem Receives.unfences (h : Receives ext request amount k.1 db db' s)
    (hid : trim request.quoteId = k.2) : db'.custody.fence k = none := by
  have hcustody := h.custody
  rw [hid, show (k.1, k.2) = k from rfl] at hcustody
  rcases hcustody with hc | ⟨-, _, -, hc⟩
  · simp [hc, Custody.receive, Custody.unfence]
  · simp [hc, Custody.receive, Custody.unfence, Custody.credit]

theorem Transition.safe (h : Transition ext db e db') (hs : Safe db) : Safe db' := by
  refine ⟨h.move.sound hs.sound, ?_, ?_⟩
  · intro k s hk
    rcases h.settled k s hk with hold | ⟨_, _, request, _, hnew⟩
    · exact h.spent _ _ (hs.spent k s hold)
    · rw [← hnew.quoteId]
      exact hnew.receives.spent
  · intro k s hk
    rcases h.settled k s hk with hold | ⟨_, _, request, _, hnew⟩
    · cases ha : db'.custody.fence k with
      | none => rfl
      | some a =>
        obtain ⟨a', ha'⟩ := h.fence k a ha (hs.spent k s hold)
        rw [hs.unfenced k s hold] at ha'
        cases ha'
    · exact hnew.receives.unfences hnew.quoteId

theorem run_safe (hstart : Vacant start) (run : Run ext start es db) : Safe db :=
  run.invariant hstart.safe fun _ _ _ hs hstep => hstep.transition.safe hs

section Persistence

theorem run_settled (run : Run ext start es db) (hs : start.custody.settled k = some s) :
    db.custody.settled k = some s :=
  run.invariant (P := fun db => db.custody.settled k = some s) hs fun _ _ _ h hstep =>
    hstep.transition.move.settled_forever h

theorem run_deposit {entry : LedgerEntry} (run : Run ext start es db)
    (he : start.custody.deposit S = some entry) : db.custody.deposit S = some entry :=
  run.invariant (P := fun db => db.custody.deposit S = some entry) he fun _ _ _ h hstep =>
    hstep.transition.move.deposit_forever h

theorem run_registry {f : RegistryKind × String} (run : Run ext start es db)
    (hr : start.custody.registry S = some f) : db.custody.registry S = some f :=
  run.invariant (P := fun db => db.custody.registry S = some f) hr fun _ _ _ h hstep =>
    hstep.transition.move.registry_forever h

end Persistence

section Replay

variable {kind : SettlementKind}

theorem clear_of_unfenced (h : db.custody.fence (kind, quoteId) = none) :
    clearPaymentAttempt db kind quoteId = db := by
  have hrows : db.paymentAttempts.delete (fun a => decide (a.key = (kind, quoteId))) =
      db.paymentAttempts := by
    apply Table.delete_of_none
    intro a ha
    simpa using Table.get?_eq_none.mp h a ha
  unfold clearPaymentAttempt dropAttempts
  rw [hrows]

theorem Spent.bind (h : Spent db .document (trim quoteId)) :
    bindDocumentPaymentRail db (trim quoteId) .x402 = .ok db := by
  obtain ⟨q, hq, -, hrail, hquery⟩ := h
  simp [bindDocumentPaymentRail, Funds.bindRail, trim_trim, hq, hrail, hquery, orReject, reject, ok_bind]

theorem verify_unfenced {attemptId : Option String} (h : db.custody.fence (kind, quoteId) = none)
    (hid : checkAttemptId attemptId = .ok ()) :
    verifyChainPaymentAttempt ext db kind quoteId attemptId false = .ok none := by
  have hget : db.paymentAttempts.get? (kind, quoteId) = none := h
  simp [verifyChainPaymentAttempt, hid, hget, verifyActive, ok_bind]

theorem Spent.locks (h : Spent db kind quoteId) :
    lockChainPaymentQuote db kind quoteId = .ok () := by
  cases kind with
  | document =>
    obtain ⟨q, hq, -⟩ := h
    simp [lockChainPaymentQuote, quoteExists, hq, reject]
  | bundle =>
    obtain ⟨q, hq, -⟩ := h
    simp [lockChainPaymentQuote, quoteExists, hq, reject]
  | openCall =>
    obtain ⟨q, hq, -⟩ := h
    simp [lockChainPaymentQuote, quoteExists, hq, reject]

theorem replay_same (hsafe : Safe db) (hs : db.custody.settled (kind, trim request.quoteId) = some s)
    (hamount : settlementAmount ext request = .ok amount)
    (hid : checkAttemptId request.attemptId = .ok ()) (hsame : sameSettlement s request = true) :
    recordSettlement ext db ids now request kind = .ok (db, s.receipt) := by
  have hspent : Spent db kind (trim request.quoteId) := hsafe.spent _ _ hs
  have hfence := hsafe.unfenced _ _ hs
  have hverify : verifyChainPaymentAttempt ext db kind _ _ false = .ok none :=
    verify_unfenced hfence hid
  have hclear := clear_of_unfenced hfence
  have hlock := hspent.locks
  cases kind with
  | document =>
    have hget : db.chainSettlements.get? (trim request.quoteId) = some s := hs
    simp [recordSettlement, recordChainSettlement, hamount, hget, hsame, replayDocument,
      hspent.bind, hverify, hclear, ok_bind]
  | bundle =>
    have hget : db.bundleChainSettlements.get? (trim request.quoteId) = some s := hs
    simp [recordSettlement, recordBundleChainSettlement, hamount, hget, hsame, replayLocked,
      hlock, hverify, hclear, ok_bind]
  | openCall =>
    have hget : db.openCallChainSettlements.get? (trim request.quoteId) = some s := hs
    simp [recordSettlement, recordOpenCallChainSettlement, hamount, hget, hsame, replayLocked,
      hlock, hverify, hclear, ok_bind]

end Replay

section Guarantee

def Passes (ext : Externals) (start : Database) (es : List Event) (db mid : Database) (e : Event)
    (mid' : Database) : Prop :=
  ∃ as bs, es = as ++ e :: bs ∧ Run ext start as mid ∧ Step ext mid e mid' ∧ Run ext mid' bs db

def SettledBy (mid mid' : Database) (k : SettlementKind × String) (s : ChainSettlement) : Prop :=
  mid.custody.settled k = none ∧ mid'.custody.settled k = some s

def CreditedBy (mid mid' : Database) (S : String) : Prop :=
  mid.custody.deposit S = none ∧ (mid'.custody.deposit S).isSome = true

-- what the signature paid for: a quote, or an account of its own
inductive Funded (mid mid' : Database) (S : String) : RegistryKind × String → Prop
  | quote {k : SettlementKind × String} {s : ChainSettlement} : SettledBy mid mid' k s →
      s.transactionSignature = S → Funded mid mid' S (Custody.funding k)
  | deposit : CreditedBy mid mid' S →
      (∀ q s, SettledBy mid mid' (.bundle, q) s → s.transactionSignature ≠ S) →
      Funded mid mid' S (.prepaidTopup, S)

-- the trimmed and parsed request is what the row says
structure SamePayment (s : ChainSettlement) (request : RecordChainSettlementRequest) : Prop where
  signature : s.transactionSignature = trim request.transactionSignature
  payer : s.payer = trim request.payer
  payTo : s.payTo = trim request.payTo
  amount : parseU64 request.amountAtomic = some s.amountAtomic
  network : s.network = trim request.network

structure BehindFence (ext : Externals) (mid : Database) (k : SettlementKind × String)
    (s : ChainSettlement) (request : RecordChainSettlementRequest) : Prop where
  quoteId : trim request.quoteId = k.2
  payment : SamePayment s request
  fence : ∃ a, mid.custody.fence k = some a ∧ some a.attemptId = request.attemptId ∧
    ∃ signed bytes, a.signedTransactionBase64 = some signed ∧ s.preparedTransaction = some signed ∧
      ext.hexDigest signed = a.attemptId ∧ ext.encoding.base64Decode signed = some bytes ∧
      validX402PreparedTransaction bytes = true

structure ExactlyOnce (ext : Externals) (start : Database) (es : List Event) (db : Database) :
    Prop where
  once : ∀ as bs mid, es = as ++ bs → Run ext start as mid → Run ext mid bs db →
    (∀ k s, mid.custody.settled k = some s → db.custody.settled k = some s) ∧
    ∀ S entry, mid.custody.deposit S = some entry → db.custody.deposit S = some entry
  exclusive : ∀ S f f' mid e mid' later e' later', Passes ext start es db mid e mid' →
    Passes ext start es db later e' later' → Funded mid mid' S f → Funded later later' S f' → f = f'
  fenced : ∀ mid e mid' k s, Passes ext start es db mid e mid' → SettledBy mid mid' k s →
    ∃ now ids request, e = .accepted now ids (.record k.1 request) ∧ BehindFence ext mid k s request
  replays : ∀ mid now ids k request mid' s,
    Passes ext start es db mid (.accepted now ids (.record k.1 request)) mid' →
    SettledBy mid mid' k s →
    ∀ now' ids', recordSettlement ext db ids' now' request k.1 = .ok (db, s.receipt)
  deposits : ∀ mid now ids policy request mid',
    Passes ext start es db mid (.accepted now ids (.deposit policy request)) mid' →
    ∀ now' ids', recordPrepaidDeposit ext policy db ids' now' request = .ok (db,
      ⟨depositAccount request, toString (prepaidAvailable db (depositAccount request))⟩)
  settledAlready : ∀ k s request ids now db' receipt, db.custody.settled k = some s →
    trim request.quoteId = k.2 → recordSettlement ext db ids now request k.1 = .ok (db', receipt) →
    SamePayment s request ∧ db' = db ∧ receipt = s.receipt
  depositedAlready : ∀ policy request ids now db' balance,
    (db.custody.deposit (trim request.transactionSignature)).isSome = true →
    recordPrepaidDeposit ext policy db ids now request = .ok (db', balance) → db' = db

theorem settlementAmount_parsed (h : settlementAmount ext request = .ok amount) :
    parseU64 request.amountAtomic = some amount := by
  simp only [settlementAmount, bind_eq_ok, orReject_eq_ok, pure_eq_ok] at h
  obtain ⟨_, -, _, hparse, _, -, rfl⟩ := h
  exact hparse

theorem samePayment (h : sameSettlement s request = true)
    (hamount : settlementAmount ext request = .ok amount) : SamePayment s request := by
  simp only [sameSettlement, decide_eq_true_eq] at h
  obtain ⟨hsignature, hpayer, hpayTo, htext, hnetwork⟩ := h
  refine ⟨hsignature, hpayer, hpayTo, ?_, hnetwork⟩
  have hparse := settlementAmount_parsed hamount
  rw [← htext] at hparse ⊢
  have hvalue : amount = s.amountAtomic := parseU64_toString hparse
  rw [hvalue] at hparse
  exact hparse

theorem Recorded.samePayment (h : Recorded request amount s)
    (hamount : settlementAmount ext request = .ok amount) : SamePayment s request :=
  ⟨h.signature, h.payer, h.payTo, h.amountAtomic ▸ settlementAmount_parsed hamount, h.network⟩

theorem Funded.registry {f : RegistryKind × String} (h : Funded mid mid' S f)
    (hsafe : Safe mid') (hmove : mid.custody.Move mid'.custody) :
    mid'.custody.registry S = some f := by
  cases h with
  | quote hs hS =>
    rw [← hS]
    exact hsafe.sound.registered _ _ hs.2
  | deposit hc hno =>
    obtain ⟨entry, hentry⟩ := Option.isSome_iff_exists.mp hc.2
    rcases hmove.credits hc.1 hentry with hr | ⟨q, s, hnone, hs, hS⟩
    · exact hr
    · exact absurd hS (hno q s ⟨hnone, hs⟩)

theorem Passes.safe (h : Passes ext start es db mid e mid') (hstart : Vacant start) :
    Safe mid ∧ Transition ext mid e mid' ∧ Safe mid' := by
  obtain ⟨as, bs, -, hbefore, hstep, -⟩ := h
  have hsafe := run_safe hstart hbefore
  exact ⟨hsafe, hstep.transition, hstep.transition.safe hsafe⟩

theorem Passes.after (h : Passes ext start es db mid e mid') : ∃ bs, Run ext mid' bs db := by
  obtain ⟨_, bs, -, -, -, hafter⟩ := h
  exact ⟨bs, hafter⟩

theorem Transition.settles (h : Transition ext mid e mid') (hs : SettledBy mid mid' k s) :
    ∃ now ids request amount, Settles ext mid e mid' k s now ids request amount := by
  rcases h.settled k s hs.2 with hold | hnew
  · rw [hs.1] at hold
    cases hold
  · exact hnew

theorem Settles.behindFence (h : Settles ext mid e mid' k s now ids request amount)
    (hsafe : Safe mid) : BehindFence ext mid k s request := by
  refine ⟨h.quoteId, h.receives.recorded.samePayment h.parsed, ?_⟩
  obtain ⟨a, ha, hid, hexact⟩ := h.receives.fence
  rw [h.quoteId] at ha
  obtain ⟨signed, bytes, hsigned, hstored, hdigest, hbytes, hvalid⟩ :=
    hexact (hsafe.sound.exact _ a ha)
  exact ⟨a, ha, hid, signed, bytes, hstored, hsigned, hdigest, hbytes, hvalid⟩

-- The amount of a request is written the way a stored amount is read back.
def Canonical (request : RecordChainSettlementRequest) : Prop :=
  ∀ n, parseU64 request.amountAtomic = some n → request.amountAtomic = toString n

def CanonicalSettlements (ext : Externals) (start : Database) (es : List Event) (db : Database) :
    Prop :=
  ∀ mid now ids k request mid' s,
    Passes ext start es db mid (.accepted now ids (.record k.1 request)) mid' →
    SettledBy mid mid' k s → Canonical request

theorem deposited_again {policy : PaymentQuotePolicy} {r : RecordPrepaidDepositRequest}
    {balance : PrepaidBalance}
    (h : recordPrepaidDeposit ext policy mid ids now r = .ok (mid', balance))
    (hdeposit : (db.custody.deposit (trim r.transactionSignature)).isSome = true) :
    recordPrepaidDeposit ext policy db ids' now' r = .ok (db,
      ⟨depositAccount r, toString (prepaidAvailable db (depositAccount r))⟩) := by
  simp only [recordPrepaidDeposit, bind_eq_ok] at h
  obtain ⟨amount, hamount, -⟩ := h
  have hrecorded : depositRecorded db (trim r.transactionSignature) = true := hdeposit
  simp only [recordPrepaidDeposit, hamount, ok_bind, applyDeposit, hrecorded, ↓reduceIte]
  rfl

theorem deposit_recorded {policy : PaymentQuotePolicy} {r : RecordPrepaidDepositRequest}
    {balance : PrepaidBalance}
    (h : recordPrepaidDeposit ext policy mid ids now r = .ok (mid', balance)) :
    (mid'.custody.deposit (trim r.transactionSignature)).isSome = true := by
  rcases deposit_cases h with ⟨hsome, rfl⟩ | ⟨_, entry, -, -, -, -, -, hcustody⟩
  · exact hsome
  · simp [hcustody, Custody.credit]

theorem exactReplay (hsafe : Safe db) (hs : db.custody.settled k = some s)
    (h : Settles ext mid e mid' k s now ids request amount) (hcanonical : Canonical request) :
    recordSettlement ext db ids' now' request k.1 = .ok (db, s.receipt) := by
  have hkey : db.custody.settled (k.1, trim request.quoteId) = some s := by
    rw [h.quoteId]
    exact hs
  refine replay_same hsafe hkey h.parsed h.receives.attempt ?_
  have hrow := h.receives.recorded
  have htext := hcanonical amount (settlementAmount_parsed h.parsed)
  simp only [sameSettlement, decide_eq_true_eq]
  exact ⟨hrow.signature, hrow.payer, hrow.payTo, hrow.amountAtomic ▸ htext.symm, hrow.network⟩

theorem settled_outcome {receipt : ChainSettlementReceipt} (hsafe : Safe db)
    (hs : db.custody.settled k = some s) (hid : trim request.quoteId = k.2)
    (h : recordSettlement ext db ids now request k.1 = .ok (db', receipt)) :
    sameSettlement s request = true ∧ SamePayment s request ∧ db' = db ∧ receipt = s.receipt := by
  have hkey : db.custody.settled (k.1, trim request.quoteId) = some s := by
    rw [hid]
    exact hs
  cases record_outcome h with
  | replayed hs' hamount hattempt hsame _ _ =>
    obtain rfl := Option.some.inj (hkey.symm.trans hs')
    rw [replay_same hsafe hkey hamount hattempt hsame, Except.ok.injEq, Prod.mk.injEq] at h
    exact ⟨hsame, samePayment hsame hamount, h.1.symm, h.2.symm⟩
  | settled _ hsettles =>
    have hnone := hsettles.unsettled
    rw [hkey] at hnone
    cases hnone

theorem canonical_of_exactlyOnce (hstart : Vacant start) (run : Run ext start es db)
    (h : ExactlyOnce ext start es db) : CanonicalSettlements ext start es db := by
  intro mid now ids k request mid' s hpass hs n hn
  obtain ⟨bs, hafter⟩ := hpass.after
  have hreplay := h.replays mid now ids k request mid' s hpass hs now ids
  have hsettled := run_settled hafter hs.2
  obtain ⟨-, htransition, -⟩ := hpass.safe hstart
  obtain ⟨_, _, request', _, hsettles⟩ := htransition.settles hs
  obtain ⟨-, -, hrequest⟩ := Event.accepted.inj hsettles.event
  obtain ⟨-, rfl⟩ := Operation.record.inj hrequest
  obtain ⟨hsame, -, -, -⟩ :=
    settled_outcome (run_safe hstart run) hsettled hsettles.quoteId hreplay
  simp only [sameSettlement, decide_eq_true_eq] at hsame
  have htext := hsame.2.2.2.1
  rw [← htext] at hn ⊢
  rw [parseU64_toString hn]

theorem settled_once (hstart : Vacant start) (run : Run ext start es db) :
    ExactlyOnce ext start es db ↔ CanonicalSettlements ext start es db := by
  have hsafe := run_safe hstart run
  constructor
  · intro h
    exact canonical_of_exactlyOnce hstart run h
  · intro hcanonical
    refine ⟨?_, ?_, ?_, ?_, ?_, ?_, ?_⟩
    · intro as bs mid _ _ hafter
      exact ⟨fun k s hs => run_settled hafter hs, fun S entry he => run_deposit hafter he⟩
    · intro S f f' mid e mid' later e' later' hpass hpass' hfunded hfunded'
      obtain ⟨-, htransition, hmid⟩ := hpass.safe hstart
      obtain ⟨-, htransition', hlater⟩ := hpass'.safe hstart
      obtain ⟨bs, hafter⟩ := hpass.after
      obtain ⟨bs', hafter'⟩ := hpass'.after
      have hregistry := run_registry hafter (hfunded.registry hmid htransition.move)
      have hregistry' := run_registry hafter' (hfunded'.registry hlater htransition'.move)
      rw [hregistry, Option.some.injEq] at hregistry'
      exact hregistry'
    · intro mid e mid' k s hpass hs
      obtain ⟨hmid, htransition, -⟩ := hpass.safe hstart
      obtain ⟨now, ids, request, _, hsettles⟩ := htransition.settles hs
      exact ⟨now, ids, request, hsettles.event, hsettles.behindFence hmid⟩
    · intro mid now ids k request mid' s hpass hs now' ids'
      obtain ⟨bs, hafter⟩ := hpass.after
      obtain ⟨-, htransition, -⟩ := hpass.safe hstart
      obtain ⟨_, _, request', _, hsettles⟩ := htransition.settles hs
      obtain ⟨-, -, hrequest⟩ := Event.accepted.inj hsettles.event
      obtain ⟨-, rfl⟩ := Operation.record.inj hrequest
      exact exactReplay hsafe (run_settled hafter hs.2) hsettles
        (hcanonical mid now ids k request mid' s hpass hs)
    · intro mid now ids policy request mid' hpass now' ids'
      obtain ⟨bs, hafter⟩ := hpass.after
      obtain ⟨as, bs, -, -, hstep, -⟩ := hpass
      cases hstep with
      | accepted hexec =>
        obtain ⟨⟨_, _⟩, hdeposit, rfl⟩ := map_eq_ok.mp hexec
        obtain ⟨entry, hentry⟩ := Option.isSome_iff_exists.mp (deposit_recorded hdeposit)
        apply deposited_again hdeposit
        rw [run_deposit hafter hentry]
        rfl
    · intro k s request ids now db' receipt hs hid h
      exact (settled_outcome hsafe hs hid h).2
    · intro policy request ids now db' balance hrecorded h
      rw [deposited_again h hrecorded] at h
      simp only [Except.ok.injEq, Prod.mk.injEq] at h
      exact h.1.symm

end Guarantee

section Sample

def sampleTransaction : String :=
  "AgAAAAAAAAAAAAAAAAAAAAAAAAAAAAAAAAAAAAAAAAAAAAAAAAAAAAAAAAAAAAAAAAAAAAAAAAAAAAAAAAAAAAAHBw" ++
    "cHBwcHBwcHBwcHBwcHBwcHBwcHBwcHBwcHBwcHBwcHBwcHBwcHBwcHBwcHBwcHBwcHBwcHBwcHBwcHBwcHAQ=="

def sampleAttemptId : String := "abd370029f11b0c083771ffff234be12a4d277ea3df95e285603af739568fa10"

def sampleExternals : Externals where
  encoding := .standard
  hexDigest text := if text = sampleTransaction then sampleAttemptId else ""

def sampleWallet : String := "EPjFWdd5AufqSSqeM2qN1xzybapC8G4wEGGkZwyTDt1v"

def sampleSignature : String :=
  "3L3RY5sT8K4kyEnqhizwaqxLEbcYvpGrGPNEYRwtbCSUtL6YL86jdrvCbohnP5q8VxQ3qzGmt3W3iQJW97rD7m3"

def sampleQuote : BundleQuote where
  id := "bundle_1"
  queryId := "query_1"
  payTo := sampleWallet
  network := "solana:devnet"
  asset := sampleWallet
  amountAtomic := 5
  totalPriceKrw := 1
  krwPerUsdc := 1350
  bundleHash := "hash_1"
  expiresAt := 900000
  createdAt := 1000
  settledAt := none
  deliveredAt := none
  status := .quoted
  payerWallet := none
  depositAtomic := 5
  minimumDepositAtomic := 0
  fundingSource := .agentDirect
  failureReason := none
  refundClaimId := none
  balanceReleaseAtomic := 0

def sampleDocument : BundleDocument where
  quoteId := "bundle_1"
  rank := 1
  documentId := "document_1"
  documentHandle := "handle_1"
  authorId := "author_1"
  recipientWallet := sampleWallet
  priceKrw := 1
  payShQuoteId := none

def sampleStart : Database where
  queries := ["query_1"]
  documents := .empty
  memoryEntries := .empty
  paymentQuotes := .empty
  bundleQuotes := ⟨[sampleQuote], by simp⟩
  bundleDocuments := ⟨[sampleDocument], by simp⟩
  fundingQuotes := .empty
  openCalls := .empty
  settlements := .empty
  earningEvents := .empty
  chainSettlements := .empty
  bundleChainSettlements := .empty
  openCallChainSettlements := .empty
  transactionRegistry := .empty
  paymentAttempts := .empty
  prepaidAccounts := .empty
  prepaidLedger := .empty
  recoveryHolds := []

theorem sampleStart_vacant : Vacant sampleStart := by
  refine ⟨fun k => ?_, fun k => rfl, fun S => rfl⟩
  obtain ⟨kind, quoteId⟩ := k
  cases kind <;> rfl

def sampleClaim : ClaimPaymentAttemptRequest where
  settlementKind := "bundle"
  quoteId := "bundle_1"
  attemptId := sampleAttemptId
  payer := some sampleWallet
  signedTransactionBase64 := some sampleTransaction
  recentBlockhash := some "US517G5965aydkZ46HS38QLi7UQiSojurfbQfKCELFx"
  absenceObserved := false

def sampleRecord (amountAtomic : String) : RecordChainSettlementRequest where
  quoteId := "bundle_1"
  attemptId := some sampleAttemptId
  transactionSignature := sampleSignature
  payer := sampleWallet
  payTo := sampleWallet
  amountAtomic := amountAtomic
  network := "solana:devnet"
  rawResponseJson := "null"

def sampleIds : NewIds := ⟨"settlement_1", "chain_1", "earning_1", "call_1", "deposit_1", "reserve_1"⟩

def sampleEvents (amountAtomic : String) : List Event :=
  [.accepted 2000 sampleIds (.claim sampleClaim),
    .accepted 3000 sampleIds (.record .bundle (sampleRecord amountAtomic))]

def execEvent (ext : Externals) (db : Database) : Event → Option Database
  | .accepted now ids operation => (execute ext db ids now operation).toOption
  | _ => none

theorem step_of_execEvent (db : Database) (e : Event) (db' : Database)
    (h : execEvent ext db e = some db') : Step ext db e db' := by
  unfold execEvent at h
  split at h
  · exact .accepted (toOption_eq_some.mp h)
  · cases h

def settledIn (db : Database) : Bool :=
  (db.bundleChainSettlements.get? "bundle_1").isSome

theorem sampleTransaction_ofList : ∃ text, sampleTransaction = String.ofList text ∧
    text.all (fun c => !isWhiteSpace c) = true ∧
    (base64Groups text).any (fun bytes => decide (100 ≤ bytes.length ∧ bytes.length ≤ 2048) &&
      validX402PreparedTransaction bytes) = true := by
  refine ⟨_, (String.ofList_append).symm, ?_, ?_⟩
  · decide +kernel
  · decide +kernel

theorem sampleTexts_valid : validSolanaAddress .standard sampleWallet = true ∧
    validSolanaAddress .standard "US517G5965aydkZ46HS38QLi7UQiSojurfbQfKCELFx" = true ∧
    validatePaymentAttemptIdentity sampleClaim = .ok .bundle ∧
    (64 ≤ sampleSignature.utf8ByteSize ∧ sampleSignature.utf8ByteSize ≤ 128) ∧
    isBase58 sampleSignature = true := by
  decide +kernel

theorem trim_sampleWallet : trim sampleWallet = sampleWallet := trim_ofList (by decide)

theorem trim_sampleSignature : trim sampleSignature = sampleSignature := trim_ofList (by decide)

theorem sampleTransaction_digest : sampleExternals.hexDigest sampleTransaction = sampleAttemptId := by
  simp only [sampleExternals, if_true]

theorem sampleClaim_valid : validatePaymentAttemptRequest sampleExternals sampleClaim = .ok .bundle := by
  obtain ⟨hwallet, hblockhash, hidentity, -, -⟩ := sampleTexts_valid
  obtain ⟨text, htext, htrim, hbytes⟩ := sampleTransaction_ofList
  obtain ⟨bytes, hdecoded, hvalid⟩ := (Option.any_eq_true _ _).mp hbytes
  simp only [Bool.and_eq_true, decide_eq_true_eq] at hvalid
  have htrimmed : trim sampleTransaction = sampleTransaction := by
    rw [htext]
    exact trim_ofList htrim
  have hread : Encoding.standard.base64Decode sampleTransaction = some bytes := by
    rw [htext]
    simpa [Encoding.standard] using hdecoded
  exact validatePaymentAttemptRequest_ok hidentity rfl hwallet hblockhash htrimmed hread hvalid.1
    sampleTransaction_digest hvalid.2

theorem sampleRecord_valid (amountAtomic : String) :
    validateChainSettlementRequest sampleExternals (sampleRecord amountAtomic) = .ok () := by
  obtain ⟨hwallet, -, -, hsize, hbase58⟩ := sampleTexts_valid
  exact validateChainSettlementRequest_ok trim_sampleSignature trim_sampleWallet trim_sampleWallet hsize
    hbase58 hwallet hwallet

theorem sample_runs :
    (runWith (execEvent sampleExternals) sampleStart (sampleEvents "5")).any settledIn = true := by
  simp only [sampleEvents, runWith, execEvent, execute, claimPaymentAttempt, sampleClaim_valid,
    recordSettlement, recordBundleChainSettlement, settlementAmount, sampleRecord_valid]
  decide +kernel

theorem sample_runs_plus :
    (runWith (execEvent sampleExternals) sampleStart (sampleEvents "+5")).any settledIn = true := by
  simp only [sampleEvents, runWith, execEvent, execute, claimPaymentAttempt, sampleClaim_valid,
    recordSettlement, recordBundleChainSettlement, settlementAmount, sampleRecord_valid]
  decide +kernel

theorem settledIn_iff (h : settledIn db = true) :
    ∃ s, db.custody.settled (.bundle, "bundle_1") = some s :=
  Option.isSome_iff_exists.mp h

theorem sample_passes {text : String} {entry : ChainSettlement}
    (run : Run sampleExternals sampleStart (sampleEvents text) db)
    (hs : db.custody.settled (.bundle, "bundle_1") = some entry) :
    ∃ mid, Passes sampleExternals sampleStart (sampleEvents text) db mid
      (.accepted 3000 sampleIds (.record .bundle (sampleRecord text))) db ∧
      SettledBy mid db (.bundle, "bundle_1") entry := by
  have hsplit : sampleEvents text = [.accepted 2000 sampleIds (.claim sampleClaim)] ++
      [.accepted 3000 sampleIds (.record .bundle (sampleRecord text))] := rfl
  rw [hsplit] at run
  obtain ⟨mid, hbefore, hlast⟩ := Trace.append_iff.mp run
  have hstep := Trace.single_iff.mp hlast
  refine ⟨mid, ⟨_, [], rfl, hbefore, hstep, .nil⟩, ?_, hs⟩
  cases Trace.single_iff.mp hbefore with
  | accepted hexec =>
    simp only [execute, map_eq_ok] at hexec
    obtain ⟨⟨_, _⟩, hclaim, rfl⟩ := hexec
    rcases claim_cases hclaim with hsame | ⟨_, _, _, _, _, _, attempts, _, hopened⟩
    · rw [hsame]
      exact sampleStart_vacant.settled _
    · rw [hopened]
      exact sampleStart_vacant.settled _

theorem settled_once_sample :
    ∃ db, Run sampleExternals sampleStart (sampleEvents "5") db ∧
      (db.custody.settled (.bundle, "bundle_1")).isSome = true ∧
      (ExactlyOnce sampleExternals sampleStart (sampleEvents "5") db ↔
        CanonicalSettlements sampleExternals sampleStart (sampleEvents "5") db) := by
  obtain ⟨db, hdb, hsettled⟩ := Option.any_eq_true _ _ |>.mp sample_runs
  have run := runWith_trace step_of_execEvent hdb
  exact ⟨db, run, hsettled, settled_once sampleStart_vacant run⟩

theorem replay_refused :
    ∃ db, Run sampleExternals sampleStart (sampleEvents "+5") db ∧ Vacant sampleStart ∧
      ¬ExactlyOnce sampleExternals sampleStart (sampleEvents "+5") db := by
  obtain ⟨db, hdb, hsettled⟩ := Option.any_eq_true _ _ |>.mp sample_runs_plus
  have run := runWith_trace step_of_execEvent hdb
  refine ⟨db, run, sampleStart_vacant, fun h => ?_⟩
  obtain ⟨s, hs⟩ := settledIn_iff hsettled
  obtain ⟨mid, hpass, hby⟩ := sample_passes run hs
  have hcanonical := canonical_of_exactlyOnce sampleStart_vacant run h mid 3000 sampleIds
    (.bundle, "bundle_1") (sampleRecord "+5") db s hpass hby
  have htext : "+5" = toString 5 := hcanonical 5 (by decide)
  exact absurd htext (by decide)

end Sample

end Obulus.Funds
