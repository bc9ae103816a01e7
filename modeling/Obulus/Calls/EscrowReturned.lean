import Obulus.Calls.EscrowKept

namespace Obulus.Calls.Funding

open Foundation Store Funds

variable {app : Appraisal} {ext : Externals} {db db' mid start : Database} {call c c' : StoredCall}
  {ids : AnswerIds} {payout : Option OnchainPayout} {now total : Nat} {callId userId : String}
  {payments : List Nat}

section Refunds

structure Refund where
  recipientWallet : String
  escrowWallet : String
  asset : String
  network : String
  amountAtomic : Nat
  deriving DecidableEq, Repr

def returns (callId : String) (c : Payout.NewClaim) : Bool :=
  decide (c.openCallId = some callId) && c.earningEventId.isNone

def refundOf (c : Payout.NewClaim) : Refund :=
  ⟨c.recipientWallet, c.escrowWallet, c.asset, c.network, c.amountAtomic⟩

-- what was claimed back from the escrow of a call
def refunds (db : Database) (callId : String) : List Refund :=
  (db.payoutClaims.rows.filter (returns callId)).map refundOf

-- a refund goes to the wallet that funded the call, out of the wallet that holds its escrow
structure Refund.Of (r : Refund) (c : StoredCall) : Prop where
  recipient : c.payerWallet = some r.recipientWallet
  escrow : c.escrowWallet = some r.escrowWallet
  asset : c.escrowAsset = some r.asset
  network : c.escrowNetwork = some r.network

structure Returned (payments : List Nat) (refunds : List Refund) (c : StoredCall) : Prop where
  balance : c.escrowTotalAtomic =
    some (payments.sum + (refunds.map Refund.amountAtomic).sum + c.escrowRemainingAtomic.getD 0)
  once : refunds.length ≤ 1
  closed : refunds ≠ [] → c.status = .cancelled
  emptied : refunds ≠ [] → c.escrowRemainingAtomic = some 0
  home : ∀ r ∈ refunds, r.Of c

structure EscrowReturned (db : Database) : Prop where
  kept : EscrowKept db
  calls : ∀ callId c, onchain db callId = some c →
    Returned (answerPayments db callId) (refunds db callId) c
  unclaimed : ∀ callId, onchain db callId = none → refunds db callId = []

theorem Kept.returned (h : Kept payments c total) (hlive : c.status ≠ .cancelled) :
    Returned payments [] c := by
  refine ⟨?_, Nat.zero_le _, fun hsome => absurd rfl hsome, fun hsome => absurd rfl hsome, ?_⟩
  · have hsum := @sum_evenShares_rest total _ _ h.within h.positive
    rw [h.funded, h.left hlive, h.paid]
    simp only [List.map_nil, List.sum_nil, Nat.add_zero, Option.getD_some, hsum]
  · intro r hr
    cases hr

theorem Returned.live {refunds : List Refund} (h : Returned payments refunds c)
    (hlive : c.status ≠ .cancelled) : refunds = [] := by
  by_contra hsome
  exact hlive (h.closed hsome)

-- what the balance of the escrow of a call depends on
structure SameEscrow (c c' : StoredCall) : Prop where
  total : c'.escrowTotalAtomic = c.escrowTotalAtomic
  remaining : c'.escrowRemainingAtomic = c.escrowRemainingAtomic
  closed : c.status = .cancelled → c'.status = .cancelled
  payer : c'.payerWallet = c.payerWallet
  escrow : c'.escrowWallet = c.escrowWallet
  asset : c'.escrowAsset = c.escrowAsset
  network : c'.escrowNetwork = c.escrowNetwork

theorem SameEscrow.refl (c : StoredCall) : SameEscrow c c := ⟨rfl, rfl, id, rfl, rfl, rfl, rfl⟩

theorem SameEscrow.trans {c'' : StoredCall} (h : SameEscrow c c') (h' : SameEscrow c' c'') :
    SameEscrow c c'' :=
  ⟨h'.total.trans h.total, h'.remaining.trans h.remaining, fun hclosed => h'.closed (h.closed hclosed),
    h'.payer.trans h.payer, h'.escrow.trans h.escrow, h'.asset.trans h.asset,
    h'.network.trans h.network⟩

theorem Refund.Of.same {r : Refund} (h : r.Of c) (hsame : SameEscrow c c') : r.Of c' :=
  ⟨hsame.payer.trans h.recipient, hsame.escrow.trans h.escrow, hsame.asset.trans h.asset,
    hsame.network.trans h.network⟩

theorem Returned.same {refunds : List Refund} (h : Returned payments refunds c)
    (hsame : SameEscrow c c') : Returned payments refunds c' := by
  refine ⟨?_, h.once, fun hsome => hsame.closed (h.closed hsome), ?_, fun r hr => (h.home r hr).same hsame⟩
  · rw [hsame.total, hsame.remaining]
    exact h.balance
  · intro hsome
    rw [hsame.remaining]
    exact h.emptied hsome

-- a call that is live after the step, and was live or absent before
def Running (db : Database) (callId : String) (c' : StoredCall) : Prop :=
  c'.status ≠ .cancelled ∧ ∀ c, onchain db callId = some c → c.status ≠ .cancelled

-- a step without a refund
theorem EscrowReturned.carry (h : EscrowReturned db) (hkept : EscrowKept db')
    (hrefunds : ∀ callId, refunds db' callId = refunds db callId)
    (hcalls : ∀ callId c', onchain db' callId = some c' → Running db callId c' ∨
      answerPayments db' callId = answerPayments db callId ∧
        ∃ c, onchain db callId = some c ∧ SameEscrow c c')
    (hnone : ∀ callId, onchain db' callId = none → onchain db callId = none) : EscrowReturned db' := by
  refine ⟨hkept, ?_, ?_⟩
  · intro callId c' hc'
    rw [hrefunds]
    rcases hcalls callId c' hc' with ⟨hlive, hbefore⟩ | ⟨hpayments, c, hc, hsame⟩
    · have hempty : refunds db callId = [] := by
        cases hc : onchain db callId with
        | none => exact h.unclaimed callId hc
        | some c => exact (h.calls callId c hc).live (hbefore c hc)
      obtain ⟨total, hkept'⟩ := hkept.calls callId c' hc'
      rw [hempty]
      exact hkept'.returned hlive
    · rw [hpayments]
      exact (h.calls callId c hc).same hsame
  · intro callId hafter
    rw [hrefunds]
    exact h.unclaimed callId (hnone callId hafter)

end Refunds

section Answers

variable {reflections : List Reflection} {request : AnswerRequest} {interview : List InterviewResponse}
  {createdAt : Nat}

theorem insertPayoutClaim_refunds {claim : Payout.NewClaim}
    (h : insertPayoutClaim app db claim = .ok db') : refunds db' callId =
      refunds db callId ++ if returns callId claim then [refundOf claim] else [] := by
  obtain ⟨t, rfl, hrows⟩ := insertPayoutClaim_rows h
  simp only [refunds, hrows, List.filter_append, List.map_append, List.filter_singleton]
  cases returns callId claim <;> rfl

theorem payAnswer_refunds {memoryId documentId source kind : String} {amountKrw : Nat}
    (h : payAnswer app db call ids payout userId memoryId documentId source kind amountKrw now =
      .ok db') : refunds db' callId = refunds db callId := by
  unfold payAnswer at h
  cases payout with
  | none =>
    simp only [insertEarningEvent, bind_eq_ok, insertEarning_eq_ok, accrue, reject_eq_ok,
      exists_const, pure_eq_ok] at h
    obtain ⟨_, -, _, -, _, -, _, -, _, ⟨t, ht, rfl⟩, -, rfl⟩ := h
    rfl
  | some payout =>
    simp only [insertOpenCallOnchainEarningEvent, insertOutsideEarning, bind_eq_ok,
      insertEarning_eq_ok, orReject_eq_ok] at h
    obtain ⟨_, ⟨_, -, _, -, _, -, _, -, t, ht, rfl⟩, _, -, _, -, _, -, hclaim⟩ := h
    rw [insertPayoutClaim_refunds hclaim]
    simp [returns, refunds]

theorem drawEscrow_refunds {errors : DrawErrors} (h : drawEscrow db call errors payout = .ok db')
    (hget : db.openCalls.get? call.id = some call) : refunds db' callId = refunds db callId := by
  obtain ⟨-, remaining, rfl, -⟩ := drawEscrow_effect h hget
  rfl

theorem closeIfFilled_refunds : refunds (closeIfFilled db call) callId = refunds db callId := by
  rw [refunds, refunds, closeIfFilled_same.claims]

theorem accept_refunds
    (h : acceptAnswer app db ids reflections createdAt request call payout interview = .ok db')
    (hget : db.openCalls.get? call.id = some call) : refunds db' callId = refunds db callId := by
  simp only [acceptAnswer, bind_eq_ok, asI64_eq_ok, reject_eq_ok, exists_const, insertMemory_eq_ok,
    pure_eq_ok] at h
  obtain ⟨_, -, time, -, -, drawn, hdraw, _, ⟨t, -, rfl⟩, _, hreflections, paid, hpay, rfl⟩ := h
  obtain ⟨t', rfl, -⟩ := insertReflections_effect hreflections
  obtain ⟨documents, hdocuments⟩ := @insertDocument_frame db (answerDocument app ids time request call)
  rw [← hdocuments] at hdraw
  have hget' : ({ db with documents := documents } : Database).openCalls.get? call.id = some call := hget
  have hdrawn : refunds drawn callId = refunds { db with documents := documents } callId :=
    drawEscrow_refunds hdraw hget'
  rw [closeIfFilled_refunds, payAnswer_refunds hpay]
  exact hdrawn

theorem answer_refunds
    (h : submitAnswerWithInterview app db ids reflections now createdAt request = .ok db') :
    refunds db' callId = refunds db callId := by
  simp only [submitAnswerWithInterview, admission, submitTo, bind_eq_ok, asI64_eq_ok, loadCall_eq_ok,
    reject_eq_ok, orReject_eq_ok, exists_const, pure_eq_ok] at h
  obtain ⟨interview, -, ⟨call, payout⟩, ⟨-, _, hcall, -, profile, -, _, hpayout, -, -, -, hpair⟩,
    time, -, -, recorded, hrecord, rfl⟩ := h
  rw [Prod.mk.injEq] at hpair
  obtain ⟨rfl, rfl⟩ := hpair
  change refunds recorded callId = _
  unfold recordAnswer at hrecord
  split at hrecord
  · have hget := hcall
    rw [← call_key hcall] at hget
    have hrecorded : refunds recorded callId = refunds (deleteExpired db time) callId :=
      accept_refunds hrecord hget
    exact hrecorded
  · simp only [voidAnswer, bind_eq_ok, insertMemory_eq_ok] at hrecord
    obtain ⟨_, -, t, -, rfl⟩ := hrecord
    rfl

theorem match_refunds {matchIds : String → AnswerIds} {openCallId : String}
    (hcall : db.openCalls.get? openCallId = some call)
    (h : matchCandidate app db now matchIds openCallId call userId = .ok db') :
    refunds db' callId = refunds db callId := by
  unfold matchCandidate at h
  split at h
  · cases h
    rfl
  · simp only [settleAgentMatch, bind_eq_ok, reject_eq_ok, exists_const] at h
    obtain ⟨-, payout, -, h⟩ := h
    cases payout with
    | none =>
      cases h
      rfl
    | some payout =>
      simp only [settleReuse, bind_eq_ok, insertMemory_eq_ok, pure_eq_ok] at h
      obtain ⟨drawn, hdraw, _, -, _, -, _, ⟨t, -, rfl⟩, paid, hpay, rfl⟩ := h
      have hget := hcall
      rw [← call_key hcall] at hget
      have hdrawn : refunds drawn callId = refunds db callId := drawEscrow_refunds hdraw hget
      rw [closeIfFilled_refunds, payAnswer_refunds hpay]
      exact hdrawn

theorem review_refunds {reviewerId memoryId : String} {review : ReviewDisputeRequest}
    (h : reviewDispute app db ids now reviewerId memoryId review = .ok db') :
    refunds db' callId = refunds db callId := by
  simp only [reviewDispute, bind_eq_ok, reject_eq_ok, orReject_eq_ok, exists_const, requireAdmin,
    pure_eq_ok] at h
  obtain ⟨-, _, -, dispute, -, -, decided, hdecide, _, -, rfl⟩ := h
  change refunds decided callId = _
  unfold decideDispute at hdecide
  split at hdecide
  · simp only [approveDispute, restoreAnswer, bind_eq_ok, reject_eq_ok, orReject_eq_ok, exists_const,
      loadCall_eq_ok] at hdecide
    obtain ⟨⟨m, openCallId⟩, -, call, hcall, -, -, profile, -, payout, -, krw, -, drawn, hdraw,
      hpay⟩ := hdecide
    obtain ⟨documents, hdocuments⟩ := @insertDocument_frame db (restoredDocument app ids m call)
    rw [← hdocuments] at hdraw
    have hget : (restoreMemory { db with documents := documents } ids memoryId krw).openCalls.get?
        call.id = some call := by
      rw [call_key hcall]
      exact hcall
    have hdrawn : refunds drawn callId =
        refunds (restoreMemory { db with documents := documents } ids memoryId krw) callId :=
      drawEscrow_refunds hdraw hget
    rw [payAnswer_refunds hpay]
    exact hdrawn
  · cases hdecide
    rfl

theorem EscrowReturned.quiet (h : EscrowReturned db) (hkept : EscrowKept db')
    (hcalls : db'.openCalls = db.openCalls) (hclaims : db'.payoutClaims = db.payoutClaims) :
    EscrowReturned db' := by
  refine h.carry hkept ?_ ?_ ?_
  · intro callId
    rw [refunds, refunds, hclaims]
  · intro callId c hc
    rw [onchain, hcalls] at hc
    refine .inr ⟨?_, c, hc, .refl c⟩
    rw [answerPayments, answerPayments, hclaims]
  · intro callId hafter
    rw [onchain, hcalls] at hafter
    exact hafter

theorem EscrowReturned.frame (h : EscrowReturned db) (hsame : SameCalls db db') :
    EscrowReturned db' :=
  h.quiet (h.kept.frame hsame) hsame.calls hsame.claims

theorem EscrowReturned.answered (h : EscrowReturned db) (hanswered : Answered db db' call payout)
    (howed : Owed call payout) (hrefunds : ∀ callId, refunds db' callId = refunds db callId) :
    EscrowReturned db' := by
  refine h.carry (h.kept.answered hanswered howed) hrefunds ?_ ?_
  all_goals
    obtain ⟨hget, htakes, ⟨remaining, hput, -⟩, hpayments, -⟩ := hanswered
    have hcalls (callId : String) : db'.openCalls.get? callId =
        if call.id = callId then some (counted call remaining) else db.openCalls.get? callId := by
      rw [hput]
      exact Table.get?_put
  · have hopened := (takesAnswers_iff.mp htakes).1
    intro callId c' hc'
    rw [onchain_eq_some, hcalls] at hc'
    by_cases hid : call.id = callId
    · rw [if_pos hid, Option.some.injEq] at hc'
      obtain ⟨rfl, -⟩ := hc'
      left
      refine ⟨?_, ?_⟩
      · simp only [counted]
        split
        · intro hstatus
          cases hstatus
        · rw [hopened]
          intro hstatus
          cases hstatus
      · intro c hc
        rw [onchain_eq_some, ← hid, hget, Option.some.injEq] at hc
        obtain ⟨rfl, -⟩ := hc
        rw [hopened]
        intro hstatus
        cases hstatus
    · rw [if_neg hid] at hc'
      right
      refine ⟨?_, c', onchain_eq_some.mpr hc', .refl c'⟩
      rw [hpayments, if_neg hid, List.append_nil]
  · intro callId hafter
    by_cases hid : call.id = callId
    · rw [← hid, onchain, hcalls, if_pos rfl] at hafter
      rw [← hid, onchain, hget]
      simpa [counted] using hafter
    · rw [onchain, hcalls, if_neg hid] at hafter
      exact hafter

theorem answer_returned (h : EscrowReturned db)
    (hanswer : submitAnswerWithInterview app db ids reflections now createdAt request = .ok db') :
    EscrowReturned db' := by
  have hrefunds (callId : String) : refunds db' callId = refunds db callId := answer_refunds hanswer
  simp only [submitAnswerWithInterview, admission, submitTo, bind_eq_ok, asI64_eq_ok, loadCall_eq_ok,
    reject_eq_ok, orReject_eq_ok, exists_const, pure_eq_ok] at hanswer
  obtain ⟨interview, -, ⟨call, payout⟩, ⟨-, _, hcall, -, profile, -, _, hpayout, -, -, -, hpair⟩,
    time, -, -, recorded, hrecord, rfl⟩ := hanswer
  rw [Prod.mk.injEq] at hpair
  obtain ⟨rfl, rfl⟩ := hpair
  have hstart : SameCalls db (deleteExpired db time) := ⟨rfl, rfl, rfl⟩
  have hend : SameCalls recorded (deleteReservation recorded request.openCallId request.user) :=
    ⟨rfl, rfl, rfl⟩
  unfold recordAnswer at hrecord
  split at hrecord
  · have hget := hcall
    rw [← call_key hcall] at hget
    have hanswered := (accept_answered hrecord hget).before hstart
    exact h.answered (hanswered.after hend) (onchainPayout_owed hpayout) hrefunds
  · simp only [voidAnswer, bind_eq_ok, insertMemory_eq_ok] at hrecord
    obtain ⟨_, -, t, -, rfl⟩ := hrecord
    exact h.frame ⟨rfl, rfl, rfl⟩

theorem pass_returned {matchIds : String → AnswerIds} {candidates : List String}
    (h : EscrowReturned db) (hpass : agentPass app now matchIds callId db candidates = .ok db') :
    EscrowReturned db' := by
  induction candidates generalizing db with
  | nil =>
    cases hpass
    exact h
  | cons userId rest ih =>
    simp only [agentPass, bind_eq_ok, loadCall_eq_ok] at hpass
    obtain ⟨call, hcall, hpass⟩ := hpass
    split at hpass
    · cases hpass
      exact h
    · simp only [bind_eq_ok] at hpass
      obtain ⟨matched, hmatch, hpass⟩ := hpass
      refine ih ?_ hpass
      rcases match_effect hcall hmatch with rfl | ⟨payout, howed, hanswered⟩
      · exact h
      · exact h.answered hanswered howed fun _ => match_refunds hcall hmatch

theorem review_returned {reviewerId memoryId : String} {review : ReviewDisputeRequest}
    (h : EscrowReturned db)
    (hreview : reviewDispute app db ids now reviewerId memoryId review = .ok db') :
    EscrowReturned db' := by
  have hrefunds (callId : String) : refunds db' callId = refunds db callId := review_refunds hreview
  simp only [reviewDispute, bind_eq_ok, reject_eq_ok, orReject_eq_ok, exists_const, requireAdmin,
    pure_eq_ok] at hreview
  obtain ⟨-, _, -, dispute, -, -, decided, hdecide, reviewedAt, -, rfl⟩ := hreview
  have hend : SameCalls decided (recordReview decided reviewerId review reviewedAt dispute) :=
    recordReview_same
  unfold decideDispute at hdecide
  split at hdecide
  · simp only [approveDispute, restoreAnswer, bind_eq_ok, reject_eq_ok, orReject_eq_ok, exists_const,
      loadCall_eq_ok] at hdecide
    obtain ⟨⟨m, openCallId⟩, -, call, hcall, -, -, profile, -, payout, hpayout, krw, -, drawn, hdraw,
      hpay⟩ := hdecide
    obtain ⟨documents, hdocuments⟩ := @insertDocument_frame db (restoredDocument app ids m call)
    rw [← hdocuments] at hdraw
    have hget : (restoreMemory { db with documents := documents } ids memoryId krw).openCalls.get?
        call.id = some call := by
      rw [call_key hcall]
      exact hcall
    have hdrawn : SameCalls drawn drawn := ⟨rfl, rfl, rfl⟩
    have hanswered := answered_of hget hdraw hdrawn hpay
    have hrestored : SameCalls db (restoreMemory { db with documents := documents } ids memoryId krw) :=
      ⟨rfl, rfl, rfl⟩
    exact h.answered ((hanswered.before hrestored).after hend) (onchainPayout_owed hpayout) hrefunds
  · cases hdecide
    exact h.frame hend

end Answers

section Owners

theorem quote_returned {id ownerId : String} {order : OpenCallRequest} {policy : PaymentQuotePolicy}
    {hashed : FundingQuote → Bool} (h : EscrowReturned db)
    (hquote : createOpenCallFundingQuote ext db now id ownerId order policy hashed = .ok db') :
    EscrowReturned db' := by
  have hkept := quote_kept h.kept hquote
  simp only [createOpenCallFundingQuote, bind_eq_ok, reject_eq_ok, exists_const] at hquote
  obtain ⟨_, -, _, -, -, payTo, -, -, amount, -, time, -, hquote⟩ := hquote
  split at hquote
  · cases hquote
    exact h
  · simp only [bind_eq_ok, insertFundingQuote, orReject_eq_ok, pure_eq_ok] at hquote
    obtain ⟨_, -, _, -, _, -, _, -, quotes, -, rfl⟩ := hquote
    exact h.quiet hkept rfl rfl

theorem fund_cases {newIds : NewIds} {settled : RecordChainSettlementRequest}
    (h : recordOpenCallChainSettlement ext db newIds now settled = .ok db') :
    db'.payoutClaims = db.payoutClaims ∧ (db'.openCalls = db.openCalls ∨
      ∃ quote order unit amount, db.openCalls.insert?
        (fundedCall newIds settled quote order unit quote.totalPriceKrw amount) = some db'.openCalls) := by
  simp only [recordOpenCallChainSettlement, bind_eq_ok] at h
  obtain ⟨amount, -, h⟩ := h
  split at h
  · split at h
    · simp only [replayOpenCall, bind_eq_ok, pure_eq_ok] at h
      obtain ⟨_, -, rfl⟩ := h
      exact ⟨rfl, .inl rfl⟩
    · cases h
  · simp only [settleOpenCall, bind_eq_ok, reject_eq_ok, orReject_eq_ok, exists_const, pure_eq_ok,
      asI64_eq_ok, insertFundedCall, insertCall] at h
    obtain ⟨_, -, prepared, -, claimed, -, quote, -, -, -, order, -, _, -, value, ⟨-, rfl⟩, called,
      ⟨_, -, unit, -, price, ⟨-, rfl⟩, calls, hinsert, rfl⟩, listed, -, rfl⟩ := h
    exact ⟨rfl, .inr ⟨quote, order, unit, value, hinsert⟩⟩

theorem fund_returned {newIds : NewIds} {settled : RecordChainSettlementRequest}
    (h : EscrowReturned db)
    (hfund : recordOpenCallChainSettlement ext db newIds now settled = .ok db') :
    EscrowReturned db' := by
  have hkept := fund_kept h.kept hfund
  obtain ⟨hclaims, hcalls | ⟨quote, order, unit, amount, hinsert⟩⟩ := fund_cases hfund
  · exact h.quiet hkept hcalls hclaims
  · have hfresh : db.openCalls.get? newIds.call = none := (Table.insert?_eq_some.mp hinsert).1
    have hget (callId : String) : db'.openCalls.get? callId =
        if newIds.call = callId then
          some (fundedCall newIds settled quote order unit quote.totalPriceKrw amount)
        else db.openCalls.get? callId := Table.get?_insert? hinsert
    refine h.carry hkept ?_ ?_ ?_
    · intro callId
      rw [refunds, refunds, hclaims]
    · intro callId c hc
      rw [onchain_eq_some, hget] at hc
      by_cases hid : newIds.call = callId
      · rw [if_pos hid, Option.some.injEq] at hc
        obtain ⟨rfl, -⟩ := hc
        left
        refine ⟨?_, ?_⟩
        · intro hstatus
          cases hstatus
        · intro c hc
          rw [onchain_eq_some, ← hid, hfresh] at hc
          cases hc.1
      · rw [if_neg hid] at hc
        right
        refine ⟨?_, c, onchain_eq_some.mpr hc, .refl c⟩
        rw [answerPayments, answerPayments, hclaims]
    · intro callId hafter
      by_cases hid : newIds.call = callId
      · rw [← hid, onchain, hfresh]
        rfl
      · rw [onchain, hget, if_neg hid] at hafter
        exact hafter

theorem backfillEscrow_same (htotal : c.escrowTotalAtomic ≠ none)
    (hremaining : c.status = .opened → c.escrowRemainingAtomic ≠ none) :
    SameEscrow c (backfillEscrow c) := by
  refine ⟨?_, ?_, id, rfl, rfl, rfl, rfl⟩
  · refine if_neg ?_
    rintro ⟨hnone, -⟩
    exact htotal (Option.isNone_iff_eq_none.mp hnone)
  · refine if_neg ?_
    rintro ⟨hnone, hopened, -⟩
    exact hremaining hopened (Option.isNone_iff_eq_none.mp hnone)

theorem migrateCall_same (h : Kept payments c total) : SameEscrow c (migrateCall db c) := by
  have hrefilled : SameEscrow c (refillKrw c) ∧ (refillKrw c).status = c.status := by
    unfold refillKrw
    split <;> exact ⟨⟨rfl, rfl, id, rfl, rfl, rfl, rfl⟩, rfl⟩
  have horphaned : SameEscrow (refillKrw c) (cancelOrphan db (refillKrw c)) ∧
      ((cancelOrphan db (refillKrw c)).status = .opened → (refillKrw c).status = .opened) := by
    unfold cancelOrphan
    split
    · refine ⟨⟨rfl, rfl, fun _ => rfl, rfl, rfl, rfl, rfl⟩, ?_⟩
      intro hstatus
      cases hstatus
    · exact ⟨.refl _, id⟩
  have hsame := hrefilled.1.trans horphaned.1
  refine hsame.trans (backfillEscrow_same ?_ ?_)
  · rw [hsame.total, h.funded]
    exact Option.some_ne_none _
  · intro hstatus
    have hopened : c.status = .opened := hrefilled.2.symm.trans (horphaned.2 hstatus)
    rw [hsame.remaining, h.left (by rw [hopened]; intro hcancelled; cases hcancelled)]
    exact Option.some_ne_none _

theorem onchain_map {f : StoredCall → StoredCall}
    (hcalls : ∀ callId, db'.openCalls.get? callId = (db.openCalls.get? callId).map f)
    (hmode : ∀ c, (f c).escrowMode = c.escrowMode) : onchain db' callId = (onchain db callId).map f := by
  unfold onchain
  rw [hcalls, Option.filter_map]
  congr 1
  apply congrArg (fun p => Option.filter p _)
  funext c
  simp only [Function.comp, hmode]

theorem migrate_returned (h : EscrowReturned db) : EscrowReturned (migrateCalls db) := by
  have hkept := migrate_kept h.kept
  have hcalls (callId : String) : onchain (migrateCalls db) callId =
      (onchain db callId).map (migrateCall db) := by
    refine onchain_map (fun callId => ?_) migrate_mode
    simp only [migrateCalls, Table.get?_update, if_true]
  refine h.carry hkept (fun _ => rfl) ?_ ?_
  · intro callId c hc
    rw [hcalls, Option.map_eq_some_iff] at hc
    obtain ⟨c, hc, rfl⟩ := hc
    obtain ⟨total, hkept⟩ := h.kept.calls callId c hc
    exact .inr ⟨rfl, c, hc, migrateCall_same hkept⟩
  · intro callId hafter
    rw [hcalls, Option.map_eq_none_iff] at hafter
    exact hafter

-- what is claimed back when a call ends: all that is left, in at most one refund
structure Closing (c : StoredCall) (new : List Refund) : Prop where
  amount : (new.map Refund.amountAtomic).sum = c.escrowRemainingAtomic.getD 0
  once : new.length ≤ 1
  home : ∀ r ∈ new, r.Of c

theorem Returned.close {new : List Refund} (h : Returned payments [] c) (hclosing : Closing c new)
    (hheld : c.escrowRemainingAtomic ≠ none) : Returned payments new (cancelled c) := by
  obtain ⟨remaining, hremaining⟩ := Option.ne_none_iff_exists'.mp hheld
  have hbalance := h.balance
  refine ⟨?_, hclosing.once, fun _ => rfl, fun _ => ?_, fun r hr => ?_⟩
  · have hamount := hclosing.amount
    simp only [hremaining, List.map_nil, List.sum_nil, Nat.add_zero, Option.getD_some] at hbalance hamount
    simp only [cancelled, hremaining, hbalance, hamount, Option.map_some, Option.getD_some, Nat.add_zero]
  · simp only [cancelled, hremaining, Option.map_some]
  · obtain ⟨hrecipient, hescrow, hasset, hnetwork⟩ := hclosing.home r hr
    exact ⟨hrecipient, hescrow, hasset, hnetwork⟩

-- a step that ends some calls
theorem EscrowReturned.ended (h : EscrowReturned db) (hkept : EscrowKept db')
    (hclaims : ∀ callId, answerPayments db' callId = answerPayments db callId)
    (hcalls : ∀ callId c', onchain db' callId = some c' → ∃ c, onchain db callId = some c ∧
      ((c.status = .opened ∧ SameEscrow (cancelled c) c' ∧
        ∃ new, refunds db' callId = refunds db callId ++ new ∧ Closing c new) ∨
      SameEscrow c c' ∧ refunds db' callId = refunds db callId))
    (hnone : ∀ callId, onchain db' callId = none →
      onchain db callId = none ∧ refunds db' callId = refunds db callId) : EscrowReturned db' := by
  refine ⟨hkept, ?_, ?_⟩
  · intro callId c' hc'
    obtain ⟨c, hc, hcase⟩ := hcalls callId c' hc'
    have hreturned := h.calls callId c hc
    rw [hclaims]
    rcases hcase with ⟨hopened, hsame, new, hnew, hclosing⟩ | ⟨hsame, hrefunds⟩
    · have hlive : c.status ≠ .cancelled := by
        rw [hopened]
        intro hstatus
        cases hstatus
      have hbefore := hreturned.live hlive
      obtain ⟨total, hkept⟩ := h.kept.calls callId c hc
      have hheld : c.escrowRemainingAtomic ≠ none := by
        rw [hkept.left hlive]
        exact Option.some_ne_none _
      rw [hbefore] at hreturned
      rw [hnew, hbefore, List.nil_append]
      exact (hreturned.close hclosing hheld).same hsame
    · rw [hrefunds]
      exact hreturned.same hsame
  · intro callId hafter
    obtain ⟨hbefore, hrefunds⟩ := hnone callId hafter
    rw [hrefunds]
    exact h.unclaimed callId hbefore

theorem claimed_back {claim : Payout.NewClaim} (h : insertPayoutClaim app db claim = .ok db')
    (hcall : claim.openCallId = some call.id) (hearning : claim.earningEventId = none)
    (hhome : (refundOf claim).Of call) (hamount : claim.amountAtomic = call.escrowRemainingAtomic.getD 0) :
    Closing call [refundOf claim] ∧ ∀ callId, refunds db' callId =
      refunds db callId ++ if call.id = callId then [refundOf claim] else [] := by
  refine ⟨⟨?_, le_refl 1, ?_⟩, fun callId => ?_⟩
  · rw [List.map_singleton, List.sum_singleton, refundOf, hamount]
  · intro r hr
    rw [List.mem_singleton.mp hr]
    exact hhome
  · rw [insertPayoutClaim_refunds h]
    congr 1
    simp only [returns, hcall, hearning, Option.isNone_none, Bool.and_true, Option.some.injEq,
      decide_eq_true_eq]

theorem refundCall_refunds {refundId : String}
    (h : refundCall app db refundId now userId call = .ok db') : db'.openCalls = db.openCalls ∧
      (call.escrowMode ≠ .x402SolanaEscrow → ∀ callId, refunds db' callId = refunds db callId) ∧
      (call.escrowMode = .x402SolanaEscrow → ∃ new, Closing call new ∧
        ∀ callId, refunds db' callId = refunds db callId ++ if call.id = callId then new else []) := by
  unfold refundCall at h
  split at h
  · next hmode =>
    split at h
    · simp only [refundOnchain, bind_eq_ok, orReject_eq_ok] at h
      obtain ⟨_, hescrow, _, hrecipient, _, hasset, _, hnetwork, h⟩ := h
      obtain ⟨hclosing, hrefunds⟩ := claimed_back h rfl rfl ⟨hrecipient, hescrow, hasset, hnetwork⟩ rfl
      obtain ⟨t, rfl⟩ := insertPayoutClaim_frame h
      exact ⟨rfl, fun hother => absurd hmode hother, fun _ => ⟨_, hclosing, hrefunds⟩⟩
    · next hempty =>
      cases h
      refine ⟨rfl, fun hother => absurd hmode hother, fun _ => ⟨[], ⟨?_, ?_, ?_⟩, ?_⟩⟩
      · simp only [List.map_nil, List.sum_nil]
        omega
      · exact Nat.zero_le _
      · intro r hr
        cases hr
      · intro callId
        rw [ite_self, List.append_nil]
  · next hmode =>
    split at h
    · simp only [refundOpenCallPrepaid, withFunds, bind_eq_ok, pure_eq_ok] at h
      obtain ⟨key, -, amount, -, time, -, credited, -, funds, -, rfl⟩ := h
      exact ⟨rfl, fun _ _ => rfl, fun hsame => by rw [hmode] at hsame; cases hsame⟩
    · cases h
      exact ⟨rfl, fun _ _ => rfl, fun hsame => by rw [hmode] at hsame; cases hsame⟩
  · next hmode =>
    simp only [refundSandbox, bind_eq_ok, reject_eq_ok, exists_const, pure_eq_ok] at h
    obtain ⟨_, -, -, rfl⟩ := h
    exact ⟨rfl, fun _ _ => rfl, fun hsame => by rw [hmode] at hsame; cases hsame⟩

theorem cancel_returned {refundId : String} (h : EscrowReturned db)
    (hcancel : cancelOpenCall app db refundId now userId callId = .ok db') : EscrowReturned db' := by
  have hkept := cancel_kept h.kept hcancel
  simp only [cancelOpenCall, bind_eq_ok, loadCall_eq_ok, reject_eq_ok, exists_const,
    pure_eq_ok] at hcancel
  obtain ⟨call, hcall, -, hopened, refunded, hrefund, rfl⟩ := hcancel
  obtain ⟨hcalls, hother, hback⟩ := refundCall_refunds hrefund
  obtain ⟨-, -, hpayments⟩ := refundCall_effect hrefund
  have hid := call_key hcall
  subst hid
  have hget (openCallId : String) : (refunded.openCalls.put (cancelled call)).get? openCallId =
      if call.id = openCallId then some (cancelled call) else db.openCalls.get? openCallId := by
    rw [hcalls]
    exact Table.get?_put
  have hrefunds (openCallId : String) (hne : call.id ≠ openCallId) :
      refunds refunded openCallId = refunds db openCallId := by
    by_cases hmode : call.escrowMode = .x402SolanaEscrow
    · obtain ⟨new, -, hnew⟩ := hback hmode
      rw [hnew, if_neg hne, List.append_nil]
    · exact hother hmode openCallId
  refine h.ended hkept hpayments ?_ ?_
  · intro openCallId c' hc'
    rw [onchain_eq_some] at hc'
    change (refunded.openCalls.put (cancelled call)).get? openCallId = _ ∧ _ at hc'
    rw [hget] at hc'
    by_cases hid : call.id = openCallId
    · rw [if_pos hid, Option.some.injEq] at hc'
      obtain ⟨rfl, hmode⟩ := hc'
      obtain ⟨new, hclosing, hnew⟩ := hback hmode
      have hnew := hnew openCallId
      rw [if_pos hid] at hnew
      rw [hid] at hcall
      exact ⟨call, onchain_eq_some.mpr ⟨hcall, hmode⟩,
        .inl ⟨not_not.mp hopened, .refl _, new, hnew, hclosing⟩⟩
    · rw [if_neg hid] at hc'
      exact ⟨c', onchain_eq_some.mpr hc', .inr ⟨.refl c', hrefunds openCallId hid⟩⟩
  · intro openCallId hafter
    rw [onchain] at hafter
    change ((refunded.openCalls.put (cancelled call)).get? openCallId).filter _ = none at hafter
    rw [hget] at hafter
    by_cases hid : call.id = openCallId
    · rw [if_pos hid] at hafter
      have hmode : call.escrowMode ≠ .x402SolanaEscrow := by
        intro hmode
        simp [cancelled, hmode] at hafter
      refine ⟨?_, hother hmode openCallId⟩
      rw [onchain, ← hid, hcall]
      simp [hmode]
    · rw [if_neg hid] at hafter
      exact ⟨hafter, hrefunds openCallId hid⟩

theorem refundAll_refunds {refundIds : String → String} {calls : List StoredCall}
    (hdistinct : (calls.map fun c : StoredCall => c.id).Nodup)
    (h : refundAll app now userId refundIds db calls = .ok db') :
    ∃ new, refunds db' callId = refunds db callId ++ new ∧
      ((∀ c ∈ calls, c.id ≠ callId) → new = []) ∧ ∀ c ∈ calls, c.id = callId → Closing c new := by
  induction calls generalizing db with
  | nil =>
    cases h
    exact ⟨[], (List.append_nil _).symm, fun _ => rfl, fun c hc => absurd hc List.not_mem_nil⟩
  | cons call rest ih =>
    rw [List.map_cons, List.nodup_cons] at hdistinct
    simp only [refundAll, refundOnDeletion, bind_eq_ok, orReject_eq_ok] at h
    obtain ⟨refunded, ⟨_, hescrow, _, hrecipient, _, hasset, _, hnetwork, hclaim⟩, h⟩ := h
    obtain ⟨hclosing, hrefunds⟩ := claimed_back hclaim rfl rfl ⟨hrecipient, hescrow, hasset, hnetwork⟩ rfl
    obtain ⟨new, hnew, hnone, hsome⟩ := ih hdistinct.2 h
    have hhead := hrefunds callId
    by_cases hid : call.id = callId
    · have hrest : ∀ c ∈ rest, c.id ≠ callId := by
        intro c hc hsame
        exact hdistinct.1 (List.mem_map.mpr ⟨c, hc, hsame.trans hid.symm⟩)
      rw [hnone hrest, List.append_nil, hhead, if_pos hid] at hnew
      refine ⟨_, hnew, fun hother => absurd hid (hother call List.mem_cons_self), ?_⟩
      intro c hc hsame
      rcases List.mem_cons.mp hc with rfl | hc
      · exact hclosing
      · exact absurd hsame (hrest c hc)
    · rw [if_neg hid, List.append_nil] at hhead
      refine ⟨new, ?_, fun hother => hnone fun c hc => hother c (List.mem_cons_of_mem _ hc), ?_⟩
      · rw [hnew, hhead]
      · intro c hc hsame
        rcases List.mem_cons.mp hc with rfl | hc
        · exact absurd hsame hid
        · exact hsome c hc hsame

theorem disown_refunds {anonymous : String} :
    refunds (disown db userId anonymous) callId = refunds db callId := by
  simp only [refunds, disown, Table.update, List.filter_map, List.map_map]
  have hreturns : (returns callId ∘ fun c : Payout.NewClaim =>
      if decide (c.beneficiaryUserId = userId) then { c with beneficiaryUserId := anonymous } else c) =
      returns callId := by
    funext c
    simp only [Function.comp]
    split <;> rfl
  rw [hreturns]
  apply List.map_congr_left
  intro c _
  simp only [Function.comp]
  split <;> rfl

def ended (userId : String) (c : StoredCall) : StoredCall :=
  if decide (c.ownerId = userId ∧ c.status = .opened) then cancelled c else c

def disowned (userId anonymous : String) (c : StoredCall) : StoredCall :=
  if decide (c.ownerId = userId) then { c with ownerId := anonymous } else c

theorem disowned_same {anonymous : String} : SameEscrow c (disowned userId anonymous c) := by
  unfold disowned
  split <;> exact ⟨rfl, rfl, id, rfl, rfl, rfl, rfl⟩

theorem ended_of (h : c.ownerId = userId ∧ c.status = .opened) : ended userId c = cancelled c :=
  if_pos (decide_eq_true h)

theorem ended_other (h : ¬(c.ownerId = userId ∧ c.status = .opened)) : ended userId c = c :=
  if_neg (by simpa using h)

theorem closed_mode {anonymous : String} :
    (disowned userId anonymous (ended userId c)).escrowMode = c.escrowMode := by
  have hended : (ended userId c).escrowMode = c.escrowMode := by
    unfold ended
    split <;> rfl
  rw [← hended]
  unfold disowned
  split <;> rfl

theorem close_returned {anonymous : String} {refundIds : String → String} (h : EscrowReturned db)
    (hclose : closeCalls app db now userId anonymous refundIds = .ok db') : EscrowReturned db' := by
  have hkept := close_kept h.kept hclose
  simp only [closeCalls, bind_eq_ok, pure_eq_ok] at hclose
  obtain ⟨refunded, hrefund, rfl⟩ := hclose
  obtain ⟨hcalls, -, hpayments⟩ := refundAll_effect hrefund
  have hdistinct : ((db.openCalls.rows.filter (refundedOnDeletion userId)).map
      fun c : StoredCall => c.id).Nodup := db.openCalls.nodup.sublist (List.filter_sublist.map _)
  have hclosed (callId : String) : onchain (disown (forgetQuotes (cancelCalls refunded userId) userId
      anonymous) userId anonymous) callId =
        (onchain db callId).map (disowned userId anonymous ∘ ended userId) := by
    refine onchain_map (fun callId => ?_) fun c => closed_mode
    have hcancelled : (cancelCalls refunded userId).openCalls.get? callId =
        (db.openCalls.get? callId).map (ended userId) := by
      rw [← hcalls]
      exact @Table.get?_update _ _ _ refunded.openCalls callId _ cancelled (fun _ => rfl) _
    rw [← Option.map_map, ← hcancelled]
    exact @Table.get?_update _ _ _ (cancelCalls refunded userId).openCalls callId _
      (fun c => { c with ownerId := anonymous }) (fun _ => rfl) _
  have hrefunds (callId : String) : refunds (disown (forgetQuotes (cancelCalls refunded userId) userId
      anonymous) userId anonymous) callId = refunds refunded callId := disown_refunds
  refine h.ended hkept (fun callId => disown_payments.trans (hpayments callId)) ?_ ?_
  · intro callId c' hc'
    rw [hclosed, Option.map_eq_some_iff] at hc'
    obtain ⟨c, hc, rfl⟩ := hc'
    obtain ⟨hget, hmode⟩ := onchain_eq_some.mp hc
    obtain ⟨new, hnew, hnone, hsome⟩ := @refundAll_refunds _ _ _ _ callId _ _ _ hdistinct hrefund
    have hunique (other : StoredCall) (hother : other ∈ db.openCalls.rows) (hid : other.id = callId) :
        other = c :=
      Option.some.inj ((@Table.get?_eq_some _ _ (fun c : StoredCall => c.id) _ _ _ _).mpr ⟨hother, hid⟩
        |>.symm.trans hget)
    refine ⟨c, hc, ?_⟩
    rw [hrefunds]
    by_cases hends : c.ownerId = userId ∧ c.status = .opened
    · rw [Function.comp_apply, ended_of hends]
      refine .inl ⟨hends.2, disowned_same, new, hnew, ?_⟩
      by_cases hheld : 0 < c.escrowRemainingAtomic.getD 0
      · apply hsome c _ (call_key hget)
        rw [List.mem_filter]
        exact ⟨Table.get?_mem hget, decide_eq_true ⟨hends.1, hends.2, hmode, hheld⟩⟩
      · have hempty : new = [] := by
          apply hnone
          intro other hother hid
          obtain ⟨hrow, hrefunded⟩ := List.mem_filter.mp hother
          rw [hunique other hrow hid] at hrefunded
          exact hheld (of_decide_eq_true hrefunded).2.2.2
        rw [hempty]
        refine ⟨?_, Nat.zero_le _, fun r hr => absurd hr List.not_mem_nil⟩
        rw [List.map_nil, List.sum_nil]
        omega
    · rw [Function.comp_apply, ended_other hends]
      refine .inr ⟨disowned_same, ?_⟩
      rw [hnew, hnone, List.append_nil]
      intro other hother hid
      obtain ⟨hrow, hrefunded⟩ := List.mem_filter.mp hother
      rw [hunique other hrow hid] at hrefunded
      obtain ⟨howner, hopened, -⟩ := of_decide_eq_true hrefunded
      exact hends ⟨howner, hopened⟩
  · intro callId hafter
    rw [hclosed, Option.map_eq_none_iff] at hafter
    obtain ⟨new, hnew, hnone, -⟩ := @refundAll_refunds _ _ _ _ callId _ _ _ hdistinct hrefund
    refine ⟨hafter, ?_⟩
    rw [hrefunds, hnew, hnone, List.append_nil]
    intro other hother hid
    obtain ⟨hrow, hrefunded⟩ := List.mem_filter.mp hother
    have hget := (@Table.get?_eq_some _ _ (fun c : StoredCall => c.id) _ _ _ _).mpr ⟨hrow, hid⟩
    have hsome : onchain db callId = some other :=
      onchain_eq_some.mpr ⟨hget, (of_decide_eq_true hrefunded).2.2.1⟩
    rw [hafter] at hsome
    cases hsome

end Owners

section Runs

-- the other operations claim nothing back either
structure Apart (db db' : Database) : Prop where
  elsewhere : Elsewhere db db'
  refunds : ∀ callId, refunds db' callId = refunds db callId

inductive Turn (app : Appraisal) (ext : Externals) (db : Database) : Option Event → Database → Prop
  | ok {e : Event} {db' : Database} : execute app ext db e = .ok db' → Turn app ext db (some e) db'
  | error {e : Event} {error : StoreError} : execute app ext db e = .error error →
      Turn app ext db (some e) db
  | apart {db' : Database} : Apart db db' → Turn app ext db none db'

theorem apart_returned (h : EscrowReturned db) (hapart : Apart db db') : EscrowReturned db' := by
  have hcalls := hapart.elsewhere.calls
  refine h.carry (elsewhere_kept h.kept hapart.elsewhere) hapart.refunds ?_ ?_
  · intro callId c hc
    rw [hcalls] at hc
    exact .inr ⟨hapart.elsewhere.claims callId, c, hc, .refl c⟩
  · intro callId hafter
    rw [← hcalls]
    exact hafter

theorem turn_returned {e : Option Event} (h : EscrowReturned db) (hturn : Turn app ext db e db') :
    EscrowReturned db' := by
  cases hturn with
  | error _ => exact h
  | apart hapart => exact apart_returned h hapart
  | ok hexecute =>
    unfold execute at hexecute
    split at hexecute
    · exact quote_returned h hexecute
    · exact fund_returned h hexecute
    · exact answer_returned h hexecute
    · unfold runCallAgents at hexecute
      split at hexecute
      · cases hexecute
        exact h
      · exact pass_returned h hexecute
    · exact review_returned h hexecute
    · exact cancel_returned h hexecute
    · exact close_returned h hexecute
    · cases hexecute
      exact migrate_returned h

theorem Opening.returned (h : Opening db) : EscrowReturned db := by
  have hnone (callId : String) : refunds db callId = [] := by
    simp [refunds, h.claims]
  refine ⟨h.kept, ?_, fun callId _ => hnone callId⟩
  intro callId c hc
  simp [onchain, Table.get?, h.calls] at hc

theorem escrow_returned {events : List (Option Event)} (hstart : Opening start)
    (hrun : Trace (Turn app ext) start events db) :
    (∀ callId c, onchain db callId = some c →
      Returned (answerPayments db callId) (refunds db callId) c) ∧
    ∀ callId, onchain db callId = none → answerPayments db callId = [] ∧ refunds db callId = [] := by
  have hreturned : EscrowReturned db :=
    hrun.invariant hstart.returned fun _ _ _ => turn_returned
  exact ⟨hreturned.calls, fun callId hnone =>
    ⟨hreturned.kept.unclaimed callId hnone, hreturned.unclaimed callId hnone⟩⟩

end Runs

section Sample

def treasury : String := "EPjFWdd5AufqSSqeM2qN1xzybapC8G4wEGGkZwyTDt1v"

def returnedOrder : OpenCallRequest where
  question := "Where do you eat?"
  unitPrice := 1350
  target := 2
  shelf := "lunch"
  category := "food"
  filters := ⟨none, none, none, none, none, none⟩

def returnedPolicy : PaymentQuotePolicy where
  network := "solana"
  asset := "USDC"
  krwPerUsdc := 1350
  ttlMs := 600000
  fallbackRecipient := none
  bundleRecipient := some treasury

def returnedAttemptId : String := String.ofList (List.replicate 64 'a')

def returnedAttempt : PaymentAttempt where
  settlementKind := .openCall
  quoteId := "quote"
  attemptId := returnedAttemptId
  payerWallet := none
  signedTransactionBase64 := none
  recentBlockhash := none
  absenceObservedAt := none
  legacyEvidence := true
  reconcileAfter := 900000
  createdAt := 1000

def returnedPayment : RecordChainSettlementRequest where
  quoteId := "quote"
  attemptId := some returnedAttemptId
  transactionSignature := String.ofList (List.replicate 88 '5')
  payer := treasury
  payTo := treasury
  amountAtomic := "2000000"
  network := "solana"
  rawResponseJson := "null"

def returnedExternals : Externals where
  encoding := .standard
  hexDigest text := text

theorem treasury_valid : validSolanaAddress .standard treasury = true := by decide

theorem returnedOrder_valid : validateOpenCall returnedOrder = .ok () := rfl


def returnedQuote : FundingQuote where
  id := "quote"
  ownerId := "owner"
  request := some returnedOrder
  payTo := treasury
  network := "solana"
  asset := "USDC"
  amountAtomic := 2000000
  totalPriceKrw := 2700
  expiresAt := 601000
  status := .quoted
  openCallId := none
  payerWallet := none
  settledAt := none

def quotedDesk : Database :=
  Database.empty { emptyFunds with fundingQuotes := ⟨[returnedQuote], by simp⟩ }

def stakedDesk : Database :=
  { quotedDesk with
    funds := { quotedDesk.funds with paymentAttempts := ⟨[returnedAttempt], by simp⟩ } }

theorem stakedDesk_apart : Apart quotedDesk stakedDesk :=
  ⟨⟨fun _ => rfl, fun _ => rfl, fun q hq => ⟨q, hq, rfl, rfl⟩⟩, fun _ => rfl⟩

theorem returned_quoted : execute sampleAppraisal returnedExternals (Database.empty emptyFunds)
    ⟨1000, 1000, .quote "quote" "owner" returnedOrder returnedPolicy fun _ => false⟩ = .ok quotedDesk := by
  have htrim : trim treasury = treasury := by decide
  have hrecipient : escrowRecipient returnedExternals returnedPolicy = .ok treasury := by
    simp only [escrowRecipient, returnedPolicy, returnedExternals, Option.filter, htrim, treasury_valid]
    rfl
  have hprice : krwToUsdcAtomic 2700 1350 = .ok 2000000 := by decide
  have htotal : returnedOrder.unitPrice * returnedOrder.target = 2700 := rfl
  have hpolicy : validatePaymentPolicy returnedPolicy = .ok () := rfl
  have hkrw : returnedPolicy.krwPerUsdc = 1350 := rfl
  simp only [execute, createOpenCallFundingQuote, returnedOrder_valid, hrecipient, hpolicy, htotal,
    hkrw, hprice, ok_bind]
  rfl

theorem returnedPayment_amount : settlementAmount returnedExternals returnedPayment = .ok 2000000 := by
  have htrim : trim treasury = treasury := by decide
  have hsignature : trim returnedPayment.transactionSignature = returnedPayment.transactionSignature :=
    trim_ofList (by decide)
  have hvalid : validateChainSettlementRequest returnedExternals returnedPayment = .ok () := by
    refine validateChainSettlementRequest_ok hsignature htrim htrim ?_ ?_ treasury_valid treasury_valid
    · decide
    · decide
  simp only [settlementAmount, hvalid, ok_bind]
  rfl

set_option maxRecDepth 4000 in
theorem returned_funded : ∃ funded closed,
    execute sampleAppraisal returnedExternals stakedDesk
      ⟨2000, 2000, .fund ⟨"s", "chain", "e", "call", "d", "r"⟩ returnedPayment⟩ = .ok funded ∧
    execute sampleAppraisal returnedExternals funded
      ⟨3000, 3000, .cancel "refund" "owner" "call"⟩ = .ok closed ∧
    refunds closed "call" = [⟨treasury, treasury, "USDC", "solana", 2000000⟩] ∧
    (onchain closed "call").isSome = true := by
  have hsignature : trim returnedPayment.transactionSignature = returnedPayment.transactionSignature :=
    trim_ofList (by decide)
  have hverified : verifyChainPaymentAttempt returnedExternals stakedDesk.funds .openCall "quote"
      returnedPayment.attemptId true = .ok none := by
    have hchecked : checkAttemptId returnedPayment.attemptId = .ok () := by decide
    simp only [verifyChainPaymentAttempt, hchecked, ok_bind]
    decide
  have hquote : trim returnedPayment.quoteId = "quote" := by decide
  have hpayTo : trim returnedPayment.payTo = treasury := by decide
  have hpayer : trim returnedPayment.payer = treasury := hpayTo
  have hnetwork : trim returnedPayment.network = "solana" := by decide
  simp only [execute, recordOpenCallChainSettlement, returnedPayment_amount, ok_bind, settleOpenCall,
    hquote, hverified, hsignature, hpayTo, hnetwork, fundedCall, chainRow, fundQuote, hpayer,
    insertFundedCall]
  exact ⟨_, _, rfl, rfl, rfl, rfl⟩

theorem escrow_returned_sample : ∃ db events c,
    Trace (Turn sampleAppraisal returnedExternals) (Database.empty emptyFunds) events db ∧
      onchain db "call" = some c ∧ Returned (answerPayments db "call") (refunds db "call") c ∧
        refunds db "call" = [⟨treasury, treasury, "USDC", "solana", 2000000⟩] := by
  obtain ⟨funded, closed, hfund, hcancel, hrefunds, hsome⟩ := returned_funded
  obtain ⟨c, hc⟩ := Option.isSome_iff_exists.mp hsome
  have hrun := Trace.snoc (.snoc (.snoc (.snoc .nil (Turn.ok returned_quoted))
    (Turn.apart stakedDesk_apart)) (Turn.ok hfund)) (Turn.ok hcancel)
  have hstart : Opening (Database.empty emptyFunds) := ⟨rfl, rfl, rfl⟩
  exact ⟨closed, _, c, hrun, hc, (escrow_returned hstart hrun).1 "call" c hc, hrefunds⟩

end Sample

end Obulus.Calls.Funding
