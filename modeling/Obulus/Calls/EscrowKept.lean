import Obulus.Calls.Funding
import Obulus.Calls.Slots
import Obulus.Foundation.Shares
import Obulus.Funds.Received

namespace Obulus.Calls.Funding

open Foundation Store Funds

variable {app : Appraisal} {ext : Externals} {db db' mid start : Database} {call c : StoredCall}
  {ids : AnswerIds} {reflections : List Reflection} {request : AnswerRequest}
  {payout : Option OnchainPayout} {interview : List InterviewResponse} {now createdAt total : Nat}
  {callId userId : String} {remaining : Option Nat} {payments : List Nat} {events : List (Option Event)}

section Invariant

-- a funded call, and what has been paid for its answers
structure Kept (payments : List Nat) (c : StoredCall) (total : Nat) : Prop where
  funded : c.escrowTotalAtomic = some total
  positive : 0 < c.target
  within : c.answered ≤ c.target
  paid : payments = evenShares total c.target c.answered
  left : c.status ≠ .cancelled →
    c.escrowRemainingAtomic = some (evenRest total c.target c.answered).sum
  krw : c.status ≠ .cancelled → c.escrowRemainingKrw = c.unitPriceKrw * (c.target - c.answered)
  room : c.status = .opened → c.answered < c.target
  full : c.status = .filled → c.answered = c.target

structure EscrowKept (db : Database) : Prop where
  calls : ∀ callId c, onchain db callId = some c → ∃ total, Kept (answerPayments db callId) c total
  unclaimed : ∀ callId, onchain db callId = none → answerPayments db callId = []
  quotes : ∀ q ∈ db.funds.fundingQuotes.rows, ∀ r, q.request = some r →
    q.totalPriceKrw = r.unitPrice * r.target

theorem onchain_eq_some : onchain db callId = some c ↔
    db.openCalls.get? callId = some c ∧ c.escrowMode = .x402SolanaEscrow := by
  simp [onchain, Option.filter_eq_some_iff]

-- a call takes its next answer
theorem Kept.draw (h : Kept payments c total) (htakes : takesAnswers c = true) :
    Kept (payments ++ [evenShare total c.target c.answered])
      (counted c (c.escrowRemainingAtomic.map fun r => r - evenShare total c.target c.answered))
      total := by
  obtain ⟨hopened, hroom⟩ := takesAnswers_iff.mp htakes
  have hlive : c.status ≠ .cancelled := by
    rw [hopened]
    intro hstatus
    cases hstatus
  have hleft := h.left hlive
  rw [evenRest_succ hroom, List.sum_cons] at hleft
  have hkrw := h.krw hlive
  obtain ⟨slots, hslots⟩ : ∃ slots, c.target - c.answered = slots + 1 :=
    ⟨c.target - c.answered - 1, by omega⟩
  refine ⟨h.funded, h.positive, hroom, ?_, fun _ => ?_, fun _ => ?_, ?_, ?_⟩
  · rw [h.paid]
    exact evenShares_succ.symm
  · simp only [counted, hleft, Option.map_some, Option.some.injEq]
    omega
  · have hnext : c.target - (c.answered + 1) = slots := by omega
    simp only [counted, hkrw, hslots, hnext, Nat.mul_succ, Nat.add_sub_cancel]
  · simp only [counted]
    split
    · intro hstatus
      cases hstatus
    · intro _
      omega
  · simp only [counted]
    split
    · intro _
      omega
    · rw [hopened]
      intro hstatus
      cases hstatus

theorem Kept.cancel (h : Kept payments c total) : Kept payments (cancelled c) total :=
  ⟨h.funded, h.positive, h.within, h.paid, fun hlive => absurd rfl hlive, fun hlive => absurd rfl hlive,
    nofun, nofun⟩

theorem Kept.answerAtomic (h : Kept payments c total) (htakes : takesAnswers c = true)
    (hfunded : c.target ≤ total) :
    openCallAnswerAtomic c = .ok (evenShare total c.target c.answered) := by
  obtain ⟨hopened, hroom⟩ := takesAnswers_iff.mp htakes
  have hleft := h.left (by rw [hopened]; exact nofun)
  have hpositive := h.positive
  have hshare := @evenShare_pos total c.target c.answered hpositive hfunded
  rw [evenRest_succ hroom, List.sum_cons] at hleft
  simp only [openCallAnswerAtomic, bind_eq_ok, orReject_eq_ok, reject_eq_ok, exists_const, pure_eq_ok]
  refine ⟨total, h.funded, by omega, ?_, rfl⟩
  rw [hleft]
  simp only [evenShare] at hshare ⊢
  simp only [Option.all_some, decide_eq_true_eq]
  omega

theorem answerAtomic_eq {amount : Nat} (h : Kept payments c total)
    (hamount : openCallAnswerAtomic c = .ok amount) : amount = evenShare total c.target c.answered := by
  simp only [openCallAnswerAtomic, bind_eq_ok, orReject_eq_ok, reject_eq_ok, exists_const,
    pure_eq_ok] at hamount
  obtain ⟨total', htotal, -, -, rfl⟩ := hamount
  rw [h.funded, Option.some.injEq] at htotal
  rw [htotal]
  rfl

end Invariant

section Answers

-- what is owed for an answer: the share of a funded call, and nothing on chain for another
structure Owed (call : StoredCall) (payout : Option OnchainPayout) : Prop where
  onchain : call.escrowMode = .x402SolanaEscrow →
    ∃ p, payout = some p ∧ openCallAnswerAtomic call = .ok p.payoutAtomic
  other : call.escrowMode ≠ .x402SolanaEscrow → payout = none

theorem onchainPayout_owed {profile : UserProfile} {error : StoreError}
    (h : onchainPayout app call profile error = .ok payout) : Owed call payout := by
  unfold onchainPayout at h
  split at h
  · next hmode =>
    simp only [bind_eq_ok, pure_eq_ok] at h
    obtain ⟨_, -, amount, hamount, rfl⟩ := h
    exact ⟨fun _ => ⟨_, rfl, hamount⟩, fun hother => absurd hmode hother⟩
  · next hmode =>
    cases h
    exact ⟨fun hsame => absurd hsame hmode, fun _ => rfl⟩

theorem matchPayout_owed {profile : UserProfile}
    (h : matchPayout app call profile = .ok (some payout)) : Owed call payout := by
  unfold matchPayout at h
  split at h
  · next hmode =>
    split at h
    · cases h
    · simp only [bind_eq_ok, pure_eq_ok, Option.some.injEq] at h
      obtain ⟨amount, hamount, rfl⟩ := h
      exact ⟨fun _ => ⟨_, rfl, hamount⟩, fun hother => absurd hmode hother⟩
  · next hmode =>
    cases h
    exact ⟨fun hsame => absurd hsame hmode, fun _ => rfl⟩

-- one answer is counted and its claim, if any, is made
structure Answered (db db' : Database) (call : StoredCall) (payout : Option OnchainPayout) : Prop where
  held : db.openCalls.get? call.id = some call
  takes : takesAnswers call = true
  calls : ∃ remaining, db'.openCalls = db.openCalls.put (counted call remaining) ∧
    ∀ p, payout = some p → remaining = call.escrowRemainingAtomic.map fun r => r - p.payoutAtomic
  claims : ∀ callId, answerPayments db' callId = answerPayments db callId ++
    if call.id = callId then (payout.map OnchainPayout.payoutAtomic).toList else []
  quotes : db'.funds.fundingQuotes = db.funds.fundingQuotes

theorem drawEscrow_effect {errors : DrawErrors} (h : drawEscrow db call errors payout = .ok db')
    (hget : db.openCalls.get? call.id = some call) :
    takesAnswers call = true ∧ ∃ remaining,
      { db with openCalls := db.openCalls.put (counted call remaining) } = db' ∧
      ∀ p, payout = some p → remaining = call.escrowRemainingAtomic.map fun r => r - p.payoutAtomic := by
  cases payout with
  | some payout =>
    simp only [drawEscrow, drawOnchain, bind_eq_ok, asI64_eq_ok, orReject_eq_ok,
      Option.filter_eq_some_iff, Bool.and_eq_true, pure_eq_ok] at h
    obtain ⟨amount, ⟨-, rfl⟩, row, ⟨hrow, ⟨hopen, -⟩, -⟩, rfl⟩ := h
    obtain rfl : call = row := Option.some.inj (hget.symm.trans hrow)
    refine ⟨hopen, _, rfl, ?_⟩
    rintro p ⟨⟩
    rfl
  | none =>
    simp only [drawEscrow, drawPrepaid, bind_eq_ok, orReject_eq_ok, Option.filter_eq_some_iff,
      Bool.and_eq_true, pure_eq_ok] at h
    obtain ⟨_, -, _, -, row, ⟨hrow, hopen, -⟩, rfl⟩ := h
    obtain rfl : call = row := Option.some.inj (hget.symm.trans hrow)
    refine ⟨hopen, _, rfl, ?_⟩
    rintro p ⟨⟩

theorem insertPayoutClaim_rows {claim : Payout.NewClaim}
    (h : insertPayoutClaim app db claim = .ok db') :
    ∃ t, { db with payoutClaims := t } = db' ∧ t.rows = db.payoutClaims.rows ++ [claim] := by
  simp only [insertPayoutClaim, bind_eq_ok, reject_eq_ok, orReject_eq_ok, asI64_eq_ok, exists_const,
    pure_eq_ok] at h
  obtain ⟨-, -, _, ⟨-, hamount⟩, _, ⟨-, hkrw⟩, _, ⟨-, hcreated⟩, -, t, ht, rfl⟩ := h
  refine ⟨t, rfl, ?_⟩
  rw [(Table.insert?_eq_some.mp ht).2, hamount, hkrw, hcreated]

theorem insertPayoutClaim_payments {claim : Payout.NewClaim}
    (h : insertPayoutClaim app db claim = .ok db') : answerPayments db' callId =
      answerPayments db callId ++ if answers callId claim then [claim.amountAtomic] else [] := by
  obtain ⟨t, rfl, hrows⟩ := insertPayoutClaim_rows h
  simp only [answerPayments, hrows, List.filter_append, List.map_append, List.filter_singleton]
  cases answers callId claim <;> rfl

theorem payAnswer_effect {memoryId documentId source kind : String} {amountKrw : Nat}
    (h : payAnswer app db call ids payout userId memoryId documentId source kind amountKrw now =
      .ok db') :
    db'.openCalls = db.openCalls ∧ db'.funds = db.funds ∧
      ∀ callId, answerPayments db' callId = answerPayments db callId ++
        if call.id = callId then (payout.map OnchainPayout.payoutAtomic).toList else [] := by
  obtain ⟨e, hframe, -⟩ := payAnswer_frame h
  have hcalls : db'.openCalls = db.openCalls := by rw [← hframe.frame]
  have hfunds : db'.funds = db.funds := by rw [← hframe.frame]
  refine ⟨hcalls, hfunds, fun callId => ?_⟩
  unfold payAnswer at h
  cases payout with
  | none =>
    simp only [insertEarningEvent, bind_eq_ok, insertEarning_eq_ok, accrue, reject_eq_ok,
      exists_const, pure_eq_ok] at h
    obtain ⟨_, -, _, -, _, -, _, -, _, ⟨t, ht, rfl⟩, -, rfl⟩ := h
    simp [answerPayments]
  | some payout =>
    simp only [insertOpenCallOnchainEarningEvent, insertOutsideEarning, bind_eq_ok,
      insertEarning_eq_ok, orReject_eq_ok] at h
    obtain ⟨_, ⟨_, -, _, -, _, -, _, -, t, ht, rfl⟩, _, -, _, -, _, -, hclaim⟩ := h
    rw [insertPayoutClaim_payments hclaim]
    congr 1
    simp [answers]

-- the rows that tell what a funded call has and has paid
structure SameCalls (db db' : Database) : Prop where
  calls : db'.openCalls = db.openCalls
  claims : db'.payoutClaims = db.payoutClaims
  quotes : db'.funds.fundingQuotes = db.funds.fundingQuotes

theorem SameCalls.samePayments (h : SameCalls db db') : answerPayments db' callId = answerPayments db callId := by
  rw [answerPayments, answerPayments, h.claims]

theorem EscrowKept.frame (h : EscrowKept db) (hsame : SameCalls db db') : EscrowKept db' := by
  obtain ⟨h₁, h₂, h₃⟩ := h
  refine ⟨?_, ?_, ?_⟩
  · simpa only [onchain, hsame.samePayments, hsame.calls] using h₁
  · simpa only [onchain, hsame.samePayments, hsame.calls] using h₂
  · rw [hsame.quotes]
    exact h₃

theorem Answered.before (h : Answered mid db' call payout) (hsame : SameCalls db mid) :
    Answered db db' call payout := by
  obtain ⟨hget, htakes, hput, hpayments, hquotes⟩ := h
  rw [hsame.calls] at hget hput
  rw [hsame.quotes] at hquotes
  refine ⟨hget, htakes, hput, fun callId => ?_, hquotes⟩
  rw [hpayments, hsame.samePayments]

theorem Answered.after (h : Answered db mid call payout) (hsame : SameCalls mid db') :
    Answered db db' call payout := by
  obtain ⟨hget, htakes, hput, hpayments, hquotes⟩ := h
  rw [← hsame.calls] at hput
  rw [← hsame.quotes] at hquotes
  refine ⟨hget, htakes, hput, fun callId => ?_, hquotes⟩
  rw [hsame.samePayments, hpayments]

-- an answer that draws on the escrow and is paid
theorem answered_of {errors : DrawErrors} {paid : Database}
    {memoryId documentId source kind : String} {amountKrw : Nat}
    (hget : db.openCalls.get? call.id = some call)
    (hdraw : drawEscrow db call errors payout = .ok mid) (hsame : SameCalls mid db')
    (hpay : payAnswer app db' call ids payout userId memoryId documentId source kind amountKrw now =
      .ok paid) : Answered db paid call payout := by
  obtain ⟨htakes, remaining, hmid, hremaining⟩ := drawEscrow_effect hdraw hget
  obtain ⟨hpaidCalls, hpaidFunds, hpayments⟩ := payAnswer_effect hpay
  have hdrawn : answerPayments mid = answerPayments db := by
    rw [← hmid]
    rfl
  refine ⟨hget, htakes, ⟨remaining, ?_, hremaining⟩, fun callId => ?_, ?_⟩
  · rw [hpaidCalls, hsame.calls, ← hmid]
  · rw [hpayments callId, hsame.samePayments, hdrawn]
  · rw [hpaidFunds, hsame.quotes, ← hmid]

theorem closeIfFilled_same : SameCalls db (closeIfFilled db call) := by
  unfold closeIfFilled
  split <;> exact ⟨rfl, rfl, rfl⟩

theorem accept_answered
    (h : acceptAnswer app db ids reflections createdAt request call payout interview = .ok db')
    (hget : db.openCalls.get? call.id = some call) : Answered db db' call payout := by
  simp only [acceptAnswer, bind_eq_ok, asI64_eq_ok, reject_eq_ok, exists_const, insertMemory_eq_ok,
    pure_eq_ok] at h
  obtain ⟨_, -, time, -, -, drawn, hdraw, _, ⟨t, -, rfl⟩, _, hreflections, paid, hpay, rfl⟩ := h
  obtain ⟨t', rfl, -⟩ := insertReflections_effect hreflections
  obtain ⟨documents, hdocuments⟩ := @insertDocument_frame db (answerDocument app ids time request call)
  rw [← hdocuments] at hdraw
  have hget' : ({ db with documents := documents } : Database).openCalls.get? call.id = some call := hget
  have hremembered : SameCalls drawn { drawn with memoryEntries := t' } := ⟨rfl, rfl, rfl⟩
  have hanswered := answered_of hget' hdraw hremembered hpay
  have hpublished : SameCalls db { db with documents := documents } := ⟨rfl, rfl, rfl⟩
  exact (hanswered.before hpublished).after closeIfFilled_same

end Answers

section Steps

theorem Kept.congr {c' : StoredCall} (h : Kept payments c total)
    (howner : { c with ownerId := c'.ownerId } = c') : Kept payments c' total := by
  rw [← howner]
  exact ⟨h.funded, h.positive, h.within, h.paid, h.left, h.krw, h.room, h.full⟩

theorem EscrowKept.answered (h : EscrowKept db) (hanswered : Answered db db' call payout)
    (howed : Owed call payout) : EscrowKept db' := by
  obtain ⟨hget, htakes, ⟨remaining, hput, hremaining⟩, hpayments, hquotes⟩ := hanswered
  have hcalls (callId : String) : db'.openCalls.get? callId =
      if call.id = callId then some (counted call remaining) else db.openCalls.get? callId := by
    rw [hput]
    exact Table.get?_put
  have hother (callId : String) (hne : call.id ≠ callId) : onchain db' callId = onchain db callId ∧
      answerPayments db' callId = answerPayments db callId := by
    refine ⟨?_, ?_⟩
    · rw [onchain, onchain, hcalls, if_neg hne]
    · rw [hpayments, if_neg hne, List.append_nil]
  refine ⟨?_, ?_, by rw [hquotes]; exact h.quotes⟩
  · intro callId c hc
    by_cases hid : call.id = callId
    · subst hid
      rw [onchain_eq_some, hcalls, if_pos rfl, Option.some.injEq] at hc
      obtain ⟨rfl, hmode⟩ := hc
      obtain ⟨p, rfl, hamount⟩ := howed.onchain hmode
      obtain ⟨total, hkept⟩ := h.calls call.id call (onchain_eq_some.mpr ⟨hget, hmode⟩)
      refine ⟨total, ?_⟩
      have hnext := hkept.draw htakes
      rw [← answerAtomic_eq hkept hamount] at hnext
      rw [hpayments, if_pos rfl, hremaining p rfl]
      exact hnext
    · obtain ⟨hsame, hpaid⟩ := hother callId hid
      rw [hsame] at hc
      rw [hpaid]
      exact h.calls callId c hc
  · intro callId hnone
    by_cases hid : call.id = callId
    · subst hid
      have hmode : call.escrowMode ≠ .x402SolanaEscrow := by
        intro hmode
        have hsome : onchain db' call.id = some (counted call remaining) := by
          rw [onchain_eq_some, hcalls, if_pos rfl]
          exact ⟨rfl, hmode⟩
        rw [hsome] at hnone
        cases hnone
      have hbefore : onchain db call.id = none := by
        rw [onchain, hget]
        simp [hmode]
      rw [hpayments, if_pos rfl, howed.other hmode, h.unclaimed _ hbefore]
      rfl
    · obtain ⟨hsame, hpaid⟩ := hother callId hid
      rw [hsame] at hnone
      rw [hpaid]
      exact h.unclaimed callId hnone

-- a call that changes without an answer or a payment
theorem EscrowKept.rewritten {f : StoredCall → StoredCall} (h : EscrowKept db)
    (hcalls : ∀ callId, db'.openCalls.get? callId = (db.openCalls.get? callId).map f)
    (hclaims : ∀ callId, answerPayments db' callId = answerPayments db callId)
    (hquotes : ∀ q ∈ db'.funds.fundingQuotes.rows, ∀ r, q.request = some r →
      q.totalPriceKrw = r.unitPrice * r.target)
    (hmode : ∀ c, (f c).escrowMode = c.escrowMode)
    (hf : ∀ payments c total, c.escrowMode = .x402SolanaEscrow → Kept payments c total →
      Kept payments (f c) total) : EscrowKept db' := by
  have honchain (callId : String) : onchain db' callId = (onchain db callId).map f := by
    unfold onchain
    rw [hcalls, Option.filter_map]
    congr 1
    apply congrArg (fun p => Option.filter p _)
    funext c
    simp only [Function.comp, hmode]
  refine ⟨?_, ?_, hquotes⟩
  · intro callId c hc
    rw [honchain, Option.map_eq_some_iff] at hc
    obtain ⟨c, hc, rfl⟩ := hc
    obtain ⟨total, hkept⟩ := h.calls callId c hc
    exact ⟨total, hclaims callId ▸ hf _ c total (onchain_eq_some.mp hc).2 hkept⟩
  · intro callId hnone
    rw [honchain, Option.map_eq_none_iff] at hnone
    rw [hclaims]
    exact h.unclaimed callId hnone

theorem answer_kept (h : EscrowKept db)
    (hanswer : submitAnswerWithInterview app db ids reflections now createdAt request = .ok db') :
    EscrowKept db' := by
  simp only [submitAnswerWithInterview, admission, submitTo, bind_eq_ok, asI64_eq_ok, loadCall_eq_ok,
    reject_eq_ok, orReject_eq_ok, exists_const, pure_eq_ok] at hanswer
  obtain ⟨interview, -, ⟨call, payout⟩, ⟨-, _, hcall, -, profile, -, _, hpayout, -, -, -, hpair⟩,
    time, -, -, recorded, hrecord, rfl⟩ := hanswer
  rw [Prod.mk.injEq] at hpair
  obtain ⟨rfl, rfl⟩ := hpair
  have hstart : SameCalls db (deleteExpired db time) := ⟨rfl, rfl, rfl⟩
  have hend : SameCalls recorded (deleteReservation recorded request.openCallId request.user) :=
    ⟨rfl, rfl, rfl⟩
  apply EscrowKept.frame _ hend
  unfold recordAnswer at hrecord
  split at hrecord
  · have hget := hcall
    rw [← call_key hcall] at hget
    have hanswered := accept_answered hrecord hget
    exact h.answered (hanswered.before hstart) (onchainPayout_owed hpayout)
  · simp only [voidAnswer, bind_eq_ok, insertMemory_eq_ok] at hrecord
    obtain ⟨_, -, t, -, rfl⟩ := hrecord
    exact h.frame ⟨rfl, rfl, rfl⟩

theorem match_effect {matchIds : String → AnswerIds} (hcall : db.openCalls.get? callId = some call)
    (hmatch : matchCandidate app db now matchIds callId call userId = .ok db') :
    db' = db ∨ ∃ payout, Owed call payout ∧ Answered db db' call payout := by
  unfold matchCandidate at hmatch
  split at hmatch
  · cases hmatch
    exact .inl rfl
  · simp only [settleAgentMatch, bind_eq_ok, reject_eq_ok, exists_const] at hmatch
    obtain ⟨-, payout, hpayout, hmatch⟩ := hmatch
    cases payout with
    | none =>
      cases hmatch
      exact .inl rfl
    | some payout =>
      simp only [settleReuse, bind_eq_ok, insertMemory_eq_ok, pure_eq_ok] at hmatch
      obtain ⟨drawn, hdraw, _, -, _, -, _, ⟨t, -, rfl⟩, paid, hpay, rfl⟩ := hmatch
      have hget := hcall
      rw [← call_key hcall] at hget
      have hremembered : SameCalls drawn { drawn with memoryEntries := t } := ⟨rfl, rfl, rfl⟩
      have hanswered := answered_of hget hdraw hremembered hpay
      exact .inr ⟨payout, matchPayout_owed hpayout, hanswered.after closeIfFilled_same⟩

theorem match_kept {matchIds : String → AnswerIds} (h : EscrowKept db)
    (hcall : db.openCalls.get? callId = some call)
    (hmatch : matchCandidate app db now matchIds callId call userId = .ok db') : EscrowKept db' := by
  rcases match_effect hcall hmatch with rfl | ⟨payout, howed, hanswered⟩
  · exact h
  · exact h.answered hanswered howed

theorem pass_kept {matchIds : String → AnswerIds} {candidates : List String} (h : EscrowKept db)
    (hpass : agentPass app now matchIds callId db candidates = .ok db') : EscrowKept db' := by
  induction candidates generalizing db with
  | nil =>
    cases hpass
    exact h
  | cons userId rest ih =>
    simp only [agentPass, bind_eq_ok, loadCall_eq_ok] at hpass
    obtain ⟨call, hcall, hpass⟩ := hpass
    split at hpass
    · cases hpass
      exact h
    · simp only [bind_eq_ok] at hpass
      obtain ⟨matched, hmatch, hpass⟩ := hpass
      exact ih (match_kept h hcall hmatch) hpass

theorem recordReview_same {reviewerId : String} {review : ReviewDisputeRequest} {dispute : Dispute} :
    SameCalls db (recordReview db reviewerId review now dispute) := ⟨rfl, rfl, rfl⟩

theorem review_kept {reviewerId memoryId : String} {review : ReviewDisputeRequest} (h : EscrowKept db)
    (hreview : reviewDispute app db ids now reviewerId memoryId review = .ok db') : EscrowKept db' := by
  simp only [reviewDispute, bind_eq_ok, reject_eq_ok, orReject_eq_ok, exists_const, requireAdmin,
    pure_eq_ok] at hreview
  obtain ⟨-, _, -, dispute, -, -, decided, hdecide, _, -, rfl⟩ := hreview
  suffices hdecided : EscrowKept decided from hdecided.frame recordReview_same
  unfold decideDispute at hdecide
  split at hdecide
  · simp only [approveDispute, restoreAnswer, bind_eq_ok, reject_eq_ok, orReject_eq_ok, exists_const,
      loadCall_eq_ok] at hdecide
    obtain ⟨⟨m, callId⟩, -, call, hcall, -, -, profile, -, payout, hpayout, krw, -, drawn, hdraw,
      hpay⟩ := hdecide
    obtain ⟨documents, hdocuments⟩ := @insertDocument_frame db (restoredDocument app ids m call)
    rw [← hdocuments] at hdraw
    have hget : (restoreMemory { db with documents := documents } ids memoryId krw).openCalls.get?
        call.id = some call := by
      rw [call_key hcall]
      exact hcall
    have hdrawn : SameCalls drawn drawn := ⟨rfl, rfl, rfl⟩
    have hanswered := answered_of hget hdraw hdrawn hpay
    have hrestored : SameCalls db (restoreMemory { db with documents := documents } ids memoryId krw) :=
      ⟨rfl, rfl, rfl⟩
    exact h.answered (hanswered.before hrestored) (onchainPayout_owed hpayout)
  · cases hdecide
    exact h

theorem quote_kept {id ownerId : String} {order : OpenCallRequest} {policy : PaymentQuotePolicy}
    {hashed : FundingQuote → Bool} (h : EscrowKept db)
    (hquote : createOpenCallFundingQuote ext db now id ownerId order policy hashed = .ok db') :
    EscrowKept db' := by
  simp only [createOpenCallFundingQuote, bind_eq_ok, asI64_eq_ok, reject_eq_ok, exists_const] at hquote
  obtain ⟨_, -, _, -, -, payTo, -, -, amount, -, time, -, hquote⟩ := hquote
  split at hquote
  · cases hquote
    exact h
  · simp only [bind_eq_ok, asI64_eq_ok, insertFundingQuote, orReject_eq_ok, pure_eq_ok] at hquote
    obtain ⟨_, -, price, ⟨-, hprice⟩, _, -, _, -, quotes, hinsert, rfl⟩ := hquote
    refine ⟨h.calls, h.unclaimed, ?_⟩
    intro q hq r hr
    change q ∈ quotes.rows at hq
    rw [(Table.insert?_eq_some.mp hinsert).2, List.mem_append, List.mem_singleton] at hq
    rcases hq with hq | rfl
    · exact h.quotes q hq r hr
    · obtain rfl : order = r := Option.some.inj hr
      exact hprice

theorem fundQuote_quotes {funds : Funds.Database} {newIds : NewIds}
    {settled : RecordChainSettlementRequest} {quoteId : String} {q : FundingQuote}
    (hq : q ∈ (fundQuote funds newIds now settled quoteId).fundingQuotes.rows) :
    ∃ q' ∈ funds.fundingQuotes.rows, q'.request = q.request ∧ q'.totalPriceKrw = q.totalPriceKrw := by
  simp only [fundQuote, Table.update, List.mem_map] at hq
  obtain ⟨q', hq', rfl⟩ := hq
  refine ⟨q', hq', ?_⟩
  split <;> exact ⟨rfl, rfl⟩

theorem kept_funded {newIds : NewIds} {settled : RecordChainSettlementRequest} {quote : FundingQuote}
    {order : OpenCallRequest} {unitPriceAtomic amount : Nat}
    (hprice : quote.totalPriceKrw = order.unitPrice * order.target) (htarget : 0 < order.target) :
    Kept [] (fundedCall newIds settled quote order unitPriceAtomic quote.totalPriceKrw amount) amount := by
  refine ⟨rfl, htarget, Nat.zero_le _, rfl, fun _ => ?_, fun _ => ?_, fun _ => htarget, nofun⟩
  · change some amount = some (evenRest amount order.target 0).sum
    rw [evenRest_all, sum_evenShares_all htarget]
  · exact hprice

theorem fund_kept {newIds : NewIds} {settled : RecordChainSettlementRequest} (h : EscrowKept db)
    (hfund : recordOpenCallChainSettlement ext db newIds now settled = .ok db') : EscrowKept db' := by
  simp only [recordOpenCallChainSettlement, bind_eq_ok] at hfund
  obtain ⟨amount, -, hfund⟩ := hfund
  split at hfund
  · split at hfund
    · simp only [replayOpenCall, replayLocked, bind_eq_ok, pure_eq_ok] at hfund
      obtain ⟨_, ⟨_, -, _, -, rfl⟩, rfl⟩ := hfund
      exact h.frame ⟨rfl, rfl, rfl⟩
    · cases hfund
  · simp only [settleOpenCall, bind_eq_ok, reject_eq_ok, orReject_eq_ok, exists_const, pure_eq_ok,
      asI64_eq_ok, insertFundedCall, insertCall] at hfund
    obtain ⟨_, -, prepared, -, claimed, hclaim, quote, hquote, -, -, order, horder, _, horderOk, value,
      ⟨-, rfl⟩, called, ⟨_, -, unit, -, price, ⟨-, rfl⟩, calls, hinsert, rfl⟩, listed, hrow,
      rfl⟩ := hfund
    simp only [claimChainTransaction, bind_eq_ok] at hclaim
    obtain ⟨_, -, hclaim⟩ := hclaim
    obtain ⟨-, -, hclaimed⟩ := claimTransaction_cases hclaim
    obtain ⟨-, -, registry, ledger, rfl⟩ := insertChainSettlement_cases hrow
    have hquotes : claimed.fundingQuotes = db.funds.fundingQuotes := by rw [← hclaimed]
    simp only [validateOpenCall, bind_eq_ok, reject_eq_ok, exists_const, not_or, not_lt] at horderOk
    have htarget : 0 < order.target := horderOk.2.1.1
    have hprice : quote.totalPriceKrw = order.unitPrice * order.target := by
      apply h.quotes quote _ order horder
      rw [← hquotes]
      exact Table.get?_mem hquote
    have hcalls (callId : String) : calls.get? callId =
        if newIds.call = callId then
          some (fundedCall newIds settled quote order unit quote.totalPriceKrw value)
        else db.openCalls.get? callId := Table.get?_insert? hinsert
    have hfresh : db.openCalls.get? newIds.call = none := (Table.insert?_eq_some.mp hinsert).1
    have hnone : onchain db newIds.call = none := by
      rw [onchain, hfresh]
      rfl
    refine ⟨?_, ?_, ?_⟩
    · intro callId c hc
      rw [onchain_eq_some] at hc
      change calls.get? callId = _ ∧ _ at hc
      rw [hcalls] at hc
      split at hc
      · next hid =>
        obtain ⟨hc, -⟩ := hc
        rw [Option.some.injEq] at hc
        subst hc
        refine ⟨value, ?_⟩
        have hunpaid : answerPayments db callId = [] := h.unclaimed callId (hid ▸ hnone)
        change Kept (answerPayments db callId) _ _
        rw [hunpaid]
        exact kept_funded hprice htarget
      · exact h.calls callId c (onchain_eq_some.mpr hc)
    · intro callId hafter
      apply h.unclaimed callId
      by_cases hid : newIds.call = callId
      · rw [← hid]
        exact hnone
      · rw [onchain]
        change (calls.get? callId).filter _ = none at hafter
        rw [hcalls, if_neg hid] at hafter
        exact hafter
    · intro q hq r hr
      obtain ⟨q', hq', hrequest, htotal⟩ := fundQuote_quotes hq
      rw [← htotal]
      apply h.quotes q' _ r (hrequest.trans hr)
      rw [← hquotes]
      exact hq'

theorem refundCall_effect {refundId : String}
    (h : refundCall app db refundId now userId call = .ok db') :
    db'.openCalls = db.openCalls ∧ db'.funds.fundingQuotes = db.funds.fundingQuotes ∧
      ∀ callId, answerPayments db' callId = answerPayments db callId := by
  unfold refundCall at h
  split at h
  · split at h
    · simp only [refundOnchain, bind_eq_ok, orReject_eq_ok] at h
      obtain ⟨_, -, _, -, _, -, _, -, h⟩ := h
      refine ⟨?_, ?_, fun callId => ?_⟩
      · obtain ⟨t, rfl⟩ := insertPayoutClaim_frame h
        rfl
      · obtain ⟨t, rfl⟩ := insertPayoutClaim_frame h
        rfl
      · rw [insertPayoutClaim_payments h]
        simp [answers]
    · cases h
      exact ⟨rfl, rfl, fun _ => rfl⟩
  · split at h
    · simp only [refundOpenCallPrepaid, withFunds, bind_eq_ok, pure_eq_ok, recordLedger, insertLedger,
        orReject_eq_ok] at h
      obtain ⟨key, -, amount, -, time, -, credited, hcredit, _, ⟨_, -, ledger, -, rfl⟩, rfl⟩ := h
      obtain ⟨hensured, -, -, hsome⟩ := ensurePrepaidAccount_cases db.funds key
      obtain ⟨hcredited, -, -⟩ := creditAccount_cases hcredit hsome
      refine ⟨rfl, ?_, fun _ => rfl⟩
      rw [← hensured.trans hcredited]
    · cases h
      exact ⟨rfl, rfl, fun _ => rfl⟩
  · simp only [refundSandbox, bind_eq_ok, reject_eq_ok, exists_const, pure_eq_ok] at h
    obtain ⟨_, -, -, rfl⟩ := h
    exact ⟨rfl, rfl, fun _ => rfl⟩

theorem cancel_kept {refundId : String} (h : EscrowKept db)
    (hcancel : cancelOpenCall app db refundId now userId callId = .ok db') : EscrowKept db' := by
  simp only [cancelOpenCall, bind_eq_ok, loadCall_eq_ok, reject_eq_ok, exists_const,
    pure_eq_ok] at hcancel
  obtain ⟨call, hcall, -, -, refunded, hrefund, rfl⟩ := hcancel
  obtain ⟨hcalls, hquotes, hpayments⟩ := refundCall_effect hrefund
  have hid := call_key hcall
  have hmoved : EscrowKept (deleteReservations { refunded with
      openCalls := refunded.openCalls.put (cancelled call) } callId) := by
    apply h.rewritten (f := fun c => if c.id = callId then cancelled c else c)
    · intro other
      change (refunded.openCalls.put (cancelled call)).get? other = _
      rw [hcalls, Table.get?_put]
      split
      · next hsame =>
        have hother : other = callId := hsame.symm.trans hid
        rw [hother, hcall, Option.map_some, if_pos hid]
      · next hne =>
        cases hget : db.openCalls.get? other with
        | none => rfl
        | some c =>
          have hkey := call_key hget
          rw [Option.map_some, if_neg]
          intro hc
          exact hne (hid.trans (hc.symm.trans hkey))
    · exact hpayments
    · intro q hq
      apply h.quotes q
      rw [← hquotes]
      exact hq
    · intro c
      split <;> rfl
    · intro payments c total _ hkept
      split
      · exact hkept.cancel
      · exact hkept
  exact hmoved

theorem refundAll_effect {refundIds : String → String} {calls : List StoredCall}
    (h : refundAll app now userId refundIds db calls = .ok db') :
    db'.openCalls = db.openCalls ∧ db'.funds = db.funds ∧
      ∀ callId, answerPayments db' callId = answerPayments db callId := by
  induction calls generalizing db with
  | nil =>
    cases h
    exact ⟨rfl, rfl, fun _ => rfl⟩
  | cons call rest ih =>
    simp only [refundAll, refundOnDeletion, bind_eq_ok, orReject_eq_ok] at h
    obtain ⟨refunded, ⟨_, -, _, -, _, -, _, -, hclaim⟩, h⟩ := h
    obtain ⟨hcalls, hfunds, hpayments⟩ := ih h
    have hpaid (callId : String) : answerPayments refunded callId = answerPayments db callId := by
      rw [insertPayoutClaim_payments hclaim]
      simp [answers]
    obtain ⟨t, rfl⟩ := insertPayoutClaim_frame hclaim
    exact ⟨hcalls, hfunds, fun callId => (hpayments callId).trans (hpaid callId)⟩

theorem cancelCalls_kept (h : EscrowKept db) : EscrowKept (cancelCalls db userId) := by
  apply h.rewritten (f := fun c =>
    if decide (c.ownerId = userId ∧ c.status = .opened) then cancelled c else c)
  · intro callId
    exact @Table.get?_update _ _ _ db.openCalls callId _ cancelled (fun _ => rfl) _
  · exact fun _ => rfl
  · exact h.quotes
  · intro c
    split <;> rfl
  · intro payments c total _ hkept
    split
    · exact hkept.cancel
    · exact hkept

theorem forgetQuotes_kept {anonymous : String} (h : EscrowKept db) :
    EscrowKept (forgetQuotes db userId anonymous) := by
  refine ⟨h.calls, h.unclaimed, ?_⟩
  intro q hq r hr
  simp only [forgetQuotes, Table.update, List.mem_map] at hq
  obtain ⟨q, hq, rfl⟩ := hq
  split at hr
  · cases hr
  · next hother =>
    rw [if_neg hother]
    exact h.quotes q hq r hr

theorem disown_payments {anonymous : String} :
    answerPayments (disown db userId anonymous) callId = answerPayments db callId := by
  simp only [answerPayments, disown, Table.update, List.filter_map, List.map_map]
  have hanswers : (answers callId ∘ fun c : Payout.NewClaim =>
      if decide (c.beneficiaryUserId = userId) then { c with beneficiaryUserId := anonymous } else c) =
      answers callId := by
    funext c
    simp only [Function.comp]
    split <;> rfl
  rw [hanswers]
  apply List.map_congr_left
  intro c _
  simp only [Function.comp]
  split <;> rfl

theorem disown_kept {anonymous : String} (h : EscrowKept db) :
    EscrowKept (disown db userId anonymous) := by
  apply h.rewritten (f := fun c =>
    if decide (c.ownerId = userId) then { c with ownerId := anonymous } else c)
  · intro callId
    simp only [disown, Table.get?_update]
  · exact fun _ => disown_payments
  · exact h.quotes
  · intro c
    split <;> rfl
  · intro payments c total _ hkept
    split
    · exact hkept.congr rfl
    · exact hkept

theorem close_kept {anonymous : String} {refundIds : String → String} (h : EscrowKept db)
    (hclose : closeCalls app db now userId anonymous refundIds = .ok db') : EscrowKept db' := by
  simp only [closeCalls, bind_eq_ok, pure_eq_ok] at hclose
  obtain ⟨refunded, hrefund, rfl⟩ := hclose
  obtain ⟨hcalls, hfunds, hpayments⟩ := refundAll_effect hrefund
  have hrefunded : EscrowKept refunded := by
    refine ⟨?_, ?_, ?_⟩
    · simpa only [onchain, hcalls, hpayments] using h.calls
    · simpa only [onchain, hcalls, hpayments] using h.unclaimed
    · rw [hfunds]
      exact h.quotes
  exact disown_kept (forgetQuotes_kept (cancelCalls_kept hrefunded))

theorem Kept.migrate (h : Kept payments c total) : Kept payments (migrateCall db c) total := by
  have hrefilled : Kept payments (refillKrw c) total := by
    unfold refillKrw
    split
    · exact ⟨h.funded, h.positive, h.within, h.paid, h.left, fun _ => rfl, h.room, h.full⟩
    · exact h
  have horphaned : Kept payments (cancelOrphan db (refillKrw c)) total := by
    unfold cancelOrphan
    split
    · refine ⟨hrefilled.funded, hrefilled.positive, hrefilled.within, hrefilled.paid,
        fun hlive => absurd rfl hlive, fun hlive => absurd rfl hlive, ?_, ?_⟩
      · intro hstatus
        cases hstatus
      · intro hstatus
        cases hstatus
    · exact hrefilled
  unfold migrateCall
  generalize cancelOrphan db (refillKrw c) = c' at horphaned
  refine ⟨?_, horphaned.positive, horphaned.within, horphaned.paid, fun hlive => ?_, horphaned.krw,
    horphaned.room, horphaned.full⟩
  · simp only [backfillEscrow, horphaned.funded, Option.isNone_some, Bool.false_eq_true, false_and,
      if_false]
  · have hleft := horphaned.left hlive
    simp only [backfillEscrow, hleft, Option.isNone_some, Bool.false_eq_true, false_and, if_false]

theorem migrate_mode (c : StoredCall) : (migrateCall db c).escrowMode = c.escrowMode := by
  unfold migrateCall backfillEscrow cancelOrphan refillKrw
  split <;> split <;> rfl

theorem migrate_kept (h : EscrowKept db) : EscrowKept (migrateCalls db) := by
  apply h.rewritten (f := migrateCall db)
  · intro callId
    simp only [migrateCalls, Table.get?_update, if_true]
  · exact fun _ => rfl
  · exact h.quotes
  · exact migrate_mode
  · exact fun payments c total _ hkept => hkept.migrate

theorem elsewhere_kept (h : EscrowKept db) (helse : Elsewhere db db') : EscrowKept db' := by
  refine ⟨?_, ?_, ?_⟩
  · simpa only [helse.calls, helse.claims] using h.calls
  · simpa only [helse.calls, helse.claims] using h.unclaimed
  · intro q hq r hr
    obtain ⟨q', hq', hrequest, hprice⟩ := helse.quotes q hq
    rw [← hprice]
    exact h.quotes q' hq' r (hrequest.trans hr)

theorem step_kept {e : Option Event} (h : EscrowKept db) (hstep : Step app ext db e db') :
    EscrowKept db' := by
  cases hstep with
  | error _ => exact h
  | elsewhere helse => exact elsewhere_kept h helse
  | ok hexecute =>
    unfold execute at hexecute
    split at hexecute
    · exact quote_kept h hexecute
    · exact fund_kept h hexecute
    · exact answer_kept h hexecute
    · unfold runCallAgents at hexecute
      split at hexecute
      · cases hexecute
        exact h
      · exact pass_kept h hexecute
    · exact review_kept h hexecute
    · exact cancel_kept h hexecute
    · exact close_kept h hexecute
    · cases hexecute
      exact migrate_kept h

-- nothing is funded, claimed or quoted yet
structure Opening (db : Database) : Prop where
  calls : db.openCalls.rows = []
  claims : db.payoutClaims.rows = []
  quotes : db.funds.fundingQuotes.rows = []

theorem Opening.kept (h : Opening db) : EscrowKept db := by
  have hnone (callId : String) : onchain db callId = none := by
    simp [onchain, Table.get?, h.calls]
  refine ⟨?_, ?_, ?_⟩
  · intro callId c hc
    rw [hnone] at hc
    cases hc
  · intro callId _
    simp [answerPayments, h.claims]
  · intro q hq
    rw [h.quotes] at hq
    cases hq

theorem run_kept (hstart : Opening start) (hrun : Trace (Step app ext) start events db) :
    EscrowKept db :=
  hrun.invariant hstart.kept fun _ _ _ => step_kept

end Steps

end Obulus.Calls.Funding
