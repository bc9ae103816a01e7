import Obulus.Calls.Books
import Obulus.Calls.Effects
import Obulus.Calls.Slots
import Obulus.Funds.Received

namespace Obulus.Calls.Books

open Foundation Store Funds

variable {app : Appraisal} {ext : Externals} {db db₀ db' : Database} {e : Event} {events : List Event}
  {ids : AnswerIds} {reflections : List Reflection} {request : AnswerRequest} {call : StoredCall}
  {payout : Option OnchainPayout} {interview : List InterviewResponse} {now later createdAt : Nat}
  {m : MemoryEntry} {d : Document} {userId callId documentId memoryId : String}
  {source : AgentMemorySource} {priceKrw : Nat}

def authorOf (db : Database) (documentId : String) : Option String :=
  (db.documents.get? documentId).map Document.authorId

def Balanced (db : Database) : Prop :=
  BooksOk db.memoryEntries.rows (authorOf db) db.earningEvents.rows

section Answers

theorem author_published (hnew : NewDocument db d) (i : String) :
    authorOf (insertDocument db d) i = if d.id = i then some d.authorId else authorOf db i := by
  obtain ⟨documents, hinsert, hdocuments⟩ := insertDocument_new hnew
  rw [authorOf, ← hdocuments]
  change (documents.get? i).map _ = _
  rw [Table.get?_insert? hinsert]
  split <;> rfl

theorem published_more (hnew : NewDocument db d) (i a : String) (h : authorOf db i = some a) :
    authorOf (insertDocument db d) i = some a := by
  rw [author_published hnew, if_neg, h]
  rintro rfl
  have hnone : db.documents.get? d.id = none := hnew.1
  rw [authorOf, hnone] at h
  cases h

theorem accept_balanced (h : Balanced db)
    (haccept : acceptAnswer app db ids reflections createdAt request call payout interview = .ok db')
    (hnew : newDocument app db ids.document) : Balanced db' := by
  simp only [acceptAnswer, bind_eq_ok, asI64_eq_ok, reject_eq_ok, exists_const, insertMemory_eq_ok,
    pure_eq_ok] at haccept
  obtain ⟨krw, ⟨-, hkrw⟩, time, ⟨-, htime⟩, -, drawn, hdraw, _, ⟨entries, hm, rfl⟩, mid, hreflections,
    paid, hpay, rfl⟩ := haccept
  rw [htime] at hdraw hm
  rw [hkrw] at hpay
  have hfresh : NewDocument db (answerDocument app ids createdAt request call) := hnew
  obtain ⟨row, remaining, hdrawn⟩ := drawEscrow_drawn hdraw
  have hcalls := hdrawn.calls
  obtain ⟨entries', hmid, hrows⟩ := insertReflections_effect hreflections
  obtain ⟨e, hframe, hauthor, hamount, -⟩ := payAnswer_frame hpay
  have hpublished := h.publish (published_more hfresh)
  have hearned : BooksOk (db.memoryEntries.rows ++ [answerEntry ids createdAt request call interview []])
      (authorOf (insertDocument db (answerDocument app ids createdAt request call)))
      (db.earningEvents.rows ++ [e]) := by
    apply hpublished.earn
    · exact hauthor
    · exact hamount
    · rfl
    · intro i hi
      obtain rfl : ids.document = i := Option.some.inj hi
      rw [author_published hfresh]
      exact if_pos rfl
  have hreflected : ∀ n ∈ reflections.map (Reflection.entry request.user),
      n.earnedKrw = 0 ∧ n.documentId = none := by
    intro n hn
    obtain ⟨r, -, rfl⟩ := List.mem_map.mp hn
    exact ⟨rfl, rfl⟩
  have hall := hearned.remember hreflected
  have hdocuments : paid.documents =
      (insertDocument db (answerDocument app ids createdAt request call)).documents := by
    rw [← hframe.frame, ← hmid, ← hcalls]
  have hmemories : paid.memoryEntries.rows = db.memoryEntries.rows ++
      [answerEntry ids createdAt request call interview []] ++
        reflections.map (Reflection.entry request.user) := by
    obtain ⟨documents, hkept⟩ := @insertDocument_frame db (answerDocument app ids createdAt request call)
    rw [← hframe.frame, ← hmid]
    change entries'.rows = _
    rw [hrows, (Table.insert?_eq_some.mp hm).2, ← hcalls, ← hkept]
  have hevents : paid.earningEvents.rows = db.earningEvents.rows ++ [e] := by
    obtain ⟨documents, hkept⟩ := @insertDocument_frame db (answerDocument app ids createdAt request call)
    rw [(Table.insert?_eq_some.mp hframe.earnings).2, ← hmid, ← hcalls, ← hkept]
  have hbalanced : Balanced paid := by
    unfold Balanced authorOf
    rw [hmemories, hevents, hdocuments]
    exact hall
  unfold closeIfFilled
  split <;> exact hbalanced

theorem answer_balanced (h : Balanced db)
    (hanswer : submitAnswerWithInterview app db ids reflections now later request = .ok db')
    (hnew : newDocument app db ids.document) : Balanced db' := by
  simp only [submitAnswerWithInterview, submitTo, bind_eq_ok, asI64_eq_ok, reject_eq_ok, exists_const,
    pure_eq_ok] at hanswer
  obtain ⟨_, -, pair, -, time, -, -, mid, hrecord, rfl⟩ := hanswer
  have hstart : Balanced (deleteExpired db time) := h
  have hmid : Balanced mid := by
    unfold recordAnswer at hrecord
    split at hrecord
    · exact accept_balanced hstart hrecord hnew
    · next hissues =>
      simp only [voidAnswer, bind_eq_ok, asI64_eq_ok, insertMemory_eq_ok] at hrecord
      obtain ⟨_, -, entries, hm, rfl⟩ := hrecord
      unfold Balanced
      rw [(Table.insert?_eq_some.mp hm).2]
      apply hstart.remember
      intro n hn
      obtain rfl := List.mem_singleton.mp hn
      exact ⟨if_neg hissues, if_neg hissues⟩
  exact hmid

end Answers

section Reuses

theorem betterSource_or {best : Option AgentMemorySource} {candidate : MemoryEntry × Document}
    (h : betterSource app call best candidate = some source) :
    best = some source ∨ source.documentId = candidate.2.id := by
  unfold betterSource at h
  split at h
  · next m d =>
    simp only at h
    split at h
    · exact .inl h
    · cases h
      exact .inr rfl

theorem best_fold {candidates : List (MemoryEntry × Document)} {best : Option AgentMemorySource}
    (h : candidates.foldl (betterSource app call) best = some source) :
    best = some source ∨ ∃ c ∈ candidates, source.documentId = c.2.id := by
  induction candidates generalizing best with
  | nil => exact .inl h
  | cons c candidates ih =>
    rcases ih h with hbest | ⟨c', hc', hid⟩
    · rcases betterSource_or hbest with hbest | hid
      · exact .inl hbest
      · exact .inr ⟨c, .head _, hid⟩
    · exact .inr ⟨c', .tail _ hc', hid⟩

-- what is reused is a document of the user's own
theorem best_owned (h : Balanced db) (hbest : bestAgentMemory app db call userId = some source) :
    authorOf db source.documentId = some userId := by
  rcases best_fold hbest with hnone | ⟨c, hc, hid⟩
  · cases hnone
  · have hmem := List.mem_of_mem_take hc
    rw [List.mem_mergeSort, List.mem_filterMap] at hmem
    obtain ⟨m, hm, hpair⟩ := hmem
    obtain ⟨d, hd, rfl⟩ := Option.map_eq_some_iff.mp hpair
    unfold sourceDocument at hd
    split at hd
    · next huser =>
      rw [Option.filter_eq_some_iff, Option.bind_eq_some_iff] at hd
      obtain ⟨⟨i, hi, hget⟩, -⟩ := hd
      rw [hid, ← huser.1]
      change authorOf db d.id = _
      rw [Table.get?_key hget]
      exact h.owned m hm i hi
    · cases hd

theorem match_balanced {matchIds : String → AnswerIds} (h : Balanced db)
    (hmatch : matchCandidate app db now matchIds callId call userId = .ok db') : Balanced db' := by
  unfold matchCandidate at hmatch
  split at hmatch
  · cases hmatch
    exact h
  · next profile source hagent =>
    unfold agentMatch at hagent
    split at hagent
    · cases hagent
    · simp only [Option.bind_eq_some_iff, Option.map_eq_some_iff, Prod.mk.injEq] at hagent
      obtain ⟨p, -, best, hbest, -, rfl⟩ := hagent
      have howned := best_owned h hbest
      simp only [settleAgentMatch, bind_eq_ok, reject_eq_ok, exists_const] at hmatch
      obtain ⟨-, payout, -, hmatch⟩ := hmatch
      cases payout with
      | none =>
        cases hmatch
        exact h
      | some payout =>
        simp only [settleReuse, bind_eq_ok, asI64_eq_ok, insertMemory_eq_ok, pure_eq_ok] at hmatch
        obtain ⟨drawn, hdraw, krw, ⟨-, hkrw⟩, time, -, _, ⟨entries, hm, rfl⟩, paid, hpay, rfl⟩ := hmatch
        rw [hkrw] at hpay
        obtain ⟨row, remaining, hdrawn⟩ := drawEscrow_drawn hdraw
        have hcalls := hdrawn.calls
        subst hcalls
        obtain ⟨e, hframe, hauthor, hamount, -⟩ := payAnswer_frame hpay
        have hbalanced : Balanced paid := by
          unfold Balanced authorOf
          rw [(Table.insert?_eq_some.mp hframe.earnings).2, ← hframe.frame]
          change BooksOk entries.rows _ _
          rw [(Table.insert?_eq_some.mp hm).2]
          apply h.earn
          · exact hauthor
          · exact hamount
          · rfl
          · intro i hi
            obtain rfl : best.documentId = i := Option.some.inj hi
            exact howned
        unfold closeIfFilled
        split <;> exact hbalanced

theorem agents_balanced {matchIds : String → AnswerIds} {candidates : List String} (h : Balanced db)
    (hpass : agentPass app now matchIds callId db candidates = .ok db') : Balanced db' := by
  induction candidates generalizing db with
  | nil =>
    cases hpass
    exact h
  | cons userId rest ih =>
    simp only [agentPass, bind_eq_ok] at hpass
    obtain ⟨call, -, hpass⟩ := hpass
    split at hpass
    · cases hpass
      exact h
    · simp only [bind_eq_ok] at hpass
      obtain ⟨mid, hmatch, hpass⟩ := hpass
      exact ih (match_balanced h hmatch) hpass

end Reuses

section Disputes

theorem review_balanced {reviewerId : String} {review : ReviewDisputeRequest} (h : Balanced db)
    (hreview : reviewDispute app db ids now reviewerId memoryId review = .ok db')
    (hnew : newDocument app db ids.document) : Balanced db' := by
  simp only [reviewDispute, bind_eq_ok, reject_eq_ok, orReject_eq_ok, exists_const, requireAdmin,
    pure_eq_ok] at hreview
  obtain ⟨-, _, -, dispute, -, -, mid, hdecide, _, -, rfl⟩ := hreview
  have hmid : Balanced mid := by
    unfold decideDispute at hdecide
    split at hdecide
    · simp only [approveDispute, restoreAnswer, bind_eq_ok, reject_eq_ok, orReject_eq_ok, exists_const,
        loadCall_eq_ok, asI64_eq_ok, disputedMemory, Option.bind_eq_some_iff,
        Option.filter_eq_some_iff, Option.map_eq_some_iff, not_or, not_not] at hdecide
      obtain ⟨_, ⟨m, ⟨hm, -⟩, callId, -, rfl⟩, call, -, ⟨hvoided, -⟩, -, profile, -, payout, -, krw,
        ⟨-, hkrw⟩, drawn, hdraw, hpay⟩ := hdecide
      have hfresh : NewDocument db (restoredDocument app ids m call) := hnew
      obtain ⟨row, remaining, hdrawn⟩ := drawEscrow_drawn hdraw
      have hcalls := hdrawn.calls
      subst hcalls
      obtain ⟨e, hframe, hauthor, hamount, -⟩ := payAnswer_frame hpay
      obtain ⟨documents, hkept⟩ := @insertDocument_frame db (restoredDocument app ids m call)
      have hpublished := h.publish (published_more hfresh)
      have hevents : mid.earningEvents.rows = db.earningEvents.rows ++ [e] := by
        rw [(Table.insert?_eq_some.mp hframe.earnings).2, ← hkept]
        rfl
      have hdocuments : mid.documents = (insertDocument db (restoredDocument app ids m call)).documents := by
        rw [← hframe.frame]
        rfl
      have hmemories : mid.memoryEntries = (restoreMemory db ids memoryId krw).memoryEntries := by
        rw [← hframe.frame, ← hkept]
        rfl
      unfold Balanced authorOf
      rw [hevents, hdocuments, hmemories]
      apply hpublished.restore (Table.filter_key hm) hvoided hauthor hamount
      rw [author_published hfresh]
      exact if_pos rfl
    · cases hdecide
      exact h
  exact hmid

end Disputes

section Sales

variable {earningId settlementId authorId recipientWallet queryId handle : String}
  {saleMemory payer : Option String} {saleIds : SaleIds} {opened : List Opened} {handles : List String}

structure Posted (db db' : Database) (documentId : String) (priceKrw : Nat) (e : EarningEvent) :
    Prop where
  memoryEntries : db'.memoryEntries = (creditMemories db documentId priceKrw).memoryEntries
  documents : db'.documents = db.documents
  earnings : db.earningEvents.insert? e = some db'.earningEvents

theorem Posted.of_frame {e : EarningEvent}
    (h : EarningFrame (creditMemories db documentId priceKrw) db' e) :
    Posted db db' documentId priceKrw e := by
  refine ⟨?_, ?_, h.earnings⟩
  · rw [← h.frame]
  · rw [← h.frame]
    rfl

theorem postSale_posted
    (h : postSale db now documentId priceKrw earningId settlementId saleMemory authorId = .ok db') :
    ∃ e, Posted db db' documentId priceKrw e ∧ e.authorId = authorId ∧ e.amountKrw = priceKrw := by
  simp only [postSale, bind_eq_ok, asI64_eq_ok] at h
  obtain ⟨krw, ⟨-, hkrw⟩, _, -, hevent⟩ := h
  rw [hkrw] at hevent
  obtain ⟨e, hframe, hauthor, hamount, -⟩ := insertEarningEvent_frame hevent
  exact ⟨e, .of_frame hframe, hauthor, hamount⟩

theorem postOnchainSale_posted
    (h : postOnchainSale db now documentId priceKrw earningId settlementId saleMemory authorId
      recipientWallet = .ok db') :
    ∃ e, Posted db db' documentId priceKrw e ∧ e.authorId = authorId ∧ e.amountKrw = priceKrw := by
  simp only [postOnchainSale, bind_eq_ok, asI64_eq_ok] at h
  obtain ⟨krw, ⟨-, hkrw⟩, _, -, hevent⟩ := h
  rw [hkrw] at hevent
  obtain ⟨e, hframe, hauthor, hamount, -⟩ := insertOutsideEarning_frame hevent
  exact ⟨e, .of_frame hframe, hauthor, hamount⟩

theorem Posted.balanced {e : EarningEvent} (h : Posted db db' documentId priceKrw e)
    (hbalanced : Balanced db) (howned : authorOf db documentId = some e.authorId)
    (hamount : e.amountKrw = priceKrw) (honce : SoldOnce db documentId priceKrw) : Balanced db' := by
  unfold Balanced authorOf
  rw [h.memoryEntries, h.documents, (Table.insert?_eq_some.mp h.earnings).2]
  exact hbalanced.sell howned hamount honce

theorem Posted.copies {e : EarningEvent} (h : Posted db db' documentId priceKrw e) (i : String) :
    copies db' i = copies db i := by
  unfold Books.copies
  rw [h.memoryEntries]
  simp only [creditMemories, Table.update, List.countP_map]
  apply List.countP_congr
  intro m _
  simp only [Function.comp]
  split <;> rfl

theorem openDocument_held {o : Opened} (h : openDocument db queryId handle = .ok o) :
    authorOf db o.document.id = some o.document.authorId := by
  simp only [openDocument, bind_eq_ok, orReject_eq_ok, Option.filter_eq_some_iff, pure_eq_ok] at h
  obtain ⟨quoted, -, d, ⟨hfind, -⟩, rfl⟩ := h
  rw [authorOf, Table.get?_of_mem (List.mem_of_find?_eq_some hfind)]
  rfl

theorem openAll_mem {o : Opened} (h : openAll db queryId handles = .ok opened) (ho : o ∈ opened) :
    ∃ handle ∈ handles, openDocument db queryId handle = .ok o := by
  induction handles generalizing opened with
  | nil =>
    cases h
    cases ho
  | cons handle handles ih =>
    simp only [openAll, bind_eq_ok, pure_eq_ok] at h
    obtain ⟨first, hfirst, rest, hrest, rfl⟩ := h
    rcases List.mem_cons.mp ho with rfl | ho
    · exact ⟨handle, .head _, hfirst⟩
    · obtain ⟨handle', hmem, hopened⟩ := ih hrest ho
      exact ⟨handle', .tail _ hmem, hopened⟩

theorem settleOpened_balanced (h : Balanced db) (hsettle : settleOpened now saleIds db opened = .ok db')
    (hopened : ∀ o ∈ opened, authorOf db o.document.id = some o.document.authorId ∧
      SoldOnce db o.document.id o.priceKrw) : Balanced db' := by
  induction opened generalizing db with
  | nil =>
    cases hsettle
    exact h
  | cons o rest ih =>
    simp only [settleOpened, bind_eq_ok] at hsettle
    obtain ⟨mid, hpost, hsettle⟩ := hsettle
    obtain ⟨e, hposted, hauthor, hamount⟩ := postSale_posted hpost
    obtain ⟨howned, honce⟩ := hopened o (.head _)
    apply ih _ hsettle
    · intro o' ho'
      obtain ⟨howned', honce'⟩ := hopened o' (.tail _ ho')
      refine ⟨?_, ?_⟩
      · rw [authorOf, hposted.documents]
        exact howned'
      · rw [SoldOnce, hposted.copies]
        exact honce'
    · exact hposted.balanced h (hauthor ▸ howned) hamount honce

theorem openDocuments_balanced (h : Balanced db)
    (hopen : Calls.openDocuments db now saleIds queryId handles payer = .ok db')
    (honce : replayed db queryId handles payer = false →
      ∀ handle ∈ handles, ∀ o, openDocument db queryId handle = .ok o →
        SoldOnce db o.document.id o.priceKrw) : Balanced db' := by
  simp only [Calls.openDocuments, bind_eq_ok, reject_eq_ok, exists_const] at hopen
  obtain ⟨_, -, -, opened, hopened, hopen⟩ := hopen
  split at hopen
  · cases hopen
    exact h
  · next hnew =>
    simp only [settleOpening, insertDemoSettlement, bind_eq_ok, asI64_eq_ok, orReject_eq_ok,
      pure_eq_ok] at hopen
    obtain ⟨time, -, _, ⟨_, -, settlements, -, rfl⟩, hsettle⟩ := hopen
    have hstart : Balanced { db with settlements := settlements } := h
    apply settleOpened_balanced hstart hsettle
    intro o ho
    obtain ⟨handle, hmem, hdocument⟩ := openAll_mem hopened ho
    exact ⟨openDocument_held hdocument, honce (by simpa using hnew) handle hmem o hdocument⟩

end Sales

section Rails

variable {funds funds' : Funds.Database} {quoteId i : String} {rail : PaymentRail}
  {quote : PaymentQuote} {document : Document} {saleIds : NewIds} {amount : Nat}
  {sale : RecordChainSettlementRequest} {earningId : String} {resource : PayShResource}
  {attempt : Option PayShPaymentAttempt}

theorem bound_quote (h : bindDocumentPaymentRail funds quoteId rail = .ok funds')
    (hquote : funds'.paymentQuotes.get? i = some quote) :
    ∃ q, funds.paymentQuotes.get? i = some q ∧ q.documentId = quote.documentId ∧
      q.priceKrw = quote.priceKrw := by
  obtain ⟨_, -, -, ⟨rfl, -⟩ | ⟨rfl, -⟩⟩ := bindRail_cases h
  · exact ⟨quote, hquote, rfl, rfl⟩
  · rw [setRail, Table.get?_update] at hquote
    obtain ⟨q, hq, rfl⟩ := Option.map_eq_some_iff.mp hquote
    refine ⟨q, hq, ?_⟩
    split <;> exact ⟨rfl, rfl⟩

theorem bound_settlements (h : bindDocumentPaymentRail funds quoteId rail = .ok funds') :
    funds'.settlements = funds.settlements := by
  obtain ⟨_, -, -, ⟨rfl, -⟩ | ⟨rfl, -⟩⟩ := bindRail_cases h <;> rfl

theorem settleDocument_balanced (h : Balanced db)
    (hsettle : Calls.settleDocument db now ext saleIds sale amount = .ok db')
    (honce : ∀ quote, db.funds.paymentQuotes.get? (trim sale.quoteId) = some quote →
      SoldOnce db quote.documentId quote.priceKrw) : Balanced db' := by
  simp only [Calls.settleDocument, claimChainTransaction, claimTransaction, bind_eq_ok, orReject_eq_ok,
    reject_eq_ok, exists_const, pure_eq_ok] at hsettle
  obtain ⟨funds, hbind, _, -, _, ⟨_, -, -, rfl⟩, quote, hquote, document, hdocument, -, funds', -, sold,
    hpost, rfl⟩ := hsettle
  obtain ⟨q, hq, hsame, hprice⟩ := bound_quote hbind hquote
  obtain ⟨e, hposted, hauthor, hamount⟩ := postOnchainSale_posted hpost
  have honce' := honce q hq
  rw [hsame, hprice] at honce'
  have hstart : Balanced { db with funds := funds' } := h
  have howned : authorOf { db with funds := funds' } quote.documentId = some e.authorId := by
    rw [authorOf, hdocument, hauthor]
    rfl
  exact hposted.balanced hstart howned hamount honce'

theorem recordSettlement_balanced (h : Balanced db)
    (hrecord : Calls.recordChainSettlement db now ext saleIds sale = .ok db')
    (honce : db.funds.chainSettlements.get? (trim sale.quoteId) = none →
      ∀ quote, db.funds.paymentQuotes.get? (trim sale.quoteId) = some quote →
        SoldOnce db quote.documentId quote.priceKrw) : Balanced db' := by
  simp only [Calls.recordChainSettlement, bind_eq_ok] at hrecord
  obtain ⟨_, -, hrecord⟩ := hrecord
  split at hrecord
  · split at hrecord
    · simp only [replayChain, bind_eq_ok, pure_eq_ok] at hrecord
      obtain ⟨_, -, rfl⟩ := hrecord
      exact h
    · cases hrecord
  · next hnone => exact settleDocument_balanced h hrecord (honce hnone)

theorem closePaySh_same (h : closePaySh attempt db = .ok db') : db' = db := by
  unfold closePaySh at h
  split at h
  · simp only [bind_eq_ok, pure_eq_ok] at h
    obtain ⟨_, -, rfl⟩ := h
    rfl
  · cases h
    rfl

theorem deliverPaySh_balanced (h : Balanced db)
    (hdeliver : deliverPaySh db now ext earningId resource quote document = .ok db')
    (hdocument : db.documents.get? quote.documentId = some document)
    (honce : payShRecorded db resource = false → SoldOnce db quote.documentId quote.priceKrw) :
    Balanced db' := by
  simp only [deliverPaySh, bind_eq_ok, asI64_eq_ok] at hdeliver
  obtain ⟨time, -, total, ⟨-, htotal⟩, hdeliver⟩ := hdeliver
  rw [htotal] at hdeliver
  split at hdeliver
  · cases hdeliver
    exact h
  · next hrecorded =>
    simp only [bind_eq_ok, orReject_eq_ok] at hdeliver
    obtain ⟨settlements, -, hpost⟩ := hdeliver
    obtain ⟨e, hposted, hauthor, hamount⟩ := postOnchainSale_posted hpost
    refine hposted.balanced h ?_ hamount (honce (by simpa using hrecorded))
    rw [authorOf, hauthor]
    change (db.documents.get? _).map _ = _
    rw [hdocument]
    rfl

theorem deliverPayShQuote_balanced (h : Balanced db)
    (hdeliver : deliverPayShQuote db now ext earningId resource attempt = .ok db')
    (honce : payShSettlement db resource = none → payShRecorded db resource = false →
      ∀ quote, db.funds.paymentQuotes.get? resource.quoteId = some quote →
        SoldOnce db quote.documentId quote.priceKrw) : Balanced db' := by
  simp only [deliverPayShQuote, bind_eq_ok, orReject_eq_ok, Option.filter_eq_some_iff] at hdeliver
  obtain ⟨_, -, funds, hbind, quote, ⟨hquote, -⟩, document, hdocument, hdeliver⟩ := hdeliver
  have hstart : Balanced { db with funds := funds } := h
  split at hdeliver
  · rw [closePaySh_same hdeliver]
    exact hstart
  · next hnone =>
    simp only [bind_eq_ok] at hdeliver
    obtain ⟨mid, hdeliver, hclose⟩ := hdeliver
    rw [closePaySh_same hclose]
    rw [hnone] at hbind hquote
    obtain ⟨q, hq, hsame, hprice⟩ := bound_quote hbind hquote
    have hrecorded : payShRecorded { db with funds := funds } resource = payShRecorded db resource := by
      simp only [payShRecorded, bound_settlements hbind]
    apply deliverPaySh_balanced hstart hdeliver hdocument
    intro hnew
    rw [hrecorded] at hnew
    have honce' := honce hnone hnew q hq
    rw [hsame, hprice] at honce'
    exact honce'

end Rails

section Runs

theorem step_balanced (h : Balanced db) (hstep : Step app ext db e db')
    (hsingle : (execute app ext db e).isOk = true → Single db e) : Balanced db' := by
  cases hstep with
  | error _ => exact h
  | ok hfresh hexecute =>
    have honce := hsingle (by rw [hexecute]; rfl)
    obtain ⟨now, later, operation⟩ := e
    cases operation with
    | answer ids reflections request => exact answer_balanced h hexecute hfresh
    | runAgents ids openCallId =>
      simp only [execute, runCallAgents] at hexecute
      split at hexecute
      · cases hexecute
        exact h
      · exact agents_balanced h hexecute
    | review ids reviewerId memoryId request => exact review_balanced h hexecute hfresh
    | openDocuments ids queryId handles payer => exact openDocuments_balanced h hexecute honce
    | recordSettlement ids request => exact recordSettlement_balanced h hexecute honce
    | deliverPaySh earningId resource attempt => exact deliverPayShQuote_balanced h hexecute honce
    | elsewhere change =>
      cases hexecute
      exact h

theorem earnings_agree (hmemories : db₀.memoryEntries.rows = []) (hevents : db₀.earningEvents.rows = [])
    (htrace : Trace (fun db e db' => Step app ext db e db' ∧
      ((execute app ext db e).isOk = true → Single db e)) db₀ events db) : Agree db := by
  have hstart : Balanced db₀ := by
    refine ⟨?_, ?_, ?_⟩
    · intro m hm
      rw [hmemories] at hm
      cases hm
    · intro m hm
      rw [hmemories] at hm
      cases hm
    · intro userId
      rw [hmemories, hevents]
      rfl
  have hbalanced := htrace.invariant hstart fun _ _ _ h hstep => step_balanced h hstep.1 hstep.2
  exact hbalanced.agree

end Runs

section Samples

instance (app : Appraisal) (db : Database) (documentId : String) :
    Decidable (newDocument app db documentId) :=
  inferInstanceAs (Decidable (_ ∧ _))

instance (app : Appraisal) (db : Database) (e : Event) : Decidable (e.Fresh app db) :=
  match e with
  | ⟨_, _, .answer ids _ _⟩ => inferInstanceAs (Decidable (newDocument app db ids.document))
  | ⟨_, _, .runAgents _ _⟩ => inferInstanceAs (Decidable True)
  | ⟨_, _, .review ids _ _ _⟩ => inferInstanceAs (Decidable (newDocument app db ids.document))
  | ⟨_, _, .openDocuments _ _ _ _⟩ => inferInstanceAs (Decidable True)
  | ⟨_, _, .recordSettlement _ _⟩ => inferInstanceAs (Decidable True)
  | ⟨_, _, .deliverPaySh _ _ _⟩ => inferInstanceAs (Decidable True)
  | ⟨_, _, .elsewhere _⟩ => inferInstanceAs (Decidable True)

def accept (app : Appraisal) (ext : Externals) (db : Database) (e : Event) : Option Database :=
  if e.Fresh app db then (execute app ext db e).toOption else none

theorem accept_step (h : accept app ext db e = some db') : Step app ext db e db' := by
  unfold accept at h
  split at h
  · next hfresh => exact .ok hfresh (toOption_eq_some.mp h)
  · cases h

-- bob is an agent, and the question is asked twice
def marketDatabase : Database :=
  { Database.empty emptyFunds with
    users := ⟨[⟨"bob", false⟩], by simp⟩
    profiles := ⟨[{ sampleProfile "bob" with agents := true }], by simp⟩
    openCalls := ⟨[sampleCall, { sampleCall with id := "call_2" }], by decide⟩
    balances := ⟨[⟨"bob", 0, 0, 0, 0, 0⟩], by simp⟩
    funds := { emptyFunds with queries := ["query"] } }

def bobTells : Event := ⟨2000, 2000, .answer sampleIds [] bobRequest⟩

def bobIsMatched : Event :=
  ⟨3000, 3000, .runAgents (fun _ => ⟨"memory_c", "md_c", "earning_c", "payout_c"⟩) "call_2"⟩

def bobIsQuoted : Event :=
  ⟨4000, 4000, .elsewhere fun db => { db with queryMatches := ⟨[⟨"query", "MDmd_b", 1350⟩], by simp⟩ }⟩

def bobIsOpened : Event :=
  ⟨5000, 5000, .openDocuments ⟨"settlement", fun i => "earning_" ++ i⟩ "query" ["MDmd_b"] none⟩

def sampleExternals : Externals where
  encoding := .standard
  hexDigest text := text

theorem earnings_agree_sample :
    ∃ db, Trace (fun db e db' => Step sampleAppraisal sampleExternals db e db' ∧
        ((execute sampleAppraisal sampleExternals db e).isOk = true → Single db e)) marketDatabase
        [bobTells, bobIsQuoted, bobIsOpened] db ∧ earned db "bob" = 2700 ∧ Agree db := by
  have hrun : (accept sampleAppraisal sampleExternals marketDatabase bobTells).any (fun told =>
      (accept sampleAppraisal sampleExternals told bobIsQuoted).any fun quoted =>
        decide (copies quoted "md_b" = 1) &&
        quoted.documents.rows.all (fun d => decide (d.handle = "MDmd_b" → d.id = "md_b")) &&
        (accept sampleAppraisal sampleExternals quoted bobIsOpened).any fun db =>
          decide (earned db "bob" = 2700)) = true := by
    decide +kernel
  obtain ⟨told, htold, hrun⟩ := (Option.any_eq_true _ _).mp hrun
  obtain ⟨quoted, hquoted, hrun⟩ := (Option.any_eq_true _ _).mp hrun
  simp only [Bool.and_eq_true, decide_eq_true_eq, List.all_eq_true, Option.any_eq_true] at hrun
  obtain ⟨⟨hcopies, hhandle⟩, db, hopened, hearned⟩ := hrun
  have hstart : Trace (fun db e db' => Step sampleAppraisal sampleExternals db e db' ∧
      ((execute sampleAppraisal sampleExternals db e).isOk = true → Single db e)) marketDatabase []
      marketDatabase := .nil
  have hsingle : Single quoted bobIsOpened := by
    intro _ handle hmem o ho
    obtain rfl := List.mem_singleton.mp hmem
    simp only [openDocument, bind_eq_ok, orReject_eq_ok, Option.filter_eq_some_iff, pure_eq_ok] at ho
    obtain ⟨_, -, d, ⟨hfind, -⟩, rfl⟩ := ho
    have hname := List.find?_some hfind
    have hid := hhandle d (List.mem_of_find?_eq_some hfind) (by simpa using hname)
    right
    rw [hid]
    exact hcopies
  have htrace := ((hstart.snoc ⟨accept_step htold, fun _ => trivial⟩).snoc
    ⟨accept_step hquoted, fun _ => trivial⟩).snoc ⟨accept_step hopened, fun _ => hsingle⟩
  exact ⟨db, htrace, hearned, earnings_agree rfl rfl htrace⟩

-- a reused answer is sold, and both memories are credited for one earning
theorem reuse_credited_twice :
    ∃ db, Trace (Step sampleAppraisal sampleExternals) marketDatabase
        [bobTells, bobIsMatched, bobIsQuoted, bobIsOpened] db ∧
      earned db "bob" = 5400 ∧ accrued db "bob" = 4050 ∧ ¬Agree db := by
  have hrun : (runWith (accept sampleAppraisal sampleExternals) marketDatabase
      [bobTells, bobIsMatched, bobIsQuoted, bobIsOpened]).any (fun db =>
        decide (earned db "bob" = 5400 ∧ accrued db "bob" = 4050)) = true := by
    decide +kernel
  obtain ⟨db, hdb, hbad⟩ := (Option.any_eq_true _ _).mp hrun
  obtain ⟨hearned, haccrued⟩ := of_decide_eq_true hbad
  refine ⟨db, runWith_trace (fun _ _ _ => accept_step) hdb, hearned, haccrued, ?_⟩
  intro hagree
  have hsame := hagree "bob"
  omega

end Samples

end Obulus.Calls.Books
