import Obulus.Calls.Sale
import Obulus.Foundation.Totals
import Obulus.Foundation.Trace

namespace Obulus.Calls.Books

open Foundation Store Funds

section Runs

variable (app : Appraisal) (ext : Externals)

inductive Operation
  | answer (ids : AnswerIds) (reflections : List Reflection) (request : AnswerRequest)
  | runAgents (ids : String → AnswerIds) (openCallId : String)
  | review (ids : AnswerIds) (reviewerId memoryId : String) (request : ReviewDisputeRequest)
  | openDocuments (ids : SaleIds) (queryId : String) (handles : List String) (payer : Option String)
  | recordSettlement (ids : NewIds) (request : RecordChainSettlementRequest)
  | deliverPaySh (earningId : String) (resource : PayShResource) (attempt : Option PayShPaymentAttempt)
  | elsewhere (change : Database → Database)

structure Event where
  now : Nat
  later : Nat
  operation : Operation

-- what the other operations do, which leave the memories, documents and earnings as they are
def elsewhere (db other : Database) : Database :=
  { other with
    memoryEntries := db.memoryEntries
    documents := db.documents
    earningEvents := db.earningEvents }

def execute (db : Database) (e : Event) : Except StoreError Database :=
  match e.operation with
  | .answer ids reflections request =>
    submitAnswerWithInterview app db ids reflections e.now e.later request
  | .runAgents ids openCallId => runCallAgents app db e.now ids openCallId
  | .review ids reviewerId memoryId request => reviewDispute app db ids e.now reviewerId memoryId request
  | .openDocuments ids queryId handles payer => Calls.openDocuments db e.now ids queryId handles payer
  | .recordSettlement ids request => Calls.recordChainSettlement db e.now ext ids request
  | .deliverPaySh earningId resource attempt =>
    deliverPayShQuote db e.now ext earningId resource attempt
  | .elsewhere change => .ok (elsewhere db (change db))

def newDocument (app : Appraisal) (db : Database) (documentId : String) : Prop :=
  db.documents.get? documentId = none ∧ ∀ d ∈ db.documents.rows, d.handle ≠ app.handleFromId documentId

-- `new_id` gives ids that name nothing yet
def Event.Fresh (db : Database) (e : Event) : Prop :=
  match e.operation with
  | .answer ids _ _ => newDocument app db ids.document
  | .review ids _ _ _ => newDocument app db ids.document
  | _ => True

inductive Step (db : Database) (e : Event) : Database → Prop
  | ok {db' : Database} : e.Fresh app db → execute app ext db e = .ok db' → Step db e db'
  | error {error : StoreError} : execute app ext db e = .error error → Step db e db

def earned (db : Database) (userId : String) : Nat :=
  total (fun m => decide (m.userId = userId)) MemoryEntry.earnedKrw db.memoryEntries.rows

def accrued (db : Database) (userId : String) : Nat :=
  total (fun e => decide (e.authorId = userId)) EarningEvent.amountKrw db.earningEvents.rows

def Agree (db : Database) : Prop := ∀ userId, earned db userId = accrued db userId

def copies (db : Database) (documentId : String) : Nat :=
  db.memoryEntries.rows.countP (sold documentId)

-- a sale at a price is of a document that one memory stands for
def SoldOnce (db : Database) (documentId : String) (priceKrw : Nat) : Prop :=
  priceKrw = 0 ∨ copies db documentId = 1

def Single (db : Database) (e : Event) : Prop :=
  match e.operation with
  | .openDocuments _ queryId handles payer => replayed db queryId handles payer = false →
      ∀ handle ∈ handles, ∀ o, openDocument db queryId handle = .ok o →
        SoldOnce db o.document.id o.priceKrw
  | .recordSettlement _ request => db.funds.chainSettlements.get? (trim request.quoteId) = none →
      ∀ quote, db.funds.paymentQuotes.get? (trim request.quoteId) = some quote →
        SoldOnce db quote.documentId quote.priceKrw
  | .deliverPaySh _ resource _ => payShSettlement db resource = none → payShRecorded db resource = false →
      ∀ quote, db.funds.paymentQuotes.get? resource.quoteId = some quote →
        SoldOnce db quote.documentId quote.priceKrw
  | _ => True

end Runs

section Abstract

structure BooksOk (memories : List MemoryEntry) (author : String → Option String)
    (events : List EarningEvent) : Prop where
  owned : ∀ m ∈ memories, ∀ i, m.documentId = some i → author i = some m.userId
  voided : ∀ m ∈ memories, m.status = .voided → m.earnedKrw = 0
  agree : ∀ userId, total (fun m => decide (m.userId = userId)) MemoryEntry.earnedKrw memories =
    total (fun e => decide (e.authorId = userId)) EarningEvent.amountKrw events

variable {memories added : List MemoryEntry} {author author' : String → Option String}
  {events : List EarningEvent} {m : MemoryEntry} {e : EarningEvent} {documentId memoryId : String}
  {priceKrw krw : Nat}

theorem BooksOk.publish (h : BooksOk memories author events)
    (hmore : ∀ i a, author i = some a → author' i = some a) : BooksOk memories author' events :=
  ⟨fun m hm i hi => hmore i _ (h.owned m hm i hi), h.voided, h.agree⟩

theorem BooksOk.remember (h : BooksOk memories author events)
    (hadded : ∀ m ∈ added, m.earnedKrw = 0 ∧ m.documentId = none) :
    BooksOk (memories ++ added) author events := by
  refine ⟨?_, ?_, ?_⟩
  · intro m hm i hi
    rcases List.mem_append.mp hm with hm | hm
    · exact h.owned m hm i hi
    · rw [(hadded m hm).2] at hi
      cases hi
  · intro m hm hvoided
    rcases List.mem_append.mp hm with hm | hm
    · exact h.voided m hm hvoided
    · exact (hadded m hm).1
  · intro userId
    have hzero : total (fun m => decide (m.userId = userId)) MemoryEntry.earnedKrw added = 0 :=
      total_eq_zero fun m hm _ => (hadded m hm).1
    rw [total_append, hzero, h.agree userId, Nat.add_zero]

theorem BooksOk.earn (h : BooksOk memories author events) (huser : e.authorId = m.userId)
    (hamount : e.amountKrw = m.earnedKrw) (hsettled : m.status = .settled)
    (howned : ∀ i, m.documentId = some i → author i = some m.userId) :
    BooksOk (memories ++ [m]) author (events ++ [e]) := by
  refine ⟨?_, ?_, ?_⟩
  · intro n hn i hi
    rcases List.mem_append.mp hn with hn | hn
    · exact h.owned n hn i hi
    · obtain rfl := List.mem_singleton.mp hn
      exact howned i hi
  · intro n hn hvoided
    rcases List.mem_append.mp hn with hn | hn
    · exact h.voided n hn hvoided
    · obtain rfl := List.mem_singleton.mp hn
      rw [hsettled] at hvoided
      cases hvoided
  · intro userId
    simp only [total_append, total_cons, total_nil, h.agree userId, huser, hamount]

theorem BooksOk.restore (h : BooksOk memories author events)
    (hunique : memories.filter (fun m => decide (m.id = memoryId)) = [m]) (hvoided : m.status = .voided)
    (hauthor : e.authorId = m.userId) (hamount : e.amountKrw = krw)
    (howned : author documentId = some m.userId) :
    BooksOk (memories.map fun m =>
        if decide (m.id = memoryId) = true then
          { m with status := .settled, documentId := some documentId, earnedKrw := krw }
        else m)
      author (events ++ [e]) := by
  have hm : ∀ n ∈ memories, n.id = memoryId → n = m := by
    intro n hn hid
    have hmem : n ∈ memories.filter fun m => decide (m.id = memoryId) :=
      List.mem_filter.mpr ⟨hn, by simpa using hid⟩
    rw [hunique] at hmem
    exact List.mem_singleton.mp hmem
  have hmem : m ∈ memories := by
    have hfilter : m ∈ memories.filter fun m => decide (m.id = memoryId) := by simp [hunique]
    exact (List.mem_filter.mp hfilter).1
  refine ⟨?_, ?_, ?_⟩
  · intro n hn i hi
    obtain ⟨old, hold, rfl⟩ := List.mem_map.mp hn
    split at hi
    · next hid =>
      rw [decide_eq_true_eq] at hid
      obtain rfl := hm old hold hid
      obtain rfl := Option.some.inj hi
      simpa [hid] using howned
    · next hid =>
      simpa [hid] using h.owned old hold i hi
  · intro n hn hstatus
    obtain ⟨old, hold, rfl⟩ := List.mem_map.mp hn
    split at hstatus
    · cases hstatus
    · next hid => simpa [hid] using h.voided old hold hstatus
  · intro userId
    have hupdate : total (fun m => decide (m.userId = userId)) MemoryEntry.earnedKrw (memories.map fun m =>
        if decide (m.id = memoryId) = true then
          { m with status := .settled, documentId := some documentId, earnedKrw := krw }
        else m) + total (fun m => decide (m.id = memoryId)) (fun _ => 0) memories =
        total (fun m => decide (m.userId = userId)) MemoryEntry.earnedKrw memories +
          total (fun m => decide (m.id = memoryId)) (fun m => if m.userId = userId then krw else 0)
            memories := by
      apply total_update
      intro n hn hid
      rw [decide_eq_true_eq] at hid
      obtain rfl := hm n hn hid
      simp [h.voided n hmem hvoided]
    have hgain : total (fun m : MemoryEntry => decide (m.id = memoryId))
        (fun m => if m.userId = userId then krw else 0) memories =
          if m.userId = userId then krw else 0 := by
      rw [total, hunique]
      simp
    have hnone : total (fun m : MemoryEntry => decide (m.id = memoryId)) (fun _ => 0) memories = 0 :=
      total_eq_zero fun _ _ _ => rfl
    rw [hgain, hnone, Nat.add_zero] at hupdate
    rw [hupdate, h.agree userId]
    simp [hauthor, hamount]

theorem BooksOk.sell (h : BooksOk memories author events) (howned : author documentId = some e.authorId)
    (hamount : e.amountKrw = priceKrw)
    (honce : priceKrw = 0 ∨ memories.countP (sold documentId) = 1) :
    BooksOk (memories.map fun m =>
        if sold documentId m = true then { m with earnedKrw := m.earnedKrw + priceKrw } else m)
      author (events ++ [e]) := by
  refine ⟨?_, ?_, ?_⟩
  · intro n hn i hi
    obtain ⟨old, hold, rfl⟩ := List.mem_map.mp hn
    have hdocument : old.documentId = some i := by
      split at hi <;> exact hi
    have hauthor := h.owned old hold i hdocument
    split <;> exact hauthor
  · intro n hn hstatus
    obtain ⟨old, hold, rfl⟩ := List.mem_map.mp hn
    split at hstatus
    · next hsold =>
      simp only [sold, decide_eq_true_eq] at hsold
      change old.status = .voided at hstatus
      rw [hsold.2] at hstatus
      cases hstatus
    · next hsold => simpa [hsold] using h.voided old hold hstatus
  · intro userId
    have hupdate : total (fun m => decide (m.userId = userId)) MemoryEntry.earnedKrw (memories.map fun m =>
        if sold documentId m = true then { m with earnedKrw := m.earnedKrw + priceKrw } else m) +
          total (sold documentId) (fun _ => 0) memories =
        total (fun m => decide (m.userId = userId)) MemoryEntry.earnedKrw memories +
          total (sold documentId) (fun _ => if e.authorId = userId then priceKrw else 0) memories := by
      apply total_update
      intro n hn hsold
      simp only [sold, decide_eq_true_eq] at hsold
      have hauthor := h.owned n hn documentId hsold.1
      rw [howned, Option.some.injEq] at hauthor
      rw [hauthor]
      by_cases hu : n.userId = userId <;> simp [hu]
    have hgain : total (sold documentId) (fun _ => if e.authorId = userId then priceKrw else 0) memories =
        if e.authorId = userId then priceKrw else 0 := by
      rw [total_const fun _ _ _ => rfl]
      rcases honce with hzero | hone
      · simp [hzero]
      · rw [hone, Nat.one_mul]
    have hnone : total (sold documentId) (fun _ => 0) memories = 0 := total_eq_zero fun _ _ _ => rfl
    rw [hgain, hnone, Nat.add_zero] at hupdate
    rw [hupdate, h.agree userId]
    simp [hamount]

end Abstract

end Obulus.Calls.Books
