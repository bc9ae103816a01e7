import Obulus.Calls.Owner

namespace Obulus.Calls

open Foundation Store Funds

variable {app : Appraisal} {db db' : Database} {call row : StoredCall} {ids : AnswerIds}
  {payout : Option OnchainPayout} {errors : DrawErrors} {now createdAt : Nat}

section Rows

theorem insertMemory_eq_ok {m : MemoryEntry} : insertMemory db m = .ok db' ↔
    ∃ t, db.memoryEntries.insert? m = some t ∧ { db with memoryEntries := t } = db' := by
  simp only [insertMemory, bind_eq_ok, orReject_eq_ok, pure_eq_ok]

theorem insertReflections_effect {userId : String} {reflections : List Reflection}
    (h : insertReflections db userId reflections = .ok db') :
    ∃ t, { db with memoryEntries := t } = db' ∧
      t.rows = db.memoryEntries.rows ++ reflections.map (Reflection.entry userId) := by
  induction reflections generalizing db with
  | nil =>
    simp only [insertReflections, Except.ok.injEq] at h
    subst h
    exact ⟨db.memoryEntries, rfl, by simp⟩
  | cons r rest ih =>
    simp only [insertReflections, bind_eq_ok, insertMemory_eq_ok] at h
    obtain ⟨_, ⟨t, ht, rfl⟩, h⟩ := h
    obtain ⟨t', rfl, hrows⟩ := ih h
    refine ⟨t', rfl, ?_⟩
    rw [hrows, (Table.insert?_eq_some.mp ht).2]
    simp

theorem insertDocument_frame (d : Document) : ∃ t, { db with documents := t } = insertDocument db d := by
  unfold insertDocument
  split
  · exact ⟨_, rfl⟩
  · exact ⟨_, rfl⟩

def NewDocument (db : Database) (d : Document) : Prop :=
  db.documents.get? d.id = none ∧ ∀ d' ∈ db.documents.rows, d'.handle ≠ d.handle

theorem insertDocument_new {d : Document} (h : NewDocument db d) :
    ∃ t, db.documents.insert? d = some t ∧ { db with documents := t } = insertDocument db d := by
  have hput := Table.put_eq_insert? h.1
  refine ⟨_, hput, ?_⟩
  unfold insertDocument
  rw [if_neg]
  · rw [hput]
    rfl
  · simpa using h.2

end Rows

section Money

variable {id authorId source : String} {settlementId memoryId documentId : Option String}
  {amountKrw : Nat}

structure EarningFrame (db db' : Database) (e : EarningEvent) : Prop where
  earnings : db.earningEvents.insert? e = some db'.earningEvents
  frame : { db with
    earningEvents := db'.earningEvents
    balances := db'.balances
    payoutClaims := db'.payoutClaims } = db'

theorem insertEarning_eq_ok {e : EarningEvent} : insertEarning db e = .ok db' ↔
    ∃ t, db.earningEvents.insert? e = some t ∧ { db with earningEvents := t } = db' := by
  simp only [insertEarning, bind_eq_ok, orReject_eq_ok, pure_eq_ok]

theorem insertEarningEvent_frame
    (h : insertEarningEvent db id settlementId memoryId documentId authorId source amountKrw now =
      .ok db') :
    ∃ e, EarningFrame db db' e ∧ e.authorId = authorId ∧ e.amountKrw = amountKrw ∧
      e.memoryId = memoryId := by
  simp only [insertEarningEvent, bind_eq_ok, asI64_eq_ok, insertEarning_eq_ok, accrue,
    reject_eq_ok, exists_const, pure_eq_ok] at h
  obtain ⟨_, -, _, ⟨-, rfl⟩, _, -, _, -, _, ⟨t, ht, rfl⟩, -, rfl⟩ := h
  exact ⟨_, ⟨ht, rfl⟩, rfl, rfl, rfl⟩

theorem insertOutsideEarning_frame {status : EarningStatus} {wallet : String}
    (h : insertOutsideEarning db id settlementId memoryId documentId authorId source amountKrw now
      status wallet = .ok db') :
    ∃ e, EarningFrame db db' e ∧ e.authorId = authorId ∧ e.amountKrw = amountKrw ∧
      e.memoryId = memoryId := by
  simp only [insertOutsideEarning, bind_eq_ok, asI64_eq_ok, insertEarning_eq_ok] at h
  obtain ⟨_, ⟨-, rfl⟩, _, -, _, -, _, -, t, ht, rfl⟩ := h
  exact ⟨_, ⟨ht, rfl⟩, rfl, rfl, rfl⟩

theorem insertPayoutClaim_frame {c : Payout.NewClaim} (h : insertPayoutClaim app db c = .ok db') :
    ∃ t, { db with payoutClaims := t } = db' := by
  simp only [insertPayoutClaim, bind_eq_ok, reject_eq_ok, orReject_eq_ok, asI64_eq_ok, exists_const,
    pure_eq_ok] at h
  obtain ⟨-, -, _, -, _, -, _, -, -, t, -, rfl⟩ := h
  exact ⟨t, rfl⟩

theorem payAnswer_frame {userId memoryId documentId kind : String}
    (h : payAnswer app db call ids payout userId memoryId documentId source kind amountKrw now =
      .ok db') :
    ∃ e, EarningFrame db db' e ∧ e.authorId = userId ∧ e.amountKrw = amountKrw ∧
      e.memoryId = some memoryId := by
  unfold payAnswer at h
  cases payout with
  | none => exact insertEarningEvent_frame h
  | some payout =>
    simp only [insertOpenCallOnchainEarningEvent, bind_eq_ok, orReject_eq_ok] at h
    obtain ⟨mid, hearning, _, -, _, -, _, -, hclaim⟩ := h
    obtain ⟨e, ⟨hearnings, hframe⟩, hauthor, hamount, hmemory⟩ := insertOutsideEarning_frame hearning
    obtain ⟨t, rfl⟩ := insertPayoutClaim_frame hclaim
    refine ⟨e, ⟨hearnings, ?_⟩, hauthor, hamount, hmemory⟩
    rw [← hframe]

end Money

section Draw

-- one slot of an open call is taken
structure Drawn (db db' : Database) (call row : StoredCall) (remaining : Option Nat) : Prop where
  held : db.openCalls.get? call.id = some row
  open' : takesAnswers row = true
  calls : { db with openCalls := db.openCalls.put (counted row remaining) } = db'

theorem drawEscrow_drawn (h : drawEscrow db call errors payout = .ok db') :
    ∃ row remaining, Drawn db db' call row remaining := by
  cases payout with
  | some payout =>
    simp only [drawEscrow, drawOnchain, bind_eq_ok, orReject_eq_ok, Option.filter_eq_some_iff,
      Bool.and_eq_true, pure_eq_ok] at h
    obtain ⟨_, -, row, ⟨hget, ⟨hopen, -⟩, -⟩, rfl⟩ := h
    exact ⟨row, _, hget, hopen, rfl⟩
  | none =>
    simp only [drawEscrow, drawPrepaid, bind_eq_ok, orReject_eq_ok, Option.filter_eq_some_iff,
      Bool.and_eq_true, pure_eq_ok] at h
    obtain ⟨_, -, _, -, row, ⟨hget, hopen, -⟩, rfl⟩ := h
    exact ⟨row, _, hget, hopen, rfl⟩

end Draw

section Refusals

variable {P : StoreError → Prop} {userId : String} {reflections : List Reflection}
  {request : AnswerRequest}

-- P says nothing of the errors that any operation may end in
structure Routine (P : StoreError → Prop) : Prop where
  validation : ∀ message, P (.validation message)
  database : ∀ message, P (.database message)
  notFound : ∀ what, P (.notFound what)
  wallet : P (.conflict "funded call has no escrow wallet")
  asset : P (.conflict "funded call has no escrow asset")
  network : P (.conflict "funded call has no escrow network")

theorem asI64_raises (h : Routine P) {n : Nat} : Raises P (asI64 n) :=
  (raises_reject fun _ => h.validation _).bind fun _ _ => raises_ok

theorem krwToAtomicPinned_raises (h : Routine P) {n : Nat} : Raises P (krwToAtomicPinned n) := by
  unfold krwToAtomicPinned
  split
  · exact raises_ok
  · refine (raises_reject fun _ => h.validation _).bind fun _ _ => ?_
    exact (raises_reject fun _ => h.validation _).bind fun _ _ => raises_ok

theorem checkAnswer_raises (h : Routine P) : Raises P (checkAnswer request) := by
  have hturns (responses : List InterviewResponse) :
      ∀ ids, Raises P (validateTurns ids responses) := by
    induction responses with
    | nil => exact fun ids => raises_ok
    | cons response rest ih =>
      intro ids
      refine Raises.bind ?_ fun turn _ => (ih _).bind fun _ _ => raises_ok
      refine (raises_reject fun _ => h.validation _).bind fun _ _ => ?_
      refine (raises_reject fun _ => h.validation _).bind fun _ _ => ?_
      refine (raises_reject fun _ => h.validation _).bind fun _ _ => ?_
      exact (raises_reject fun _ => h.validation _).bind fun _ _ => raises_ok
  refine (raises_reject fun _ => h.validation _).bind fun _ _ => ?_
  refine (raises_reject fun _ => h.validation _).bind fun _ _ => ?_
  refine (raises_reject fun _ => h.validation _).bind fun _ _ => ?_
  exact (raises_reject fun _ => h.validation _).bind fun _ _ => hturns _ _

theorem insertMemory_raises (h : Routine P) {m : MemoryEntry} : Raises P (insertMemory db m) :=
  (raises_orReject fun _ => h.database _).bind fun _ _ => raises_ok

theorem insertReflections_raises (h : Routine P) :
    Raises P (insertReflections db userId reflections) := by
  induction reflections generalizing db with
  | nil => exact raises_ok
  | cons r rest ih => exact (insertMemory_raises h).bind fun _ _ => ih

theorem insertEarning_raises (h : Routine P) {e : EarningEvent} : Raises P (insertEarning db e) :=
  (raises_orReject fun _ => h.database _).bind fun _ _ => raises_ok

theorem payAnswer_raises (h : Routine P) {memoryId documentId source kind : String} {amountKrw : Nat} :
    Raises P
      (payAnswer app db call ids payout userId memoryId documentId source kind amountKrw now) := by
  have hnumber {n : Nat} : Raises P (asI64 n) := asI64_raises h
  unfold payAnswer
  cases payout with
  | none =>
    refine (krwToAtomicPinned_raises h).bind fun _ _ => ?_
    refine hnumber.bind fun _ _ => hnumber.bind fun _ _ => hnumber.bind fun _ _ => ?_
    refine (insertEarning_raises h).bind fun _ _ => ?_
    exact (raises_reject fun _ => h.database _).bind fun _ _ => raises_ok
  | some payout =>
    refine Raises.bind ?_ fun _ _ => ?_
    · refine hnumber.bind fun _ _ => (krwToAtomicPinned_raises h).bind fun _ _ => ?_
      exact hnumber.bind fun _ _ => hnumber.bind fun _ _ => insertEarning_raises h
    refine (raises_orReject fun _ => h.wallet).bind fun _ _ => ?_
    refine (raises_orReject fun _ => h.asset).bind fun _ _ => ?_
    refine (raises_orReject fun _ => h.network).bind fun _ _ => ?_
    refine (raises_reject fun _ => h.validation _).bind fun _ _ => ?_
    refine (raises_reject fun _ => h.validation _).bind fun _ _ => ?_
    refine hnumber.bind fun _ _ => hnumber.bind fun _ _ => hnumber.bind fun _ _ => ?_
    refine (raises_reject fun _ => h.database _).bind fun _ _ => ?_
    exact (raises_orReject fun _ => h.database _).bind fun _ _ => raises_ok

end Refusals

end Obulus.Calls
