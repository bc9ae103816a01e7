import Obulus.Calls.Effects
import Obulus.Foundation.Trace

namespace Obulus.Calls

open Foundation Store Funds

variable {app : Appraisal} {db db' : Database} {call : StoredCall} {now now' createdAt : Nat}
  {callId userId : String}

section Runs

inductive Operation
  | reserve (openCallId userId : String)
  | release (openCallId userId : String)
  | submit (ids : AnswerIds) (reflections : List Reflection) (request : AnswerRequest)
  | autoMatch (ids : String → AnswerIds) (openCallId : String)
  | review (ids : AnswerIds) (reviewerId memoryId : String) (request : ReviewDisputeRequest)
  | cancel (refundId userId openCallId : String)

-- the clock as the operation reads it first and last
structure Event where
  now : Nat
  later : Nat
  operation : Operation

def execute (app : Appraisal) (db : Database) (e : Event) : Except StoreError Database :=
  match e.operation with
  | .reserve openCallId userId => reserveOpenCall db e.now openCallId userId
  | .release openCallId userId => .ok (releaseOpenCallReservation db openCallId userId)
  | .submit ids reflections request =>
    submitAnswerWithInterview app db ids reflections e.now e.later request
  | .autoMatch ids openCallId => runCallAgents app db e.now ids openCallId
  | .review ids reviewerId memoryId request =>
    reviewDispute app db ids e.now reviewerId memoryId request
  | .cancel refundId userId openCallId => cancelOpenCall app db refundId e.now userId openCallId

-- the slots promised to contributors who have neither used nor given them up
def Event.promises (e : Event) (granted : Table Reservation.key) : Table Reservation.key :=
  match e.operation with
  | .reserve openCallId userId =>
    granted.put ⟨openCallId, userId, saturatingAdd e.now answerReservationTtlMs⟩
  | .release openCallId userId => granted.delete fun r => decide (r.key = (openCallId, userId))
  | .submit _ _ request => granted.delete fun r => decide (r.key = (request.openCallId, request.user))
  | .autoMatch _ _ => granted
  | .review _ _ _ _ => granted
  | .cancel _ _ openCallId => granted.delete fun r => decide (r.openCallId = openCallId)

structure Desk where
  db : Database
  granted : Table Reservation.key
  clock : Nat

inductive DeskStep (app : Appraisal) (w : Desk) (e : Event) : Desk → Prop
  | ok {db' : Database} : w.clock ≤ e.now → e.now ≤ e.later → execute app w.db e = .ok db' →
      DeskStep app w e ⟨db', e.promises w.granted, e.later⟩
  | error {error : StoreError} : w.clock ≤ e.now → e.now ≤ e.later →
      execute app w.db e = .error error → DeskStep app w e ⟨w.db, w.granted, e.later⟩

end Runs

section Guarantee

def unexpired (db : Database) (now : Nat) (callId : String) : Nat :=
  db.reservations.rows.countP fun r => decide (r.openCallId = callId ∧ now < r.expiresAt)

def Bounded (db : Database) (now : Nat) : Prop :=
  ∀ callId call, db.openCalls.get? callId = some call →
    call.answered ≤ call.target ∧ unexpired db now callId ≤ call.target - call.answered

def exhaustedError : StoreError := .conflict "open-call on-chain escrow is exhausted"

-- an answer to a full call on chain is refused by its escrow, before its slots are counted
def fullErrors : List StoreError :=
  [.conflict "this open call is already full",
    .conflict "all remaining slots are reserved; refresh and try another call",
    .conflict "this open call is already full or its escrow is exhausted",
    exhaustedError]

def HasSlot (db : Database) (callId : String) : Prop :=
  ∃ call, db.openCalls.get? callId = some call ∧ call.answered < call.target

-- a refusal for another reason than that the call is full: while a slot is open, an exhausted escrow
-- is one
def Otherwise (db : Database) (callId : String) (error : StoreError) : Prop :=
  error ∈ fullErrors → error = exhaustedError ∧ HasSlot db callId

def Honoured (app : Appraisal) (w : Desk) : Prop :=
  ∀ r ∈ w.granted.rows, ∀ ids reflections request now createdAt,
    request.openCallId = r.openCallId → request.user = r.userId →
    w.clock ≤ now → now < r.expiresAt →
    Raises (Otherwise w.db r.openCallId)
      (submitAnswerWithInterview app w.db ids reflections now createdAt request)

-- a slot that no reservation holds
def Spare (db : Database) (now : Nat) (callId : String) : Prop :=
  ∀ call, db.openCalls.get? callId = some call → unexpired db now callId + call.answered < call.target

def Matches (app : Appraisal) (db : Database) (callId : String) (call : StoredCall) (userId : String) :
    Prop :=
  ∃ profile source, agentMatch app db callId call userId = some (profile, source) ∧
    (call.escrowMode = .x402SolanaEscrow → payoutWallet app profile ≠ none)

def PassSpares (app : Appraisal) (now : Nat) (ids : String → AnswerIds) (callId : String) :
    Database → List String → Prop
  | _, [] => True
  | db, userId :: rest => ∀ call, db.openCalls.get? callId = some call → takesAnswers call = true →
      (Matches app db callId call userId → Spare db now callId) ∧
        ∀ mid, matchCandidate app db now ids callId call userId = .ok mid →
          PassSpares app now ids callId mid rest

-- no slot is taken behind the back of those who hold the open ones
def Spares (app : Appraisal) (w : Desk) (e : Event) : Prop :=
  (execute app w.db e).isOk = true →
  match e.operation with
  | .autoMatch ids callId => ∀ call, w.db.openCalls.get? callId = some call →
      PassSpares app e.now ids callId w.db (agentCandidates w.db call)
  | .review _ _ memoryId request => request.decision = "approved" →
      ∀ m callId, w.db.memoryEntries.get? memoryId = some m → m.openCallId = some callId →
        Spare w.db e.now callId
  | _ => True

structure Opens (w : Desk) : Prop where
  reservations : w.db.reservations.rows = []
  granted : w.granted.rows = []
  calls : ∀ callId call, w.db.openCalls.get? callId = some call → call.answered ≤ call.target

end Guarantee

section Counting

theorem unexpired_sublist (h : db'.reservations.rows.Sublist db.reservations.rows) :
    unexpired db' now callId ≤ unexpired db now callId := h.countP_le

theorem unexpired_later (h : now ≤ now') : unexpired db now' callId ≤ unexpired db now callId := by
  apply List.countP_mono_left
  intro r _ hr
  simp only [decide_eq_true_eq] at hr ⊢
  exact ⟨hr.1, by omega⟩

theorem unexpired_pos {r : Reservation} (hr : r ∈ db.reservations.rows) (hcall : r.openCallId = callId)
    (hnow : now < r.expiresAt) : 0 < unexpired db now callId := by
  apply List.countP_pos_iff.mpr
  exact ⟨r, hr, by simp [hcall, hnow]⟩

theorem reservation_key {r : Reservation} (h : db.reservations.get? (callId, userId) = some r) :
    r.openCallId = callId ∧ r.userId = userId := by
  have hkey : Reservation.key r = (callId, userId) := @Table.get?_key _ _ Reservation.key _ _ _ _ h
  simpa [Reservation.key] using hkey

theorem ownsReservation_eq : ownsReservation db now callId userId =
    (db.reservations.get? (callId, userId)).any fun r =>
      decide (r.openCallId = callId ∧ now < r.expiresAt) := by
  unfold ownsReservation
  cases hget : db.reservations.get? (callId, userId) with
  | none => rfl
  | some r =>
    simp [(reservation_key hget).1]

theorem unexpired_delete : unexpired (deleteReservation db callId userId) now callId +
    (if ownsReservation db now callId userId then 1 else 0) = unexpired db now callId := by
  rw [ownsReservation_eq]
  exact Table.countP_delete_key

theorem activeOfOthers_eq :
    activeOfOthers db now callId userId = unexpired (deleteReservation db callId userId) now callId := by
  simp only [activeOfOthers, unexpired, deleteReservation, Table.delete, List.countP_filter]
  apply List.countP_congr
  intro r _
  simp only [Reservation.key, Prod.mk.injEq, Bool.and_eq_true, decide_eq_true_eq, Bool.not_eq_true',
    decide_eq_false_iff_not, not_and]
  constructor
  · rintro ⟨hcall, hnow, huser⟩
    exact ⟨⟨hcall, hnow⟩, fun _ => huser⟩
  · rintro ⟨⟨hcall, hnow⟩, huser⟩
    exact ⟨hcall, hnow, huser hcall⟩

theorem unexpired_put {expiresAt : Nat} (hnow : now < expiresAt)
    (hput : db'.reservations = db.reservations.put ⟨callId, userId, expiresAt⟩) :
    unexpired db' now callId + (if ownsReservation db now callId userId then 1 else 0) =
      unexpired db now callId + 1 := by
  rw [ownsReservation_eq, unexpired, hput]
  have hcount := Table.countP_put (t := db.reservations) (r := ⟨callId, userId, expiresAt⟩)
    (P := fun r => decide (r.openCallId = callId ∧ now < r.expiresAt))
  simpa [hnow, Reservation.key, unexpired] using hcount

theorem unexpired_put_other {expiresAt : Nat} {other : String} (hother : other ≠ callId)
    (hput : db'.reservations = db.reservations.put ⟨callId, userId, expiresAt⟩) :
    unexpired db' now other = unexpired db now other := by
  have hcount := Table.countP_put (t := db.reservations) (r := ⟨callId, userId, expiresAt⟩)
    (P := fun r => decide (r.openCallId = other ∧ now < r.expiresAt))
  have hold : (db.reservations.get? (callId, userId)).any
      (fun r => decide (r.openCallId = other ∧ now < r.expiresAt)) = false := by
    cases hget : db.reservations.get? (callId, userId) with
    | none => rfl
    | some r =>
      simp [(reservation_key hget).1, hother.symm]
  change _ + (if (db.reservations.get? (callId, userId)).any _ then 1 else 0) = _ at hcount
  rw [hold] at hcount
  rw [unexpired, hput]
  simpa [hother.symm, unexpired] using hcount

end Counting

section Invariant

variable {granted granted' : Table Reservation.key}

structure SlotsOk (db : Database) (granted : Table Reservation.key) (now : Nat) : Prop where
  bounded : ∀ callId call, db.openCalls.get? callId = some call →
    unexpired db now callId + call.answered ≤ call.target
  opened : ∀ r ∈ db.reservations.rows, now < r.expiresAt →
    ∃ call, db.openCalls.get? r.openCallId = some call ∧ call.status = .opened
  kept : ∀ r ∈ granted.rows, now < r.expiresAt → r ∈ db.reservations.rows

theorem SlotsOk.later (h : SlotsOk db granted now) (hle : now ≤ now') : SlotsOk db granted now' := by
  refine ⟨?_, ?_, ?_⟩
  · intro callId call hcall
    have hbound := h.bounded callId call hcall
    have hless : unexpired db now' callId ≤ unexpired db now callId := unexpired_later hle
    omega
  · intro r hr hnow
    exact h.opened r hr (by omega)
  · intro r hr hnow
    exact h.kept r hr (by omega)

theorem SlotsOk.shrink (h : SlotsOk db granted now) (hcalls : db'.openCalls = db.openCalls)
    (hsub : db'.reservations.rows.Sublist db.reservations.rows)
    (hkept : ∀ r ∈ granted'.rows, now < r.expiresAt → r ∈ granted.rows ∧
      (r ∈ db.reservations.rows → r ∈ db'.reservations.rows)) : SlotsOk db' granted' now := by
  refine ⟨?_, ?_, ?_⟩
  · intro callId call hcall
    rw [hcalls] at hcall
    have hbound := h.bounded callId call hcall
    have hless : unexpired db' now callId ≤ unexpired db now callId := unexpired_sublist hsub
    omega
  · intro r hr hnow
    rw [hcalls]
    exact h.opened r (hsub.subset hr) hnow
  · intro r hr hnow
    obtain ⟨hgranted, hstays⟩ := hkept r hr hnow
    exact hstays (h.kept r hgranted hnow)

theorem SlotsOk.frame (h : SlotsOk db granted now) (hcalls : db'.openCalls = db.openCalls)
    (hreservations : db'.reservations = db.reservations) : SlotsOk db' granted now := by
  apply h.shrink hcalls
  · rw [hreservations]
  · intro r hr _
    rw [hreservations]
    exact ⟨hr, id⟩

theorem SlotsOk.expire (h : SlotsOk db granted now) : SlotsOk (deleteExpired db now) granted now := by
  refine h.shrink rfl List.filter_sublist ?_
  intro r hr hnow
  refine ⟨hr, ?_⟩
  intro hold
  apply List.mem_filter.mpr
  refine ⟨hold, ?_⟩
  simp only [Bool.not_eq_true', decide_eq_false_iff_not]
  omega

theorem SlotsOk.forget (h : SlotsOk db granted now) :
    SlotsOk (deleteReservation db callId userId)
      (granted.delete fun r => decide (r.key = (callId, userId))) now := by
  refine h.shrink rfl List.filter_sublist ?_
  intro r hr _
  obtain ⟨hgranted, hother⟩ := List.mem_filter.mp hr
  refine ⟨hgranted, ?_⟩
  intro hold
  exact List.mem_filter.mpr ⟨hold, hother⟩

theorem closeIfFilled_sublist :
    (closeIfFilled db call).reservations.rows.Sublist db.reservations.rows := by
  unfold closeIfFilled
  split
  · exact List.filter_sublist
  · exact List.Sublist.refl _

theorem closeIfFilled_keeps {r : Reservation} (hr : r ∈ db.reservations.rows)
    (hother : call.target ≤ call.answered + 1 → r.openCallId ≠ call.id) :
    r ∈ (closeIfFilled db call).reservations.rows := by
  unfold closeIfFilled
  split
  · next hlast =>
    apply List.mem_filter.mpr
    refine ⟨hr, ?_⟩
    simpa using hother hlast
  · exact hr

-- a slot is taken that no reservation holds
theorem SlotsOk.take {remaining : Option Nat} (h : SlotsOk db granted now)
    (hget : db.openCalls.get? callId = some call) (hid : call.id = callId)
    (hspare : unexpired db now callId + call.answered < call.target)
    (hcalls : db'.openCalls = db.openCalls.put (counted call remaining))
    (hsub : db'.reservations.rows.Sublist db.reservations.rows)
    (hkeeps : ∀ r ∈ db.reservations.rows, (call.target ≤ call.answered + 1 → r.openCallId ≠ call.id) →
      r ∈ db'.reservations.rows) : SlotsOk db' granted now := by
  have hnone : call.target ≤ call.answered + 1 → ∀ r ∈ db.reservations.rows, now < r.expiresAt →
      r.openCallId ≠ callId := by
    intro hlast r hr hnow hcall
    have hpos := unexpired_pos hr hcall hnow
    omega
  have hput : ∀ other, db'.openCalls.get? other =
      if callId = other then some (counted call remaining) else db.openCalls.get? other := by
    intro other
    rw [hcalls, Table.get?_put]
    simp only [counted, hid]
  refine ⟨?_, ?_, ?_⟩
  · intro other call' hcall'
    have hless : unexpired db' now other ≤ unexpired db now other := unexpired_sublist hsub
    rw [hput] at hcall'
    split at hcall'
    · next hsame =>
      subst hsame
      rw [Option.some.injEq] at hcall'
      subst hcall'
      simp only [counted]
      omega
    · have hbound := h.bounded other call' hcall'
      omega
  · intro r hr hnow
    have hold := hsub.subset hr
    obtain ⟨call', hcall', hopened⟩ := h.opened r hold hnow
    rw [hput]
    split
    · next hsame =>
      subst hsame
      have hpos := unexpired_pos hold rfl hnow
      rw [hget, Option.some.injEq] at hcall'
      subst hcall'
      refine ⟨_, rfl, ?_⟩
      simp only [counted]
      rw [if_neg (by omega)]
      exact hopened
    · exact ⟨call', hcall', hopened⟩
  · intro r hr hnow
    have hold := h.kept r hr hnow
    apply hkeeps r hold
    rw [hid]
    exact fun hlast => hnone hlast r hold hnow

theorem SlotsOk.takeClosing {remaining : Option Nat} (h : SlotsOk db granted now)
    (hget : db.openCalls.get? callId = some call) (hid : call.id = callId)
    (hspare : unexpired db now callId + call.answered < call.target)
    (hcalls : db'.openCalls = db.openCalls.put (counted call remaining))
    (hreservations : db'.reservations = (closeIfFilled db call).reservations) :
    SlotsOk db' granted now := by
  apply h.take hget hid hspare hcalls
  · rw [hreservations]
    exact closeIfFilled_sublist
  · intro r hr hother
    rw [hreservations]
    exact closeIfFilled_keeps hr hother

theorem SlotsOk.grant {expiresAt : Nat} (h : SlotsOk db granted now)
    (hget : db.openCalls.get? callId = some call) (hopened : call.status = .opened)
    (hfits : ownsReservation db now callId userId = true ∨
      activeOfOthers db now callId userId + call.answered < call.target)
    (hexpires : now < expiresAt) (hcalls : db'.openCalls = db.openCalls)
    (hput : db'.reservations = db.reservations.put ⟨callId, userId, expiresAt⟩) :
    SlotsOk db' (granted.put ⟨callId, userId, expiresAt⟩) now := by
  refine ⟨?_, ?_, ?_⟩
  · intro other call' hcall'
    rw [hcalls] at hcall'
    have hbound := h.bounded other call' hcall'
    by_cases hsame : other = callId
    · subst hsame
      rw [hget, Option.some.injEq] at hcall'
      subst hcall'
      have hcount := unexpired_put hexpires hput
      have hothers := @unexpired_delete db now other userId
      rw [activeOfOthers_eq] at hfits
      rcases hfits with howns | hspare
      · simp only [howns, if_true] at hcount
        omega
      · omega
    · rw [unexpired_put_other hsame hput]
      exact hbound
  · intro r hr hnow
    rw [hcalls]
    have hrow := Table.get?_of_mem hr
    rw [hput, Table.get?_put] at hrow
    split at hrow
    · rw [Option.some.injEq] at hrow
      subst hrow
      exact ⟨call, hget, hopened⟩
    · exact h.opened r (Table.get?_mem hrow) hnow
  · intro r hr hnow
    have hrow := Table.get?_of_mem hr
    rw [Table.get?_put] at hrow
    have hput' : db'.reservations.get? r.key = some r := by
      rw [hput, Table.get?_put]
      split at hrow
      · next hsame => rw [if_pos hsame, hrow]
      · next hother =>
        rw [if_neg hother]
        exact Table.get?_of_mem (h.kept r (Table.get?_mem hrow) hnow)
    exact Table.get?_mem hput'

end Invariant

end Obulus.Calls
