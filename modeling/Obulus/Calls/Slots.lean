import Obulus.Calls.Reservations
import Obulus.Store.Encoding

namespace Obulus.Calls

open Foundation Store Funds

variable {app : Appraisal} {db db' mid : Database} {call : StoredCall} {ids : AnswerIds}
  {reflections : List Reflection} {request : AnswerRequest} {payout : Option OnchainPayout}
  {interview : List InterviewResponse} {now createdAt : Nat} {callId userId : String}
  {granted : Table Reservation.key}

section Operations

theorem loadCall_eq_ok : loadCall db callId = .ok call ↔ db.openCalls.get? callId = some call :=
  orReject_eq_ok

theorem call_key (h : db.openCalls.get? callId = some call) : call.id = callId :=
  @Table.get?_key _ _ (fun c : StoredCall => c.id) _ _ _ _ h

theorem takesAnswers_iff : takesAnswers call = true ↔
    call.status = .opened ∧ call.answered < call.target := by
  simp [takesAnswers]

theorem reserve_slots (h : SlotsOk db granted now)
    (hreserve : reserveOpenCall db now callId userId = .ok db') :
    SlotsOk db' (granted.put ⟨callId, userId, saturatingAdd now answerReservationTtlMs⟩) now := by
  simp only [reserveOpenCall, bind_eq_ok, asI64_eq_ok, loadCall_eq_ok, checkReservable, reject_eq_ok,
    orReject_eq_ok, exists_const, pure_eq_ok] at hreserve
  obtain ⟨time, ⟨hnow, htime⟩, call, hcall, ⟨htakes, -⟩, hfits, expiresAt, ⟨hexpires, hexpiresAt⟩,
    rfl⟩ := hreserve
  rw [htime] at hcall hfits hexpires hexpiresAt ⊢
  rw [hexpiresAt]
  rw [Bool.not_eq_false, takesAnswers_iff] at htakes
  have hlater : now < saturatingAdd now answerReservationTtlMs := by
    have httl : answerReservationTtlMs = 600000 := rfl
    simp only [saturatingAdd, u64Max, i64Max] at hexpires hnow ⊢
    omega
  refine h.expire.grant hcall htakes.1 ?_ hlater rfl rfl
  have htarget := htakes.2
  cases howns : ownsReservation (deleteExpired db now) now callId userId with
  | true => exact .inl rfl
  | false =>
    right
    rw [howns] at hfits
    simp only [true_and, not_le] at hfits
    omega

theorem recordAnswer_effect
    (h : recordAnswer app db ids reflections createdAt request call payout interview = .ok db')
    (hcall : db.openCalls.get? callId = some call) :
    (db'.openCalls = db.openCalls ∧ db'.reservations = db.reservations) ∨
      ∃ remaining, takesAnswers call = true ∧
        db'.openCalls = db.openCalls.put (counted call remaining) ∧
        db'.reservations = (closeIfFilled db call).reservations := by
  unfold recordAnswer at h
  split at h
  · right
    simp only [acceptAnswer, bind_eq_ok, asI64_eq_ok, reject_eq_ok, exists_const, insertMemory_eq_ok,
      pure_eq_ok] at h
    obtain ⟨_, -, time, -, -, _, hdraw, _, ⟨t, -, rfl⟩, _, hreflections, paid, hpay, rfl⟩ := h
    obtain ⟨row, remaining, hdrawn⟩ := drawEscrow_drawn hdraw
    obtain ⟨t', rfl, -⟩ := insertReflections_effect hreflections
    obtain ⟨e, hframe, -⟩ := payAnswer_frame hpay
    obtain ⟨documents, hdocuments⟩ := @insertDocument_frame db
      (answerDocument app ids time request call)
    rw [← hdocuments] at hdrawn
    have hid := call_key hcall
    have hrow : db.openCalls.get? call.id = some row := hdrawn.held
    rw [hid, hcall, Option.some.injEq] at hrow
    subst hrow
    have hcalls := hdrawn.calls
    refine ⟨remaining, hdrawn.open', ?_, ?_⟩
    · have hpaid : paid.openCalls = db.openCalls.put (counted call remaining) := by
        rw [← hframe.frame, ← hcalls]
      unfold closeIfFilled
      split <;> exact hpaid
    · have hpaid : paid.reservations = db.reservations := by
        rw [← hframe.frame, ← hcalls]
      unfold closeIfFilled
      split
      · simp only [deleteReservations, hpaid]
      · exact hpaid
  · left
    simp only [voidAnswer, bind_eq_ok, insertMemory_eq_ok] at h
    obtain ⟨_, -, t, -, rfl⟩ := h
    exact ⟨rfl, rfl⟩

theorem closeIfFilled_delete : (deleteReservation (closeIfFilled db call) callId userId).reservations =
    (closeIfFilled (deleteReservation db callId userId) call).reservations := by
  unfold closeIfFilled
  split
  · simp only [deleteReservation, deleteReservations, Table.delete, List.filter_filter, Bool.and_comm]
  · rfl

theorem submit_slots (h : SlotsOk db granted now)
    (hsubmit : submitAnswerWithInterview app db ids reflections now createdAt request = .ok db') :
    SlotsOk db' (granted.delete fun r => decide (r.key = (request.openCallId, request.user))) now := by
  simp only [submitAnswerWithInterview, admission, submitTo, bind_eq_ok, asI64_eq_ok, loadCall_eq_ok,
    reject_eq_ok, orReject_eq_ok, exists_const, pure_eq_ok] at hsubmit
  obtain ⟨interview, -, ⟨call, payout⟩, ⟨-, _, hcall, -, profile, -, _, -, -, hopen, -, hpair⟩,
    time, ⟨-, htime⟩, hfits, mid, hrecord, rfl⟩ := hsubmit
  rw [Prod.mk.injEq] at hpair
  obtain ⟨rfl, rfl⟩ := hpair
  rw [htime] at hfits hrecord
  have hstart := h.expire
  have hforget := @SlotsOk.forget (deleteExpired db now) now request.openCallId request.user _ hstart
  have hcall' : (deleteExpired db now).openCalls.get? request.openCallId = some _ := hcall
  rcases recordAnswer_effect hrecord hcall' with ⟨hcalls, hreservations⟩ |
    ⟨remaining, htakes, hcalls, hreservations⟩
  · apply hforget.frame
    · exact hcalls
    · simp only [deleteReservation, hreservations]
  · refine hforget.takeClosing hcall' (call_key hcall) ?_ hcalls ?_
    · have hothers := @activeOfOthers_eq (deleteExpired db now) now request.openCallId request.user
      have hcount := @unexpired_delete (deleteExpired db now) now request.openCallId request.user
      have hbound := hstart.bounded _ _ hcall'
      cases howns : ownsReservation (deleteExpired db now) now request.openCallId request.user with
      | true =>
        simp only [howns, if_true] at hcount
        omega
      | false =>
        rw [howns] at hfits
        simp only [true_and, not_le] at hfits
        omega
    · rw [← closeIfFilled_delete]
      simp only [deleteReservation, hreservations]

theorem matchCandidate_effect {matchIds : String → AnswerIds}
    (h : matchCandidate app db now matchIds callId call userId = .ok mid)
    (hcall : db.openCalls.get? callId = some call) :
    (mid.openCalls = db.openCalls ∧ mid.reservations = db.reservations) ∨
      ∃ remaining, Matches app db callId call userId ∧ takesAnswers call = true ∧
        mid.openCalls = db.openCalls.put (counted call remaining) ∧
        mid.reservations = (closeIfFilled db call).reservations := by
  unfold matchCandidate at h
  split at h
  · cases h
    exact .inl ⟨rfl, rfl⟩
  · next profile source hmatch =>
    simp only [settleAgentMatch, bind_eq_ok, reject_eq_ok, exists_const] at h
    obtain ⟨-, payout, hpayout, h⟩ := h
    cases payout with
    | none =>
      cases h
      exact .inl ⟨rfl, rfl⟩
    | some payout =>
      right
      simp only [settleReuse, bind_eq_ok, asI64_eq_ok, insertMemory_eq_ok, pure_eq_ok] at h
      obtain ⟨_, hdraw, _, ⟨-, rfl⟩, _, -, _, ⟨t, -, rfl⟩, paid, hpay, rfl⟩ := h
      obtain ⟨row, remaining, hdrawn⟩ := drawEscrow_drawn hdraw
      obtain ⟨e, hframe, -⟩ := payAnswer_frame hpay
      have hid := call_key hcall
      have hrow : db.openCalls.get? call.id = some row := hdrawn.held
      rw [hid, hcall, Option.some.injEq] at hrow
      subst hrow
      have hcalls := hdrawn.calls
      refine ⟨remaining, ⟨profile, source, hmatch, ?_⟩, hdrawn.open', ?_, ?_⟩
      · intro hmode hnone
        simp [matchPayout, hmode, hnone] at hpayout
      · have hpaid : paid.openCalls = db.openCalls.put (counted call remaining) := by
          rw [← hframe.frame, ← hcalls]
        unfold closeIfFilled
        split <;> exact hpaid
      · have hpaid : paid.reservations = db.reservations := by
          rw [← hframe.frame, ← hcalls]
        unfold closeIfFilled
        split
        · simp only [deleteReservations, hpaid]
        · exact hpaid

theorem pass_slots {matchIds : String → AnswerIds} {candidates : List String}
    (h : SlotsOk db granted now)
    (hpass : agentPass app now matchIds callId db candidates = .ok db')
    (hspares : PassSpares app now matchIds callId db candidates) : SlotsOk db' granted now := by
  induction candidates generalizing db with
  | nil =>
    cases hpass
    exact h
  | cons userId rest ih =>
    simp only [agentPass, bind_eq_ok, loadCall_eq_ok] at hpass
    obtain ⟨call, hcall, hpass⟩ := hpass
    split at hpass
    · cases hpass
      exact h
    · next htakes =>
      rw [Bool.not_eq_false] at htakes
      simp only [bind_eq_ok] at hpass
      obtain ⟨mid, hmatch, hpass⟩ := hpass
      obtain ⟨hspare, hrest⟩ := hspares call hcall htakes
      apply ih _ hpass (hrest mid hmatch)
      rcases matchCandidate_effect hmatch hcall with ⟨hcalls, hreservations⟩ |
        ⟨remaining, hmatches, -, hcalls, hreservations⟩
      · exact h.frame hcalls hreservations
      · exact h.takeClosing hcall (call_key hcall) (hspare hmatches call hcall) hcalls hreservations

theorem review_slots {reviewerId memoryId : String} {review : ReviewDisputeRequest}
    (h : SlotsOk db granted now)
    (hreview : reviewDispute app db ids now reviewerId memoryId review = .ok db')
    (hspares : review.decision = "approved" → ∀ m callId,
      db.memoryEntries.get? memoryId = some m → m.openCallId = some callId → Spare db now callId) :
    SlotsOk db' granted now := by
  simp only [reviewDispute, bind_eq_ok, reject_eq_ok, orReject_eq_ok, exists_const, requireAdmin,
    pure_eq_ok] at hreview
  obtain ⟨-, _, -, dispute, -, -, mid, hdecide, _, -, rfl⟩ := hreview
  have hmid : SlotsOk mid granted now := by
    unfold decideDispute at hdecide
    split at hdecide
    · next happroved =>
      simp only [approveDispute, restoreAnswer, bind_eq_ok, reject_eq_ok, orReject_eq_ok, exists_const,
        loadCall_eq_ok, disputedMemory, Option.bind_eq_some_iff, Option.filter_eq_some_iff,
        Option.map_eq_some_iff] at hdecide
      obtain ⟨_, ⟨m, ⟨hm, -⟩, callId, ⟨hmemory, -⟩, rfl⟩, call, hcall, -, -, profile, -, payout, -, krw,
        -, drawn, hdraw, hpay⟩ := hdecide
      obtain ⟨row, remaining, hdrawn⟩ := drawEscrow_drawn hdraw
      obtain ⟨e, hframe, -⟩ := payAnswer_frame hpay
      obtain ⟨documents, hdocuments⟩ := @insertDocument_frame db (restoredDocument app ids m call)
      rw [← hdocuments] at hdrawn
      have hid := call_key hcall
      have hrow : db.openCalls.get? call.id = some row := hdrawn.held
      rw [hid, hcall, Option.some.injEq] at hrow
      subst hrow
      have hcalls := hdrawn.calls
      have hspare := hspares happroved m callId hm hmemory call hcall
      have hsame : mid.reservations = db.reservations := by
        rw [← hframe.frame, ← hcalls]
        rfl
      have htaken : mid.openCalls = db.openCalls.put (counted call remaining) := by
        rw [← hframe.frame, ← hcalls]
        rfl
      refine h.take hcall hid hspare htaken ?_ ?_
      · rw [hsame]
      · intro r hr _
        rw [hsame]
        exact hr
    · cases hdecide
      exact h
  exact hmid.frame rfl rfl

theorem refundCall_frame {refundId : String}
    (h : refundCall app db refundId now userId call = .ok db') :
    db'.openCalls = db.openCalls ∧ db'.reservations = db.reservations := by
  unfold refundCall at h
  split at h
  · split at h
    · simp only [refundOnchain, bind_eq_ok, orReject_eq_ok] at h
      obtain ⟨_, -, _, -, _, -, _, -, h⟩ := h
      obtain ⟨t, rfl⟩ := insertPayoutClaim_frame h
      exact ⟨rfl, rfl⟩
    · cases h
      exact ⟨rfl, rfl⟩
  · split at h
    · simp only [refundOpenCallPrepaid, withFunds, bind_eq_ok, pure_eq_ok] at h
      obtain ⟨_, -, _, -, _, -, _, -, _, -, rfl⟩ := h
      exact ⟨rfl, rfl⟩
    · cases h
      exact ⟨rfl, rfl⟩
  · simp only [refundSandbox, bind_eq_ok, reject_eq_ok, exists_const, pure_eq_ok] at h
    obtain ⟨_, -, -, rfl⟩ := h
    exact ⟨rfl, rfl⟩

theorem cancel_slots {refundId : String} (h : SlotsOk db granted now)
    (hcancel : cancelOpenCall app db refundId now userId callId = .ok db') :
    SlotsOk db' (granted.delete fun r => decide (r.openCallId = callId)) now := by
  simp only [cancelOpenCall, bind_eq_ok, loadCall_eq_ok, reject_eq_ok, exists_const,
    pure_eq_ok] at hcancel
  obtain ⟨call, hcall, -, -, refunded, hrefund, rfl⟩ := hcancel
  obtain ⟨hcalls, hreservations⟩ := refundCall_frame hrefund
  have hid := call_key hcall
  have hsub : (refunded.reservations.delete fun r => decide (r.openCallId = callId)).rows.Sublist
      db.reservations.rows := by
    rw [hreservations]
    exact List.filter_sublist
  refine ⟨?_, ?_, ?_⟩
  · intro other call' hcall'
    have hless : unexpired (deleteReservations { refunded with
        openCalls := refunded.openCalls.put (cancelled call) } callId) now other ≤
        unexpired db now other := unexpired_sublist hsub
    change (refunded.openCalls.put (cancelled call)).get? other = some call' at hcall'
    rw [hcalls, Table.get?_put] at hcall'
    split at hcall'
    · next hsame =>
      rw [Option.some.injEq] at hcall'
      subst hcall'
      have hbound := h.bounded callId call hcall
      have hother : other = callId := hsame.symm.trans hid
      rw [hother] at hless ⊢
      change _ + call.answered ≤ call.target
      omega
    · have hbound := h.bounded other call' hcall'
      omega
  · intro r hr hnow
    obtain ⟨hold, hother⟩ := List.mem_filter.mp hr
    rw [hreservations] at hold
    obtain ⟨call', hcall', hopened⟩ := h.opened r hold hnow
    refine ⟨call', ?_, hopened⟩
    change (refunded.openCalls.put (cancelled call)).get? r.openCallId = some call'
    rw [hcalls, Table.get?_put, if_neg, hcall']
    intro hsame
    have hcallId : r.openCallId = callId := hsame.symm.trans hid
    simp [hcallId] at hother
  · intro r hr hnow
    obtain ⟨hgranted, hother⟩ := List.mem_filter.mp hr
    apply List.mem_filter.mpr
    refine ⟨?_, hother⟩
    rw [hreservations]
    exact h.kept r hgranted hnow

end Operations

section Refusals

theorem otherwise_routine : Routine (Otherwise db callId) := by
  constructor <;> intros <;> simp [Otherwise, fullErrors, exhaustedError]

abbrev NotFull {α : Type} (db : Database) (callId : String) (x : Except StoreError α) : Prop :=
  Raises (Otherwise db callId) x

theorem exhausted_otherwise (h : HasSlot db callId) : Otherwise db callId exhaustedError :=
  fun _ => ⟨rfl, h⟩

theorem onchainPayout_notFull {profile : UserProfile} {error : StoreError} (hslot : HasSlot db callId)
    (h : Otherwise db callId error) : NotFull db callId (onchainPayout app call profile error) := by
  unfold onchainPayout
  split
  · refine (raises_orReject fun _ => h).bind fun _ _ => ?_
    refine Raises.bind ?_ fun _ _ => raises_ok
    refine (raises_orReject fun _ => by simp [Otherwise, fullErrors, exhaustedError]).bind fun _ _ => ?_
    refine (raises_reject fun _ => by simp [Otherwise, fullErrors, exhaustedError]).bind fun _ _ => ?_
    exact (raises_reject fun _ => exhausted_otherwise hslot).bind fun _ _ => raises_ok
  · exact raises_ok

theorem admit_notFull (hcall : db.openCalls.get? request.openCallId = some call)
    (hopen : call.answered < call.target) :
    NotFull db request.openCallId (admission app db request) := by
  refine (raises_reject fun _ => by simp [Otherwise, fullErrors, exhaustedError]).bind fun _ _ => ?_
  refine (raises_orReject fun _ => otherwise_routine.notFound _).bind fun loaded hloaded => ?_
  obtain rfl : call = loaded := by
    rw [orReject_eq_ok, hcall, Option.some.injEq] at hloaded
    exact hloaded
  refine (raises_reject fun _ => by simp [Otherwise, fullErrors, exhaustedError]).bind fun _ _ => ?_
  refine (raises_orReject fun _ => by simp [Otherwise, fullErrors, exhaustedError]).bind fun _ _ => ?_
  refine (onchainPayout_notFull ⟨call, hcall, hopen⟩
    (by simp [Otherwise, fullErrors, exhaustedError])).bind fun _ _ => ?_
  refine (raises_reject fun _ => by simp [Otherwise, fullErrors, exhaustedError]).bind fun _ _ => ?_
  refine (raises_reject fun hfull => by omega).bind fun _ _ => ?_
  exact (raises_reject fun _ => by simp [Otherwise, fullErrors, exhaustedError]).bind fun _ _ => raises_ok

theorem draw_notFull (hslot : HasSlot mid callId) (hcall : db.openCalls.get? call.id = some call)
    (htakes : takesAnswers call = true) (hescrow : call.unitPriceKrw ≤ call.escrowRemainingKrw) :
    NotFull mid callId (drawEscrow db call answerDraw payout) := by
  cases payout with
  | some payout =>
    refine (asI64_raises otherwise_routine).bind fun _ _ => ?_
    exact (raises_orReject fun _ => exhausted_otherwise hslot).bind fun _ _ => raises_ok
  | none =>
    refine (krwToAtomicPinned_raises otherwise_routine).bind fun _ _ => ?_
    refine (asI64_raises otherwise_routine).bind fun _ _ => ?_
    refine (raises_orReject fun hnone => ?_).bind fun _ _ => raises_ok
    simp [hcall, htakes] at hnone
    exact absurd hescrow (not_le.mpr hnone)

theorem recordAnswer_notFull (hslot : HasSlot mid callId)
    (hcall : db.openCalls.get? call.id = some call) (htakes : takesAnswers call = true) :
    NotFull mid callId
      (recordAnswer app db ids reflections createdAt request call payout interview) := by
  unfold recordAnswer
  split
  · refine (asI64_raises otherwise_routine).bind fun krw hkrw => ?_
    refine (asI64_raises otherwise_routine).bind fun time _ => ?_
    rw [asI64_eq_ok] at hkrw
    refine (raises_reject fun _ => by simp [Otherwise, fullErrors, exhaustedError]).bind
      fun _ hescrow => ?_
    rw [reject_eq_ok, hkrw.2, not_lt] at hescrow
    obtain ⟨documents, hdocuments⟩ := @insertDocument_frame db
      (answerDocument app ids time request call)
    have hcall' : (insertDocument db (answerDocument app ids time request call)).openCalls.get?
        call.id = some call := by
      rw [← hdocuments]
      exact hcall
    refine (draw_notFull hslot hcall' htakes hescrow).bind fun _ _ => ?_
    refine (insertMemory_raises otherwise_routine).bind fun _ _ => ?_
    refine (insertReflections_raises otherwise_routine).bind fun _ _ => ?_
    exact (payAnswer_raises otherwise_routine).bind fun _ _ => raises_ok
  · exact (asI64_raises otherwise_routine).bind fun _ _ => insertMemory_raises otherwise_routine

-- who holds a reservation of a call that takes answers is not told that it is full
theorem submit_notFull (hcall : db.openCalls.get? request.openCallId = some call)
    (htakes : takesAnswers call = true)
    (howns : ownsReservation (deleteExpired db now) now request.openCallId request.user = true) :
    NotFull db request.openCallId
      (submitAnswerWithInterview app db ids reflections now createdAt request) := by
  have hopen := (takesAnswers_iff.mp htakes).2
  refine (checkAnswer_raises otherwise_routine).bind fun interview _ => (admit_notFull hcall hopen).bind ?_
  rintro ⟨loaded, payout⟩ hadmit
  obtain rfl : call = loaded := by
    simp only [admission, bind_eq_ok, loadCall_eq_ok, reject_eq_ok, exists_const, pure_eq_ok,
      Prod.mk.injEq] at hadmit
    obtain ⟨-, loaded', hloaded, -, _, -, _, -, -, -, -, rfl, -⟩ := hadmit
    rw [hcall, Option.some.injEq] at hloaded
    exact hloaded
  refine (asI64_raises otherwise_routine).bind fun time htime => ?_
  rw [asI64_eq_ok] at htime
  obtain ⟨-, rfl⟩ := htime
  refine (raises_reject fun hother => ?_).bind fun _ _ => ?_
  · rw [howns] at hother
    cases hother.1
  · refine Raises.bind ?_ fun _ _ => raises_ok
    apply recordAnswer_notFull ⟨call, hcall, hopen⟩ _ htakes
    rw [call_key hcall]
    exact hcall

end Refusals

section Guarantee

variable {w w' : Desk} {e : Event} {events : List Event}

theorem DeskStep.slots (hstep : DeskStep app w e w') (h : SlotsOk w.db w.granted w.clock)
    (hspares : Spares app w e) : SlotsOk w'.db w'.granted w'.clock := by
  cases hstep with
  | error hnow hlater _ => exact h.later (hnow.trans hlater)
  | @ok db' hnow hlater hexecute =>
    have hok : (execute app w.db e).isOk = true := by
      rw [hexecute]
      rfl
    have hstart := h.later hnow
    have hspared := hspares hok
    apply SlotsOk.later _ hlater
    unfold execute at hexecute
    unfold Event.promises
    split at hexecute
    · exact reserve_slots hstart hexecute
    · cases hexecute
      exact hstart.forget
    · exact submit_slots hstart hexecute
    · next hoperation =>
      simp only [hoperation] at hspared ⊢
      unfold runCallAgents at hexecute
      split at hexecute
      · cases hexecute
        exact hstart
      · next call hcall => exact pass_slots hstart hexecute (hspared call hcall)
    · next hoperation =>
      simp only [hoperation] at hspared ⊢
      exact review_slots hstart hexecute hspared
    · exact cancel_slots hstart hexecute

theorem Opens.slots (h : Opens w) : SlotsOk w.db w.granted w.clock := by
  refine ⟨?_, ?_, ?_⟩
  · intro callId call hcall
    simp only [unexpired, h.reservations, List.countP_nil, Nat.zero_add]
    exact h.calls callId call hcall
  · intro r hr
    rw [h.reservations] at hr
    cases hr
  · intro r hr
    rw [h.granted] at hr
    cases hr

theorem SlotsOk.honoured (h : SlotsOk w.db w.granted w.clock) : Honoured app w := by
  intro r hr ids reflections request now createdAt hcall huser hclock hnow
  have hlater := h.later hclock
  have hrow := hlater.kept r hr hnow
  obtain ⟨call, hget, hopened⟩ := hlater.opened r hrow hnow
  have hbound := hlater.bounded r.openCallId call hget
  have hpos := unexpired_pos hrow rfl hnow
  rw [← hcall] at hget ⊢
  apply submit_notFull hget
  · exact takesAnswers_iff.mpr ⟨hopened, by omega⟩
  · have hkept := h.later hclock |>.expire.kept r hr hnow
    have hfound := Table.get?_of_mem hkept
    rw [ownsReservation, hcall, huser]
    change ((deleteExpired w.db now).reservations.get? r.key).any _ = true
    rw [hfound]
    simpa using hnow

theorem reservations_honoured (hstart : Opens w)
    (run : Trace (fun u e v => DeskStep app u e v ∧ Spares app u e) w events w') :
    Bounded w'.db w'.clock ∧ Honoured app w' := by
  have hslots := run.invariant (P := fun w => SlotsOk w.db w.granted w.clock) hstart.slots
    fun _ _ _ h hstep => hstep.1.slots h hstep.2
  refine ⟨?_, hslots.honoured⟩
  intro callId call hcall
  have hbound := hslots.bounded callId call hcall
  omega

end Guarantee

section Samples

def accept (app : Appraisal) (w : Desk) (e : Event) : Option Desk :=
  if w.clock ≤ e.now ∧ e.now ≤ e.later then
    (execute app w.db e).toOption.map fun db => ⟨db, e.promises w.granted, e.later⟩
  else none

theorem accept_step {w w' : Desk} {e : Event} (h : accept app w e = some w') : DeskStep app w e w' := by
  unfold accept at h
  split at h
  · next hclock =>
    obtain ⟨db', hexecute, rfl⟩ := Option.map_eq_some_iff.mp h
    rw [toOption_eq_some] at hexecute
    exact .ok hclock.1 hclock.2 hexecute
  · cases h

theorem accept_trace {w w' : Desk} {events : List Event} (h : runWith (accept app) w events = some w') :
    Trace (DeskStep app) w events w' := by
  have hstep : ∀ w e w', accept app w e = some w' → DeskStep app w e w' := fun _ _ _ => accept_step
  exact runWith_trace hstep h

def refusal {α : Type} : Except StoreError α → Option StoreError
  | .ok _ => none
  | .error error => some error

theorem refusal_eq_some {α : Type} {x : Except StoreError α} {error : StoreError}
    (h : refusal x = some error) : x = .error error := by
  cases x with
  | ok a => cases h
  | error error' =>
    cases h
    rfl

def sampleAppraisal : Appraisal where
  encoding := .standard
  handleFromId id := "MD" ++ id
  assess _ _ := []
  nearDuplicate _ _ := false
  questionSimilarity left right := if left = right then 1 else 0

def sampleQuestion : String := "Where do you eat lunch in Seongsu?"

def sampleAnswer : String := "Noodles by Exit 3, 9,000 won, 25 minutes"

def sampleProfile (userId : String) : UserProfile where
  userId := userId
  ageBand := "25-34"
  region := "seoul"
  household := "alone"
  field := "food"
  speaksTo := ["food"]
  wallet := none
  walletVerified := false
  autoMatch := true
  agents := false

-- a call for one answer
def sampleCall : StoredCall where
  id := "call"
  ownerId := "owner"
  unitPriceKrw := 1350
  unitPriceAtomic := 1000000
  target := 1
  answered := 0
  status := .opened
  escrowRemainingKrw := 1350
  escrowMode := .prepaid
  escrowWallet := some "platform"
  escrowAsset := some "usdc"
  escrowNetwork := some "solana"
  escrowTotalAtomic := some 1000000
  escrowRemainingAtomic := some 1000000
  fundingTransactionSignature := none
  payerWallet := some "wallet"
  question := sampleQuestion
  shelf := "lunch"
  category := "food"
  filters := ⟨some "food", none, none, none, none, none⟩

def voidedMemory : MemoryEntry where
  id := "memory"
  userId := "alice"
  openCallId := some "call"
  documentId := none
  question := sampleQuestion
  answer := "somewhere nice"
  shelf := "lunch"
  earnedKrw := 0
  createdAt := 500
  via := "Open call"
  status := .voided
  flags := [⟨"Low-effort answers", "No place, time, price, or number appears in the answer."⟩]
  interview := []
  memoryType := .observation
  version := 1
  locked := false
  sourceIds := []

def emptyFunds : Funds.Database where
  queries := []
  documents := .empty
  memoryEntries := .empty
  paymentQuotes := .empty
  bundleQuotes := .empty
  bundleDocuments := .empty
  fundingQuotes := .empty
  openCalls := .empty
  settlements := .empty
  earningEvents := .empty
  chainSettlements := .empty
  bundleChainSettlements := .empty
  openCallChainSettlements := .empty
  transactionRegistry := .empty
  paymentAttempts := .empty
  prepaidAccounts := .empty
  prepaidLedger := .empty
  recoveryHolds := []

def sampleDatabase : Database :=
  { Database.empty emptyFunds with
    users := ⟨[⟨"admin", false⟩], by simp⟩
    profiles := ⟨[sampleProfile "alice", sampleProfile "bob"], by decide⟩
    openCalls := ⟨[sampleCall], by simp⟩
    memoryEntries := ⟨[voidedMemory], by simp⟩
    disputes := ⟨[⟨"memory", "alice", .pending, none, none, none⟩], by simp⟩ }

def sampleDesk : Desk := ⟨sampleDatabase, .empty, 1000⟩

def bobReserves : Event := ⟨1000, 1000, .reserve "call" "bob"⟩

def bobRequest : AnswerRequest := ⟨"call", "bob", sampleAnswer, []⟩

def sampleIds : AnswerIds := ⟨"memory_b", "md_b", "earning_b", "payout_b"⟩

def bobAnswers : Event := ⟨2000, 2000, .submit sampleIds [] bobRequest⟩

def adminApproves : Event :=
  ⟨2000, 2000, .review sampleIds "admin" "memory" ⟨"approved", "the answer is specific"⟩⟩

theorem sampleDesk_opens : Opens sampleDesk := by
  refine ⟨rfl, rfl, ?_⟩
  intro callId call hcall
  have hmem := Table.get?_mem hcall
  obtain rfl : call = sampleCall := List.mem_singleton.mp hmem
  decide

theorem reservations_honoured_sample :
    ∃ w', Trace (fun u e v => DeskStep sampleAppraisal u e v ∧ Spares sampleAppraisal u e) sampleDesk
        [bobReserves, bobAnswers] w' ∧
      (w'.db.openCalls.get? "call").any (fun call => decide (call.answered = 1)) = true ∧
      Bounded w'.db w'.clock ∧ Honoured sampleAppraisal w' := by
  have hrun : (runWith (accept sampleAppraisal) sampleDesk [bobReserves, bobAnswers]).any (fun w =>
      (w.db.openCalls.get? "call").any fun call => decide (call.answered = 1)) = true := by
    decide +kernel
  obtain ⟨w', hw, hanswered⟩ := (Option.any_eq_true _ _).mp hrun
  have htrace := (accept_trace hw).strengthen (Q := Spares sampleAppraisal) fun bs e cs u v hsplit _ _ _ => by
    rcases bs with _ | ⟨_, _ | ⟨_, bs⟩⟩ <;>
      simp only [List.nil_append, List.cons_append, List.cons.injEq] at hsplit
    · obtain ⟨rfl, -⟩ := hsplit
      exact fun _ => trivial
    · obtain ⟨-, rfl, -⟩ := hsplit
      exact fun _ => trivial
    · simp at hsplit
  exact ⟨w', htrace, hanswered, reservations_honoured sampleDesk_opens htrace⟩

-- the approved dispute takes the slot that bob holds
theorem reservation_overtaken :
    Opens sampleDesk ∧ ∃ w', Trace (DeskStep sampleAppraisal) sampleDesk [bobReserves, adminApproves] w' ∧
      ¬Bounded w'.db w'.clock ∧ ¬Honoured sampleAppraisal w' := by
  refine ⟨sampleDesk_opens, ?_⟩
  have hrun : (runWith (accept sampleAppraisal) sampleDesk [bobReserves, adminApproves]).any (fun w =>
      decide (w.clock = 2000) &&
      (w.db.openCalls.get? "call").any (fun call =>
        decide (call.target - call.answered < unexpired w.db w.clock "call")) &&
      w.granted.rows.any (fun r => decide (r = ⟨"call", "bob", 601000⟩)) &&
      decide (refusal (submitAnswerWithInterview sampleAppraisal w.db sampleIds [] 3000 3000 bobRequest) =
        some (.conflict "this open call is already full"))) = true := by
    decide +kernel
  obtain ⟨w', hw, hbad⟩ := (Option.any_eq_true _ _).mp hrun
  simp only [Bool.and_eq_true, decide_eq_true_eq, Option.any_eq_true, List.any_eq_true] at hbad
  obtain ⟨⟨⟨hclock, call, hcall, hmore⟩, r, hr, rfl⟩, hrefused⟩ := hbad
  refine ⟨w', accept_trace hw, ?_, ?_⟩
  · intro hbounded
    have hbound := (hbounded "call" call hcall).2
    omega
  · intro hhonoured
    have huser : bobRequest.user = "bob" := by decide +kernel
    have hraises := hhonoured _ hr sampleIds [] bobRequest 3000 3000 rfl huser (by omega) (by simp) _
      (refusal_eq_some hrefused)
    simp [Otherwise, fullErrors, exhaustedError] at hraises

end Samples

end Obulus.Calls
