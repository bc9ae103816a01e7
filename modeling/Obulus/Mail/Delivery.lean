import Obulus.Foundation.WorkQueue
import Obulus.Mail.Effects

namespace Obulus.Mail

open Foundation Store

section Runs

-- milliseconds, with room for a lease below the i64 limit
abbrev Clock := { now : Nat // now + emailMaxLeaseMs ≤ i64Max }

structure World where
  emails : Outbox
  clock : Clock

inductive Request
  | lease (workerId : String) (limit leaseMs : Nat)
  | delivered (id workerId : String)
  | failed (id workerId error : String)
  deriving DecidableEq, Repr

inductive Response
  | leased (emails : List PendingEmail)
  | delivered
  | failed (exhausted : Bool)
  deriving DecidableEq, Repr

def execute (t : Outbox) (now : Nat) : Request → Except StoreError (Outbox × Response)
  | .lease workerId limit leaseMs =>
    (leasePendingEmails workerId now t limit leaseMs).map fun r => (r.1, .leased r.2)
  | .delivered id workerId => (markEmailDelivered t now id workerId).map fun t => (t, .delivered)
  | .failed id workerId error =>
    (markEmailFailed t id workerId error).map fun r => (r.1, .failed r.2)

inductive Event
  | accepted (request : Request) (response : Response)
  | rejected (request : Request) (error : StoreError)
  | enqueued (email : NewEmail)
  | tick (clock : Clock)

-- A worker that crashes sends nothing more; its lease lapses when the clock passes it.
inductive Step : World → Event → World → Prop
  | accepted {w : World} {request : Request} {response : Response} {emails : Outbox} :
      execute w.emails w.clock.1 request = .ok (emails, response) →
      Step w (.accepted request response) { w with emails := emails }
  | rejected {w : World} {request : Request} {error : StoreError} :
      execute w.emails w.clock.1 request = .error error → Step w (.rejected request error) w
  | enqueued {w : World} {email : NewEmail} {emails : Outbox} :
      insertEmail w.emails email = some emails →
      Step w (.enqueued email) { w with emails := emails }
  | tick {w : World} {clock : Clock} : Step w (.tick clock) { w with clock := clock }

abbrev Run := Trace Step

def hands (id : String) : Event → Bool
  | .accepted _ (.leased emails) => emails.any fun e => e.id = id
  | _ => false

def leases (id : String) (es : List Event) : Nat :=
  es.countP (hands id)

end Runs

variable {w w' start mid : World} {es : List Event} {e : Event} {r r' : Email} {id workerId : String}
  {limit leaseMs : Nat} {t : Outbox}

section Rows

def Email.finished (r : Email) : Prop := r.status = .delivered ∨ r.status = .exhausted

def Email.erased (r : Email) : Prop := r.recipient = "" ∧ r.subject = "" ∧ r.body = ""

structure RowOk (r : Email) : Prop where
  attempts : r.attempts ≤ 5
  pending : r.status = .pending → r.attempts < 5
  sending : r.status = .sending → ∃ expiresAt, r.leaseExpiresAt = some expiresAt
  erased : r.finished → r.erased

-- what one event does to a row
inductive RowMove (clock : Nat) (r : Email) : Bool → Email → Prop
  | kept : RowMove clock r false r
  | reopened : r.abandoned clock = true → RowMove clock r false (reopen r)
  | leased {worker : String} {expiresAt : Nat} : (afterExpiry clock r).due clock = true →
      clock < expiresAt → RowMove clock r true (takeLease worker expiresAt (afterExpiry clock r))
  | delivered {now : Nat} : r.status = .sending → RowMove clock r false (deliver now r)
  | failed {error : String} : r.status = .sending → RowMove clock r false (fail error r)

theorem afterExpiry_attempts (clock : Nat) (r : Email) : (afterExpiry clock r).attempts = r.attempts := by
  unfold afterExpiry
  split <;> rfl

theorem RowMove.attempts {clock : Nat} {b : Bool} (h : RowMove clock r b r') :
    r'.attempts = r.attempts + b.toNat := by
  cases h with
  | leased _ _ => simp [takeLease, afterExpiry_attempts]
  | _ => rfl

theorem RowMove.ok {clock : Nat} {b : Bool} (h : RowMove clock r b r') (hr : RowOk r) : RowOk r' := by
  cases h with
  | kept => exact hr
  | reopened _ =>
    refine ⟨hr.attempts, ?_, ?_, ?_⟩
    · simp [reopen]
    · simp [reopen]
    · simp [reopen, Email.finished]
  | leased hdue _ =>
    simp only [Email.due, Bool.and_eq_true, decide_eq_true_eq] at hdue
    have hlt := hdue.1.2
    refine ⟨?_, ?_, ?_, ?_⟩
    · simp only [takeLease]
      omega
    · simp [takeLease]
    · simp [takeLease]
    · simp [takeLease, Email.finished]
  | delivered _ =>
    refine ⟨hr.attempts, ?_, ?_, ?_⟩
    · simp [deliver]
    · simp [deliver]
    · simp [deliver, Email.erased]
  | failed _ =>
    by_cases hlast : 5 ≤ r.attempts
    · refine ⟨hr.attempts, ?_, ?_, ?_⟩
      · simp [fail, hlast]
      · simp [fail, hlast]
      · simp [fail, hlast, Email.erased]
    · refine ⟨hr.attempts, ?_, ?_, ?_⟩
      · simp [fail, hlast]
      · simp [fail, hlast]
      · simp [fail, hlast, Email.finished]

end Rows

section Steps

theorem hands_leased {request : Request} {emails : List PendingEmail} :
    hands id (.accepted request (.leased emails)) = true ↔ id ∈ emails.map PendingEmail.id := by
  simp [hands]

theorem saturatingAdd_gt {now ms : Nat} (hnow : now ≤ i64Max) (hms : 0 < ms) :
    now < saturatingAdd now ms := by
  simp only [saturatingAdd, u64Max, i64Max] at hnow ⊢
  omega

theorem Leases.moves {t' : Outbox} {leased : List PendingEmail} {now : Nat}
    (h : Leases t now workerId limit leaseMs t' leased)
    (hr : t.get? id = some r) : ∃ r', t'.get? id = some r' ∧
      RowMove now r (decide (id ∈ leased.map PendingEmail.id)) r' := by
  have hrow := h.rows id
  rw [hr, Option.map_some] at hrow
  by_cases hid : id ∈ leased.map PendingEmail.id
  · rw [if_pos hid] at hrow
    refine ⟨_, hrow, ?_⟩
    obtain ⟨e, he, hdue⟩ := h.due id hid
    obtain rfl : r = e := Option.some.inj (hr.symm.trans he)
    have hms := h.duration
    simp only [hid, decide_true]
    exact .leased hdue (saturatingAdd_gt h.clock (by omega))
  · rw [if_neg hid] at hrow
    refine ⟨_, hrow, ?_⟩
    simp only [hid, decide_false]
    unfold afterExpiry
    split
    · next habandoned => exact .reopened habandoned
    · exact .kept

theorem Reported.moves {f : Email → Email} {t' : Outbox} {clock : Nat} {e : Email}
    (h : Reported t id workerId f t' e) {id' : String} (hr : t.get? id' = some r)
    (hf : e.status = .sending → RowMove clock e false (f e)) :
    ∃ r', t'.get? id' = some r' ∧ RowMove clock r false r' := by
  have hrow := h.rows id'
  by_cases hid : id' = id
  · rw [if_pos hid] at hrow
    subst hid
    obtain rfl : e = r := Option.some.inj (h.row.symm.trans hr)
    exact ⟨_, hrow, hf h.sending⟩
  · rw [if_neg hid, hr] at hrow
    exact ⟨r, hrow, .kept⟩

theorem Reported.present {f : Email → Email} {t' : Outbox} {e : Email}
    (h : Reported t id workerId f t' e) {id' : String} (hr : t'.get? id' = some r) :
    t.get? id' ≠ none := by
  have hrow := h.rows id'
  by_cases hid : id' = id
  · rw [hid, h.row]
    simp
  · rw [if_neg hid] at hrow
    rw [← hrow, hr]
    simp

theorem insertEmail_some {email : NewEmail} {t' : Outbox} (h : insertEmail t email = some t') :
    t.insert? email.row = some t' := by
  unfold insertEmail at h
  split at h
  · cases h
  · exact h

theorem Step.moves (h : Step w e w') (hr : w.emails.get? id = some r) :
    ∃ r', w'.emails.get? id = some r' ∧ RowMove w.clock.1 r (hands id e) r' := by
  cases h with
  | @accepted request response emails hexec =>
    cases request with
    | lease workerId limit leaseMs =>
      simp only [execute, map_eq_ok, Prod.mk.injEq] at hexec
      obtain ⟨⟨_, leased⟩, hlease, rfl, rfl⟩ := hexec
      obtain ⟨r', hr', hmove⟩ := (leasePendingEmails_ok hlease).moves hr
      refine ⟨r', hr', ?_⟩
      have hhands : hands id (.accepted (.lease workerId limit leaseMs) (.leased leased)) =
          decide (id ∈ leased.map PendingEmail.id) := by
        rw [Bool.eq_iff_iff, hands_leased, decide_eq_true_eq]
      rw [hhands]
      exact hmove
    | delivered id' workerId =>
      simp only [execute, map_eq_ok, Prod.mk.injEq] at hexec
      obtain ⟨_, hdelivered, rfl, rfl⟩ := hexec
      obtain ⟨e, hreported⟩ := markEmailDelivered_ok hdelivered
      exact hreported.moves hr .delivered
    | failed id' workerId error =>
      simp only [execute, map_eq_ok, Prod.mk.injEq] at hexec
      obtain ⟨⟨_, _⟩, hfailed, rfl, rfl⟩ := hexec
      obtain ⟨e, hreported⟩ := markEmailFailed_ok hfailed
      exact hreported.moves hr .failed
  | rejected _ => exact ⟨r, hr, .kept⟩
  | @enqueued email emails hinsert =>
    refine ⟨r, ?_, .kept⟩
    have hrow := insertEmail_some hinsert
    rw [Table.get?_insert? hrow]
    split
    · next hid =>
      rw [← hid, (Table.insert?_eq_some.mp hrow).1] at hr
      cases hr
    · exact hr
  | tick => exact ⟨r, hr, .kept⟩

theorem Step.appears (h : Step w e w') (hnone : w.emails.get? id = none) :
    hands id e = false ∧ ∀ r, w'.emails.get? id = some r → r.status = .pending ∧ r.attempts = 0 := by
  cases h with
  | @accepted request response emails hexec =>
    cases request with
    | lease workerId limit leaseMs =>
      simp only [execute, map_eq_ok, Prod.mk.injEq] at hexec
      obtain ⟨⟨_, leased⟩, hlease, rfl, rfl⟩ := hexec
      have hleases := leasePendingEmails_ok hlease
      refine ⟨?_, ?_⟩
      · rw [← Bool.not_eq_true, hands_leased]
        intro hid
        obtain ⟨e, he, -⟩ := hleases.due id hid
        rw [hnone] at he
        cases he
      · intro r hr
        have hrow := hleases.rows id
        rw [hnone] at hrow
        rw [show (_ : Option Email) = _ from hrow] at hr
        cases hr
    | delivered id' workerId =>
      simp only [execute, map_eq_ok, Prod.mk.injEq] at hexec
      obtain ⟨_, hdelivered, rfl, rfl⟩ := hexec
      obtain ⟨e, hreported⟩ := markEmailDelivered_ok hdelivered
      exact ⟨rfl, fun r hr => absurd (hreported.present hr) (by simp [hnone])⟩
    | failed id' workerId error =>
      simp only [execute, map_eq_ok, Prod.mk.injEq] at hexec
      obtain ⟨⟨_, _⟩, hfailed, rfl, rfl⟩ := hexec
      obtain ⟨e, hreported⟩ := markEmailFailed_ok hfailed
      exact ⟨rfl, fun r hr => absurd (hreported.present hr) (by simp [hnone])⟩
  | rejected _ =>
    refine ⟨rfl, fun r hr => ?_⟩
    rw [hnone] at hr
    cases hr
  | @enqueued email emails hinsert =>
    refine ⟨rfl, fun r hr => ?_⟩
    rw [Table.get?_insert? (insertEmail_some hinsert)] at hr
    split at hr
    · cases hr
      exact ⟨rfl, rfl⟩
    · rw [hnone] at hr
      cases hr
  | tick =>
    refine ⟨rfl, fun r hr => ?_⟩
    rw [show w.emails.get? id = some r from hr] at hnone
    cases hnone

end Steps

section Counting

theorem leases_snoc (id : String) (es : List Event) (e : Event) :
    leases id (es ++ [e]) = leases id es + (hands id e).toNat := by
  unfold leases
  rw [List.countP_append]
  cases h : hands id e with
  | false => simp [h]
  | true => simp [h]

structure Counted (es : List Event) (w : World) : Prop where
  rows : ∀ id r, w.emails.get? id = some r → r.attempts = leases id es ∧ RowOk r
  absent : ∀ id, w.emails.get? id = none → leases id es = 0

theorem Counted.step (h : Counted es w) (hstep : Step w e w') : Counted (es ++ [e]) w' := by
  refine ⟨?_, ?_⟩
  · intro id r' hr'
    rw [leases_snoc]
    cases hr : w.emails.get? id with
    | none =>
      obtain ⟨hhands, hnew⟩ := hstep.appears hr
      obtain ⟨hpending, hzero⟩ := hnew r' hr'
      refine ⟨by simp [hhands, hzero, h.absent id hr], ⟨by omega, fun _ => by omega, ?_, ?_⟩⟩
      · simp [hpending]
      · simp [hpending, Email.finished]
    | some r =>
      obtain ⟨r'', hr'', hmove⟩ := hstep.moves hr
      obtain rfl : r'' = r' := Option.some.inj (hr''.symm.trans hr')
      obtain ⟨hattempts, hok⟩ := h.rows id r hr
      exact ⟨by rw [hmove.attempts, hattempts], hmove.ok hok⟩
  · intro id hnone
    rw [leases_snoc]
    cases hr : w.emails.get? id with
    | none => simp [(hstep.appears hr).1, h.absent id hr]
    | some r =>
      obtain ⟨r', hr', -⟩ := hstep.moves hr
      rw [hnone] at hr'
      cases hr'

theorem run_counted (hstart : start.emails = .empty) (run : Run start es w) : Counted es w := by
  refine run.history ?_ fun _ _ _ _ _ hc hstep => hc.step hstep
  refine ⟨?_, fun _ _ => rfl⟩
  intro id r hr
  rw [hstart] at hr
  cases hr

end Counting

section Fifth

-- Whoever holds a row's fifth lease reports before it lapses.
def Answered (w : World) (e : Event) : Prop :=
  ∀ clock, e = .tick clock → ∀ id r, w.emails.get? id = some r → r.status = .sending →
    5 ≤ r.attempts → r.lapsed clock.1 = false

structure Tidy (clock : Nat) (r : Email) : Prop where
  sending : r.status = .sending → 5 ≤ r.attempts → r.lapsed clock = false
  retry : r.status = .retry → r.attempts < 5

theorem RowMove.tidy {clock : Nat} {b : Bool} (h : RowMove clock r b r') (hr : Tidy clock r) :
    Tidy clock r' := by
  cases h with
  | kept => exact hr
  | reopened habandoned =>
    simp only [Email.abandoned, Bool.and_eq_true, decide_eq_true_eq] at habandoned
    refine ⟨by simp [reopen], fun _ => ?_⟩
    by_contra hfifth
    have hlive := hr.sending habandoned.1 (Nat.le_of_not_lt hfifth)
    rw [habandoned.2] at hlive
    cases hlive
  | leased _ hexpires =>
    refine ⟨fun _ _ => ?_, by simp [takeLease]⟩
    simp only [Email.lapsed, takeLease, Option.all_some, decide_eq_false_iff_not]
    omega
  | delivered _ => exact ⟨by simp [deliver], by simp [deliver]⟩
  | failed _ =>
    by_cases hlast : 5 ≤ r.attempts
    · exact ⟨by simp [fail, hlast], by simp [fail, hlast]⟩
    · refine ⟨by simp [fail, hlast], fun _ => ?_⟩
      simp only [fail]
      omega

theorem Step.clock (h : Step w e w') :
    w'.clock = w.clock ∨ ∃ clock, e = .tick clock ∧ w' = { w with clock := clock } := by
  cases h with
  | tick => exact .inr ⟨_, rfl, rfl⟩
  | _ => exact .inl rfl

theorem Step.tidy (h : Step w e w') (hanswered : Answered w e)
    (hw : ∀ id r, w.emails.get? id = some r → Tidy w.clock.1 r) :
    ∀ id r, w'.emails.get? id = some r → Tidy w'.clock.1 r := by
  intro id r' hr'
  rcases h.clock with hclock | ⟨clock, rfl, rfl⟩
  · rw [hclock]
    cases hr : w.emails.get? id with
    | none =>
      obtain ⟨hpending, -⟩ := (h.appears hr).2 r' hr'
      exact ⟨by simp [hpending], by simp [hpending]⟩
    | some r =>
      obtain ⟨r'', hr'', hmove⟩ := h.moves hr
      obtain rfl : r'' = r' := Option.some.inj (hr''.symm.trans hr')
      exact hmove.tidy (hw id r hr)
  · exact ⟨hanswered clock rfl id r' hr', (hw id r' hr').retry⟩

end Fifth

section Progress

variable {clock : Clock}

structure ValidLease (workerId : String) (limit leaseMs : Nat) : Prop where
  worker : 16 ≤ (trim workerId).utf8ByteSize ∧ (trim workerId).utf8ByteSize ≤ 128
  batch : 1 ≤ limit ∧ limit ≤ 100
  duration : 30000 ≤ leaseMs ∧ leaseMs ≤ emailMaxLeaseMs

theorem ValidLease.ok (h : ValidLease workerId limit leaseMs) (clock : Clock) (t : Outbox) :
    ∃ t' leased, leasePendingEmails workerId clock.1 t limit leaseMs = .ok (t', leased) := by
  have hfits := clock.2
  obtain ⟨hmin, hmax⟩ := h.worker
  obtain ⟨hlimit, hlimit'⟩ := h.batch
  obtain ⟨hms, hms'⟩ := h.duration
  have hnow : clock.1 ≤ i64Max := by omega
  have hexpires : saturatingAdd clock.1 leaseMs ≤ i64Max := by
    rw [saturatingAdd_le_iff le_rfl]
    omega
  have hclock : asI64 clock.1 = .ok clock.1 := asI64_eq_ok.mpr ⟨hnow, rfl⟩
  obtain ⟨⟨t', leased⟩, hleased⟩ := @leaseEach_ok (trim workerId) _ _ hexpires hnow
    (dueIds clock.1 (reopenAbandoned clock.1 t) limit) (reopenAbandoned clock.1 t)
  refine ⟨t', leased, ?_⟩
  have hvalid : ¬((trim workerId).utf8ByteSize < 16 ∨ 128 < (trim workerId).utf8ByteSize ∨
      limit < 1 ∨ 100 < limit ∨ leaseMs < 30000 ∨ emailMaxLeaseMs < leaseMs) := by omega
  simp only [leasePendingEmails, reject, hvalid, ↓reduceIte, hclock, ok_bind]
  exact hleased

theorem afterExpiry_again (now : Nat) (r : Email) :
    afterExpiry now (afterExpiry now r) = afterExpiry now r := by
  by_cases h : r.abandoned now = true
  · have hreopened : afterExpiry now r = reopen r := by rw [afterExpiry, if_pos h]
    rw [hreopened, afterExpiry, if_neg (by simp [Email.abandoned, reopen])]
  · have hkept : afterExpiry now r = r := by rw [afterExpiry, if_neg h]
    rw [hkept, hkept]

theorem afterExpiry_taken {now expiresAt : Nat} {worker : String} (h : now < expiresAt) (r : Email) :
    (afterExpiry now (takeLease worker expiresAt r)).due now = false := by
  have hlive : (takeLease worker expiresAt r).abandoned now = false := by
    simp only [Email.abandoned, Email.lapsed, takeLease, Option.all_some, decide_true, Bool.true_and,
      decide_eq_false_iff_not]
    omega
  rw [afterExpiry, if_neg (by simp [hlive])]
  simp [Email.due, takeLease]

def dueAt (now : Nat) (t : Outbox) (id : String) : Bool :=
  (t.get? id).any fun r => (afterExpiry now r).due now

theorem Leases.dueAt_after {now : Nat} {t' : Outbox} {leased : List PendingEmail}
    (h : Leases t now workerId limit leaseMs t' leased) (id : String) :
    dueAt now t' id = (dueAt now t id && !decide (id ∈ leased.map PendingEmail.id)) := by
  unfold dueAt
  rw [h.rows]
  cases hr : t.get? id with
  | none => rfl
  | some r =>
    by_cases hid : id ∈ leased.map PendingEmail.id
    · have hms := h.duration
      have hlive : now < saturatingAdd now leaseMs := saturatingAdd_gt h.clock (by omega)
      simp only [hid, ↓reduceIte, Option.map_some, Option.any_some, decide_true, Bool.not_true,
        Bool.and_false]
      exact afterExpiry_taken hlive _
    · simp [hid, afterExpiry_again]

theorem Leases.progress {now : Nat} {t' : Outbox} {leased : List PendingEmail} {id : String}
    (h : Leases t now workerId limit leaseMs t' leased) (hid : dueAt now t id = true) :
    ∃ first ∈ leased.map PendingEmail.id, first ∈ t.rows.map Email.id ∧ dueAt now t first = true := by
  obtain ⟨r, hr, hdue⟩ := Option.any_eq_true _ _ |>.mp hid
  have hrow : (reopenAbandoned now t).get? id = some (afterExpiry now r) := by
    rw [get?_reopenAbandoned, hr]
    rfl
  obtain ⟨first, hfirst⟩ : ∃ first, first ∈ leased.map PendingEmail.id := by
    apply List.exists_mem_of_ne_nil
    rw [h.ids]
    exact dueIds_ne_nil h.batch.1 hrow hdue
  obtain ⟨r', hr', hdue'⟩ := h.due first hfirst
  refine ⟨first, hfirst, List.mem_map.mpr ⟨r', Table.get?_mem hr', Table.get?_key hr'⟩, ?_⟩
  simp [dueAt, hr', hdue']

def leaseQueue (hvalid : ValidLease workerId limit leaseMs) (clock : Clock) :
    WorkQueue Outbox String where
  takes t ids t' := ∃ leased, leasePendingEmails workerId clock.1 t limit leaseMs = .ok (t', leased) ∧
    ids = leased.map PendingEmail.id
  ready _ := True
  keys t := t.rows.map Email.id
  due t id := dueAt clock.1 t id
  call t _ := by
    obtain ⟨t', leased, hlease⟩ := hvalid.ok clock t
    exact ⟨_, t', ⟨leased, hlease, rfl⟩, trivial⟩
  keys_eq t ids t' := by
    rintro - ⟨leased, hlease, -⟩
    exact (leasePendingEmails_ok hlease).keys
  due_eq t ids t' := by
    rintro - ⟨leased, hlease, rfl⟩ id
    exact (leasePendingEmails_ok hlease).dueAt_after id
  progress t ids t' id := by
    rintro - ⟨leased, hlease, rfl⟩ - hdue
    exact (leasePendingEmails_ok hlease).progress hdue

theorem lease_runs (hvalid : ValidLease workerId limit leaseMs) {ts : List (List String)}
    {t' : Outbox} (h : Trace (leaseQueue hvalid w.clock).takes w.emails ts t') :
    ∃ es', Run w es' { w with emails := t' } ∧
      (∀ e ∈ es', ∃ emails, e = .accepted (.lease workerId limit leaseMs) (.leased emails)) ∧
      ∀ ids ∈ ts, ∀ id ∈ ids, 0 < leases id es' := by
  induction h with
  | nil => exact ⟨[], .nil, by simp, by simp⟩
  | @snoc t t' ts ids _ hcall ih =>
    obtain ⟨es', hrun, hall, hcount⟩ := ih
    obtain ⟨leased, hlease, rfl⟩ := hcall
    have hstep : Step { w with emails := t } (.accepted (.lease workerId limit leaseMs)
        (.leased leased)) { w with emails := t' } := by
      apply Step.accepted
      simp [execute, hlease, Except.map]
    refine ⟨_, .snoc hrun hstep, ?_, ?_⟩
    · intro e he
      rcases List.mem_append.mp he with he | he
      · exact hall e he
      · exact ⟨leased, List.mem_singleton.mp he⟩
    · intro ids hids id hid
      rw [leases_snoc]
      rcases List.mem_append.mp hids with hids | hids
      · have hpos := hcount ids hids id hid
        omega
      · rw [List.mem_singleton.mp hids] at hid
        have hhands : hands id (.accepted (.lease workerId limit leaseMs) (.leased leased)) = true :=
          hands_leased.mpr hid
        rw [hhands]
        exact Nat.succ_pos _

theorem leased_eventually (hvalid : ValidLease workerId limit leaseMs)
    (hr : w.emails.get? id = some r) (hdue : (afterExpiry w.clock.1 r).due w.clock.1 = true) :
    ∃ es' w', Run w es' w' ∧
      (∀ e ∈ es', ∃ emails, e = .accepted (.lease workerId limit leaseMs) (.leased emails)) ∧
      0 < leases id es' := by
  have hdue' : dueAt w.clock.1 w.emails id = true := by simp [dueAt, hr, hdue]
  have hkey : id ∈ w.emails.rows.map Email.id :=
    List.mem_map.mpr ⟨r, Table.get?_mem hr, Table.get?_key hr⟩
  obtain ⟨ts, ids, t', hrun, hid⟩ :=
    WorkQueue.taken_eventually (q := leaseQueue hvalid w.clock) trivial hkey hdue'
  obtain ⟨es', hes, hall, hcount⟩ := lease_runs hvalid hrun
  exact ⟨es', _, hes, hall, hcount ids (by simp) id hid⟩

end Progress

section Guarantee

structure Unwedged (es : List Event) (w : World) : Prop where
  leasable : ∀ id r, w.emails.get? id = some r → ¬r.finished → r.lapsed w.clock.1 = true →
    ∀ workerId limit leaseMs, ValidLease workerId limit leaseMs → ∃ es' w', Run w es' w' ∧
      (∀ e ∈ es', ∃ emails, e = .accepted (.lease workerId limit leaseMs) (.leased emails)) ∧
      0 < leases id es'
  waiting : ∀ id r, w.emails.get? id = some r → r.status = .pending ∨ r.status = .retry →
    r.attempts < 5
  ended : ∀ id r, w.emails.get? id = some r → (r.finished → r.erased) ∧ leases id es ≤ 5 ∧
    (leases id es = 5 → r.finished ∨ r.status = .sending ∧ r.lapsed w.clock.1 = false)

def UnwedgedThroughout (start : World) (es : List Event) (w : World) : Prop :=
  ∀ as bs mid, es = as ++ bs → Run start as mid → Run mid bs w → Unwedged as mid

def AnsweredThroughout (start : World) (es : List Event) (w : World) : Prop :=
  ∀ as e bs mid mid', es = as ++ e :: bs → Run start as mid → Step mid e mid' → Run mid' bs w →
    Answered mid e

theorem unwedged_of_tidy (hc : Counted es w)
    (hw : ∀ id r, w.emails.get? id = some r → Tidy w.clock.1 r) : Unwedged es w := by
  have hwaiting : ∀ id r, w.emails.get? id = some r → r.status = .pending ∨ r.status = .retry →
      r.attempts < 5 := by
    intro id r hr hstatus
    rcases hstatus with hpending | hretry
    · exact (hc.rows id r hr).2.pending hpending
    · exact (hw id r hr).retry hretry
  refine ⟨?_, hwaiting, ?_⟩
  · intro id r hr hopen hlapsed workerId limit leaseMs hvalid
    apply leased_eventually hvalid hr
    by_cases hsending : r.status = .sending
    · have hfew : r.attempts < 5 := by
        by_contra hfifth
        have hlive := (hw id r hr).sending hsending (Nat.le_of_not_lt hfifth)
        rw [hlapsed] at hlive
        cases hlive
      have habandoned : r.abandoned w.clock.1 = true := by simp [Email.abandoned, hsending, hlapsed]
      rw [afterExpiry, if_pos habandoned]
      simp [Email.due, Email.lapsed, reopen, hfew]
    · have hkept : ¬r.abandoned w.clock.1 = true := by simp [Email.abandoned, hsending]
      rw [afterExpiry, if_neg hkept]
      have hstatus : r.status = .pending ∨ r.status = .retry := by
        simp only [Email.finished, not_or] at hopen
        cases hs : r.status with
        | pending => exact .inl rfl
        | retry => exact .inr rfl
        | sending => exact absurd hs hsending
        | delivered => exact absurd hs hopen.1
        | exhausted => exact absurd hs hopen.2
      simp [Email.due, hstatus, hlapsed, hwaiting id r hr hstatus]
  · intro id r hr
    obtain ⟨hattempts, hok⟩ := hc.rows id r hr
    rw [← hattempts]
    refine ⟨hok.erased, hok.attempts, fun hfive => ?_⟩
    cases hs : r.status with
    | pending => exact absurd (hok.pending hs) (by omega)
    | retry => exact absurd ((hw id r hr).retry hs) (by omega)
    | sending => exact .inr ⟨rfl, (hw id r hr).sending hs (by omega)⟩
    | delivered => exact .inl (.inl hs)
    | exhausted => exact .inl (.inr hs)

theorem leases_append (id : String) (as bs : List Event) :
    leases id (as ++ bs) = leases id as + leases id bs :=
  List.countP_append

theorem validLease_exists : ValidLease "email-worker-alpha" 1 30000 :=
  ⟨by decide, by decide, by decide⟩

theorem answered_of_unwedged (hstart : start.emails = .empty) {as bs : List Event}
    (hbefore : Run start as mid) (hstep : Step mid e w') (hafter : Run w' bs w)
    (h : UnwedgedThroughout start (as ++ e :: bs) w) : Answered mid e := by
  rintro clock rfl id r hr hsending hfifth
  by_contra hlapsed
  rw [Bool.not_eq_false] at hlapsed
  have hbefore' : Run start (as ++ [.tick clock]) w' := .snoc hbefore hstep
  have hsplit : as ++ .tick clock :: bs = (as ++ [.tick clock]) ++ bs := by simp
  have hunwedged := h (as ++ [.tick clock]) bs w' hsplit hbefore' hafter
  cases hstep with
  | tick =>
    have hopen : ¬r.finished := by simp [Email.finished, hsending]
    obtain ⟨es', later, hrun, -, hpos⟩ := hunwedged.leasable id r hr hopen hlapsed _ _ _
      validLease_exists
    have hcounted := run_counted hstart hbefore'
    have hcounted' := run_counted hstart (Trace.append_iff.mpr ⟨_, hbefore', hrun⟩)
    have hnow := (hcounted.rows id r hr).1
    have hpresent : later.emails.get? id ≠ none := by
      intro hnone
      have hzero := hcounted'.absent id hnone
      rw [leases_append] at hzero
      omega
    obtain ⟨r', hr'⟩ := Option.ne_none_iff_exists'.mp hpresent
    obtain ⟨hlater, hok⟩ := hcounted'.rows id r' hr'
    have hmost := hok.attempts
    rw [leases_append] at hlater
    omega

theorem outbox_never_wedges (hstart : start.emails = .empty) (run : Run start es w) :
    UnwedgedThroughout start es w ↔ AnsweredThroughout start es w := by
  constructor
  · rintro h as e bs mid mid' rfl hbefore hstep hafter
    exact answered_of_unwedged hstart hbefore hstep hafter h
  · rintro h as bs mid rfl hbefore hafter
    apply unwedged_of_tidy (run_counted hstart hbefore)
    have hstrong := hbefore.strengthen (Q := Answered) fun cs e ds u v has hcs hstep hds =>
      h cs e (ds ++ bs) u v (by rw [has, List.append_assoc, List.cons_append]) hcs hstep
        (Trace.append_iff.mpr ⟨mid, hds, hafter⟩)
    refine hstrong.invariant (P := fun w => ∀ id r, w.emails.get? id = some r → Tidy w.clock.1 r) ?_
      fun _ _ _ hw hstep => hstep.1.tidy hstep.2 hw
    intro id r hr
    rw [hstart] at hr
    cases hr

end Guarantee

section Sample

def sampleClock : Clock := ⟨1000, by decide⟩

def sampleStart : World := ⟨.empty, sampleClock⟩

def sampleEmail : NewEmail where
  id := "email_1"
  notificationId := "notification_1"
  recipient := "reader@example.com"
  subject := "Reset your Obolus password"
  body := "Use this link within one hour to reset your password"
  createdAt := 1000

def execEvent (w : World) : Event → Option World
  | .accepted request response =>
    match execute w.emails w.clock.1 request with
    | .ok (emails, response') => if response' = response then some { w with emails := emails } else none
    | .error _ => none
  | .rejected _ _ => none
  | .enqueued email => (insertEmail w.emails email).map fun emails => { w with emails := emails }
  | .tick clock => some { w with clock := clock }

theorem step_of_execEvent (w : World) (e : Event) (w' : World) (h : execEvent w e = some w') :
    Step w e w' := by
  unfold execEvent at h
  split at h
  · split at h
    · next emails response' hexec =>
      split at h
      · next hsame =>
        cases h
        exact .accepted (hsame ▸ hexec)
      · cases h
    · cases h
  · cases h
  · obtain ⟨emails, hinsert, rfl⟩ := Option.map_eq_some_iff.mp h
    exact .enqueued hinsert
  · cases h
    exact .tick

def sampleLease : Event :=
  .accepted (.lease "email-worker-alpha" 25 900000) (.leased [sampleEmail.row.pending])

def sampleFailure : Event :=
  .accepted (.failed "email_1" "email-worker-alpha" "email provider returned HTTP 503") (.failed false)

def sampleAnswered : List Event :=
  [.enqueued sampleEmail, sampleLease, sampleFailure, sampleLease, .tick ⟨2000000, by decide⟩,
    sampleLease]

-- The worker fails four times and crashes while it holds the fifth lease.
def sampleCrash : List Event :=
  [.enqueued sampleEmail, sampleLease, sampleFailure, sampleLease, sampleFailure, sampleLease,
    sampleFailure, sampleLease, sampleFailure, sampleLease]

def fifthLease (w : World) : Bool :=
  (w.emails.get? "email_1").any fun r =>
    decide (r.status = .sending ∧ r.attempts = 5 ∧ r.lapsed 2000000 = true)

theorem sampleAnswered_runs : (runWith execEvent sampleStart sampleAnswered).isSome = true := by
  decide +kernel

theorem sampleCrash_runs : (runWith execEvent sampleStart sampleCrash).any fifthLease = true := by
  decide +kernel

theorem outbox_never_wedges_sample :
    ∃ w, Run sampleStart sampleAnswered w ∧ (UnwedgedThroughout sampleStart sampleAnswered w ↔
      AnsweredThroughout sampleStart sampleAnswered w) := by
  obtain ⟨w, hw⟩ := Option.isSome_iff_exists.mp sampleAnswered_runs
  have run := runWith_trace step_of_execEvent hw
  exact ⟨w, run, outbox_never_wedges rfl run⟩

theorem fifth_crash_wedges :
    ∃ es w, Run sampleStart es w ∧ sampleStart.emails = .empty ∧
      ¬UnwedgedThroughout sampleStart es w := by
  obtain ⟨w, hw, hfifth⟩ := Option.any_eq_true _ _ |>.mp sampleCrash_runs
  have run := runWith_trace step_of_execEvent hw
  have hstep : Step w (.tick ⟨2000000, by decide⟩) { w with clock := ⟨2000000, by decide⟩ } := .tick
  refine ⟨_, _, .snoc run hstep, rfl, fun h => ?_⟩
  have hanswered := answered_of_unwedged rfl run hstep .nil h
  obtain ⟨r, hr, hr'⟩ := Option.any_eq_true _ _ |>.mp hfifth
  simp only [decide_eq_true_eq] at hr'
  have hlive := hanswered _ rfl "email_1" r hr hr'.1 (by omega)
  rw [hr'.2.2] at hlive
  cases hlive

end Sample

end Obulus.Mail
