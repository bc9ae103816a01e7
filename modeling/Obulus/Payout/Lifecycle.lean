import Obulus.Payout.History

namespace Obulus.Payout

open Foundation Store

variable {enc : Encoding} {db db' start : Database} {e : Event} {es : List Event} {c : String}
  {r r' : PayoutClaim} {now : Nat} {req : Request}

def Event.prepares (c S : String) : Event → Prop
  | .accepted _ (.prepare q) => trim q.claimId = c ∧ trim q.transactionSignature = S
  | _ => False

def Event.retains (c : String) : Event → Prop
  | .accepted _ (.fail q) => trim q.claimId = c ∧ q.abandonPreparedTransaction = false
  | _ => False

-- An accepted abandoning failure of claim c at t, sent by the worker that holds the lease in the
-- state reached by the events before it.
def AbandonedAt (enc : Encoding) (start : Database) (c : String) (before : List Event) (t : Nat)
    (e : Event) : Prop :=
  ∃ q db r, e = .accepted t (.fail q) ∧ trim q.claimId = c ∧ q.abandonPreparedTransaction = true ∧
    Trace (Step enc) start before db ∧ db.payoutClaims.get? c = some r ∧
    ActiveLease q.workerId t r

def AbsenceReported (enc : Encoding) (start : Database) (c : String) (t : Nat)
    (es : List Event) : Prop :=
  ∃ before e later, es = before ++ e :: later ∧ AbandonedAt enc start c before t e ∧
    ∀ e' ∈ later, ¬e'.retains c

def AbsenceConfirmed (enc : Encoding) (start : Database) (c : String) (es : List Event) : Prop :=
  ∃ before e between e' later t u, es = before ++ e :: (between ++ e' :: later) ∧
    AbandonedAt enc start c before t e ∧ AbandonedAt enc start c (before ++ e :: between) u e' ∧
    t + payoutAbsenceConfirmationMs ≤ u ∧ ∀ m ∈ between, ¬m.retains c

def signatureOf (db : Database) (c : String) : Option String :=
  (db.payoutClaims.get? c).bind PayoutClaim.transactionSignature

section Outstanding

def observe (now : Nat) (abandon : Bool) (p : String × Option Nat) : Option (String × Option Nat) :=
  if abandon then
    match p.2 with
    | none => some (p.1, some now)
    | some t => if t + payoutAbsenceConfirmationMs ≤ now then none else some p
  else some (p.1, none)

-- Every signature handed to the store for claim c, until its completion is accepted or its
-- absence is reported twice far enough apart with no retaining failure between.
def track (c : String) (pending : List (String × Option Nat)) :
    Event → List (String × Option Nat)
  | .accepted _ (.prepare q) =>
    if trim q.claimId = c ∧ ∀ p ∈ pending, p.1 ≠ trim q.transactionSignature then
      pending ++ [(trim q.transactionSignature, none)]
    else pending
  | .accepted _ (.complete q) =>
    if trim q.claimId = c then
      pending.filter fun p => p.1 ≠ trim q.transactionSignature
    else pending
  | .accepted now (.fail q) =>
    if trim q.claimId = c then pending.filterMap (observe now q.abandonPreparedTransaction)
    else pending
  | _ => pending

def outstanding (c : String) (es : List Event) : List (String × Option Nat) :=
  es.foldl (track c) []

def Phase.evidence : Phase → List (String × Option Nat)
  | .prepared S a => [(S, a)]
  | _ => []

def evidenceOf (db : Database) (c : String) : List (String × Option Nat) :=
  (db.payoutClaims.get? c).elim [] fun r => r.phase.evidence

theorem track_other {pending : List (String × Option Nat)}
    (h : ∀ now req, e = .accepted now req → req.target ≠ some c) :
    track c pending e = pending := by
  cases e with
  | accepted now req =>
    have htarget := h now req rfl
    cases req with
    | lease q => rfl
    | prepare q =>
      simp only [Request.target, ne_eq, Option.some.injEq] at htarget
      simp [track, htarget]
    | complete q =>
      simp only [Request.target, ne_eq, Option.some.injEq] at htarget
      simp [track, htarget]
    | fail q =>
      simp only [Request.target, ne_eq, Option.some.injEq] at htarget
      simp [track, htarget]
  | rejected _ _ _ => rfl
  | enqueued _ => rfl
  | earned _ => rfl
  | matured _ => rfl
  | elsewhere _ _ => rfl

theorem track_move (h : Move now r r' req) (hid : r.id = c) :
    track c r.phase.evidence (.accepted now req) = r'.phase.evidence := by
  cases h with
  | elsewhere hc hne heq =>
    subst heq
    refine track_other ?_
    rintro _ _ ⟨⟩ htarget
    rw [hc, Option.some.injEq] at htarget
    exact hne (hid.trans htarget.symm)
  | lease hphase => simp [track, hphase]
  | prepared hq _ hp hp' => simp [track, hq, hid, hp, hp', Phase.evidence]
  | resent hq hp heq =>
    subst heq
    simp [track, hp, Phase.evidence]
  | confirmed hq _ hp hp' => simp [track, hq, hid, hp, hp', Phase.evidence]
  | reconfirmed hq hp heq =>
    subst heq
    simp [track, hp, Phase.evidence]
  | observed hq _ hflag hp hp' =>
    simp [track, hq, hid, hp, hp', Phase.evidence, observe, hflag]
  | awaited hq _ hflag hp hlt hp' =>
    simp [track, hq, hid, hp, hp', Phase.evidence, observe, hflag, Nat.not_le.mpr hlt]
  | released hq _ hflag hp hle hp' =>
    simp [track, hq, hid, hp, hp', Phase.evidence, observe, hflag, hle]
  | retained hq _ hflag hp hp' =>
    simp [track, hq, hid, hp, hp', Phase.evidence, observe, hflag]
  | failed hq hflag hp hp' => simp [track, hp, hp', Phase.evidence]
  | ignored hq hp heq =>
    subst heq
    simp [track, hp, Phase.evidence]

end Outstanding

section Steps

def AllSound (db : Database) : Prop :=
  ∀ c r, db.payoutClaims.get? c = some r → Sound r

theorem newClaim_sound (n : NewClaim) : Sound n.row := by
  simp [Sound, NewClaim.row]

theorem get?_enqueued {n : NewClaim} (h : insertPayoutClaim enc db n = .ok db') (c : String) :
    db'.payoutClaims.get? c = if n.id = c then some n.row else db.payoutClaims.get? c :=
  Table.get?_insert? (insertPayoutClaim_ok h).1

-- what one event does to the row of claim c
inductive RowStep (c : String) (db db' : Database) : Event → Prop
  | missing {e : Event} : db.payoutClaims.get? c = none → db'.payoutClaims.get? c = none →
      (∀ now req, e = .accepted now req → req.target ≠ some c) → RowStep c db db' e
  | created {n : NewClaim} : db.payoutClaims.get? c = none → n.id = c →
      db'.payoutClaims.get? c = some n.row → RowStep c db db' (.enqueued n)
  | untouched {e : Event} {r : PayoutClaim} : db.payoutClaims.get? c = some r → db'.payoutClaims.get? c = some r →
      (∀ now req, e ≠ .accepted now req) → RowStep c db db' e
  | moved {now : Nat} {req : Request} {r r' : PayoutClaim} : db.payoutClaims.get? c = some r → db'.payoutClaims.get? c = some r' →
      r.id = c → r'.earningEventId = r.earningEventId → Sound r' → Move now r r' req →
      RowStep c db db' (.accepted now req)

theorem Step.row (h : Step enc db e db') (hs : AllSound db) (c : String) : RowStep c db db' e := by
  have hsame (heq : db'.payoutClaims = db.payoutClaims)
      (he : ∀ now req, e ≠ .accepted now req) : RowStep c db db' e := by
    cases hr : db.payoutClaims.get? c with
    | none =>
      exact .missing hr (by rw [heq, hr]) fun now req hreq => absurd hreq (he now req)
    | some r => exact .untouched hr (by rw [heq, hr]) he
  cases h with
  | accepted hx =>
    obtain ⟨hfound, hclaim, habsent, -⟩ := execute_changed hx
    cases hr : db.payoutClaims.get? c with
    | none =>
      refine .missing hr (habsent c hr) ?_
      intro _ _ heq hc
      cases heq
      exact hfound c hc hr
    | some r =>
      obtain ⟨r', hr', heffect⟩ := hclaim c r hr
      obtain ⟨hsound, hmove⟩ := heffect.move (hs c r hr)
      exact .moved hr hr' (Table.get?_key hr) heffect.kept.2 hsound hmove
  | rejected _ => exact hsame rfl (by simp)
  | enqueued hx _ =>
    have hget := get?_enqueued hx c
    cases hr : db.payoutClaims.get? c with
    | none =>
      split at hget
      · next hid => exact .created hr hid hget
      · exact .missing hr (hget.trans hr) (by simp)
    | some r =>
      split at hget
      · next hid =>
        have hfresh := (Table.insert?_eq_some.mp (insertPayoutClaim_ok hx).1).1
        rw [show PayoutClaim.id _ = c from hid, hr] at hfresh
        cases hfresh
      · exact .untouched hr (hget.trans hr) (by simp)
  | earned _ _ => exact hsame rfl (by simp)
  | matured => exact hsame rfl (by simp)
  | elsewhere => exact hsame rfl (by simp)

theorem Step.allSound (h : Step enc db e db') (hs : AllSound db) : AllSound db' := by
  intro c r hr
  cases h.row hs c with
  | missing _ hn _ =>
    rw [hn] at hr
    cases hr
  | created _ _ hn =>
    rw [hn, Option.some.injEq] at hr
    exact hr ▸ newClaim_sound _
  | untouched ho hn _ =>
    rw [hn, Option.some.injEq] at hr
    exact hr ▸ hs c _ ho
  | moved _ hn _ _ hsound _ =>
    rw [hn, Option.some.injEq] at hr
    exact hr ▸ hsound

theorem run_allSound (run : Run enc es db) : AllSound db := by
  refine Trace.invariant (P := AllSound) ?_ (fun _ _ _ hs h => h.allSound hs) run
  intro c r hr
  cases hr

theorem outstanding_eq_evidence (run : Run enc es db) : outstanding c es = evidenceOf db c := by
  refine Trace.history (P := fun es db => outstanding c es = evidenceOf db c) rfl ?_ run
  intro es db e db' run ih h
  simp only [outstanding, List.foldl_append, List.foldl_cons, List.foldl_nil] at ih ⊢
  rw [ih]
  unfold evidenceOf
  cases h.row (run_allSound run) c with
  | missing ho hn htarget =>
    rw [ho, hn]
    exact track_other htarget
  | created ho _ hn =>
    rw [ho, hn]
    rfl
  | untouched ho hn he =>
    rw [ho, hn]
    exact track_other fun now req heq => absurd heq (he now req)
  | moved ho hn hid _ _ hmove =>
    rw [ho, hn]
    exact track_move hmove hid

end Steps

section Replacement

variable {S : String} {t : Nat}

def Phase.signature : Phase → Option String
  | .idle => none
  | .prepared S _ => some S
  | .confirmed S => some S

theorem phase_signature (h : Sound r) : r.phase.signature = r.transactionSignature := by
  cases hp : r.phase with
  | idle => exact ((phase_idle_iff h).mp hp).symm
  | prepared S a => exact ((phase_prepared_iff h).mp hp).2.1.symm
  | confirmed S => exact ((phase_confirmed_iff h).mp hp).2.symm

theorem AbsenceReported.extend (h : AbsenceReported enc start c t es) (he : ¬e.retains c) :
    AbsenceReported enc start c t (es ++ [e]) := by
  obtain ⟨before, a, later, rfl, ha, hlater⟩ := h
  refine ⟨before, a, later ++ [e], by simp, ha, ?_⟩
  intro e' he'
  rcases List.mem_append.mp he' with hold | hnew
  · exact hlater e' hold
  · rw [List.mem_singleton.mp hnew]
    exact he

theorem AbsenceConfirmed.extend (h : AbsenceConfirmed enc start c es) :
    AbsenceConfirmed enc start c (es ++ [e]) := by
  obtain ⟨before, a, between, b, later, t, u, rfl, ha, hb, htu, hbetween⟩ := h
  exact ⟨before, a, between, b, later ++ [e], t, u, by simp, ha, hb, htu, hbetween⟩

-- S is still the signature of claim c, and an absence time on record is backed by a report.
def StillHeld (enc : Encoding) (start : Database) (c S : String) (es : List Event) (db : Database) :
    Prop :=
  ∃ r, db.payoutClaims.get? c = some r ∧ (r.phase = .confirmed S ∨
    ∃ a, r.phase = .prepared S a ∧ ∀ t, a = some t → AbsenceReported enc start c t es)

theorem held_move (hr : r.phase = .confirmed S ∨
      ∃ a, r.phase = .prepared S a ∧ ∀ t, a = some t → AbsenceReported enc start c t es)
    (hid : r.id = c) (run : Trace (Step enc) start es db) (hdb : db.payoutClaims.get? c = some r)
    (hdb' : db'.payoutClaims.get? c = some r') (hmove : Move now r r' req) :
    StillHeld enc start c S (es ++ [.accepted now req]) db' ∨
      AbsenceConfirmed enc start c (es ++ [.accepted now req]) := by
  have hkeep (hphase : r'.phase = r.phase) (he : ¬(Event.accepted now req).retains c) :
      StillHeld enc start c S (es ++ [.accepted now req]) db' := by
    refine ⟨r', hdb', ?_⟩
    rcases hr with hc | ⟨a, ha, hreported⟩
    · exact .inl (hphase.trans hc)
    · exact .inr ⟨a, hphase.trans ha, fun t ht => (hreported t ht).extend he⟩
  have hreport {q : FailRequest} (hq : trim q.claimId = r.id) (hl : ActiveLease q.workerId now r)
      (hflag : q.abandonPreparedTransaction = true) :
      AbandonedAt enc start c es now (.accepted now (.fail q)) :=
    ⟨q, db, r, rfl, hq.trans hid, hflag, run, hdb, hl⟩
  cases hmove with
  | @elsewhere _ d hd hne heq =>
    refine .inl (hkeep (by rw [heq]) ?_)
    cases req with
    | fail q =>
      rintro ⟨hq, -⟩
      simp only [Request.target, Option.some.injEq] at hd
      exact hne (hid.trans (hq.symm.trans hd))
    | lease q => exact id
    | prepare q => exact id
    | complete q => exact id
  | lease hphase => exact .inl (hkeep hphase id)
  | prepared _ _ hp _ => simp [hp] at hr
  | resent _ _ heq => exact .inl (hkeep (by rw [heq]) id)
  | confirmed _ _ hp hp' =>
    refine .inl ⟨r', hdb', .inl ?_⟩
    simp only [hp, reduceCtorEq, false_or, Phase.prepared.injEq] at hr
    obtain ⟨a, ⟨hS, -⟩, -⟩ := hr
    rw [hp', hS]
  | reconfirmed _ _ heq => exact .inl (hkeep (by rw [heq]) id)
  | observed hq hl hflag hp hp' =>
    simp only [hp, reduceCtorEq, false_or, Phase.prepared.injEq] at hr
    obtain ⟨a, ⟨rfl, rfl⟩, -⟩ := hr
    refine .inl ⟨r', hdb', .inr ⟨_, hp', ?_⟩⟩
    rintro t ⟨⟩
    exact ⟨es, _, [], rfl, hreport hq hl hflag, by simp⟩
  | awaited hq hl hflag hp hlt hp' =>
    refine .inl (hkeep (hp'.trans hp.symm) ?_)
    rintro ⟨-, hfalse⟩
    simp [hflag] at hfalse
  | @released q _ t hq hl hflag hp hle hp' =>
    simp only [hp, reduceCtorEq, false_or, Phase.prepared.injEq] at hr
    obtain ⟨a, ⟨-, rfl⟩, hreported⟩ := hr
    obtain ⟨before, e, later, hes, he, hlater⟩ := hreported t rfl
    refine .inr ⟨before, e, later, .accepted now (.fail q), [], t, now, by simp [hes], he, ?_, hle,
      hlater⟩
    rw [← hes]
    exact hreport hq hl hflag
  | retained hq hl hflag hp hp' =>
    simp only [hp, reduceCtorEq, false_or, Phase.prepared.injEq] at hr
    obtain ⟨a, ⟨rfl, -⟩, -⟩ := hr
    exact .inl ⟨r', hdb', .inr ⟨none, hp', by simp⟩⟩
  | failed _ _ hp _ => simp [hp] at hr
  | ignored _ hp heq =>
    refine .inl ⟨r', hdb', .inl ?_⟩
    simp only [hp, reduceCtorEq, false_and, exists_false, or_false] at hr
    rw [heq, hp, hr]

theorem held_step (hheld : StillHeld enc start c S es db) (hs : AllSound db)
    (run : Trace (Step enc) start es db) (h : Step enc db e db') :
    StillHeld enc start c S (es ++ [e]) db' ∨ AbsenceConfirmed enc start c (es ++ [e]) := by
  obtain ⟨r, hdb, hr⟩ := hheld
  cases h.row hs c with
  | missing ho _ _ => simp [ho] at hdb
  | created ho _ _ => simp [ho] at hdb
  | untouched ho hn he =>
    rw [hdb, Option.some.injEq] at ho
    subst ho
    refine .inl ⟨r, hn, hr.imp_right ?_⟩
    rintro ⟨a, ha, hreported⟩
    refine ⟨a, ha, fun t ht => (hreported t ht).extend ?_⟩
    cases e with
    | accepted now req => exact absurd rfl (he now req)
    | rejected _ _ _ => exact id
    | enqueued _ => exact id
    | earned _ => exact id
    | matured _ => exact id
    | elsewhere _ _ => exact id
  | moved ho hn hid _ _ hmove =>
    rw [hdb, Option.some.injEq] at ho
    subst ho
    exact held_move hr hid run hdb hn hmove

theorem signatureOf_eq (hs : AllSound db) (hdb : db.payoutClaims.get? c = some r) :
    signatureOf db c = r.phase.signature := by
  rw [phase_signature (hs c r hdb)]
  simp [signatureOf, hdb]

-- A signature enters a claim only through a preparation that clears the absence time.
theorem entered_with_none (hs : AllSound db) (h : Step enc db e db')
    (hbefore : signatureOf db c ≠ some S) (hafter : signatureOf db' c = some S) :
    ∃ r, db'.payoutClaims.get? c = some r ∧ r.phase = .prepared S none := by
  have hs' := h.allSound hs
  cases h.row hs c with
  | missing _ hn _ => simp [signatureOf, hn] at hafter
  | created _ _ hn => simp [signatureOf, hn, NewClaim.row] at hafter
  | untouched ho hn _ =>
    rw [signatureOf_eq hs ho] at hbefore
    rw [signatureOf_eq hs' hn] at hafter
    exact absurd hafter hbefore
  | moved ho hn _ _ _ hmove =>
    rw [signatureOf_eq hs ho] at hbefore
    rw [signatureOf_eq hs' hn] at hafter
    refine ⟨_, hn, ?_⟩
    cases hmove with
    | prepared _ _ hp hp' =>
      rw [hp'] at hafter ⊢
      rw [Option.some.inj hafter]
    | elsewhere _ _ heq => exact absurd (heq ▸ hafter) hbefore
    | lease hphase => exact absurd (hphase ▸ hafter) hbefore
    | resent _ _ heq => exact absurd (heq ▸ hafter) hbefore
    | confirmed _ _ hp hp' => simp_all [Phase.signature]
    | reconfirmed _ _ heq => exact absurd (heq ▸ hafter) hbefore
    | observed _ _ _ hp hp' => simp_all [Phase.signature]
    | awaited _ _ _ hp _ hp' => simp_all [Phase.signature]
    | released _ _ _ _ _ hp' => simp [hp', Phase.signature] at hafter
    | retained _ _ _ hp hp' => simp_all [Phase.signature]
    | failed _ _ _ hp' => simp [hp', Phase.signature] at hafter
    | ignored _ _ heq => exact absurd (heq ▸ hafter) hbefore

theorem replaced_after_confirmed_absence {mid : Database} (hs : AllSound db)
    (h : Step enc db e mid) (hbefore : signatureOf db c ≠ some S)
    (hentered : signatureOf mid c = some S) (rest : Trace (Step enc) mid es db')
    (hafter : signatureOf db' c ≠ some S) : AbsenceConfirmed enc mid c es := by
  obtain ⟨r, hr, hp⟩ := entered_with_none hs h hbefore hentered
  have hinv : AllSound db' ∧ (StillHeld enc mid c S es db' ∨ AbsenceConfirmed enc mid c es) := by
    refine Trace.history (P := fun es db => AllSound db ∧
      (StillHeld enc mid c S es db ∨ AbsenceConfirmed enc mid c es)) ?_ ?_ rest
    · exact ⟨h.allSound hs, .inl ⟨r, hr, .inr ⟨none, hp, by simp⟩⟩⟩
    · rintro es u a v run ⟨hsound, hheld | hconfirmed⟩ hstep
      · exact ⟨hstep.allSound hsound, held_step hheld hsound run hstep⟩
      · exact ⟨hstep.allSound hsound, .inr hconfirmed.extend⟩
  obtain ⟨hsound, hheld | hconfirmed⟩ := hinv
  · obtain ⟨r', hr', hphase⟩ := hheld
    rw [signatureOf_eq hsound hr'] at hafter
    rcases hphase with hc | ⟨a, ha, -⟩
    · simp [hc, Phase.signature] at hafter
    · simp [ha, Phase.signature] at hafter
  · exact hconfirmed

end Replacement

section Confirmation

variable {S : String}

def Phase.isConfirmed : Phase → Bool
  | .confirmed _ => true
  | _ => false

theorem status_confirmed_iff : r.status = .confirmed ↔ r.phase.isConfirmed = true := by
  unfold PayoutClaim.phase
  cases hs : r.status <;> simp [Phase.isConfirmed]

def ConfirmedWith (c S : String) (db : Database) : Prop :=
  ∃ r, db.payoutClaims.get? c = some r ∧ r.phase = .confirmed S

theorem Move.confirmed_forever (h : Move now r r' req) (hc : r.phase = .confirmed S) :
    r'.phase = .confirmed S := by
  cases h with
  | elsewhere _ _ heq => rw [heq, hc]
  | lease hphase => rw [hphase, hc]
  | prepared _ _ hp _ => simp [hc] at hp
  | resent _ hp _ => simp [hc] at hp
  | confirmed _ _ hp _ => simp [hc] at hp
  | reconfirmed _ _ heq => rw [heq, hc]
  | observed _ _ _ hp _ => simp [hc] at hp
  | awaited _ _ _ hp _ _ => simp [hc] at hp
  | released _ _ _ hp _ _ => simp [hc] at hp
  | retained _ _ _ hp _ => simp [hc] at hp
  | failed _ _ hp _ => simp [hc] at hp
  | ignored _ _ heq => rw [heq, hc]

theorem confirmed_forever (hs : AllSound db) (hc : ConfirmedWith c S db)
    (rest : Trace (Step enc) db es db') : ConfirmedWith c S db' := by
  have hinv : AllSound db' ∧ ConfirmedWith c S db' := by
    refine Trace.invariant (P := fun db => AllSound db ∧ ConfirmedWith c S db) ⟨hs, hc⟩ ?_ rest
    rintro u a v ⟨hsound, r, hr, hphase⟩ hstep
    refine ⟨hstep.allSound hsound, ?_⟩
    cases hstep.row hsound c with
    | missing ho _ _ => simp [ho] at hr
    | created ho _ _ => simp [ho] at hr
    | untouched ho hn _ =>
      rw [hr, Option.some.injEq] at ho
      exact ⟨_, hn, ho ▸ hphase⟩
    | moved ho hn _ _ _ hmove =>
      rw [hr, Option.some.injEq] at ho
      subst ho
      exact ⟨_, hn, hmove.confirmed_forever hphase⟩
  exact hinv.2

def LastPrepared (c S : String) (es : List Event) : Prop :=
  ∃ before e later, es = before ++ e :: later ∧ e.prepares c S ∧
    ∀ e' ∈ later, ∀ S', ¬e'.prepares c S'

theorem LastPrepared.extend (h : LastPrepared c S es) (he : ∀ S', ¬e.prepares c S') :
    LastPrepared c S (es ++ [e]) := by
  obtain ⟨before, a, later, rfl, ha, hlater⟩ := h
  refine ⟨before, a, later ++ [e], by simp, ha, ?_⟩
  intro e' he'
  rcases List.mem_append.mp he' with hold | hnew
  · exact hlater e' hold
  · rw [List.mem_singleton.mp hnew]
    exact he

theorem lastPrepared_move (h : Move now r r' req) (hid : r.id = c)
    (hr : r.phase.signature = some S → LastPrepared c S es)
    (hr' : r'.phase.signature = some S) : LastPrepared c S (es ++ [.accepted now req]) := by
  have hkeep (hphase : r'.phase.signature = r.phase.signature)
      (he : ∀ S', ¬(Event.accepted now req).prepares c S') :
      LastPrepared c S (es ++ [.accepted now req]) :=
    (hr (hphase ▸ hr')).extend he
  cases h with
  | @elsewhere _ d hd hne heq =>
    refine hkeep (by rw [heq]) ?_
    cases req with
    | prepare q =>
      rintro S' ⟨hq, -⟩
      simp only [Request.target, Option.some.injEq] at hd
      exact hne (hid.trans (hq.symm.trans hd))
    | lease q => exact fun _ => id
    | complete q => exact fun _ => id
    | fail q => exact fun _ => id
  | lease hphase => exact hkeep (by rw [hphase]) fun _ => id
  | prepared hq _ _ hp' =>
    rw [hp', Phase.signature, Option.some.injEq] at hr'
    exact ⟨es, _, [], rfl, ⟨hq.trans hid, hr'⟩, by simp⟩
  | resent hq hp heq =>
    rw [heq, hp, Phase.signature, Option.some.injEq] at hr'
    exact ⟨es, _, [], rfl, ⟨hq.trans hid, hr'⟩, by simp⟩
  | confirmed _ _ hp hp' => exact hkeep (by rw [hp, hp']; rfl) fun _ => id
  | reconfirmed _ _ heq => exact hkeep (by rw [heq]) fun _ => id
  | observed _ _ _ hp hp' => exact hkeep (by rw [hp, hp']; rfl) fun _ => id
  | awaited _ _ _ hp _ hp' => exact hkeep (by rw [hp, hp']) fun _ => id
  | released _ _ _ _ _ hp' => simp [hp', Phase.signature] at hr'
  | retained _ _ _ hp hp' => exact hkeep (by rw [hp, hp']; rfl) fun _ => id
  | failed _ _ _ hp' => simp [hp', Phase.signature] at hr'
  | ignored _ _ heq => exact hkeep (by rw [heq]) fun _ => id

theorem signature_lastPrepared (run : Run enc es db) (hr : db.payoutClaims.get? c = some r)
    (hS : r.phase.signature = some S) : LastPrepared c S es := by
  have hinv : ∀ r, db.payoutClaims.get? c = some r → r.phase.signature = some S →
      LastPrepared c S es := by
    refine Trace.history (P := fun es db => ∀ r, db.payoutClaims.get? c = some r →
      r.phase.signature = some S → LastPrepared c S es) ?_ ?_ run
    · intro r hr
      cases hr
    · intro es u e v run ih hstep r' hr' hS'
      cases hstep.row (run_allSound run) c with
      | missing _ hn _ => simp [hn] at hr'
      | created _ _ hn =>
        rw [hn, Option.some.injEq] at hr'
        subst hr'
        cases hS'
      | untouched ho hn he =>
        rw [hn, Option.some.injEq] at hr'
        subst hr'
        refine (ih _ ho hS').extend ?_
        cases e with
        | accepted now req => exact absurd rfl (he now req)
        | rejected _ _ _ => exact fun _ => id
        | enqueued _ => exact fun _ => id
        | earned _ => exact fun _ => id
        | matured _ => exact fun _ => id
        | elsewhere _ _ => exact fun _ => id
      | moved ho hn hid _ _ hmove =>
        rw [hn, Option.some.injEq] at hr'
        subst hr'
        exact lastPrepared_move hmove hid (ih _ ho) hS'
  exact hinv r hr hS

end Confirmation

section Earnings

-- The earning a claim pays is on record, and paid exactly when the claim is confirmed.
def Linked (db : Database) : Prop :=
  ∀ c r id, db.payoutClaims.get? c = some r → r.earningEventId = some id →
    ∃ e, db.earningEvents.get? id = some e ∧ (e.payoutStatus = .paid ↔ r.status = .confirmed)

theorem Move.confirmed_iff (h : Move now r r' req)
    (hnew : ∀ q a, req = .complete q → trim q.claimId = r.id →
      r.phase ≠ .prepared (trim q.transactionSignature) a) :
    r'.status = .confirmed ↔ r.status = .confirmed := by
  rw [status_confirmed_iff, status_confirmed_iff]
  cases h with
  | elsewhere _ _ heq => rw [heq]
  | lease hphase => rw [hphase]
  | prepared _ _ hp hp' => simp [hp, hp', Phase.isConfirmed]
  | resent _ _ heq => rw [heq]
  | @confirmed q a hq _ hp _ => exact absurd hp (hnew q a rfl hq)
  | reconfirmed _ _ heq => rw [heq]
  | observed _ _ _ hp hp' => simp [hp, hp', Phase.isConfirmed]
  | awaited _ _ _ hp _ hp' => rw [hp, hp']
  | released _ _ _ hp _ hp' => simp [hp, hp', Phase.isConfirmed]
  | retained _ _ _ hp hp' => simp [hp, hp', Phase.isConfirmed]
  | failed _ _ hp hp' => rw [hp, hp']
  | ignored _ _ heq => rw [heq]

theorem same_claim_of_earning {c d id : String} {r s : PayoutClaim}
    (hr : db.payoutClaims.get? c = some r) (hs : db.payoutClaims.get? d = some s)
    (her : r.earningEventId = some id) (hes : s.earningEventId = some id) : r = s :=
  eq_of_nodup_filterMap db.uniqueEarningEvents (Table.get?_mem hr) (Table.get?_mem hs) her hes

theorem get?_markEarningPaid {event : Option String} {id : String} :
    (markEarningPaid db event).earningEvents.get? id =
      (db.earningEvents.get? id).map fun e =>
        if event = some id then { e with payoutStatus := .paid } else e := by
  unfold markEarningPaid
  split
  · simp
  · next _ i =>
    simp only [Table.get?_update]
    cases hget : db.earningEvents.get? id with
    | none => rfl
    | some e =>
      have hid : e.id = id := Table.get?_key hget
      simp only [Option.map_some, hid, Option.some.injEq, eq_comm (a := id), decide_eq_true_eq]

theorem linked_accepted {response : Response} (hl : Linked db) (hs : AllSound db)
    (hx : execute enc db now req = .ok (db', response)) : Linked db' := by
  have hchanged := execute_changed hx
  intro c r' id hr' hid
  cases hr : db.payoutClaims.get? c with
  | none =>
    rw [hchanged.absent c hr] at hr'
    cases hr'
  | some r =>
    obtain ⟨r'', hr'', heffect⟩ := hchanged.claim c r hr
    rw [hr', Option.some.injEq] at hr''
    subst hr''
    have hmove := (heffect.move (hs c r hr)).2
    have hidr : r.earningEventId = some id := heffect.kept.2 ▸ hid
    obtain ⟨e, he, hpaid⟩ := hl c r id hr hidr
    rcases hchanged.earnings with ⟨q, target, hreq, htarget, hstatus, hevents⟩ | ⟨hevents, hdone⟩
    · subst hreq
      by_cases hsame : target.earningEventId = some id
      · -- the completed claim itself, the only one that pays this earning
        obtain rfl := same_claim_of_earning hr htarget hidr hsame
        refine ⟨{ e with payoutStatus := .paid }, ?_, ?_⟩
        · rw [hevents, get?_markEarningPaid, he]
          simp [hsame]
        · have hidq : r.id = trim q.claimId := Table.get?_key htarget
          simp only [true_iff]
          cases heffect with
          | elsewhere hd hne =>
            simp only [Request.target, Option.some.injEq] at hd
            exact absurd (hidq.trans hd) hne
          | completed _ _ _ _ => rfl
          | recompleted _ hconfirmed _ => exact hconfirmed
      · refine ⟨e, ?_, hpaid.trans (hmove.confirmed_iff ?_).symm⟩
        · rw [hevents, get?_markEarningPaid, he]
          simp [hsame]
        · rintro q' a ⟨⟩ hq' -
          rw [hq', Table.get?_key hr, hr, Option.some.injEq] at htarget
          exact hsame (htarget ▸ hidr)
    · refine ⟨e, hevents ▸ he, hpaid.trans (hmove.confirmed_iff ?_).symm⟩
      intro q a hreq hq hp
      have hdb : db.payoutClaims.get? (trim q.claimId) = some r := by
        rw [hq, Table.get?_key hr]
        exact hr
      have hconfirmed := status_confirmed_iff.mp (hdone q r hreq hdb)
      simp [hp, Phase.isConfirmed] at hconfirmed

theorem Step.linked (h : Step enc db e db') (hs : AllSound db) (hl : Linked db) : Linked db' := by
  cases h with
  | accepted hx => exact linked_accepted hl hs hx
  | rejected _ => exact hl
  | elsewhere => exact hl
  | @enqueued n _ hx hclaimable =>
    intro c r id hr hid
    rw [get?_enqueued hx] at hr
    rw [(insertPayoutClaim_ok hx).2]
    split at hr
    · cases hr
      obtain ⟨e, he, hstatus⟩ := hclaimable id hid
      exact ⟨e, he, by simp [hstatus, NewClaim.row]⟩
    · exact hl c r id hr hid
  | @earned new _ hstatus hinsert =>
    intro c r id hr hid
    obtain ⟨e, he, hpaid⟩ := hl c r id hr hid
    refine ⟨e, ?_, hpaid⟩
    rw [Table.get?_insert? hinsert]
    split
    · next heq =>
      have hnone := (Table.insert?_eq_some.mp hinsert).1
      rw [heq, he] at hnone
      cases hnone
    · exact he
  | @matured ids =>
    intro c r id hr hid
    obtain ⟨e, he, hpaid⟩ := hl c r id hr hid
    simp only [mature, Table.get?_update, he, Option.map_some]
    refine ⟨_, rfl, ?_⟩
    rw [← hpaid]
    split
    · next hheld =>
      simp only [decide_eq_true_eq] at hheld
      simp [hheld.2]
    · rfl

theorem run_linked (run : Run enc es db) : Linked db := by
  have hinv : AllSound db ∧ Linked db := by
    refine Trace.invariant (P := fun db => AllSound db ∧ Linked db) ⟨?_, ?_⟩ ?_ run
    · intro c r hr
      cases hr
    · intro c r id hr
      cases hr
    · rintro u a v ⟨hs, hl⟩ hstep
      exact ⟨hstep.allSound hs, hstep.linked hs hl⟩
  exact hinv.2

end Earnings

end Obulus.Payout
