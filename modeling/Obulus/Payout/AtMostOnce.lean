import Obulus.Payout.Lifecycle
import Obulus.Payout.Worker

namespace Obulus.Payout

open Foundation Store

variable {enc : Encoding} {lastValid : String → Nat} {w w' : World} {job : Job} {held : Held}
  {S c : String} {r r' : PayoutClaim} {now : Nat} {req : Request}

def Dead (lastValid : String → Nat) (chain : Chain) (S : String) : Prop :=
  lastValid S < chain.height ∧ chain.paid S = false

structure RowOk (lastValid : String → Nat) (chain : Chain) (r : PayoutClaim) : Prop where
  height : ∀ S, r.transactionSignature = some S → r.lastValidBlockHeight = some (lastValid S)
  trimmed : ∀ S, r.transactionSignature = some S → trim S = S
  expired : ∀ S t, r.phase = .prepared S (some t) → lastValid S < chain.height
  paid : ∀ S, r.phase = .confirmed S → chain.paidFinally S = true

structure JobHeld (lastValid : String → Nat) (w : World) (job : Job) (held : Held) : Prop where
  height : held.lastValidBlockHeight = lastValid held.signature
  trimmed : trim held.signature = held.signature
  claimId : trim job.claimId = job.claimId
  granted : job.grant < w.next
  row : w.holder job.claimId = some job.grant →
    ∃ r a, w.db.payoutClaims.get? job.claimId = some r ∧ r.phase = .prepared held.signature a

-- An absence was on record when the lease of this job was granted.
def Recorded (w : World) (job : Job) : Prop :=
  w.holder job.claimId = some job.grant ∧
    ∃ r S t, w.db.payoutClaims.get? job.claimId = some r ∧ r.phase = .prepared S (some t)

structure StatusOk (w : World) (job : Job) (S : String) (status : Option SignatureStatus) : Prop where
  sound : reportsPaid status = true → w.chain.paidFinally S = true
  complete : Recorded w job → w.chain.paid S = true → reportsPaid status = true

def ProbeOk (w : World) (job : Job) (S : String) : Probe → Prop
  | .waiting => True
  | .status status => StatusOk w job S status
  | .finished none => True
  | .finished (some view) =>
    StatusOk w job S view.status ∧ view.blockHeight ≤ (w.chain.height : Int)

def StageOk (lastValid : String → Nat) (w : World) : Stage → Prop
  | .signing job => job.grant < w.next
  | .preparing job _ => job.grant < w.next
  | .broadcasting job held => JobHeld lastValid w job held
  | .observing job held _ probes =>
    JobHeld lastValid w job held ∧ ∀ probe ∈ probes, ProbeOk w job held.signature probe
  | _ => True

def MessageOk (lastValid : String → Nat) (w : World) (m : Message) : Prop :=
  match m.request with
  | .lease q => q.limit = 1
  | .prepare q => q.lastValidBlockHeight = lastValid (trim q.transactionSignature)
  | .complete q => w.chain.paidFinally (trim q.transactionSignature) = true
  | .fail q => q.abandonPreparedTransaction = true →
    ∃ job held, m.job = some job ∧ trim q.claimId = job.claimId ∧ JobHeld lastValid w job held ∧
      lastValid held.signature < w.chain.height ∧
      (Recorded w job → w.chain.paid held.signature = false)

structure Consistent (lastValid : String → Nat) (w : World) : Prop where
  sound : AllSound w.db
  rows : ∀ c r, w.db.payoutClaims.get? c = some r → RowOk lastValid w.chain r
  stages : ∀ p, StageOk lastValid w (w.workers p).stage
  messages : ∀ m ∈ w.messages, MessageOk lastValid w m
  holders : ∀ c g, w.holder c = some g → g < w.next

section Keeps

-- What a step leaves alone for everyone who holds an older grant.
structure Keeps (lastValid : String → Nat) (w w' : World) : Prop where
  next : w.next ≤ w'.next
  height : w.chain.height ≤ w'.chain.height
  outcome : ∀ S o, w.chain.outcome S = some o → w'.chain.outcome S = some o
  settled : ∀ S, lastValid S < w.chain.height → w'.chain.paid S = w.chain.paid S
  holder : ∀ c g, g < w.next → w'.holder c = some g → w.holder c = some g
  row : ∀ c g r S a, g < w.next → w'.holder c = some g → w.db.payoutClaims.get? c = some r →
    r.phase = .prepared S a → ∃ r' a', w'.db.payoutClaims.get? c = some r' ∧
      r'.phase = .prepared S a' ∧ (a' ≠ none → a ≠ none)

theorem Keeps.paidFinally (h : Keeps lastValid w w') (hp : w.chain.paidFinally S = true) :
    w'.chain.paidFinally S = true := by
  simp only [Chain.paidFinally, Option.any_eq_true, Bool.and_eq_true, decide_eq_true_eq] at hp ⊢
  obtain ⟨o, ho, hok, hle⟩ := hp
  exact ⟨o, h.outcome S o ho, hok, hle.trans h.height⟩

theorem Keeps.jobHeld (h : Keeps lastValid w w') (hj : JobHeld lastValid w job held) :
    JobHeld lastValid w' job held := by
  refine ⟨hj.height, hj.trimmed, hj.claimId, hj.granted.trans_le h.next, ?_⟩
  intro hholder
  obtain ⟨r, a, hr, hp⟩ := hj.row (h.holder _ _ hj.granted hholder)
  obtain ⟨r', a', hr', hp', -⟩ := h.row _ _ r _ a hj.granted hholder hr hp
  exact ⟨r', a', hr', hp'⟩

theorem Keeps.recorded (h : Keeps lastValid w w') (hj : JobHeld lastValid w job held)
    (hrec : Recorded w' job) : Recorded w job := by
  obtain ⟨hholder, r', S', t, hr', hp'⟩ := hrec
  have hold := h.holder _ _ hj.granted hholder
  obtain ⟨r, a, hr, hp⟩ := hj.row hold
  obtain ⟨r'', a', hr'', hp'', ha⟩ := h.row _ _ r _ a hj.granted hholder hr hp
  rw [hr', Option.some.injEq] at hr''
  subst hr''
  rw [hp', Phase.prepared.injEq] at hp''
  obtain ⟨u, hu⟩ := Option.ne_none_iff_exists'.mp (ha (by simp [← hp''.2]))
  exact ⟨hold, r, held.signature, u, hr, hu ▸ hp⟩

theorem Recorded.expired (hrec : Recorded w job) (hj : JobHeld lastValid w job held)
    (hrows : ∀ c r, w.db.payoutClaims.get? c = some r → RowOk lastValid w.chain r) :
    lastValid held.signature < w.chain.height := by
  obtain ⟨hholder, r, S, t, hr, hp⟩ := hrec
  obtain ⟨r', a, hr', hp'⟩ := hj.row hholder
  rw [hr, Option.some.injEq] at hr'
  subst hr'
  rw [hp, Phase.prepared.injEq] at hp'
  exact hp'.1 ▸ (hrows _ r hr).expired S t hp

theorem Keeps.messageOk {m : Message} (h : Keeps lastValid w w')
    (hm : MessageOk lastValid w m) : MessageOk lastValid w' m := by
  obtain ⟨ticket, sender, sent, request⟩ := m
  cases request with
  | lease q => exact hm
  | prepare q => exact hm
  | complete q => exact h.paidFinally hm
  | fail q =>
    intro hflag
    obtain ⟨job, held, hjob, hid, hj, hexpired, hunpaid⟩ := hm hflag
    refine ⟨job, held, hjob, hid, h.jobHeld hj, hexpired.trans_le h.height, ?_⟩
    intro hrec
    rw [h.settled _ hexpired]
    exact hunpaid (h.recorded hj hrec)

variable (hrows : ∀ c r, w.db.payoutClaims.get? c = some r → RowOk lastValid w.chain r)
include hrows

theorem Keeps.statusOk {status : Option SignatureStatus} (h : Keeps lastValid w w')
    (hj : JobHeld lastValid w job held) (hs : StatusOk w job held.signature status) :
    StatusOk w' job held.signature status := by
  refine ⟨fun hr => h.paidFinally (hs.sound hr), fun hrec hpaid => ?_⟩
  have hrec' := h.recorded hj hrec
  rw [h.settled _ (hrec'.expired hj hrows)] at hpaid
  exact hs.complete hrec' hpaid

theorem Keeps.probeOk {probe : Probe} (h : Keeps lastValid w w')
    (hj : JobHeld lastValid w job held) (hp : ProbeOk w job held.signature probe) :
    ProbeOk w' job held.signature probe := by
  cases probe with
  | waiting => trivial
  | status s => exact h.statusOk hrows hj hp
  | finished view =>
    cases view with
    | none => trivial
    | some v =>
      have hheight := h.height
      exact ⟨h.statusOk hrows hj hp.1, by have := hp.2; omega⟩

theorem Keeps.stageOk {stage : Stage} (h : Keeps lastValid w w')
    (hs : StageOk lastValid w stage) : StageOk lastValid w' stage := by
  cases stage with
  | signing job => exact lt_of_lt_of_le hs h.next
  | preparing job t => exact lt_of_lt_of_le hs h.next
  | broadcasting job held => exact h.jobHeld hs
  | observing job held resumed probes =>
    exact ⟨h.jobHeld hs.1, fun probe hp => h.probeOk hrows hs.1 (hs.2 probe hp)⟩
  | idle => trivial
  | leasing t => trivial
  | refused job => trivial
  | reporting job t => trivial
  | recording t => trivial

end Keeps

section Verdicts

variable {kind : Kind} {last : Int} {views : List (Option View)}

theorem verdict_finalized {views : List View} (h : kind.verdict last views = .finalized) :
    views.all View.finalized = true := by
  cases kind with
  | gateway => exact gateway_finalized h
  | orchestrator =>
    simp only [Kind.verdict, Orchestrator.verdict] at h
    split at h
    · assumption
    · split at h
      · cases h
      · split at h
        · cases h
        · split at h <;> cases h

theorem verdict_absentOrFailed {views : List View} (h : kind.verdict last views = .absentOrFailed) :
    views.any View.landed = false ∧ views.all (View.expired last) = true := by
  cases kind with
  | gateway => exact gateway_absentOrFailed h
  | orchestrator =>
    simp only [Kind.verdict, Orchestrator.verdict] at h
    split at h
    · cases h
    · split at h
      · cases h
      · next hlanded =>
        split at h
        · cases h
        · split at h
          · exact ⟨by simpa using hlanded, by assumption⟩
          · cases h

theorem conclude_verdict {result : Gateway.PreparedPayoutObservation}
    (h : kind.conclude last views = result) (hne : result ≠ .inconclusive) :
    ∃ v vs, some v ∈ views ∧ kind.verdict last (v :: vs) = result := by
  unfold Kind.conclude at h
  split at h
  · exact absurd h.symm hne
  · next hlen =>
    split at h
    · exact absurd h.symm hne
    · next complete hviews =>
      cases views with
      | nil => simp at hlen
      | cons x rest =>
        simp only [List.mapM_cons, Option.bind_eq_bind, Option.bind_eq_some_iff, id_eq,
          Option.pure_def, Option.some.injEq] at hviews
        obtain ⟨v, rfl, vs, -, rfl⟩ := hviews
        exact ⟨v, vs, List.mem_cons_self, h⟩

theorem conclude_finalized (h : kind.conclude last views = .finalized) :
    ∃ v, some v ∈ views ∧ v.finalized = true := by
  obtain ⟨v, vs, hv, hverdict⟩ := conclude_verdict h (by simp)
  have hall := verdict_finalized hverdict
  simp only [List.all_cons, Bool.and_eq_true] at hall
  exact ⟨v, hv, hall.1⟩

theorem conclude_absentOrFailed (h : kind.conclude last views = .absentOrFailed) :
    ∃ v, some v ∈ views ∧ v.landed = false ∧ last < v.blockHeight := by
  obtain ⟨v, vs, hv, hverdict⟩ := conclude_verdict h (by simp)
  obtain ⟨hlanded, hexpired⟩ := verdict_absentOrFailed hverdict
  simp only [List.any_cons, Bool.or_eq_false_iff] at hlanded
  simp only [List.all_cons, Bool.and_eq_true, View.expired, decide_eq_true_eq] at hexpired
  exact ⟨v, hv, hlanded.1, hexpired.1⟩

theorem finished_of_view {probes : List Probe} {views : List (Option View)} {v : Option View}
    (h : probes.mapM Probe.view = some views) (hv : v ∈ views) : .finished v ∈ probes := by
  induction probes generalizing views with
  | nil =>
    cases h
    cases hv
  | cons probe probes ih =>
    simp only [List.mapM_cons, Option.bind_eq_bind, Option.bind_eq_some_iff, Option.pure_def,
      Option.some.injEq] at h
    obtain ⟨view, hview, rest, hrest, rfl⟩ := h
    rcases List.mem_cons.mp hv with rfl | hv
    · cases probe with
      | waiting => cases hview
      | status s => cases hview
      | finished v' =>
        cases hview
        exact List.mem_cons_self
    · exact List.mem_cons_of_mem _ (ih hrest hv)

end Verdicts

section Turns

variable {worker : Worker} {stage : Stage} {act : Act} {turn : Turn} {p ticket : Nat}

def OutgoingOk (lastValid : String → Nat) (w : World) (o : Outgoing) : Prop :=
  MessageOk lastValid w ⟨0, 0, o.job, o.request⟩

structure TurnOk (lastValid : String → Nat) (w : World) (turn : Turn) : Prop where
  stage : StageOk lastValid w turn.stage
  outgoing : ∀ o, turn.outgoing = some o → OutgoingOk lastValid w o

theorem turnOk_to (h : StageOk lastValid w stage) : TurnOk lastValid w (.to stage) :=
  ⟨h, fun _ ho => by cases ho⟩

theorem turnOk_recordThrow {submitted : Option String} :
    TurnOk lastValid w (recordThrow worker job ticket submitted) := by
  refine ⟨trivial, ?_⟩
  rintro o ⟨⟩ hflag
  cases hflag

theorem probesOk_start (worker : Worker) :
    ∀ probe ∈ startProbes worker, ProbeOk w job S probe := by
  intro probe hp
  simp only [startProbes, List.mem_map] at hp
  obtain ⟨_, _, rfl⟩ := hp
  trivial

theorem turnOk_conclude {resumed : Bool} {probes : List Probe} {views : List (Option View)}
    (hj : JobHeld lastValid w job held)
    (hprobes : ∀ probe ∈ probes, ProbeOk w job held.signature probe)
    (hviews : probes.mapM Probe.view = some views) :
    TurnOk lastValid w (concludeTurn worker job held resumed views ticket) := by
  unfold concludeTurn
  split
  · next hfinal =>
    refine ⟨trivial, ?_⟩
    rintro o ⟨⟩
    obtain ⟨v, hv, hfinalized⟩ := conclude_finalized hfinal
    have hok : ProbeOk w job held.signature (.finished (some v)) :=
      hprobes _ (finished_of_view hviews hv)
    change w.chain.paidFinally (trim held.signature) = true
    rw [hj.trimmed]
    exact hok.1.sound hfinalized
  · next habsent =>
    refine ⟨trivial, ?_⟩
    rintro o ⟨⟩ -
    obtain ⟨v, hv, hlanded, hheight⟩ := conclude_absentOrFailed habsent
    have hok : ProbeOk w job held.signature (.finished (some v)) :=
      hprobes _ (finished_of_view hviews hv)
    refine ⟨job, held, rfl, hj.claimId, hj, ?_, ?_⟩
    · have hle := hok.2
      have heq := hj.height
      omega
    · intro hrec
      by_contra hpaid
      have hreport := hok.1.complete hrec (by simpa using hpaid)
      have hland : v.landed = true := landed_of_finalized hreport
      rw [hland] at hlanded
      cases hlanded
  · cases resumed with
    | true => exact turnOk_to hj
    | false => exact turnOk_to ⟨hj, probesOk_start worker⟩

theorem truthful_statusOk {status : Option SignatureStatus}
    (hrows : ∀ c r, w.db.payoutClaims.get? c = some r → RowOk lastValid w.chain r)
    (hj : JobHeld lastValid w job held)
    (h : w.chain.truthful (lastValid held.signature) held.signature status = true) :
    StatusOk w job held.signature status := by
  simp only [Chain.truthful, Bool.and_eq_true, Bool.or_eq_true, Bool.not_eq_true',
    Bool.and_eq_false_iff, decide_eq_false_iff_not] at h
  obtain ⟨hsound, hcomplete⟩ := h
  refine ⟨fun hr => hsound.resolve_left (by simp [hr]), fun hrec hpaid => ?_⟩
  refine hcomplete.resolve_left ?_
  rintro (hheight | hunpaid)
  · exact hheight (hrec.expired hj hrows)
  · rw [hpaid] at hunpaid
    cases hunpaid

theorem probesOk_set {probes : List Probe} {i : Nat} {probe : Probe}
    (hprobes : ∀ probe ∈ probes, ProbeOk w job S probe) (hp : ProbeOk w job S probe) :
    ∀ probe' ∈ probes.set i probe, ProbeOk w job S probe' := by
  intro probe' hmem
  rcases List.mem_or_eq_of_mem_set hmem with hold | rfl
  · exact hprobes probe' hold
  · exact hp

theorem turnOk_probe {resumed : Bool} {probes : List Probe}
    (hrows : ∀ c r, w.db.payoutClaims.get? c = some r → RowOk lastValid w.chain r)
    (hj : JobHeld lastValid w job held)
    (hprobes : ∀ probe ∈ probes, ProbeOk w job held.signature probe)
    (h : probeTurn lastValid w.chain worker ticket job held resumed probes act = some turn) :
    TurnOk lastValid w turn := by
  cases act with
  | readStatus i status =>
    simp only [probeTurn] at h
    split at h
    · split at h
      · next htruth =>
        cases h
        exact turnOk_to ⟨hj, probesOk_set hprobes (truthful_statusOk hrows hj htruth)⟩
      · cases h
    · cases h
  | readHeight i blockHeight =>
    simp only [probeTurn] at h
    split at h
    · next status hget =>
      split at h
      · next hle =>
        cases h
        have hstatus : ProbeOk w job held.signature (.status status) :=
          hprobes _ (List.mem_of_getElem? hget)
        exact turnOk_to ⟨hj, probesOk_set hprobes ⟨hstatus, Int.ofNat_le.mpr hle⟩⟩
      · cases h
    · cases h
  | noView i =>
    cases h
    exact turnOk_to ⟨hj, probesOk_set hprobes trivial⟩
  | conclude =>
    simp only [probeTurn, Option.map_eq_some_iff] at h
    obtain ⟨views, hviews, rfl⟩ := h
    exact turnOk_conclude hj hprobes hviews
  | throws =>
    cases h
    exact turnOk_recordThrow
  | crash =>
    cases h
    exact turnOk_to trivial
  | poll => cases h
  | sign _ _ _ => cases h
  | broadcast => cases h
  | broadcastThrows => cases h

theorem turnOk_act
    (hrows : ∀ c r, w.db.payoutClaims.get? c = some r → RowOk lastValid w.chain r)
    (hs : StageOk lastValid w stage)
    (h : worker.act lastValid w.chain ticket stage act = some turn) : TurnOk lastValid w turn := by
  unfold Worker.act at h
  split at h
  · cases h
    refine ⟨trivial, ?_⟩
    rintro o ⟨⟩
    rfl
  · cases h
    refine ⟨hs, ?_⟩
    rintro o ⟨⟩
    rfl
  · cases h
    exact ⟨⟨hs, probesOk_start worker⟩, fun _ ho => by cases ho⟩
  · cases h
    exact turnOk_recordThrow
  · exact turnOk_probe hrows hs.1 hs.2 h
  · cases h
    exact turnOk_recordThrow
  · cases h
    exact turnOk_recordThrow
  · cases h
    exact turnOk_recordThrow
  · cases h
    exact turnOk_recordThrow
  · cases h
    exact turnOk_recordThrow
  · cases h
    exact turnOk_to trivial
  · cases h
    exact turnOk_to trivial
  · cases h
    exact turnOk_to trivial
  · cases h

end Turns

section Rows

variable {chain : Chain}

theorem Effect.evidence (h : Effect now req r r') :
    (r'.transactionSignature = r.transactionSignature ∧
      r'.lastValidBlockHeight = r.lastValidBlockHeight) ∨
    (∃ q, req = .prepare q ∧ r'.transactionSignature = some (trim q.transactionSignature) ∧
      r'.lastValidBlockHeight = some q.lastValidBlockHeight) ∨ r'.transactionSignature = none := by
  have hlapse : (lapse now r).transactionSignature = r.transactionSignature ∧
      (lapse now r).lastValidBlockHeight = r.lastValidBlockHeight := by
    unfold lapse
    split <;> exact ⟨rfl, rfl⟩
  cases h with
  | elsewhere _ _ => exact .inl ⟨rfl, rfl⟩
  | lapsed => exact .inl hlapse
  | leased _ => exact .inl hlapse
  | prepared _ _ _ => exact .inr (.inl ⟨_, rfl, rfl, rfl⟩)
  | resent _ _ _ _ _ => exact .inl ⟨rfl, rfl⟩
  | completed _ _ _ _ => exact .inl ⟨rfl, rfl⟩
  | recompleted _ _ _ => exact .inl ⟨rfl, rfl⟩
  | abandoned _ _ _ _ _ =>
    unfold abandonRow
    split
    · exact .inr (.inr rfl)
    · exact .inl ⟨rfl, rfl⟩
  | retained _ _ _ _ => exact .inl ⟨rfl, rfl⟩
  | ignored _ _ _ => exact .inl ⟨rfl, rfl⟩

structure RequestOk (lastValid : String → Nat) (chain : Chain) (now : Nat) (r : PayoutClaim)
    (req : Request) : Prop where
  prepare : ∀ q, req = .prepare q →
    q.lastValidBlockHeight = lastValid (trim q.transactionSignature)
  complete : ∀ q, req = .complete q → chain.paidFinally (trim q.transactionSignature) = true
  abandon : ∀ q S a, req = .fail q → q.abandonPreparedTransaction = true →
    trim q.claimId = r.id → ActiveLease q.workerId now r → r.phase = .prepared S a →
    lastValid S < chain.height

theorem rowOk_effect (h : Effect now req r r') (hs : Sound r) (hok : RowOk lastValid chain r)
    (hreq : RequestOk lastValid chain now r req) : RowOk lastValid chain r' := by
  have hmove := (h.move hs).2
  have hphase (hp : r'.phase = r.phase) : (∀ S t, r'.phase = .prepared S (some t) →
      lastValid S < chain.height) ∧ ∀ S, r'.phase = .confirmed S → chain.paidFinally S = true := by
    rw [hp]
    exact ⟨hok.expired, hok.paid⟩
  have hphases : (∀ S t, r'.phase = .prepared S (some t) → lastValid S < chain.height) ∧
      ∀ S, r'.phase = .confirmed S → chain.paidFinally S = true := by
    cases hmove with
    | elsewhere _ _ heq => exact hphase (by rw [heq])
    | lease hp => exact hphase hp
    | prepared _ _ _ hp => simp [hp]
    | resent _ _ heq => exact hphase (by rw [heq])
    | @confirmed q a _ _ _ hp =>
      simp only [hp, reduceCtorEq, false_implies, implies_true, true_and, Phase.confirmed.injEq]
      rintro S rfl
      exact hreq.complete q rfl
    | reconfirmed _ _ heq => exact hphase (by rw [heq])
    | @observed q S hid hl hflag hp hp' =>
      simp only [hp', Phase.prepared.injEq, reduceCtorEq, false_implies, implies_true, and_true]
      rintro S' t ⟨rfl, -⟩
      exact hreq.abandon q S none rfl hflag hid hl hp
    | awaited _ _ _ hp _ hp' => exact hphase (hp'.trans hp.symm)
    | released _ _ _ _ _ hp => simp [hp]
    | retained _ _ _ _ hp => simp [hp]
    | failed _ _ hp hp' => exact hphase (hp'.trans hp.symm)
    | ignored _ _ heq => exact hphase (by rw [heq])
  refine ⟨?_, ?_, hphases.1, hphases.2⟩
  · intro S hS
    rcases h.evidence with ⟨hsig, hlast⟩ | ⟨q, hq, hsig, hlast⟩ | hnone
    · rw [hlast]
      exact hok.height S (hsig ▸ hS)
    · rw [hsig, Option.some.injEq] at hS
      rw [hlast, hreq.prepare q hq, hS]
    · simp [hnone] at hS
  · intro S hS
    rcases h.evidence with ⟨hsig, -⟩ | ⟨q, -, hsig, -⟩ | hnone
    · exact hok.trimmed S (hsig ▸ hS)
    · rw [hsig, Option.some.injEq] at hS
      rw [← hS, trim_trim]
    · simp [hnone] at hS

end Rows

section Handling

variable {m : Message} {db' : Database} {response : Response}

-- Every abandoning failure that finds its claim leased to its worker id was decided under that
-- very lease.
def Fenced (w : World) : WorldEvent → Prop
  | .handle m now _ => ∀ q r, m.request = .fail q → q.abandonPreparedTransaction = true →
    w.db.payoutClaims.get? (trim q.claimId) = some r → ActiveLease q.workerId now r →
    ∃ job, m.job = some job ∧ w.holder (trim q.claimId) = some job.grant
  | _ => True

def abandons : WorldEvent → Bool
  | .handle m _ _ =>
    match m.request with
    | .fail q => q.abandonPreparedTransaction
    | _ => false
  | _ => false

theorem fenced_of_not_abandons {e : WorldEvent} (h : abandons e = false) : Fenced w e := by
  cases e with
  | handle m now delivered =>
    intro q r hreq hflag
    simp [abandons, hreq, hflag] at h
  | _ => trivial

theorem setHolder_old {holder : String → Option Nat} {grant g : Nat}
    (h : setHolder holder grant req response c = some g) (hg : g < grant) : holder c = some g := by
  unfold setHolder at h
  split at h
  · split at h
    · cases h
      exact absurd hg (Nat.lt_irrefl _)
    · exact h
  · exact h
  · split at h
    · cases h
    · exact h
  · split at h
    · cases h
    · exact h
  · exact h

theorem setHolder_lt {holder : String → Option Nat} {grant g : Nat}
    (hold : ∀ c g, holder c = some g → g < grant)
    (h : setHolder holder grant req response c = some g) : g < grant + 1 := by
  by_cases hg : g < grant
  · exact Nat.lt_succ_of_lt hg
  · unfold setHolder at h
    split at h
    · split at h
      · cases h
        exact Nat.lt_succ_self _
      · exact absurd (hold c g h) hg
    · exact absurd (hold c g h) hg
    · split at h
      · cases h
      · exact absurd (hold c g h) hg
    · split at h
      · cases h
      · exact absurd (hold c g h) hg
    · exact absurd (hold c g h) hg

theorem keeps_executed (hc : Consistent lastValid w)
    (hx : execute enc w.db now m.request = .ok (db', response)) :
    Keeps lastValid w (w.executed m db' response) := by
  refine ⟨Nat.le_succ _, le_rfl, fun _ _ h => h, fun _ _ => rfl,
    fun c g hg h => setHolder_old h hg, ?_⟩
  intro c g r S a hg hholder hr hp
  obtain ⟨r', hr', heffect⟩ := (execute_changed hx).claim c r hr
  have hid : r.id = c := Table.get?_key hr
  have hholder : setHolder w.holder w.next m.request response c = some g := hholder
  have hsame (heq : r'.phase = r.phase) : ∃ r' a',
      (w.executed m db' response).db.payoutClaims.get? c = some r' ∧ r'.phase = .prepared S a' ∧
        (a' ≠ none → a ≠ none) :=
    ⟨r', a, hr', heq.trans hp, fun h => h⟩
  have hmove := (heffect.move (hc.sound c r hr)).2
  generalize m.request = request at hholder hmove
  cases hmove with
  | elsewhere _ _ heq => exact hsame (by rw [heq])
  | lease hphase => exact hsame hphase
  | prepared _ _ hidle _ => simp [hp] at hidle
  | resent _ _ heq => exact hsame (by rw [heq])
  | confirmed hq _ _ _ => simp [setHolder, hq, hid] at hholder
  | reconfirmed hq _ _ => simp [setHolder, hq, hid] at hholder
  | observed hq _ _ _ _ => simp [setHolder, hq, hid] at hholder
  | awaited hq _ _ _ _ _ => simp [setHolder, hq, hid] at hholder
  | released hq _ _ _ _ _ => simp [setHolder, hq, hid] at hholder
  | retained hq _ _ _ _ => simp [setHolder, hq, hid] at hholder
  | failed hq _ _ _ => simp [setHolder, hq, hid] at hholder
  | ignored hq _ _ => simp [setHolder, hq, hid] at hholder

-- What the sender of an abandoning failure knew, once the lease it holds is the one in force.
theorem abandon_known {q : FailRequest} {delivered : Bool} {a : Option Nat}
    (hm : MessageOk lastValid w m) (hf : Fenced w (.handle m now delivered))
    (hreq : m.request = .fail q) (hflag : q.abandonPreparedTransaction = true)
    (hr : w.db.payoutClaims.get? (trim q.claimId) = some r) (hl : ActiveLease q.workerId now r)
    (hp : r.phase = .prepared S a) :
    lastValid S < w.chain.height ∧ (a ≠ none → w.chain.paid S = false) := by
  unfold MessageOk at hm
  simp only [hreq] at hm
  obtain ⟨job, held, hjob, hid, hj, hexpired, hunpaid⟩ := hm hflag
  obtain ⟨job', hjob', hholder⟩ := hf q r hreq hflag hr hl
  rw [hjob, Option.some.injEq] at hjob'
  subst hjob'
  rw [hid] at hholder hr
  obtain ⟨r', a', hr', hp'⟩ := hj.row hholder
  rw [hr, Option.some.injEq] at hr'
  subst hr'
  rw [hp, Phase.prepared.injEq] at hp'
  obtain ⟨rfl, rfl⟩ := hp'
  refine ⟨hexpired, fun ha => ?_⟩
  obtain ⟨t, rfl⟩ := Option.ne_none_iff_exists'.mp ha
  exact hunpaid ⟨hholder, r, held.signature, t, hr, hp⟩

theorem requestOk_of_message {delivered : Bool} (hm : MessageOk lastValid w m)
    (hf : Fenced w (.handle m now delivered)) (hr : w.db.payoutClaims.get? c = some r) :
    RequestOk lastValid w.chain now r m.request := by
  refine ⟨?_, ?_, ?_⟩
  · intro q hq
    simpa [MessageOk, hq] using hm
  · intro q hq
    simpa [MessageOk, hq] using hm
  · intro q S a hq hflag hid hl hp
    have hr' : w.db.payoutClaims.get? (trim q.claimId) = some r := by
      rw [hid, Table.get?_key hr]
      exact hr
    exact (abandon_known hm hf hq hflag hr' hl hp).1

theorem consistent_executed {delivered : Bool} (hc : Consistent lastValid w) (hmem : m ∈ w.messages)
    (hf : Fenced w (.handle m now delivered))
    (hx : execute enc w.db now m.request = .ok (db', response)) :
    Consistent lastValid (w.executed m db' response) := by
  have hkeeps := keeps_executed hc hx
  have hchanged := execute_changed hx
  refine ⟨?_, ?_, ?_, ?_, ?_⟩
  · exact (Step.accepted hx).allSound hc.sound
  · intro c r' hr'
    cases hr : w.db.payoutClaims.get? c with
    | none =>
      have hnone := hchanged.absent c hr
      rw [show db'.payoutClaims.get? c = some r' from hr'] at hnone
      cases hnone
    | some r =>
      obtain ⟨r'', hr'', heffect⟩ := hchanged.claim c r hr
      rw [show db'.payoutClaims.get? c = some r' from hr', Option.some.injEq] at hr''
      subst hr''
      have hrow : RowOk lastValid w.chain r' :=
        rowOk_effect heffect (hc.sound c r hr) (hc.rows c r hr)
          (requestOk_of_message (hc.messages m hmem) hf hr)
      exact hrow
  · intro p
    exact hkeeps.stageOk hc.rows (hc.stages p)
  · intro m' hm'
    exact hkeeps.messageOk (hc.messages m' (List.mem_of_mem_filter hm'))
  · intro c g hg
    exact setHolder_lt hc.holders hg

end Handling

section Replies

variable {m : Message} {db' : Database} {response : Response} {claim : PayoutClaim}

theorem safeClaimId_trim {id : String} (h : safeClaimId id = true) : trim id = id := by
  simp only [safeClaimId, Bool.and_eq_true, List.all_eq_true, Bool.or_eq_true, beq_iff_eq] at h
  apply trim_eq_self
  intro ch hch
  rcases h.2 ch hch with ((halpha | rfl) | rfl) | rfl
  · exact not_whiteSpace_of_alphanumeric halpha
  · decide
  · decide
  · decide

theorem jobHeld_of_row {grant height : Nat} (hc : Consistent lastValid w)
    (hr : w.db.payoutClaims.get? claim.id = some claim) (hs : claim.status = .prepared)
    (hsig : claim.transactionSignature = some S) (hlast : claim.lastValidBlockHeight = some height)
    (hid : trim claim.id = claim.id) (hgrant : grant < w.next) :
    JobHeld lastValid w ⟨grant, claim.id⟩ ⟨S, height⟩ := by
  have hrow := hc.rows _ _ hr
  have hheight := hrow.height S hsig
  rw [hlast, Option.some.injEq] at hheight
  refine ⟨hheight, hrow.trimmed S hsig, hid, hgrant, fun _ => ?_⟩
  exact ⟨claim, claim.absenceObservedAt, hr,
    (phase_prepared_iff (hc.sound _ _ hr)).mpr ⟨hs, hsig, rfl⟩⟩

theorem stageOk_beginClaim {worker : Worker} {grant : Nat} (hc : Consistent lastValid w)
    (hr : w.db.payoutClaims.get? claim.id = some claim) (hgrant : grant < w.next) :
    StageOk lastValid w (beginClaim worker grant claim) := by
  unfold beginClaim
  simp only
  split
  · trivial
  · next hvalid =>
    simp only [not_or, Bool.not_eq_false] at hvalid
    split
    · exact hgrant
    · next hs hsig hlast =>
      exact ⟨jobHeld_of_row hc hr hs hsig hlast (safeClaimId_trim hvalid.1) hgrant,
        probesOk_start worker⟩
    · trivial

theorem prepared_of_reply {q : PrepareRequest}
    (hx : preparePayoutClaim enc w.db now q = .ok (db', claim)) : claim.status = .prepared := by
  have hreturn := prepare_returns hx
  have hchanged := prepare_changed hx
  obtain ⟨r, hr⟩ := Option.ne_none_iff_exists'.mp (hchanged.found _ rfl)
  obtain ⟨r', hr', heffect⟩ := hchanged.claim _ r hr
  rw [hreturn, Option.some.injEq] at hr'
  subst hr'
  have hid : r.id = trim q.claimId := Table.get?_key hr
  cases heffect with
  | elsewhere hd hne =>
    simp only [Request.target, Option.some.injEq] at hd
    exact absurd (hid.trans hd) hne
  | prepared _ _ _ => rfl
  | resent _ _ hs _ _ => exact hs

theorem stageOk_receive {stage : Stage} (hc : Consistent lastValid w)
    (hc' : Consistent lastValid (w.executed m db' response)) (hmem : m ∈ w.messages)
    (hx : execute enc w.db now m.request = .ok (db', response))
    (h : (w.workers m.sender).receive m.ticket w.next m.request response = some stage) :
    StageOk lastValid (w.executed m db' response) stage := by
  have hm := hc.messages m hmem
  have hstage := hc.stages m.sender
  have hnext : w.next < (w.executed m db' response).next := Nat.lt_succ_self _
  unfold Worker.receive at h
  split at h
  · next q claims hreq =>
    split at h
    · split at h
      · cases h
        split
        · trivial
        · next claim rest =>
          rw [hreq] at hx
          obtain ⟨⟨_, _⟩, hlease, heq⟩ := map_eq_ok.mp hx
          cases heq
          rcases lease_returns hlease (by simpa [MessageOk, hreq] using hm) with hnil | ⟨c, hone, hrow⟩
          · cases hnil
          · cases hone
            exact stageOk_beginClaim hc' hrow hnext
      · cases h
    · cases h
  · next q claim hreq =>
    split at h
    · next job t hst =>
      split at h
      · cases h
        rw [hreq] at hx
        obtain ⟨⟨_, _⟩, hprepare, heq⟩ := map_eq_ok.mp hx
        cases heq
        have hreturn := prepare_returns hprepare
        have hkey := Table.get?_key hreturn
        have hs := prepared_of_reply hprepare
        split
        · next held hheld =>
          unfold heldOf at hheld
          split at hheld
          · next hsig hlast =>
            cases hheld
            rw [hst] at hstage
            refine jobHeld_of_row hc' ?_ hs hsig hlast ?_ (Nat.lt_succ_of_lt hstage)
            · rw [hkey]
              exact hreturn
            · rw [hkey, trim_trim]
          · cases hheld
        · trivial
      · cases h
    · cases h
  · split at h
    · split at h
      · cases h
        trivial
      · cases h
    · split at h
      · cases h
        trivial
      · cases h
    · cases h
  · cases h

end Replies

section Steps

variable {e : WorldEvent} {es : List WorldEvent}

theorem keeps_of_same (hdb : w'.db = w.db) (hchain : w'.chain.height = w.chain.height)
    (hlanded : w'.chain.landed = w.chain.landed) (hholder : w'.holder = w.holder)
    (hnext : w.next ≤ w'.next) : Keeps lastValid w w' := by
  refine ⟨hnext, by rw [hchain], ?_, ?_, ?_, ?_⟩
  · intro S o ho
    rw [Chain.outcome, hlanded]
    exact ho
  · intro S _
    simp only [Chain.paid, Chain.outcome, hlanded]
  · intro c g _ hg
    rw [← hholder]
    exact hg
  · intro c g r S a _ _ hr hp
    exact ⟨r, a, by rw [hdb]; exact hr, hp, fun h => h⟩

theorem RowOk.keep {chain : Chain} (hr : RowOk lastValid w.chain r) (h : Keeps lastValid w w')
    (hchain : w'.chain = chain) : RowOk lastValid chain r := by
  subst hchain
  exact ⟨hr.height, hr.trimmed, fun S t hp => (hr.expired S t hp).trans_le h.height,
    fun S hp => h.paidFinally (hr.paid S hp)⟩

theorem consistent_of_keeps (hc : Consistent lastValid w) (h : Keeps lastValid w w')
    (hdb : w'.db = w.db) (hholders : ∀ c g, w'.holder c = some g → g < w'.next)
    (hstages : ∀ p, (w'.workers p).stage = (w.workers p).stage ∨
      StageOk lastValid w' (w'.workers p).stage)
    (hmessages : ∀ m ∈ w'.messages, m ∈ w.messages ∨ MessageOk lastValid w' m) :
    Consistent lastValid w' := by
  refine ⟨hdb ▸ hc.sound, ?_, ?_, ?_, hholders⟩
  · intro c r hr
    rw [hdb] at hr
    exact (hc.rows c r hr).keep h rfl
  · intro p
    rcases hstages p with heq | hok
    · rw [heq]
      exact h.stageOk hc.rows (hc.stages p)
    · exact hok
  · intro m hm
    rcases hmessages m hm with hold | hok
    · exact h.messageOk (hc.messages m hold)
    · exact hok

theorem consistent_takeTurn {p : Nat} {turn : Turn} (hc : Consistent lastValid w)
    (h : TurnOk lastValid w turn) : Consistent lastValid (w.takeTurn p turn) := by
  have hkeeps : Keeps lastValid w (w.takeTurn p turn) :=
    keeps_of_same rfl rfl rfl rfl (Nat.le_succ _)
  refine consistent_of_keeps hc hkeeps rfl
    (fun c g hg => Nat.lt_succ_of_lt (hc.holders c g hg)) ?_ ?_
  · intro q
    by_cases hq : q = p
    · have hstage : ((w.takeTurn p turn).workers q).stage = turn.stage := by
        simp [World.takeTurn, World.setStage, hq]
      rw [hstage]
      exact .inr (hkeeps.stageOk hc.rows h.stage)
    · exact .inl (by simp [World.takeTurn, World.setStage, hq])
  · intro m hm
    rcases List.mem_append.mp hm with hold | hnew
    · exact .inl hold
    · simp only [Option.mem_toList, Option.map_eq_some_iff] at hnew
      obtain ⟨o, ho, rfl⟩ := hnew
      exact .inr (hkeeps.messageOk (m := ⟨w.next, p, o.job, o.request⟩) (h.outgoing o ho))

theorem consistent_setStage {p : Nat} {stage : Stage} (hc : Consistent lastValid w)
    (h : StageOk lastValid w stage) : Consistent lastValid (w.setStage p stage) := by
  have hkeeps : Keeps lastValid w (w.setStage p stage) := keeps_of_same rfl rfl rfl rfl le_rfl
  refine consistent_of_keeps hc hkeeps rfl hc.holders ?_ fun m hm => .inl hm
  intro q
  by_cases hq : q = p
  · have hstage : ((w.setStage p stage).workers q).stage = stage := by
      simp [World.setStage, hq]
    rw [hstage]
    exact .inr (hkeeps.stageOk hc.rows h)
  · exact .inl (by simp [World.setStage, hq])

theorem keeps_tick :
    Keeps lastValid w { w with chain := { w.chain with height := w.chain.height + 1 } } :=
  ⟨le_rfl, Nat.le_succ _, fun _ _ h => h, fun _ _ => rfl, fun _ _ _ h => h,
    fun _ _ r _ a _ _ hr hp => ⟨r, a, hr, hp, fun h => h⟩⟩

theorem keeps_land {succeeded : Bool} {block : Nat} (hnone : w.chain.outcome S = none)
    (hheight : w.chain.height ≤ block) (hlast : block ≤ lastValid S) :
    Keeps lastValid w
      { w with chain := { w.chain with landed := (S, succeeded, block) :: w.chain.landed } } := by
  have hother (S' : String) (hne : S' ≠ S) :
      List.lookup S' ((S, succeeded, block) :: w.chain.landed) = w.chain.outcome S' := by
    rw [List.lookup_cons, beq_eq_false_iff_ne.mpr hne]
    rfl
  refine ⟨le_rfl, le_rfl, ?_, ?_, fun _ _ _ h => h,
    fun _ _ r _ a _ _ hr hp => ⟨r, a, hr, hp, fun h => h⟩⟩
  · intro S' o ho
    have hne : S' ≠ S := by
      rintro rfl
      rw [hnone] at ho
      cases ho
    exact (hother S' hne).trans ho
  · intro S' hlt
    have hne : S' ≠ S := by
      rintro rfl
      omega
    simp only [Chain.paid, Chain.outcome, hother S' hne]

theorem consistent_store {env : Event} {db' : Database} (hc : Consistent lastValid w)
    (h : Step enc w.db env db') (henv : isEnvironment env = true) :
    Keeps lastValid w { w with db := db' } ∧ Consistent lastValid { w with db := db' } ∧
      ∀ c r, w.db.payoutClaims.get? c = some r → db'.payoutClaims.get? c = some r := by
  have hsame (c : String) (r : PayoutClaim) (hr : w.db.payoutClaims.get? c = some r) :
      db'.payoutClaims.get? c = some r := by
    cases h.row hc.sound c with
    | missing ho _ _ => simp [hr] at ho
    | created ho _ _ => simp [hr] at ho
    | untouched ho hn _ =>
      rw [hr, Option.some.injEq] at ho
      exact ho ▸ hn
    | moved _ _ _ _ _ _ => cases henv
  have hkeeps : Keeps lastValid w { w with db := db' } :=
    ⟨le_rfl, le_rfl, fun _ _ h => h, fun _ _ => rfl, fun _ _ _ h => h,
      fun c _ r _ a _ _ hr hp => ⟨r, a, hsame c r hr, hp, fun h => h⟩⟩
  refine ⟨hkeeps, ⟨h.allSound hc.sound, ?_, fun p => hkeeps.stageOk hc.rows (hc.stages p),
    fun m hm => hkeeps.messageOk (hc.messages m hm), hc.holders⟩, hsame⟩
  intro c r hr
  cases h.row hc.sound c with
  | missing _ hn _ => simp [show db'.payoutClaims.get? c = some r from hr] at hn
  | created _ _ hn =>
    rw [show db'.payoutClaims.get? c = some r from hr, Option.some.injEq] at hn
    subst hn
    refine ⟨?_, ?_, ?_, ?_⟩ <;> simp [NewClaim.row, PayoutClaim.phase]
  | untouched ho hn _ =>
    rw [show db'.payoutClaims.get? c = some r from hr, Option.some.injEq] at hn
    exact hn ▸ hc.rows c _ ho
  | moved _ _ _ _ _ _ => cases henv

-- one event either keeps every claim row and the facts about the chain, or hands one message to
-- the store
inductive WorldChange (enc : Encoding) (lastValid : String → Nat) (w w' : World) :
    WorldEvent → Prop
  | kept {e : WorldEvent} : Keeps lastValid w w' → Consistent lastValid w' →
      (∀ c r, w.db.payoutClaims.get? c = some r → w'.db.payoutClaims.get? c = some r) →
      (∀ m now d, e ≠ .handle m now d) → WorldChange enc lastValid w w' e
  | handled {m : Message} {now : Nat} {d : Bool} {db' : Database} {response : Response} : m ∈ w.messages →
      execute enc w.db now m.request = .ok (db', response) → w'.db = db' → w'.chain = w.chain →
      Consistent lastValid w' → WorldChange enc lastValid w w' (.handle m now d)

theorem world_change (hc : Consistent lastValid w) (h : w.step enc lastValid e = some w')
    (hf : Fenced w e) : WorldChange enc lastValid w w' e := by
  cases e with
  | tick =>
    cases h
    exact .kept keeps_tick (consistent_of_keeps hc keeps_tick rfl hc.holders (fun _ => .inl rfl)
      fun _ hm => .inl hm) (fun _ _ h => h) (by simp)
  | land S succeeded block =>
    simp only [World.step] at h
    split at h
    · next hguard =>
      obtain ⟨-, hnone, hheight, hlast⟩ := hguard
      cases h
      have hkeeps : Keeps lastValid w
          { w with chain := { w.chain with landed := (S, succeeded, block) :: w.chain.landed } } :=
        keeps_land hnone hheight hlast
      exact .kept hkeeps (consistent_of_keeps hc hkeeps rfl hc.holders (fun _ => .inl rfl)
        fun _ hm => .inl hm) (fun _ _ h => h) (by simp)
    · cases h
  | act p act =>
    simp only [World.step, Option.map_eq_some_iff] at h
    obtain ⟨turn, hturn, rfl⟩ := h
    exact .kept (keeps_of_same rfl rfl rfl rfl (Nat.le_succ _))
      (consistent_takeTurn hc (turnOk_act hc.rows (hc.stages p) hturn)) (fun _ _ h => h) (by simp)
  | handle m now delivered =>
    simp only [World.step] at h
    split at h
    · next hmem =>
      simp only [World.handleMessage, Option.bind_eq_some_iff] at h
      obtain ⟨⟨db', response⟩, hx, h⟩ := h
      have hx := toOption_eq_some.mp hx
      have hc' := consistent_executed hc hmem hf hx
      split at h
      · simp only [Option.map_eq_some_iff] at h
        obtain ⟨stage, hstage, rfl⟩ := h
        exact .handled hmem hx rfl rfl
          (consistent_setStage hc' (stageOk_receive hc hc' hmem hx hstage))
      · cases h
        exact .handled hmem hx rfl rfl hc'
    · cases h
  | lose ticket =>
    cases h
    have hkeeps : Keeps lastValid w
        { w with messages := w.messages.filter fun m => m.ticket ≠ ticket } :=
      keeps_of_same rfl rfl rfl rfl le_rfl
    exact .kept hkeeps (consistent_of_keeps hc hkeeps rfl hc.holders (fun _ => .inl rfl)
      fun _ hm => .inl (List.mem_of_mem_filter hm)) (fun _ _ h => h) (by simp)
  | store env =>
    simp only [World.step] at h
    split at h
    · next henv =>
      simp only [Option.map_eq_some_iff] at h
      obtain ⟨db', hdb', rfl⟩ := h
      obtain ⟨hkeeps, hc', hsame⟩ := consistent_store hc (step_of_execEvent _ _ _ hdb') henv
      exact .kept hkeeps hc' hsame (by simp)
    · cases h

end Steps

section Payments

variable {e : WorldEvent} {es : List WorldEvent}

def PreparedIn (es : List WorldEvent) (c S : String) : Prop :=
  ∃ m now delivered q, WorldEvent.handle m now delivered ∈ es ∧ m.request = .prepare q ∧
    trim q.claimId = c ∧ trim q.transactionSignature = S

-- every signature ever prepared for a claim is on its row, or can no longer pay
def Accounted (lastValid : String → Nat) (es : List WorldEvent) (w : World) : Prop :=
  ∀ c S, PreparedIn es c S → signatureOf w.db c = some S ∨ Dead lastValid w.chain S

theorem Dead.keep (h : Dead lastValid w.chain S) (hk : Keeps lastValid w w') :
    Dead lastValid w'.chain S :=
  ⟨h.1.trans_le hk.height, (hk.settled S h.1).trans h.2⟩

theorem accounted_move {m : Message} {delivered : Bool} (hc : Consistent lastValid w)
    (hmem : m ∈ w.messages) (hf : Fenced w (.handle m now delivered))
    (hr : w.db.payoutClaims.get? c = some r) (hmove : Move now r r' m.request)
    (hsig : r.phase.signature = some S) :
    r'.phase.signature = some S ∨ Dead lastValid w.chain S := by
  have hm := hc.messages m hmem
  generalize hreq : m.request = request at hmove
  cases hmove with
  | elsewhere _ _ heq => exact .inl (heq ▸ hsig)
  | lease hphase => exact .inl (hphase ▸ hsig)
  | prepared _ _ hidle _ => simp [hidle, Phase.signature] at hsig
  | resent _ _ heq => exact .inl (heq ▸ hsig)
  | confirmed _ _ hp hp' =>
    rw [hp] at hsig
    rw [hp']
    exact .inl hsig
  | reconfirmed _ _ heq => exact .inl (heq ▸ hsig)
  | observed _ _ _ hp hp' =>
    rw [hp] at hsig
    rw [hp']
    exact .inl hsig
  | awaited _ _ _ hp _ hp' =>
    rw [hp'.trans hp.symm]
    exact .inl hsig
  | @released q S' t hid hl hflag hp _ _ =>
    rw [hp, Phase.signature, Option.some.injEq] at hsig
    subst hsig
    have hr' : w.db.payoutClaims.get? (trim q.claimId) = some r := by
      rw [hid, Table.get?_key hr]
      exact hr
    obtain ⟨hexpired, hunpaid⟩ := abandon_known hm hf hreq hflag hr' hl hp
    exact .inr ⟨hexpired, hunpaid (by simp)⟩
  | retained _ _ _ hp hp' =>
    rw [hp] at hsig
    rw [hp']
    exact .inl hsig
  | failed _ _ hidle _ => simp [hidle, Phase.signature] at hsig
  | ignored _ _ heq => exact .inl (heq ▸ hsig)

theorem accounted_handled {m : Message} {delivered : Bool} {db' : Database} {response : Response}
    (hc : Consistent lastValid w) (ha : Accounted lastValid es w) (hmem : m ∈ w.messages)
    (hf : Fenced w (.handle m now delivered))
    (hx : execute enc w.db now m.request = .ok (db', response)) (hdb : w'.db = db')
    (hchain : w'.chain = w.chain) (hc' : Consistent lastValid w') :
    Accounted lastValid (es ++ [.handle m now delivered]) w' := by
  subst hdb
  have hchanged := execute_changed hx
  rintro c S ⟨m', now', d', q, hin, hreq, hid, hS⟩
  rw [hchain]
  rcases List.mem_append.mp hin with hold | hnew
  · rcases ha c S ⟨m', now', d', q, hold, hreq, hid, hS⟩ with hsig | hdead
    · cases hr : w.db.payoutClaims.get? c with
      | none => simp [signatureOf, hr] at hsig
      | some r =>
        obtain ⟨r', hr', heffect⟩ := hchanged.claim c r hr
        rw [signatureOf_eq hc.sound hr] at hsig
        rw [signatureOf_eq hc'.sound hr']
        exact accounted_move hc hmem hf hr (heffect.move (hc.sound c r hr)).2 hsig
    · exact .inr hdead
  · simp only [List.mem_singleton, WorldEvent.handle.injEq] at hnew
    obtain ⟨rfl, rfl, rfl⟩ := hnew
    left
    have hfound : w.db.payoutClaims.get? c ≠ none := by
      refine hchanged.found c ?_
      rw [hreq]
      exact congrArg some hid
    obtain ⟨r, hr⟩ := Option.ne_none_iff_exists'.mp hfound
    obtain ⟨r', hr', heffect⟩ := hchanged.claim c r hr
    have hmove := (heffect.move (hc.sound c r hr)).2
    rw [signatureOf_eq hc'.sound hr', ← hS]
    rw [hreq] at hmove
    cases hmove with
    | elsewhere hd hne =>
      simp only [Request.target, Option.some.injEq] at hd
      exact absurd ((Table.get?_key hr).trans (hid.symm.trans hd)) hne
    | prepared _ _ _ hp =>
      rw [hp]
      rfl
    | resent _ hp heq =>
      rw [heq, hp]
      rfl

abbrev FencedStep (enc : Encoding) (lastValid : String → Nat) (w : World) (e : WorldEvent)
    (w' : World) : Prop :=
  w.step enc lastValid e = some w' ∧ Fenced w e

structure Start (w : World) : Prop where
  db : w.db = .empty
  idle : ∀ p, (w.workers p).stage = .idle
  messages : w.messages = []
  holder : ∀ c, w.holder c = none

theorem start_consistent (h : Start w) : Consistent lastValid w := by
  refine ⟨?_, ?_, ?_, ?_, ?_⟩
  · intro c r hr
    rw [h.db] at hr
    cases hr
  · intro c r hr
    rw [h.db] at hr
    cases hr
  · intro p
    rw [h.idle p]
    trivial
  · intro m hm
    simp [h.messages] at hm
  · intro c g hg
    simp [h.holder] at hg

theorem fenced_run {start : World} (hstart : Start start)
    (run : Trace (FencedStep enc lastValid) start es w) :
    Consistent lastValid w ∧ Accounted lastValid es w := by
  refine Trace.history (P := fun es w => Consistent lastValid w ∧ Accounted lastValid es w)
    ⟨start_consistent hstart, ?_⟩ ?_ run
  · rintro c S ⟨m, now, d, q, hin, -⟩
    cases hin
  · rintro es u e v _ ⟨hc, ha⟩ ⟨hstep, hf⟩
    cases world_change hc hstep hf with
    | kept hkeeps hc' hrows hne =>
      refine ⟨hc', ?_⟩
      rintro c S ⟨m, now, d, q, hin, hreq⟩
      rcases List.mem_append.mp hin with hold | hnew
      · rcases ha c S ⟨m, now, d, q, hold, hreq⟩ with hsig | hdead
        · cases hr : u.db.payoutClaims.get? c with
          | none => simp [signatureOf, hr] at hsig
          | some r =>
            left
            simp only [signatureOf, hr, hrows c r hr] at hsig ⊢
            exact hsig
        · exact .inr (hdead.keep hkeeps)
      · exact absurd (List.mem_singleton.mp hnew).symm (hne m now d)
    | handled hmem hx hdb hchain hc' =>
      exact ⟨hc', accounted_handled hc ha hmem hf hx hdb hchain hc'⟩

end Payments

end Obulus.Payout
