import Mathlib.Data.Set.Lattice
import Mathlib.Order.CompletePartialOrder
import Obulus.Foundation.Dictionary
import Obulus.Foundation.Json
import Obulus.Foundation.Pool
import Obulus.Funds.Schema

namespace Obulus.Gateway.Durability

open Foundation Funds

section Programs

inductive DurableKind
  | settlement (kind : SettlementKind)
  | topup
  deriving DecidableEq, Repr

structure DurableSettlement where
  settlementKind : DurableKind
  quoteId : String
  attemptId : String
  transactionSignature : String
  payer : String
  payTo : String
  amountAtomic : String
  network : String
  rawResponse : Json

def endpoint : DurableKind → String
  | .settlement .bundle => "/internal/v1/bundle-chain-settlements"
  | .settlement .openCall => "/internal/v1/open-call-chain-settlements"
  | _ => "/internal/v1/chain-settlements"

def taskId (transactionSignature : String) : String := "settlement-" ++ transactionSignature

structure Task where
  taskId : String
  endpoint : String
  settlement : DurableSettlement

def taskOf (settlement : DurableSettlement) : Task where
  taskId := taskId settlement.transactionSignature
  endpoint := endpoint settlement.settlementKind
  settlement := settlement

inductive Request
  | createTask (task : Task)
  | internalJson (endpoint : String) (settlement : DurableSettlement)
  | release (transactionSignature : String)
  | forget (settlement : DurableSettlement)

-- what comes back, or that nothing came back
inductive Reply
  | accepted
  | alreadyExists
  | thrown

abbrev Program (α : Type) := Dialogue Request Reply α

variable (queue : Bool) (settlement : DurableSettlement)

def enqueue : Program Unit :=
  (Dialogue.answer (.createTask (taskOf settlement))).bind fun
    | .accepted => .done ()
    | .alreadyExists => .done ()
    | .thrown => .failed

def releaseVolatileCopy : Program Unit :=
  (Dialogue.answer (.release settlement.transactionSignature)).bind fun _ => .done ()

def recordSettlement : Program Unit :=
  (Dialogue.answer (.internalJson (endpoint settlement.settlementKind) settlement)).bind fun
    | .accepted => releaseVolatileCopy settlement
    | _ => .failed

def attempted (program : Program Unit) : Program Bool :=
  (program.bind fun _ => Dialogue.done true).orElse false

def reconcileSettlement : Program Unit :=
  (if queue = true then attempted (enqueue settlement) else .done false).bind fun queued =>
  (if queued = true then releaseVolatileCopy settlement else .done ()).bind fun _ =>
  (attempted (recordSettlement settlement)).bind fun ledgered =>
  (if ledgered = true ∧ queued = false then releaseVolatileCopy settlement else .done ()).bind fun _ =>
  if queued = false ∧ ledgered = false then .failed else .done ()

-- the body of the hook, of the retry and of the chain reconciler
def finish : Program Unit :=
  ((reconcileSettlement queue settlement).bind fun _ =>
    (Dialogue.answer (.forget settlement)).bind fun _ => .done ()).orElse ()

end Programs

section System

-- `arrived` and `created` are history
structure World where
  arrived : List String
  pendingSettlements : Dictionary DurableSettlement
  created : List Task
  tasks : List Task
  ledger : List DurableSettlement
  forgotten : List DurableSettlement

variable {w w' : World} {task : Task} {settlement : DurableSettlement} {queue : Bool}

def World.create (w : World) (task : Task) : World :=
  { w with
    created := task :: w.created
    tasks := task :: w.tasks }

def World.record (w : World) (settlement : DurableSettlement) : World :=
  { w with ledger := settlement :: w.ledger }

def World.hold (w : World) (settlement : DurableSettlement) : World :=
  { w with
    arrived := settlement.transactionSignature :: w.arrived
    pendingSettlements := w.pendingSettlements.insert settlement.transactionSignature settlement }

-- a task or a record can be made although the answer is lost
inductive Turn (w : World) : Request → Reply → World → Prop
  | created {task : Task} {reply : Reply} : (∀ t ∈ w.created, t.taskId ≠ task.taskId) →
      reply ≠ .alreadyExists → Turn w (.createTask task) reply (w.create task)
  | duplicate {task : Task} : (∃ t ∈ w.created, t.taskId = task.taskId) →
      Turn w (.createTask task) .alreadyExists w
  | uncreated {task : Task} : Turn w (.createTask task) .thrown w
  | recorded {endpoint : String} {settlement : DurableSettlement} {reply : Reply} :
      Turn w (.internalJson endpoint settlement) reply (w.record settlement)
  | unrecorded {endpoint : String} {settlement : DurableSettlement} :
      Turn w (.internalJson endpoint settlement) .thrown w
  | released {transactionSignature : String} : Turn w (.release transactionSignature) .accepted
      { w with pendingSettlements := w.pendingSettlements.erase transactionSignature }
  | forgot {settlement : DurableSettlement} : Turn w (.forget settlement) .accepted
      { w with forgotten := settlement :: w.forgotten }

inductive Starts (queue : Bool) (w : World) : List (Program Unit) → World → Prop
  | settled {settlement : DurableSettlement} :
      Starts queue w [finish queue settlement] (w.hold settlement)
  | retried {transactionSignature : String} {settlement : DurableSettlement} :
      w.pendingSettlements.lookup transactionSignature = some settlement →
      Starts queue w [finish queue settlement] w
  | dispatched {before after : List Task} {task : Task} : w.tasks = before ++ task :: after →
      Starts queue w [] ({ w with tasks := before ++ after }.record task.settlement)
  | undispatched {task : Task} : task ∈ w.tasks → Starts queue w [] (w.record task.settlement)

def accepted (w : World) : Set String :=
  { signature | (∃ t ∈ w.created, t.settlement.transactionSignature = signature) ∨
    ∃ s ∈ w.ledger, s.transactionSignature = signature }

def may (known : Set String) : Request → Prop
  | .createTask task => task.taskId = taskId task.settlement.transactionSignature
  | .internalJson _ _ => True
  | .release signature => signature ∈ known
  | .forget settlement => settlement.transactionSignature ∈ known

def answers (known : Set String) : Request → Reply → Prop
  | .createTask task, .accepted => task.settlement.transactionSignature ∈ known
  | .createTask task, .alreadyExists => task.settlement.transactionSignature ∈ known
  | .internalJson _ settlement, .accepted => settlement.transactionSignature ∈ known
  | _, _ => True

structure Kept (w : World) : Prop where
  arrived : ∀ signature ∈ w.arrived,
    (w.pendingSettlements.lookup signature).isSome = true ∨ signature ∈ accepted w
  keyed : ∀ signature settlement, w.pendingSettlements.lookup signature = some settlement →
    settlement.transactionSignature = signature
  named : ∀ t ∈ w.created, t.taskId = taskId t.settlement.transactionSignature
  held : ∀ t ∈ w.created, t ∈ w.tasks ∨
    ∃ s ∈ w.ledger, s.transactionSignature = t.settlement.transactionSignature
  forgotten : ∀ s ∈ w.forgotten, s.transactionSignature ∈ accepted w

end System

section Programs

open Pool

variable {known later : Set String} {settlement : DurableSettlement} {queue : Bool}
  {good : Set String → Option Unit → Prop}

-- the program only ends normally once its settlement is in the queue or in the ledger
def Lands (settlement : DurableSettlement) (known : Set String) (result : Option Unit) : Prop :=
  result ≠ none → settlement.transactionSignature ∈ known

def Accepts (settlement : DurableSettlement) (known : Set String) (result : Option Bool) : Prop :=
  result = some true → settlement.transactionSignature ∈ known

def Whatever (_ : Set String) (_ : Option Unit) : Prop := True

theorem may_grow (known later : Set String) (q : Request) (h : known ≤ later) (hq : may known q) :
    may later q := by
  cases q with
  | createTask task => exact hq
  | internalJson endpoint settlement => trivial
  | release signature => exact h hq
  | forget settlement => exact h hq

theorem release_careful (h : settlement.transactionSignature ∈ known) :
    Careful may answers (Lands settlement) (releaseVolatileCopy settlement) known := by
  refine ⟨h, ?_⟩
  intro later r hlater _ _
  exact hlater h

theorem enqueue_careful : Careful may answers (Lands settlement) (enqueue settlement) known := by
  refine ⟨rfl, ?_⟩
  intro later r _ hr
  cases r with
  | accepted => exact fun _ => hr
  | alreadyExists => exact fun _ => hr
  | thrown => exact fun hnone => absurd rfl hnone

theorem record_careful : Careful may answers (Lands settlement) (recordSettlement settlement) known := by
  refine ⟨trivial, ?_⟩
  intro later r _ hr
  cases r with
  | accepted => exact release_careful hr
  | alreadyExists => exact fun hnone => absurd rfl hnone
  | thrown => exact fun hnone => absurd rfl hnone

theorem attempted_careful {program : Program Unit}
    (h : Careful may answers (Lands settlement) program known) :
    Careful may answers (Accepts settlement) (attempted program) known := by
  have hdone : Careful may answers (Accepts settlement)
      (program.bind fun _ => Dialogue.done true) known := by
    refine h.bind ?_ ?_
    · intro later _ _ hnone
      cases hnone
    · intro later a _ hlands _
      exact hlands (Option.some_ne_none a)
  refine hdone.orElse ?_ ?_
  · intro later _ _ hfalse
    cases hfalse
  · intro later a _ haccepts
    exact haccepts

theorem releaseIf_careful {p : Prop} [Decidable p]
    (h : p → settlement.transactionSignature ∈ known) :
    Careful may answers Whatever
      (if p then releaseVolatileCopy settlement else Dialogue.done ()) known := by
  split
  · next hp =>
    refine ⟨h hp, ?_⟩
    intro later r _ _
    trivial
  · trivial

theorem reconcile_careful :
    Careful may answers (Lands settlement) (reconcileSettlement queue settlement) known := by
  have hqueued : Careful may answers (Accepts settlement)
      (if queue = true then attempted (enqueue settlement) else .done false) known := by
    split
    · exact attempted_careful enqueue_careful
    · intro hfalse
      cases hfalse
  refine hqueued.bind ?_ ?_
  · intro _ _ _ hnone
    exact absurd rfl hnone
  intro known₁ queued _ hqueued
  refine (releaseIf_careful fun hp => hqueued (by rw [hp])).bind ?_ ?_
  · intro _ _ _ hnone
    exact absurd rfl hnone
  intro known₂ _ hknown₂ _
  refine (attempted_careful record_careful).bind ?_ ?_
  · intro _ _ _ hnone
    exact absurd rfl hnone
  intro known₃ ledgered hknown₃ hledgered
  refine (releaseIf_careful fun hp => hledgered (by rw [hp.1])).bind ?_ ?_
  · intro _ _ _ hnone
    exact absurd rfl hnone
  intro known₄ _ hknown₄ _
  split
  · intro hnone
    exact absurd rfl hnone
  · next hsome =>
    intro _
    cases queued with
    | true => exact hknown₄ (hknown₃ (hknown₂ (hqueued rfl)))
    | false =>
      cases ledgered with
      | true => exact hknown₄ (hledgered rfl)
      | false => exact absurd ⟨rfl, rfl⟩ hsome

theorem finish_careful : Careful may answers Whatever (finish queue settlement) known := by
  have hforgotten : Careful may answers Whatever ((reconcileSettlement queue settlement).bind fun _ =>
      (Dialogue.answer (.forget settlement)).bind fun _ => .done ()) known := by
    refine reconcile_careful.bind (fun _ _ _ => trivial) ?_
    intro later a _ hlands
    refine ⟨hlands (Option.some_ne_none a), ?_⟩
    intro _ _ _ _
    trivial
  exact hforgotten.orElse (fun _ _ _ => trivial) fun _ _ _ _ => trivial

end Programs

section Runs

open Pool

variable {w w' : World} {queue : Bool} {start p : Parties World Request Reply Unit}
  {events : List (Option (Request × Reply))}

theorem accepted_create (task : Task) : accepted w ≤ accepted (w.create task) := by
  rintro signature (⟨t, ht, hsame⟩ | hledger)
  · exact .inl ⟨t, List.mem_cons_of_mem _ ht, hsame⟩
  · exact .inr hledger

theorem accepted_record (settlement : DurableSettlement) : accepted w ≤ accepted (w.record settlement) := by
  rintro signature (hcreated | ⟨s, hs, hsame⟩)
  · exact .inl hcreated
  · exact .inr ⟨s, List.mem_cons_of_mem _ hs, hsame⟩

theorem Kept.arrived_mono (h : Kept w) (hgrow : accepted w ≤ accepted w')
    (hpending : ∀ signature, (w.pendingSettlements.lookup signature).isSome = true →
      (w'.pendingSettlements.lookup signature).isSome = true ∨ signature ∈ accepted w') :
    ∀ signature ∈ w.arrived, (w'.pendingSettlements.lookup signature).isSome = true ∨
      signature ∈ accepted w' := by
  intro signature hsignature
  rcases h.arrived signature hsignature with hlive | haccepted
  · exact hpending signature hlive
  · exact .inr (hgrow haccepted)

theorem Kept.create {task : Task} (h : Kept w)
    (hnamed : task.taskId = taskId task.settlement.transactionSignature) : Kept (w.create task) := by
  have hgrow := @accepted_create w task
  refine ⟨h.arrived_mono hgrow fun _ => .inl, h.keyed, ?_, ?_, fun s hs => hgrow (h.forgotten s hs)⟩
  · intro t ht
    rcases List.mem_cons.mp ht with rfl | ht
    · exact hnamed
    · exact h.named t ht
  · intro t ht
    rcases List.mem_cons.mp ht with rfl | ht
    · exact .inl List.mem_cons_self
    · exact (h.held t ht).imp_left (List.mem_cons_of_mem _)

theorem Kept.record (h : Kept w) (settlement : DurableSettlement) : Kept (w.record settlement) := by
  have hgrow := @accepted_record w settlement
  refine ⟨h.arrived_mono hgrow fun _ => .inl, h.keyed, h.named, ?_, fun s hs => hgrow (h.forgotten s hs)⟩
  intro t ht
  rcases h.held t ht with hheld | ⟨s, hs, hsame⟩
  · exact .inl hheld
  · exact .inr ⟨s, List.mem_cons_of_mem _ hs, hsame⟩

theorem turn_kept {q : Request} {r : Reply} (h : Kept w) (hmay : may (accepted w) q)
    (hturn : Turn w q r w') : Kept w' ∧ accepted w ≤ accepted w' ∧ answers (accepted w') q r := by
  cases hturn with
  | @created task _ _ hreply =>
    refine ⟨h.create hmay, accepted_create task, ?_⟩
    have haccepted : task.settlement.transactionSignature ∈ accepted (w.create task) :=
      .inl ⟨task, List.mem_cons_self, rfl⟩
    cases r with
    | accepted => exact haccepted
    | alreadyExists => exact haccepted
    | thrown => trivial
  | duplicate hexists =>
    obtain ⟨t, ht, hsame⟩ := hexists
    refine ⟨h, le_rfl, .inl ⟨t, ht, ?_⟩⟩
    rw [h.named t ht, hmay, taskId, taskId] at hsame
    exact String.append_right_inj _ |>.mp hsame
  | uncreated => exact ⟨h, le_rfl, trivial⟩
  | @recorded endpoint settlement _ =>
    refine ⟨h.record settlement, accepted_record settlement, ?_⟩
    cases r with
    | accepted => exact .inr ⟨settlement, List.mem_cons_self, rfl⟩
    | alreadyExists => trivial
    | thrown => trivial
  | unrecorded => exact ⟨h, le_rfl, trivial⟩
  | @released signature =>
    refine ⟨⟨h.arrived_mono le_rfl ?_, ?_, h.named, h.held, h.forgotten⟩, le_rfl, trivial⟩
    · intro other hlive
      by_cases hsame : other = signature
      · rw [hsame]
        exact .inr hmay
      · rw [AList.lookup_erase_ne hsame]
        exact .inl hlive
    · intro other settlement hlookup
      by_cases hsame : other = signature
      · rw [hsame, AList.lookup_erase] at hlookup
        cases hlookup
      · rw [AList.lookup_erase_ne hsame] at hlookup
        exact h.keyed other settlement hlookup
  | @forgot settlement =>
    refine ⟨⟨h.arrived, h.keyed, h.named, h.held, ?_⟩, le_rfl, trivial⟩
    intro s hs
    rcases List.mem_cons.mp hs with rfl | hs
    · exact hmay
    · exact h.forgotten s hs

theorem Kept.hold (h : Kept w) (settlement : DurableSettlement) : Kept (w.hold settlement) := by
  refine ⟨?_, ?_, h.named, h.held, h.forgotten⟩
  · intro signature hsignature
    by_cases hsame : signature = settlement.transactionSignature
    · left
      rw [World.hold, hsame, AList.lookup_insert]
      rfl
    · rw [World.hold, AList.lookup_insert_ne hsame]
      rcases List.mem_cons.mp hsignature with hsame' | hsignature
      · exact absurd hsame' hsame
      · exact h.arrived signature hsignature
  · intro signature other hlookup
    by_cases hsame : signature = settlement.transactionSignature
    · rw [World.hold, hsame, AList.lookup_insert] at hlookup
      rw [hsame, Option.some.inj hlookup]
    · rw [World.hold, AList.lookup_insert_ne hsame] at hlookup
      exact h.keyed signature other hlookup

theorem Kept.dispatch {before after : List Task} {task : Task} (h : Kept w)
    (htasks : w.tasks = before ++ task :: after) :
    Kept ({ w with tasks := before ++ after }.record task.settlement) := by
  have hgrow := @accepted_record w task.settlement
  refine ⟨h.arrived_mono hgrow fun _ => .inl, h.keyed, h.named, ?_, fun s hs => hgrow (h.forgotten s hs)⟩
  intro t ht
  rcases h.held t ht with hheld | ⟨s, hs, hsame⟩
  · rw [htasks, List.mem_append, List.mem_cons] at hheld
    rcases hheld with hheld | rfl | hheld
    · exact .inl (List.mem_append_left _ hheld)
    · exact .inr ⟨t.settlement, List.mem_cons_self, rfl⟩
    · exact .inl (List.mem_append_right _ hheld)
  · exact .inr ⟨s, List.mem_cons_of_mem _ hs, hsame⟩

theorem starts_kept {new : List (Program Unit)} (h : Kept w) (hstarts : Starts queue w new w') :
    Kept w' ∧ accepted w ≤ accepted w' ∧ ∀ d ∈ new, Careful may answers Whatever d (accepted w') := by
  have hfinish (settlement : DurableSettlement) (known : Set String) :
      ∀ d ∈ [finish queue settlement], Careful may answers Whatever d known := by
    intro d hd
    rw [List.mem_singleton.mp hd]
    exact finish_careful
  cases hstarts with
  | @settled settlement => exact ⟨h.hold settlement, le_rfl, hfinish settlement _⟩
  | @retried _ settlement _ => exact ⟨h, le_rfl, hfinish settlement _⟩
  | @dispatched before after task htasks =>
    refine ⟨h.dispatch htasks, accepted_record task.settlement, ?_⟩
    intro d hd
    cases hd
  | @undispatched task _ =>
    refine ⟨h.record task.settlement, accepted_record task.settlement, ?_⟩
    intro d hd
    cases hd

theorem contract : Contract Turn (Starts queue) accepted Kept may answers Whatever :=
  ⟨may_grow, fun _ _ _ _ _ => trivial, fun _ _ _ _ => turn_kept, fun _ _ _ => starts_kept⟩

def Landed (w : World) (signature : String) : Prop :=
  (∃ t ∈ w.tasks, t.settlement.transactionSignature = signature) ∨
    ∃ s ∈ w.ledger, s.transactionSignature = signature

theorem Kept.landed {signature : String} (h : Kept w) (haccepted : signature ∈ accepted w) :
    Landed w signature := by
  rcases haccepted with ⟨t, ht, hsame⟩ | hledger
  · rcases h.held t ht with hheld | ⟨s, hs, hsettled⟩
    · exact .inl ⟨t, hheld, hsame⟩
    · exact .inr ⟨s, hs, hsettled.trans hsame⟩
  · exact .inr hledger

structure Durable (w : World) : Prop where
  settlements : ∀ signature ∈ w.arrived,
    (w.pendingSettlements.lookup signature).isSome = true ∨ Landed w signature
  attempts : ∀ s ∈ w.forgotten, Landed w s.transactionSignature

structure Boot (p : Parties World Request Reply Unit) : Prop where
  programs : p.programs = []
  arrived : p.state.arrived = []
  pending : p.state.pendingSettlements = ∅
  named : ∀ t ∈ p.state.created, t.taskId = taskId t.settlement.transactionSignature
  held : ∀ t ∈ p.state.created, t ∈ p.state.tasks ∨
    ∃ s ∈ p.state.ledger, s.transactionSignature = t.settlement.transactionSignature
  forgotten : p.state.forgotten = []

theorem Boot.sound (h : Boot start) : Sound accepted Kept may answers Whatever start := by
  refine ⟨⟨?_, ?_, h.named, h.held, ?_⟩, ?_⟩
  · intro signature hsignature
    rw [h.arrived] at hsignature
    cases hsignature
  · intro signature settlement hlookup
    rw [h.pending] at hlookup
    cases hlookup
  · intro s hs
    rw [h.forgotten] at hs
    cases hs
  · intro d hd
    rw [h.programs] at hd
    cases hd

theorem settlements_durable (hstart : Boot start)
    (hrun : Trace (Pool.Step Turn (Starts queue)) start events p) : Durable p.state := by
  obtain ⟨hkept, -⟩ := contract.run hstart.sound hrun
  refine ⟨?_, fun s hs => hkept.landed (hkept.forgotten s hs)⟩
  intro signature hsignature
  exact (hkept.arrived signature hsignature).imp_right hkept.landed

end Runs

section Sample

open Pool

def sampleSettlement : DurableSettlement where
  settlementKind := .settlement .bundle
  quoteId := "quote"
  attemptId := "attempt"
  transactionSignature := "signature"
  payer := "payer"
  payTo := "treasury"
  amountAtomic := "2000000"
  network := "solana"
  rawResponse := .null

def emptyWorld : World := ⟨[], ∅, [], [], [], []⟩

def sampleBoot : Parties World Request Reply Unit := ⟨emptyWorld, []⟩

-- queued, but refused by the ledger
theorem settlements_durable_sample : ∃ p events,
    Trace (Pool.Step Turn (Starts true)) sampleBoot events p ∧ Durable p.state ∧
      p.state.arrived = ["signature"] ∧ p.state.ledger = [] ∧
        p.state.pendingSettlements.lookup "signature" = none := by
  have hboot : Boot sampleBoot := by
    refine ⟨rfl, rfl, rfl, ?_, ?_, rfl⟩
    · intro t ht
      cases ht
    · intro t ht
      cases ht
  have hstarted : Pool.Step Turn (Starts true) sampleBoot none
      ⟨emptyWorld.hold sampleSettlement, [finish true sampleSettlement]⟩ :=
    .start Starts.settled
  have hfresh : ∀ t ∈ (emptyWorld.hold sampleSettlement).created,
      t.taskId ≠ (taskOf sampleSettlement).taskId := by
    intro t ht
    cases ht
  have haccepted : Reply.accepted ≠ Reply.alreadyExists := by
    intro hsame
    cases hsame
  have hanswered : Trace (Pool.Step Turn (Starts true))
      ⟨emptyWorld.hold sampleSettlement, [finish true sampleSettlement]⟩ _ _ :=
    .snoc (.snoc (.snoc (.snoc .nil (.alone (Turn.created hfresh haccepted))) (.alone Turn.released))
      (.alone Turn.unrecorded)) (.alone Turn.forgot)
  have hrun := Trace.cons_iff.mpr ⟨_, hstarted, hanswered⟩
  exact ⟨_, _, hrun, settlements_durable hboot hrun, rfl, rfl, rfl⟩

end Sample

end Obulus.Gateway.Durability
