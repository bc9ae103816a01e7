import Obulus.Funds.ExactlyOnce
import Obulus.Gateway.History
import Obulus.Gateway.Passes

namespace Obulus.Gateway

open Foundation Store Funds

variable {lib : Libraries} {net : Network} {ext : Externals} {documentAsset : String → String}
  {payloads : Set String} {w w' : World lib} {c c' : Chain lib} {expired expired' : List String}

section Invariant

variable (lib net ext payloads)

def preparedBytes (signed : String) : Bytes := lib.bufferFromBase64 signed

def blockhashOf (signed : String) : String := net.blockhash (messageOf (preparedBytes lib signed))

-- the digest of the one payload an attempt id stands for
def Evidenced (signedTransaction : Option String) (attemptId : String) : Prop :=
  ∀ signed, signedTransaction = some signed → signed ∈ payloads ∧ ext.hexDigest signed = attemptId ∧
    validX402PreparedTransaction (preparedBytes lib signed) = true

-- an observed absence comes after a view had reported the blockhash invalid
def Doomed (expired : List String) (signedTransaction : Option String) (observed : Option Nat) :
    Prop :=
  observed ≠ none → ∀ signed, signedTransaction = some signed → blockhashOf lib net signed ∈ expired

structure Fenced (expired : List String) (a : PaymentAttempt) : Prop where
  evidence : Evidenced lib ext payloads a.signedTransactionBase64 a.attemptId
  doomed : Doomed lib net expired a.signedTransactionBase64 a.absenceObservedAt

-- A pass scans since a chain that, once absence was observed, holds every completion there will be.
structure Scanning (chain : Chain lib) (expired : List String) (pass : Pass) : Prop where
  evidence : Evidenced lib ext payloads pass.attempt.signedTransactionBase64 pass.attempt.attemptId
  doomed : Doomed lib net expired pass.attempt.signedTransactionBase64 pass.attempt.absenceObservedAt
  since : ∃ since ≤ chain, (pass.attempt.absenceObservedAt ≠ none →
      ∀ signed, pass.attempt.signedTransactionBase64 = some signed →
        ∀ tx ∈ chain, Completes (preparedBytes lib signed) tx.bytes → tx ∈ since) ∧
    ∀ view ∈ pass.views, view.scan.Yields (Answers lib net) (Sound net since pass.attempt) chain
  checked : ∀ view ∈ pass.views, view.blockhash = some (some false) →
    ∀ hash, pass.attempt.recentBlockhash = some hash → hash ∈ expired

def NeverPaid (chain : Chain lib) (a : PaymentAttempt) : Prop :=
  ∀ signed, a.signedTransactionBase64 = some signed →
    ∀ tx ∈ chain, tx.err.isNull = true → ¬Completes (preparedBytes lib signed) tx.bytes

structure Gone (chain : Chain lib) (expired : List String) (a : PaymentAttempt) : Prop where
  doomed : ∀ signed, a.signedTransactionBase64 = some signed → blockhashOf lib net signed ∈ expired
  unpaid : NeverPaid lib chain a

structure Invariant (w : World lib) : Prop where
  fences : ∀ k a, w.db.custody.fence k = some a → Fenced lib net ext payloads w.expired a
  passes : ∀ pass ∈ w.passes, Scanning lib net ext payloads w.chain w.expired pass
  released : ∀ a ∈ w.released, Gone lib net w.chain w.expired a

-- what a step may do to the chain: nothing lands by a blockhash already reported invalid
structure Grows (w w' : World lib) : Prop where
  chain : w.chain ≤ w'.chain
  expired : w.expired ⊆ w'.expired
  alive : ∀ tx ∈ w'.chain, tx ∈ w.chain ∨ net.blockhash (messageOf tx.bytes) ∉ w.expired

end Invariant

section Growth

variable {a : PaymentAttempt} {pass : Pass} {signed : String}

theorem Grows.same (hchain : w'.chain = w.chain) (hexpired : w'.expired = w.expired) :
    Grows lib net w w' :=
  ⟨hchain.ge, fun _ h => hexpired ▸ h, fun _ h => .inl (hchain ▸ h)⟩

theorem Grows.settled (h : Grows lib net w w') (hdoomed : blockhashOf lib net signed ∈ w.expired)
    {tx : ExactTransaction} (htx : tx ∈ w'.chain)
    (hcompletes : Completes (preparedBytes lib signed) tx.bytes) : tx ∈ w.chain := by
  rcases h.alive tx htx with hold | hfresh
  · exact hold
  · rw [hcompletes.message] at hfresh
    exact absurd hdoomed hfresh

theorem Fenced.grow (h : Fenced lib net ext payloads w.expired a) (hg : Grows lib net w w') :
    Fenced lib net ext payloads w'.expired a :=
  ⟨h.evidence, fun hobserved signed hsigned => hg.expired (h.doomed hobserved signed hsigned)⟩

theorem Scanning.grow (h : Scanning lib net ext payloads w.chain w.expired pass)
    (hg : Grows lib net w w') : Scanning lib net ext payloads w'.chain w'.expired pass := by
  obtain ⟨since, hsince, hknown, hscan⟩ := h.since
  refine ⟨h.evidence, ?_, ⟨since, hsince.trans hg.chain, ?_, ?_⟩, ?_⟩
  · exact fun hobserved signed hsigned => hg.expired (h.doomed hobserved signed hsigned)
  · intro hobserved signed hsigned tx htx hcompletes
    have hold := hg.settled (h.doomed hobserved signed hsigned) htx hcompletes
    exact hknown hobserved signed hsigned tx hold hcompletes
  · intro view hview
    exact (hscan view hview).grow (fun _ _ _ hct h => Sound.grow h hct) hg.chain
  · exact fun view hview hcheck hash hhash => hg.expired (h.checked view hview hcheck hash hhash)

theorem Gone.grow (h : Gone lib net w.chain w.expired a) (hg : Grows lib net w w') :
    Gone lib net w'.chain w'.expired a := by
  refine ⟨fun signed hsigned => hg.expired (h.doomed signed hsigned), ?_⟩
  intro signed hsigned tx htx hnull hcompletes
  have hold := hg.settled (h.doomed signed hsigned) htx hcompletes
  exact h.unpaid signed hsigned tx hold hnull hcompletes

end Growth

section Reading

variable {db : Database} {a : PaymentAttempt} {attempt : ReconciliationAttempt} {now limit : Nat}

theorem reconciliationOf_eq (h : reconciliationOf documentAsset db a = some attempt) :
    attempt.attemptId = a.attemptId ∧
      attempt.signedTransactionBase64 = a.signedTransactionBase64 ∧
      attempt.absenceObservedAt = a.absenceObservedAt := by
  simp only [reconciliationOf, Option.map_eq_some_iff] at h
  obtain ⟨quote, -, rfl⟩ := h
  exact ⟨rfl, rfl, rfl⟩

theorem read_row (h : attempt ∈ paymentAttemptReconciliations documentAsset db now limit) :
    ∃ k a, db.custody.fence k = some a ∧ reconciliationOf documentAsset db a = some attempt := by
  have hsorted := List.mem_of_mem_take h
  rw [List.mem_mergeSort, List.mem_filter, List.mem_filterMap] at hsorted
  obtain ⟨⟨a, ha, hrow⟩, -⟩ := hsorted
  exact ⟨a.key, a, Table.get?_of_mem ha, hrow⟩

theorem scanning_start (hlib : lib.Faithful net ext.encoding) (maxSignaturePages views : Nat)
    (h : attempt ∈ paymentAttemptReconciliations documentAsset w.db now limit)
    (hfences : ∀ k a, w.db.custody.fence k = some a → Fenced lib net ext payloads w.expired a) :
    Scanning lib net ext payloads w.chain w.expired
      (Pass.start lib attempt maxSignaturePages views) := by
  obtain ⟨k, a, ha, hrow⟩ := read_row h
  obtain ⟨hid, hsigned, hobserved⟩ := reconciliationOf_eq hrow
  have hfence := hfences k a ha
  have hevidence : Evidenced lib ext payloads attempt.signedTransactionBase64 attempt.attemptId := by
    rw [hid, hsigned]
    exact hfence.evidence
  refine ⟨hevidence, ?_, ⟨w.chain, le_rfl, fun _ _ _ _ htx _ => htx, ?_⟩, ?_⟩
  · simp only [Pass.start, hsigned, hobserved]
    exact hfence.doomed
  · intro view hview
    rw [List.eq_of_mem_replicate hview]
    exact scan_yields hlib attempt maxSignaturePages fun signed hs => (hevidence signed hs).2.2
  · intro view hview hcheck
    rw [List.eq_of_mem_replicate hview] at hcheck
    cases hcheck

end Reading

section Views

variable {pass : Pass} {view : View} {i j : Nat}

theorem mem_setView {v : View} (hv : v ∈ (pass.setView j view).views) : v ∈ pass.views ∨ v = view :=
  List.mem_or_eq_of_mem_set hv

theorem Scanning.setView (h : Scanning lib net ext payloads c expired pass)
    (hscan : ∀ since, (∀ v ∈ pass.views, v.scan.Yields (Answers lib net)
      (Sound net since pass.attempt) c) → view.scan.Yields (Answers lib net)
      (Sound net since pass.attempt) c)
    (hcheck : view.blockhash = some (some false) →
      ∀ hash, pass.attempt.recentBlockhash = some hash → hash ∈ expired) :
    Scanning lib net ext payloads c expired (pass.setView j view) := by
  obtain ⟨since, hsince, hknown, hviews⟩ := h.since
  refine ⟨h.evidence, h.doomed, ⟨since, hsince, hknown, ?_⟩, ?_⟩
  · intro v hv
    rcases mem_setView hv with hv | rfl
    · exact hviews v hv
    · exact hscan since hviews
  · intro v hv
    rcases mem_setView hv with hv | rfl
    · exact h.checked v hv
    · exact hcheck

theorem passes_set {passes : List Pass} {q : Pass}
    (h : ∀ p ∈ passes, Scanning lib net ext payloads c expired p)
    (hq : Scanning lib net ext payloads c expired q) :
    ∀ p ∈ passes.set i q, Scanning lib net ext payloads c expired p := by
  intro p hp
  rcases List.mem_or_eq_of_mem_set hp with hp | rfl
  · exact h p hp
  · exact hq

end Views

section Decisions

variable {pass : Pass} {a : PaymentAttempt}

theorem decided (h : pass.decision ≠ .defer) :
    (∃ result ∈ pass.scans, result = .absent ∨ ∃ signature, result = .failed signature) ∧
      ∃ view ∈ pass.views, view.blockhash = some (some false) := by
  have hguard : ¬(pass.scans.length < 2 ∨
      pass.scans.any ExactChainScanResult.unsafeToRelease = true ∨
      pass.blockhashViews.length ≠ pass.scans.length ∨
      pass.blockhashViews.any (fun view => decide (view ≠ some false)) = true) := fun hguard =>
    h (by rw [Pass.decision, exactAbsenceDecision, if_pos hguard])
  simp only [not_or, not_lt, ne_eq, not_not, Bool.not_eq_true, List.any_eq_false,
    decide_eq_true_eq] at hguard
  obtain ⟨htwo, hsafe, hlength, hviews⟩ := hguard
  constructor
  · obtain ⟨result, hresult⟩ := List.exists_mem_of_length_pos (show 0 < pass.scans.length by omega)
    refine ⟨result, hresult, ?_⟩
    have hnot := hsafe result hresult
    cases result with
    | absent => exact .inl rfl
    | failed signature => exact .inr ⟨signature, rfl⟩
    | settled signature => cases hnot
    | inconclusive => cases hnot
  · obtain ⟨value, hvalue⟩ :=
      List.exists_mem_of_length_pos (show 0 < pass.blockhashViews.length by omega)
    rw [hviews value hvalue, Pass.blockhashViews, List.mem_filterMap] at hvalue
    exact hvalue

theorem scan_sound {since : Chain lib} {result : ExactChainScanResult}
    (hviews : ∀ view ∈ pass.views, view.scan.Yields (Answers lib net)
      (Sound net since pass.attempt) c) (h : result ∈ pass.scans) :
    Sound net since pass.attempt c result := by
  obtain ⟨view, hview, hresult⟩ := List.mem_filterMap.mp h
  have hyields := hviews view hview
  unfold View.result? at hresult
  split at hresult
  · next value hdone =>
    rw [hdone] at hyields
    cases hresult
    exact hyields
  · cases hresult
    exact fun h => absurd rfl h
  · cases hresult

-- what a pass knows of its attempt when it does more than defer it
structure Expired (c : Chain lib) (expired : List String) (pass : Pass) (signed : String) : Prop where
  payload : pass.attempt.signedTransactionBase64 = some signed
  doomed : blockhashOf lib net signed ∈ expired
  unpaid : pass.attempt.absenceObservedAt ≠ none → ∀ tx ∈ c, tx.err.isNull = true →
    ¬Completes (preparedBytes lib signed) tx.bytes

theorem Scanning.concluded (h : Scanning lib net ext payloads c expired pass)
    (hdecision : pass.decision ≠ .defer) :
    ∃ signed, @Expired lib net c expired pass signed := by
  obtain ⟨⟨result, hresult, hkind⟩, view, hview, hcheck⟩ := decided hdecision
  obtain ⟨since, hsince, hknown, hviews⟩ := h.since
  have hconclusive : result ≠ .inconclusive := by
    rcases hkind with rfl | ⟨signature, rfl⟩
    · exact nofun
    · exact nofun
  obtain ⟨exact, hexact, hhash, htruth⟩ := scan_sound hviews hresult hconclusive
  obtain ⟨hsigned, hblockhash⟩ := evidence_eq hexact
  refine ⟨exact.signedTransactionBase64, hsigned, ?_, ?_⟩
  · have hold := h.checked view hview hcheck _ hblockhash
    rw [← hhash] at hold
    exact hold
  · intro hobserved tx htx hnull hcompletes
    rcases hkind with rfl | ⟨signature, rfl⟩
    · exact htruth tx (hknown hobserved _ hsigned tx htx hcompletes) hcompletes
    · obtain ⟨tx', htx', herr, hcompletes'⟩ := htruth
      have hsame := Chain.message_unique htx htx'
        (hcompletes.message.trans hcompletes'.message.symm)
      rw [← hsame, hnull] at herr
      cases herr

theorem Evidenced.same {signed : String} {attemptId : String} {other : Option String}
    (hinj : Set.InjOn ext.hexDigest payloads) (h : Evidenced lib ext payloads (some signed) attemptId)
    (h' : Evidenced lib ext payloads other attemptId) : ∀ s, other = some s → s = signed := by
  intro s hs
  obtain ⟨hmem, hdigest, -⟩ := h signed rfl
  obtain ⟨hmem', hdigest', -⟩ := h' s hs
  exact hinj hmem' hmem (hdigest'.trans hdigest.symm)

end Decisions

section Conclusions

variable {pass : Pass} {a : PaymentAttempt} {k : SettlementKind × String} {now : Nat}

theorem deferred_fence {observed : Bool}
    (ha : (accepted w.db (deferPaymentAttemptReconciliation w.db now
      (pass.request observed))).custody.fence k = some a) :
    w.db.custody.fence k = some a ∨ ∃ b, w.db.custody.fence k = some b ∧
      b.attemptId = pass.attempt.attemptId ∧ a.attemptId = b.attemptId ∧
      a.signedTransactionBase64 = b.signedTransactionBase64 ∧
      (observed = false → a.absenceObservedAt = b.absenceObservedAt) := by
  cases hdefer : deferPaymentAttemptReconciliation w.db now (pass.request observed) with
  | error error =>
    rw [hdefer] at ha
    exact .inl ha
  | ok result =>
    rw [hdefer] at ha
    simp only [deferPaymentAttemptReconciliation, bind_eq_ok, pure_eq_ok] at hdefer
    obtain ⟨kind, -, reconcileAfter, -, observedAt, -, -, -, rfl⟩ := hdefer
    have hget : (w.db.paymentAttempts.update (isAttempt kind (pass.request observed))
        (reschedule reconcileAfter observed observedAt)
        (reschedule_key reconcileAfter observed observedAt)).get? k = some a := ha
    rw [Table.get?_update, Option.map_eq_some_iff] at hget
    obtain ⟨b, hb, hrow⟩ := hget
    split at hrow
    · next hattempt =>
      subst hrow
      simp only [isAttempt, decide_eq_true_eq] at hattempt
      refine .inr ⟨b, hb, hattempt.2.2, rfl, rfl, ?_⟩
      rintro rfl
      rfl
    · exact .inl (hrow ▸ hb)

theorem removed_row {result : Database × Bool}
    (h : releaseReconciledPaymentAttempt w.db now (pass.request false) = .ok result)
    (ha : a ∈ w.db.paymentAttempts.rows) (hgone : a ∉ result.1.paymentAttempts.rows) :
    a.attemptId = pass.attempt.attemptId := by
  simp only [releaseReconciledPaymentAttempt, bind_eq_ok, pure_eq_ok] at h
  obtain ⟨kind, -, now', -, -, -, rfl⟩ := h
  by_contra hid
  apply hgone
  have hget : (w.db.paymentAttempts.delete fun a => isAttempt kind (pass.request false) a &&
      absenceConfirmed now' a).get? a.key = some a := by
    rw [Table.get?_delete, Table.get?_of_mem ha]
    simp [isAttempt, Pass.request, hid]
  exact Table.get?_mem hget

theorem released_fence
    (ha : (accepted w.db (releaseReconciledPaymentAttempt w.db now
      (pass.request false))).custody.fence k = some a) : w.db.custody.fence k = some a := by
  cases hrelease : releaseReconciledPaymentAttempt w.db now (pass.request false) with
  | error error =>
    rw [hrelease] at ha
    exact ha
  | ok result =>
    rw [hrelease] at ha
    obtain ⟨_, p, -, hp⟩ := releaseReconciled_cases (b := result.2) hrelease
    have hget : (w.db.paymentAttempts.delete p).get? k = some a := by
      rw [accepted, hp] at ha
      exact ha
    rw [Table.get?_delete, Option.filter_eq_some_iff] at hget
    exact hget.1

theorem conclude_fences (hinj : Set.InjOn ext.hexDigest payloads)
    (hinv : Invariant lib net ext payloads w)
    (hpass : Scanning lib net ext payloads w.chain w.expired pass)
    (ha : (w.conclude pass now).db.custody.fence k = some a) :
    Fenced lib net ext payloads w.expired a := by
  have hsame : ∀ {observed : Bool}, (observed = true → pass.decision ≠ .defer) →
      (accepted w.db (deferPaymentAttemptReconciliation w.db now
        (pass.request observed))).custody.fence k = some a →
      Fenced lib net ext payloads w.expired a := by
    intro observed hobserve ha
    rcases deferred_fence ha with hold | ⟨b, hb, hid, hkeep, hsigned, habsence⟩
    · exact hinv.fences k a hold
    · have hfence := hinv.fences k b hb
      refine ⟨by rw [hkeep, hsigned]; exact hfence.evidence, ?_⟩
      cases observed with
      | false =>
        rw [hsigned, habsence rfl]
        exact hfence.doomed
      | true =>
        obtain ⟨payload, hexpired⟩ := hpass.concluded (hobserve rfl)
        intro _ signed hs
        have hevidence := hpass.evidence
        have hfenced := hfence.evidence
        rw [hexpired.payload] at hevidence
        rw [hid] at hfenced
        rw [hevidence.same hinj hfenced signed (hsigned ▸ hs)]
        exact hexpired.doomed
  unfold World.conclude at ha
  split at ha
  · exact @hsame false nofun ha
  · next hobserve => exact @hsame true (fun _ => by simp [hobserve]) ha
  · exact hinv.fences k a (released_fence ha)

theorem conclude_released (hinj : Set.InjOn ext.hexDigest payloads)
    (hinv : Invariant lib net ext payloads w)
    (hpass : Scanning lib net ext payloads w.chain w.expired pass)
    (ha : a ∈ (w.conclude pass now).released) : Gone lib net w.chain w.expired a := by
  unfold World.conclude at ha
  split at ha
  · exact hinv.released a ha
  · exact hinv.released a ha
  · next hrelease =>
    rcases List.mem_append.mp ha with ha | ha
    · exact hinv.released a ha
    · simp only [List.mem_filter, decide_eq_true_eq] at ha
      obtain ⟨hrow, hgone⟩ := ha
      cases hresult : releaseReconciledPaymentAttempt w.db now (pass.request false) with
      | error error =>
        rw [hresult] at hgone
        exact absurd hrow hgone
      | ok result =>
        rw [hresult] at hgone
        have hid := removed_row hresult hrow hgone
        obtain ⟨payload, hexpired⟩ := hpass.concluded (by simp [hrelease])
        have hfenced := (hinv.fences a.key a (Table.get?_of_mem hrow)).evidence
        have hevidence := hpass.evidence
        rw [hexpired.payload] at hevidence
        rw [hid] at hfenced
        have hobserved : pass.attempt.absenceObservedAt ≠ none := by
          intro hnone
          rw [Pass.decision, hnone, exactAbsenceDecision] at hrelease
          split at hrelease
          · cases hrelease
          · simp at hrelease
        refine ⟨fun signed hs => ?_, fun signed hs => ?_⟩
        · rw [hevidence.same hinj hfenced signed hs]
          exact hexpired.doomed
        · rw [hevidence.same hinj hfenced signed hs]
          exact hexpired.unpaid hobserved

end Conclusions

section Runs

variable {e : Event}

theorem step_grows (h : Step net ext documentAsset payloads w e w') : Grows lib net w w' := by
  cases h with
  | store => exact .same rfl rfl
  | @land transaction chain hchain halive =>
    refine ⟨⟨[transaction], hchain.symm⟩, List.Subset.refl _, fun tx htx => ?_⟩
    have hmem : tx ∈ w.chain.transactions ++ [transaction] := hchain ▸ htx
    rcases List.mem_append.mp hmem with hold | hnew
    · exact .inl hold
    · rw [List.mem_singleton.mp hnew]
      exact .inr halive
  | read => exact .same rfl rfl
  | answer => exact .same rfl rfl
  | lose => exact .same rfl rfl
  | check =>
    refine ⟨le_rfl, fun hash hhash => ?_, fun _ htx => .inl htx⟩
    simp only
    split
    · exact List.mem_cons_of_mem _ hhash
    · exact hhash
  | @conclude i now pass =>
    have hconclude : (w.conclude pass now).chain = w.chain ∧
        (w.conclude pass now).expired = w.expired := by
      unfold World.conclude
      split <;> exact ⟨rfl, rfl⟩
    exact .same hconclude.1 hconclude.2

theorem step_invariant (hlib : lib.Faithful net ext.encoding)
    (hinj : Set.InjOn ext.hexDigest payloads) (hinv : Invariant lib net ext payloads w)
    (h : Step net ext documentAsset payloads w e w') : Invariant lib net ext payloads w' := by
  have hg := step_grows h
  have hpasses : ∀ pass ∈ w.passes, Scanning lib net ext payloads w'.chain w'.expired pass :=
    fun pass hpass => (hinv.passes pass hpass).grow hg
  have hreleased : ∀ a ∈ w.released, Gone lib net w'.chain w'.expired a :=
    fun a ha => (hinv.released a ha).grow hg
  cases h with
  | @store event db' hstep hout hsubmits =>
    refine ⟨fun k a ha => ?_, hpasses, hreleased⟩
    rcases step_fences hstep hout ha with hold | ⟨request, hrequest, hclaimed⟩
    · exact hinv.fences k a hold
    · obtain ⟨signed, bytes, hsigned, hdigest, hbytes, hvalid⟩ := hclaimed.prepared
      refine ⟨fun s hs => ?_, fun hobserved => absurd hclaimed.unobserved hobserved⟩
      obtain rfl := Option.some.inj (hsigned.symm.trans hs)
      refine ⟨hsubmits _ ?_, hdigest, ?_⟩
      · rw [hrequest, ← hclaimed.signed, hs]
      · rw [preparedBytes, hlib.buffer hbytes]
        exact hvalid
  | land => exact ⟨fun k a ha => (hinv.fences k a ha).grow hg, hpasses, hreleased⟩
  | read hread =>
    refine ⟨hinv.fences, fun pass hpass => ?_, hreleased⟩
    rcases List.mem_append.mp hpass with hpass | hpass
    · exact hpasses pass hpass
    · rw [List.mem_singleton.mp hpass]
      exact scanning_start hlib _ _ hread hinv.fences
  | @answer i j pass view request next reply hpass hview hask hreply =>
    have hscanning := hpasses pass (List.mem_of_getElem? hpass)
    have hmem := List.mem_of_getElem? hview
    refine ⟨hinv.fences, passes_set hpasses (hscanning.setView ?_ ?_), hreleased⟩
    · intro since hviews
      have hyields := hviews view hmem
      rw [hask] at hyields
      exact hyields.reply le_rfl hreply
    · exact hscanning.checked view hmem
  | @lose i j pass view request next hpass hview hask =>
    have hscanning := hpasses pass (List.mem_of_getElem? hpass)
    have hmem := List.mem_of_getElem? hview
    exact ⟨hinv.fences, passes_set hpasses (hscanning.setView (fun _ _ => trivial)
      (hscanning.checked view hmem)), hreleased⟩
  | @check i j pass view hash reply hpass hview hnone hhash =>
    have hscanning := hpasses pass (List.mem_of_getElem? hpass)
    have hmem := List.mem_of_getElem? hview
    refine ⟨fun k a ha => (hinv.fences k a ha).grow hg,
      passes_set hpasses (hscanning.setView (fun _ hviews => hviews view hmem) ?_), hreleased⟩
    intro hinvalid hash' hhash'
    obtain rfl := Option.some.inj (hhash.symm.trans hhash')
    simp only [Option.some.injEq] at hinvalid
    simp [hinvalid]
  | @conclude i now pass hpass hcomplete =>
    have hscanning := hinv.passes pass (List.mem_of_getElem? hpass)
    refine ⟨fun k a ha => ?_, fun p hp => hpasses p (List.mem_of_mem_eraseIdx hp), fun a ha => ?_⟩
    · exact (conclude_fences hinj hinv hscanning ha).grow hg
    · exact (conclude_released hinj hinv hscanning ha).grow hg

variable (lib net ext payloads)

-- No pass is under way and no absence observed; the fences hold what their claims submitted.
structure Started (w : World lib) : Prop where
  fences : ∀ k a, w.db.custody.fence k = some a →
    Evidenced lib ext payloads a.signedTransactionBase64 a.attemptId ∧ a.absenceObservedAt = none
  passes : w.passes = []
  released : w.released = []

variable {lib net ext payloads} {events : List Event}

theorem Started.invariant (h : Started lib ext payloads w) : Invariant lib net ext payloads w := by
  refine ⟨fun k a ha => ?_, by simp [h.passes], by simp [h.released]⟩
  obtain ⟨hevidence, hnone⟩ := h.fences k a ha
  exact ⟨hevidence, fun hobserved => absurd hnone hobserved⟩

theorem settlement_sound {pass : Pass} {signature : String}
    (h : Scanning lib net ext payloads c expired pass)
    (hsettled : exactSettlementSignature pass.scans = some signature) :
    ∃ signed, pass.attempt.signedTransactionBase64 = some signed ∧
      ∃ tx ∈ c, tx.err.isNull = true ∧ signatureOf lib tx = signature ∧
        Completes (preparedBytes lib signed) tx.bytes := by
  have hscan : ExactChainScanResult.settled signature ∈ pass.scans := by
    unfold exactSettlementSignature at hsettled
    split at hsettled
    · cases hsettled
    · split at hsettled
      · cases hsettled
      · next found hfound =>
        simp only [Option.ite_none_right_eq_some, Option.some.injEq] at hsettled
        obtain ⟨⟨-, hall⟩, rfl⟩ := hsettled
        obtain ⟨result, hhead, -⟩ := Option.bind_eq_some_iff.mp hfound
        have hmem := List.mem_of_head? hhead
        have heq := List.all_eq_true.mp hall result hmem
        rw [decide_eq_true_eq] at heq
        exact heq ▸ hmem
  obtain ⟨since, -, -, hviews⟩ := h.since
  obtain ⟨exact, hexact, -, htruth⟩ := scan_sound hviews hscan nofun
  exact ⟨_, (evidence_eq hexact).1, htruth⟩

theorem released_never_paid (hlib : lib.Faithful net ext.encoding)
    (hinj : Set.InjOn ext.hexDigest payloads) (h0 : Started lib ext payloads w)
    (h : Run net ext documentAsset payloads w events w') :
    (∀ a ∈ w'.released, NeverPaid lib w'.chain a) ∧
      ∀ pass ∈ w'.passes, ∀ signature, exactSettlementSignature pass.scans = some signature →
        ∃ signed, pass.attempt.signedTransactionBase64 = some signed ∧
          ∃ tx ∈ w'.chain, tx.err.isNull = true ∧ signatureOf lib tx = signature ∧
            Completes (preparedBytes lib signed) tx.bytes := by
  have hinv : Invariant lib net ext payloads w' :=
    h.invariant h0.invariant fun _ _ _ hinv hstep => step_invariant hlib hinj hinv hstep
  exact ⟨fun a ha => (hinv.released a ha).unpaid,
    fun pass hpass _ hsettled => settlement_sound (hinv.passes pass hpass) hsettled⟩

section Sample

def absentView : View where
  scan := .done .absent
  blockhash := some (some false)

def absentPass (attempt : ReconciliationAttempt) : Pass where
  attempt := attempt
  views := [absentView, absentView]

def absentEvents (attempt : ReconciliationAttempt) (reply answer : Json) (now later : Nat) :
    List Event :=
  [.read now 100 attempt 1 2, .answer 0 0 reply, .check 0 0 (some answer), .answer 0 1 reply,
    .check 0 1 (some answer), .conclude 0 later]

def absentAfter (w : World lib) (attempt : ReconciliationAttempt) (hash : String) (later : Nat) :
    World lib :=
  { World.conclude
      { w with expired := hash :: hash :: w.expired, passes := [absentPass attempt] }
      (absentPass attempt) later with
    passes := [] }

variable {attempt : ReconciliationAttempt} {request : RpcRequest} {reply answer : Json}
  {next : Json → Scan ExactChainScanResult} {hash : String} {now later : Nat}

-- one pass in which two views list nothing of the attempt and call its blockhash invalid
theorem absent_pass (hpasses : w.passes = [])
    (hread : attempt ∈ paymentAttemptReconciliations documentAsset w.db now 100)
    (hscan : scanExactFinalizedChainAttempt lib attempt 1 = .ask request next)
    (hreply : Answers lib net w.chain request reply) (hnext : next reply = .done .absent)
    (hhash : attempt.recentBlockhash = some hash) (hinvalid : blockhashView answer = some false) :
    Run net ext documentAsset payloads w (absentEvents attempt reply answer now later)
      (absentAfter w attempt hash later) := by
  obtain ⟨db, chain, expired, passes, released⟩ := w
  cases hpasses
  have hstart : Pass.start lib attempt 1 2 =
      ⟨attempt, [⟨.ask request next, none⟩, ⟨.ask request next, none⟩]⟩ := by
    rw [Pass.start, hscan]
    rfl
  refine Trace.cons_iff.mpr ⟨_, .read hread, ?_⟩
  rw [hstart]
  refine Trace.cons_iff.mpr ⟨_, .answer rfl rfl rfl hreply, ?_⟩
  refine Trace.cons_iff.mpr ⟨_, .check rfl rfl rfl hhash, ?_⟩
  refine Trace.cons_iff.mpr ⟨_, .answer rfl rfl rfl hreply, ?_⟩
  refine Trace.cons_iff.mpr ⟨_, .check rfl rfl rfl hhash, ?_⟩
  rw [hnext, Option.bind_some, hinvalid]
  exact Trace.single_iff.mpr (.conclude rfl rfl)

def absentQuote : PaymentQuote where
  id := "q1"
  queryId := "query_1"
  documentId := "document_1"
  documentHandle := "handle_1"
  payTo := paidSeller
  network := "solana:devnet"
  amountAtomic := 14815
  priceKrw := 20
  expiresAt := 1760000900000
  status := .quoted
  paymentRail := some .x402
  settledAt := none
  deliveredAt := none

def absentStart : Database :=
  { sampleStart with
    paymentQuotes := ⟨[absentQuote], by simp⟩, bundleQuotes := .empty, bundleDocuments := .empty }

def absentClaim : ClaimPaymentAttemptRequest where
  settlementKind := "document"
  quoteId := "q1"
  attemptId := paidAttempt.attemptId
  payer := some paidPayer
  signedTransactionBase64 := some (encodeBase64 paidPrepared)
  recentBlockhash := some paidBlockhash
  absenceObserved := false

def absentExternals : Externals where
  encoding := .standard
  hexDigest text := if text = encodeBase64 paidPrepared then paidAttempt.attemptId else ""

def absentRow (reconcileAfter : Nat) (observed : Option Nat) : PaymentAttempt where
  settlementKind := .document
  quoteId := "q1"
  attemptId := paidAttempt.attemptId
  payerWallet := some paidPayer
  signedTransactionBase64 := some (encodeBase64 paidPrepared)
  recentBlockhash := some paidBlockhash
  absenceObservedAt := observed
  legacyEvidence := false
  reconcileAfter := reconcileAfter
  createdAt := 1760000000000

def absentFenced (reconcileAfter : Nat) (observed : Option Nat) : Database :=
  { absentStart with paymentAttempts := ⟨[absentRow reconcileAfter observed], by simp⟩ }

theorem absent_texts : validSolanaAddress .standard paidPayer = true ∧
    validSolanaAddress .standard paidBlockhash = true ∧
    validatePaymentAttemptIdentity absentClaim = .ok .document ∧
    (base64Chars paidPrepared).all (fun c => !isWhiteSpace c) = true ∧
    (100 ≤ paidPrepared.length ∧ paidPrepared.length ≤ 2048) ∧
    validX402PreparedTransaction paidPrepared = true := by
  decide +kernel

theorem absentClaim_valid : validatePaymentAttemptRequest absentExternals absentClaim = .ok .document := by
  obtain ⟨hpayer, hblockhash, hidentity, htrim, hsize, hvalid⟩ := absent_texts
  have htrimmed : trim (encodeBase64 paidPrepared) = encodeBase64 paidPrepared := trim_ofList htrim
  have hread : Encoding.standard.base64Decode (encodeBase64 paidPrepared) = some paidPrepared := by
    simp [Encoding.standard, encodeBase64, base64Groups_chars]
  have hdigest : absentExternals.hexDigest (encodeBase64 paidPrepared) = absentClaim.attemptId := by
    simp only [absentExternals, absentClaim, if_true]
  exact validatePaymentAttemptRequest_ok hidentity rfl hpayer hblockhash htrimmed hread hsize hdigest
    hvalid

theorem absent_quoteId : trim "q1" = "q1" := trim_ofList (by decide)

theorem absent_quoted : payableQuote absentStart .document "q1" =
    .ok ⟨true, 1760000900000, some ("query_1", "handle_1", some .x402)⟩ := rfl

theorem absent_inserted : insertAttempt absentStart (absentRow 1760000060000 none) =
    .ok (some (absentFenced 1760000060000 none).paymentAttempts) := by
  have hpayer : paidPayer ≠ "" := by decide
  have hblockhash : paidBlockhash ≠ "" := by decide
  have htext : encodeBase64 paidPrepared ≠ "" := by
    rw [encodeBase64, Ne, String.ofList_eq_empty_iff]
    exact paid_checks.1.2
  simp only [insertAttempt, absentRow, Option.getD_some, hpayer, hblockhash, htext, or_false,
    Bool.false_eq_true]
  rfl

theorem absent_claimed : ∃ fence,
    claimPaymentAttempt absentStart absentExternals 1760000000000 absentClaim =
      .ok (absentFenced 1760000060000 none, fence) := by
  have hid : trim absentClaim.quoteId = "q1" := absent_quoteId
  have hunclaimed : matchingChainPaymentAttempt absentStart .document absentClaim = .ok none := rfl
  have hunreserved : requireUnreservedDocument absentStart (some ("query_1", "handle_1", some .x402)) =
      .ok () := rfl
  simp only [claimPaymentAttempt, absentClaim_valid, ok_bind, hid, absent_quoted, hunclaimed,
    claimOrMatch, openAttempt, hunreserved]
  rw [show saturatingAdd 1760000000000 paymentAttemptReconcileAfterMs = 1760000060000 from rfl]
  have hrow : absentRow 1760000060000 none = ⟨.document, "q1", absentClaim.attemptId, absentClaim.payer,
    absentClaim.signedTransactionBase64, absentClaim.recentBlockhash, none, false, 1760000060000,
    1760000000000⟩ := rfl
  rw [← hrow, absent_inserted]
  exact ⟨_, rfl⟩

variable {observed : Option Nat} {reconcileAfter : Nat}

def absentAttempt (reconcileAfter : Nat) (observed : Option Nat) : ReconciliationAttempt :=
  { paidAttempt with reconcileAfter := reconcileAfter, absenceObservedAt := observed }

theorem absent_row : reconciliationOf (fun _ => paidAsset) (absentFenced reconcileAfter observed)
    (absentRow reconcileAfter observed) = some (absentAttempt reconcileAfter observed) := by
  have hquoted : quoteTerms (fun _ => paidAsset) (absentFenced reconcileAfter observed)
      (absentRow reconcileAfter observed).quoteId .document =
      some ⟨paidSeller, "solana:devnet", paidAsset, 14815⟩ := rfl
  have hamount : toString 14815 = "14815" := by decide
  have hkind : (absentRow reconcileAfter observed).settlementKind = .document := rfl
  rw [reconciliationOf, hkind, hquoted, Option.map_some, hamount]
  rfl

theorem absent_due (h : reconcileAfter ≤ now) : absentAttempt reconcileAfter observed ∈
    paymentAttemptReconciliations (fun _ => paidAsset) (absentFenced reconcileAfter observed) now 100 := by
  have hrows : (absentFenced reconcileAfter observed).paymentAttempts.rows =
      [absentRow reconcileAfter observed] := rfl
  have hnow : (absentAttempt reconcileAfter observed).reconcileAfter ≤ now := h
  simp [paymentAttemptReconciliations, hrows, absent_row, hnow]

theorem absent_scan : ∃ next, scanExactFinalizedChainAttempt paidLibraries
    (absentAttempt reconcileAfter observed) 1 =
      .ask (.getSignaturesForAddress paidPayer 1000 none) next ∧ next (.array []) = .done .absent := by
  obtain ⟨evidence, hevidence, hchecked⟩ := paid_scannable.prepared
  have hexact : (absentAttempt reconcileAfter observed).evidence? = some paidEvidence :=
    paid_evidence "14815"
  have hscannable : preparedIsScannable paidLibraries (absentAttempt reconcileAfter observed)
      (paidLibraries.bufferFromBase64 paidEvidence.signedTransactionBase64) paidEvidence.payer
      paidEvidence.recentBlockhash evidence = true := hchecked
  have hunsigned : fullySignedTransactionSignature paidLibraries paidPrepared = none := by decide +kernel
  rw [scanExactFinalizedChainAttempt, hexact]
  dsimp only
  rw [if_neg (by decide), if_neg (by rw [paid_scannable.envelope]; decide), hevidence]
  dsimp only
  rw [if_pos hscannable, paidEvidence, paid_buffer, scanPrepared, hunsigned, ite_self]
  exact ⟨_, rfl, rfl⟩

def otherFinalized : ExactTransaction where
  bytes := 1 :: List.replicate 64 9 ++ [5]
  err := .null

theorem other_signed : FullySigned otherFinalized.bytes := by
  refine ⟨1, 1, by decide, ?_⟩
  decide

def absentChain : Chain paidLibraries where
  transactions := [otherFinalized]
  signed := by simpa using other_signed
  signatures := List.nodup_singleton _
  messages := List.nodup_singleton _

def absentWorld (db : Database) (expired : List String) (released : List PaymentAttempt) :
    World paidLibraries where
  db := db
  chain := absentChain
  expired := expired
  passes := []
  released := released

theorem absent_page : Answers paidLibraries paidNetwork absentChain
    (.getSignaturesForAddress paidPayer 1000 none) (.array []) := by
  rintro infos ⟨⟩
  have hunmentioned : Chain.mentions paidNetwork otherFinalized paidPayer = false := by decide
  simp [Chain.page, Chain.history, absentChain, hunmentioned, older]

abbrev AbsentRun := @Run paidLibraries paidNetwork absentExternals (fun _ => paidAsset)
  {encodeBase64 paidPrepared}

def absentAnswer : Json := .object [("value", .bool false)]

theorem absent_observed : AbsentRun (absentWorld (absentFenced 1760000060000 none) [] [])
    (absentEvents (absentAttempt 1760000060000 none) (.array []) absentAnswer 1760000100000 1760000100000)
    (absentWorld (absentFenced 1760000400000 (some 1760000100000)) [paidBlockhash, paidBlockhash] []) := by
  obtain ⟨next, hscan, hnext⟩ := @absent_scan none 1760000060000
  exact absent_pass rfl (absent_due (by decide)) hscan absent_page hnext rfl rfl

theorem absent_forgotten : AbsentRun
    (absentWorld (absentFenced 1760000400000 (some 1760000100000)) [paidBlockhash, paidBlockhash] [])
    (absentEvents (absentAttempt 1760000400000 (some 1760000100000)) (.array []) absentAnswer 1760000400000
      1760000400000)
    (absentWorld absentStart (List.replicate 4 paidBlockhash)
      [absentRow 1760000400000 (some 1760000100000)]) := by
  obtain ⟨next, hscan, hnext⟩ := @absent_scan (some 1760000100000) 1760000400000
  exact absent_pass rfl (absent_due (by decide)) hscan absent_page hnext rfl rfl

theorem released_never_paid_sample : ∃ events, ∃ w : World paidLibraries,
    AbsentRun (absentWorld absentStart [] []) events w ∧
      w.released = [absentRow 1760000400000 (some 1760000100000)] ∧ otherFinalized ∈ w.chain ∧
      ∀ a ∈ w.released, NeverPaid paidLibraries w.chain a := by
  obtain ⟨fence, hclaim⟩ := absent_claimed
  have hclaimed : Step paidNetwork absentExternals (fun _ => paidAsset) {encodeBase64 paidPrepared}
      (absentWorld absentStart [] []) (.store (.accepted 1760000000000 sampleIds (.claim absentClaim)))
      (absentWorld (absentFenced 1760000060000 none) [] []) := by
    have hexec : execute absentExternals absentStart sampleIds 1760000000000 (.claim absentClaim) =
        .ok (absentFenced 1760000060000 none) := by
      rw [execute, hclaim]
      rfl
    exact .store (.accepted hexec) id fun signed hsigned => (Option.some.inj hsigned).symm
  have run := Trace.append_iff.mpr ⟨_, Trace.single_iff.mpr hclaimed,
    Trace.append_iff.mpr ⟨_, absent_observed, absent_forgotten⟩⟩
  have hstarted : Started paidLibraries absentExternals {encodeBase64 paidPrepared}
      (absentWorld absentStart [] []) := by
    refine ⟨?_, rfl, rfl⟩
    rintro _ _ ⟨⟩
  exact ⟨_, _, run, rfl, List.mem_singleton_self _, (released_never_paid paidLibraries_faithful
    (Set.injOn_singleton _ _) hstarted run).1⟩

end Sample

end Runs

end Obulus.Gateway
