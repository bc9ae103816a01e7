import Obulus.Foundation.Trace
import Obulus.Generation.Fence

namespace Obulus.Generation

open Foundation Store

-- a claim that was acquired, as its caller named it
structure Claimed where
  artifactKind : String
  scopeId : String
  inputHash : String
  windowStartedAt : Nat
  deriving DecidableEq, Repr

inductive Op
  | claim (artifactKind scopeId inputHash : String) (documentHandles : List String)
  | complete (artifactKind scopeId inputHash : String) (windowStartedAt : Nat)
    (responseJson : Option String)
  | fail (artifactKind scopeId inputHash : String) (windowStartedAt : Nat)
  | release (artifactKind scopeId inputHash : String) (windowStartedAt : Nat)
  | elsewhere (documents : Table SourceDocument.id) (recoveryHolds : List Payout.RecoveryHold)

structure Event where
  now : Nat
  op : Op

-- `held` keeps the acquired claims that were not released
structure World where
  db : Database
  held : List Claimed

variable {sha : Sha256Hex} {db db' : Database} {w w' w₀ : World} {e : Event} {events : List Event}
  {artifactKind scopeId inputHash fence : String} {documentHandles : List String}
  {now window limit : Nat} {result : AiGenerationClaim} {c : Claimed} {intent : ModelCallAuditIntent}

section System

def hold (artifactKind scopeId inputHash : String) (held : List Claimed) :
    AiGenerationClaim → List Claimed
  | .acquired window => held ++ [⟨artifactKind, scopeId, inputHash, window⟩]
  | _ => held

def Claimed.named (artifactKind scopeId inputHash : String) (windowStartedAt : Nat) (c : Claimed) :
    Bool :=
  decide (c.artifactKind = artifactKind ∧ trim c.scopeId = trim scopeId ∧
    trim c.inputHash = trim inputHash ∧ c.windowStartedAt = windowStartedAt)

def execute (w : World) (e : Event) : Except StoreError World :=
  match e.op with
  | .claim artifactKind scopeId inputHash documentHandles => do
    let (result, db) ← claimAiGeneration w.db e.now artifactKind scopeId inputHash documentHandles
    return ⟨db, hold artifactKind scopeId inputHash w.held result⟩
  | .complete artifactKind scopeId inputHash windowStartedAt responseJson => do
    let db ← completeAiGeneration w.db e.now artifactKind scopeId inputHash windowStartedAt responseJson
    return ⟨db, w.held⟩
  | .fail artifactKind scopeId inputHash windowStartedAt => do
    let db ← failAiGeneration w.db e.now artifactKind scopeId inputHash windowStartedAt
    return ⟨db, w.held⟩
  | .release artifactKind scopeId inputHash windowStartedAt => do
    let db ← releaseAiGenerationBeforeProvider w.db artifactKind scopeId inputHash windowStartedAt
    return ⟨db, w.held.filter fun c => !c.named artifactKind scopeId inputHash windowStartedAt⟩
  | .elsewhere documents recoveryHolds =>
    .ok ⟨{ w.db with documents := documents, recoveryHolds := recoveryHolds }, w.held⟩

inductive Step : World → Event → World → Prop
  | ok {w w' : World} {e : Event} : execute w e = .ok w' → Step w e w'
  | failed {w : World} {e : Event} {error : StoreError} : execute w e = .error error → Step w e w

end System

section Identities

abbrev Identity := String × String × String × Nat

def Attempt.identity (a : Attempt) : Identity :=
  (a.artifactKind, a.scopeId, a.inputHash, a.windowStartedAt)

def Database.identities (db : Database) : List Identity := db.attempts.rows.map Attempt.identity

theorem spendBudget_attempts (h : spendBudget db artifactKind scopeId window limit = some db') :
    db'.attempts = db.attempts := by
  simp only [spendBudget, Option.ite_none_right_eq_some, Option.some.injEq] at h
  obtain ⟨-, rfl⟩ := h
  rfl

theorem spendBudget_left (h : spendBudget db artifactKind scopeId window limit = some db') :
    ∀ b, db.budgets.get? (artifactKind, scopeId, window) = some b → b.attemptsUsed < limit := by
  intro b hb
  simp only [spendBudget, hb, Option.isSome_some, if_true, Option.any_some, decide_eq_true_eq,
    Option.ite_none_right_eq_some] at h
  exact h.1

theorem insertDocuments_attempts {documents : List (String × String)}
    (h : documents.foldlM (insertGenerationDocument scopeId inputHash) db = .ok db') :
    db'.attempts = db.attempts := by
  induction documents generalizing db with
  | nil =>
    cases h
    rfl
  | cons document documents ih =>
    simp only [List.foldlM_cons, bind_eq_ok, insertGenerationDocument, orReject_eq_ok,
      pure_eq_ok] at h
    obtain ⟨_, ⟨rows, -, rfl⟩, h⟩ := h
    have hsame := ih h
    exact hsame

-- what the checks of a claim that is acquired have found
structure Grantable (db : Database) (now : Nat) (artifactKind scopeId inputHash : String)
    (documentHandles : List String) : Prop where
  identity : checkIdentity artifactKind (trim scopeId) (trim inputHash) documentHandles = .ok ()
  documents : ∃ documents, generationDocumentsOf db artifactKind documentHandles = .ok documents
  fresh : db.attempts.get? (artifactKind, trim scopeId, trim inputHash) = none
  free : db.blocked = false
  budget : ∃ limit, aiGenerationAttemptLimit artifactKind = some limit ∧
    ∀ b, db.budgets.get? (artifactKind, trim scopeId, windowOf now) = some b → b.attemptsUsed < limit

theorem claim_cases
    (h : claimAiGeneration db now artifactKind scopeId inputHash documentHandles = .ok (result, db')) :
    (db'.attempts = db.attempts ∧ ∀ window, result ≠ .acquired window) ∨
      (Grantable db now artifactKind scopeId inputHash documentHandles ∧ windowOf now ≤ i64Max ∧
        result = .acquired (windowOf now) ∧
        db'.attempts.rows = db.attempts.rows ++
          [newAttempt now artifactKind (trim scopeId) (trim inputHash)]) := by
  have hexisting : ∀ claim, existingClaim db artifactKind (trim scopeId) (trim inputHash) = some claim →
      ∀ window, claim ≠ .acquired window := by
    intro claim hclaim window
    obtain ⟨a, -, rfl⟩ := Option.map_eq_some_iff.mp hclaim
    intro heq
    split at heq <;> cases heq
  simp only [claimAiGeneration, supportedLimit, bind_eq_ok, orReject_eq_ok] at h
  obtain ⟨limit, hlimit, _, hidentity, documents, hdocuments, h⟩ := h
  split at h
  · next hclaim =>
    cases h
    exact .inl ⟨rfl, hexisting _ hclaim⟩
  · simp only [startAttempt, bind_eq_ok, reject_eq_ok, exists_const, asI64_eq_ok,
      Bool.not_eq_true] at h
    obtain ⟨hfree, _, ⟨hwindow, rfl⟩, _, ⟨-, rfl⟩, h⟩ := h
    split at h
    · simp only [bind_eq_ok, orReject_eq_ok, pure_eq_ok, Prod.mk.injEq] at h
      obtain ⟨_, hclaim, rfl, rfl⟩ := h
      exact .inl ⟨rfl, hexisting _ hclaim⟩
    · next attempts hinsert =>
      obtain ⟨hfresh, hrows⟩ := Table.insert?_eq_some.mp hinsert
      split at h
      · cases h
        refine .inl ⟨rfl, ?_⟩
        intro window heq
        cases heq
      · next spent hspent =>
        simp only [bind_eq_ok, pure_eq_ok, Prod.mk.injEq] at h
        obtain ⟨_, hinserted, rfl, rfl⟩ := h
        have hleft := spendBudget_left hspent
        refine .inr ⟨⟨hidentity, ⟨documents, hdocuments⟩, hfresh, hfree, limit, hlimit, hleft⟩,
          hwindow, rfl, ?_⟩
        rw [insertDocuments_attempts hinserted, spendBudget_attempts hspent]
        exact hrows

theorem finish_identities {status : AttemptStatus} {response : Option String → Option String}
    {completedAt : Nat} :
    (finishAttempts db artifactKind scopeId inputHash window status response completedAt).identities =
      db.identities :=
  Table.map_key_update db.attempts.rows _ fun _ => rfl

theorem complete_identities {response : Option String}
    (h : completeAiGeneration db now artifactKind scopeId inputHash window response = .ok db') :
    db'.identities = db.identities := by
  simp only [completeAiGeneration, bind_eq_ok, reject_eq_ok, exists_const, pure_eq_ok] at h
  obtain ⟨_, -, -, -, -, _, -, _, -, -, rfl⟩ := h
  exact finish_identities

theorem fail_identities
    (h : failAiGeneration db now artifactKind scopeId inputHash window = .ok db') :
    db'.identities = db.identities := by
  simp only [failAiGeneration, bind_eq_ok, pure_eq_ok] at h
  obtain ⟨_, -, _, -, _, -, rfl⟩ := h
  exact finish_identities

theorem release_identities
    (h : releaseAiGenerationBeforeProvider db artifactKind scopeId inputHash window = .ok db') :
    db'.identities.Sublist db.identities ∧ ∀ i ∈ db.identities,
      i ≠ (artifactKind, trim scopeId, trim inputHash, window) → i ∈ db'.identities := by
  simp only [releaseAiGenerationBeforeProvider, bind_eq_ok, reject_eq_ok, exists_const, asI64_eq_ok,
    pure_eq_ok] at h
  obtain ⟨_, -, -, time, ⟨-, htime⟩, -, -, rfl⟩ := h
  obtain rfl := htime.symm
  refine ⟨List.filter_sublist.map _, fun i hi hother => ?_⟩
  obtain ⟨a, ha, rfl⟩ := List.mem_map.mp hi
  have hinactive : a.activeAt artifactKind scopeId inputHash window = false := by
    refine decide_eq_false ?_
    rintro ⟨hkey, hwindow, -⟩
    simp only [Attempt.key, Prod.mk.injEq] at hkey
    obtain ⟨hkind, hscope, hinput⟩ := hkey
    exact hother (by rw [Attempt.identity, hkind, hscope, hinput, hwindow])
  exact List.mem_map_of_mem (List.mem_filter.mpr ⟨ha, by simp [hinactive]⟩)

end Identities

section Runs

-- a granted claim names its scope without blanks around it, and is the first of its input and window
def Fits (w : World) (e : Event) : Prop :=
  match e.op with
  | .claim artifactKind scopeId inputHash documentHandles =>
    Grantable w.db e.now artifactKind scopeId inputHash documentHandles →
      trim scopeId = scopeId ∧
        ∀ scope, (artifactKind, scope, trim inputHash, windowOf e.now) ∉ w.db.identities
  | _ => True

def Claimed.at (c : Claimed) (scope : String) : Identity :=
  (c.artifactKind, scope, trim c.inputHash, c.windowStartedAt)

structure Swept (w : World) : Prop where
  stored : ∀ c ∈ w.held, c.at c.scopeId ∈ w.db.identities
  alone : ∀ c ∈ w.held, ∀ scope, c.at scope ∈ w.db.identities → scope = c.scopeId
  bounded : ∀ c ∈ w.held, c.windowStartedAt ≤ i64Max

theorem Swept.frame (h : Swept w) (hids : db'.identities = w.db.identities) : Swept ⟨db', w.held⟩ :=
  ⟨fun c hc => hids ▸ h.stored c hc, fun c hc scope hscope => h.alone c hc scope (hids ▸ hscope),
    h.bounded⟩

theorem claim_swept (h : Swept w)
    (hclaim : claimAiGeneration w.db now artifactKind scopeId inputHash documentHandles =
      .ok (result, db'))
    (hfits : Fits w ⟨now, .claim artifactKind scopeId inputHash documentHandles⟩) :
    Swept ⟨db', hold artifactKind scopeId inputHash w.held result⟩ := by
  rcases claim_cases hclaim with ⟨hsame, hnot⟩ | ⟨hgrantable, hwindow, rfl, hrows⟩
  · have hheld : hold artifactKind scopeId inputHash w.held result = w.held := by
      cases result with
      | acquired window => exact absurd rfl (hnot window)
      | cached response => rfl
      | suppressed => rfl
    rw [hheld]
    exact h.frame (by rw [Database.identities, hsame, Database.identities])
  · obtain ⟨htrim, hfirst⟩ := hfits hgrantable
    have hids : db'.identities = w.db.identities ++
        [(artifactKind, scopeId, trim inputHash, windowOf now)] := by
      rw [Database.identities, hrows, List.map_append, htrim]
      rfl
    refine ⟨fun c hc => ?_, fun c hc scope hscope => ?_, fun c hc => ?_⟩
    · rw [hids]
      rcases List.mem_append.mp hc with hc | hc
      · exact List.mem_append_left _ (h.stored c hc)
      · obtain rfl := List.mem_singleton.mp hc
        exact List.mem_append_right _ (List.mem_singleton_self _)
    · rw [hids] at hscope
      rcases List.mem_append.mp hc with hc | hc
      · rcases List.mem_append.mp hscope with hscope | hscope
        · exact h.alone c hc scope hscope
        -- the new row has the input and window of an older one
        · simp only [Claimed.at, List.mem_singleton, Prod.mk.injEq] at hscope
          obtain ⟨hkind, -, hinput, hwindow'⟩ := hscope
          have hold := h.stored c hc
          rw [Claimed.at, hkind, hinput, hwindow'] at hold
          exact absurd hold (hfirst c.scopeId)
      · obtain rfl := List.mem_singleton.mp hc
        rcases List.mem_append.mp hscope with hscope | hscope
        · exact absurd hscope (hfirst scope)
        · simp only [Claimed.at, List.mem_singleton, Prod.mk.injEq] at hscope
          exact hscope.2.1
    · rcases List.mem_append.mp hc with hc | hc
      · exact h.bounded c hc
      · obtain rfl := List.mem_singleton.mp hc
        exact hwindow

theorem release_swept (h : Swept w)
    (hrelease : releaseAiGenerationBeforeProvider w.db artifactKind scopeId inputHash window = .ok db') :
    Swept ⟨db', w.held.filter fun c => !c.named artifactKind scopeId inputHash window⟩ := by
  obtain ⟨hsub, hkept⟩ := release_identities hrelease
  refine ⟨fun c hc => ?_, fun c hc scope hscope => ?_, fun c hc => ?_⟩
  all_goals obtain ⟨hc, hnamed⟩ := List.mem_filter.mp hc
  · refine hkept _ (h.stored c hc) fun heq => ?_
    simp only [Claimed.at, Prod.mk.injEq] at heq
    obtain ⟨hkind, hscope, hinput, hwindow⟩ := heq
    rw [Bool.not_eq_true', Claimed.named, decide_eq_false_iff_not] at hnamed
    exact hnamed ⟨hkind, by rw [hscope, trim_trim], hinput, hwindow⟩
  · exact h.alone c hc scope (hsub.subset hscope)
  · exact h.bounded c hc

theorem step_swept (h : Swept w) (hstep : Step w e w') (hfits : Fits w e) : Swept w' := by
  cases hstep with
  | failed _ => exact h
  | ok hexecute =>
    obtain ⟨now, op⟩ := e
    cases op with
    | claim artifactKind scopeId inputHash documentHandles =>
      simp only [execute, bind_eq_ok, pure_eq_ok] at hexecute
      obtain ⟨⟨result, db⟩, hclaim, rfl⟩ := hexecute
      exact claim_swept h hclaim hfits
    | complete artifactKind scopeId inputHash window response =>
      simp only [execute, bind_eq_ok, pure_eq_ok] at hexecute
      obtain ⟨db, hcomplete, rfl⟩ := hexecute
      exact h.frame (complete_identities hcomplete)
    | fail artifactKind scopeId inputHash window =>
      simp only [execute, bind_eq_ok, pure_eq_ok] at hexecute
      obtain ⟨db, hfail, rfl⟩ := hexecute
      exact h.frame (fail_identities hfail)
    | release artifactKind scopeId inputHash window =>
      simp only [execute, bind_eq_ok, pure_eq_ok] at hexecute
      obtain ⟨db, hrelease, rfl⟩ := hexecute
      exact release_swept h hrelease
    | elsewhere documents recoveryHolds =>
      cases hexecute
      exact h.frame rfl

end Runs

section Verdicts

def Inspects (sha : Sha256Hex) (db : Database) (intent : ModelCallAuditIntent)
    (verdict : Except RollbackSweepError RollbackCoverage) : Prop :=
  ∃ row, Reads db intent row ∧ inspectModelCall sha intent row = verdict

-- no intent written for a claim still held raises an alarm
def NoFalseAlarm (sha : Sha256Hex) (w : World) : Prop :=
  ∀ c ∈ w.held, ∀ fence intent, ModelCallAuditIntent.new sha c.artifactKind c.scopeId c.inputHash
    c.windowStartedAt fence = .ok intent → ∀ verdict, Inspects sha w.db intent verdict →
      verdict = .ok (.covered "model generation attempt")

def CollisionFree (sha : Sha256Hex) (scopes : List String) : Prop :=
  ∀ s ∈ scopes, ∀ t ∈ scopes, sha s = sha t → s = t

-- a covered intent has its attempt
def NoMiss (sha : Sha256Hex) (db : Database) : Prop :=
  ∀ operation scopeId inputHash window fence intent,
    ModelCallAuditIntent.new sha operation scopeId inputHash window fence = .ok intent →
    CollisionFree sha (scopeId :: db.attempts.rows.map Attempt.scopeId) →
    Inspects sha db intent (.ok (.covered "model generation attempt")) →
    (operation, scopeId, inputHash, window) ∈ db.identities

theorem new_eq_ok {operation : String}
    (h : ModelCallAuditIntent.new sha operation scopeId inputHash window fence = .ok intent) :
    isHex64 inputHash = true ∧ intent.operation = operation ∧ intent.scopeHash = sha scopeId ∧
      intent.inputHash = inputHash ∧ intent.windowStartedAt = window := by
  simp only [ModelCallAuditIntent.new, bind_eq_ok, reject_eq_ok, exists_const, not_or,
    Bool.not_eq_false, pure_eq_ok] at h
  obtain ⟨⟨-, -, -, hhash, -, -⟩, rfl⟩ := h
  exact ⟨hhash, rfl, rfl, rfl, rfl⟩

theorem reads_some {a : Attempt} (h : Reads db intent (some a)) :
    (intent.operation, a.scopeId, intent.inputHash, intent.windowStartedAt) ∈ db.identities := by
  obtain ⟨hmem, hfinds⟩ := List.mem_filter.mp h
  obtain ⟨hkind, hinput, hwindow⟩ := of_decide_eq_true hfinds
  have hid := List.mem_map_of_mem (f := Attempt.identity) hmem
  rwa [Attempt.identity, hkind, hinput, hwindow] at hid

theorem reads_none {scope : String} (h : Reads db intent none) :
    (intent.operation, scope, intent.inputHash, intent.windowStartedAt) ∉ db.identities := by
  intro hmem
  obtain ⟨a, ha, hid⟩ := List.mem_map.mp hmem
  simp only [Attempt.identity, Prod.mk.injEq] at hid
  obtain ⟨hkind, -, hinput, hwindow⟩ := hid
  exact List.filter_eq_nil_iff.mp h a ha (decide_eq_true ⟨hkind, hinput, hwindow⟩)

theorem Swept.noFalseAlarm (h : Swept w) : NoFalseAlarm sha w := by
  rintro c hc fence intent hnew verdict ⟨row, hreads, rfl⟩
  obtain ⟨hhash, hoperation, hscope, hinput, hwindow⟩ := new_eq_ok hnew
  have hbound : ¬i64Max < intent.windowStartedAt := by
    rw [hwindow, not_lt]
    exact h.bounded c hc
  have hat : ∀ scope, c.at scope =
      (intent.operation, scope, intent.inputHash, intent.windowStartedAt) := by
    intro scope
    rw [Claimed.at, trim_hex64 hhash, hoperation, hinput, hwindow]
  simp only [inspectModelCall, reject, hbound, if_false]
  cases row with
  | none => exact absurd (hat c.scopeId ▸ h.stored c hc) (reads_none hreads)
  | some a =>
    have hsame : a.scopeId = c.scopeId := h.alone c hc _ (hat a.scopeId ▸ reads_some hreads)
    have hstatus : a.status ∈ [AttemptStatus.started, .completed, .failed] := by
      cases a.status <;> simp
    have hcovered : sha a.scopeId = intent.scopeHash ∧
        a.status ∈ [AttemptStatus.started, .completed, .failed] := ⟨by rw [hsame, hscope], hstatus⟩
    simp only [hcovered, and_self, if_true]
    rfl

theorem noMiss : NoMiss sha db := by
  rintro operation scopeId inputHash window fence intent hnew hfree ⟨row, hreads, hinspect⟩
  obtain ⟨-, hoperation, hscope, hinput, hwindow⟩ := new_eq_ok hnew
  simp only [inspectModelCall, bind_eq_ok, reject_eq_ok, exists_const, pure_eq_ok] at hinspect
  obtain ⟨-, hverdict⟩ := hinspect
  cases row with
  | none => cases hverdict
  | some a =>
    have hid := reads_some hreads
    rw [hoperation, hinput, hwindow] at hid
    simp only at hverdict
    split at hverdict
    · next hsame =>
      have hmem : a.scopeId ∈ db.attempts.rows.map Attempt.scopeId :=
        List.mem_map_of_mem (List.mem_filter.mp hreads).1
      have heq := hfree a.scopeId (List.mem_cons_of_mem _ hmem) scopeId List.mem_cons_self
        (hsame.1.trans hscope)
      rwa [heq] at hid
    · cases hverdict

theorem sweep_exact (hstart : w₀.held = [])
    (hrun : Trace (fun w e w' => Step w e w' ∧ Fits w e) w₀ events w) :
    NoFalseAlarm sha w ∧ NoMiss sha w.db := by
  have hempty : Swept w₀ := by
    refine ⟨?_, ?_, ?_⟩ <;>
      · rw [hstart]
        nofun
  have hswept : Swept w := hrun.invariant (P := Swept) hempty
    fun _ _ _ h hstep => step_swept h hstep.1 hstep.2
  exact ⟨hswept.noFalseAlarm, noMiss⟩

end Verdicts

section Samples

def emptyDatabase : Database := ⟨.empty, .empty, .empty, .empty, []⟩

-- the digests of the two users
def userSha : Sha256Hex := fun text =>
  if text = "alice" then "2bd806c97f0e00af1a1fc3328fa763a9269723c8db8fac4f93af71db186d6e90"
  else if text = "bob" then "81b637d8fcd2c6da6359e6963113a1170de795e4b725b84d1e0b4cfd9ec58ce9"
  else text

def foodInput : String := "90b39c1849542b0936051fce522fe52cc8ae905991ac0a3001e3f1f9a861d8e5"

def asks (scopeId : String) (now : Nat) : Event :=
  ⟨now, .claim "shelf_starters" scopeId foodInput []⟩

def succeeds (scopeId : String) : Event :=
  ⟨90000000, .complete "shelf_starters" scopeId foodInput 86400000 none⟩

def intentOf (scopeId : String) : ModelCallAuditIntent where
  version := 1
  operation := "shelf_starters"
  scopeHash := userSha scopeId
  inputHash := foodInput
  windowStartedAt := 86400000
  providerFence := "shelf-starters-v1:vertex:model"

theorem intentOf_new (scopeId : String) (h : scopeId = "alice" ∨ scopeId = "bob") :
    ModelCallAuditIntent.new userSha "shelf_starters" scopeId foodInput 86400000
      "shelf-starters-v1:vertex:model" = .ok (intentOf scopeId) := by
  rcases h with rfl | rfl <;> decide +kernel

def accept (w : World) (e : Event) : Option World := (execute w e).toOption

def fits (w : World) (e : Event) : Bool :=
  match e.op with
  | .claim artifactKind scopeId inputHash _ =>
    decide (trim scopeId = scopeId) && w.db.attempts.rows.all fun a =>
      decide ¬(a.artifactKind = artifactKind ∧ a.inputHash = trim inputHash ∧
        a.windowStartedAt = windowOf e.now)
  | _ => true

theorem fits_sound (h : fits w e = true) : Fits w e := by
  obtain ⟨now, op⟩ := e
  cases op with
  | claim artifactKind scopeId inputHash documentHandles =>
    simp only [fits, Bool.and_eq_true, decide_eq_true_eq, List.all_eq_true] at h
    obtain ⟨htrim, hfirst⟩ := h
    refine fun _ => ⟨htrim, fun scope hmem => ?_⟩
    obtain ⟨a, ha, hid⟩ := List.mem_map.mp hmem
    simp only [Attempt.identity, Prod.mk.injEq] at hid
    obtain ⟨hkind, -, hinput, hwindow⟩ := hid
    exact hfirst a ha ⟨hkind, hinput, hwindow⟩
  | complete artifactKind scopeId inputHash window response => exact trivial
  | fail artifactKind scopeId inputHash window => exact trivial
  | release artifactKind scopeId inputHash window => exact trivial
  | elsewhere documents recoveryHolds => exact trivial

def acceptFitting (w : World) (e : Event) : Option World :=
  if fits w e = true then accept w e else none

theorem accept_trace (h : runWith accept w events = some w') : Trace Step w events w' :=
  runWith_trace (fun _ _ _ h => .ok (toOption_eq_some.mp h)) h

theorem acceptFitting_trace (h : runWith acceptFitting w events = some w') :
    Trace (fun w e w' => Step w e w' ∧ Fits w e) w events w' := by
  refine runWith_trace (fun w e w' h => ?_) h
  rw [acceptFitting, Option.ite_none_right_eq_some] at h
  exact ⟨.ok (toOption_eq_some.mp h.2), fits_sound h.1⟩

-- the second user asks in the next window
def twoDays : List Event := [asks "alice" 86400500, succeeds "alice", asks "bob" 172800500]

theorem sweep_exact_sample :
    ∃ w, Trace (fun w e w' => Step w e w' ∧ Fits w e) ⟨emptyDatabase, []⟩ twoDays w ∧
      w.held = [⟨"shelf_starters", "alice", foodInput, 86400000⟩,
        ⟨"shelf_starters", "bob", foodInput, 172800000⟩] ∧
      NoFalseAlarm userSha w ∧ NoMiss userSha w.db := by
  have hrun : (runWith acceptFitting ⟨emptyDatabase, []⟩ twoDays).any (fun w =>
      decide (w.held = [⟨"shelf_starters", "alice", foodInput, 86400000⟩,
        ⟨"shelf_starters", "bob", foodInput, 172800000⟩])) = true := by
    decide +kernel
  obtain ⟨w, hw, hheld⟩ := (Option.any_eq_true _ _).mp hrun
  have htrace := acceptFitting_trace hw
  exact ⟨w, htrace, of_decide_eq_true hheld, sweep_exact rfl htrace⟩

-- alice and bob ask for starters of the same field in the same window
theorem shared_input_alarms :
    ∃ w, Trace Step ⟨emptyDatabase, []⟩ [asks "alice" 86400500, asks "bob" 86400700] w ∧
      (∀ row, Reads w.db (intentOf "alice") row → Reads w.db (intentOf "bob") row ∧
        (inspectModelCall userSha (intentOf "alice") row =
            .ok (.mismatch "model generation scope or status") ∨
          inspectModelCall userSha (intentOf "bob") row =
            .ok (.mismatch "model generation scope or status"))) ∧
      ¬NoFalseAlarm userSha w := by
  have hrun : (runWith accept ⟨emptyDatabase, []⟩ [asks "alice" 86400500, asks "bob" 86400700]).any
      (fun w => decide (w.db.attempts.rows =
          [newAttempt 86400500 "shelf_starters" "alice" foodInput,
            newAttempt 86400700 "shelf_starters" "bob" foodInput] ∧
        w.held = [⟨"shelf_starters", "alice", foodInput, 86400000⟩,
          ⟨"shelf_starters", "bob", foodInput, 86400000⟩])) = true := by
    decide +kernel
  obtain ⟨w, hw, hstate⟩ := (Option.any_eq_true _ _).mp hrun
  obtain ⟨hrows, hheld⟩ := of_decide_eq_true hstate
  have hrow : ∀ row, Reads w.db (intentOf "alice") row →
      row = some (newAttempt 86400500 "shelf_starters" "alice" foodInput) ∨
        row = some (newAttempt 86400700 "shelf_starters" "bob" foodInput) := by
    intro row hreads
    cases row with
    | none =>
      rw [Reads, hrows] at hreads
      cases hreads
    | some a =>
      have hmem := (List.mem_filter.mp hreads).1
      rw [hrows] at hmem
      simpa using hmem
  refine ⟨w, accept_trace hw, fun row hreads => ⟨?_, ?_⟩, fun hnone => ?_⟩
  · cases row with
    | none => exact hreads
    | some a => exact hreads
  · rcases hrow row hreads with rfl | rfl
    · exact .inr (by decide +kernel)
    · exact .inl (by decide +kernel)
  · have hreads : Reads w.db (intentOf "alice")
        (some (newAttempt 86400700 "shelf_starters" "bob" foodInput)) := by
      rw [Reads, hrows]
      decide +kernel
    have hverdict := hnone ⟨"shelf_starters", "alice", foodInput, 86400000⟩ (by rw [hheld]; simp)
      "shelf-starters-v1:vertex:model" (intentOf "alice") (intentOf_new "alice" (.inl rfl)) _
      ⟨_, hreads, rfl⟩
    have hmismatch : inspectModelCall userSha (intentOf "alice")
        (some (newAttempt 86400700 "shelf_starters" "bob" foodInput)) ≠
          .ok (.covered "model generation attempt") := by
      decide +kernel
    exact hmismatch hverdict

end Samples

end Obulus.Generation
