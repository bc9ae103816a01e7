import Obulus.Gateway.Routes

namespace Obulus.Gateway

open Foundation

structure PaymentQuoteError where
  status : Nat
  code : String
  message : String
  deriving DecidableEq, Repr

structure VerifiedPaymentAttempt (Quote : Type) where
  attemptId : String
  identity : PaymentRouteIdentity
  quote : Quote
  retainedUntil : Int

def verifiedAttemptRetentionMs : Int := 24 * 60 * 60 * 1000

structure VerifiedPaymentAttemptTracker (Quote : Type) where
  byAttempt : Dictionary (VerifiedPaymentAttempt Quote)
  attemptByIdentity : Dictionary String

variable {Quote : Type}

def verifiedAttempt (attemptId : String) (identity : PaymentRouteIdentity) (quote : Quote) (now : Int) :
    VerifiedPaymentAttempt Quote where
  attemptId := attemptId
  identity := identity
  quote := quote
  retainedUntil := now + verifiedAttemptRetentionMs

namespace VerifiedPaymentAttemptTracker

def empty : VerifiedPaymentAttemptTracker Quote where
  byAttempt := ∅
  attemptByIdentity := ∅

def remember (tracker : VerifiedPaymentAttemptTracker Quote) (attemptId : String)
    (identity : PaymentRouteIdentity) (quote : Quote) (now : Int) :
    Except PaymentQuoteError (VerifiedPaymentAttemptTracker Quote) :=
  if (tracker.byAttempt.lookup attemptId).isSome = true ∨
      (tracker.attemptByIdentity.lookup identity.key).isSome = true then
    .error ⟨409, "payment_not_payable",
      "This payment resource already has a verified payment in progress."⟩
  else .ok
    { byAttempt := tracker.byAttempt.insert attemptId (verifiedAttempt attemptId identity quote now)
      attemptByIdentity := tracker.attemptByIdentity.insert identity.key attemptId }

def forAttempt (tracker : VerifiedPaymentAttemptTracker Quote) (attemptId : String) :
    Option (VerifiedPaymentAttempt Quote) :=
  tracker.byAttempt.lookup attemptId

-- an empty attempt id is falsy
def forIdentity (tracker : VerifiedPaymentAttemptTracker Quote) (identityKey : String) :
    Option (VerifiedPaymentAttempt Quote) :=
  ((tracker.attemptByIdentity.lookup identityKey).filter (· ≠ "")).bind fun attemptId =>
    tracker.byAttempt.lookup attemptId

def forget (tracker : VerifiedPaymentAttemptTracker Quote) (attemptId : String) :
    VerifiedPaymentAttemptTracker Quote :=
  match tracker.byAttempt.lookup attemptId with
  | none => tracker
  | some attempt =>
    { byAttempt := tracker.byAttempt.erase attemptId
      attemptByIdentity :=
        if tracker.attemptByIdentity.lookup attempt.identity.key = some attemptId then
          tracker.attemptByIdentity.erase attempt.identity.key
        else tracker.attemptByIdentity }

def prune (tracker : VerifiedPaymentAttemptTracker Quote) (now : Int) :
    VerifiedPaymentAttemptTracker Quote :=
  tracker.byAttempt.entries.foldl (fun pruned entry =>
    if entry.2.retainedUntil ≤ now then pruned.forget entry.1 else pruned) tracker

end VerifiedPaymentAttemptTracker

inductive TrackerCall (Quote : Type)
  | remember (attemptId : String) (identity : PaymentRouteIdentity) (quote : Quote) (now : Int)
  | forget (attemptId : String)
  | prune (now : Int)

-- a refused call throws and changes nothing
def TrackerCall.apply (tracker : VerifiedPaymentAttemptTracker Quote) :
    TrackerCall Quote → VerifiedPaymentAttemptTracker Quote
  | .remember attemptId identity quote now =>
    match tracker.remember attemptId identity quote now with
    | .ok tracker => tracker
    | .error _ => tracker
  | .forget attemptId => tracker.forget attemptId
  | .prune now => tracker.prune now

-- the calls of a run, the latest first
def trackerAfter : List (TrackerCall Quote) → VerifiedPaymentAttemptTracker Quote
  | [] => .empty
  | call :: calls => call.apply (trackerAfter calls)

section Live

-- An attempt is live from the call that remembers it, unless a live one has its id or its
-- resource, until it is forgotten or pruned at the end of its retention.
def Live : List (TrackerCall Quote) → VerifiedPaymentAttempt Quote → Prop
  | [], _ => False
  | .remember attemptId identity quote now :: calls, attempt => Live calls attempt ∨
    attempt = verifiedAttempt attemptId identity quote now ∧ ¬∃ other, Live calls other ∧
      (other.attemptId = attemptId ∨ other.identity.resource = identity.resource)
  | .forget attemptId :: calls, attempt => Live calls attempt ∧ attempt.attemptId ≠ attemptId
  | .prune now :: calls, attempt => Live calls attempt ∧ now < attempt.retainedUntil

end Live

section Tracking

variable {tracker : VerifiedPaymentAttemptTracker Quote}
  {live live' : VerifiedPaymentAttempt Quote → Prop} {attempt other : VerifiedPaymentAttempt Quote}
  {attemptId : String} {identity : PaymentRouteIdentity} {quote : Quote} {now : Int}

-- the two maps hold the live attempts, each under its id and its key
structure Tracks (tracker : VerifiedPaymentAttemptTracker Quote)
    (live : VerifiedPaymentAttempt Quote → Prop) : Prop where
  byAttempt : ∀ attemptId attempt, tracker.byAttempt.lookup attemptId = some attempt ↔
    live attempt ∧ attempt.attemptId = attemptId
  byIdentity : ∀ key attemptId, tracker.attemptByIdentity.lookup key = some attemptId ↔
    ∃ attempt, live attempt ∧ attempt.identity.key = key ∧ attempt.attemptId = attemptId

theorem Tracks.congr (h : Tracks tracker live) (hlive : ∀ attempt, live attempt ↔ live' attempt) :
    Tracks tracker live' := by
  obtain rfl : live = live' := funext fun attempt => propext (hlive attempt)
  exact h

theorem Tracks.same_id (h : Tracks tracker live) (hlive : live attempt) (hother : live other)
    (hid : attempt.attemptId = other.attemptId) : attempt = other := by
  have hfirst := (h.byAttempt attempt.attemptId attempt).mpr ⟨hlive, rfl⟩
  have hsecond := (h.byAttempt attempt.attemptId other).mpr ⟨hother, hid.symm⟩
  exact Option.some.inj (hfirst.symm.trans hsecond)

theorem Tracks.same_key (h : Tracks tracker live) (hlive : live attempt) (hother : live other)
    (hkey : attempt.identity.key = other.identity.key) : attempt = other := by
  have hfirst := (h.byIdentity attempt.identity.key attempt.attemptId).mpr ⟨attempt, hlive, rfl, rfl⟩
  have hsecond := (h.byIdentity attempt.identity.key other.attemptId).mpr ⟨other, hother, hkey.symm, rfl⟩
  exact h.same_id hlive hother (Option.some.inj (hfirst.symm.trans hsecond))

theorem Tracks.empty : Tracks (.empty : VerifiedPaymentAttemptTracker Quote) fun _ => False := by
  refine ⟨?_, ?_⟩
  · intro attemptId attempt
    simp [VerifiedPaymentAttemptTracker.empty]
  · intro key attemptId
    simp [VerifiedPaymentAttemptTracker.empty]

theorem Tracks.refused (h : Tracks tracker live) :
    ((tracker.byAttempt.lookup attemptId).isSome = true ∨
      (tracker.attemptByIdentity.lookup identity.key).isSome = true) ↔
    ∃ other, live other ∧ (other.attemptId = attemptId ∨ other.identity.key = identity.key) := by
  simp only [Option.isSome_iff_exists, h.byAttempt, h.byIdentity]
  constructor
  · rintro (⟨attempt, hlive, hid⟩ | ⟨_, attempt, hlive, hkey, -⟩)
    · exact ⟨attempt, hlive, Or.inl hid⟩
    · exact ⟨attempt, hlive, Or.inr hkey⟩
  · rintro ⟨attempt, hlive, hid | hkey⟩
    · exact Or.inl ⟨attempt, hlive, hid⟩
    · exact Or.inr ⟨attempt.attemptId, attempt, hlive, hkey, rfl⟩

theorem Tracks.remember (h : Tracks tracker live) {remembered : VerifiedPaymentAttemptTracker Quote}
    (hok : tracker.remember attemptId identity quote now = .ok remembered) :
    Tracks remembered fun attempt =>
      live attempt ∨ attempt = verifiedAttempt attemptId identity quote now := by
  rw [VerifiedPaymentAttemptTracker.remember] at hok
  split at hok
  · cases hok
  · next hnot =>
    have hfresh := mt h.refused.mpr hnot
    cases hok
    refine ⟨?_, ?_⟩
    · intro id attempt
      by_cases hid : id = attemptId
      · subst hid
        rw [AList.lookup_insert, Option.some.injEq]
        constructor
        · rintro rfl
          exact ⟨Or.inr rfl, rfl⟩
        · rintro ⟨hlive | rfl, hsame⟩
          · exact absurd ⟨attempt, hlive, Or.inl hsame⟩ hfresh
          · rfl
      · rw [AList.lookup_insert_ne hid, h.byAttempt]
        constructor
        · rintro ⟨hlive, hsame⟩
          exact ⟨Or.inl hlive, hsame⟩
        · rintro ⟨hlive | rfl, hsame⟩
          · exact ⟨hlive, hsame⟩
          · exact absurd hsame.symm hid
    · intro key id
      by_cases hkey : key = identity.key
      · subst hkey
        rw [AList.lookup_insert, Option.some.injEq]
        constructor
        · rintro rfl
          exact ⟨_, Or.inr rfl, rfl, rfl⟩
        · rintro ⟨attempt, hlive | rfl, hsame, hid⟩
          · exact absurd ⟨attempt, hlive, Or.inr hsame⟩ hfresh
          · exact hid
      · rw [AList.lookup_insert_ne hkey, h.byIdentity]
        constructor
        · rintro ⟨attempt, hlive, hsame, hid⟩
          exact ⟨attempt, Or.inl hlive, hsame, hid⟩
        · rintro ⟨attempt, hlive | rfl, hsame, hid⟩
          · exact ⟨attempt, hlive, hsame, hid⟩
          · exact absurd hsame.symm hkey

theorem Tracks.forget (h : Tracks tracker live) (attemptId : String) :
    Tracks (tracker.forget attemptId) fun attempt => live attempt ∧ attempt.attemptId ≠ attemptId := by
  rw [VerifiedPaymentAttemptTracker.forget]
  split
  · next hnone =>
    refine h.congr ?_
    intro attempt
    constructor
    · intro hlive
      refine ⟨hlive, ?_⟩
      rintro rfl
      rw [(h.byAttempt _ attempt).mpr ⟨hlive, rfl⟩] at hnone
      cases hnone
    · exact And.left
  · next forgotten hsome =>
    obtain ⟨hforgotten, hid⟩ := (h.byAttempt _ _).mp hsome
    have hkey := (h.byIdentity forgotten.identity.key attemptId).mpr ⟨forgotten, hforgotten, rfl, hid⟩
    rw [if_pos hkey]
    refine ⟨?_, ?_⟩
    · intro id attempt
      by_cases hsame : id = attemptId
      · subst hsame
        rw [AList.lookup_erase]
        constructor
        · intro hnone
          cases hnone
        · rintro ⟨⟨-, hne⟩, heq⟩
          exact absurd heq hne
      · rw [AList.lookup_erase_ne hsame, h.byAttempt]
        constructor
        · rintro ⟨hlive, rfl⟩
          exact ⟨⟨hlive, hsame⟩, rfl⟩
        · rintro ⟨⟨hlive, -⟩, heq⟩
          exact ⟨hlive, heq⟩
    · intro key id
      by_cases hsame : key = forgotten.identity.key
      · subst hsame
        rw [AList.lookup_erase]
        constructor
        · intro hnone
          cases hnone
        · rintro ⟨attempt, ⟨hlive, hne⟩, hshared, -⟩
          rw [h.same_key hlive hforgotten hshared] at hne
          exact absurd hid hne
      · rw [AList.lookup_erase_ne hsame, h.byIdentity]
        constructor
        · rintro ⟨attempt, hlive, rfl, rfl⟩
          refine ⟨attempt, ⟨hlive, ?_⟩, rfl, rfl⟩
          intro heq
          exact hsame (congrArg (fun a => a.identity.key) (h.same_id hlive hforgotten (heq.trans hid.symm)))
        · rintro ⟨attempt, ⟨hlive, -⟩, hkeys, hids⟩
          exact ⟨attempt, hlive, hkeys, hids⟩

theorem Tracks.forgetAll (h : Tracks tracker live)
    (entries : List (Sigma fun _ : String => VerifiedPaymentAttempt Quote)) :
    Tracks (entries.foldl (fun pruned entry =>
      if entry.2.retainedUntil ≤ now then pruned.forget entry.1 else pruned) tracker)
      fun attempt => live attempt ∧ ∀ entry ∈ entries, entry.2.retainedUntil ≤ now →
        attempt.attemptId ≠ entry.1 := by
  induction entries generalizing tracker live with
  | nil => exact h.congr fun attempt => by simp
  | cons entry entries ih =>
    rw [List.foldl_cons]
    split
    · next hdue =>
      refine (ih (h.forget entry.1)).congr ?_
      intro attempt
      rw [List.forall_mem_cons, and_assoc]
      simp [hdue]
    · next hretained =>
      refine (ih h).congr ?_
      intro attempt
      rw [List.forall_mem_cons]
      simp [hretained]

theorem Tracks.prune (h : Tracks tracker live) (now : Int) :
    Tracks (tracker.prune now) fun attempt => live attempt ∧ now < attempt.retainedUntil := by
  rw [VerifiedPaymentAttemptTracker.prune]
  refine (h.forgetAll tracker.byAttempt.entries).congr ?_
  intro attempt
  refine and_congr_right fun hlive => ?_
  have hfound := (h.byAttempt attempt.attemptId attempt).mpr ⟨hlive, rfl⟩
  constructor
  · intro hall
    by_contra hretained
    have hdue : attempt.retainedUntil ≤ now := by omega
    exact hall ⟨attempt.attemptId, attempt⟩ (AList.mem_lookup_iff.mp hfound) hdue rfl
  · rintro hretained ⟨id, entry⟩ hentry hdue rfl
    have hsame := AList.mem_lookup_iff.mpr hentry
    rw [Option.mem_def, hfound, Option.some.injEq] at hsame
    subst hsame
    dsimp only at hdue
    omega

end Tracking

section Runs

variable {urlPathname : String → Except String String} {calls : List (TrackerCall Quote)}
  {attempt other : VerifiedPaymentAttempt Quote} {identity identity' : PaymentRouteIdentity}
  {attemptId path : String} {quote : Quote} {now : Int}

def Accepted (urlPathname : String → Except String String) (identity : PaymentRouteIdentity) : Prop :=
  ∃ path, paymentIdentityFromPath urlPathname path = .ok identity

def Taken (calls : List (TrackerCall Quote)) (attemptId : String) (resource : PaymentResource) : Prop :=
  ∃ other, Live calls other ∧ (other.attemptId = attemptId ∨ other.identity.resource = resource)

def Clear (calls : List (TrackerCall Quote)) (resource : PaymentResource) : Prop :=
  ∀ other, Live calls other → ¬Collides other.identity.resource resource

def Separate (urlPathname : String → Except String String) : List (TrackerCall Quote) → Prop
  | [] => True
  | .remember attemptId identity _ _ :: calls => Separate urlPathname calls ∧
    Accepted urlPathname identity ∧ attemptId ≠ "" ∧
    (Taken calls attemptId identity.resource ∨ Clear calls identity.resource)
  | .forget _ :: calls => Separate urlPathname calls
  | .prune _ :: calls => Separate urlPathname calls

theorem accepted_key_eq (h : Accepted urlPathname identity) (h' : Accepted urlPathname identity') :
    identity.key = identity'.key ↔
      identity.resource = identity'.resource ∨ Collides identity.resource identity'.resource := by
  obtain ⟨path, hpath⟩ := h
  obtain ⟨path', hpath'⟩ := h'
  rw [paymentIdentity_key hpath, paymentIdentity_key hpath', key_eq_iff]

theorem live_accepted (h : Separate urlPathname calls) (hlive : Live calls attempt) :
    Accepted urlPathname attempt.identity ∧ attempt.attemptId ≠ "" := by
  induction calls with
  | nil => exact hlive.elim
  | cons call calls ih =>
    cases call with
    | remember attemptId identity quote now =>
      obtain ⟨h, haccepted, hid, -⟩ := h
      rcases hlive with hlive | ⟨rfl, -⟩
      · exact ih h hlive
      · exact ⟨haccepted, hid⟩
    | forget attemptId => exact ih h hlive.1
    | prune now => exact ih h hlive.1

-- the keys alone decide a call, and they tell apart what the run keeps separate
theorem taken_key (h : Separate urlPathname calls) (haccepted : Accepted urlPathname identity) :
    (∃ other, Live calls other ∧ (other.attemptId = attemptId ∨ other.identity.key = identity.key)) ↔
      Taken calls attemptId identity.resource ∨ ¬Clear calls identity.resource := by
  constructor
  · rintro ⟨other, hlive, hid | hkey⟩
    · exact Or.inl ⟨other, hlive, Or.inl hid⟩
    · rcases (accepted_key_eq (live_accepted h hlive).1 haccepted).mp hkey with hsame | hcollides
      · exact Or.inl ⟨other, hlive, Or.inr hsame⟩
      · exact Or.inr fun hclear => hclear other hlive hcollides
  · rintro (⟨other, hlive, hid | hsame⟩ | hcollides)
    · exact ⟨other, hlive, Or.inl hid⟩
    · exact ⟨other, hlive, Or.inr
        ((accepted_key_eq (live_accepted h hlive).1 haccepted).mpr (Or.inl hsame))⟩
    · simp only [Clear, not_forall, not_not] at hcollides
      obtain ⟨other, hlive, hcollides⟩ := hcollides
      exact ⟨other, hlive, Or.inr
        ((accepted_key_eq (live_accepted h hlive).1 haccepted).mpr (Or.inr hcollides))⟩

theorem Tracks.remember_refused (h : Tracks (trackerAfter calls) (Live calls)) :
    (∃ refusal, (trackerAfter calls).remember attemptId identity quote now = .error refusal) ↔
      ∃ other, Live calls other ∧ (other.attemptId = attemptId ∨ other.identity.key = identity.key) := by
  rw [VerifiedPaymentAttemptTracker.remember, ← h.refused]
  split
  · next hrefused => exact ⟨fun _ => hrefused, fun _ => ⟨_, rfl⟩⟩
  · next hfresh =>
    constructor
    · rintro ⟨refusal, herror⟩
      cases herror
    · exact fun hrefused => absurd hrefused hfresh

theorem run_tracks (h : Separate urlPathname calls) : Tracks (trackerAfter calls) (Live calls) := by
  induction calls with
  | nil => exact Tracks.empty
  | cons call calls ih =>
    cases call with
    | remember attemptId identity quote now =>
      obtain ⟨h, haccepted, -, hstep⟩ := h
      have htracks := ih h
      have htaken : (∃ other, Live calls other ∧
          (other.attemptId = attemptId ∨ other.identity.key = identity.key)) ↔
          Taken calls attemptId identity.resource := by
        rw [taken_key h haccepted]
        tauto
      have hrefused : (∃ refusal, (trackerAfter calls).remember attemptId identity quote now =
          .error refusal) ↔ Taken calls attemptId identity.resource :=
        htracks.remember_refused.trans htaken
      rw [trackerAfter, TrackerCall.apply]
      split
      · next remembered hok =>
        have hfree : ¬Taken calls attemptId identity.resource := by
          intro hheld
          obtain ⟨refusal, herror⟩ := hrefused.mpr hheld
          rw [hok] at herror
          cases herror
        refine (htracks.remember hok).congr ?_
        intro attempt
        exact or_congr_right (and_iff_left hfree).symm
      · next refusal herror =>
        have hheld := hrefused.mp ⟨refusal, herror⟩
        refine htracks.congr ?_
        intro attempt
        constructor
        · exact Or.inl
        · rintro (hlive | ⟨-, hfree⟩)
          · exact hlive
          · exact absurd hheld hfree
    | forget attemptId => exact (ih h).forget attemptId
    | prune now => exact (ih h).prune now

theorem run_forIdentity (h : Separate urlPathname calls) (key : String) :
    (trackerAfter calls).forIdentity key = some attempt ↔
      Live calls attempt ∧ attempt.identity.key = key := by
  have htracks := run_tracks h
  simp only [VerifiedPaymentAttemptTracker.forIdentity, Option.bind_eq_some_iff,
    Option.filter_eq_some_iff, htracks.byIdentity, htracks.byAttempt, decide_eq_true_eq]
  constructor
  · rintro ⟨attemptId, ⟨⟨other, hother, hkey, hid⟩, -⟩, hlive, hsame⟩
    rw [htracks.same_id hlive hother (hsame.trans hid.symm)]
    exact ⟨hother, hkey⟩
  · rintro ⟨hlive, hkey⟩
    exact ⟨attempt.attemptId, ⟨⟨attempt, hlive, hkey, rfl⟩, (live_accepted h hlive).2⟩, hlive, rfl⟩

theorem forIdentity_exact (h : Separate urlPathname calls) (haccepted : Accepted urlPathname identity) :
    (∀ attempt, (trackerAfter calls).forIdentity identity.key = some attempt ↔
      Live calls attempt ∧ attempt.identity.resource = identity.resource) ↔
    Clear calls identity.resource := by
  simp only [run_forIdentity h]
  constructor
  · intro hall other hlive hcollides
    have hkey := (accepted_key_eq (live_accepted h hlive).1 haccepted).mpr (Or.inr hcollides)
    have hsame := ((hall other).mp ⟨hlive, hkey⟩).2
    exact (key_exact.mp ⟨fun _ => hsame, fun h => congrArg PaymentResource.key h⟩) hcollides
  · intro hclear attempt
    refine and_congr_right fun hlive => ?_
    rw [accepted_key_eq (live_accepted h hlive).1 haccepted, or_iff_left (hclear attempt hlive)]

theorem remember_exact (h : Separate urlPathname calls) (haccepted : Accepted urlPathname identity) :
    ((∃ refusal, (trackerAfter calls).remember attemptId identity quote now = .error refusal) ↔
      Taken calls attemptId identity.resource) ↔
    Taken calls attemptId identity.resource ∨ Clear calls identity.resource := by
  rw [(run_tracks h).remember_refused, taken_key h haccepted]
  tauto

theorem fence_follows_resources (h : Separate urlPathname calls)
    (haccepted : Accepted urlPathname identity) (haccepted' : Accepted urlPathname identity') :
    ((identity.key = identity'.key ↔ identity.resource = identity'.resource) ↔
      ¬Collides identity.resource identity'.resource) ∧
    (((∃ refusal, (trackerAfter calls).remember attemptId identity quote now = .error refusal) ↔
      Taken calls attemptId identity.resource) ↔
      Taken calls attemptId identity.resource ∨ Clear calls identity.resource) ∧
    (∀ attempt, (trackerAfter calls).forAttempt attemptId = some attempt ↔
      Live calls attempt ∧ attempt.attemptId = attemptId) ∧
    ((∀ attempt, (trackerAfter calls).forIdentity identity.key = some attempt ↔
      Live calls attempt ∧ attempt.identity.resource = identity.resource) ↔
      Clear calls identity.resource) := by
  refine ⟨?_, remember_exact h haccepted, (run_tracks h).byAttempt attemptId,
    forIdentity_exact h haccepted⟩
  rw [accepted_key_eq haccepted haccepted', ← key_eq_iff]
  exact key_exact

def noUrls (_ : String) : Except String String := .error "Invalid URL"

def sampleDocument : PaymentRouteIdentity :=
  ⟨.documentQuery "query 1" "MD_7", "document\x00query 1\x00MD_7"⟩

def sampleBundle : PaymentRouteIdentity := ⟨.bundle "bundle_42", "bundle\x00bundle_42"⟩

def sampleCalls : List (TrackerCall String) :=
  [.prune 2000, .remember "attempt-2" sampleBundle "bundle quote" 1000,
    .remember "attempt-1" sampleDocument "document quote" 0]

theorem sampleDocument_accepted : Accepted noUrls sampleDocument :=
  ⟨"/api/v1/paid-documents/query%201/MD_7", by decide +kernel⟩

theorem sampleBundle_accepted : Accepted noUrls sampleBundle :=
  ⟨"/api/v1/paid-bundles/bundle_42?ignored=1", by decide +kernel⟩

theorem sampleCalls_separate : Separate noUrls sampleCalls := by
  refine ⟨⟨trivial, sampleDocument_accepted, by decide, Or.inr fun _ hlive => hlive.elim⟩,
    sampleBundle_accepted, by decide, Or.inr ?_⟩
  rintro other (hlive | ⟨rfl, -⟩)
  · exact hlive.elim
  · rintro (h | h) <;> exact h

theorem sampleBundle_clear : Clear sampleCalls sampleBundle.resource := by
  rintro other ⟨(hlive | ⟨rfl, -⟩) | ⟨rfl, -⟩, -⟩
  · exact hlive.elim
  · rintro (h | h) <;> exact h
  · rintro (h | h) <;> exact h

theorem fence_follows_resources_sample :
    (∀ attempt, (trackerAfter sampleCalls).forIdentity sampleBundle.key = some attempt ↔
      Live sampleCalls attempt ∧ attempt.identity.resource = .bundle "bundle_42") ∧
    ((∃ refusal, (trackerAfter sampleCalls).remember "attempt-3" sampleBundle "another quote" 2500 =
        .error refusal) ↔
      Taken sampleCalls "attempt-3" (.bundle "bundle_42")) :=
  have hfence := fence_follows_resources sampleCalls_separate sampleBundle_accepted sampleDocument_accepted
  ⟨hfence.2.2.2.mpr sampleBundle_clear, hfence.2.1.mpr (Or.inr sampleBundle_clear)⟩

def shiftedDocument : PaymentRouteIdentity :=
  ⟨.documentQuery "q\x00a" "b", "document\x00q\x00a\x00b"⟩

def shadowedDocument : PaymentRouteIdentity :=
  ⟨.documentQuery "q" "a\x00b", "document\x00q\x00a\x00b"⟩

def shiftedCalls : List (TrackerCall String) := [.remember "attempt-1" shiftedDocument "quote" 0]

-- two documents with one key, and a payment for the one is refused while the other's is live
theorem shifted_document_refused :
    paymentIdentityFromPath noUrls "/api/v1/paid-documents/q%00a/b" = .ok shiftedDocument ∧
    paymentIdentityFromPath noUrls "/api/v1/paid-documents/q/a%00b" = .ok shadowedDocument ∧
    ¬(shiftedDocument.key = shadowedDocument.key ↔
      shiftedDocument.resource = shadowedDocument.resource) ∧
    ¬((∃ refusal, (trackerAfter shiftedCalls).remember "attempt-2" shadowedDocument "quote" 1 =
        .error refusal) ↔
      ∃ other, Live shiftedCalls other ∧ (other.attemptId = "attempt-2" ∨
        other.identity.resource = shadowedDocument.resource)) := by
  have hshown : ¬(shiftedDocument.key = shadowedDocument.key ↔
      shiftedDocument.resource = shadowedDocument.resource) := by decide
  refine ⟨by decide +kernel, by decide +kernel, hshown, ?_⟩
  intro hexact
  obtain ⟨other, hlive | ⟨rfl, -⟩, hid | hresource⟩ := hexact.mp ⟨_, rfl⟩
  · exact hlive.elim
  · exact hlive.elim
  · exact absurd hid (by decide)
  · exact absurd hresource (by decide)

end Runs

end Obulus.Gateway
