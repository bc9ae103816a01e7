import Obulus.Gateway.Filling
import Obulus.Gateway.ScanFacts

namespace Obulus.Gateway

open Foundation Store

-- the finalized transactions, newest first; no two have one signature
structure Ledger (lib : Libraries) where
  transactions : List ExactTransaction
  signatures : (transactions.map (signatureOf lib)).Nodup

namespace Ledger

variable {lib : Libraries}

def lookup (ledger : Ledger lib) (signature : String) : Option ExactTransaction :=
  ledger.transactions.find? fun tx => signatureOf lib tx = signature

def ofAddress (net : Network) (ledger : Ledger lib) (address : String) : List ExactTransaction :=
  ledger.transactions.filter fun tx => Chain.mentions net tx address

def history (net : Network) (ledger : Ledger lib) (address : String) : List String :=
  (ledger.ofAddress net address).map (signatureOf lib)

-- what a view of the ledger says where its answer can be read
def Tells (net : Network) (ledger : Ledger lib) : RpcRequest → Json → Prop
  | .getSignaturesForAddress address limit before, reply => ∀ infos,
      parseSignatureInfos lib reply = .ok infos →
        infos.map SignatureInfo.signature = (older before (ledger.history net address)).take limit
  | .getTransaction signature, reply => ∀ transaction,
      parseExactBase64Transaction lib reply = .ok transaction → transaction = ledger.lookup signature
  | .isBlockhashValid _, _ => True

end Ledger

def WellFormed (lib : Libraries) : RpcRequest → Json → Prop
  | .getSignaturesForAddress _ _ _, reply => (parseSignatureInfos lib reply).isOk = true
  | .getTransaction _, reply => (parseExactBase64Transaction lib reply).isOk = true
  | .isBlockhashValid _, _ => True

variable {lib : Libraries} {net : Network} {ledger : Ledger lib} {tx : ExactTransaction}
  {prepared : Bytes} {payer signature : String} {strict : Prop}

namespace Ledger

def Answers (net : Network) (ledger : Ledger lib) (strict : Prop) (request : RpcRequest) (reply : Json) :
    Prop :=
  ledger.Tells net request reply ∧ (strict → WellFormed lib request reply)

theorem lookup_eq_some : ledger.lookup signature = some tx ↔
    tx ∈ ledger.transactions ∧ signatureOf lib tx = signature := by
  constructor
  · intro h
    exact ⟨List.mem_of_find?_eq_some h, by simpa using List.find?_some h⟩
  · rintro ⟨hmem, hsignature⟩
    cases hfound : ledger.lookup signature with
    | none =>
      have hnone := List.find?_eq_none.mp hfound tx hmem
      simp [hsignature] at hnone
    | some found =>
      have hother := List.find?_some hfound
      rw [decide_eq_true_eq, ← hsignature] at hother
      rw [List.inj_on_of_nodup_map ledger.signatures (List.mem_of_find?_eq_some hfound) hmem hother]

theorem mem_ofAddress : tx ∈ ledger.ofAddress net payer ↔
    tx ∈ ledger.transactions ∧ payer ∈ net.accountKeys (messageOf tx.bytes) := by
  rw [ofAddress, List.mem_filter, Chain.mentions, decide_eq_true_eq]

theorem history_nodup (address : String) : (ledger.history net address).Nodup := by
  rw [history]
  exact ledger.signatures.sublist (List.filter_sublist.map _)

theorem lookup_of_history (h : signature ∈ ledger.history net payer) :
    ∃ tx ∈ ledger.ofAddress net payer, ledger.lookup signature = some tx := by
  obtain ⟨tx, htx, hsignature⟩ := List.mem_map.mp h
  exact ⟨tx, htx, lookup_eq_some.mpr ⟨(mem_ofAddress.mp htx).1, hsignature⟩⟩

end Ledger

theorem signature_of_fills {value length : Nat} (hheader : decodeShortVec prepared = some (value, length))
    (hfills : Fills prepared tx.bytes value length) :
    signatureOf lib tx = lib.encoding.base58Encode (slot tx.bytes length 0) := by
  rw [signatureOf, header_of_take hheader hfills.header]

theorem fills_iff_equal (henvelope : hasValidTransactionEnvelope prepared = true) :
    FillsEmptySlots prepared tx.bytes ↔
      equalPreparedTransaction lib prepared tx.bytes (signatureOf lib tx) = true := by
  obtain ⟨value, length, hheader, -⟩ := envelope_header henvelope
  constructor
  · rintro ⟨value', length', hheader', hfills⟩
    rw [hheader] at hheader'
    cases hheader'
    exact (equal_iff hheader).mpr ⟨hfills, (signature_of_fills hheader hfills).symm⟩
  · intro hequal
    exact ⟨value, length, hheader, ((equal_iff hheader).mp hequal).1⟩

theorem getTransaction_ends : (getTransaction lib signature).Ends (ledger.Answers net strict)
    (fun r => r = some (ledger.lookup signature) ∨ r = none ∧ ¬strict) := by
  intro reply hreply
  cases hparse : parseExactBase64Transaction lib reply with
  | ok transaction =>
    simp only [Dialogue.done_bind, hparse]
    exact Or.inl (congrArg some (hreply.1 transaction hparse))
  | error message =>
    have hnot : ¬strict := by
      intro hstrict
      have hformed := hreply.2 hstrict
      rw [WellFormed, hparse] at hformed
      cases hformed
    simp only [Dialogue.done_bind, hparse]
    exact Or.inr ⟨rfl, hnot⟩

theorem getSignatures_ends {before : Option String} :
    (getSignaturesForAddress lib payer before).Ends (ledger.Answers net strict)
      (fun r => (∃ infos reply, r = some infos ∧ parseSignatureInfos lib reply = .ok infos ∧
        infos.map SignatureInfo.signature =
          (older before (ledger.history net payer)).take signaturePageSize) ∨ r = none ∧ ¬strict) := by
  intro reply hreply
  cases hparse : parseSignatureInfos lib reply with
  | ok infos =>
    simp only [Dialogue.done_bind, hparse]
    exact Or.inl ⟨infos, reply, rfl, hparse, hreply.1 infos hparse⟩
  | error message =>
    have hnot : ¬strict := by
      intro hstrict
      have hformed := hreply.2 hstrict
      rw [WellFormed, hparse] at hformed
      cases hformed
    simp only [Dialogue.done_bind, hparse]
    exact Or.inr ⟨rfl, hnot⟩

-- the transaction that a result is about is the prepared one, as it was finalized
def Found (net : Network) (ledger : Ledger lib) (payer : String) (prepared : Bytes)
    (result : ExactChainScanResult) : Prop :=
  ∃ tx ∈ ledger.ofAddress net payer, FillsEmptySlots prepared tx.bytes ∧
    result = outcome tx (signatureOf lib tx)

-- no listed transaction is the prepared one
def Missing (ledger : Ledger lib) (prepared : Bytes) (signatures : List String) : Prop :=
  ∀ tx ∈ ledger.transactions, FillsEmptySlots prepared tx.bytes → signatureOf lib tx ∉ signatures

theorem Missing.mono {signatures more : List String} (h : Missing ledger prepared more)
    (hsub : ∀ s ∈ signatures, s ∈ more) : Missing ledger prepared signatures :=
  fun tx htx hfills hmem => h tx htx hfills (hsub _ hmem)

theorem scanCandidates_ends (henvelope : hasValidTransactionEnvelope prepared = true)
    {infos : List SignatureInfo}
    (hlisted : ∀ info ∈ infos, info.signature ∈ ledger.history net payer) :
    (scanCandidates lib prepared infos).Ends (ledger.Answers net strict)
      (fun r => match r with
        | none => ¬strict
        | some (some result) => Found net ledger payer prepared result
        | some none => Missing ledger prepared (infos.map SignatureInfo.signature)) := by
  induction infos with
  | nil => exact fun tx _ _ hmem => absurd hmem (by simp)
  | cons candidate rest ih =>
    rw [List.forall_mem_cons] at hlisted
    obtain ⟨tx, htx, hlookup⟩ := Ledger.lookup_of_history hlisted.1
    have hsignature := (Ledger.lookup_eq_some.mp hlookup).2
    refine getTransaction_ends.bind ?_ ?_
    · rintro (h | ⟨-, hnot⟩)
      · cases h
      · exact hnot
    · rintro transaction (h | ⟨h, -⟩)
      · cases h
        rw [hlookup]
        dsimp only
        rw [← hsignature]
        split
        · next hequal => exact ⟨tx, htx, (fills_iff_equal henvelope).mpr hequal, rfl⟩
        · next hdiffers =>
          refine (ih hlisted.2).weaken (fun _ _ h => h) ?_
          intro r hr
          cases r with
          | none => exact hr
          | some result =>
            cases result with
            | some result => exact hr
            | none =>
              intro other hother hfills hmem
              rw [List.map_cons, List.mem_cons] at hmem
              rcases hmem with hsame | hmem
              · have hfound := Ledger.lookup_eq_some.mpr ⟨hother, hsame⟩
                rw [hlookup, Option.some.injEq] at hfound
                rw [← hfound] at hfills
                exact hdiffers ((fills_iff_equal henvelope).mp hfills)
              · exact hr other hother hfills hmem
      · cases h

theorem parsed_signature {item : Json} {info : SignatureInfo} (h : parseSignatureInfo lib item = .ok info) :
    ∃ decoded, lib.encoding.base58Decode info.signature = some decoded ∧ decoded.length = 64 := by
  cases item with
  | object fields =>
    simp only [parseSignatureInfo, bind_eq_ok] at h
    obtain ⟨_, -, h⟩ := h
    split at h
    · simp only [bind_eq_ok, reject_eq_ok, exists_const] at h
      obtain ⟨signature, -, hdecoded, -, h⟩ := h
      have hsignature : info.signature = signature := by
        split at h
        · simp only [bind_eq_ok, pure_eq_ok] at h
          obtain ⟨_, -, rfl⟩ := h
          rfl
        · cases h
      rw [Bool.not_eq_false, Option.any_eq_true] at hdecoded
      obtain ⟨decoded, hsome, hlength⟩ := hdecoded
      exact ⟨decoded, hsignature ▸ hsome, by simpa using hlength⟩
    · cases h
  | _ => cases h

theorem parsed_signatures {items : List Json} {infos : List SignatureInfo}
    (h : items.mapM (parseSignatureInfo lib) = .ok infos) :
    ∀ info ∈ infos, ∃ decoded, lib.encoding.base58Decode info.signature = some decoded ∧
      decoded.length = 64 := by
  induction items generalizing infos with
  | nil =>
    rw [List.mapM_nil] at h
    cases h
    simp
  | cons item items ih =>
    simp only [List.mapM_cons, bind_eq_ok, pure_eq_ok] at h
    obtain ⟨info, hinfo, rest, hrest, rfl⟩ := h
    rw [List.forall_mem_cons]
    exact ⟨parsed_signature hinfo, ih hrest⟩

theorem signature_nonempty (hempty : lib.encoding.base58Decode "" = some []) {reply : Json}
    {infos : List SignatureInfo} (h : parseSignatureInfos lib reply = .ok infos) :
    ∀ info ∈ infos, info.signature ≠ "" := by
  intro info hinfo hblank
  have hdecoded : ∃ decoded, lib.encoding.base58Decode info.signature = some decoded ∧
      decoded.length = 64 := by
    cases reply with
    | array items => exact parsed_signatures h info hinfo
    | _ => cases h
  obtain ⟨decoded, hsome, hlength⟩ := hdecoded
  rw [hblank, hempty, Option.some.injEq] at hsome
  subst hsome
  cases hlength

theorem lastSignature_ne_none {infos : List SignatureInfo} (hnonempty : infos ≠ [])
    (hall : ∀ info ∈ infos, info.signature ≠ "") : lastSignature infos ≠ none := by
  obtain ⟨front, last, rfl⟩ := List.eq_nil_or_concat infos |>.resolve_left hnonempty
  have hlast := hall last (by simp)
  simp [lastSignature, hlast]

-- how a scan of pages ends: a full scan finds the transaction or shows that it is not there
def Scanned (net : Network) (ledger : Ledger lib) (payer : String) (prepared : Bytes) (strict : Prop)
    (reachable : List String) : Option ExactChainScanResult → Prop
  | none => ¬strict
  | some .inconclusive => Missing ledger prepared reachable
  | some .absent => Missing ledger prepared (ledger.history net payer)
  | some result => Found net ledger payer prepared result

theorem Scanned.of_found {result : ExactChainScanResult} {reachable : List String}
    (h : Found net ledger payer prepared result) :
    Scanned net ledger payer prepared strict reachable (some result) := by
  obtain ⟨tx, htx, hfills, rfl⟩ := h
  rw [outcome]
  split
  · next hnull => exact ⟨tx, htx, hfills, by rw [outcome, if_pos hnull]⟩
  · next hfailed => exact ⟨tx, htx, hfills, by rw [outcome, if_neg hfailed]⟩

theorem Scanned.weaken {reachable more : List String} {r : Option ExactChainScanResult}
    (h : Scanned net ledger payer prepared strict reachable r)
    (hmore : Missing ledger prepared reachable → Missing ledger prepared more) :
    Scanned net ledger payer prepared strict more r := by
  cases r with
  | none => exact h
  | some result =>
    cases result with
    | inconclusive => exact hmore h
    | absent => exact h
    | settled signature => exact h
    | failed signature => exact h

theorem scanPages_ends (hempty : lib.encoding.base58Decode "" = some [])
    (henvelope : hasValidTransactionEnvelope prepared = true) (pages : Nat) {before : Option String}
    {read : List String} (hread : ledger.history net payer = read ++ older before (ledger.history net payer))
    (hmissing : Missing ledger prepared read) :
    (scanPages lib prepared payer pages before).Ends (ledger.Answers net strict)
      (Scanned net ledger payer prepared strict
        ((older before (ledger.history net payer)).take (pages * signaturePageSize))) := by
  induction pages generalizing before read with
  | zero =>
    rw [Nat.zero_mul, List.take_zero]
    exact fun tx _ _ hmem => absurd hmem (by simp)
  | succ pages ih =>
    refine getSignatures_ends.bind ?_ ?_
    · rintro (⟨infos, reply, h, -⟩ | ⟨-, hnot⟩)
      · cases h
      · exact hnot
    · rintro infos (⟨infos', reply, h, hparse, hpage⟩ | ⟨h, -⟩)
      · cases h
        have hlisted : ∀ info ∈ infos, info.signature ∈ ledger.history net payer := by
          intro info hinfo
          have hmem : info.signature ∈ infos.map SignatureInfo.signature := List.mem_map_of_mem hinfo
          rw [hpage] at hmem
          exact (older_suffix before _).subset (List.mem_of_mem_take hmem)
        refine (scanCandidates_ends henvelope hlisted).bind (fun h => h) ?_
        intro result hresult
        cases result with
        | some result => exact Scanned.of_found hresult
        | none =>
          dsimp only at hresult ⊢
          have hread' : ledger.history net payer = read ++ (older before (ledger.history net payer)).take
              signaturePageSize ++ (older before (ledger.history net payer)).drop signaturePageSize := by
            rw [List.append_assoc, List.take_append_drop]
            exact hread
          have hmissing' : Missing ledger prepared (read ++ (older before (ledger.history net payer)).take
              signaturePageSize) := by
            intro tx htx hfills hmem
            rcases List.mem_append.mp hmem with hmem | hmem
            · exact hmissing tx htx hfills hmem
            · rw [← hpage] at hmem
              exact hresult tx htx hfills hmem
          split
          · next hshort =>
            have hlength := congrArg List.length hpage
            rw [List.length_map, List.length_take] at hlength
            have hrest : (older before (ledger.history net payer)).drop signaturePageSize = [] := by
              rw [List.drop_eq_nil_iff]
              omega
            rw [hrest, List.append_nil] at hread'
            rw [← hread'] at hmissing'
            exact hmissing'
          · next hfull =>
            have hnonempty : infos ≠ [] := by
              rintro rfl
              exact hfull (by decide)
            cases hlast : lastSignature infos with
            | none => exact absurd hlast (lastSignature_ne_none hnonempty (signature_nonempty hempty hparse))
            | some last =>
              have hend := lastSignature_eq hlast
              rw [hpage] at hend
              have hrest := older_last (ledger.history_nodup payer) hend
              rw [← hrest] at hread'
              refine (ih hread' hmissing').weaken (fun _ _ h => h) ?_
              intro r hr
              refine hr.weaken ?_
              intro hreach tx htx hfills hmem
              rw [Nat.succ_mul, Nat.add_comm, List.take_add, ← hrest, List.mem_append] at hmem
              rcases hmem with hmem | hmem
              · exact hmissing' tx htx hfills (List.mem_append_right _ hmem)
              · exact hreach tx htx hfills hmem
      · cases h

theorem message_of_fills (hfills : FillsEmptySlots prepared tx.bytes) :
    messageOf tx.bytes = messageOf prepared := by
  obtain ⟨value, length, hheader, hfills⟩ := hfills
  rw [messageOf_eq hheader, messageOf_eq (header_of_take hheader hfills.header), hfills.message]

theorem mem_ofAddress_of_fills (hpayer : payer ∈ net.accountKeys (messageOf prepared))
    (htx : tx ∈ ledger.transactions) (hfills : FillsEmptySlots prepared tx.bytes) :
    tx ∈ ledger.ofAddress net payer := by
  rw [Ledger.mem_ofAddress, message_of_fills hfills]
  exact ⟨htx, hpayer⟩

-- a transaction without an empty slot is known by its first signature
theorem known_signature (hknown : fullySignedTransactionSignature lib prepared = some signature)
    (hfills : FillsEmptySlots prepared tx.bytes) : signatureOf lib tx = signature := by
  obtain ⟨value, length, hheader, hfills⟩ := hfills
  rw [fullySignedTransactionSignature, hheader, Option.bind_some] at hknown
  dsimp only at hknown
  split at hknown
  · cases hknown
  · next hfull =>
    rw [Option.some.injEq] at hknown
    rw [signature_of_fills hheader hfills, ← hknown]
    rcases Nat.eq_zero_or_pos value with hzero | hpos
    · have hmessage := hfills.message
      have hheads := hfills.header
      rw [hzero, Nat.zero_mul, Nat.add_zero] at hmessage
      rw [← List.take_append_drop length tx.bytes, hheads, hmessage, List.take_append_drop]
    · rw [hfills.kept 0 hpos]
      rw [Bool.not_eq_true, List.any_eq_false] at hfull
      simpa using hfull 0 (List.mem_range.mpr hpos)

theorem scanKnownSignature_ends (henvelope : hasValidTransactionEnvelope prepared = true)
    (hpayer : payer ∈ net.accountKeys (messageOf prepared))
    (hknown : fullySignedTransactionSignature lib prepared = some signature) {reachable : List String} :
    (scanKnownSignature lib prepared signature).Ends (ledger.Answers net strict)
      (Scanned net ledger payer prepared strict reachable) := by
  have hall : ∀ {signatures : List String}, (∀ tx, ledger.lookup signature = some tx →
      ¬FillsEmptySlots prepared tx.bytes) → Missing ledger prepared signatures := by
    intro signatures hother tx htx hfills _
    exact hother tx (Ledger.lookup_eq_some.mpr ⟨htx, known_signature hknown hfills⟩) hfills
  refine getTransaction_ends.bind ?_ ?_
  · rintro (h | ⟨-, hnot⟩)
    · cases h
    · exact hnot
  · rintro transaction (h | ⟨h, -⟩)
    · cases h
      cases hlookup : ledger.lookup signature with
      | none =>
        refine hall ?_
        intro tx htx
        rw [hlookup] at htx
        cases htx
      | some tx =>
        obtain ⟨htx, hsignature⟩ := Ledger.lookup_eq_some.mp hlookup
        dsimp only
        split
        · next hequal =>
          rw [← hsignature] at hequal
          have hfills := (fills_iff_equal henvelope).mpr hequal
          refine Scanned.of_found ⟨tx, mem_ofAddress_of_fills hpayer htx hfills, hfills, ?_⟩
          rw [hsignature]
        · next hdiffers =>
          refine hall ?_
          intro other hother hfills
          rw [hlookup, Option.some.injEq] at hother
          subst hother
          rw [fills_iff_equal henvelope, hsignature] at hfills
          exact hdiffers hfills
    · cases h

theorem scanPrepared_ends (hempty : lib.encoding.base58Decode "" = some [])
    (henvelope : hasValidTransactionEnvelope prepared = true)
    (hpayer : payer ∈ net.accountKeys (messageOf prepared)) (pages : Nat) (evidence : PreparedEvidence) :
    (scanPrepared lib prepared payer pages evidence).Ends (ledger.Answers net strict)
      (Scanned net ledger payer prepared strict
        ((ledger.history net payer).take (pages * signaturePageSize))) := by
  rw [scanPrepared]
  split
  · next known hknown =>
    obtain ⟨hknown, -⟩ := Option.filter_eq_some_iff.mp hknown
    split at hknown
    · exact scanKnownSignature_ends henvelope hpayer hknown
    · cases hknown
  · have hstart : Missing ledger prepared [] := fun tx _ _ hmem => absurd hmem (by simp)
    exact @scanPages_ends lib net ledger prepared payer strict hempty henvelope pages none [] rfl hstart

-- what a scan may say of the payer's history
def Reports (net : Network) (ledger : Ledger lib) (attempt : ReconciliationAttempt)
    (result : ExactChainScanResult) : Prop :=
  result ≠ .inconclusive → ∃ exact, attempt.evidence? = some exact ∧
    let prepared := lib.bufferFromBase64 exact.signedTransactionBase64
    if result = .absent then ∀ tx ∈ ledger.ofAddress net exact.payer, ¬FillsEmptySlots prepared tx.bytes
    else Found net ledger exact.payer prepared result

-- the checks that stand before the scan
structure Scannable (lib : Libraries) (attempt : ReconciliationAttempt) (exact : ExactEvidence) : Prop where
  evidence : attempt.evidence? = some exact
  envelope : hasValidTransactionEnvelope (lib.bufferFromBase64 exact.signedTransactionBase64) = true
  prepared : ∃ evidence, preparedTransactionEvidence lib
      (lib.bufferFromBase64 exact.signedTransactionBase64) = some evidence ∧
    preparedIsScannable lib attempt (lib.bufferFromBase64 exact.signedTransactionBase64) exact.payer
      exact.recentBlockhash evidence = true

def Reachable (net : Network) (ledger : Ledger lib) (exact : ExactEvidence) (pages : Nat) : Prop :=
  ∃ tx ∈ (ledger.ofAddress net exact.payer).take (pages * signaturePageSize),
    FillsEmptySlots (lib.bufferFromBase64 exact.signedTransactionBase64) tx.bytes

variable {enc : Encoding} {attempt : ReconciliationAttempt} {exact : ExactEvidence} {pages : Nat}

theorem Reports.of_scanned {result : ExactChainScanResult} {reachable : List String}
    (hexact : attempt.evidence? = some exact)
    (h : Scanned net ledger exact.payer (lib.bufferFromBase64 exact.signedTransactionBase64) strict reachable
      (some result)) : Reports net ledger attempt result := by
  intro hresult
  refine ⟨exact, hexact, ?_⟩
  cases result with
  | inconclusive => exact absurd rfl hresult
  | absent =>
    rw [if_pos rfl]
    intro tx htx hfills
    exact h tx (Ledger.mem_ofAddress.mp htx).1 hfills (List.mem_map_of_mem htx)
  | settled signature => exact (if_neg (by simp)).mpr h
  | failed signature => exact (if_neg (by simp)).mpr h

theorem payer_of_scannable (hlib : lib.Faithful net enc) {evidence : PreparedEvidence}
    (hevidence : preparedTransactionEvidence lib prepared = some evidence)
    (hscannable : preparedIsScannable lib attempt prepared payer signature evidence = true) :
    payer ∈ net.accountKeys (messageOf prepared) := by
  simp only [preparedIsScannable, Bool.and_eq_true, decide_eq_true_eq] at hscannable
  exact (evidence_faithful hlib hevidence).2 payer hscannable.1.1.2

theorem scan_reports (hlib : lib.Faithful net enc) (hempty : lib.encoding.base58Decode "" = some [])
    (attempt : ReconciliationAttempt) (pages : Nat) :
    (scanExactFinalizedChainAttempt lib attempt pages).Ends (ledger.Answers net strict)
      (fun r => ∀ result, r = some result → Reports net ledger attempt result) := by
  have hquiet : ∀ result, some ExactChainScanResult.inconclusive = some result →
      Reports net ledger attempt result := by
    rintro result h
    cases h
    exact fun h => absurd rfl h
  rw [scanExactFinalizedChainAttempt]
  split
  · exact hquiet
  · next exact hexact =>
    split
    · exact fun result h => by cases h
    · dsimp only
      split
      · exact hquiet
      · next henvelope =>
        rw [Bool.not_eq_false] at henvelope
        split
        · exact hquiet
        · next evidence hevidence =>
          split
          · next hscannable =>
            have hpayer := payer_of_scannable hlib hevidence hscannable
            refine (scanPrepared_ends hempty henvelope hpayer pages evidence).weaken (fun _ _ h => h) ?_
            rintro _ hscanned result rfl
            exact .of_scanned hexact hscanned
          · exact hquiet

theorem scan_finds (hlib : lib.Faithful net enc) (hempty : lib.encoding.base58Decode "" = some [])
    (hscannable : Scannable lib attempt exact) (hpages : 1 ≤ pages ∧ pages ≤ 20)
    (hreachable : Reachable net ledger exact pages) :
    (scanExactFinalizedChainAttempt lib attempt pages).Ends (ledger.Answers net True)
      (fun r => ∃ result, r = some result ∧ Found net ledger exact.payer
        (lib.bufferFromBase64 exact.signedTransactionBase64) result) := by
  obtain ⟨evidence, hevidence, hchecked⟩ := hscannable.prepared
  have hpayer := payer_of_scannable hlib hevidence hchecked
  rw [scanExactFinalizedChainAttempt, hscannable.evidence]
  dsimp only
  rw [if_neg (by omega), if_neg (by rw [hscannable.envelope]; decide), hevidence]
  dsimp only
  rw [if_pos hchecked]
  refine (scanPrepared_ends hempty hscannable.envelope hpayer pages evidence).weaken (fun _ _ h => h) ?_
  intro r hscanned
  obtain ⟨tx, htx, hfills⟩ := hreachable
  have hlisted : signatureOf lib tx ∈
      (ledger.history net exact.payer).take (pages * signaturePageSize) := by
    rw [Ledger.history, ← List.map_take]
    exact List.mem_map_of_mem htx
  have hmem := (Ledger.mem_ofAddress.mp (List.mem_of_mem_take htx)).1
  cases r with
  | none => exact absurd trivial hscanned
  | some result =>
    cases result with
    | inconclusive => exact absurd hlisted (hscanned tx hmem hfills)
    | absent => exact absurd (List.mem_of_mem_take hlisted) (hscanned tx hmem hfills)
    | settled signature => exact ⟨_, rfl, hscanned⟩
    | failed signature => exact ⟨_, rfl, hscanned⟩

section Scans

variable (net) (ledger) (attempt) (exact) (pages)

structure SoundScan : Prop where
  reports : (scanExactFinalizedChainAttempt lib attempt pages).Ends (ledger.Tells net)
    (fun r => ∀ result, r = some result → Reports net ledger attempt result)

structure CompleteScan : Prop where
  finds : (scanExactFinalizedChainAttempt lib attempt pages).Ends
    (fun request reply => ledger.Tells net request reply ∧ WellFormed lib request reply)
    (fun r => ∃ result, r = some result ∧ Found net ledger exact.payer
      (lib.bufferFromBase64 exact.signedTransactionBase64) result)

end Scans

def OnlyFirstOpen (prepared : Bytes) : Prop :=
  ∀ value length, decodeShortVec prepared = some (value, length) →
    ∀ index < value, isZeroSignature (slot prepared length index) = true ↔ index = 0

theorem scan_exact (hlib : lib.Faithful net enc) (hempty : lib.encoding.base58Decode "" = some []) :
    (∀ (ledger : Ledger lib) attempt pages, SoundScan net ledger attempt pages) ∧
    (∀ (ledger : Ledger lib) attempt exact pages, Scannable lib attempt exact → 1 ≤ pages ∧ pages ≤ 20 →
      Reachable net ledger exact pages → CompleteScan net ledger attempt exact pages) ∧
    (∀ prepared candidate rpcSignature, hasValidTransactionEnvelope prepared = true →
      matchesPreparedTransaction lib.encoding prepared candidate rpcSignature =
        equalPreparedTransaction lib prepared candidate rpcSignature) ∧
    (∀ sha256 transactionBase64 preparedBase64 rpcSignature,
      encodeBase64 (lib.bufferFromBase64 preparedBase64) = preparedBase64 →
      hasValidTransactionEnvelope (lib.bufferFromBase64 preparedBase64) = true →
      OnlyFirstOpen (lib.bufferFromBase64 preparedBase64) →
      equalPreparedTransaction lib (lib.bufferFromBase64 preparedBase64)
        (lib.bufferFromBase64 transactionBase64) rpcSignature = true →
      paymentAttemptIdFromSettledTransaction lib sha256 transactionBase64 =
        some (sha256 preparedBase64)) := by
  refine ⟨?_, ?_, ?_, ?_⟩
  · intro ledger attempt pages
    refine ⟨(@scan_reports lib net ledger False enc hlib hempty attempt pages).weaken ?_ (fun _ h => h)⟩
    exact fun _ _ htells => ⟨htells, fun h => h.elim⟩
  · intro ledger attempt exact pages hscannable hpages hreachable
    refine ⟨(scan_finds hlib hempty hscannable hpages hreachable).weaken ?_ (fun _ h => h)⟩
    exact fun _ _ hanswer => ⟨hanswer.1, fun _ => hanswer.2⟩
  · intro prepared candidate rpcSignature henvelope
    exact matchers_agree henvelope
  · intro sha256 transactionBase64 preparedBase64 rpcSignature hcanonical henvelope hopen hequal
    exact attemptId_of_settled hcanonical henvelope hopen hequal

theorem incomplete_of_bound (hexact : attempt.evidence? = some exact) (hpages : 20 < pages) :
    ¬CompleteScan net ledger attempt exact pages := by
  rintro ⟨hfinds⟩
  rw [scanExactFinalizedChainAttempt, hexact] at hfinds
  dsimp only at hfinds
  rw [if_pos (Or.inr hpages)] at hfinds
  obtain ⟨result, hresult, -⟩ := hfinds
  cases hresult

theorem not_found_inconclusive : ¬Found net ledger payer prepared .inconclusive := by
  rintro ⟨tx, -, -, houtcome⟩
  rw [outcome] at houtcome
  split at houtcome <;> cases houtcome

theorem incomplete_of_guard (hexact : attempt.evidence? = some exact) (hpages : 1 ≤ pages ∧ pages ≤ 20)
    (hguard : ∀ evidence, preparedTransactionEvidence lib
      (lib.bufferFromBase64 exact.signedTransactionBase64) = some evidence →
      preparedIsScannable lib attempt (lib.bufferFromBase64 exact.signedTransactionBase64) exact.payer
        exact.recentBlockhash evidence = false) :
    ¬CompleteScan net ledger attempt exact pages := by
  rintro ⟨hfinds⟩
  have hquiet : scanExactFinalizedChainAttempt lib attempt pages = .done .inconclusive := by
    rw [scanExactFinalizedChainAttempt, hexact]
    dsimp only
    rw [if_neg (by omega)]
    split
    · rfl
    · split
      · rfl
      · next evidence hevidence =>
        rw [hguard evidence hevidence, if_neg (by decide)]
        rfl
  rw [hquiet] at hfinds
  obtain ⟨result, hresult, hfound⟩ := hfinds
  rw [Option.some.injEq] at hresult
  exact not_found_inconclusive (hresult ▸ hfound)

section Paid

def paidPayer : String := "9hSR6S7WPtxmTojgo6GG3k4yDPecgJY292j7xrsUGWBu"
def paidFeePayer : String := "AKnL4NNf3DGWZJS6cPknBuEGnVsV4A4m5tgebLHaRSZ9"
def paidSeller : String := "GyGKxMyg1p9SsHfm15MkNUu1u9TN2JtTspcdmrtGUdse"
def paidSource : String := "GzpVTWkyGGfBXRaprnrhV3JtGj3TT52z5w2CrEJsTfjm"
def paidDestination : String := "6ndWAgFxMAVLobD8WrdBj5w41GrDeJYiQX91nNSrwkZp"
def paidAsset : String := "4zMMC9srt5Ri5X14GAgXhaHii3GnPAEERYPJgZJDncDU"
def paidBlockhash : String := "1thX6LZfHDZZKUs92febYZhYRcXddmzfzF2NvTkPNE"
def paidSignature : String :=
  "64tVaNdESofDbkx24bRpCxGTm6RSmqv3qS9U2zSEdRmZASFkXnzJ4Jms4LH3isfeR5M9fT75R1FBbMekTah1PfTY"
def paidKeys : List String :=
  [paidFeePayer, paidPayer, paidSource, paidDestination, paidAsset, tokenProgram, memoProgramAddress]

def paidTransfer : Bytes := [12, 223, 57, 0, 0, 0, 0, 0, 0, 6]

def paidMemo : Bytes :=
  [111, 112, 101, 110, 115, 104, 101, 108, 102, 58, 118, 49, 58, 100, 111, 99, 117, 109, 101, 110,
    116, 58, 113, 49]

def paidFeeBytes : Bytes :=
  [253, 112, 12, 68, 234, 52, 82, 241, 222, 168, 45, 131, 7, 130, 3, 164, 112, 181, 186, 178, 255,
    122, 230, 87, 249, 223, 220, 55, 109, 25, 181, 149, 19, 14, 242, 115, 39, 114, 151, 206, 96,
    167, 134, 82, 26, 153, 102, 184, 168, 154, 118, 139, 236, 25, 247, 251, 58, 12, 37, 199, 161,
    128, 70, 11]

def paidPayerBytes : Bytes :=
  [114, 172, 23, 50, 168, 10, 142, 157, 71, 192, 193, 55, 162, 48, 214, 40, 175, 141, 102, 121,
    156, 58, 194, 196, 90, 57, 34, 186, 225, 239, 159, 104, 253, 13, 202, 243, 32, 134, 28, 158,
    46, 185, 79, 224, 103, 16, 39, 16, 160, 165, 158, 151, 64, 251, 236, 124, 188, 106, 195, 185,
    209, 142, 255, 8]

-- two signers and three read-only accounts; a transfer of 14815 and the memo
def paidMessage : Bytes :=
  [2, 1, 3, 7, 138, 136, 227, 221, 116, 9, 241, 149, 253, 82, 219, 45, 60, 186, 93, 114, 202, 103,
    9, 191, 29, 148, 18, 27, 243, 116, 136, 1, 180, 15, 111, 92, 129, 57, 119, 14, 168, 125, 23,
    95, 86, 163, 84, 102, 195, 76, 126, 204, 203, 141, 138, 145, 180, 238, 55, 162, 93, 246, 15,
    91, 143, 201, 179, 148, 237, 175, 27, 156, 22, 31, 109, 105, 138, 70, 185, 176, 120, 9, 164,
    161, 141, 191, 83, 196, 50, 182, 162, 75, 241, 177, 8, 131, 252, 203, 34, 152, 85, 250, 216,
    80, 60, 28, 76, 194, 51, 214, 182, 163, 114, 90, 165, 81, 79, 238, 171, 120, 158, 175, 34,
    150, 111, 114, 162, 217, 67, 49, 201, 91, 59, 68, 44, 179, 145, 33, 87, 241, 58, 147, 61, 1,
    52, 40, 45, 3, 43, 95, 254, 205, 1, 162, 219, 241, 183, 121, 6, 8, 223, 0, 46, 167, 6, 221,
    246, 225, 215, 101, 161, 147, 217, 203, 225, 70, 206, 235, 121, 172, 28, 180, 133, 237, 95,
    91, 55, 145, 58, 140, 245, 133, 126, 255, 0, 169, 5, 74, 83, 90, 153, 41, 33, 6, 77, 36, 232,
    113, 96, 218, 56, 124, 124, 53, 181, 221, 188, 146, 187, 129, 228, 31, 168, 64, 65, 5, 68,
    141, 0, 1, 2, 3, 4, 5, 6, 7, 8, 9, 10, 11, 12, 13, 14, 15, 16, 17, 18, 19, 20, 21, 22, 23, 24,
    25, 26, 27, 28, 29, 30, 31, 2, 5, 4, 2, 4, 3, 1, 10, 12, 223, 57, 0, 0, 0, 0, 0, 0, 6, 6, 0,
    24, 111, 112, 101, 110, 115, 104, 101, 108, 102, 58, 118, 49, 58, 100, 111, 99, 117, 109, 101,
    110, 116, 58, 113, 49]

def paidPrepared : Bytes :=
  2 :: List.replicate 64 0 ++ paidPayerBytes ++ paidMessage

def paidTransaction : Bytes :=
  2 :: paidFeeBytes ++ paidPayerBytes ++ paidMessage

def paidLegacy (transaction : Bytes) : LegacyTransaction where
  recentBlockhash := some paidBlockhash
  signatures := [(paidFeePayer, some (slot transaction 1 0)), (paidPayer, some (slot transaction 1 1))]
  instructions := [(tokenProgram, [paidSource, paidAsset, paidDestination, paidPayer], paidTransfer),
    (memoProgramAddress, [], paidMemo)]

-- the packages and the network, as they read the sample's message
def paidLibraries : Libraries where
  encoding := .standard
  bufferFromBase64 text := (Encoding.standard.base64Decode text).getD []
  utf8 bytes := String.ofList (bytes.map fun byte => Char.ofNat byte.toNat)
  legacyTransaction transaction :=
    if messageOf transaction = paidMessage then some (paidLegacy transaction) else none
  versionedTransaction _ := none
  messageBytes transaction := some (messageOf transaction)
  verifySignature signer signature message := some <| decide <| message = paidMessage ∧
    (signer = paidFeePayer ∧ signature = paidFeeBytes ∨
      signer = paidPayer ∧ signature = paidPayerBytes)
  associatedTokenPda asset owner :=
    if asset = paidAsset ∧ owner = paidPayer then some paidSource
    else if asset = paidAsset ∧ owner = paidSeller then some paidDestination
    else none

def paidNetwork : Network where
  accountKeys message := if message = paidMessage then paidKeys else []
  blockhash message := if message = paidMessage then paidBlockhash else ""

def paidFinalized : ExactTransaction where
  bytes := paidTransaction
  err := .null

def paidLedger : Ledger paidLibraries where
  transactions := [paidFinalized]
  signatures := List.nodup_singleton _

def paidAttempt : ReconciliationAttempt where
  settlementKind := .quote .document
  quoteId := "q1"
  attemptId := "1d1113dfb788c78527e0fe93c04514a375140464ec5a6836cee6935fb59dadb9"
  reconcileAfter := 1760000060000
  createdAt := 1760000000000
  payTo := paidSeller
  network := "solana:devnet"
  asset := paidAsset
  amountAtomic := "14815"
  payer := some paidPayer
  signedTransactionBase64 := some (encodeBase64 paidPrepared)
  recentBlockhash := some paidBlockhash
  absenceObservedAt := none

def paidEvidence : ExactEvidence where
  payer := paidPayer
  signedTransactionBase64 := encodeBase64 paidPrepared
  recentBlockhash := paidBlockhash

theorem paidLegacy_some {transaction : Bytes} {legacy : LegacyTransaction}
    (h : paidLibraries.legacyTransaction transaction = some legacy) :
    messageOf transaction = paidMessage ∧ legacy = paidLegacy transaction := by
  dsimp only [paidLibraries] at h
  split at h
  · next hmessage => exact ⟨hmessage, (Option.some.inj h).symm⟩
  · cases h

theorem paidLibraries_faithful : paidLibraries.Faithful paidNetwork Encoding.standard where
  buffer h := by simp [paidLibraries, h]
  legacySigners h := by
    obtain ⟨hmessage, rfl⟩ := paidLegacy_some h
    have hkeys : paidNetwork.accountKeys (messageOf _) = paidKeys := if_pos hmessage
    rw [hkeys]
    simp [paidLegacy, paidKeys]
  legacyBlockhash h hhash := by
    obtain ⟨hmessage, rfl⟩ := paidLegacy_some h
    have hblockhash : paidNetwork.blockhash (messageOf _) = paidBlockhash := if_pos hmessage
    rw [hblockhash]
    exact (Option.some.inj hhash).symm
  versionedKeys h := nomatch h
  versionedBlockhash h := nomatch h

theorem paid_buffer (bytes : Bytes) : paidLibraries.bufferFromBase64 (encodeBase64 bytes) = bytes := by
  simp [paidLibraries, Encoding.standard, encodeBase64, base64Groups_chars]

theorem paid_checks : (hasValidTransactionEnvelope paidPrepared = true ∧ base64Chars paidPrepared ≠ []) ∧
    preparedTransactionEvidence paidLibraries paidPrepared = some ⟨paidBlockhash, [paidPayer], [0]⟩ ∧
    equalPreparedTransaction paidLibraries paidPrepared paidTransaction
      (signatureOf paidLibraries paidFinalized) = true ∧
    Chain.mentions paidNetwork paidFinalized paidPayer = true ∧
    preparedIsScannable paidLibraries paidAttempt paidPrepared paidPayer paidBlockhash
      ⟨paidBlockhash, [paidPayer], [0]⟩ = true ∧
    ∀ index < 2, isZeroSignature (slot paidPrepared 1 index) = true ↔ index = 0 := by
  decide +kernel

theorem paid_envelope : hasValidTransactionEnvelope paidPrepared = true := paid_checks.1.1

theorem paid_evidence (amountAtomic : String) :
    ReconciliationAttempt.evidence? { paidAttempt with amountAtomic := amountAtomic } =
      some paidEvidence := by
  have hpayer : paidPayer ≠ "" := by decide
  have htext : encodeBase64 paidPrepared ≠ "" := by
    rw [encodeBase64, Ne, String.ofList_eq_empty_iff]
    exact paid_checks.1.2
  have hblockhash : paidBlockhash ≠ "" := by decide
  simp [ReconciliationAttempt.evidence?, paidAttempt, paidEvidence, Option.filter, hpayer, htext,
    hblockhash]

theorem paid_prepared : preparedTransactionEvidence paidLibraries paidPrepared =
    some ⟨paidBlockhash, [paidPayer], [0]⟩ := paid_checks.2.1

theorem paid_scannable : Scannable paidLibraries paidAttempt paidEvidence where
  evidence := paid_evidence "14815"
  envelope := by
    rw [paidEvidence, paid_buffer]
    exact paid_envelope
  prepared := by
    rw [paidEvidence, paid_buffer]
    exact ⟨_, paid_prepared, paid_checks.2.2.2.2.1⟩

theorem paid_equal : equalPreparedTransaction paidLibraries paidPrepared paidTransaction
    (signatureOf paidLibraries paidFinalized) = true := paid_checks.2.2.1

theorem paid_reachable {pages : Nat} (h : 1 ≤ pages) :
    Reachable paidNetwork paidLedger paidEvidence pages := by
  have hlisted : paidLedger.ofAddress paidNetwork paidPayer = [paidFinalized] := by
    simp [Ledger.ofAddress, paidLedger, paid_checks.2.2.2.1]
  refine ⟨paidFinalized, ?_, ?_⟩
  · have hbound : 1 ≤ pages * signaturePageSize := Nat.le_trans h (Nat.le_mul_of_pos_right _ (by decide))
    rw [paidEvidence, hlisted, List.take_of_length_le (by simpa using hbound)]
    exact List.mem_singleton_self _
  · rw [paidEvidence, paid_buffer]
    exact (fills_iff_equal paid_envelope).mpr paid_equal

theorem paid_open : OnlyFirstOpen paidPrepared := by
  intro value length h
  have hheader : decodeShortVec paidPrepared = some (2, 1) := by decide
  rw [hheader, Option.some.injEq, Prod.mk.injEq] at h
  obtain ⟨rfl, rfl⟩ := h
  exact paid_checks.2.2.2.2.2

theorem scan_exact_sample : CompleteScan paidNetwork paidLedger paidAttempt paidEvidence 1 ∧
    paymentAttemptIdFromSettledTransaction paidLibraries (fun _ => paidAttempt.attemptId)
      (encodeBase64 paidTransaction) = some paidAttempt.attemptId := by
  obtain ⟨-, hfinds, -, hid⟩ := @scan_exact paidLibraries paidNetwork Encoding.standard
    paidLibraries_faithful (by decide)
  refine ⟨?_, ?_⟩
  · exact hfinds paidLedger paidAttempt paidEvidence 1 paid_scannable ⟨by decide, by decide⟩
      (paid_reachable le_rfl)
  · refine hid (fun _ => paidAttempt.attemptId) (encodeBase64 paidTransaction)
      (encodeBase64 paidPrepared) (signatureOf paidLibraries paidFinalized) ?_ ?_ ?_ ?_
    · rw [paid_buffer]
    · rw [paid_buffer]
      exact paid_envelope
    · rw [paid_buffer]
      exact paid_open
    · rw [paid_buffer, paid_buffer]
      exact paid_equal

-- a scan of 21 pages throws, and one for another amount does not look
theorem guarded_scans_refuse :
    OnlyFirstOpen paidPrepared ∧ Reachable paidNetwork paidLedger paidEvidence 1 ∧
    Reachable paidNetwork paidLedger paidEvidence 21 ∧
    ¬CompleteScan paidNetwork paidLedger paidAttempt paidEvidence 21 ∧
    ¬CompleteScan paidNetwork paidLedger { paidAttempt with amountAtomic := "14816" } paidEvidence 1 := by
  refine ⟨paid_open, paid_reachable le_rfl, paid_reachable (by decide), ?_, ?_⟩
  · exact incomplete_of_bound paid_scannable.evidence (by decide)
  · refine incomplete_of_guard (paid_evidence "14816") ⟨by decide, by decide⟩ ?_
    intro evidence hevidence
    rw [paidEvidence, paid_buffer] at hevidence ⊢
    rw [paid_prepared, Option.some.injEq] at hevidence
    subst hevidence
    decide +kernel

end Paid

end Obulus.Gateway
