import Mathlib.Data.Option.Basic
import Obulus.Gateway.Chain

namespace Obulus.Gateway

open Foundation Store

variable {lib : Libraries} {net : Network}

section Bytes

variable {prepared landed transaction : Bytes} {signature : String}

theorem chunks64_getElem? (n index : Nat) (bytes : Bytes) :
    (chunks64 n bytes)[index]? =
      if index < n then some (subarray bytes (index * 64) 64) else none := by
  induction n generalizing index bytes with
  | zero => simp [chunks64]
  | succ n ih =>
    cases index with
    | zero => simp [chunks64, subarray]
    | succ index =>
      have hstart : 64 + index * 64 = (index + 1) * 64 := by omega
      simp [chunks64, ih, subarray, List.drop_drop, hstart]

-- the signature slots the store checks are the ones the gateway reads
theorem signatureChunks_getElem? {signatures : Bytes}
    (h : solanaTransactionSignatures transaction = some signatures) :
    ∃ value length, decodeShortVec transaction = some (value, length) ∧ 0 < value ∧
      ∀ index < value, (signatureChunks signatures)[index]? = some (slot transaction length index) := by
  simp only [solanaTransactionSignatures, Option.bind_eq_bind, Option.bind_eq_some_iff,
    Option.guard_eq_some', exists_const, Option.pure_def, Option.some.injEq] at h
  obtain ⟨⟨value, length⟩, hheader, hpos, hbound, rfl⟩ := h
  refine ⟨value, length, hheader, hpos.1, fun index hindex => ?_⟩
  dsimp only at hbound ⊢
  have hlength : ((transaction.take (length + value * 64)).drop length).length = value * 64 := by
    rw [List.length_drop, List.length_take]
    omega
  have hcount : value * 64 / 64 = value := by omega
  rw [signatureChunks, chunks64_getElem?, hlength, hcount, if_pos hindex]
  have hfits : index * 64 + 64 ≤ value * 64 := by omega
  simp only [slot, subarray, List.drop_drop, Option.some.injEq]
  rw [List.drop_take, List.take_take]
  congr 1
  omega

theorem open_feePayer (h : validX402PreparedTransaction prepared = true) :
    ∃ value length, decodeShortVec prepared = some (value, length) ∧ 0 < value ∧
      isZeroSignature (slot prepared length 0) = true ∧
      ∀ index < value, 0 < index → isZeroSignature (slot prepared length index) = false := by
  unfold validX402PreparedTransaction at h
  split at h
  · cases h
  · next signatures hsignatures =>
    obtain ⟨value, length, hheader, hvalue, hslots⟩ := signatureChunks_getElem? hsignatures
    split at h
    · cases h
    · next feePayer rest hchunks =>
      simp only [Bool.and_eq_true, decide_eq_true_eq, List.all_eq_true, Bool.not_eq_true'] at h
      refine ⟨value, length, hheader, hvalue, ?_, ?_⟩
      · have hslot := hslots 0 hvalue
        rw [hchunks, List.getElem?_cons_zero, Option.some.injEq] at hslot
        exact hslot ▸ h.1.1
      · intro index hindex hpos
        obtain ⟨index, rfl⟩ := Nat.exists_eq_succ_of_ne_zero hpos.ne'
        have hslot := hslots _ hindex
        rw [hchunks, List.getElem?_cons_succ] at hslot
        exact h.2 _ (List.mem_of_getElem? hslot)

theorem zero_of_prefix {a b : Bytes} (hlen : b.length = a.length) (h : a.isPrefixOf b = true) :
    b = a := by
  exact ((List.isPrefixOf_iff_prefix.mp h).eq_of_length hlen.symm).symm

theorem slot_length {a b : Bytes} (h : b.length = a.length) (length index : Nat) :
    (slot b length index).length = (slot a length index).length := by
  simp [slot, subarray, h]

theorem messageOf_eq {value length : Nat} (h : decodeShortVec transaction = some (value, length)) :
    messageOf transaction = transaction.drop (length + value * 64) := by
  simp [messageOf, h]

theorem equal_of_completes {tx : ExactTransaction} (hx : validX402PreparedTransaction prepared = true)
    (hsigned : FullySigned tx.bytes) (h : Completes prepared tx.bytes) :
    equalPreparedTransaction lib prepared tx.bytes (signatureOf lib tx) = true := by
  obtain ⟨value, length, hp, hl, hlen, hmessage, hothers⟩ := h
  obtain ⟨_, _, hp', -, hzero, -⟩ := open_feePayer hx
  obtain ⟨rfl, rfl⟩ := Prod.mk.inj (Option.some.inj (hp.symm.trans hp'))
  obtain ⟨_, _, hl', hfull⟩ := hsigned
  obtain ⟨rfl, rfl⟩ := Prod.mk.inj (Option.some.inj (hl.symm.trans hl'))
  rw [messageOf_eq hp, messageOf_eq hl] at hmessage
  have hsignature : signatureOf lib tx = lib.encoding.base58Encode (slot tx.bytes length 0) := by
    simp [signatureOf, hl]
  simp only [equalPreparedTransaction, hp, hl, hlen, hmessage, hsignature, and_self, decide_true,
    Bool.true_and, Bool.and_true, Bool.and_eq_true, List.all_eq_true, List.mem_range]
  refine ⟨List.isPrefixOf_iff_prefix.mpr List.prefix_rfl, fun index hindex => ?_⟩
  have hnonzero := hfull index hindex
  unfold slotAgrees
  rcases Nat.eq_zero_or_pos index with rfl | hpos
  · rw [if_pos hzero, hnonzero]
    rfl
  · rw [hothers index hindex hpos] at hnonzero ⊢
    rw [if_neg (by simp [hnonzero])]
    exact List.isPrefixOf_iff_prefix.mpr List.prefix_rfl

theorem completes_of_equal {tx : ExactTransaction} (hx : validX402PreparedTransaction prepared = true)
    (h : equalPreparedTransaction lib prepared tx.bytes signature = true) :
    Completes prepared tx.bytes := by
  obtain ⟨value, length, hp, -, -, hrest⟩ := open_feePayer hx
  simp only [equalPreparedTransaction, hp] at h
  split at h
  · next left right hleft hright =>
    cases hleft
    simp only [Bool.and_eq_true, decide_eq_true_eq, List.all_eq_true, List.mem_range] at h
    obtain ⟨⟨⟨⟨rfl, hlen⟩, hmessage⟩, hslots⟩, -⟩ := h
    refine ⟨value, length, hp, hright, hlen.symm, ?_, fun index hindex hpos => ?_⟩
    · rw [messageOf_eq hp, messageOf_eq hright]
      exact zero_of_prefix (by simp [hlen]) hmessage
    · have hslot := hslots index hindex
      rw [slotAgrees, if_neg (by simp [hrest index hindex hpos])] at hslot
      exact zero_of_prefix (slot_length hlen.symm length index) hslot
  · cases h

theorem Completes.message (h : Completes prepared landed) : messageOf landed = messageOf prepared := by
  obtain ⟨_, _, _, _, _, hmessage, _⟩ := h
  exact hmessage

end Bytes

section Evidence

variable {enc : Encoding} {prepared : Bytes} {evidence : PreparedEvidence}

theorem evidence_faithful (hlib : lib.Faithful net enc)
    (h : preparedTransactionEvidence lib prepared = some evidence) :
    evidence.recentBlockhash = net.blockhash (messageOf prepared) ∧
      ∀ address ∈ evidence.signedAddresses, address ∈ net.accountKeys (messageOf prepared) := by
  unfold preparedTransactionEvidence at h
  cases hlegacy : lib.legacyTransaction prepared with
  | some legacy =>
    simp only [hlegacy, legacyEvidence, Option.map_eq_some_iff, Option.filter_eq_some_iff] at h
    obtain ⟨hash, ⟨hhash, -⟩, rfl⟩ := h
    refine ⟨hlib.legacyBlockhash hlegacy hhash, fun address haddress => ?_⟩
    obtain ⟨item, hitem, rfl⟩ := List.mem_map.mp haddress
    exact hlib.legacySigners hlegacy item (List.mem_filter.mp hitem).1
  | none =>
    simp only [hlegacy, Option.bind_eq_some_iff] at h
    obtain ⟨versioned, hversioned, h⟩ := h
    simp only [versionedEvidence, Option.ite_none_left_eq_some, Option.some.injEq] at h
    obtain ⟨-, rfl⟩ := h
    refine ⟨hlib.versionedBlockhash hversioned, fun address haddress => ?_⟩
    obtain ⟨item, hitem, rfl⟩ := List.mem_map.mp haddress
    have hzip := List.of_mem_zip (List.mem_filter.mp hitem).1
    exact hlib.versionedKeys hversioned item.1 (List.mem_of_mem_take hzip.1)

end Evidence

section Scans

variable {prepared : Bytes} {payer : String} {since c t : Chain lib}

-- what a scan may report at chain `c` of the transactions landed by `since`
def Truthful (since : Chain lib) (prepared : Bytes) (c : Chain lib) : ExactChainScanResult → Prop
  | .settled signature => ∃ tx ∈ c, tx.err.isNull = true ∧ signatureOf lib tx = signature ∧
      Completes prepared tx.bytes
  | .failed _ => ∃ tx ∈ c, tx.err.isNull = false ∧ Completes prepared tx.bytes
  | .absent => ∀ tx ∈ since, ¬Completes prepared tx.bytes
  | .inconclusive => True

theorem Truthful.grow {result : ExactChainScanResult} (h : Truthful since prepared c result)
    (hct : c ≤ t) : Truthful since prepared t result := by
  cases result with
  | settled signature =>
    obtain ⟨tx, htx, h⟩ := h
    exact ⟨tx, Chain.mem_mono hct htx, h⟩
  | failed signature =>
    obtain ⟨tx, htx, h⟩ := h
    exact ⟨tx, Chain.mem_mono hct htx, h⟩
  | absent => exact h
  | inconclusive => trivial

theorem Truthful.outcome {tx : ExactTransaction} {signature : String} (htx : tx ∈ c)
    (hsignature : signatureOf lib tx = signature) (h : Completes prepared tx.bytes) :
    Truthful since prepared c (outcome tx signature) := by
  unfold Gateway.outcome
  split
  · next hnull => exact ⟨tx, htx, hnull, hsignature, h⟩
  · next hnull => exact ⟨tx, htx, by simpa using hnull, h⟩

theorem getTransaction_yields (signature : String) :
    (getTransaction lib signature).Yields (Answers lib net)
      (fun t transaction => transaction = t.lookup signature) c := by
  intro t reply _ hreply
  cases hparse : parseExactBase64Transaction lib reply with
  | ok transaction =>
    simp only [Dialogue.done_bind, hparse]
    exact hreply transaction hparse
  | error message =>
    simp only [Dialogue.done_bind, hparse]
    trivial

theorem getSignatures_yields (before : Option String) :
    (getSignaturesForAddress lib payer before).Yields (Answers lib net)
      (fun t infos => infos.map SignatureInfo.signature =
        t.page net payer signaturePageSize before) c := by
  intro t reply _ hreply
  cases hparse : parseSignatureInfos lib reply with
  | ok infos =>
    simp only [Dialogue.done_bind, hparse]
    exact hreply infos hparse
  | error message =>
    simp only [Dialogue.done_bind, hparse]
    trivial

theorem Truthful.of_equal {tx : ExactTransaction} {signature : String}
    (hx : validX402PreparedTransaction prepared = true) (hlookup : c.lookup signature = some tx)
    (h : equalPreparedTransaction lib prepared tx.bytes signature = true) :
    Truthful since prepared c (Gateway.outcome tx signature) := by
  obtain ⟨htx, hsignature⟩ := Chain.lookup_eq_some.mp hlookup
  exact .outcome htx hsignature (completes_of_equal hx h)

-- after a page, either a result or the page holds no completion of the prepared transaction
def Judged (since c : Chain lib) (prepared : Bytes) (infos : List SignatureInfo) (t : Chain lib) :
    Option ExactChainScanResult → Prop
  | some result => Truthful since prepared t result
  | none => ∀ info ∈ infos, ∀ tx ∈ c, signatureOf lib tx = info.signature →
      ¬Completes prepared tx.bytes

theorem scanCandidates_yields (hx : validX402PreparedTransaction prepared = true)
    (infos : List SignatureInfo) (hct : c ≤ t) :
    (scanCandidates lib prepared infos).Yields (Answers lib net)
      (Judged since c prepared infos) t := by
  induction infos generalizing t with
  | nil =>
    intro info hinfo
    cases hinfo
  | cons candidate rest ih =>
    refine (getTransaction_yields candidate.signature).bind fun u transaction htu hlookup => ?_
    subst hlookup
    cases hfound : u.lookup candidate.signature with
    | none => trivial
    | some landed =>
      simp only
      split
      · next hequal => exact Truthful.of_equal hx hfound hequal
      · next hdiffers =>
        refine (ih (hct.trans htu)).weaken fun v result huv hjudged => ?_
        cases result with
        | some result => exact hjudged
        | none =>
          intro info hinfo tx htx hsignature hcompletes
          rcases List.mem_cons.mp hinfo with rfl | hinfo
          · have hmem := Chain.mem_mono (hct.trans htu) htx
            rw [Chain.lookup_eq_some.mpr ⟨hmem, hsignature⟩, Option.some.injEq] at hfound
            rw [← hfound, ← hsignature] at hdiffers
            exact hdiffers (equal_of_completes hx (u.signed tx hmem) hcompletes)
          · exact hjudged info hinfo tx htx hsignature hcompletes

theorem lastSignature_eq {infos : List SignatureInfo} {last : String}
    (h : lastSignature infos = some last) :
    (infos.map SignatureInfo.signature).getLast? = some last := by
  simp only [lastSignature, Option.filter_eq_some_iff] at h
  rw [List.getLast?_map]
  exact h.1

theorem scanPages_yields (hx : validX402PreparedTransaction prepared = true) (pages : Nat)
    {before : Option String} (hsince : since ≤ c)
    (hbefore : ∀ s, before = some s → s ∈ c.history net payer)
    (hleft : ∀ tx ∈ since, Completes prepared tx.bytes →
      signatureOf lib tx ∈ older before (c.history net payer)) :
    (scanPages lib prepared payer pages before).Yields (Answers lib net)
      (Truthful since prepared) c := by
  induction pages generalizing c before with
  | zero => trivial
  | succ pages ih =>
    refine (getSignatures_yields before).bind fun t infos hct hinfos => ?_
    have hleft' : ∀ tx ∈ since, Completes prepared tx.bytes →
        signatureOf lib tx ∈ older before (t.history net payer) := fun tx htx h =>
      Chain.older_mono hct hbefore (hleft tx htx h)
    have hcandidates : (scanCandidates lib prepared infos).Yields (Answers lib net)
        (Judged since t prepared infos) t := scanCandidates_yields hx infos le_rfl
    refine hcandidates.bind fun u result htu hjudged => ?_
    cases result with
    | some result => exact hjudged
    | none =>
      have hunread : ∀ tx ∈ since, Completes prepared tx.bytes →
          signatureOf lib tx ∉ t.page net payer signaturePageSize before := by
        intro tx htx hcompletes hpage
        rw [← hinfos] at hpage
        obtain ⟨info, hinfo, hsignature⟩ := List.mem_map.mp hpage
        exact hjudged info hinfo tx (Chain.mem_mono (hsince.trans hct) htx) hsignature.symm hcompletes
      simp only
      split
      · next hshort =>
        intro tx htx hcompletes
        have hlen : (t.page net payer signaturePageSize before).length < signaturePageSize := by
          rw [← hinfos, List.length_map]
          exact hshort
        rw [Chain.page, List.length_take] at hlen
        have hall : t.page net payer signaturePageSize before = older before (t.history net payer) :=
          List.take_of_length_le (by omega)
        exact hunread tx htx hcompletes (hall ▸ hleft' tx htx hcompletes)
      · cases hlast : lastSignature infos with
        | none => trivial
        | some last =>
          have hend := lastSignature_eq hlast
          rw [hinfos] at hend
          have hmem := List.mem_of_mem_take (List.mem_of_getLast? hend)
          have hrest := older_last (t.history_nodup payer) hend
          refine (ih (hsince.trans hct) ?_ ?_).grow (fun _ _ _ h h' => h'.grow h) htu
          · rintro s ⟨⟩
            exact (older_suffix _ _).subset hmem
          · intro tx htx hcompletes
            rw [hrest]
            have hsplit := hleft' tx htx hcompletes
            rw [← List.take_append_drop signaturePageSize (older before _), List.mem_append] at hsplit
            exact hsplit.resolve_left (hunread tx htx hcompletes)

theorem scanPrepared_yields (hx : validX402PreparedTransaction prepared = true) (pages : Nat)
    {evidence : PreparedEvidence} (hpayer : payer ∈ net.accountKeys (messageOf prepared)) :
    (scanPrepared lib prepared payer pages evidence).Yields (Answers lib net)
      (Truthful c prepared) c := by
  have hopen : fullySignedTransactionSignature lib prepared = none := by
    obtain ⟨value, length, hheader, hvalue, hzero, -⟩ := open_feePayer hx
    rw [fullySignedTransactionSignature, hheader]
    exact if_pos (List.any_eq_true.mpr ⟨0, List.mem_range.mpr hvalue, hzero⟩)
  have hunknown : (if evidence.missingSignatureIndexes = [] then
      fullySignedTransactionSignature lib prepared else none) = none := by
    rw [hopen, ite_self]
  rw [scanPrepared, hunknown]
  refine scanPages_yields hx pages le_rfl (by simp) fun tx htx hcompletes => ?_
  refine Chain.mem_history htx ?_
  rw [hcompletes.message]
  exact hpayer

-- what an attempt's scan may report: nothing, or a truth about the transaction it was prepared with
def Sound (net : Network) (since : Chain lib) (attempt : ReconciliationAttempt) (c : Chain lib)
    (result : ExactChainScanResult) : Prop :=
  result ≠ .inconclusive → ∃ exact, attempt.evidence? = some exact ∧
    net.blockhash (messageOf (lib.bufferFromBase64 exact.signedTransactionBase64)) =
      exact.recentBlockhash ∧
    Truthful since (lib.bufferFromBase64 exact.signedTransactionBase64) c result

theorem Sound.grow {attempt : ReconciliationAttempt} {result : ExactChainScanResult}
    (h : Sound net since attempt c result) (hct : c ≤ t) : Sound net since attempt t result := by
  intro hresult
  obtain ⟨exact, hexact, hhash, htruth⟩ := h hresult
  exact ⟨exact, hexact, hhash, htruth.grow hct⟩

theorem evidence_eq {attempt : ReconciliationAttempt} {exact : ExactEvidence}
    (h : attempt.evidence? = some exact) :
    attempt.signedTransactionBase64 = some exact.signedTransactionBase64 ∧
      attempt.recentBlockhash = some exact.recentBlockhash := by
  simp only [ReconciliationAttempt.evidence?, Option.bind_eq_bind, Option.bind_eq_some_iff,
    Option.filter_eq_some_iff, Option.pure_def, Option.some.injEq] at h
  obtain ⟨_, -, signed, ⟨hsigned, -⟩, hash, ⟨hhash, -⟩, rfl⟩ := h
  exact ⟨hsigned, hhash⟩

theorem scan_yields {enc : Encoding} (hlib : lib.Faithful net enc) (attempt : ReconciliationAttempt)
    (pages : Nat) (hx : ∀ signed, attempt.signedTransactionBase64 = some signed →
      validX402PreparedTransaction (lib.bufferFromBase64 signed) = true) :
    (scanExactFinalizedChainAttempt lib attempt pages).Yields (Answers lib net)
      (Sound net c attempt) c := by
  unfold scanExactFinalizedChainAttempt
  split
  · exact fun h => absurd rfl h
  · next exact hexact =>
    have hsigned := (evidence_eq hexact).1
    split
    · trivial
    · dsimp only
      split
      · exact fun h => absurd rfl h
      · split
        · exact fun h => absurd rfl h
        · next evidence hevidence =>
          obtain ⟨hblockhash, hsigners⟩ := evidence_faithful hlib hevidence
          split
          · next hscannable =>
            simp only [preparedIsScannable, Bool.and_eq_true, decide_eq_true_eq] at hscannable
            obtain ⟨⟨⟨hhash, hpayer⟩, -⟩, -⟩ := hscannable
            refine (scanPrepared_yields (hx _ hsigned) pages (hsigners _ hpayer)).weaken
              fun t result _ h _ => ?_
            exact ⟨exact, hexact, hblockhash.symm.trans hhash, h⟩
          · exact fun h => absurd rfl h

end Scans

end Obulus.Gateway
