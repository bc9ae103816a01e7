import Obulus.Foundation.Paging
import Obulus.Gateway.Scan

namespace Obulus.Gateway

open Foundation Store

-- what the network reads off a message: the accounts it names and the blockhash it lives by
structure Network where
  accountKeys : Bytes → List String
  blockhash : Bytes → String

def messageOf (transaction : Bytes) : Bytes :=
  match decodeShortVec transaction with
  | some (value, length) => transaction.drop (length + value * 64)
  | none => []

def FullySigned (transaction : Bytes) : Prop :=
  ∃ value length, decodeShortVec transaction = some (value, length) ∧
    ∀ index < value, isZeroSignature (slot transaction length index) = false

-- the same transaction up to the signature of the fee payer
def Completes (prepared landed : Bytes) : Prop :=
  ∃ value length, decodeShortVec prepared = some (value, length) ∧
    decodeShortVec landed = some (value, length) ∧ landed.length = prepared.length ∧
    messageOf landed = messageOf prepared ∧
    ∀ index < value, 0 < index → slot landed length index = slot prepared length index

variable (lib : Libraries) (net : Network)

def signatureOf (transaction : ExactTransaction) : String :=
  match decodeShortVec transaction.bytes with
  | some (_, length) => lib.encoding.base58Encode (slot transaction.bytes length 0)
  | none => lib.encoding.base58Encode []

-- The finalized transactions, oldest first: at most one completion of a message lands.
@[ext] structure Chain where
  transactions : List ExactTransaction
  signed : ∀ tx ∈ transactions, FullySigned tx.bytes
  signatures : (transactions.map (signatureOf lib)).Nodup
  messages : (transactions.map fun tx => messageOf tx.bytes).Nodup

namespace Chain

variable {lib}

instance : Membership ExactTransaction (Chain lib) where
  mem chain tx := tx ∈ chain.transactions

instance : Preorder (Chain lib) where
  le c c' := c.transactions <+: c'.transactions
  le_refl c := List.prefix_rfl
  le_trans _ _ _ h h' := h.trans h'

theorem mem_mono {c c' : Chain lib} {tx : ExactTransaction} (h : c ≤ c') (htx : tx ∈ c) : tx ∈ c' :=
  List.IsPrefix.mem htx h

theorem signature_unique {c : Chain lib} {tx tx' : ExactTransaction} (h : tx ∈ c) (h' : tx' ∈ c)
    (heq : signatureOf lib tx = signatureOf lib tx') : tx = tx' :=
  List.inj_on_of_nodup_map c.signatures h h' heq

theorem message_unique {c : Chain lib} {tx tx' : ExactTransaction} (h : tx ∈ c) (h' : tx' ∈ c)
    (heq : messageOf tx.bytes = messageOf tx'.bytes) : tx = tx' :=
  List.inj_on_of_nodup_map c.messages h h' heq

def lookup (c : Chain lib) (signature : String) : Option ExactTransaction :=
  c.transactions.find? fun tx => signatureOf lib tx = signature

theorem lookup_eq_some {c : Chain lib} {tx : ExactTransaction} {signature : String} :
    c.lookup signature = some tx ↔ tx ∈ c ∧ signatureOf lib tx = signature := by
  constructor
  · intro h
    exact ⟨List.mem_of_find?_eq_some h, by simpa using List.find?_some h⟩
  · rintro ⟨hmem, hsig⟩
    have hsome : (c.lookup signature).isSome = true := by
      rw [lookup, List.find?_isSome]
      exact ⟨tx, hmem, by simpa using hsig⟩
    obtain ⟨tx', htx'⟩ := Option.isSome_iff_exists.mp hsome
    have hmem' : tx' ∈ c := List.mem_of_find?_eq_some htx'
    have hsig' : signatureOf lib tx' = signature := by simpa using List.find?_some htx'
    rw [htx', signature_unique hmem hmem' (hsig.trans hsig'.symm)]

def mentions (tx : ExactTransaction) (address : String) : Bool :=
  address ∈ net.accountKeys (messageOf tx.bytes)

-- the signatures of the transactions naming an address, newest first
def history (c : Chain lib) (address : String) : List String :=
  ((c.transactions.filter fun tx => mentions net tx address).map (signatureOf lib)).reverse

def page (c : Chain lib) (address : String) (limit : Nat) (before : Option String) : List String :=
  (older before (c.history net address)).take limit

variable {net}

theorem mem_history {c : Chain lib} {tx : ExactTransaction} {address : String} (h : tx ∈ c)
    (ha : address ∈ net.accountKeys (messageOf tx.bytes)) :
    signatureOf lib tx ∈ c.history net address := by
  rw [history, List.mem_reverse]
  exact List.mem_map_of_mem (List.mem_filter.mpr ⟨h, by simpa [mentions] using ha⟩)

theorem history_nodup (c : Chain lib) (address : String) : (c.history net address).Nodup := by
  rw [history, List.nodup_reverse]
  exact c.signatures.sublist (List.filter_sublist.map _)

theorem history_grow {c c' : Chain lib} (h : c ≤ c') (address : String) :
    ∃ new, c'.history net address = new ++ c.history net address := by
  obtain ⟨ts, hts⟩ := h
  refine ⟨((ts.filter fun tx => mentions net tx address).map (signatureOf lib)).reverse, ?_⟩
  rw [history, history, ← hts, List.filter_append, List.map_append, List.reverse_append]

theorem older_mono {c c' : Chain lib} (h : c ≤ c') {address signature : String}
    {before : Option String} (hbefore : ∀ s, before = some s → s ∈ c.history net address)
    (hs : signature ∈ older before (c.history net address)) :
    signature ∈ older before (c'.history net address) := by
  obtain ⟨new, hnew⟩ := @history_grow lib net _ _ h address
  cases before with
  | none =>
    rw [hnew]
    exact List.mem_append_right new hs
  | some s =>
    have hnodup := @history_nodup lib net c' address
    rw [hnew] at hnodup ⊢
    rw [older_grow hnodup (hbefore s rfl)]
    exact hs

end Chain

-- A truthful finalized view with complete history, whenever its answer parses.
def Answers (chain : Chain lib) : RpcRequest → Json → Prop
  | .getSignaturesForAddress address limit before, reply => ∀ infos,
      parseSignatureInfos lib reply = .ok infos →
        infos.map SignatureInfo.signature = chain.page net address limit before
  | .getTransaction signature, reply => ∀ transaction,
      parseExactBase64Transaction lib reply = .ok transaction → transaction = chain.lookup signature
  | .isBlockhashValid _, _ => True

-- What the gateway's packages promise about a transaction, and the chain's reading of it.
structure Libraries.Faithful (enc : Encoding) : Prop where
  buffer : ∀ {text bytes}, enc.base64Decode text = some bytes → lib.bufferFromBase64 text = bytes
  legacySigners : ∀ {bytes transaction}, lib.legacyTransaction bytes = some transaction →
    ∀ item ∈ transaction.signatures, item.1 ∈ net.accountKeys (messageOf bytes)
  legacyBlockhash : ∀ {bytes transaction hash}, lib.legacyTransaction bytes = some transaction →
    transaction.recentBlockhash = some hash → hash = net.blockhash (messageOf bytes)
  versionedKeys : ∀ {bytes transaction}, lib.versionedTransaction bytes = some transaction →
    ∀ key ∈ transaction.staticAccountKeys, key ∈ net.accountKeys (messageOf bytes)
  versionedBlockhash : ∀ {bytes transaction}, lib.versionedTransaction bytes = some transaction →
    transaction.recentBlockhash = net.blockhash (messageOf bytes)

end Obulus.Gateway
