import Obulus.Foundation.Checks
import Obulus.Foundation.Dictionary

namespace Obulus.Gateway

open Foundation

section Decoding

-- a character as it stands, or a byte given by %XX
inductive Escaped
  | literal (c : Char)
  | octet (byte : Nat)
  deriving DecidableEq, Repr

def hexDigitValue (c : Char) : Option Nat :=
  if 48 ≤ c.toNat ∧ c.toNat ≤ 57 then some (c.toNat - 48)
  else if 65 ≤ c.toNat ∧ c.toNat ≤ 70 then some (c.toNat - 55)
  else if 97 ≤ c.toNat ∧ c.toNat ≤ 102 then some (c.toNat - 87)
  else none

def escapes : List Char → Option (List Escaped)
  | [] => some []
  | '%' :: high :: low :: rest => do
    let high ← hexDigitValue high
    let low ← hexDigitValue low
    let rest ← escapes rest
    return .octet (16 * high + low) :: rest
  | c :: rest =>
    if c = '%' then none
    else do
      let rest ← escapes rest
      return .literal c :: rest

def isTail (byte : Nat) : Bool := decide (0x80 ≤ byte ∧ byte ≤ 0xBF)

-- bytes in their shortest form, and no surrogates
def characters : List Escaped → Option (List Char)
  | [] => some []
  | .literal c :: rest => do
    let rest ← characters rest
    return c :: rest
  | .octet a :: rest =>
    if a < 0x80 then do
      let rest ← characters rest
      return Char.ofNat a :: rest
    else match rest with
      | .octet b :: rest =>
        if 0xC2 ≤ a ∧ a ≤ 0xDF ∧ isTail b then do
          let rest ← characters rest
          return Char.ofNat (64 * (a - 0xC0) + (b - 0x80)) :: rest
        else match rest with
          | .octet c :: rest =>
            if 0xE0 ≤ a ∧ a ≤ 0xEF ∧ isTail b ∧ isTail c ∧ (a = 0xE0 → 0xA0 ≤ b) ∧
                (a = 0xED → b ≤ 0x9F) then do
              let rest ← characters rest
              return Char.ofNat (4096 * (a - 0xE0) + 64 * (b - 0x80) + (c - 0x80)) :: rest
            else match rest with
              | .octet d :: rest =>
                if 0xF0 ≤ a ∧ a ≤ 0xF4 ∧ isTail b ∧ isTail c ∧ isTail d ∧ (a = 0xF0 → 0x90 ≤ b) ∧
                    (a = 0xF4 → b ≤ 0x8F) then do
                  let rest ← characters rest
                  return Char.ofNat (262144 * (a - 0xF0) + 4096 * (b - 0x80) + 64 * (c - 0x80) +
                    (d - 0x80)) :: rest
                else none
              | _ => none
          | _ => none
      | _ => none

def decodeURIComponent (text : List Char) : Except String String :=
  (orReject ((escapes text).bind characters) "URI malformed").map String.ofList

example : decodeURIComponent "query%201 %ED%95%9C%F0%9F%93%9A".toList = .ok "query 1 한📚" := by
  decide +kernel

end Decoding

-- the kind, the selector and the decoded ids of a paid resource
inductive PaymentResource
  | documentQuery (queryId handle : String)
  | documentQuote (quoteId : String)
  | bundle (quoteId : String)
  | openCall (quoteId : String)
  deriving DecidableEq, Repr

structure PaymentRouteIdentity where
  resource : PaymentResource
  key : String
  deriving DecidableEq, Repr

def nul : String := "\x00"

-- what stands between slashes after the prefix, where that is so many texts and none of them empty
def captures (route : String) (count : Nat) (pathname : List Char) : Option (List (List Char)) :=
  if route.toList.isPrefixOf pathname then
    let segments := (pathname.drop route.length).splitOn '/'
    if segments.length = count ∧ segments.all (fun segment => !segment.isEmpty) = true then
      some segments
    else none
  else none

def capture (route : String) (pathname : List Char) : Option (List Char) :=
  (captures route 1 pathname).bind List.head?

def capturePair (route : String) (pathname : List Char) : Option (List Char × List Char) :=
  match captures route 2 pathname with
  | some [first, second] => some (first, second)
  | _ => none

def quoteIdentity (tag required : String) (resource : String → PaymentResource) (segment : List Char) :
    Except String PaymentRouteIdentity := do
  let quoteId ← decodeURIComponent segment
  reject (quoteId = "") required
  return { resource := resource quoteId, key := tag ++ nul ++ quoteId }

def documentIdentity (queryId handle : List Char) : Except String PaymentRouteIdentity := do
  let queryId ← decodeURIComponent queryId
  let handle ← decodeURIComponent handle
  reject (queryId = "" ∨ handle = "") "query id and document handle are required"
  return { resource := .documentQuery queryId handle
           key := "document" ++ nul ++ queryId ++ nul ++ handle }

def identityOfPathname (pathname : List Char) : Except String PaymentRouteIdentity :=
  match capturePair "/api/v1/paid-documents/" pathname with
  | some (queryId, handle) => documentIdentity queryId handle
  | none =>
    match capture "/api/v1/paid-quotes/" pathname with
    | some quoteId =>
      quoteIdentity "document_quote" "document payment quote id is required" .documentQuote quoteId
    | none =>
      match capture "/api/v1/paid-bundles/" pathname with
      | some quoteId => quoteIdentity "bundle" "payment bundle quote id is required" .bundle quoteId
      | none =>
        match capture "/api/v1/funded-open-calls/" pathname with
        | some quoteId =>
          quoteIdentity "open_call" "open-call funding quote id is required" .openCall quoteId
        | none => .error "invalid paid resource path"

-- the path of an absolute URL, as the URL parser reads it
variable (urlPathname : String → Except String String)

def pathnameOf (path : String) : Except String (List Char) :=
  if "http".toList.isPrefixOf path.toList then (urlPathname path).map String.toList
  else .ok (path.toList.takeWhile (· ≠ '?'))

def paymentIdentityFromPath (path : String) : Except String PaymentRouteIdentity := do
  let pathname ← pathnameOf urlPathname path
  identityOfPathname pathname

def PaymentResource.key : PaymentResource → String
  | documentQuery queryId handle => "document" ++ nul ++ queryId ++ nul ++ handle
  | documentQuote quoteId => "document_quote" ++ nul ++ quoteId
  | bundle quoteId => "bundle" ++ nul ++ quoteId
  | openCall quoteId => "open_call" ++ nul ++ quoteId

variable {urlPathname : String → Except String String} {path : String} {pathname : List Char}
  {identity : PaymentRouteIdentity} {r s : PaymentResource}

theorem quoteIdentity_key {tag required : String} {resource : String → PaymentResource}
    {segment : List Char} (htag : ∀ quoteId, (resource quoteId).key = tag ++ nul ++ quoteId)
    (h : quoteIdentity tag required resource segment = .ok identity) :
    identity.key = identity.resource.key := by
  simp only [quoteIdentity, bind_eq_ok, reject_eq_ok, exists_const, pure_eq_ok] at h
  obtain ⟨quoteId, -, -, rfl⟩ := h
  exact (htag quoteId).symm

theorem documentIdentity_key {queryId handle : List Char}
    (h : documentIdentity queryId handle = .ok identity) : identity.key = identity.resource.key := by
  simp only [documentIdentity, bind_eq_ok, reject_eq_ok, exists_const, pure_eq_ok] at h
  obtain ⟨_, -, _, -, -, rfl⟩ := h
  rfl

theorem identityOfPathname_key (h : identityOfPathname pathname = .ok identity) :
    identity.key = identity.resource.key := by
  rw [identityOfPathname] at h
  split at h
  · exact documentIdentity_key h
  · split at h
    · exact quoteIdentity_key (fun _ => rfl) h
    · split at h
      · exact quoteIdentity_key (fun _ => rfl) h
      · split at h
        · exact quoteIdentity_key (fun _ => rfl) h
        · cases h

theorem paymentIdentity_key (h : paymentIdentityFromPath urlPathname path = .ok identity) :
    identity.key = identity.resource.key := by
  simp only [paymentIdentityFromPath, bind_eq_ok] at h
  obtain ⟨pathname, -, h⟩ := h
  exact identityOfPathname_key h

section Keys

variable {tag tag' left right left' right' : String}

theorem split_first {α : Type} [DecidableEq α] {a : α} {front front' back back' : List α} (hfront : a ∉ front)
    (hfront' : a ∉ front') (h : front ++ a :: back = front' ++ a :: back') :
    front = front' ∧ back = back' := by
  rcases List.append_eq_append_iff.mp h with ⟨rest, rfl, hrest⟩ | ⟨rest, rfl, hrest⟩
  · cases rest with
    | nil => simpa using hrest
    | cons b rest =>
      obtain ⟨rfl, -⟩ := List.cons.inj hrest
      simp at hfront'
  · cases rest with
    | nil => simpa using hrest.symm
    | cons b rest =>
      obtain ⟨rfl, -⟩ := List.cons.inj hrest
      simp at hfront

theorem toList_nul : nul.toList = ['\x00'] := by decide

theorem tagged_eq (htag : '\x00' ∉ tag.toList) (htag' : '\x00' ∉ tag'.toList)
    (h : tag ++ nul ++ right = tag' ++ nul ++ right') : tag = tag' ∧ right = right' := by
  have hlist := congrArg String.toList h
  simp only [String.toList_append, toList_nul, List.append_assoc, List.singleton_append] at hlist
  obtain ⟨hfront, hback⟩ := split_first htag htag' hlist
  exact ⟨String.toList_injective hfront, String.toList_injective hback⟩

-- two texts that are joined alike are cut at the same separator or at two different ones
theorem joined_eq : left ++ nul ++ right = left' ++ nul ++ right' ↔ left = left' ∧ right = right' ∨
    (∃ inner, left = left' ++ nul ++ inner ∧ right' = inner ++ nul ++ right) ∨
    ∃ inner, left' = left ++ nul ++ inner ∧ right = inner ++ nul ++ right' := by
  constructor
  · intro h
    have hlist := congrArg String.toList h
    simp only [String.toList_append, toList_nul, List.append_assoc, List.singleton_append] at hlist
    rcases List.append_eq_append_iff.mp hlist with ⟨rest, hleft, hrest⟩ | ⟨rest, hleft, hrest⟩
    · cases rest with
      | nil =>
        rw [List.append_nil] at hleft
        rw [List.nil_append, List.cons.injEq] at hrest
        exact Or.inl ⟨(String.toList_injective hleft).symm, String.toList_injective hrest.2⟩
      | cons c inner =>
        rw [List.cons_append, List.cons.injEq] at hrest
        obtain ⟨rfl, hrest⟩ := hrest
        refine Or.inr (Or.inr ⟨String.ofList inner, ?_, ?_⟩)
        · apply String.toList_injective
          simp [toList_nul, hleft]
        · apply String.toList_injective
          simp [toList_nul, hrest]
    · cases rest with
      | nil =>
        rw [List.append_nil] at hleft
        rw [List.nil_append, List.cons.injEq] at hrest
        exact Or.inl ⟨String.toList_injective hleft, (String.toList_injective hrest.2).symm⟩
      | cons c inner =>
        rw [List.cons_append, List.cons.injEq] at hrest
        obtain ⟨rfl, hrest⟩ := hrest
        refine Or.inr (Or.inl ⟨String.ofList inner, ?_, ?_⟩)
        · apply String.toList_injective
          simp [toList_nul, hleft]
        · apply String.toList_injective
          simp [toList_nul, hrest]
  · rintro (⟨rfl, rfl⟩ | ⟨inner, rfl, rfl⟩ | ⟨inner, rfl, rfl⟩)
    · rfl
    · simp only [String.append_assoc]
    · simp only [String.append_assoc]

-- a NUL inside one query id is read as the separator of the other document
def Shifted : PaymentResource → PaymentResource → Prop
  | .documentQuery queryId handle, .documentQuery queryId' handle' =>
    ∃ inner, queryId = queryId' ++ nul ++ inner ∧ handle' = inner ++ nul ++ handle
  | _, _ => False

def Collides (r s : PaymentResource) : Prop := Shifted r s ∨ Shifted s r

def PaymentResource.label : PaymentResource → String
  | documentQuery _ _ => "document"
  | documentQuote _ => "document_quote"
  | bundle _ => "bundle"
  | openCall _ => "open_call"

def PaymentResource.ids : PaymentResource → String
  | documentQuery queryId handle => queryId ++ nul ++ handle
  | documentQuote quoteId => quoteId
  | bundle quoteId => quoteId
  | openCall quoteId => quoteId

theorem key_labelled (r : PaymentResource) : r.key = r.label ++ nul ++ r.ids := by
  cases r with
  | documentQuery queryId handle =>
    simp only [PaymentResource.key, PaymentResource.label, PaymentResource.ids, String.append_assoc]
  | _ => rfl

theorem label_free (r : PaymentResource) : '\x00' ∉ r.label.toList := by
  have hfree : ∀ label ∈ ["document", "document_quote", "bundle", "open_call"],
      '\x00' ∉ label.toList := by decide
  cases r <;> exact hfree _ (by simp [PaymentResource.label])

theorem ids_eq (hlabel : r.label = s.label) (hids : r.ids = s.ids) : r = s ∨ Collides r s := by
  cases r with
  | documentQuery queryId handle =>
    cases s with
    | documentQuery queryId' handle' =>
      rw [PaymentResource.documentQuery.injEq]
      exact joined_eq.mp hids
    | _ => simp [PaymentResource.label] at hlabel
  | documentQuote quoteId =>
    cases s with
    | documentQuote quoteId' => exact Or.inl (congrArg PaymentResource.documentQuote hids)
    | _ => simp [PaymentResource.label] at hlabel
  | bundle quoteId =>
    cases s with
    | bundle quoteId' => exact Or.inl (congrArg PaymentResource.bundle hids)
    | _ => simp [PaymentResource.label] at hlabel
  | openCall quoteId =>
    cases s with
    | openCall quoteId' => exact Or.inl (congrArg PaymentResource.openCall hids)
    | _ => simp [PaymentResource.label] at hlabel

theorem Shifted.key_eq (h : Shifted r s) : r.key = s.key := by
  cases r with
  | documentQuery queryId handle =>
    cases s with
    | documentQuery queryId' handle' =>
      have hids : queryId ++ nul ++ handle = queryId' ++ nul ++ handle' := joined_eq.mpr (Or.inr (Or.inl h))
      rw [key_labelled, key_labelled]
      exact congrArg (fun ids => "document" ++ nul ++ ids) hids
    | _ => exact h.elim
  | _ => exact h.elim

theorem Shifted.ne (h : Shifted r s) : r ≠ s := by
  cases r with
  | documentQuery queryId handle =>
    cases s with
    | documentQuery queryId' handle' =>
      obtain ⟨inner, hquery, -⟩ := h
      intro hsame
      obtain ⟨hqueries, -⟩ := PaymentResource.documentQuery.inj hsame
      have hlength := congrArg String.length (hqueries.symm.trans hquery)
      simp only [String.length_append] at hlength
      have hone : nul.length = 1 := by decide
      omega
    | _ => exact h.elim
  | _ => exact h.elim

theorem key_eq_iff : r.key = s.key ↔ r = s ∨ Collides r s := by
  constructor
  · intro h
    rw [key_labelled, key_labelled] at h
    obtain ⟨hlabel, hids⟩ := tagged_eq (label_free r) (label_free s) h
    exact ids_eq hlabel hids
  · rintro (rfl | h | h)
    · rfl
    · exact h.key_eq
    · exact h.key_eq.symm

theorem key_exact : (r.key = s.key ↔ r = s) ↔ ¬Collides r s := by
  rw [key_eq_iff]
  constructor
  · intro h hcollides
    have hsame := h.mp (Or.inr hcollides)
    rcases hcollides with hshift | hshift
    · exact hshift.ne hsame
    · exact hshift.ne hsame.symm
  · intro hclear
    exact ⟨fun h => h.resolve_right hclear, Or.inl⟩

end Keys

end Obulus.Gateway
