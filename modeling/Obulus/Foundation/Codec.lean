import Mathlib.Tactic.Common
import Mathlib.Data.List.Basic
import Mathlib.Algebra.Order.Ring.Nat

namespace Obulus.Foundation

def littleEndian : Nat → Nat → List UInt8
  | 0, _ => []
  | w + 1, n => UInt8.ofNat n :: littleEndian w (n / 256)

def ofLittleEndian : List UInt8 → Nat
  | [] => 0
  | b :: bs => b.toNat + 256 * ofLittleEndian bs

@[simp] theorem littleEndian_length (w n : Nat) : (littleEndian w n).length = w := by
  induction w generalizing n with
  | zero => rfl
  | succ w ih => simp [littleEndian, ih]

theorem ofLittleEndian_littleEndian (w n : Nat) (h : n < 256 ^ w) :
    ofLittleEndian (littleEndian w n) = n := by
  induction w generalizing n with
  | zero =>
    obtain rfl : n = 0 := by simpa using h
    rfl
  | succ w ih =>
    have hq : n / 256 < 256 ^ w := by
      rw [Nat.div_lt_iff_lt_mul (by decide)]
      simpa [Nat.pow_succ] using h
    have hm : (UInt8.ofNat n).toNat = n % 256 := by simp
    rw [littleEndian, ofLittleEndian, ih _ hq, hm]
    omega

structure Codec (α : Type) where
  encode : α → List UInt8
  decode : List UInt8 → Option (α × List UInt8)
  decode_encode : ∀ a rest, decode (encode a ++ rest) = some (a, rest)

namespace Codec

variable {α β γ : Type}

def tryFromSlice (c : Codec α) (bytes : List UInt8) : Option α :=
  match c.decode bytes with
  | some (a, []) => some a
  | _ => none

theorem tryFromSlice_encode (c : Codec α) (a : α) : c.tryFromSlice (c.encode a) = some a := by
  have h := c.decode_encode a []
  rw [List.append_nil] at h
  simp [tryFromSlice, h]

theorem encode_injective (c : Codec α) : Function.Injective c.encode := by
  intro a b h
  have ha := c.tryFromSlice_encode a
  rw [h, c.tryFromSlice_encode b] at ha
  exact (Option.some.inj ha).symm

def fixed (w : Nat) (enc : α → List UInt8) (dec : List UInt8 → α)
    (hlen : ∀ a, (enc a).length = w) (hdec : ∀ a, dec (enc a) = a) : Codec α where
  encode := enc
  decode bytes := if w ≤ bytes.length then some (dec (bytes.take w), bytes.drop w) else none
  decode_encode a rest := by
    have hl := hlen a
    simp only [List.length_append, hl, Nat.le_add_right, if_true]
    rw [← hl, List.take_left, List.drop_left, hdec]

def u8 : Codec UInt8 :=
  fixed 1 (fun n => [n]) (fun bytes => bytes.headD 0) (fun _ => rfl) (fun _ => rfl)

def u32 : Codec UInt32 :=
  fixed 4 (fun n => littleEndian 4 n.toNat) (fun bytes => UInt32.ofNat (ofLittleEndian bytes))
    (fun n => littleEndian_length 4 n.toNat) (fun n => by
      rw [ofLittleEndian_littleEndian 4 n.toNat (UInt32.toNat_lt n), UInt32.ofNat_toNat])

def u64 : Codec UInt64 :=
  fixed 8 (fun n => littleEndian 8 n.toNat) (fun bytes => UInt64.ofNat (ofLittleEndian bytes))
    (fun n => littleEndian_length 8 n.toNat) (fun n => by
      rw [ofLittleEndian_littleEndian 8 n.toNat (UInt64.toNat_lt n), UInt64.ofNat_toNat])

def imap (c : Codec α) (f : α → β) (g : β → α) (h : ∀ b, f (g b) = b) : Codec β where
  encode b := c.encode (g b)
  decode bytes := (c.decode bytes).map fun (a, rest) => (f a, rest)
  decode_encode b rest := by simp [c.decode_encode, h]

def i64 : Codec Int64 :=
  u64.imap UInt64.toInt64 Int64.toUInt64 Int64.toInt64_toUInt64

def pair (c : Codec α) (d : Codec β) : Codec (α × β) where
  encode p := c.encode p.1 ++ d.encode p.2
  decode bytes := (c.decode bytes).bind fun (a, rest) =>
    (d.decode rest).map fun (b, rest') => ((a, b), rest')
  decode_encode p rest := by simp [List.append_assoc, c.decode_encode, d.decode_encode]

def refine (c : Codec α) (f : α → Option β) (g : β → α) (h : ∀ b, f (g b) = some b) :
    Codec β where
  encode b := c.encode (g b)
  decode bytes := (c.decode bytes).bind fun (a, rest) => (f a).map fun b => (b, rest)
  decode_encode b rest := by simp [c.decode_encode, h]

def bool : Codec Bool :=
  u8.refine (fun n => if n = 0 then some false else if n = 1 then some true else none)
    (fun b => if b then 1 else 0) (fun b => by cases b <;> rfl)

def byteArray (w : Nat) : Codec (Vector UInt8 w) :=
  fixed w (fun v => v.toList)
    (fun bytes => if h : bytes.length = w then ⟨bytes.toArray, h⟩ else Vector.replicate w 0)
    (fun v => Vector.length_toList) (fun v => by
      obtain ⟨a, ha⟩ := v
      simp [Vector.toList, ha])

def encodeMany (c : Codec α) (as : List α) : List UInt8 :=
  as.flatMap c.encode

def decodeMany (c : Codec α) : Nat → List UInt8 → Option (List α × List UInt8)
  | 0, bytes => some ([], bytes)
  | n + 1, bytes => (c.decode bytes).bind fun (a, rest) =>
      (decodeMany c n rest).map fun (as, rest') => (a :: as, rest')

theorem decodeMany_encodeMany (c : Codec α) (as : List α) (rest : List UInt8) :
    c.decodeMany as.length (c.encodeMany as ++ rest) = some (as, rest) := by
  induction as with
  | nil => rfl
  | cons a as ih =>
    have h : c.encodeMany (a :: as) ++ rest = c.encode a ++ (c.encodeMany as ++ rest) := by
      simp [encodeMany, List.append_assoc]
    simp [decodeMany, h, c.decode_encode, ih]

end Codec

-- A Borsh vector: the length prefix is a `u32`, so longer lists have no encoding.
structure WireVec (α : Type) where
  toList : List α
  length_lt : toList.length < 2 ^ 32

namespace WireVec

variable {α : Type}

theorem ext {v w : WireVec α} (h : v.toList = w.toList) : v = w := by
  cases v
  cases w
  simpa using h

instance [DecidableEq α] : DecidableEq (WireVec α) := fun v w =>
  decidable_of_iff (v.toList = w.toList) ⟨ext, fun h => h ▸ rfl⟩

def ofList? (as : List α) : Option (WireVec α) :=
  if h : as.length < 2 ^ 32 then some ⟨as, h⟩ else none

theorem ofList?_toList (v : WireVec α) : ofList? v.toList = some v := by
  have h := v.length_lt
  simp only [ofList?, dif_pos h]

end WireVec

namespace Codec

variable {α : Type}

def vec (c : Codec α) : Codec (WireVec α) where
  encode v := u32.encode (UInt32.ofNat v.toList.length) ++ c.encodeMany v.toList
  decode bytes := (u32.decode bytes).bind fun (n, rest) =>
    (c.decodeMany n.toNat rest).bind fun (as, rest') =>
      (WireVec.ofList? as).map fun v => (v, rest')
  decode_encode v rest := by
    have hn : (UInt32.ofNat v.toList.length).toNat = v.toList.length :=
      UInt32.toNat_ofNat_of_lt v.length_lt
    simp [List.append_assoc, u32.decode_encode, hn, c.decodeMany_encodeMany, WireVec.ofList?_toList]

end Codec

end Obulus.Foundation
