import Obulus.Foundation.Json
import Obulus.Hosted.Canonical

namespace Obulus.Hosted

open Foundation

section Numbers

-- the double JSON.parse reads for an unsigned integer: ties to even
def nearestDouble (n : Nat) : Nat :=
  let shift := n.log2 - 52
  let quotient := n / 2 ^ shift
  let twice := 2 * (n % 2 ^ shift)
  if 2 ^ shift < twice ∨ (twice = 2 ^ shift ∧ quotient % 2 = 1) then (quotient + 1) * 2 ^ shift
  else quotient * 2 ^ shift

-- a multiple of a power of ten that reads back as the double, the closer one first
def decimalAt (value zeros : Nat) : Option (Nat × Nat) :=
  let below := value / 10 ^ zeros
  let twice := 2 * (value % 10 ^ zeros)
  let multiples :=
    if twice < 10 ^ zeros ∨ (twice = 10 ^ zeros ∧ below % 2 = 0) then [below, below + 1]
    else [below + 1, below]
  (multiples.find? fun s => nearestDouble (s * 10 ^ zeros) = value).map fun s => (s, zeros)

-- the fewest digits that read back as the double
def shortestDecimal (value : Nat) : Nat × Nat :=
  let zeros := (List.range ((Nat.toDigits 10 value).length + 1)).reverse
  (zeros.findSome? (decimalAt value)).getD (value, 0)

def magnitudeText (value : Nat) : List Char :=
  let (s, zeros) := shortestDecimal value
  let digits := Nat.toDigits 10 s
  let n := digits.length + zeros
  if n ≤ 21 then digits ++ List.replicate zeros '0'
  else if digits.length = 1 then digits ++ ['e', '+'] ++ Nat.toDigits 10 (n - 1)
  else digits.take 1 ++ ['.'] ++ digits.drop 1 ++ ['e', '+'] ++ Nat.toDigits 10 (n - 1)

-- Number::toString of an integral double
def numberToString (value : Int) : String :=
  if value = 0 then "0"
  else if value < 0 then String.ofList ('-' :: magnitudeText value.natAbs)
  else String.ofList (magnitudeText value.natAbs)

end Numbers

section Script

def singleEscapes : List (Nat × Char) :=
  [(0x08, 'b'), (0x09, 't'), (0x0a, 'n'), (0x0c, 'f'), (0x0d, 'r'), (0x22, '"'), (0x5c, '\\')]

def unicodeEscape (unit : Nat) : List Char :=
  ['\\', 'u', hexChar (unit / 0x1000), hexChar (unit / 0x100 % 16), hexChar (unit / 0x10 % 16),
    hexChar (unit % 16)]

def quoteChar (c : Char) : List Char :=
  match singleEscapes.lookup c.toNat with
  | some letter => ['\\', letter]
  | none => if c.toNat < 0x20 then unicodeEscape c.toNat else [c]

def quoteJSONString (text : String) : String :=
  String.ofList ('"' :: (text.toList.flatMap quoteChar ++ ['"']))

def join (separator : String) : List String → String
  | [] => ""
  | [item] => item
  | item :: next :: rest => item ++ (separator ++ join separator (next :: rest))

def objectMember (field : String × String) : String := quoteJSONString field.1 ++ ":" ++ field.2

-- JSON.stringify of a scalar, and the script's own loop over arrays and objects
mutual
def canonicalJson : Value → String
  | .null => "null"
  | .bool value => if value then "true" else "false"
  | .number value => numberToString value
  | .string value => quoteJSONString value
  | .array items => "[" ++ join "," (canonicalJsonItems items) ++ "]"
  | .object fields =>
    "\x7b" ++ join "," ((byKey utf16 (canonicalJsonFields fields)).map objectMember) ++ "\x7d"
def canonicalJsonItems : List Value → List String
  | [] => []
  | value :: items => canonicalJson value :: canonicalJsonItems items
def canonicalJsonFields : List (String × Value) → List (String × String)
  | [] => []
  | (key, value) :: fields => (key, canonicalJson value) :: canonicalJsonFields fields
end

end Script

section Doubles

variable {n value : Nat}

theorem nearestDouble_small (h : n < 2 ^ 53) : nearestDouble n = n := by
  have hshift : n.log2 - 52 = 0 := by
    rcases Nat.eq_zero_or_pos n with rfl | hpos
    · rfl
    · have hlog := (Nat.log2_lt (Nat.pos_iff_ne_zero.mp hpos)).mpr h
      omega
  simp [nearestDouble, hshift, Nat.mod_one]

theorem nearestDouble_large (h : 2 ^ 53 ≤ n) : 2 ^ 53 ≤ nearestDouble n := by
  have hne : n ≠ 0 := by omega
  have hlog : 53 ≤ n.log2 := (Nat.le_log2 hne).mpr h
  obtain ⟨shift, hshift⟩ : ∃ shift, n.log2 = 52 + (shift + 1) := ⟨n.log2 - 53, by omega⟩
  have hlow : 2 ^ (52 + (shift + 1)) ≤ n := hshift ▸ Nat.log2_self_le hne
  have hquot : 2 ^ 52 ≤ n / 2 ^ (shift + 1) := by
    rw [Nat.le_div_iff_mul_le (Nat.two_pow_pos _), ← Nat.pow_add]
    exact hlow
  have htwo : 2 ≤ 2 ^ (shift + 1) := by
    rw [Nat.pow_succ]
    have hpos := Nat.two_pow_pos shift
    omega
  have hfloor : 2 ^ 53 ≤ n / 2 ^ (shift + 1) * 2 ^ (shift + 1) := by
    calc 2 ^ 53 = 2 ^ 52 * 2 := by rfl
      _ ≤ n / 2 ^ (shift + 1) * 2 ^ (shift + 1) := Nat.mul_le_mul hquot htwo
  have hsub : n.log2 - 52 = shift + 1 := by omega
  simp only [nearestDouble, hsub]
  split
  · exact hfloor.trans (Nat.mul_le_mul_right _ (Nat.le_succ _))
  · exact hfloor

-- below 2^53 only the number itself reads back as the number
theorem eq_of_nearestDouble (h : value < 2 ^ 53) (hread : nearestDouble n = value) : n = value := by
  rcases lt_or_ge n (2 ^ 53) with hn | hn
  · rw [← hread, nearestDouble_small hn]
  · have hlarge := nearestDouble_large hn
    omega

theorem shortestDecimal_value (h : value < 2 ^ 53) :
    (shortestDecimal value).1 * 10 ^ (shortestDecimal value).2 = value := by
  simp only [shortestDecimal]
  cases hfound : ((List.range ((Nat.toDigits 10 value).length + 1)).reverse).findSome?
      (decimalAt value) with
  | none => simp only [Option.getD_none, Nat.pow_zero, Nat.mul_one]
  | some decimal =>
    obtain ⟨zeros, -, hat⟩ := List.exists_of_findSome?_eq_some hfound
    obtain ⟨s, hs, rfl⟩ := Option.map_eq_some_iff.mp hat
    have hread := List.find?_some hs
    exact eq_of_nearestDouble h (by simpa using hread)

theorem toDigits_zeros {s : Nat} (h : 0 < s) (zeros : Nat) :
    Nat.toDigits 10 s ++ List.replicate zeros '0' = Nat.toDigits 10 (s * 10 ^ zeros) := by
  induction zeros with
  | zero => simp
  | succ zeros ih =>
    have hpos : 0 < s * 10 ^ zeros := Nat.mul_pos h (Nat.pow_pos (by decide))
    have happend := Nat.toDigits_append_toDigits (b := 10) (d := 0) (by decide) hpos (by decide)
    rw [List.replicate_succ', ← List.append_assoc, ih, ← Nat.toDigits_zero 10, happend,
      Nat.add_zero, Nat.mul_comm 10, Nat.mul_assoc, ← Nat.pow_succ]

theorem magnitudeText_safe (hpos : 0 < value) (h : value < 2 ^ 53) :
    magnitudeText value = Nat.toDigits 10 value := by
  have hvalue := shortestDecimal_value h
  have hs : 0 < (shortestDecimal value).1 := by
    rcases Nat.eq_zero_or_pos (shortestDecimal value).1 with hzero | hs
    · rw [hzero, Nat.zero_mul] at hvalue
      omega
    · exact hs
  have hdigits := toDigits_zeros hs (shortestDecimal value).2
  rw [hvalue] at hdigits
  have hlength : (Nat.toDigits 10 (shortestDecimal value).1).length + (shortestDecimal value).2 ≤ 21 := by
    have hcount := (Nat.length_toDigits_le_iff (b := 10) (n := value) (k := 21) (by decide)
      (by decide)).mpr (by omega)
    rw [← hdigits, List.length_append, List.length_replicate] at hcount
    exact hcount
  rw [magnitudeText]
  exact (if_pos hlength).trans hdigits

end Doubles

section Everywhere

mutual
def Everywhere (P : Value → Prop) : Value → Prop
  | .array items => EveryItem P items
  | .object fields => P (.object fields) ∧ EveryField P fields
  | value => P value
def EveryItem (P : Value → Prop) : List Value → Prop
  | [] => True
  | value :: items => Everywhere P value ∧ EveryItem P items
def EveryField (P : Value → Prop) : List (String × Value) → Prop
  | [] => True
  | (_, value) :: fields => Everywhere P value ∧ EveryField P fields
end

def PlainKey (key : String) : Prop := ∀ c ∈ key.toList, c.toNat < 0x10000

instance (key : String) : Decidable (PlainKey key) :=
  decidable_of_iff (key.toList.all (fun c => decide (c.toNat < 0x10000)) = true) (by simp [PlainKey])

def IsSafe : Value → Prop
  | .number value => value.natAbs ≤ Json.maxSafeInteger
  | _ => True

def IsPlain : Value → Prop
  | .object fields => ∀ key ∈ fields.map Prod.fst, PlainKey key
  | _ => True

def IsDistinct : Value → Prop
  | .object fields => (fields.map Prod.fst).Nodup
  | _ => True

end Everywhere

section Agreement

variable {α : Type} {serde : SerdeJson} {key : String}

theorem quoteChar_unnamed {c : Char} (h : c.toNat ∉ singleEscapes.map Prod.fst) :
    quoteChar c = if c.toNat < 0x20 then unicodeEscape c.toNat else [c] := by
  have hlookup : singleEscapes.lookup c.toNat = none := by
    rw [List.lookup_eq_none_iff]
    intro entry hentry
    rw [bne_iff_ne]
    exact fun heq => h (heq ▸ List.mem_map_of_mem hentry)
  simp only [quoteChar, hlookup]

theorem unicodeEscape_control {unit : Nat} (h : unit < 32) :
    unicodeEscape unit = ['\\', 'u', '0', '0', hexChar (unit / 16), hexChar (unit % 16)] := by
  rw [unicodeEscape, show unit / 0x1000 = 0 by omega, show unit / 0x100 % 16 = 0 by omega,
    show unit / 0x10 % 16 = unit / 16 by omega]
  rfl

theorem escape_eq (hserde : serde.Documented) (c : Char) : serde.escape c = quoteChar c := by
  have hchar : ∀ d : Char, c.toNat = d.toNat → c = d :=
    fun d h => Char.ext (UInt32.toNat_inj.mp h)
  by_cases hnamed : c.toNat ∈ singleEscapes.map Prod.fst
  · simp only [singleEscapes, List.map_cons, List.map_nil, List.mem_cons, List.not_mem_nil,
      or_false] at hnamed
    rcases hnamed with h | h | h | h | h | h | h
    · rw [hchar '\x08' h]
      exact hserde.backspace
    · rw [hchar '\t' h]
      exact hserde.tab
    · rw [hchar '\n' h]
      exact hserde.lineFeed
    · rw [hchar '\x0c' h]
      exact hserde.formFeed
    · rw [hchar '\r' h]
      exact hserde.carriageReturn
    · rw [hchar '"' h]
      exact hserde.quote
    · rw [hchar '\\' h]
      exact hserde.reverseSolidus
  · rw [quoteChar_unnamed hnamed]
    simp only [singleEscapes, List.map_cons, List.map_nil, List.mem_cons, List.not_mem_nil,
      or_false, not_or] at hnamed
    by_cases hcontrol : c.toNat < 32
    · rw [if_pos hcontrol, unicodeEscape_control hcontrol]
      apply hserde.asciiControl c hcontrol
      simp only [List.mem_cons, List.not_mem_nil, or_false]
      omega
    · rw [if_neg hcontrol]
      apply hserde.verbatim c (by omega)
      · rintro rfl
        exact hnamed.2.2.2.2.2.1 rfl
      · rintro rfl
        exact hnamed.2.2.2.2.2.2 rfl

theorem string_eq (hserde : serde.Documented) (text : String) :
    serde.toString (.string text) = quoteJSONString text := by
  rw [hserde.string, quoteJSONString, funext (escape_eq hserde)]

theorem number_eq (hserde : serde.Documented) {value : Int}
    (h : value.natAbs ≤ Json.maxSafeInteger) :
    serde.toString (.number value) = numberToString value := by
  have hlt : value.natAbs < 2 ^ 53 := by
    simp only [Json.maxSafeInteger] at h
    omega
  rcases value with n | n
  · rcases Nat.eq_zero_or_pos n with rfl | hpos
    · exact hserde.natural 0
    · rw [numberToString, if_neg (by simp only [Int.ofNat_eq_natCast]; omega), if_neg (by simp)]
      exact (hserde.natural n).trans (congrArg String.ofList (magnitudeText_safe hpos hlt).symm)
  · rw [numberToString, if_neg (by simp), if_pos (Int.negSucc_lt_zero n)]
    exact (hserde.negative n).trans
      (congrArg (fun digits => String.ofList ('-' :: digits))
        (magnitudeText_safe (Nat.succ_pos n) hlt).symm)

theorem join_eq (separator : String) (items : List String) :
    join separator items = separator.intercalate items := by
  match items with
  | [] => exact String.intercalate_nil.symm
  | [item] => exact String.intercalate_singleton.symm
  | item :: next :: rest =>
    rw [join, join_eq separator (next :: rest), String.intercalate_cons_cons, String.append_assoc]

theorem utf16_plain (h : PlainKey key) : utf16 key = codePoints key := by
  unfold utf16 codePoints
  unfold PlainKey at h
  generalize key.toList = cs at h
  induction cs with
  | nil => rfl
  | cons c cs ih =>
    have hc := h c List.mem_cons_self
    rw [List.flatMap_cons, List.map_cons, utf16Units, if_pos hc,
      ih fun d hd => h d (List.mem_cons_of_mem _ hd)]
    rfl

theorem codePoints_injective : Function.Injective codePoints := by
  intro a b h
  have hchars := List.map_injective_iff.mpr (fun c d hcd => Char.ext (UInt32.toNat_inj.mp hcd)) h
  exact String.ext hchars

theorem byKey_plain {fields : List (String × α)} (h : ∀ field ∈ fields, PlainKey field.1) :
    byKey codePoints fields = byKey utf16 fields := by
  have hsort := List.map_insertionSort (fun a b : String × α => codePoints a.1 ≤ codePoints b.1)
    (fun a b => utf16 a.1 ≤ utf16 b.1) id fields fun a ha b hb => by
      rw [id, id, utf16_plain (h a ha), utf16_plain (h b hb)]
  rw [List.map_id, List.map_id] at hsort
  exact hsort

theorem byKey_map {β : Type} (units : String → List Nat) (f : α → β) (fields : List (String × α)) :
    (byKey units fields).map (fun field => (field.1, f field.2)) =
      byKey units (fields.map fun field => (field.1, f field.2)) :=
  List.map_insertionSort _ _ _ _ fun _ _ _ _ => Iff.rfl

theorem byKey_strict {fields : List (String × α)} (h : (fields.map Prod.fst).Nodup) :
    ((byKey codePoints fields).map fun field => codePoints field.1).Pairwise (· < ·) := by
  have htotal : Std.Total fun a b : String × α => codePoints a.1 ≤ codePoints b.1 :=
    ⟨fun a b => le_total (codePoints a.1) (codePoints b.1)⟩
  have htrans : IsTrans (String × α) fun a b => codePoints a.1 ≤ codePoints b.1 :=
    ⟨fun _ _ _ => le_trans⟩
  have hsorted := List.pairwise_insertionSort (fun a b : String × α => codePoints a.1 ≤ codePoints b.1) fields
  have hkeys : ((byKey codePoints fields).map Prod.fst).Nodup :=
    ((List.perm_insertionSort _ fields).map Prod.fst).nodup_iff.mpr h
  rw [List.pairwise_map]
  exact (hsorted.and (List.pairwise_map.mp hkeys)).imp fun hab =>
    lt_of_le_of_ne hab.1 fun heq => hab.2 (codePoints_injective heq)

theorem canonicalFields_eq (fields : List (String × Value)) :
    canonicalFields fields = fields.map fun field => (field.1, canonicalValue field.2) := by
  induction fields with
  | nil => rfl
  | cons field fields ih => simp [canonicalFields, ih]

theorem canonicalFields_keys {fields : List (String × Value)} :
    (canonicalFields fields).map Prod.fst = fields.map Prod.fst := by
  rw [canonicalFields_eq, List.map_map]
  rfl

theorem canonicalJsonFields_keys {fields : List (String × Value)} :
    (canonicalJsonFields fields).map Prod.fst = fields.map Prod.fst := by
  induction fields with
  | nil => rfl
  | cons field fields ih => simp [canonicalJsonFields, ih]

mutual
theorem canonical_value (hserde : serde.Documented) (value : Value)
    (hplain : Everywhere IsPlain value) (hdistinct : Everywhere IsDistinct value)
    (hsafe : Everywhere IsSafe value) :
    serde.toString (canonicalValue value) = canonicalJson value := by
  cases value with
  | array items =>
    rw [canonicalValue, canonicalJson, hserde.array,
      canonical_items hserde items hplain hdistinct hsafe, join_eq]
  | object fields =>
    have hstrict := byKey_strict (canonicalFields_keys.symm ▸ hdistinct.1 :
      ((canonicalFields fields).map Prod.fst).Nodup)
    have hplain' : ∀ field ∈ canonicalJsonFields fields, PlainKey field.1 := fun field hfield =>
      hplain.1 field.1 (canonicalJsonFields_keys ▸ List.mem_map_of_mem hfield)
    rw [canonicalValue, canonicalJson, hserde.object _ hstrict, join_eq, ← byKey_plain hplain',
      ← canonical_fields hserde fields hplain.2 hdistinct.2 hsafe.2, ← byKey_map, List.map_map]
    congr 3
    exact List.map_congr_left fun field _ => by rw [string_eq hserde]; rfl
  | null => exact hserde.nullText
  | bool b =>
    cases b with
    | true => exact hserde.trueText
    | false => exact hserde.falseText
  | number n => exact number_eq hserde hsafe
  | string text => exact string_eq hserde text
theorem canonical_items (hserde : serde.Documented) (items : List Value)
    (hplain : EveryItem IsPlain items) (hdistinct : EveryItem IsDistinct items)
    (hsafe : EveryItem IsSafe items) :
    (canonicalItems items).map serde.toString = canonicalJsonItems items := by
  cases items with
  | nil => rfl
  | cons value items =>
    rw [canonicalItems, List.map_cons, canonicalJsonItems,
      canonical_value hserde value hplain.1 hdistinct.1 hsafe.1,
      canonical_items hserde items hplain.2 hdistinct.2 hsafe.2]
theorem canonical_fields (hserde : serde.Documented) (fields : List (String × Value))
    (hplain : EveryField IsPlain fields) (hdistinct : EveryField IsDistinct fields)
    (hsafe : EveryField IsSafe fields) :
    ((canonicalFields fields).map fun field => (field.1, serde.toString field.2)) =
      canonicalJsonFields fields := by
  cases fields with
  | nil => rfl
  | cons field fields =>
    obtain ⟨key, value⟩ := field
    rw [canonicalFields, List.map_cons, canonicalJsonFields,
      canonical_value hserde value hplain.1 hdistinct.1 hsafe.1,
      canonical_fields hserde fields hplain.2 hdistinct.2 hsafe.2]
end

theorem canonical_agree (hserde : serde.Documented) {value : Value}
    (hplain : Everywhere IsPlain value) (hdistinct : Everywhere IsDistinct value)
    (hsafe : Everywhere IsSafe value) : canonicalJsonRust serde value = canonicalJson value :=
  canonical_value hserde value hplain hdistinct hsafe

end Agreement

section Sample

def compactEscape (c : Char) : List Char :=
  if c = '"' then ['\\', '"']
  else if c = '\\' then ['\\', '\\']
  else if c = '\x08' then ['\\', 'b']
  else if c = '\t' then ['\\', 't']
  else if c = '\n' then ['\\', 'n']
  else if c = '\x0c' then ['\\', 'f']
  else if c = '\r' then ['\\', 'r']
  else if c.toNat < 32 then ['\\', 'u', '0', '0', hexChar (c.toNat / 16), hexChar (c.toNat % 16)]
  else [c]

def compactString (text : String) : String :=
  String.ofList ('"' :: (text.toList.flatMap compactEscape ++ ['"']))

mutual
def compactText : Value → String
  | .null => "null"
  | .bool value => if value then "true" else "false"
  | .number value => if value < 0 then String.ofList ('-' :: Nat.toDigits 10 value.natAbs)
    else String.ofList (Nat.toDigits 10 value.natAbs)
  | .string text => compactString text
  | .array items => "[" ++ ",".intercalate (compactItems items) ++ "]"
  | .object fields => "\x7b" ++ ",".intercalate (compactFields fields) ++ "\x7d"
def compactItems : List Value → List String
  | [] => []
  | value :: items => compactText value :: compactItems items
def compactFields : List (String × Value) → List String
  | [] => []
  | (key, value) :: fields => (compactString key ++ ":" ++ compactText value) :: compactFields fields
end

def compactSerde : SerdeJson := ⟨compactEscape, compactText⟩

theorem compactItems_eq (items : List Value) : compactItems items = items.map compactText := by
  induction items with
  | nil => rfl
  | cons value items ih => rw [compactItems, List.map_cons, ih]

theorem compactFields_eq (fields : List (String × Value)) : compactFields fields =
    fields.map fun field => compactText (.string field.1) ++ ":" ++ compactText field.2 := by
  induction fields with
  | nil => rfl
  | cons field fields ih =>
    obtain ⟨key, value⟩ := field
    rw [compactFields, List.map_cons, ih, compactText]

theorem compactSerde_documented : compactSerde.Documented where
  quote := by decide
  reverseSolidus := by decide
  backspace := by decide
  tab := by decide
  lineFeed := by decide
  formFeed := by decide
  carriageReturn := by decide
  asciiControl := by
    intro c hcontrol hnamed
    have hne : ∀ d : Char, d.toNat ∈ [8, 9, 10, 12, 13] → c ≠ d := by
      rintro d hd rfl
      exact hnamed hd
    simp only [compactSerde, compactEscape]
    rw [if_neg, if_neg, if_neg (hne _ (by decide)), if_neg (hne _ (by decide)),
      if_neg (hne _ (by decide)), if_neg (hne _ (by decide)), if_neg (hne _ (by decide)),
      if_pos hcontrol]
    · rintro rfl
      exact absurd hcontrol (by decide)
    · rintro rfl
      exact absurd hcontrol (by decide)
  verbatim := by
    intro c hprintable hquote hsolidus
    have hne : ∀ d : Char, d.toNat < 32 → c ≠ d := by
      rintro d hd rfl
      omega
    simp only [compactSerde, compactEscape]
    rw [if_neg hquote, if_neg hsolidus, if_neg (hne _ (by decide)), if_neg (hne _ (by decide)),
      if_neg (hne _ (by decide)), if_neg (hne _ (by decide)), if_neg (hne _ (by decide)),
      if_neg (by omega)]
  nullText := rfl
  trueText := rfl
  falseText := rfl
  natural := by
    intro n
    simp only [compactSerde, compactText]
    exact if_neg (by omega)
  negative := by
    intro n
    simp only [compactSerde, compactText]
    exact (if_pos (by omega)).trans (by rw [Int.natAbs_neg, Int.natAbs_natCast])
  string := fun _ => rfl
  array := by
    intro items
    simp only [compactSerde, compactText, compactItems_eq]
  object := by
    intro fields _
    simp only [compactSerde, compactText, compactFields_eq]

end Sample

end Obulus.Hosted
