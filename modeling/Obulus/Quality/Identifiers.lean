import Obulus.Quality.Assess

namespace Obulus.Quality

open Foundation Search

def localChar (c : Char) : Bool := isAsciiAlphanumeric c || "._%+-".toList.contains c

def hostChar (c : Char) : Bool := isAsciiAlphanumeric c || c == '-'

-- a local part, one @ and a dotted domain
structure Address (text : List Char) : Prop where
  parts : ∃ localPart host zone, text = localPart ++ '@' :: (host ++ '.' :: zone) ∧
    (∀ c ∈ localPart, localChar c = true) ∧ (∃ c ∈ localPart, isAsciiAlphanumeric c = true) ∧
    (∀ c ∈ host, hostChar c = true ∨ c = '.') ∧ (∃ c ∈ host, isAsciiAlphanumeric c = true) ∧
    (∀ c ∈ zone, hostChar c = true) ∧ ∃ c ∈ zone, isAsciiAlphanumeric c = true

-- between two groups: parentheses, and at most one space, hyphen or dot
structure DialGap (gap : List Char) : Prop where
  written : gap ≠ []
  chars : ∀ c ∈ gap, c ∈ [' ', '-', '.', '(', ')']
  single : gap.countP (fun c => decide (c ∈ [' ', '-', '.'])) ≤ 1

inductive DialGroups (Gap : List Char → Prop) : List Char → Prop
  | group {digits : List Char} : digits ≠ [] → (∀ c ∈ digits, c.isDigit = true) →
      DialGroups Gap digits
  | join {digits gap rest : List Char} : digits ≠ [] → (∀ c ∈ digits, c.isDigit = true) →
      Gap gap → DialGroups Gap rest → DialGroups Gap (digits ++ (gap ++ rest))

structure PhoneNumber (Gap : List Char → Prop) (text : List Char) : Prop where
  groups : DialGroups Gap text
  enough : 10 ≤ text.countP Char.isDigit

def HasIdentifier (text : List Char) : Prop :=
  ∃ identifier, identifier <:+: text ∧ (Address identifier ∨ PhoneNumber DialGap identifier)

-- one @ in the word, something readable before it, and a dot with something readable behind
structure AddressWord (word : List Char) : Prop where
  parts : ∃ localPart domain, word = localPart ++ '@' :: domain ∧ '@' ∉ localPart ∧ '@' ∉ domain ∧
    (∃ c ∈ localPart, wraps c = false) ∧
    ∃ host zone, domain = host ++ '.' :: zone ∧ ∃ c ∈ zone, wraps c = false

def HasAddressWord (text : List Char) : Prop := ∃ word, Piece isWhiteSpace word text ∧ AddressWord word

def HasDigitRun (text : List Char) : Prop :=
  ∃ run, run <:+: text ∧ (∀ c ∈ run, separates c = false) ∧ 10 ≤ run.countP Char.isDigit

variable {std : StdLib} {question answer : String} {text word localPart domain before after : List Char}
  {c : Char} {Gap : List Char → Prop}

theorem wraps_at : wraps '@' = false := by
  decide

theorem isAddress_strip (hlocal : '@' ∉ localPart) (hdomain : '@' ∉ domain) :
    isAddress (strip wraps (localPart ++ '@' :: domain)) = true ↔
      (∃ c ∈ localPart, wraps c = false) ∧
        ∃ host zone, domain = host ++ '.' :: zone ∧ ∃ c ∈ zone, wraps c = false := by
  have hdropped : '@' ∉ localPart.dropWhile wraps := fun h => hlocal ((List.dropWhile_sublist _).mem h)
  have hrdropped : '@' ∉ domain.rdropWhile wraps := fun h => hdomain ((List.rdropWhile_prefix _ _).mem h)
  have hdot := @mem_rdropWhile _ wraps domain '.' (by decide)
  rw [strip_append_cons wraps_at, isAddress, splitOn_eq_pair.mpr ⟨rfl, hdropped, hrdropped⟩,
    ← dropWhile_ne_nil, ← hdot]
  simp

theorem addressWord_iff : isAddress (strip wraps word) = true ↔ AddressWord word := by
  constructor
  · intro h
    obtain ⟨localPart, domain, hstripped, hlocal, hdomain, -⟩ := isAddress_iff.mp h
    obtain ⟨before, after, hword, hbefore, hafter⟩ := exists_strip wraps word
    have hoff : ∀ l : List Char, (∀ c ∈ l, wraps c = true) → '@' ∉ l := by
      intro l hl hmem
      have hat := hl '@' hmem
      rw [wraps_at] at hat
      cases hat
    rw [hstripped] at hword
    have hparts : word = (before ++ localPart) ++ '@' :: (domain ++ after) := by
      rw [hword]
      simp
    have hleft : '@' ∉ before ++ localPart := by
      rw [List.mem_append, not_or]
      exact ⟨hoff before hbefore, hlocal⟩
    have hright : '@' ∉ domain ++ after := by
      rw [List.mem_append, not_or]
      exact ⟨hdomain, hoff after hafter⟩
    rw [hparts, isAddress_strip hleft hright] at h
    exact ⟨_, _, hparts, hleft, hright, h⟩
  · rintro ⟨localPart, domain, rfl, hlocal, hdomain, hreadable⟩
    exact (isAddress_strip hlocal hdomain).mpr hreadable

theorem AddressWord.ne_nil (h : AddressWord word) : word ≠ [] := by
  obtain ⟨localPart, domain, rfl, -⟩ := h
  simp

theorem hasAddressWord_iff :
    ((splitWhitespace (strip isWhiteSpace text)).any fun token => isAddress (strip wraps token)) = true ↔
      HasAddressWord text := by
  have hpieces : splitWhitespace (strip isWhiteSpace text) = pieces isWhiteSpace text :=
    pieces_strip (fun _ h => h) text
  rw [hpieces, List.any_eq_true]
  constructor
  · rintro ⟨word, hmem, haddress⟩
    exact ⟨word, (mem_pieces.mp hmem).1, addressWord_iff.mp haddress⟩
  · rintro ⟨word, hpiece, haddress⟩
    exact ⟨word, mem_pieces.mpr ⟨hpiece, haddress.ne_nil⟩, addressWord_iff.mpr haddress⟩

theorem hasDigitRun_strip : (∃ word ∈ (strip isWhiteSpace text).splitOnP separates,
    10 ≤ word.countP Char.isDigit) ↔ HasDigitRun text := by
  have hpieces := pieces_strip separates_of_whiteSpace text
  have hlong : ∀ text : List Char, (∃ word ∈ text.splitOnP separates, 10 ≤ word.countP Char.isDigit) ↔
      ∃ word ∈ pieces separates text, 10 ≤ word.countP Char.isDigit := by
    intro text
    constructor
    · rintro ⟨word, hmem, hcount⟩
      refine ⟨word, mem_pieces.mpr ⟨mem_splitOnP.mp hmem, ?_⟩, hcount⟩
      rintro rfl
      simp at hcount
    · rintro ⟨word, hmem, hcount⟩
      exact ⟨word, mem_splitOnP.mpr (mem_pieces.mp hmem).1, hcount⟩
  rw [hlong, hpieces, ← hlong, exists_dense_piece, HasDigitRun]

theorem hasDigitRun_iff : (decide (10 ≤ (strip isWhiteSpace text).countP Char.isDigit) &&
    ((strip isWhiteSpace text).splitOnP separates).any fun token =>
      decide (10 ≤ token.countP Char.isDigit)) = true ↔ HasDigitRun text := by
  rw [Bool.and_eq_true, List.any_eq_true]
  simp only [decide_eq_true_eq]
  rw [hasDigitRun_strip]
  constructor
  · intro h
    exact h.2
  · intro h
    refine ⟨?_, h⟩
    obtain ⟨run, hwithin, -, hcount⟩ := exists_dense_piece.mp (hasDigitRun_strip.mpr h)
    exact le_trans hcount (hwithin.sublist.countP_le)

theorem caught_iff_has : Caught std question answer ↔
    HasAddressWord answer.toList ∨ HasDigitRun answer.toList := by
  rw [caught_iff, containsDirectIdentifier, Bool.or_eq_true, hasAddressWord_iff, hasDigitRun_iff]

theorem not_whiteSpace_of_localChar (h : localChar c = true) : isWhiteSpace c = false := by
  rw [localChar, Bool.or_eq_true] at h
  rcases h with h | h
  · exact not_whiteSpace_of_alphanumeric h
  · have hall : ("._%+-".toList.all fun c => !isWhiteSpace c) = true := by decide
    rw [List.contains_iff_mem] at h
    simpa using List.all_eq_true.mp hall c h

theorem localChar_of_hostChar (h : hostChar c = true) : localChar c = true := by
  rw [hostChar, Bool.or_eq_true, beq_iff_eq] at h
  rw [localChar, Bool.or_eq_true]
  rcases h with h | rfl
  · exact .inl h
  · exact .inr (by decide)

theorem not_wraps_of_alphanumeric (h : isAsciiAlphanumeric c = true) : wraps c = false := by
  have hall : (",.;:()[]{}<>".toList.all fun c => !isAsciiAlphanumeric c) = true := by decide
  rw [wraps, ← Bool.not_eq_true, List.contains_iff_mem]
  intro hmem
  have hnot := List.all_eq_true.mp hall c hmem
  rw [h] at hnot
  cases hnot

theorem localChar_at : localChar '@' = false := by
  decide

theorem Address.free (h : Address word) : ∀ c ∈ word, isWhiteSpace c = false := by
  obtain ⟨localPart, host, zone, rfl, hlocal, -, hhost, -, hzone, -⟩ := h
  intro c hc
  simp only [List.mem_append, List.mem_cons] at hc
  rcases hc with hc | rfl | hc | rfl | hc
  · exact not_whiteSpace_of_localChar (hlocal c hc)
  · decide
  · rcases hhost c hc with hc | rfl
    · exact not_whiteSpace_of_localChar (localChar_of_hostChar hc)
    · decide
  · decide
  · exact not_whiteSpace_of_localChar (localChar_of_hostChar (hzone c hc))

theorem Address.alone (h : Address word) (hbefore : '@' ∉ before) (hafter : '@' ∉ after) :
    AddressWord (before ++ word ++ after) := by
  obtain ⟨localPart, host, zone, rfl, hlocal, ⟨c, hc, hname⟩, hhost, -, hzone, d, hd, hlast⟩ := h
  refine ⟨before ++ localPart, host ++ '.' :: zone ++ after, by simp, ?_, ?_, ?_, ?_⟩
  · rw [List.mem_append, not_or]
    refine ⟨hbefore, fun hat => ?_⟩
    have hchar := hlocal '@' hat
    rw [localChar_at] at hchar
    cases hchar
  · simp only [List.mem_append, List.mem_cons, not_or]
    refine ⟨⟨fun hat => ?_, by decide, fun hat => ?_⟩, hafter⟩
    · rcases hhost '@' hat with hchar | hchar
      · exact absurd hchar (by decide)
      · exact absurd hchar (by decide)
    · exact absurd (hzone '@' hat) (by decide)
  · exact ⟨c, List.mem_append_right _ hc, not_wraps_of_alphanumeric hname⟩
  · exact ⟨host, zone ++ after, by simp, d, List.mem_append_left _ hd, not_wraps_of_alphanumeric hlast⟩

-- an address is seen unless the word around it holds another @
theorem hasAddressWord_of_lone (haddress : Address word) (hwithin : word <:+: text)
    (hlone : ∀ around, Piece isWhiteSpace around text → word <:+: around → around.count '@' = 1) :
    HasAddressWord text := by
  obtain ⟨around, hpiece, before, after, rfl⟩ := exists_piece_of_infix hwithin haddress.free
  have hcount := hlone _ hpiece ⟨before, after, rfl⟩
  have hat : 1 ≤ word.count '@' := by
    obtain ⟨localPart, host, zone, rfl, -⟩ := haddress
    exact List.count_pos_iff.mpr (by simp)
  rw [List.count_append, List.count_append] at hcount
  refine ⟨_, hpiece, haddress.alone ?_ ?_⟩
  · exact List.count_eq_zero.mp (by omega)
  · exact List.count_eq_zero.mp (by omega)

theorem DialGroups.chars (h : DialGroups Gap word) :
    ∀ c ∈ word, c.isDigit = true ∨ ∃ gap, Gap gap ∧ c ∈ gap := by
  induction h with
  | group _ hdigits => exact fun c hc => .inl (hdigits c hc)
  | join _ hdigits hgap _ ih =>
    intro c hc
    rw [List.mem_append, List.mem_append] at hc
    rcases hc with hc | hc | hc
    · exact .inl (hdigits c hc)
    · exact .inr ⟨_, hgap, hc⟩
    · exact ih c hc

theorem not_separates_of_digit (h : c.isDigit = true) : separates c = false := by
  have hname : isAsciiAlphanumeric c = true := by
    simp only [Char.isDigit, Bool.and_eq_true, decide_eq_true_eq] at h
    simp only [isAsciiAlphanumeric, Bool.or_eq_true, Bool.and_eq_true, decide_eq_true_eq]
    exact .inl (.inl ⟨h.1, h.2⟩)
  have hall : (",.;:()[]{}".toList.all fun c => !isAsciiAlphanumeric c) = true := by decide
  rw [separates, not_whiteSpace_of_alphanumeric hname, Bool.false_or, ← Bool.not_eq_true,
    List.contains_iff_mem]
  intro hmem
  have hnot := List.all_eq_true.mp hall c hmem
  rw [hname] at hnot
  cases hnot

-- a number is seen where nothing but hyphens joins its groups
theorem hasDigitRun_of_hyphens (h : PhoneNumber (· = ['-']) word) (hwithin : word <:+: text) :
    HasDigitRun text := by
  refine ⟨word, hwithin, ?_, h.enough⟩
  intro c hc
  rcases h.groups.chars c hc with hdigit | ⟨gap, rfl, hhyphen⟩
  · exact not_separates_of_digit hdigit
  · rw [List.mem_singleton.mp hhyphen]
    decide

def Screened (std : StdLib) (question answer : String) : Prop :=
  HasIdentifier answer.toList → Caught std question answer

-- an address whose word holds no other @
def HasLoneAddress (text : List Char) : Prop :=
  ∃ word, Address word ∧ word <:+: text ∧
    ∀ around, Piece isWhiteSpace around text → word <:+: around → around.count '@' = 1

def HasHyphenNumber (text : List Char) : Prop :=
  ∃ number, PhoneNumber (· = ['-']) number ∧ number <:+: text

theorem screened_iff (std : StdLib) (question answer : String) :
    (Screened std question answer ↔ ¬HasIdentifier answer.toList ∨ HasAddressWord answer.toList ∨
      HasDigitRun answer.toList) ∧
    (HasLoneAddress answer.toList ∨ HasHyphenNumber answer.toList → Caught std question answer) := by
  refine ⟨?_, ?_⟩
  · rw [Screened, caught_iff_has, imp_iff_not_or]
  · rw [caught_iff_has]
    rintro (⟨word, haddress, hwithin, hlone⟩ | ⟨number, hnumber, hwithin⟩)
    · exact .inl (hasAddressWord_of_lone haddress hwithin hlone)
    · exact .inr (hasDigitRun_of_hyphens hnumber hwithin)

def spacedNumber : String := "You can call me at 010 1234 5678 after lunch."

def bracketedNumber : String := "You can call me at (415) 555-2671 after lunch."

theorem DialGap.blank : DialGap [' '] := ⟨by simp, by simp, by decide⟩

theorem DialGap.closing : DialGap [')', ' '] := ⟨by simp, by simp, by decide⟩

theorem DialGap.hyphen : DialGap ['-'] := ⟨by simp, by simp, by decide⟩

theorem DialGroups.three {gap gap' : List Char} {first second third : String} (hgap : Gap gap)
    (hgap' : Gap gap') (hdigits : ([first, second, third].all fun group =>
      !group.toList.isEmpty && group.toList.all Char.isDigit) = true) :
    DialGroups Gap (first.toList ++ (gap ++ (second.toList ++ (gap' ++ third.toList)))) := by
  have hgroup : ∀ group ∈ [first, second, third], group.toList ≠ [] ∧
      ∀ c ∈ group.toList, c.isDigit = true := by
    intro group hmem
    have hall := List.all_eq_true.mp hdigits group hmem
    rw [Bool.and_eq_true, List.all_eq_true, Bool.not_eq_true', List.isEmpty_eq_false_iff] at hall
    exact hall
  obtain ⟨hfirst, hfirst'⟩ := hgroup first (by simp)
  obtain ⟨hsecond, hsecond'⟩ := hgroup second (by simp)
  obtain ⟨hthird, hthird'⟩ := hgroup third (by simp)
  exact .join hfirst hfirst' hgap (.join hsecond hsecond' hgap' (.group hthird hthird'))

theorem spaced_number_missed :
    (HasIdentifier spacedNumber.toList ∧ ∀ std question, ¬Screened std question spacedNumber) ∧
    HasIdentifier bracketedNumber.toList ∧ ∀ std question, ¬Screened std question bracketedNumber := by
  have hspaced : HasIdentifier spacedNumber.toList :=
    ⟨"010".toList ++ ([' '] ++ ("1234".toList ++ ([' '] ++ "5678".toList))), by decide +kernel,
      .inr ⟨.three .blank .blank (by decide), by decide +kernel⟩⟩
  have hbracketed : HasIdentifier bracketedNumber.toList :=
    ⟨"415".toList ++ ([')', ' '] ++ ("555".toList ++ (['-'] ++ "2671".toList))), by decide +kernel,
      .inr ⟨.three .closing .hyphen (by decide), by decide +kernel⟩⟩
  have hmissed : ∀ text ∈ [spacedNumber, bracketedNumber],
      containsDirectIdentifier (strip isWhiteSpace text.toList) = false := by
    decide +kernel
  have hunscreened : ∀ text ∈ [spacedNumber, bracketedNumber], HasIdentifier text.toList →
      ∀ std question, ¬Screened std question text := by
    intro text htext hnumber std question hscreened
    have hcaught := caught_iff.mp (hscreened hnumber)
    rw [hmissed text htext] at hcaught
    cases hcaught
  exact ⟨⟨hspaced, hunscreened _ List.mem_cons_self hspaced⟩,
    hbracketed, hunscreened _ (List.mem_cons_of_mem _ List.mem_cons_self) hbracketed⟩

end Obulus.Quality
