import Mathlib.Data.List.DropRight
import Mathlib.Data.List.Infix
import Mathlib.Tactic.Common
import Obulus.Foundation.Text

namespace Obulus.Foundation

variable {α : Type} {sep drop : α → Bool} {word text run before after left right : List α} {a : α}

-- a longest stretch of a text without a separator
structure Piece (sep : α → Bool) (word text : List α) : Prop where
  free : ∀ a ∈ word, sep a = false
  placed : ∃ before after, text = before ++ word ++ after ∧
    (∀ a ∈ before.getLast?, sep a = true) ∧ ∀ a ∈ after.head?, sep a = true

theorem span_sep (sep : α → Bool) (text : List α) : ∃ word rest, text = word ++ rest ∧
    (∀ a ∈ word, sep a = false) ∧ ∀ a ∈ rest.head?, sep a = true := by
  refine ⟨text.takeWhile (!sep ·), text.dropWhile (!sep ·), ?_, ?_, ?_⟩
  · exact List.takeWhile_append_dropWhile.symm
  · intro a ha
    simpa using List.mem_takeWhile_imp ha
  · intro a ha
    have hhead := List.head?_dropWhile_not (fun a => !sep a) text
    rw [Option.mem_def] at ha
    rw [ha] at hhead
    simpa using hhead

theorem splitOnP_free (hfree : ∀ a ∈ word, sep a = false)
    (hafter : ∀ a ∈ after.head?, sep a = true) :
    (word ++ after).splitOnP sep =
      word :: match after with
        | [] => []
        | _ :: rest => rest.splitOnP sep := by
  cases after with
  | nil => rw [List.append_nil, List.splitOnP_eq_singleton hfree]
  | cons a rest => exact List.splitOnP_append_cons_of_forall_mem hfree a (hafter a rfl) rest

theorem piece_of_mem_splitOnP : ∀ text : List α, word ∈ text.splitOnP sep → Piece sep word text := by
  intro text
  induction hlength : text.length using Nat.strong_induction_on generalizing text with
  | _ n ih =>
    intro hmem
    obtain ⟨first, rest, rfl, hfree, hrest⟩ := span_sep sep text
    rw [splitOnP_free hfree hrest, List.mem_cons] at hmem
    rcases hmem with rfl | hmem
    · exact ⟨hfree, [], rest, rfl, by simp, hrest⟩
    · cases rest with
      | nil => cases hmem
      | cons a rest =>
        have hshort : rest.length < n := by
          simp only [List.length_append, List.length_cons] at hlength
          omega
        obtain ⟨hword, before, after, hplaced, hbefore, hafter⟩ := ih rest.length hshort rest rfl hmem
        refine ⟨hword, first ++ a :: before, after, ?_, ?_, hafter⟩
        · rw [hplaced]
          simp
        · intro b hb
          cases before with
          | nil =>
            simp only [List.getLast?_append, List.getLast?_singleton, Option.some_or] at hb
            cases hb
            exact hrest a rfl
          | cons c before =>
            have hlast : (first ++ a :: c :: before).getLast? = (c :: before).getLast? := by
              rw [List.getLast?_append, List.getLast?_cons_cons, List.getLast?_cons, Option.some_or]
            rw [hlast] at hb
            exact hbefore b hb

theorem Piece.mem_splitOnP (h : Piece sep word text) : word ∈ text.splitOnP sep := by
  obtain ⟨hfree, before, after, rfl, hbefore, hafter⟩ := h
  have htail : word ∈ (word ++ after).splitOnP sep := by
    rw [splitOnP_free hfree hafter]
    exact List.mem_cons_self
  rcases List.eq_nil_or_concat before with rfl | ⟨front, a, rfl⟩
  · rwa [List.nil_append]
  · have hsep : sep a = true := hbefore a (by simp)
    rw [List.concat_eq_append, List.append_assoc, List.append_assoc, List.singleton_append,
      List.splitOnP_append_cons _ _ hsep]
    exact List.mem_append_right _ htail

theorem mem_splitOnP : word ∈ text.splitOnP sep ↔ Piece sep word text :=
  ⟨piece_of_mem_splitOnP text, Piece.mem_splitOnP⟩

theorem exists_piece_of_infix (hrun : run <:+: text) (hfree : ∀ a ∈ run, sep a = false) :
    ∃ word, Piece sep word text ∧ ∃ before after, word = before ++ run ++ after := by
  obtain ⟨before, after, rfl⟩ := hrun
  obtain ⟨near, far, hafter, hnear, hfar⟩ := span_sep sep after
  obtain ⟨near', far', hbefore, hnear', hfar'⟩ := span_sep sep before.reverse
  have hreversed : before = far'.reverse ++ near'.reverse := by
    rw [← List.reverse_append, ← hbefore, List.reverse_reverse]
  refine ⟨near'.reverse ++ run ++ near, ⟨?_, far'.reverse, far, ?_, ?_, hfar⟩,
    near'.reverse, near, rfl⟩
  · intro a ha
    rcases List.mem_append.mp ha with ha | ha
    · rcases List.mem_append.mp ha with ha | ha
      · exact hnear' a (List.mem_reverse.mp ha)
      · exact hfree a ha
    · exact hnear a ha
  · rw [hreversed, hafter]
    simp
  · intro a ha
    rw [List.getLast?_reverse] at ha
    exact hfar' a ha

theorem exists_dense_piece {n : Nat} {p : α → Bool} :
    (∃ word ∈ text.splitOnP sep, n ≤ word.countP p) ↔
      ∃ run, run <:+: text ∧ (∀ a ∈ run, sep a = false) ∧ n ≤ run.countP p := by
  constructor
  · rintro ⟨word, hmem, hcount⟩
    obtain ⟨hfree, before, after, rfl, -, -⟩ := mem_splitOnP.mp hmem
    exact ⟨word, ⟨before, after, rfl⟩, hfree, hcount⟩
  · rintro ⟨run, hwithin, hfree, hcount⟩
    obtain ⟨word, hpiece, before, after, rfl⟩ := exists_piece_of_infix hwithin hfree
    refine ⟨_, hpiece.mem_splitOnP, ?_⟩
    rw [List.countP_append, List.countP_append]
    omega

theorem splitOn_eq_pair [DecidableEq α] :
    text.splitOn a = [left, right] ↔ text = left ++ a :: right ∧ a ∉ left ∧ a ∉ right := by
  constructor
  · intro h
    have hfree : ∀ word ∈ [left, right], a ∉ word := by
      intro word hword ha
      rw [← h, List.splitOn_eq_splitOnP, mem_splitOnP] at hword
      simpa using hword.free a ha
    refine ⟨?_, hfree left (by simp), hfree right (by simp)⟩
    have hjoined : [a].intercalate (text.splitOn a) = text := List.intercalate_splitOn a
    rw [h] at hjoined
    simpa using hjoined.symm
  · rintro ⟨rfl, hleft, hright⟩
    rw [List.splitOn_append_cons_self_of_not_mem hleft, List.splitOn_eq_singleton hright]

section Enclosed

variable [DecidableEq α] {o c : α} {inner : List α}

-- a stretch between the two brackets, without either of them inside
def Enclosed (o c : α) (inner text : List α) : Prop :=
  o ∉ inner ∧ c ∉ inner ∧ ∃ before after, text = before ++ o :: inner ++ c :: after

def splitOnce (a : α) (text : List α) : Option (List α × List α) :=
  if a ∈ text then some (text.takeWhile (· ≠ a), (text.dropWhile (· ≠ a)).tail) else none

theorem splitOnce_append (hfree : a ∉ left) : splitOnce a (left ++ a :: right) = some (left, right) := by
  have hkept : ∀ b ∈ left, decide (b ≠ a) = true := by
    intro b hb
    rw [decide_eq_true_eq]
    rintro rfl
    exact hfree hb
  rw [splitOnce, if_pos (by simp), List.takeWhile_append_of_pos hkept, List.dropWhile_append_of_pos hkept]
  simp

-- whatever two brackets enclose starts a stretch between two opening ones
theorem Enclosed.split (h : Enclosed o c inner text) (hoc : o ≠ c) :
    ∃ rest, inner ++ c :: rest ∈ (text.splitOn o).drop 1 := by
  obtain ⟨hopen, -, before, after, rfl⟩ := h
  obtain ⟨near, far, hafter, hnear, hfar⟩ := span_sep (· == o) after
  have hfree : ∀ a ∈ inner ++ c :: near, (a == o) = false := by
    intro a ha
    rw [beq_eq_false_iff_ne]
    rintro rfl
    rcases List.mem_append.mp ha with ha | ha
    · exact hopen ha
    · rcases List.mem_cons.mp ha with ha | ha
      · exact hoc ha
      · simpa using hnear a ha
  have htail : inner ++ c :: near ∈ (inner ++ c :: after).splitOn o := by
    have hshape : inner ++ c :: after = (inner ++ c :: near) ++ far := by
      rw [hafter]
      simp
    rw [List.splitOn_eq_splitOnP, hshape, splitOnP_free hfree hfar]
    exact List.mem_cons_self
  refine ⟨near, ?_⟩
  have hshape : before ++ o :: inner ++ c :: after = before ++ o :: (inner ++ c :: after) := by
    simp
  have hbefore : before.splitOn o ≠ [] := List.splitOn_ne_nil o before
  rw [hshape, List.splitOn_eq_splitOnP, List.splitOnP_append_cons _ _ (by simp), List.drop_append]
  refine List.mem_append_right _ ?_
  have hlength : 1 - (before.splitOnP (· == o)).length = 0 := by
    rw [List.splitOn_eq_splitOnP] at hbefore
    have hpos := List.length_pos_iff.mpr hbefore
    omega
  rw [hlength, List.drop_zero]
  exact htail

end Enclosed

section Strip

theorem dropWhile_append_cons (hkept : drop a = false) :
    (left ++ a :: right).dropWhile drop = left.dropWhile drop ++ a :: right := by
  induction left with
  | nil => simp [hkept]
  | cons b left ih =>
    rw [List.cons_append, List.dropWhile_cons, List.dropWhile_cons, ih]
    split
    · rfl
    · rfl

theorem rdropWhile_append_cons (hkept : drop a = false) :
    (left ++ a :: right).rdropWhile drop = left ++ a :: right.rdropWhile drop := by
  have hback : (left ++ a :: right).reverse = right.reverse ++ a :: left.reverse := by
    simp
  rw [List.rdropWhile, hback, dropWhile_append_cons hkept]
  simp [List.rdropWhile]

theorem strip_append_cons (hkept : drop a = false) :
    strip drop (left ++ a :: right) = left.dropWhile drop ++ a :: right.rdropWhile drop := by
  rw [strip, dropWhile_append_cons hkept, rdropWhile_append_cons hkept]

theorem dropWhile_ne_nil : text.dropWhile drop ≠ [] ↔ ∃ a ∈ text, drop a = false := by
  rw [Ne, List.dropWhile_eq_nil_iff]
  simp

theorem mem_rdropWhile (hdropped : drop a = true) : a ∈ text.rdropWhile drop ↔
    ∃ left right, text = left ++ a :: right ∧ ∃ b ∈ right, drop b = false := by
  constructor
  · intro hmem
    obtain ⟨left, right, hkept⟩ := List.append_of_mem hmem
    have hnonempty : text.rdropWhile drop ≠ [] := List.ne_nil_of_mem hmem
    have hlast := List.rdropWhile_last_not drop text hnonempty
    have htext : text = left ++ a :: right ++ text.rtakeWhile drop := by
      rw [← hkept, List.rdropWhile_append_rtakeWhile]
    refine ⟨left, right ++ text.rtakeWhile drop, by simpa using htext, ?_⟩
    rcases List.eq_nil_or_concat right with rfl | ⟨front, b, rfl⟩
    · simp [hkept, hdropped] at hlast
    · refine ⟨b, by simp, ?_⟩
      simpa [hkept] using hlast
  · rintro ⟨left, right, rfl, b, hb, hkept⟩
    obtain ⟨front, back, rfl⟩ := List.append_of_mem hb
    have hshape : left ++ a :: (front ++ b :: back) = (left ++ a :: front) ++ b :: back := by
      simp
    rw [hshape, rdropWhile_append_cons hkept]
    simp

theorem exists_strip (drop : α → Bool) (text : List α) : ∃ before after, text = before ++ strip drop text ++ after ∧
    (∀ a ∈ before, drop a = true) ∧ ∀ a ∈ after, drop a = true := by
  refine ⟨text.takeWhile drop, (text.dropWhile drop).rtakeWhile drop, ?_, ?_, ?_⟩
  · rw [strip, List.append_assoc, List.rdropWhile_append_rtakeWhile, List.takeWhile_append_dropWhile]
  · intro a ha
    exact List.mem_takeWhile_imp ha
  · intro a ha
    exact List.mem_rtakeWhile_imp ha

def pieces (sep : α → Bool) (text : List α) : List (List α) :=
  (text.splitOnP sep).filter (!·.isEmpty)

theorem mem_pieces : word ∈ pieces sep text ↔ Piece sep word text ∧ word ≠ [] := by
  rw [pieces, List.mem_filter, mem_splitOnP]
  simp

theorem pieces_append_left (text : List α) (hsep : ∀ a ∈ before, sep a = true) :
    pieces sep (before ++ text) = pieces sep text := by
  induction before with
  | nil => rfl
  | cons a before ih =>
    rw [List.forall_mem_cons] at hsep
    rw [← ih hsep.2, pieces, pieces, List.cons_append,
      List.splitOnP_cons_eq_if_modifyHead, if_pos hsep.1]
    rfl

theorem pieces_append_right (text : List α) (hsep : ∀ a ∈ after, sep a = true) :
    pieces sep (text ++ after) = pieces sep text := by
  cases after with
  | nil => rw [List.append_nil]
  | cons a after =>
    rw [List.forall_mem_cons] at hsep
    have hnone : pieces sep after = [] := by
      have hleft := pieces_append_left [] hsep.2
      rw [List.append_nil] at hleft
      rw [hleft]
      rfl
    rw [pieces, List.splitOnP_append_cons _ _ hsep.1, List.filter_append]
    change pieces sep text ++ pieces sep after = pieces sep text
    rw [hnone, List.append_nil]

theorem pieces_strip (hsep : ∀ a, drop a = true → sep a = true) (text : List α) :
    pieces sep (strip drop text) = pieces sep text := by
  obtain ⟨before, after, htext, hbefore, hafter⟩ := exists_strip drop text
  have hright := pieces_append_right (before ++ strip drop text)
    fun a ha => hsep a (hafter a ha)
  rw [← htext, pieces_append_left _ fun a ha => hsep a (hbefore a ha)] at hright
  exact hright.symm

end Strip

end Obulus.Foundation
