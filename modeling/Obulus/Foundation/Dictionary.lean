import Mathlib.Data.List.AList
import Mathlib.Data.List.Induction

namespace Obulus.Foundation

-- Rust's `HashMap<String, _>` and JavaScript's `Map`, read in no particular order
abbrev Dictionary (β : Type) := AList fun _ : String => β

namespace Dictionary

variable {β : Type}

def ofEntries (entries : List (String × β)) : Dictionary β :=
  entries.foldl (fun map (key, value) => map.insert key value) ∅

variable {entries : List (String × β)} {key : String} {value : β}

theorem ofEntries_snoc (entries : List (String × β)) (key : String) (value : β) :
    ofEntries (entries ++ [(key, value)]) = (ofEntries entries).insert key value := by
  simp [ofEntries]

theorem mem_ofEntries : key ∈ ofEntries entries ↔ key ∈ entries.map Prod.fst := by
  induction entries using List.reverseRecOn with
  | nil => simp [ofEntries]
  | append_singleton entries entry ih =>
    obtain ⟨key', value'⟩ := entry
    rw [ofEntries_snoc, AList.mem_insert, ih]
    simp [or_comm]

theorem lookup_ofEntries (h : (entries.map Prod.fst).Nodup) (hmem : (key, value) ∈ entries) :
    (ofEntries entries).lookup key = some value := by
  induction entries using List.reverseRecOn with
  | nil => cases hmem
  | append_singleton entries entry ih =>
    obtain ⟨key', value'⟩ := entry
    rw [List.map_append, List.nodup_append] at h
    rw [ofEntries_snoc]
    rcases List.mem_append.mp hmem with hmem | hmem
    · have hne : key ≠ key' :=
        h.2.2 key (List.mem_map_of_mem (f := Prod.fst) hmem) key' (by simp)
      rw [AList.lookup_insert_ne hne]
      exact ih h.1 hmem
    · obtain ⟨rfl, rfl⟩ := Prod.mk.inj (List.mem_singleton.mp hmem)
      exact AList.lookup_insert _

theorem mem_of_lookup_ofEntries (h : (ofEntries entries).lookup key = some value) :
    (key, value) ∈ entries := by
  induction entries using List.reverseRecOn with
  | nil => simp [ofEntries] at h
  | append_singleton entries entry ih =>
    obtain ⟨key', value'⟩ := entry
    rw [ofEntries_snoc] at h
    by_cases hkey : key = key'
    · subst hkey
      rw [AList.lookup_insert, Option.some.injEq] at h
      exact List.mem_append_right _ (List.mem_singleton.mpr (Prod.ext rfl h.symm))
    · rw [AList.lookup_insert_ne hkey] at h
      exact List.mem_append_left _ (ih h)

theorem values_ofEntries (h : (entries.map Prod.fst).Nodup) :
    (ofEntries entries).entries.map Sigma.snd = (entries.map Prod.snd).reverse := by
  induction entries using List.reverseRecOn with
  | nil => rfl
  | append_singleton entries entry ih =>
    obtain ⟨key', value'⟩ := entry
    rw [List.map_append, List.nodup_append] at h
    have hnew : key' ∉ ofEntries entries := by
      intro hmem
      exact h.2.2 key' (mem_ofEntries.mp hmem) key' (by simp) rfl
    rw [ofEntries_snoc, AList.entries_insert_of_notMem hnew, List.map_cons, ih h.1]
    simp

theorem length_ofEntries (h : (entries.map Prod.fst).Nodup) :
    (ofEntries entries).entries.length = entries.length := by
  induction entries using List.reverseRecOn with
  | nil => rfl
  | append_singleton entries entry ih =>
    obtain ⟨key', value'⟩ := entry
    rw [List.map_append, List.nodup_append] at h
    have hnew : key' ∉ ofEntries entries := by
      intro hmem
      exact h.2.2 key' (mem_ofEntries.mp hmem) key' (by simp) rfl
    rw [ofEntries_snoc, AList.entries_insert_of_notMem hnew, List.length_cons, ih h.1]
    simp

theorem length_erase {map : Dictionary β} (h : key ∈ map) :
    (map.erase key).entries.length + 1 = map.entries.length := by
  have hkeys := congrArg List.length (AList.keys_erase key map)
  have hmem : key ∈ map.keys := h
  rw [List.length_erase_of_mem hmem] at hkeys
  simp only [AList.keys, List.keys, List.length_map] at hkeys hmem
  have hpos := List.length_pos_of_mem hmem
  rw [List.length_map] at hpos
  omega

end Dictionary

end Obulus.Foundation
