import Obulus.Calls.Correction
import Obulus.Calls.Effects

namespace Obulus.Calls.Lineage

open Foundation Store Funds Relation

section Shelves

-- the memories and their documents, by id
structure Shelf where
  memory : String → Option MemoryEntry
  document : String → Option Document

def shelf (db : Database) : Shelf := ⟨db.memoryEntries.get?, db.documents.get?⟩

variable (s : Shelf)

def Corrects (x y : String) : Prop :=
  ∃ m, s.memory y = some m ∧ m.memoryType = .correction ∧ x ∈ m.sourceIds

-- the memory is for sale as this document
def Offers (x i : String) : Prop :=
  ∃ m d, s.memory x = some m ∧ m.documentId = some i ∧ s.document i = some d ∧ d.locked = false

structure LineageOk : Prop where
  single : ∀ x y i j, Kin (Corrects s) x y → Offers s x i → Offers s y j → i = j
  distinct : ∀ x y m n, Kin (Corrects s) x y → s.memory x = some m → s.memory y = some n →
    m.version = n.version → x = y
  increasing : ∀ x y m n, Corrects s x y → s.memory x = some m → s.memory y = some n →
    m.version < n.version
  agree : ∀ x i m d, s.memory x = some m → m.documentId = some i → s.document i = some d →
    d.version = m.version

def Shelf.add (m : MemoryEntry) (d : Option Document) : Shelf where
  memory x := if m.id = x then some m else s.memory x
  document i := if d.map Document.id = some i then d else s.document i

def Shelf.setLocked (memoryId : String) (documentId : Option String) (locked : Bool) : Shelf where
  memory x := (s.memory x).map fun m => if x = memoryId then { m with locked := locked } else m
  document i := (s.document i).map fun d =>
    if some i = documentId then { d with locked := locked } else d

end Shelves

variable {s s' : Shelf} {m m' n : MemoryEntry} {d : Document} {x y i j memoryId : String}
  {documentId : Option String} {locked : Bool}

-- what any run keeps
structure Linked (s : Shelf) : Prop where
  source : ∀ x y, Corrects s x y → ∃ m, s.memory x = some m
  ruled : ∀ x y m n, Corrects s x y → s.memory x = some m → s.memory y = some n →
    n.version = nextVersion m.version
  apart : ∀ x y i m n, s.memory x = some m → s.memory y = some n → m.documentId = some i →
    n.documentId = some i → x = y
  stored : ∀ x i m, s.memory x = some m → m.documentId = some i → (s.document i).isSome = true
  agree : ∀ x i m d, s.memory x = some m → m.documentId = some i → s.document i = some d →
    d.version = m.version

section Locks

structure SameBut (m m' : MemoryEntry) : Prop where
  memoryType : m'.memoryType = m.memoryType
  documentId : m'.documentId = m.documentId
  sourceIds : m'.sourceIds = m.sourceIds
  version : m'.version = m.version

theorem memory_locked (h : (s.setLocked memoryId documentId locked).memory x = some m') :
    ∃ m, s.memory x = some m ∧ SameBut m m' := by
  obtain ⟨m, hm, rfl⟩ := Option.map_eq_some_iff.mp h
  refine ⟨m, hm, ?_⟩
  split <;> exact ⟨rfl, rfl, rfl, rfl⟩

theorem locked_memory (h : s.memory x = some m) :
    ∃ m', (s.setLocked memoryId documentId locked).memory x = some m' ∧ SameBut m m' := by
  simp only [Shelf.setLocked, h, Option.map_some]
  refine ⟨_, rfl, ?_⟩
  split <;> exact ⟨rfl, rfl, rfl, rfl⟩

theorem corrects_setLocked : Corrects (s.setLocked memoryId documentId locked) = Corrects s := by
  funext x y
  apply propext
  constructor
  · rintro ⟨m', hm', htype, hsource⟩
    obtain ⟨m, hm, hsame⟩ := memory_locked hm'
    exact ⟨m, hm, hsame.memoryType ▸ htype, hsame.sourceIds ▸ hsource⟩
  · rintro ⟨m, hm, htype, hsource⟩
    have hlocked : ∃ m', (s.setLocked memoryId documentId locked).memory y = some m' ∧ SameBut m m' :=
      locked_memory hm
    obtain ⟨m', hm', hsame⟩ := hlocked
    exact ⟨m', hm', hsame.memoryType.trans htype, hsame.sourceIds ▸ hsource⟩

theorem document_locked (h : (s.setLocked memoryId documentId locked).document i = some d) :
    ∃ d', s.document i = some d' ∧ d.version = d'.version ∧
      (d.locked = false → (some i = documentId → locked = false) ∧
        (some i ≠ documentId → d'.locked = false)) := by
  obtain ⟨d', hd', rfl⟩ := Option.map_eq_some_iff.mp h
  refine ⟨d', hd', ?_, ?_⟩
  · split <;> rfl
  · intro hlocked
    split at hlocked
    · next hsame => exact ⟨fun _ => hlocked, fun hne => absurd hsame hne⟩
    · next hother => exact ⟨fun hsame => absurd hsame hother, fun _ => hlocked⟩

theorem Linked.setLocked (h : Linked s) : Linked (s.setLocked memoryId documentId locked) := by
  refine ⟨?_, ?_, ?_, ?_, ?_⟩
  · intro x y hxy
    rw [corrects_setLocked] at hxy
    obtain ⟨m, hm⟩ := h.source x y hxy
    obtain ⟨m', hm', -⟩ := locked_memory hm
    exact ⟨m', hm'⟩
  · intro x y m n hxy hm hn
    rw [corrects_setLocked] at hxy
    obtain ⟨m₀, hm₀, hm⟩ := memory_locked hm
    obtain ⟨n₀, hn₀, hn⟩ := memory_locked hn
    rw [hm.version, hn.version]
    exact h.ruled x y m₀ n₀ hxy hm₀ hn₀
  · intro x y i m n hm hn hmi hni
    obtain ⟨m₀, hm₀, hm⟩ := memory_locked hm
    obtain ⟨n₀, hn₀, hn⟩ := memory_locked hn
    rw [hm.documentId] at hmi
    rw [hn.documentId] at hni
    exact h.apart x y i m₀ n₀ hm₀ hn₀ hmi hni
  · intro x i m hm hmi
    obtain ⟨m₀, hm₀, hm⟩ := memory_locked hm
    rw [hm.documentId] at hmi
    have hstored := h.stored x i m₀ hm₀ hmi
    simpa [Shelf.setLocked] using hstored
  · intro x i m d hm hmi hd
    obtain ⟨m₀, hm₀, hm⟩ := memory_locked hm
    obtain ⟨d₀, hd₀, hversion, -⟩ := document_locked hd
    rw [hm.documentId] at hmi
    rw [hversion, hm.version]
    exact h.agree x i m₀ d₀ hm₀ hmi hd₀

end Locks

section Additions

-- a new memory, with a new document of its own or none
structure New (s : Shelf) (m : MemoryEntry) (d : Option Document) : Prop where
  memory : s.memory m.id = none
  document : m.documentId = d.map Document.id
  fresh : ∀ d', d = some d' → s.document d'.id = none ∧ d'.version = m.version

theorem memory_add {d : Option Document} (h : (s.add m d).memory x = some n) :
    (m.id = x ∧ n = m) ∨ (m.id ≠ x ∧ s.memory x = some n) := by
  simp only [Shelf.add] at h
  split at h
  · next hid => exact .inl ⟨hid, (Option.some.inj h).symm⟩
  · next hid => exact .inr ⟨hid, h⟩

theorem New.other {d : Option Document} (h : New s m d) (hn : s.memory x = some n) : m.id ≠ x := by
  rintro rfl
  rw [h.memory] at hn
  cases hn

theorem New.memory_old {d : Option Document} (h : New s m d) (hn : s.memory x = some n) :
    (s.add m d).memory x = some n := by
  simp only [Shelf.add]
  rw [if_neg (h.other hn), hn]

theorem New.document_old {d : Option Document} (h : New s m d) (hi : (s.document i).isSome = true) :
    (s.add m d).document i = s.document i := by
  simp only [Shelf.add]
  rw [if_neg]
  intro hd
  obtain ⟨d', rfl, rfl⟩ := Option.map_eq_some_iff.mp hd
  rw [(h.fresh d' rfl).1] at hi
  cases hi

theorem corrects_add {d : Option Document} (h : New s m d) : Corrects (s.add m d) x y ↔
    Corrects s x y ∨ (m.id = y ∧ m.memoryType = .correction ∧ x ∈ m.sourceIds) := by
  constructor
  · rintro ⟨n, hn, htype, hsource⟩
    rcases memory_add hn with ⟨hid, rfl⟩ | ⟨-, hn⟩
    · exact .inr ⟨hid, htype, hsource⟩
    · exact .inl ⟨n, hn, htype, hsource⟩
  · rintro (⟨n, hn, htype, hsource⟩ | ⟨rfl, htype, hsource⟩)
    · exact ⟨n, h.memory_old hn, htype, hsource⟩
    · exact ⟨m, by simp [Shelf.add], htype, hsource⟩

theorem corrects_add_plain {d : Option Document} (h : New s m d) (htype : m.memoryType ≠ .correction) :
    Corrects (s.add m d) = Corrects s := by
  funext x y
  apply propext
  rw [corrects_add h]
  constructor
  · rintro (hxy | ⟨-, hcorrection, -⟩)
    · exact hxy
    · exact absurd hcorrection htype
  · exact .inl

theorem corrects_add_correction {d : Option Document} (h : New s m d)
    (htype : m.memoryType = .correction) (hsource : m.sourceIds = [memoryId]) :
    Corrects (s.add m d) = Succeeding (Corrects s) memoryId m.id := by
  funext x y
  apply propext
  rw [corrects_add h, Succeeding, hsource, List.mem_singleton]
  constructor
  · rintro (hxy | ⟨rfl, -, rfl⟩)
    · exact .inl hxy
    · exact .inr ⟨rfl, rfl⟩
  · rintro (hxy | ⟨rfl, rfl⟩)
    · exact .inl hxy
    · exact .inr ⟨rfl, htype, rfl⟩

-- what a correction carries over from the memory it corrects
structure Succeeds (s : Shelf) (m : MemoryEntry) (memoryId : String) (old : MemoryEntry) : Prop where
  source : m.sourceIds = [memoryId]
  held : s.memory memoryId = some old
  version : m.version = nextVersion old.version

theorem Linked.add {d : Option Document} (h : Linked s) (hnew : New s m d)
    (hsucceeds : m.memoryType = .correction → ∃ memoryId old, Succeeds s m memoryId old) :
    Linked (s.add m d) := by
  have hstored : ∀ x i n, s.memory x = some n → n.documentId = some i →
      (s.add m d).document i = s.document i := by
    intro x i n hn hni
    exact hnew.document_old (h.stored x i n hn hni)
  have hown : ∀ i, m.documentId = some i → ∃ d', d = some d' ∧ d'.id = i ∧
      (s.add m d).document i = some d' := by
    intro i hi
    rw [hnew.document] at hi
    obtain ⟨d', rfl, rfl⟩ := Option.map_eq_some_iff.mp hi
    exact ⟨d', rfl, rfl, by simp [Shelf.add]⟩
  have hapart : ∀ x i n, s.memory x = some n → n.documentId = some i → m.documentId ≠ some i := by
    intro x i n hn hni hi
    obtain ⟨d', rfl, rfl, -⟩ := hown i hi
    have hold := h.stored x d'.id n hn hni
    rw [(hnew.fresh d' rfl).1] at hold
    cases hold
  refine ⟨?_, ?_, ?_, ?_, ?_⟩
  · intro x y hxy
    rcases (corrects_add hnew).mp hxy with hxy | ⟨-, htype, hsource⟩
    · obtain ⟨n, hn⟩ := h.source x y hxy
      exact ⟨n, hnew.memory_old hn⟩
    · obtain ⟨memoryId, old, hsucceeds⟩ := hsucceeds htype
      rw [hsucceeds.source, List.mem_singleton] at hsource
      subst hsource
      exact ⟨old, hnew.memory_old hsucceeds.held⟩
  · intro x y a b hxy ha hb
    rcases (corrects_add hnew).mp hxy with hxy | ⟨rfl, htype, hsource⟩
    · obtain ⟨a', ha'⟩ := h.source x y hxy
      obtain ⟨b', hb', -⟩ := id hxy
      rw [hnew.memory_old ha', Option.some.injEq] at ha
      rw [hnew.memory_old hb', Option.some.injEq] at hb
      subst ha hb
      exact h.ruled x y _ _ hxy ha' hb'
    · obtain ⟨memoryId, old, hsucceeds⟩ := hsucceeds htype
      rw [hsucceeds.source, List.mem_singleton] at hsource
      subst hsource
      rw [hnew.memory_old hsucceeds.held, Option.some.injEq] at ha
      subst ha
      rcases memory_add hb with ⟨-, rfl⟩ | ⟨hother, -⟩
      · exact hsucceeds.version
      · exact absurd rfl hother
  · intro x y i a b ha hb hai hbi
    rcases memory_add ha with ⟨hax, ham⟩ | ⟨-, ha⟩
    · rcases memory_add hb with ⟨hby, -⟩ | ⟨-, hb⟩
      · exact hax.symm.trans hby
      · exact absurd (ham ▸ hai) (hapart y i b hb hbi)
    · rcases memory_add hb with ⟨-, hbm⟩ | ⟨-, hb⟩
      · exact absurd (hbm ▸ hbi) (hapart x i a ha hai)
      · exact h.apart x y i a b ha hb hai hbi
  · intro x i a ha hai
    rcases memory_add ha with ⟨-, rfl⟩ | ⟨-, ha⟩
    · obtain ⟨d', -, -, hd'⟩ := hown i hai
      rw [hd']
      rfl
    · rw [hstored x i a ha hai]
      exact h.stored x i a ha hai
  · intro x i a d' ha hai hd'
    rcases memory_add ha with ⟨-, rfl⟩ | ⟨-, ha⟩
    · obtain ⟨d'', hd'', -, hget⟩ := hown i hai
      rw [hget, Option.some.injEq] at hd'
      subst hd'
      exact (hnew.fresh _ hd'').2
    · rw [hstored x i a ha hai] at hd'
      exact h.agree x i a d' ha hai hd'

end Additions

section Preservation

-- what the lineages keep, as long as no superseded passage is corrected or unlocked
structure Sound (s : Shelf) : Prop where
  linked : Linked s
  unique : Relator.RightUnique (Corrects s)
  increasing : ∀ x y m n, Corrects s x y → s.memory x = some m → s.memory y = some n →
    m.version < n.version
  single : ∀ x y i j, Kin (Corrects s) x y → Offers s x i → Offers s y j → i = j

-- of its lineage only this memory may be for sale
def Sole (s : Shelf) (memoryId : String) (documentId : Option String) : Prop :=
  ∀ x i, Kin (Corrects s) x memoryId → Offers s x i → documentId = some i

theorem Sound.lineageOk (h : Sound s) : LineageOk s := by
  refine ⟨h.single, ?_, h.increasing, h.linked.agree⟩
  intro x y m n hkin hm hn hversion
  have hrank : ∀ x y, Corrects s x y →
      ((s.memory x).elim 0 MemoryEntry.version) < (s.memory y).elim 0 MemoryEntry.version := by
    intro x y hxy
    obtain ⟨m, hm⟩ := h.linked.source x y hxy
    obtain ⟨n, hn, -⟩ := id hxy
    simpa [hm, hn] using h.increasing x y m n hxy hm hn
  apply hkin.eq_of_rank h.unique hrank
  simpa [hm, hn] using hversion

theorem offers_eq (hi : Offers s x i) (hj : Offers s x j) : i = j := by
  obtain ⟨m, -, hm, hi, -, -⟩ := hi
  obtain ⟨n, -, hn, hj, -, -⟩ := hj
  rw [hm, Option.some.injEq] at hn
  subst hn
  rw [hi, Option.some.injEq] at hj
  exact hj

theorem offers_setLocked (h : Linked s) (hm : s.memory memoryId = some m)
    (hdocument : m.documentId = documentId)
    (hoffers : Offers (s.setLocked memoryId documentId locked) x i) :
    (x = memoryId ∧ documentId = some i ∧ locked = false) ∨
      (documentId ≠ some i ∧ Offers s x i) := by
  obtain ⟨n', d, hn', hi, hd, hopen⟩ := hoffers
  obtain ⟨n, hn, hsame⟩ := memory_locked hn'
  rw [hsame.documentId] at hi
  obtain ⟨d', hd', -, hlocks⟩ := document_locked hd
  obtain ⟨hlocked, hother⟩ := hlocks hopen
  by_cases hmine : some i = documentId
  · exact .inl ⟨h.apart x memoryId i n m hn hm hi (hdocument.trans hmine.symm), hmine.symm,
      hlocked hmine⟩
  · exact .inr ⟨fun hsame => hmine hsame.symm, n, d', hn, hi, hd', hother hmine⟩

theorem Sound.setLocked (h : Sound s) (hm : s.memory memoryId = some m)
    (hdocument : m.documentId = documentId) (hsole : locked = false → Sole s memoryId documentId) :
    Sound (s.setLocked memoryId documentId locked) := by
  refine ⟨h.linked.setLocked, ?_, ?_, ?_⟩
  · rw [corrects_setLocked]
    exact h.unique
  · intro x y a b hxy ha hb
    rw [corrects_setLocked] at hxy
    obtain ⟨a', ha', hsame⟩ := memory_locked ha
    obtain ⟨b', hb', hsame'⟩ := memory_locked hb
    rw [hsame.version, hsame'.version]
    exact h.increasing x y a' b' hxy ha' hb'
  · intro x y i j hkin hi hj
    rw [corrects_setLocked] at hkin
    rcases offers_setLocked h.linked hm hdocument hi with ⟨rfl, hmine, hlocked⟩ | ⟨hmine, hold⟩
    · rcases offers_setLocked h.linked hm hdocument hj with ⟨-, hyours, -⟩ | ⟨hyours, hj⟩
      · exact Option.some.inj (hmine.symm.trans hyours)
      · exact absurd (hsole hlocked y j hkin.symm hj) hyours
    · rcases offers_setLocked h.linked hm hdocument hj with ⟨rfl, -, hlocked⟩ | ⟨-, hj⟩
      · exact absurd (hsole hlocked x i hkin hold) hmine
      · exact h.single x y i j hkin hold hj

theorem New.hin {d : Option Document} (h : New s m d) : ∀ x, ¬Corrects s x m.id := by
  rintro x ⟨n, hn, -⟩
  exact h.other hn rfl

theorem New.hout {d : Option Document} (h : New s m d) (hlinked : Linked s) :
    ∀ y, ¬Corrects s m.id y := by
  intro y hy
  obtain ⟨n, hn⟩ := hlinked.source _ _ hy
  exact h.other hn rfl

theorem offers_add {d : Option Document} (h : Linked s) (hnew : New s m d) (hx : x ≠ m.id)
    (hoffers : Offers (s.add m d) x i) : Offers s x i := by
  obtain ⟨n, d', hn, hi, hd', hopen⟩ := hoffers
  rcases memory_add hn with ⟨rfl, -⟩ | ⟨-, hn⟩
  · exact absurd rfl hx
  · rw [hnew.document_old (h.stored x i n hn hi)] at hd'
    exact ⟨n, d', hn, hi, hd', hopen⟩

theorem increasing_old {d : Option Document} (h : Sound s) (hnew : New s m d) {a b : MemoryEntry}
    (hxy : Corrects s x y) (ha : (s.add m d).memory x = some a) (hb : (s.add m d).memory y = some b) :
    a.version < b.version := by
  obtain ⟨a', ha'⟩ := h.linked.source x y hxy
  obtain ⟨b', hb', -⟩ := id hxy
  rw [hnew.memory_old ha', Option.some.injEq] at ha
  rw [hnew.memory_old hb', Option.some.injEq] at hb
  subst ha hb
  exact h.increasing x y _ _ hxy ha' hb'

theorem Sound.add {d : Option Document} (h : Sound s) (hnew : New s m d)
    (htype : m.memoryType ≠ .correction) : Sound (s.add m d) := by
  have hcorrects := corrects_add_plain hnew htype
  refine ⟨h.linked.add hnew fun hcorrection => absurd hcorrection htype, ?_, ?_, ?_⟩
  · rw [hcorrects]
    exact h.unique
  · intro x y a b hxy ha hb
    rw [hcorrects] at hxy
    exact increasing_old h hnew hxy ha hb
  · intro x y i j hkin hi hj
    rw [hcorrects] at hkin
    by_cases hx : x = m.id
    · subst hx
      obtain rfl := kin_alone hnew.hin (hnew.hout h.linked) hkin
      exact offers_eq hi hj
    · have hy : y ≠ m.id := by
        rintro rfl
        exact hx (kin_alone hnew.hin (hnew.hout h.linked) hkin.symm)
      exact h.single x y i j hkin (offers_add h.linked hnew hx hi) (offers_add h.linked hnew hy hj)

theorem Sound.correct {old : MemoryEntry} {d : Option Document} (h : Sound s) (hnew : New s m d)
    (htype : m.memoryType = .correction) (hsucceeds : Succeeds s m memoryId old)
    (hversion : old.version < u32Max) (hlast : ∀ y, ¬Corrects s memoryId y)
    (hnone : ∀ x i, Kin (Corrects s) x memoryId → ¬Offers s x i) : Sound (s.add m d) := by
  have hcorrects := corrects_add_correction hnew htype hsucceeds.source
  have hlink : Linked (s.add m d) := h.linked.add hnew fun _ => ⟨memoryId, old, hsucceeds⟩
  have hin := hnew.hin
  have hout := hnew.hout h.linked
  refine ⟨hlink, ?_, ?_, ?_⟩
  · rw [hcorrects]
    exact succeeding_rightUnique h.unique hlast
  · intro x y a b hxy ha hb
    have hnext := hlink.ruled x y a b hxy ha hb
    rw [hcorrects] at hxy
    rcases hxy with hxy | ⟨rfl, rfl⟩
    · exact increasing_old h hnew hxy ha hb
    · rw [hnew.memory_old hsucceeds.held, Option.some.injEq] at ha
      subst ha
      rw [hnext, nextVersion]
      omega
  · intro x y i j hkin hi hj
    rw [hcorrects] at hkin
    by_cases hx : x = m.id
    · by_cases hy : y = m.id
      · subst hx hy
        exact offers_eq hi hj
      · subst hx
        have hold := kin_succeeding_last hin hout hkin.symm hy
        exact absurd (offers_add h.linked hnew hy hj) (hnone y j hold)
    · by_cases hy : y = m.id
      · subst hy
        have hold := kin_succeeding_last hin hout hkin hx
        exact absurd (offers_add h.linked hnew hx hi) (hnone x i hold)
      · exact h.single x y i j (kin_succeeding hin hout hkin hx hy) (offers_add h.linked hnew hx hi)
          (offers_add h.linked hnew hy hj)

end Preservation

end Obulus.Calls.Lineage
