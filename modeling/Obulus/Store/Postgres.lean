import Obulus.Foundation.Emission
import Obulus.Foundation.Text

namespace Obulus.Store.Postgres

open Foundation

abbrev Text := List Char

section Replacing

variable (pattern replacement : Text)

-- `str::replace`, with what is left to skip of the last match
def replaceFrom : Nat → Text → Text
  | _, [] => []
  | skip + 1, _ :: rest => replaceFrom skip rest
  | 0, c :: rest =>
    if pattern.isPrefixOf (c :: rest) = true then replacement ++ replaceFrom (pattern.length - 1) rest
    else c :: replaceFrom 0 rest

def replaceAll (text : Text) : Text := replaceFrom pattern replacement 0 text

def replaceFirst : Text → Text
  | [] => []
  | c :: rest =>
    if pattern.isPrefixOf (c :: rest) = true then replacement ++ (c :: rest).drop pattern.length
    else c :: replaceFirst rest

def find? : Text → Option Nat
  | [] => if pattern.isEmpty = true then some 0 else none
  | c :: rest =>
    if pattern.isPrefixOf (c :: rest) = true then some 0 else (find? rest).map (· + 1)

end Replacing

section Translation

-- `bytes[index] as char`
def latin1 (c : Char) : Text := (String.utf8EncodeChar c).map fun b => Char.ofNat b.toNat

def placeholders : Text → Text
  | [] => []
  | c :: rest =>
    if c = '?' ∧ rest.head?.any Char.isDigit = true then '$' :: placeholders rest
    else latin1 c ++ placeholders rest

def postgresSql (sql : Text) : Text :=
  let output := replaceAll " COLLATE NOCASE".toList [] (placeholders sql)
  let output := replaceAll "/*FOR_UPDATE*/".toList "FOR UPDATE".toList output
  let trimmed := strip isWhiteSpace output
  if "INSERT OR IGNORE INTO".toList.isPrefixOf (trimmed.map Char.toUpper) = true then
    let replaced := replaceFirst "INSERT OR IGNORE INTO".toList "INSERT INTO".toList trimmed
    replaced.rdropWhile (· == ';') ++ " ON CONFLICT DO NOTHING".toList
  else output

def isWordCharacter (c : Char) : Bool := isAsciiAlphanumeric c || c == '_'

def splitInclusive (sep : Char → Bool) : Text → List Text
  | [] => []
  | c :: rest =>
    if sep c = true then [c] :: splitInclusive sep rest
    else match splitInclusive sep rest with
      | [] => [[c]]
      | part :: parts => (c :: part) :: parts

def replaceSqlWord (sql word replacement : Text) : Text :=
  (splitInclusive (fun c => !isWordCharacter c) sql).flatMap fun part =>
    let token := part.takeWhile isWordCharacter
    let suffix := part.dropWhile isWordCharacter
    if token.map Char.toLower = word.map Char.toLower then replacement ++ suffix else part

def postgresSchemaSql (sql : Text) : Text :=
  let sql := replaceAll "TEXT COLLATE NOCASE".toList "CITEXT".toList sql
  let sql := replaceSqlWord (postgresSql sql) "INTEGER".toList "BIGINT".toList
  replaceAll " BLOB".toList " BYTEA".toList (replaceAll " COLLATE NOCASE".toList [] sql)

end Translation

section Tables

def firstWord (text : Text) : Option Text :=
  let word := (text.dropWhile isWhiteSpace).takeWhile fun c => !isWhiteSpace c
  if word = [] then none else some word

def createdTable (statement : Text) : Option Text :=
  let createTable := "CREATE TABLE IF NOT EXISTS ".toList
  (find? createTable (statement.map Char.toUpper)).bind fun start =>
    (firstWord (statement.drop (start + createTable.length))).map (strip (· == '"'))

def referencesFrom : Nat → Text → List Text
  | _, [] => []
  | skip + 1, _ :: rest => referencesFrom skip rest
  | 0, c :: rest =>
    let marker := "REFERENCES ".toList
    if marker.isPrefixOf ((c :: rest).map Char.toUpper) = true then
      let name := ((c :: rest).drop marker.length).takeWhile isWordCharacter
      name :: referencesFrom (marker.length + name.length - 1) rest
    else referencesFrom 0 rest

def referencedTables (statement : Text) : List Text := referencesFrom 0 statement

abbrev Created := Text × Text

-- a table created twice keeps its last statement
def insertTable (tables : List Created) (statement : Text) : List Created :=
  match createdTable statement with
  | some table => tables.filter (fun t => decide (t.1 ≠ table)) ++ [(table, statement)]
  | none => tables

def createdTables (statements : List Text) : List Created := statements.foldl insertTable []

def otherStatements (statements : List Text) : List Text :=
  statements.filter fun statement => (createdTable statement).isNone

def needs (t : Created) : List Text := referencedTables t.2

def schemaStatements (sql : Text) : List Text :=
  (((sql.splitOn ';').map (strip isWhiteSpace)).filter fun statement => !statement.isEmpty).map
    postgresSchemaSql

-- `order` is the order in which the hash map of the tables left is walked
def orderedPostgresStatements (order : List Created → List Created) (sql : Text) : List Text :=
  let statements := schemaStatements sql
  let tables := createdTables statements
  let rest := otherStatements statements
  if tables.isEmpty = true then rest
  else
    (Emission.emit Prod.fst needs order (tables.map Prod.fst) tables.length tables []).map Prod.snd ++ rest

end Tables

section Facts

variable {order : List Created → List Created} {tables arranged : List Created}
  {statements : List Text} {statement : Text} {sql : Text}

def InOrder (tables arranged : List Created) : Prop :=
  ∀ before t after, arranged = before ++ t :: after → ∀ table ∈ referencedTables t.2,
    table ∈ tables.map Prod.fst → table ∈ before.map Prod.fst

theorem inOrder_iff :
    InOrder tables arranged ↔ Emission.InOrder Prod.fst needs (tables.map Prod.fst) [] arranged := by
  simp only [InOrder, Emission.InOrder, needs, List.not_mem_nil, false_or]

theorem insertTable_distinct (h : (tables.map Prod.fst).Nodup) :
    ((insertTable tables statement).map Prod.fst).Nodup := by
  unfold insertTable
  split
  · next table _ =>
    rw [List.map_append, List.map_singleton, List.nodup_append]
    refine ⟨h.sublist (List.filter_sublist.map _), List.nodup_singleton _, ?_⟩
    intro name hname other hother
    obtain ⟨t, ht, rfl⟩ := List.mem_map.mp hname
    rw [List.mem_singleton.mp hother]
    exact of_decide_eq_true (List.mem_filter.mp ht).2
  · exact h

theorem foldl_insertTable_distinct (h : (tables.map Prod.fst).Nodup) :
    ((statements.foldl insertTable tables).map Prod.fst).Nodup := by
  induction statements generalizing tables with
  | nil => exact h
  | cons statement rest ih => exact ih (insertTable_distinct h)

theorem createdTables_distinct : ((createdTables statements).map Prod.fst).Nodup :=
  foldl_insertTable_distinct List.nodup_nil

-- with no table created twice, none is lost
theorem foldl_insertTable_perm
    (hdistinct : (tables.map Prod.fst ++ statements.filterMap createdTable).Nodup) :
    ((statements.foldl insertTable tables).map Prod.snd ++ otherStatements statements).Perm
      (tables.map Prod.snd ++ statements) := by
  induction statements generalizing tables with
  | nil => exact .refl _
  | cons statement rest ih =>
    rw [List.foldl_cons]
    cases hcreated : createdTable statement with
    | none =>
      have hinsert : insertTable tables statement = tables := by
        rw [insertTable, hcreated]
      have hother : otherStatements (statement :: rest) = statement :: otherStatements rest := by
        rw [otherStatements, List.filter_cons_of_pos (by rw [hcreated]; rfl), otherStatements]
      rw [List.filterMap_cons_none hcreated] at hdistinct
      rw [hinsert, hother]
      exact List.perm_middle.trans (((ih hdistinct).cons statement).trans List.perm_middle.symm)
    | some table =>
      rw [List.filterMap_cons_some hcreated] at hdistinct
      have hfresh : tables.filter (fun t => decide (t.1 ≠ table)) = tables := by
        rw [List.filter_eq_self]
        intro t ht
        rw [decide_eq_true_eq]
        exact (List.nodup_append.mp hdistinct).2.2 _ (List.mem_map_of_mem ht) _ List.mem_cons_self
      have hinsert : insertTable tables statement = tables ++ [(table, statement)] := by
        rw [insertTable, hcreated]
        simp only [hfresh]
      have hother : otherStatements (statement :: rest) = otherStatements rest := by
        rw [otherStatements, List.filter_cons_of_neg (by rw [hcreated]; simp), otherStatements]
      have hdistinct' : ((tables ++ [(table, statement)]).map Prod.fst ++
          rest.filterMap createdTable).Nodup := by
        simpa [List.append_assoc] using hdistinct
      have hperm := ih hdistinct'
      rw [hinsert, hother]
      simpa [List.append_assoc] using hperm

theorem statements_perm (hdistinct : (statements.filterMap createdTable).Nodup) :
    ((createdTables statements).map Prod.snd ++ otherStatements statements).Perm statements := by
  have hperm := @foldl_insertTable_perm [] statements hdistinct
  exact hperm

structure Arranged (sql : Text) (out : List Text) (created : List Created) : Prop where
  tablesFirst : out = created.map Prod.snd ++ otherStatements (schemaStatements sql)
  tables : created.Perm (createdTables (schemaStatements sql))
  complete : ((schemaStatements sql).filterMap createdTable).Nodup → out.Perm (schemaStatements sql)
  ordered : (∃ arranged, arranged.Perm (createdTables (schemaStatements sql)) ∧
    InOrder (createdTables (schemaStatements sql)) arranged) →
      InOrder (createdTables (schemaStatements sql)) created

theorem schema_arranged (horder : ∀ tables, (order tables).Perm tables) (sql : Text) :
    ∃ created, Arranged sql (orderedPostgresStatements order sql) created := by
  set statements := schemaStatements sql with hstatements
  set tables := createdTables statements with htables
  have hdistinct : (tables.map Prod.fst).Nodup := createdTables_distinct
  set created := Emission.emit Prod.fst needs order (tables.map Prod.fst) tables.length tables []
  have hperm : created.Perm tables := Emission.emit_perm horder hdistinct
  have hout : orderedPostgresStatements order sql =
      created.map Prod.snd ++ otherStatements statements := by
    change (if tables.isEmpty = true then otherStatements statements else _) = _
    split
    · next hempty =>
      rw [List.isEmpty_iff.mp hempty] at hperm
      rw [hperm.eq_nil]
      rfl
    · rfl
  refine ⟨created, hout, hperm, fun hnodup => ?_, ?_⟩
  · rw [hout]
    exact ((hperm.map Prod.snd).append_right _).trans (statements_perm hnodup)
  · rintro ⟨arranged, harranged, hordered⟩
    rw [inOrder_iff] at hordered ⊢
    exact Emission.emit_inOrder horder hdistinct le_rfl harranged hordered

end Facts

section Sample

def sampleSchema : Text :=
  "CREATE TABLE IF NOT EXISTS b (a REFERENCES a); CREATE TABLE IF NOT EXISTS a (n INTEGER)".toList

def sampleFirst : Created := ("a".toList, "CREATE TABLE IF NOT EXISTS a (n BIGINT)".toList)

def sampleSecond : Created := ("b".toList, "CREATE TABLE IF NOT EXISTS b (a REFERENCES a)".toList)

set_option maxRecDepth 8000 in
theorem sample_tables : createdTables (schemaStatements sampleSchema) = [sampleSecond, sampleFirst] := by
  decide

set_option maxRecDepth 2000 in
theorem schema_arranged_sample : ∃ created,
    Arranged sampleSchema (orderedPostgresStatements id sampleSchema) created ∧
      InOrder (createdTables (schemaStatements sampleSchema)) created := by
  obtain ⟨created, hcreated⟩ := @schema_arranged id (fun _ => .refl _) sampleSchema
  refine ⟨created, hcreated, hcreated.ordered ⟨[sampleFirst, sampleSecond], ?_, ?_⟩⟩
  · rw [sample_tables]
    exact .swap _ _ _
  · rw [sample_tables, inOrder_iff]
    exact .cons (.cons .nil (by decide)) (by decide)

end Sample

end Obulus.Store.Postgres
