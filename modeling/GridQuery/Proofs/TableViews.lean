-- What is relied on of a database engine: a name leads to one table, and what a
-- statement gives depends on the table that was loaded there. The bundled
-- engine tells tables apart by header mode and caseless name.
import GridQuery.Engine.Select
import GridQuery.Proofs.TableNames

namespace GridQuery

open GridQuery.Text

/-- A view of the databases of an engine: what the name of a reference leads to. With the qualified
name itself as the key, a table is identified by its exact name. -/
structure TableView (δ κ : Type) [TableEngine δ] [DecidableEq κ] where
  /-- What the engine tells tables apart by. -/
  key : TableRef → κ
  /-- Tables can be created under a name of that key. -/
  isName : κ → Bool
  /-- All rows of the table can be stored. -/
  accepts : Table → Bool
  /-- What the database has of a table after an attempt to load it. -/
  kept : Table → Table
  find? : δ → κ → Option Table
  key_eq : ∀ {t u : TableRef}, t.qualifiedName = u.qualifiedName → key t = key u
  find?_start : ∀ k, find? TableEngine.start k = none
  /-- Nothing is loaded under what is no name, or a name that is taken. -/
  load_of_taken : ∀ (d : δ) (t : TableRef) (table : Table),
    isName (key t) = false ∨ (find? d (key t)).isSome = true →
      (TableEngine.load d t table).1.toOption = none ∧
        ∀ k, find? (TableEngine.load d t table).2 k = find? d k
  /-- Under a free name a table is created, and loaded if its rows can be stored. -/
  load_of_free : ∀ (d : δ) (t : TableRef) (table : Table),
    isName (key t) = true → find? d (key t) = none →
      (TableEngine.load d t table).1.toOption = (if accepts table then some () else none) ∧
        ∀ k, find? (TableEngine.load d t table).2 k =
          (find? d k).or (if key t = k then some (kept table) else none)
  /-- The result of a statement depends on its clauses and on the table that its name leads to. -/
  run_congr : ∀ (d d' : δ) (st st' : Statement), st.clauses = st'.clauses →
    find? d (key st.table) = find? d' (key st'.table) →
      (TableEngine.run d st).toOption = (TableEngine.run d' st').toOption

/-! ## The bundled engine -/

/-- Header mode and caseless name. -/
def TableRef.caselessKey (t : TableRef) : Bool × String := (t.header, asciiLower t.name)

theorem asciiLower_eq_empty_iff {s : String} : asciiLower s = "" ↔ s = "" := by
  rw [asciiLower, ← String.toList_inj, String.toList_ofList, ← String.toList_inj]
  exact List.map_eq_nil_iff

namespace Table

/-- All values of the table can be stored. -/
def isStorable (t : Table) : Bool := t.rows.all fun row => row.all Value.isStorable

/-- What an attempt to load a table leaves in the database: its rows are stored all or none. -/
def leftBehind (t : Table) : Table :=
  { t with rows := if t.isStorable then t.rows.map (·.map Value.toMicros) else [] }

end Table

namespace Database

/-- The table of a header mode and a caseless name. -/
def tableOf? (d : Database) (key : Bool × String) : Option Table :=
  (d.tables.find? fun stored => (stored.header, asciiLower stored.name) = key).map (·.table)

variable {d : Database} {ref : TableRef} {table : Table}

theorem find?_eq_tableOf? (d : Database) (ref : TableRef) :
    d.find? ref = d.tableOf? ref.caselessKey := by
  have hnamed : isNamed ref = fun stored =>
      decide ((stored.header, asciiLower stored.name) = ref.caselessKey) := by
    funext stored
    simp only [isNamed, sameCaseless, TableRef.caselessKey, Prod.mk.injEq, Bool.decide_and,
      beq_eq_decide]
  rw [find?, tableOf?, hnamed]

theorem tableOf?_append_one (ref : TableRef) (table : Table) (key : Bool × String) :
    tableOf? ⟨d.tables ++ [⟨ref.header, ref.name, table⟩]⟩ key =
      (d.tableOf? key).or (if ref.caselessKey = key then some table else none) := by
  unfold tableOf?
  rw [List.find?_append, List.find?_singleton, Option.map_or]
  by_cases hkey : ref.caselessKey = key
  · rw [if_pos hkey]
    exact congrArg _ (congrArg _ (if_pos (decide_eq_true hkey)))
  · rw [if_neg hkey]
    exact congrArg _ (congrArg _ (if_neg fun h => hkey (of_decide_eq_true h)))

/-- Nothing is loaded without a name, or under a name that is taken. -/
theorem load_of_taken (table : Table) (h : ref.name = "" ∨ (d.find? ref).isSome = true) :
    ∃ e, d.load ref table = (.error e, d) := by
  have hcreate : ∀ table, ∃ e, d.create ref table = .error e := by
    intro table
    unfold create
    split
    · exact ⟨_, rfl⟩
    · rename_i hname
      rw [if_pos (h.resolve_left (by simpa using hname))]
      exact ⟨_, rfl⟩
  obtain ⟨e, he⟩ := hcreate { table with rows := [] }
  exact ⟨e, by simp only [load, he]⟩

theorem create_of_free (hname : ref.name ≠ "") (hfree : d.find? ref = none) :
    d.create ref table = .ok ⟨d.tables ++ [⟨ref.header, ref.name, table⟩]⟩ := by
  simp [create, hname, hfree]

/-- Under a free name a table is left, with its rows if they can be stored. -/
theorem load_of_free (table : Table) (hname : ref.name ≠ "") (hfree : d.find? ref = none) :
    (d.load ref table).1.toOption = (if table.isStorable then some () else none) ∧
      ∀ key, (d.load ref table).2.tableOf? key =
        (d.tableOf? key).or (if ref.caselessKey = key then some table.leftBehind else none) := by
  unfold load
  simp only [create_of_free hname hfree]
  rcases hstorable : table.isStorable with _ | _
  · have hrows : (table.rows.all fun row => row.all Value.isStorable) = false := hstorable
    simp only [hrows, Bool.false_eq_true, if_false]
    refine ⟨rfl, fun key => ?_⟩
    rw [tableOf?_append_one]
    simp [Table.leftBehind, hstorable]
  · have hrows : (table.rows.all fun row => row.all Value.isStorable) = true := hstorable
    simp only [hrows, if_true]
    refine ⟨rfl, fun key => ?_⟩
    rw [tableOf?_append_one]
    simp [Table.leftBehind, hstorable]

end Database

/-- What a statement gives depends on the table alone that its reference finds. -/
theorem Select.run_congr {d d' : Database} {st st' : Statement}
    (hclauses : st.clauses = st'.clauses) (hfind : d.find? st.table = d'.find? st'.table) :
    (Select.run d st).toOption = (Select.run d' st').toOption := by
  unfold Select.run
  rw [hfind, hclauses]
  rcases d'.find? st'.table with _ | table
  · simp only [Except.toOption]
  · simp only
    rcases Select.unknownName? table.columns st'.clauses with _ | name
    · simp only
      split
      · simp only [Except.toOption]
      · rcases Select.select table st'.clauses with e | r <;> simp only [Except.mapError,
          Except.toOption]
    · simp only [Except.toOption]

namespace Database

/-- The bundled engine tells tables apart by header mode and caseless name. -/
def view : TableView Database (Bool × String) where
  key := TableRef.caselessKey
  isName key := key.2 != ""
  accepts := Table.isStorable
  kept := Table.leftBehind
  find? := tableOf?
  key_eq h := by
    obtain ⟨hheader, hname⟩ := TableRef.qualifiedName_eq_iff.mp h
    rw [TableRef.caselessKey, TableRef.caselessKey, hheader, hname]
  find?_start _ := rfl
  load_of_taken d t table h := by
    rw [← find?_eq_tableOf?] at h
    have htaken : t.name = "" ∨ (d.find? t).isSome = true := by
      simpa [TableRef.caselessKey, asciiLower_eq_empty_iff] using h
    obtain ⟨e, he⟩ := load_of_taken table htaken
    have hload : TableEngine.load d t table = (.error e, d) := he
    rw [hload]
    exact ⟨rfl, fun _ => rfl⟩
  load_of_free d t table hname hfree := by
    rw [← find?_eq_tableOf?] at hfree
    have hnonempty : t.name ≠ "" := by
      simpa [TableRef.caselessKey, asciiLower_eq_empty_iff] using hname
    exact load_of_free table hnonempty hfree
  run_congr d d' st st' hclauses hfind := by
    rw [← find?_eq_tableOf?, ← find?_eq_tableOf?] at hfind
    exact Select.run_congr hclauses hfind

theorem isName_view {t : TableRef} : view.isName (view.key t) = true ↔ t.name ≠ "" := by
  simp [view, TableRef.caselessKey, asciiLower_eq_empty_iff]

end Database

end GridQuery
