-- What a connection shows of the tables it is asked for, one after another,
-- whatever engine is behind it. The first reference of a name whose cells were
-- found decides what every later one of that name is shown.
import GridQuery.Engine.Connection
import GridQuery.Proofs.TableViews
import Mathlib.Data.List.Induction

namespace GridQuery

section

variable {δ κ : Type} [TableEngine δ] [DecidableEq κ]

/-! ## The keeper of a name -/

namespace OpenSource

variable (s : OpenSource) (view : TableView δ κ)

/-- The reference and its table, if it has a name and its cells are found. -/
def found? (t : TableRef) : Option (TableRef × Table) :=
  match s.table? t with
  | .ok (some table) => if view.isName (view.key t) then some (t, table) else none
  | _ => none

/-- The first of some references that is found and has the name of a reference. -/
def keeper? (asked : List TableRef) (t : TableRef) : Option (TableRef × Table) :=
  (asked.filterMap (s.found? view)).find? fun p => view.key p.1 = view.key t

/-- The keeper, if its rows were loaded and the reference has its very name. -/
def loaded? (asked : List TableRef) (t : TableRef) : Option (TableRef × Table) :=
  (s.keeper? view asked t).filter fun p =>
    p.1.qualifiedName = t.qualifiedName && view.accepts p.2

variable {s view} {asked : List TableRef} {t u : TableRef} {table : Table}

theorem found?_eq_some_iff :
    s.found? view t = some (u, table) ↔
      u = t ∧ s.table? t = .ok (some table) ∧ view.isName (view.key t) = true := by
  unfold found?
  rcases s.table? t with e | _ | found
  · simp
  · simp
  · by_cases hname : view.isName (view.key t) = true
    · simp [hname, eq_comm, and_comm]
    · simp [hname]

theorem keeper?_some {p : TableRef × Table} (h : s.keeper? view asked t = some p) :
    p.1 ∈ asked ∧ s.found? view p.1 = some p ∧ view.key p.1 = view.key t := by
  obtain ⟨v, hv, hfound⟩ := List.mem_filterMap.mp (List.mem_of_find?_eq_some h)
  obtain ⟨u, table⟩ := p
  obtain ⟨rfl, -, -⟩ := found?_eq_some_iff.mp hfound
  exact ⟨hv, hfound, by simpa using List.find?_some h⟩

theorem keeper?_congr (h : view.key t = view.key u) :
    s.keeper? view asked t = s.keeper? view asked u := by
  unfold keeper?
  rw [h]

theorem keeper?_concat (asked : List TableRef) (v t : TableRef) :
    s.keeper? view (asked ++ [v]) t =
      (s.keeper? view asked t).or (if view.key v = view.key t then s.found? view v else none) := by
  unfold keeper?
  rw [List.filterMap_append, List.find?_append]
  congr 1
  rcases hfound : s.found? view v with _ | ⟨u, table⟩
  · simp [hfound]
  · obtain ⟨rfl, -, -⟩ := found?_eq_some_iff.mp hfound
    simp only [List.filterMap_cons, hfound, List.filterMap_nil, List.find?_singleton]
    by_cases hkey : view.key u = view.key t <;> simp [hkey]

/-- On a connection that was asked for nothing else, a reference is its own keeper. -/
theorem keeper?_self (h : s.found? view t = some (t, table)) :
    s.keeper? view ([] ++ [t]) t = some (t, table) := by
  rw [keeper?_concat, if_pos rfl, h]
  rfl

/-- A reference whose cells are not found, or whose name has a keeper, is no keeper. -/
theorem keeper?_concat_same {v : TableRef}
    (h : s.found? view v = none ∨ (s.keeper? view asked v).isSome = true) (t : TableRef) :
    s.keeper? view (asked ++ [v]) t = s.keeper? view asked t := by
  rw [keeper?_concat]
  rcases h with hnone | hsome
  · simp [hnone]
  · by_cases hkey : view.key v = view.key t
    · obtain ⟨p, hp⟩ := Option.isSome_iff_exists.mp hsome
      rw [← keeper?_congr hkey, hp]
      rfl
    · simp [hkey]

/-- The first reference of its name that is found is loaded under its very name. -/
theorem loaded?_concat_first {v : TableRef} (hfound : s.found? view v = some (v, table))
    (hfirst : s.keeper? view asked v = none) (t : TableRef) :
    s.loaded? view (asked ++ [v]) t =
      if t.qualifiedName = v.qualifiedName ∧ view.accepts table = true then some (v, table)
      else s.loaded? view asked t := by
  unfold loaded?
  rw [keeper?_concat, hfound]
  by_cases hkey : view.key v = view.key t
  · rw [← keeper?_congr hkey, hfirst, if_pos hkey, Option.none_or]
    rcases hstorable : view.accepts table with _ | _
    · simp [Option.filter, hstorable]
    · simp [Option.filter, hstorable, eq_comm]
  · have hname : t.qualifiedName ≠ v.qualifiedName := fun h =>
      hkey (view.key_eq h).symm
    simp [hkey, hname]

end OpenSource

/-! ## Asking for tables -/

namespace OpenState

/-- What is kept of the tables that were asked for. -/
structure Keeps (view : TableView δ κ) (s : OpenSource) (asked : List TableRef)
    (o : OpenState δ) : Prop where
  source : o.source = s
  stored : ∀ t, view.find? o.database (view.key t) = (s.keeper? view asked t).map (view.kept ·.2)
  loaded : ∀ t, o.loaded.lookup t.qualifiedName = (s.loaded? view asked t).map (·.2.columnNames)

variable {view : TableView δ κ} {s : OpenSource} {asked : List TableRef} {o : OpenState δ}

theorem Keeps.start (s : OpenSource) : Keeps view s [] (.start s) :=
  ⟨rfl, fun t => view.find?_start (view.key t), fun _ => rfl⟩

/-- A reference that is no keeper changes nothing. -/
theorem Keeps.concat_same (h : Keeps view s asked o) {v : TableRef}
    (hv : s.found? view v = none ∨ (s.keeper? view asked v).isSome = true) :
    Keeps view s (asked ++ [v]) o := by
  refine ⟨h.source, ?_, ?_⟩
  · intro t
    rw [OpenSource.keeper?_concat_same hv, h.stored]
  · intro t
    unfold OpenSource.loaded?
    rw [OpenSource.keeper?_concat_same hv]
    exact h.loaded t

/-- What is said of a reference: the columns of what was loaded under its name, or that its
worksheet does not exist. -/
def saidOf (view : TableView δ κ) (s : OpenSource) (asked : List TableRef) (v : TableRef) :
    Option (Option (List String)) :=
  match s.loaded? view asked v, s.table? v with
  | some p, _ => some (some p.2.columnNames)
  | none, .ok none => some none
  | none, _ => none

/-- What is said where the keeper has the very name of the reference, whose cells are found. -/
theorem saidOf_of_keeper {v u : TableRef} {table : Table}
    (hkeeper : s.keeper? view asked v = some (u, table)) (hname : u.qualifiedName = v.qualifiedName)
    (hfound : view.accepts table = true ∨ ∃ found, s.table? v = .ok (some found)) :
    saidOf view s asked v = if view.accepts table then some (some table.columnNames) else none := by
  unfold saidOf OpenSource.loaded?
  rw [hkeeper]
  rcases hstorable : view.accepts table with _ | _
  · obtain ⟨found, htable⟩ := hfound.resolve_left (by simp [hstorable])
    simp [Option.filter, hstorable, htable]
  · simp [Option.filter, hstorable, hname]

/-- A reference that is no keeper, where nothing was loaded under its very name. -/
theorem saidOf_concat_same {v : TableRef} (hnone : s.loaded? view asked v = none)
    (hv : s.found? view v = none ∨ (s.keeper? view asked v).isSome = true) :
    saidOf view s (asked ++ [v]) v = if s.table? v matches .ok none then some none else none := by
  have hsame : s.loaded? view (asked ++ [v]) v = none := by
    unfold OpenSource.loaded?
    rw [OpenSource.keeper?_concat_same hv]
    exact hnone
  unfold saidOf
  rw [hsame]
  rcases s.table? v with e | _ | table <;> rfl

theorem Keeps.load (h : Keeps view s asked o) {v : TableRef} {table : Table}
    (htable : s.table? v = .ok (some table)) (hname : view.isName (view.key v) = true)
    (hfirst : s.keeper? view asked v = none) :
    Keeps view s (asked ++ [v]) (o.ensureLoaded v).state ∧
      (o.ensureLoaded v).answer.toOption = saidOf view s (asked ++ [v]) v := by
  have hfound : s.found? view v = some (v, table) := by simp [OpenSource.found?, htable, hname]
  have hkeeper : ∀ t, s.keeper? view (asked ++ [v]) t =
      (s.keeper? view asked t).or (if view.key v = view.key t then some (v, table) else none) := by
    intro t
    rw [OpenSource.keeper?_concat, hfound]
  have hself : s.keeper? view (asked ++ [v]) v = some (v, table) := by simp [hkeeper, hfirst]
  have hlookup : o.loaded.lookup v.qualifiedName = none := by
    rw [h.loaded, OpenSource.loaded?, hfirst]
    rfl
  have hfree : view.find? o.database (view.key v) = none := by
    rw [h.stored, hfirst, Option.map_none]
  obtain ⟨hanswer, hfind⟩ := view.load_of_free o.database v table hname hfree
  have hstored : ∀ t, view.find? (TableEngine.load o.database v table).2 (view.key t) =
      (s.keeper? view (asked ++ [v]) t).map (view.kept ·.2) := by
    intro t
    rw [hfind, h.stored, hkeeper]
    by_cases hkey : view.key v = view.key t <;>
      rcases s.keeper? view asked t with _ | p <;> simp [hkey]
  have hsource : o.source.table? v = .ok (some table) := by rw [h.source, htable]
  have hloaded := OpenSource.loaded?_concat_first hfound hfirst
  rcases hload : TableEngine.load o.database v table with ⟨e | _, database⟩ <;>
    rcases hstorable : view.accepts table with _ | _ <;> rw [hload, hstorable] at hanswer
  · rw [hload] at hstored
    simp only [ensureLoaded, hlookup, hsource, hload]
    refine ⟨⟨h.source, hstored, ?_⟩, ?_⟩
    · intro t
      rw [h.loaded, hloaded, if_neg (by simp [hstorable])]
    · rw [saidOf, hloaded, if_neg (by simp [hstorable]), OpenSource.loaded?, hfirst, htable]
      rfl
  · cases hanswer
  · cases hanswer
  · rw [hload] at hstored
    simp only [ensureLoaded, hlookup, hsource, hload]
    refine ⟨⟨h.source, hstored, ?_⟩, ?_⟩
    · intro t
      rw [NameMap.lookup_pair, h.loaded, hloaded]
      by_cases hname : t.qualifiedName = v.qualifiedName
      · rw [if_pos hname, if_pos ⟨hname, hstorable⟩]
        rfl
      · rw [if_neg hname, if_neg fun hboth => hname hboth.1]
    · rw [saidOf, hloaded, if_pos ⟨rfl, hstorable⟩]
      rfl

/-- A table is not loaded under what is no name, or a name that has a keeper. -/
theorem Keeps.load_refused (h : Keeps view s asked o) {v : TableRef} {table : Table}
    (htable : s.table? v = .ok (some table)) (hnone : s.loaded? view asked v = none)
    (htaken : view.isName (view.key v) = false ∨ (s.keeper? view asked v).isSome = true) :
    Keeps view s (asked ++ [v]) (o.ensureLoaded v).state ∧
      (o.ensureLoaded v).answer.toOption = saidOf view s (asked ++ [v]) v := by
  have hv : s.found? view v = none ∨ (s.keeper? view asked v).isSome = true := by
    refine htaken.imp_left fun hname => ?_
    simp [OpenSource.found?, htable, hname]
  have hlookup : o.loaded.lookup v.qualifiedName = none := by rw [h.loaded, hnone, Option.map_none]
  have hsource : o.source.table? v = .ok (some table) := by rw [h.source, htable]
  obtain ⟨hanswer, hfind⟩ := view.load_of_taken o.database v table
    (htaken.imp_right fun hsome => by rwa [h.stored, Option.isSome_map])
  have hkeeps := h.concat_same hv
  rcases hload : TableEngine.load o.database v table with ⟨e | _, database⟩ <;>
    rw [hload] at hanswer
  · simp only [ensureLoaded, hlookup, hsource, hload]
    rw [saidOf_concat_same hnone hv, htable]
    refine ⟨⟨hkeeps.source, fun t => ?_, hkeeps.loaded⟩, rfl⟩
    rw [hload] at hfind
    rw [hfind, hkeeps.stored]
  · cases hanswer

theorem Keeps.ensureLoaded (h : Keeps view s asked o) (v : TableRef) :
    Keeps view s (asked ++ [v]) (o.ensureLoaded v).state ∧
      (o.ensureLoaded v).answer.toOption = saidOf view s (asked ++ [v]) v := by
  have hloaded := h.loaded v
  rcases hlookup : o.loaded.lookup v.qualifiedName with _ | columns
  · have hnone : s.loaded? view asked v = none := by
      rw [hlookup] at hloaded
      exact Option.map_eq_none_iff.mp hloaded.symm
    have hsource : o.source.table? v = s.table? v := by rw [h.source]
    rcases htable : s.table? v with e | _ | table
    · have hv : s.found? view v = none := by simp [OpenSource.found?, htable]
      simp only [OpenState.ensureLoaded, hlookup, hsource, htable]
      rw [saidOf_concat_same hnone (.inl hv), htable]
      exact ⟨h.concat_same (.inl hv), rfl⟩
    · have hv : s.found? view v = none := by simp [OpenSource.found?, htable]
      simp only [OpenState.ensureLoaded, hlookup, hsource, htable]
      rw [saidOf_concat_same hnone (.inl hv), htable]
      exact ⟨h.concat_same (.inl hv), rfl⟩
    · by_cases hfree : view.isName (view.key v) = true ∧ s.keeper? view asked v = none
      · exact h.load htable hfree.1 hfree.2
      · have htaken : view.isName (view.key v) = false ∨
            (s.keeper? view asked v).isSome = true := by
          rw [Option.isSome_iff_ne_none, ← Bool.not_eq_true]
          exact Decidable.or_iff_not_imp_left.mpr fun hname hnone' =>
            hfree ⟨Decidable.not_not.mp hname, hnone'⟩
        exact h.load_refused htable hnone htaken
  · rw [hlookup] at hloaded
    obtain ⟨p, hp, hcolumns⟩ := Option.map_eq_some_iff.mp hloaded.symm
    have hkeeper : (s.keeper? view asked v).isSome = true := by
      rw [(Option.filter_eq_some_iff.mp hp).1]
      rfl
    have hsaid : s.loaded? view (asked ++ [v]) v = some p := by
      unfold OpenSource.loaded?
      rw [OpenSource.keeper?_concat_same (.inr hkeeper)]
      exact hp
    simp only [OpenState.ensureLoaded, hlookup]
    refine ⟨h.concat_same (.inr hkeeper), ?_⟩
    simp only [saidOf, hsaid, hcolumns]
    rfl

end OpenState

/-! ## What is shown -/

theorem toOption_mapError {ε ε' α : Type} (x : Except ε α) (f : ε → ε') :
    (x.mapError f).toOption = x.toOption := by
  cases x <;> rfl

inductive TableRequest
  | columnNames (table : TableRef)
  | execute (statement : Statement)

namespace TableRequest

def table : TableRequest → TableRef
  | columnNames t => t
  | execute s => s.table

def request : TableRequest → Request
  | columnNames t => .columnNames t
  | execute s => .execute s

end TableRequest

namespace Connection

/-- A connection that was just opened. -/
def ready (sourceName : String) (codePage : Nat) (s : OpenSource) : Connection δ :=
  { sourceName, codePage, opened := some (.start s) }

def after (source : Source) (c : Connection δ) (requests : List TableRequest) : Connection δ :=
  requests.foldl (fun c r => (c.answer source r.request).state) c

/-- What a connection shows of a table is what another connection shows of another table: the
names of the columns, and the result of every statement. -/
structure ShowsAs (source : Source) (c : Connection δ) (t : TableRef) (c' : Connection δ)
    (u : TableRef) : Prop where
  columns : (c.answer source (.columnNames t)).answer.toOption =
    (c'.answer source (.columnNames u)).answer.toOption
  results : ∀ st : Statement, (c.answer source (.execute { st with table := t })).answer.toOption =
    (c'.answer source (.execute { st with table := u })).answer.toOption

theorem ShowsAs.trans {source : Source} {c c' d : Connection δ} {t u v : TableRef}
    (h : c.ShowsAs source t c' u) (h' : c'.ShowsAs source u d v) : c.ShowsAs source t d v where
  columns := h.columns.trans h'.columns
  results st := (h.results st).trans (h'.results st)

variable {view : TableView δ κ} {source : Source} {sourceName : String} {codePage : Nat}
  {s : OpenSource} {asked asked' : List TableRef} {o o' : OpenState δ} {t u : TableRef}

theorem showsAs_of (h : o.Keeps view s asked) (h' : o'.Keeps view s asked')
    (hsaid : OpenState.saidOf view s (asked ++ [t]) t = OpenState.saidOf view s (asked' ++ [u]) u)
    (hkeeper : (OpenState.saidOf view s (asked ++ [t]) t).isSome = true →
      (s.keeper? view (asked ++ [t]) t).map (·.2) = (s.keeper? view (asked' ++ [u]) u).map (·.2)) :
    ShowsAs source { sourceName, codePage, opened := some o } t
      { sourceName, codePage, opened := some o' } u := by
  obtain ⟨hkeeps, hanswer⟩ := h.ensureLoaded t
  obtain ⟨hkeeps', hanswer'⟩ := h'.ensureLoaded u
  rw [← hanswer] at hsaid hkeeper
  rw [← hanswer'] at hsaid
  have hfind : (o.ensureLoaded t).answer.toOption.isSome = true →
      view.find? (o.ensureLoaded t).state.database (view.key t) =
        view.find? (o'.ensureLoaded u).state.database (view.key u) := by
    intro hsome
    have htables := congrArg (Option.map view.kept) (hkeeper hsome)
    rw [Option.map_map, Option.map_map] at htables
    rw [hkeeps.stored, hkeeps'.stored]
    exact htables
  refine ⟨?_, ?_⟩
  · simp only [Connection.answer, whenOpen, OpenState.columnNames]
    rcases hfirst : (o.ensureLoaded t).answer with e | said <;>
      rcases hsecond : (o'.ensureLoaded u).answer with e' | said' <;>
      rw [hfirst, hsecond] at hsaid
    · rfl
    · cases hsaid
    · cases hsaid
    · obtain rfl : said = said' := Option.some.inj hsaid
      rcases said with _ | columns <;> rfl
  · intro st
    simp only [Connection.answer, whenOpen, OpenState.execute]
    rcases hfirst : (o.ensureLoaded t).answer with e | said <;>
      rcases hsecond : (o'.ensureLoaded u).answer with e' | said' <;>
      rw [hfirst, hsecond] at hsaid
    · rfl
    · cases hsaid
    · cases hsaid
    · rw [hfirst] at hfind
      have hrun := view.run_congr _ _ { st with table := t } { st with table := u } rfl (hfind rfl)
      exact (toOption_mapError _ _).trans (hrun.trans (toOption_mapError _ _).symm)

theorem after_keeps (view : TableView δ κ) (source : Source) (sourceName : String) (codePage : Nat)
    (s : OpenSource) (requests : List TableRequest) :
    ∃ o, (ready sourceName codePage s).after source requests =
        { sourceName, codePage, opened := some o } ∧
      o.Keeps view s (requests.map TableRequest.table) := by
  induction requests using List.reverseRecOn with
  | nil => exact ⟨_, rfl, .start s⟩
  | append_singleton requests r ih =>
    obtain ⟨o, ho, hkeeps⟩ := ih
    refine ⟨(o.ensureLoaded r.table).state, ?_, ?_⟩
    · unfold after at ho ⊢
      rw [List.foldl_append, ho]
      cases r <;> rfl
    · rw [List.map_append]
      exact (hkeeps.ensureLoaded r.table).1

variable {requests : List TableRequest}

theorem showsAs_of_unkept (h : s.keeper? view (requests.map TableRequest.table) t = none) :
    ((ready sourceName codePage s : Connection δ).after source requests).ShowsAs source t
      (ready sourceName codePage s) t := by
  obtain ⟨o, ho, hkeeps⟩ := after_keeps view source sourceName codePage s requests
  have hkeeper :
      s.keeper? view (requests.map TableRequest.table ++ [t]) t = s.keeper? view ([] ++ [t]) t := by
    rw [OpenSource.keeper?_concat, OpenSource.keeper?_concat, h]
    rfl
  rw [ho]
  refine showsAs_of hkeeps (.start s) ?_ ?_
  · unfold OpenState.saidOf OpenSource.loaded?
    rw [hkeeper]
  · intro _
    rw [hkeeper]

/-- A table whose name has a keeper of the very name is shown as the keeper. -/
theorem showsAs_of_keeper {table : Table}
    (hkeeper : s.keeper? view (requests.map TableRequest.table) t = some (u, table))
    (hname : u.qualifiedName = t.qualifiedName)
    (hfound : view.accepts table = true ∨ ∃ found, s.table? t = .ok (some found)) :
    ((ready sourceName codePage s : Connection δ).after source requests).ShowsAs source t
      (ready sourceName codePage s) u := by
  obtain ⟨o, ho, hkeeps⟩ := after_keeps view source sourceName codePage s requests
  have hown : s.found? view u = some (u, table) := (OpenSource.keeper?_some hkeeper).2.1
  have hused : s.keeper? view (requests.map TableRequest.table ++ [t]) t = some (u, table) := by
    rw [OpenSource.keeper?_concat_same (.inr (by rw [hkeeper]; rfl)), hkeeper]
  have hfresh : s.keeper? view ([] ++ [u]) u = some (u, table) := OpenSource.keeper?_self hown
  rw [ho]
  refine showsAs_of hkeeps (.start s) ?_ ?_
  · rw [OpenState.saidOf_of_keeper hused hname hfound, OpenState.saidOf_of_keeper hfresh rfl
      (.inr ⟨table, (OpenSource.found?_eq_some_iff.mp hown).2.1⟩)]
  · intro _
    rw [hused, hfresh]

/-- Two references of one name and one table are shown alike on a new connection. -/
theorem ready_showsAs {table : Table} (hu : s.found? view u = some (u, table))
    (ht : s.found? view t = some (t, table)) :
    (ready sourceName codePage s : Connection δ).ShowsAs source u
      (ready sourceName codePage s) t := by
  have hstart : OpenState.Keeps view s [] (.start s : OpenState δ) := .start s
  refine showsAs_of hstart hstart ?_ ?_
  · rw [OpenState.saidOf_of_keeper (OpenSource.keeper?_self hu) rfl
        (.inr ⟨table, (OpenSource.found?_eq_some_iff.mp hu).2.1⟩),
      OpenState.saidOf_of_keeper (OpenSource.keeper?_self ht) rfl
        (.inr ⟨table, (OpenSource.found?_eq_some_iff.mp ht).2.1⟩)]
  · intro _
    rw [OpenSource.keeper?_self hu, OpenSource.keeper?_self ht]
    rfl

/-- A table is shown as it is if all references of its name are of its kind. -/
theorem showsAs_of_kind (hkind : t.kind?.isSome = true)
    (h : ∀ u ∈ requests.map TableRequest.table, view.key u = view.key t →
      u.qualifiedName = t.qualifiedName ∧ u.kind? = t.kind?) :
    ((ready sourceName codePage s : Connection δ).after source requests).ShowsAs source t
      (ready sourceName codePage s) t := by
  rcases hkeeper : s.keeper? view (requests.map TableRequest.table) t with _ | ⟨u, table⟩
  · exact showsAs_of_unkept hkeeper
  · obtain ⟨hasked, hfound, hkey⟩ := OpenSource.keeper?_some hkeeper
    obtain ⟨hname, hsame⟩ := h u hasked hkey
    obtain ⟨-, htable, hnonempty⟩ := OpenSource.found?_eq_some_iff.mp hfound
    have htable' : s.table? t = .ok (some table) := by
      rw [s.table?_eq hsame.symm hkind hname.symm, htable]
    have hfound' : s.found? view t = some (t, table) := by
      refine OpenSource.found?_eq_some_iff.mpr ⟨rfl, htable', ?_⟩
      rw [← view.key_eq hname]
      exact hnonempty
    exact (showsAs_of_keeper hkeeper hname (.inr ⟨table, htable'⟩)).trans
      (ready_showsAs hfound hfound')

end Connection

end

/-- On a connection that was used before, with any engine that leads a name to one table, a table
is shown as it is if its name has no keeper, and as the keeper if that has its very name.
References of one qualified name stand for one table if they are of one kind, so a table is shown
as it is if all references of its name are of its kind. -/
theorem a_table_is_shown_as_the_first_of_its_name {δ κ : Type} [TableEngine δ] [DecidableEq κ]
    (view : TableView δ κ) (source : Source) (sourceName : String) (codePage : Nat)
    (s : OpenSource) (requests : List TableRequest) (t : TableRef) :
    let fresh : Connection δ := .ready sourceName codePage s
    (s.keeper? view (requests.map TableRequest.table) t = none →
      (fresh.after source requests).ShowsAs source t fresh t) ∧
    (∀ u table, s.keeper? view (requests.map TableRequest.table) t = some (u, table) →
      u.qualifiedName = t.qualifiedName →
      (view.accepts table = true ∨ ∃ found, s.table? t = .ok (some found)) →
      (fresh.after source requests).ShowsAs source t fresh u) ∧
    (t.kind?.isSome = true → ∀ u, u.qualifiedName = t.qualifiedName → u.kind? = t.kind? →
      u.header = t.header ∧ s.table? u = s.table? t) ∧
    (t.kind?.isSome = true →
      (∀ u ∈ requests.map TableRequest.table, view.key u = view.key t →
        u.qualifiedName = t.qualifiedName ∧ u.kind? = t.kind?) →
      (fresh.after source requests).ShowsAs source t fresh t) := by
  intro fresh
  refine ⟨Connection.showsAs_of_unkept, fun u table => Connection.showsAs_of_keeper, ?_,
    Connection.showsAs_of_kind⟩
  intro hsome u hname hkind
  exact ⟨(TableRef.qualifiedName_eq_iff.mp hname).1,
    (s.table?_eq hkind.symm hsome hname.symm).symm⟩

/-- A workbook with a worksheet, and a range of its first column that is named like it. -/
def priceBook : OpenSource :=
  .workbook
    { sheets := [{ name := "Prices", rows := [[.int 1, .int 2], [.int 3, .int 4]] }]
      definedNames := [("Prices", "Prices!$A$1:$A$2")] }

/-- The worksheet without a header row. -/
def priceSheet : TableRef := { worksheet := "Prices", header := false }

/-- The named range without a header row. -/
def priceRange : TableRef := { worksheet := "", namedRange := some "Prices", header := false }

/-- A new connection to that workbook, with the bundled engine. -/
def priceConnection : Connection Database := .ready "book" 0 priceBook

/-- Behind requests for the worksheet in both header modes, the worksheet is shown as it is. -/
theorem a_worksheet_is_shown_as_it_is_in_both_header_modes :
    (priceConnection.after (.file none)
        [.columnNames { priceSheet with header := true }, .columnNames priceSheet]).ShowsAs
      (.file none) priceSheet priceConnection priceSheet := by
  refine (a_table_is_shown_as_the_first_of_its_name Database.view (.file none) "book" 0 priceBook
    [.columnNames { priceSheet with header := true }, .columnNames priceSheet]
    priceSheet).2.2.2 rfl ?_
  intro u hu hkey
  simp only [List.map_cons, List.map_nil, TableRequest.table, List.mem_cons, List.not_mem_nil,
    or_false] at hu
  rcases hu with rfl | rfl
  · cases (Prod.mk.inj hkey).1
  · exact ⟨rfl, rfl⟩

def allRows (t : TableRef) : Statement :=
  { clauses := { selection := .all }, table := t, columns := [], scalar := false }

/-- The worksheet and the range have one qualified name, and the range has one column. Asked for
after the worksheet, the range is shown with both columns of the worksheet. -/
theorem a_named_range_is_shown_as_the_worksheet_of_its_name :
    priceRange.qualifiedName = priceSheet.qualifiedName ∧
      priceBook.table? priceRange ≠ priceBook.table? priceSheet ∧
      (priceConnection.answer (.file none) (.execute (allRows priceRange))).answer.toOption.map
        (·.rows) = some [[.int 1], [.int 3]] ∧
      ((priceConnection.after (.file none) [.columnNames priceSheet]).answer
        (.file none) (.execute (allRows priceRange))).answer.toOption.map (·.rows) =
        some [[.int 1, .int 2], [.int 3, .int 4]] := by
  refine ⟨rfl, ?_, rfl, rfl⟩
  intro h
  have hrows := congrArg (fun t => t.toOption.map (Option.map Table.rows)) h
  cases hrows

end GridQuery
