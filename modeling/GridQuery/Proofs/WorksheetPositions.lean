-- Worksheets by their place in the source. A query that names a place finds
-- the worksheet in the list of names that the source gives, and becomes the
-- query that names the worksheet; beyond the list it fails before anything is
-- run.
import GridQuery.Proofs.HeldSequences
import GridQuery.Script

namespace GridQuery

namespace SessionM

variable {σ : Type} {b : Backend σ} {r : Registry} {q : Query} {s t : Session σ}

/-! ## Preparing a query -/

/-- The arguments get a connection. -/
def Opens (b : Backend σ) (a : QueryArguments) (s : Session σ) : Prop :=
  ∃ l t, (lease b a).runOn s = (.ok l, t)

/-- The arguments get a connection, on which the worksheets have these names. -/
def Lists (b : Backend σ) (a : QueryArguments) (s : Session σ) (names : List String) : Prop :=
  ∃ l t, (lease b a).runOn s = (.ok l, t) ∧
    (b.answer l.connection .worksheetNames t.state).answer = .ok names

/-- A worksheet that is known needs no look at the source. -/
theorem findTable_known {a : QueryArguments} {name : String} (h : a.worksheetSource = .known name)
    (l : Lease) (s : Session σ) :
    ∃ t, (findTable b r a l).runOn s = (.ok (a.tableOn name), t) := by
  unfold findTable QueryArguments.findWorksheet
  rw [h]
  exact ⟨_, rfl⟩

/-- A place is looked up among the names that the source gives. -/
theorem findTable_position {a : QueryArguments} {k : Nat} {names : List String} {l : Lease}
    (h : a.worksheetSource = .position k)
    (hnames : (b.answer l.connection .worksheetNames s.state).answer = .ok names) :
    ∃ t, (findTable b r a l).runOn s =
      (((worksheetAt k names).mapError Error.schema).map a.tableOn, t) := by
  have hask : (attempt (ask b l.connection .worksheetNames)).runOn s =
      (.ok (.ok names), s.asked b l.connection .worksheetNames) := by
    rw [runOn_attempt, runOn_ask, hnames]
  have hfound : (a.findWorksheet (attempt (ask b l.connection .worksheetNames))).runOn s =
      (.ok (((worksheetAt k names).mapError Error.schema).map fun name =>
        (name, { a with resolved := some name })), s.asked b l.connection .worksheetNames) := by
    unfold QueryArguments.findWorksheet
    rw [h]
    simp only
    rw [runOn_bind _ hask]
    simp only
    rcases worksheetAt k names with e | name <;> rfl
  have hlift : (lift =<< a.findWorksheet (attempt (ask b l.connection .worksheetNames))).runOn s =
      (((worksheetAt k names).mapError Error.schema).map fun name =>
        (name, { a with resolved := some name }), s.asked b l.connection .worksheetNames) :=
    runOn_bind lift hfound
  unfold findTable
  rcases hat : worksheetAt k names with e | name <;> rw [hat] at hlift
  · exact ⟨_, runOn_bind_error _ hlift⟩
  · exact ⟨_, runOn_bind _ hlift⟩

/-- A query is prepared from its plan and its table. -/
theorem runOn_prepare {l : Lease} {table : Except Error TableRef}
    (hlease : (lease b q.arguments).runOn s = (.ok l, t))
    (htable : ∃ u, (findTable b r q.arguments l).runOn t = (table, u)) :
    ∃ u, (prepare b r q).runOn s =
      (((Plan.compile q.model r.mappings).mapError Error.unsupported).bind fun plan =>
        table.map fun table => { plan, statement := plan.render table, lease := l }, u) := by
  obtain ⟨u, hu⟩ := htable
  unfold prepare
  rcases Plan.compile q.model r.mappings with e | plan
  · exact ⟨s, rfl⟩
  · have hplan : (lift (σ := σ) ((Except.ok plan).mapError Error.unsupported)).runOn s =
        (.ok plan, s) := rfl
    rw [runOn_bind _ hplan, runOn_bind _ hlease]
    rcases table with e | table
    · obtain ⟨v, hv⟩ := runOn_release b l u
      exact ⟨v, runOn_bind_error _ (runOn_guarding_error hu hv)⟩
    · exact ⟨u, runOn_bind _ (runOn_guarding hu)⟩

theorem runOn_statement_fst :
    ((statement b r q).runOn s).1 = ((prepare b r q).runOn s).1.map (·.statement) := by
  unfold statement
  rcases h : (prepare b r q).runOn s with ⟨e | p, t⟩
  · rw [runOn_bind_error _ h]
    rfl
  · obtain ⟨u, hu⟩ := runOn_release b p.lease t
    rw [runOn_bind _ h, runOn_bind _ hu]
    rfl

/-- The statement of a query on a table that is found. -/
theorem runOn_statement_of_table {l : Lease} {table : TableRef}
    (hlease : (lease b q.arguments).runOn s = (.ok l, t))
    (htable : ∃ u, (findTable b r q.arguments l).runOn t = (.ok table, u)) :
    ((statement b r q).runOn s).1 =
      ((Plan.compile q.model r.mappings).mapError Error.unsupported).map (·.render table) := by
  obtain ⟨u, hu⟩ := runOn_prepare hlease htable
  rw [runOn_statement_fst, hu]
  rcases Plan.compile q.model r.mappings with e | plan <;> rfl

end SessionM

/-! ## Requests before a statement is run -/

def Request.isExecute : Request → Bool
  | .execute _ => true
  | _ => false

/-- No statement was run since. -/
def RanNothing (base calls : List Call) : Prop :=
  ∃ new, calls = base ++ new ∧ ∀ c ∈ new, c.request.isExecute = false

theorem RanNothing.refl (calls : List Call) : RanNothing calls calls :=
  ⟨[], (List.append_nil calls).symm, fun _ hc => absurd hc List.not_mem_nil⟩

theorem RanNothing.concat {base calls : List Call} (h : RanNothing base calls) {c : Call}
    (hc : c.request.isExecute = false) : RanNothing base (calls ++ [c]) := by
  obtain ⟨new, rfl, hnew⟩ := h
  refine ⟨new ++ [c], List.append_assoc .., ?_⟩
  intro d hd
  rcases List.mem_append.mp hd with hd | hd
  · exact hnew d hd
  · obtain rfl := List.mem_singleton.mp hd
    exact hc

namespace RanNothing

open SessionM

variable {σ : Type} {b : Backend σ} {base : List Call} {n : Nat} {l : Lease}

theorem keeps_ask {request : Request} (h : request.isExecute = false) :
    Keeps (fun s => RanNothing base s.calls) (ask b n request) :=
  .ask (fun _ hs _ => hs.concat h) fun _ hs _ => hs.concat h

theorem keeps_connect (a : QueryArguments) :
    Keeps (fun s => RanNothing base s.calls) (connect b a) := by
  unfold connect
  refine Triple.get fun s hs => .set ?_
  have hasks : Keeps (fun s => RanNothing base s.calls) (do
      ask b (s.connects + 1) (.connect a)
      ask b (s.connects + 1) .openUp
      return s.connects + 1) :=
    .bind (keeps_ask rfl) fun _ => .bind (keeps_ask rfl) fun _ => .pure _
  refine hasks.mono ?_ (fun _ _ h => h) fun _ h => h
  rintro t rfl
  exact hs

theorem keeps_lease (a : QueryArguments) :
    Keeps (fun s => RanNothing base s.calls) (lease b a) := by
  unfold lease
  split
  · refine Triple.get fun s hs => ?_
    have hnew : Keeps (fun s => RanNothing base s.calls) (do
        let connection ← connect b a
        modify fun s => { s with persistent := some connection }
        return Lease.mk connection false) :=
      .bind (keeps_connect a) fun _ => .bind (fun _ ht => ht) fun _ => .pure _
    split
    · exact .pure fun t ht => ht ▸ hs
    · exact hnew.mono (fun t ht => ht ▸ hs) (fun _ _ h => h) fun _ h => h
  · exact .bind (keeps_connect a) fun _ => .pure _

theorem keeps_release : Keeps (fun s => RanNothing base s.calls) (release b l) := by
  unfold release
  split
  · refine .bind (Keeps.attempt (keeps_ask rfl)) ?_
    rintro (e | _)
    · exact .report (fun _ _ h => h) _
    · exact .pure _
  · exact .pure _

/-- To prepare a query no statement is run, whether it succeeds or not. -/
theorem keeps_prepare (r : Registry) (q : Query) :
    Keeps (fun s => RanNothing base s.calls) (prepare b r q) := by
  unfold prepare
  refine .bind (.lift _) fun plan => .bind (keeps_lease q.arguments) fun l => ?_
  have hfind : Keeps (fun s => RanNothing base s.calls) (findTable b r q.arguments l) :=
    .findTable (keeps_ask rfl) fun _ _ h => h
  exact .bind (.guarding hfind keeps_release) fun table => .pure _

end RanNothing

/-! ## Places and names -/

namespace QueryArguments

theorem tableOn_of_unnamed {a : QueryArguments} (h : a.namedRange = none) (name : String) :
    a.tableOn name = { worksheet := name, startRange := a.startRange, endRange := a.endRange
                       header := !a.noHeader } := by
  unfold tableOn
  rw [h, ite_self]

variable {a : QueryArguments} (hcsv : a.isCsv = false) (hfresh : a.resolved = none)

include hcsv hfresh

theorem worksheetSource_onPosition (k : Nat) : (a.onPosition k).worksheetSource = .position k := by
  have hcsv' : (a.onPosition k).isCsv = false := hcsv
  have hfresh' : (a.onPosition k).resolved = none := hfresh
  simp only [worksheetSource, hfresh', hcsv', Bool.false_eq_true, if_false]
  rfl

theorem worksheetSource_onWorksheet (name : String) :
    (a.onWorksheet name).worksheetSource = .known name := by
  have hcsv' : (a.onWorksheet name).isCsv = false := hcsv
  have hfresh' : (a.onWorksheet name).resolved = none := hfresh
  simp only [worksheetSource, hfresh', hcsv', Bool.false_eq_true, if_false]
  rfl

end QueryArguments

/-- A query that names the place of a worksheet has the statement of the query that names the
worksheet, and of the one that remembers it, or fails to compile as they do. At a place beyond the
worksheets, whatever is asked of a query that compiles fails with the place and the number of
worksheets, and no statement is run. -/
theorem a_place_selects_the_worksheet_that_stands_there {σ : Type} (b : Backend σ) (w : World σ)
    (a : QueryArguments) (k : Nat) (names : List String) (hcsv : a.isCsv = false)
    (hfresh : a.resolved = none)
    (hnames : SessionM.Lists b (a.onPosition k) w.factory.session names) :
    let r := w.factory.registry
    (∀ name, names[k]? = some name → ∀ item model,
      let byPlace : Query := { arguments := a.onPosition k, item, model }
      let table : TableRef :=
        { worksheet := name, startRange := a.startRange, endRange := a.endRange
          header := !a.noHeader }
      ((SessionM.statement b r byPlace).runOn w.factory.session).1 =
          ((Plan.compile model r.mappings).mapError Error.unsupported).map (·.render table) ∧
        ∀ named, named = a.onWorksheet name ∨
            named = { a.onPosition k with resolved := some name } →
          ∀ s, SessionM.Opens b named s →
            ((SessionM.statement b r { byPlace with arguments := named }).runOn s).1 =
              ((SessionM.statement b r byPlace).runOn w.factory.session).1) ∧
      (names.length ≤ k → ∀ act q plan, act.query? = some q → q.arguments = a.onPosition k →
        Plan.compile q.model r.mappings = .ok plan →
        ∃ t, (w.work b act).runOn w.factory.session =
            (.error (.schema (.worksheetIndexOutOfRange k names.length)), t) ∧
          RanNothing w.factory.session.calls t.calls) := by
  intro r
  obtain ⟨l, t, hlease, hasked⟩ := hnames
  have hplace : (a.onPosition k).worksheetSource = .position k :=
    QueryArguments.worksheetSource_onPosition hcsv hfresh k
  have hfound := SessionM.findTable_position (r := r) hplace hasked
  refine ⟨?_, ?_⟩
  · intro name hname item model byPlace table
    have hat : worksheetAt k names = .ok name := by rw [worksheetAt, hname]
    have htable : (a.onPosition k).tableOn name = table :=
      QueryArguments.tableOn_of_unnamed rfl name
    rw [hat] at hfound
    have hplaced := SessionM.runOn_statement_of_table (q := byPlace) hlease hfound
    rw [htable] at hplaced
    refine ⟨hplaced, ?_⟩
    intro named hnamed s hopens
    obtain ⟨l', t', hlease'⟩ := hopens
    have hknown : named.worksheetSource = .known name ∧ named.tableOn name = table := by
      rcases hnamed with rfl | rfl
      · exact ⟨QueryArguments.worksheetSource_onWorksheet hcsv hfresh name,
          QueryArguments.tableOn_of_unnamed rfl name⟩
      · exact ⟨rfl, htable⟩
    have hfound' := SessionM.findTable_known (b := b) (r := r) hknown.1 l' t'
    rw [hknown.2] at hfound'
    have hstatement := SessionM.runOn_statement_of_table
      (q := { byPlace with arguments := named }) hlease' hfound'
    rw [hplaced, hstatement]
  · intro hbeyond act q plan hact harguments hplan
    have hnone : worksheetAt k names = .error (.worksheetIndexOutOfRange k names.length) := by
      rw [worksheetAt, List.getElem?_eq_none hbeyond]
    rw [hnone] at hfound
    rw [← harguments] at hlease hfound
    obtain ⟨u, hprepare⟩ := SessionM.runOn_prepare hlease hfound
    rw [hplan] at hprepare
    have hrequests := RanNothing.keeps_prepare (b := b) r q w.factory.session
      (RanNothing.refl w.factory.session.calls)
    rw [hprepare] at hrequests
    exact ⟨u, World.work_of_unprepared hact hprepare, hrequests⟩

/-- A source with two worksheets of one name. -/
def twinSheets : World ScriptedState :=
  .start "book" {} { script := { worksheets := ["Prices", "Prices"] } }

def rowsAt (target : Target) : Query :=
  { arguments :=
      { source := "book", worksheetName := target.worksheet?, worksheetIndex := target.position?
        namedRange := target.namedRange? } }

/-- The second worksheet is there, and is read by the name of the first; there is no third. -/
theorem a_second_worksheet_is_read_by_its_name :
    let statementOf (target : Target) : Except Error Statement :=
      ((SessionM.statement scripted {} (rowsAt target)).runOn twinSheets.factory.session).1
    (statementOf (.position 1)).toOption.map (·.text) = some "SELECT * FROM \"Prices\"" ∧
      statementOf (.worksheet "Prices") = statementOf (.position 1) ∧
      ∃ t, (twinSheets.work scripted (.iterate (rowsAt (.position 2)))).runOn
          twinSheets.factory.session = (.error (.schema (.worksheetIndexOutOfRange 2 2)), t) ∧
        RanNothing [] t.calls := by
  intro statementOf
  have hlists (k : Nat) : SessionM.Lists scripted (rowsAt (.position k)).arguments
      twinSheets.factory.session ["Prices", "Prices"] := ⟨_, _, rfl, rfl⟩
  have hsecond := (a_place_selects_the_worksheet_that_stands_there scripted twinSheets
    { source := "book" } 1 ["Prices", "Prices"] rfl rfl (hlists 1)).1 "Prices" rfl .row {}
  have hthird := (a_place_selects_the_worksheet_that_stands_there scripted twinSheets
    { source := "book" } 2 ["Prices", "Prices"] rfl rfl (hlists 2)).2 (by decide)
    (.iterate (rowsAt (.position 2))) _ _ rfl rfl rfl
  refine ⟨?_, ?_, hthird⟩
  · have hplaced : statementOf (.position 1) = _ := hsecond.1
    rw [hplaced]
    rfl
  · exact hsecond.2 _ (.inl rfl) _ ⟨_, _, rfl⟩

end GridQuery
