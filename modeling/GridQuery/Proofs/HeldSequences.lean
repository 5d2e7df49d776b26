-- Sequences in the hands of a caller hold the leases of their queries. A
-- sequence keeps its lease as long as it gives results, so what a way of
-- lending connections keeps true, every action of a caller keeps true, but for
-- closing the kept connection.
import GridQuery.Proofs.CheckedArguments
import GridQuery.Proofs.Custody
import GridQuery.Proofs.FactoryRuns
import Mathlib.Data.List.Perm.Basic

namespace GridQuery

/-! ## The leases of sequences -/

theorem Rows.lease?_next_subset (m : ColumnMappings) (rows : Rows) :
    (rows.next m).2.lease?.toList ⊆ rows.lease?.toList := by
  rw [rows.lease?_next m]
  rcases (rows.next m).1 with _ | e | item
  · exact List.nil_subset _
  · exact List.nil_subset _
  · exact List.Subset.refl _

/-! ## Sequences that are held -/

def leasesOf (held : List Rows) : List Lease := held.filterMap Rows.lease?

theorem leasesOf_cons (rows : Rows) (held : List Rows) :
    leasesOf (rows :: held) = rows.lease?.toList ++ leasesOf held := by
  unfold leasesOf
  rw [List.filterMap_cons]
  cases rows.lease? <;> rfl

section

variable {held : List Rows} {place : Nat} {rows : Rows}

theorem leasesOf_perm (h : held[place]? = some rows) :
    (leasesOf held).Perm (rows.lease?.toList ++ leasesOf (held.eraseIdx place)) := by
  obtain ⟨hlt, rfl⟩ := List.getElem?_eq_some_iff.mp h
  rw [← leasesOf_cons]
  exact ((List.getElem_cons_eraseIdx_perm hlt).symm).filterMap _

theorem leasesOf_set_perm (h : held[place]? = some rows) (after : Rows) :
    (leasesOf (held.set place after)).Perm
      (after.lease?.toList ++ leasesOf (held.eraseIdx place)) := by
  obtain ⟨hlt, -⟩ := List.getElem?_eq_some_iff.mp h
  rw [← leasesOf_cons]
  exact (List.set_perm_cons_eraseIdx hlt after).filterMap _

end

/-! ## What a caller does -/

/-- The query whose statement an action runs. -/
def Action.ran? : Action → Option Query
  | .statement _ => none
  | a => a.query?

theorem Factory.session_configured {σ : Type} (f : Factory σ) (a : Action) :
    (f.configured a).session = f.session := by
  cases a with
  | create arguments item =>
    simp only [Factory.configured, Factory.create]
    split
    · rfl
    · cases item with
      | record r =>
        simp only [Factory.register]
        split <;> rfl
      | _ => rfl
  | _ => rfl

namespace World

open SessionM

variable {σ : Type} {b : Backend σ} {w : World σ} {a : Action} {t : Session σ}

theorem step_of_ok {held : List Rows} (h : (w.work b a).runOn w.factory.session = (.ok held, t)) :
    (w.step b a).held = held ∧ (w.step b a).factory.session = t := by
  rw [← w.factory.session_configured a] at h
  unfold step Factory.run
  unfold runOn at h
  rw [h]
  exact ⟨rfl, rfl⟩

theorem step_of_error {e : Error} (h : (w.work b a).runOn w.factory.session = (.error e, t)) :
    (w.step b a).held = w.held ∧ (w.step b a).factory.session = t := by
  rw [← w.factory.session_configured a] at h
  unfold step Factory.run
  unfold runOn at h
  rw [h]
  exact ⟨rfl, rfl⟩

/-- What an action keeps true of the session and the sequences held. -/
theorem step_of_triple {P : Session σ → Prop} {I : List Rows → Session σ → Prop}
    (hwork : Triple P (w.work b a) I (I w.held)) (h : P w.factory.session) :
    I (w.step b a).held (w.step b a).factory.session := by
  have hend := hwork w.factory.session h
  rcases hrun : (w.work b a).runOn w.factory.session with ⟨e | held, t⟩ <;> rw [hrun] at hend
  · obtain ⟨hheld, hsession⟩ := step_of_error hrun
    rw [hheld, hsession]
    exact hend
  · obtain ⟨hheld, hsession⟩ := step_of_ok hrun
    rw [hheld, hsession]
    exact hend

/-- An action fails as the query whose statement it runs fails to be executed. -/
theorem work_of_unexecuted {q : Query} {e : Error} (hq : a.ran? = some q)
    (h : (execute b w.factory.registry q).runOn w.factory.session = (.error e, t)) :
    (w.work b a).runOn w.factory.session = (.error e, t) := by
  have hresults (isLazy : Bool) :
      (resultsOf b w.factory.registry q isLazy).runOn w.factory.session = (.error e, t) :=
    runOn_bind_error _ h
  have hmapped {α β : Type} {x : SessionM σ α} (f : α → β)
      (hx : x.runOn w.factory.session = (.error e, t)) :
      (f <$> x).runOn w.factory.session = (.error e, t) := by
    rw [runOn_map, hx]
    rfl
  cases a with
  | iterate q => cases hq; exact runOn_bind_error _ (hresults _)
  | toList q => cases hq; exact runOn_bind_error _ (runOn_bind_error _ (hresults _))
  | aggregate q f => cases hq; exact runOn_bind_error _ (runOn_bind_error _ h)
  | count q => cases hq; exact runOn_bind_error _ (hmapped _ (runOn_bind_error _ h))
  | longCount q => cases hq; exact runOn_bind_error _ (hmapped _ (runOn_bind_error _ h))
  | element q op => cases hq; exact runOn_bind_error _ (runOn_bind_error _ (hresults _))
  | requiredElement q op =>
    cases hq
    exact runOn_bind_error _ (runOn_bind_error _ (runOn_bind_error _ (hresults _)))
  | _ => cases hq

/-- An action fails as the query that it runs fails to be prepared. -/
theorem work_of_unprepared {q : Query} {e : Error} (hq : a.query? = some q)
    (h : (prepare b w.factory.registry q).runOn w.factory.session = (.error e, t)) :
    (w.work b a).runOn w.factory.session = (.error e, t) := by
  cases a with
  | statement q => cases hq; exact runOn_bind_error _ (runOn_bind_error _ h)
  | _ => exact work_of_unexecuted hq (runOn_bind_error _ h)

end World

namespace Custody

open SessionM

variable {σ : Type} {b : Backend σ} {reuse : Bool} (D : Custody b reuse) {held : List Lease}
  {a : QueryArguments}

theorem pullNext {m : ColumnMappings} {rows : Rows} {E : Session σ → Prop} :
    Triple (D.Idle (rows.lease?.toList ++ held)) (pullNext b m rows)
      (fun out => D.Idle (out.2.lease?.toList ++ held)) E := by
  have hlease := rows.lease?_next m
  unfold SessionM.pullNext
  rcases hnext : rows.next m with ⟨pull, after⟩
  rw [hnext] at hlease
  simp only at hlease ⊢
  have hended (hnone : after.lease? = none) :
      Triple (D.Idle (rows.lease?.toList ++ held)) (do
        if after.lease?.isNone then SessionM.releaseHeld b rows.lease?
        return (pull, after)) (fun out => D.Idle (out.2.lease?.toList ++ held)) E := by
    simp only [hnone, Option.isNone_none, if_true]
    refine .bind (D.releaseHeld rows.lease?) fun _ => .pure ?_
    intro s hs
    simpa [hnone] using hs
  rcases pull with _ | e | item
  · exact hended hlease
  · exact hended hlease
  · have hsame : after.lease? = rows.lease? := hlease
    rcases hrows : rows.lease? with _ | l
    · rw [hrows] at hended hsame
      exact hended hsame
    · rw [hrows] at hsame
      simp only [hsame, Option.isNone_some, Bool.false_eq_true, if_false]
      refine .pure ?_
      intro s hs
      simpa [hsame] using hs

theorem asking {α : Type} {x : Lease → SessionM σ α} (ha : a.options.reuse = reuse)
    (hx : ∀ l, Keeps (D.Busy l held) (x l)) :
    Keeps (D.Idle held) (lease b a >>= fun l => SessionM.during b l (x l)) :=
  Triple.bind (D.take a held ha) fun l => D.during (hx l)

theorem worksheetNames (ha : a.options.reuse = reuse) : Keeps (D.Idle held) (worksheetNames b a) :=
  D.asking ha fun l => D.use l held .worksheetNames rfl

theorem namedRanges (ha : a.options.reuse = reuse) : Keeps (D.Idle held) (namedRanges b a) :=
  D.asking ha fun l => D.use l held .namedRanges rfl

theorem columnNames (ha : a.options.reuse = reuse) : Keeps (D.Idle held) (columnNames b a) :=
  D.asking ha fun l => .bind (.bind D.keeps_findWorksheet fun found => .lift found) fun _ =>
    D.use l held (.columnNames _) rfl

theorem onAccepted {α : Type} {x : QueryArguments → SessionM σ α} (ha : a.options.reuse = reuse)
    (hx : ∀ c, c.options.reuse = reuse → Keeps (D.Idle held) (x c)) :
    Keeps (D.Idle held) (accepted a >>= x) := by
  refine Triple.bind (Q := fun c s => c.options.reuse = reuse ∧ D.Idle held s) ?_ ?_
  · refine .lift ?_ fun _ h => h
    intro c s h hs
    rcases hbuild : a.build with e | same <;> rw [hbuild] at h <;> cases h
    rw [(QueryArguments.checked_of_build hbuild).1]
    exact ⟨ha, hs⟩
  · intro c s hs
    exact hx c hs.1 s hs.2

/-- What any action keeps true, but for closing the kept connection. -/
theorem work {w : World σ} {act : Action} (hunder : act.Under reuse)
    (htemplate : w.factory.template.options.reuse = reuse) (hclose : act ≠ .close) :
    Triple (D.Idle (leasesOf w.held)) (w.work b act) (fun held => D.Idle (leasesOf held))
      (D.Idle (leasesOf w.held)) := by
  have hsame {α : Type} {x : SessionM σ α} (hx : Keeps (D.Idle (leasesOf w.held)) x) :
      Triple (D.Idle (leasesOf w.held)) (do let _ ← x; return w.held)
        (fun held => D.Idle (leasesOf held)) (D.Idle (leasesOf w.held)) :=
    Triple.bind hx fun _ => .pure fun _ h => h
  cases act with
  | create arguments item => exact .pure fun _ h => h
  | addMapping field column => exact .pure fun _ h => h
  | addTransformation type field t => exact .pure fun _ h => h
  | statement q => exact hsame (D.statement (hunder q rfl))
  | iterate q =>
    refine Triple.bind (D.resultsOf (hunder q rfl)) fun rows => .pure ?_
    intro s hs
    rw [leasesOf_cons]
    exact hs
  | toList q => exact hsame (D.toList (hunder q rfl))
  | aggregate q f => exact hsame (D.aggregate (hunder (q.operator (.aggregate f)) rfl))
  | count q => exact hsame (.map (D.aggregate (hunder (q.operator (.aggregate .count)) rfl)))
  | longCount q =>
    exact hsame (.map (D.aggregate (hunder (q.operator (.aggregate .longCount)) rfl)))
  | element q op => exact hsame (D.element (hunder (q.operator (.element op)) rfl))
  | requiredElement q op =>
    refine hsame (Keeps.bind (D.element (hunder (q.operator (.element op)) rfl)) ?_)
    rintro (_ | item)
    · exact .throw _
    · exact .pure _
  | pull place =>
    simp only [World.work]
    split
    · exact .pure fun _ h => h
    · rename_i rows hrows
      refine .bind (D.pullNext.mono (fun _ => D.idle_perm (leasesOf_perm hrows)) (fun _ _ h => h)
        fun _ h => h) ?_
      rintro ⟨pull, after⟩
      exact .pure fun _ => D.idle_perm (leasesOf_set_perm hrows after).symm
  | drop place =>
    simp only [World.work]
    split
    · exact .pure fun _ h => h
    · rename_i rows hrows
      exact .bind ((D.releaseHeld rows.lease?).mono
        (fun _ => D.idle_perm (leasesOf_perm hrows)) (fun _ _ h => h) fun _ h => h) fun _ =>
          .pure fun _ h => h
  | worksheetNames => exact hsame (D.onAccepted htemplate fun c hc => D.worksheetNames hc)
  | namedRanges => exact hsame (D.onAccepted htemplate fun c hc => D.namedRanges hc)
  | columnNames worksheet => exact hsame (D.onAccepted htemplate fun c hc => D.columnNames hc)
  | namedRangeColumnNames name => exact hsame (D.onAccepted htemplate fun c hc => D.columnNames hc)
  | close => exact absurd rfl hclose

theorem step {w : World σ} {act : Action} (hunder : act.Under reuse)
    (htemplate : w.factory.template.options.reuse = reuse) (hclose : act ≠ .close)
    (h : D.Idle (leasesOf w.held) w.factory.session) :
    D.Idle (leasesOf (w.step b act).held) (w.step b act).factory.session :=
  World.step_of_triple (I := fun held => D.Idle (leasesOf held)) (D.work hunder htemplate hclose) h

end Custody

end GridQuery
