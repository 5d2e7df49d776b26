-- Sessions request by request: what a granted or refused request leaves, the
-- books of the connections that are open, and how the next one is made.
import GridQuery.Engine.Connection
import GridQuery.Proofs.CallRecord
import GridQuery.Proofs.SessionRules
import GridQuery.Script

namespace GridQuery

open SessionM

/-! ## Steady backends -/

/-- A connection whose opening was granted is open, and stays open whatever else it is asked but
to close. -/
structure Backend.Steady {σ : Type} (b : Backend σ) : Prop where
  opens : ∀ n s, (b.answer n .openUp s).answer.isOk = true →
    b.isOpen n (b.answer n .openUp s).state = true
  stays : ∀ n request s, request.isQuiet = true → b.isOpen n s = true →
    b.isOpen n (b.answer n request s).state = true

theorem scripted_steady : scripted.Steady where
  opens n s h := by
    simp only [scripted, ScriptedState.after] at h ⊢
    rw [if_pos h]
    simp
  stays n request s hquiet h := by
    cases request with
    | openUp => cases hquiet
    | close => cases hquiet
    | _ => exact h

namespace Engine

theorem connection_store (e : Engine) (n : Nat) (c : Connection Database) :
    (e.store n c).connection n = c := by
  unfold Engine.store Engine.connection
  rw [List.lookup_cons_self]
  rfl

theorem opened_whenOpen {α : Type} {c : Connection Database} (h : c.opened.isSome = true)
    (f : OpenState Database → Reply (OpenState Database) α) :
    (c.whenOpen f).state.opened.isSome = true := by
  obtain ⟨o, ho⟩ := Option.isSome_iff_exists.mp h
  simp only [Connection.whenOpen, ho]
  rfl

theorem steady : engine.Steady where
  opens n e h := by
    simp only [engine, Engine.answer, connection_store] at h ⊢
    simp only [Connection.answer, Connection.openUp] at h ⊢
    split at h
    · rename_i hopen
      rw [if_pos hopen]
      exact hopen
    · rename_i hopen
      rw [if_neg hopen]
      rcases haccess : e.source.access (e.connection n).sourceName (e.connection n).codePage with
        err | s <;> rw [haccess] at h
      · cases h
      · rfl
  stays n request e hquiet h := by
    simp only [engine, Engine.answer, connection_store] at h ⊢
    cases request with
    | connect a => cases hquiet
    | openUp => cases hquiet
    | close => cases hquiet
    | _ => exact opened_whenOpen h _

end Engine

/-! ## Books -/

variable {σ : Type} {b : Backend σ}

/-- The record is orderly and numbers no connection that was not asked for. -/
structure Recorded (s : Session σ) : Prop where
  orderly : Orderly s.calls
  numbered : ∀ c ∈ s.calls, c.connection ≤ s.connects

/-- The open connections on record are these. -/
structure Books (live : Nat → Prop) (s : Session σ) : Prop extends Recorded s where
  opened : ∀ n, phaseOf n s.calls = .opened ↔ live n

/-- A connection was counted and stands in this phase. -/
structure Stands (n : Nat) (p : Phase) (s : Session σ) : Prop where
  counted : n ≤ s.connects
  phase : phaseOf n s.calls = p

namespace Recorded

variable {s : Session σ} {n : Nat} {p : Phase} {request : Request}

/-- The next number belongs to no connection yet. -/
theorem fresh (h : Recorded s) : phaseOf (s.connects + 1) s.calls = .unmade := by
  refine phaseOf_of_unmentioned fun c hc heq => ?_
  have hle := h.numbered c hc
  omega

theorem counted (h : Recorded s) : Recorded { s with connects := s.connects + 1 } where
  orderly := h.orderly
  numbered c hc := Nat.le_succ_of_le (h.numbered c hc)

theorem asked (h : Recorded s) (hstands : Stands n p s) (hadmits : p.admits request = true) :
    Recorded (s.asked b n request) where
  orderly := by
    refine h.orderly.concat ?_
    rw [hstands.phase]
    exact hadmits
  numbered := by
    intro c hc
    rcases List.mem_append.mp hc with hc | hc
    · exact h.numbered c hc
    · obtain rfl := List.mem_singleton.mp hc
      exact hstands.counted

/-- What is on record was counted. -/
theorem stands (h : Recorded s) (hopened : phaseOf n s.calls = .opened) : Stands n .opened s := by
  refine ⟨?_, hopened⟩
  by_contra hgt
  have hunmade : phaseOf n s.calls = .unmade := by
    refine phaseOf_of_unmentioned fun c hc heq => hgt ?_
    rw [← heq]
    exact h.numbered c hc
  rw [hunmade] at hopened
  cases hopened

end Recorded

theorem phaseOf_asked_of_ne {s : Session σ} {n k : Nat} (h : n ≠ k) (request : Request) :
    phaseOf k (s.asked b n request).calls = phaseOf k s.calls := by
  simp only [Session.asked, phaseOf_concat, if_neg h]

theorem Books.asked {live live' : Nat → Prop} {s : Session σ} {n : Nat} {p : Phase}
    {request : Request} (h : Books live s) (hstands : Stands n p s)
    (hadmits : p.admits request = true)
    (hself : p.after ⟨n, request, s.grants b n request⟩ = .opened ↔ live' n)
    (hother : ∀ k, k ≠ n → (live' k ↔ live k)) : Books live' (s.asked b n request) where
  toRecorded := h.toRecorded.asked hstands hadmits
  opened := by
    intro k
    by_cases hk : n = k
    · rw [← hk, ← hself, ← hstands.phase]
      simp only [Session.asked, phaseOf_concat, if_true]
      rfl
    · rw [phaseOf_asked_of_ne hk, hother k (Ne.symm hk)]
      exact h.opened k

theorem Stands.asked {n : Nat} {p : Phase} {s : Session σ} (h : Stands n p s) (b : Backend σ)
    (request : Request) :
    Stands n (p.after ⟨n, request, s.grants b n request⟩) (s.asked b n request) where
  counted := h.counted
  phase := by
    simp only [Session.asked, phaseOf_concat, if_true, h.phase]
    rfl

/-- Making and opening the next connection, for any `I` that the calls on the way keep true. -/
theorem SessionM.Triple.connect {I : Session σ → Prop} {opens : Nat → Session σ → Prop}
    (a : QueryArguments)
    (hcount : ∀ s, I s → I { s with connects := s.connects + 1 } ∧
      phaseOf (s.connects + 1) s.calls = .unmade)
    (hmake : ∀ n s, I s → Stands n .unmade s → I (s.asked b n (.connect a)))
    (hopen : ∀ n s, I s → Stands n .made s → s.grants b n .openUp = true →
      opens n (s.asked b n .openUp))
    (hrefuse : ∀ n s, I s → Stands n .made s → s.grants b n .openUp = false →
      I (s.asked b n .openUp)) :
    Triple I (connect b a) opens I := by
  unfold SessionM.connect
  refine .get fun s hs => .set ?_
  have hmade : Triple (· = { s with connects := s.connects + 1 })
      (SessionM.ask b (s.connects + 1) (.connect a))
      (fun _ t => I t ∧ Stands (s.connects + 1) .made t) I := by
    have hstands : Stands (s.connects + 1) .unmade { s with connects := s.connects + 1 } :=
      ⟨Nat.le_refl _, (hcount s hs).2⟩
    refine .ask ?_ ?_
    · rintro t rfl hgranted
      have hafter := hstands.asked b (.connect a)
      rw [hgranted] at hafter
      exact ⟨hmake _ _ (hcount s hs).1 hstands, hafter⟩
    · rintro t rfl -
      exact hmake _ _ (hcount s hs).1 hstands
  have hopened : Triple (fun t => I t ∧ Stands (s.connects + 1) .made t)
      (SessionM.ask b (s.connects + 1) .openUp) (fun _ => opens (s.connects + 1)) I :=
    .ask (fun t ht => hopen _ t ht.1 ht.2) fun t ht => hrefuse _ t ht.1 ht.2
  exact .bind hmade fun _ => .bind hopened fun _ => .pure fun _ h => h

end GridQuery
