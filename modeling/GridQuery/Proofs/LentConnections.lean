-- The two ways of lending connections. A connection of its own is open exactly
-- as long as a lease holds it; a kept one is only borrowed by queries, and no
-- other is open unless connections break by themselves.
import GridQuery.Proofs.ConnectionBooks
import GridQuery.Proofs.Custody

namespace GridQuery

open SessionM

variable {σ : Type} {b : Backend σ}

/-! ## Connections of their own -/

/-- Without reuse: the leases that are held are those of the open connections. -/
structure Owned (held : List Lease) (s : Session σ) : Prop
    extends Books (fun n => ⟨n, true⟩ ∈ held) s where
  unkept : s.persistent = none
  owned : ∀ l ∈ held, l.owned = true
  nodup : held.Nodup

namespace Owned

variable {held : List Lease} {s : Session σ} {n : Nat} {p : Phase} {request : Request}

theorem logFree (held : List Lease) : LogFree (Owned (σ := σ) held) := fun _ _ h =>
  ⟨⟨⟨h.orderly, h.numbered⟩, h.opened⟩, h.unkept, h.owned, h.nodup⟩

/-- A request that opens and closes nothing. -/
theorem asked (h : Owned held s) (hstands : Stands n p s) (hadmits : p.admits request = true)
    (hsame : p.after ⟨n, request, s.grants b n request⟩ = .opened ↔ p = .opened) :
    Owned held (s.asked b n request) where
  toBooks := by
    refine h.toBooks.asked hstands hadmits (hsame.trans ?_) fun _ _ => .rfl
    rw [← h.opened n, hstands.phase]
  unkept := h.unkept
  owned := h.owned
  nodup := h.nodup

/-- The connection that is opened is not open yet, so no lease holds it. -/
theorem opens (h : Owned held s) (hmade : Stands n .made s)
    (hgranted : s.grants b n .openUp = true) : Owned (⟨n, true⟩ :: held) (s.asked b n .openUp) where
  toBooks := by
    refine h.toBooks.asked hmade rfl ?_ ?_
    · simp [Phase.after, hgranted]
    · intro k hk
      simp [hk]
  unkept := h.unkept
  owned := by
    intro l hl
    rcases List.mem_cons.mp hl with rfl | hl
    · rfl
    · exact h.owned l hl
  nodup := by
    refine List.nodup_cons.mpr ⟨fun hmem => ?_, h.nodup⟩
    have hopened := (h.opened n).mpr hmem
    rw [hmade.phase] at hopened
    cases hopened

theorem connect (a : QueryArguments) :
    Triple (Owned held) (connect b a) (fun n => Owned (⟨n, true⟩ :: held)) (Owned held) := by
  refine .connect a ?_ ?_ ?_ ?_
  · intro s h
    exact ⟨⟨⟨h.toRecorded.counted, h.opened⟩, h.unkept, h.owned, h.nodup⟩, h.toRecorded.fresh⟩
  · intro n s h hnew
    refine h.asked hnew rfl ?_
    cases s.grants b n (.connect a) <;> simp [Phase.after]
  · intro n s h hmade hgranted
    exact h.opens hmade hgranted
  · intro n s h hmade hrefused
    exact h.asked hmade rfl (by simp [Phase.after, hrefused])

variable {l : Lease}

theorem eq_mk (h : Owned (l :: held) s) : l = ⟨l.connection, true⟩ := by
  rw [← h.owned l (List.mem_cons_self ..)]

/-- What a lease holds is an open connection. -/
theorem stands (h : Owned (l :: held) s) : Stands l.connection .opened s := by
  refine h.toRecorded.stands ((h.opened l.connection).mpr ?_)
  rw [← h.eq_mk]
  exact List.mem_cons_self ..

theorem uses (h : Owned (l :: held) s) (hquiet : request.isQuiet = true) :
    Owned (l :: held) (s.asked b l.connection request) :=
  h.asked h.stands (Phase.admits_quiet hquiet) (by rw [Phase.after_quiet hquiet])

/-- Closing ends the hold, whether it is granted or not. -/
theorem closes (h : Owned (l :: held) s) : Owned held (s.asked b l.connection .close) where
  toBooks := by
    refine h.toBooks.asked h.stands rfl ?_ ?_
    · rw [← h.eq_mk]
      exact ⟨nofun, fun hmem => absurd hmem (List.nodup_cons.mp h.nodup).1⟩
    · intro k hk
      have hne : (⟨k, true⟩ : Lease) ≠ l := fun heq => hk (congrArg Lease.connection heq)
      simp [hne]
  unkept := h.unkept
  owned k hk := h.owned k (List.mem_cons_of_mem _ hk)
  nodup := (List.nodup_cons.mp h.nodup).2

theorem release :
    Triple (Owned (l :: held)) (release b l) (fun _ => Owned held) fun _ => False := by
  intro s h
  have hclose : Triple (Owned (l :: held)) (ask b l.connection .close) (fun _ => Owned held)
      (Owned held) := .ask (fun _ h _ => h.closes) fun _ h _ => h.closes
  have hrun : Triple (Owned (l :: held)) (SessionM.release b l) (fun _ => Owned held)
      fun _ => False := by
    unfold SessionM.release
    rw [h.owned l (List.mem_cons_self ..), if_pos rfl]
    refine .bind (.attempt hclose) ?_
    rintro (e | _)
    · exact fun s h => logFree held s _ h
    · exact .pure fun _ h => h
  exact hrun s h

/-- No connection is kept, so there is none to close. -/
theorem closeKept : Keeps (Owned held) (closeKept b) := by
  unfold SessionM.closeKept
  refine .get fun s hs => ?_
  rw [hs.unkept]
  refine .pure ?_
  rintro t rfl
  exact hs

end Owned

def ownConnections (b : Backend σ) : Custody b false where
  Idle := Owned
  Busy l held := Owned (l :: held)
  idle_logFree := Owned.logFree
  busy_logFree l held := Owned.logFree (l :: held)
  idle_perm hperm h :=
    { orderly := h.orderly
      numbered := h.numbered
      opened := fun n => (h.opened n).trans hperm.mem_iff
      unkept := h.unkept
      owned := fun l hl => h.owned l (hperm.mem_iff.mpr hl)
      nodup := hperm.nodup_iff.mp h.nodup }
  idle_of_busy h := h
  take a held ha := by
    unfold lease
    rw [ha]
    exact .bind (Owned.connect a) fun _ => .pure fun _ h => h
  use l held request hquiet := .ask (fun _ h _ => h.uses hquiet) fun _ h _ => h.uses hquiet
  giveUp l held := Owned.release

/-! ## The kept connection -/

/-- This connection is open, or none is. -/
structure Single (b : Backend σ) (current : Option Nat) (s : Session σ) : Prop
    extends Books (current = some ·) s where
  exclusive : Exclusive s.calls
  /-- The backend knows it. -/
  known : ∀ n, current = some n → b.isOpen n s.state = true

theorem Single.asked {current current' : Option Nat} {s : Session σ} {n : Nat} {p : Phase}
    {request : Request} (h : Single b current s) (hstands : Stands n p s)
    (hadmits : p.admits request = true) (hbegins : request.begins = true → current = none)
    (hself : p.after ⟨n, request, s.grants b n request⟩ = .opened ↔ current' = some n)
    (hother : ∀ k, k ≠ n → (current' = some k ↔ current = some k))
    (hknown : current' = some n → b.isOpen n (s.asked b n request).state = true) :
    Single b current' (s.asked b n request) where
  toBooks := h.toBooks.asked hstands hadmits hself hother
  exclusive := by
    refine h.exclusive.concat fun hbegin k hopened => ?_
    have hcurrent := (h.opened k).mp hopened
    rw [hbegins hbegin] at hcurrent
    cases hcurrent
  known := by
    intro k hcurrent'
    by_cases hk : k = n
    · rw [hk] at hcurrent' ⊢
      exact hknown hcurrent'
    · -- while one connection is open no other is asked
      have hcurrent := (hother k hk).mp hcurrent'
      cases hbegin : request.begins with
      | true =>
        rw [hbegins hbegin] at hcurrent
        cases hcurrent
      | false =>
        have hphase := hstands.phase.trans (Phase.eq_opened_of_admits hadmits hbegin)
        have hopened := (h.opened n).mp hphase
        rw [hcurrent] at hopened
        exact absurd (Option.some.inj hopened) hk

/-- Nothing was closed since. -/
def Since (base calls : List Call) : Prop := ∃ new, calls = base ++ new ∧ Unclosed new

theorem Since.refl (calls : List Call) : Since calls calls :=
  ⟨[], (List.append_nil calls).symm, fun _ hc => absurd hc List.not_mem_nil⟩

theorem Since.concat {base calls : List Call} (h : Since base calls) {c : Call}
    (hc : c.request.isClose = false) : Since base (calls ++ [c]) := by
  obtain ⟨new, rfl, hnew⟩ := h
  refine ⟨new ++ [c], List.append_assoc .., ?_⟩
  intro d hd
  rcases List.mem_append.mp hd with hd | hd
  · exact hnew d hd
  · obtain rfl := List.mem_singleton.mp hd
    exact hc

/-- With reuse: leases are borrowed from the kept connection. Since some session before, nothing
was closed, and what was kept then is still kept or has been replaced. -/
structure Borrowed (b : Backend σ) (base : Session σ) (current : Option Nat) (held : List Lease)
    (s : Session σ) : Prop extends Recorded s where
  kept : ∀ n, current = some n → phaseOf n s.calls = .opened
  since : Since base.calls s.calls
  lasts : base.persistent.isSome = true → current.isSome = true
  borrowed : ∀ l ∈ held, l.owned = false
  /-- Unless connections break by themselves, no other one is open. -/
  single : b.Steady → Single b current s

namespace Borrowed

variable {base : Session σ} {current : Option Nat} {held : List Lease} {s : Session σ} {n : Nat}
  {p : Phase} {request : Request}

/-- A request on the way to an open connection. -/
theorem asked (h : Borrowed b base current held s) (hnone : b.Steady → current = none)
    (hstands : Stands n p s) (hp : p ≠ .opened) (hadmits : p.admits request = true)
    (hclose : request.isClose = false)
    (hafter : p.after ⟨n, request, s.grants b n request⟩ ≠ .opened) :
    Borrowed b base current held (s.asked b n request) where
  toRecorded := h.toRecorded.asked hstands hadmits
  kept := by
    intro k hk
    have hne : n ≠ k := by
      rintro rfl
      exact hp (hstands.phase.symm.trans (h.kept n hk))
    rw [phaseOf_asked_of_ne hne]
    exact h.kept k hk
  since := h.since.concat hclose
  lasts := h.lasts
  borrowed := h.borrowed
  single := by
    intro hsteady
    have hsingle := h.single hsteady
    rw [hnone hsteady] at hsingle ⊢
    exact hsingle.asked hstands hadmits (fun _ => rfl) (iff_of_false hafter nofun)
      (fun _ _ => .rfl) nofun

theorem opens (h : Borrowed b base current held s) (hnone : b.Steady → current = none)
    (hmade : Stands n .made s) (hgranted : s.grants b n .openUp = true) :
    Borrowed b base (some n) held (s.asked b n .openUp) where
  toRecorded := h.toRecorded.asked hmade rfl
  kept := by
    rintro _ ⟨⟩
    rw [(hmade.asked b .openUp).phase]
    simp [Phase.after, hgranted]
  since := h.since.concat rfl
  lasts _ := rfl
  borrowed := h.borrowed
  single := by
    intro hsteady
    have hsingle := h.single hsteady
    rw [hnone hsteady] at hsingle
    refine hsingle.asked hmade rfl (fun _ => rfl) ?_ ?_ ?_
    · simp [Phase.after, hgranted]
    · intro k hk
      simp [Ne.symm hk]
    · intro _
      exact hsteady.opens n s.state hgranted

/-- A connection is made where none is kept, or the one that is kept broke. -/
theorem connect (a : QueryArguments) :
    Triple (fun s => Borrowed b base s.persistent held s ∧ (b.Steady → s.persistent = none))
      (connect b a) (fun n => Borrowed b base (some n) held)
      (fun s => Borrowed b base s.persistent held s ∧ (b.Steady → s.persistent = none)) := by
  refine .connect a ?_ ?_ ?_ ?_
  · rintro s ⟨h, hnone⟩
    refine ⟨⟨⟨h.toRecorded.counted, h.kept, h.since, h.lasts, h.borrowed, fun hsteady => ?_⟩,
      hnone⟩, h.toRecorded.fresh⟩
    have hsingle := h.single hsteady
    exact ⟨⟨hsingle.toRecorded.counted, hsingle.opened⟩, hsingle.exclusive, hsingle.known⟩
  · rintro n s ⟨h, hnone⟩ hnew
    refine ⟨h.asked hnone hnew nofun rfl rfl ?_, hnone⟩
    cases s.grants b n (.connect a) <;> nofun
  · rintro n s ⟨h, hnone⟩ hmade hgranted
    exact h.opens hnone hmade hgranted
  · rintro n s ⟨h, hnone⟩ hmade hrefused
    refine ⟨h.asked hnone hmade nofun rfl rfl ?_, hnone⟩
    rw [hrefused]
    exact nofun

/-- What is said of a session does not depend on its log or on what it keeps. -/
theorem congr (h : Borrowed b base current held s) (log : List LogLine)
    (persistent : Option Nat) :
    Borrowed b base current held { s with log := log, persistent := persistent } := by
  refine ⟨⟨h.orderly, h.numbered⟩, h.kept, h.since, h.lasts, h.borrowed, fun hsteady => ?_⟩
  have hsingle := h.single hsteady
  exact ⟨⟨⟨hsingle.orderly, hsingle.numbered⟩, hsingle.opened⟩, hsingle.exclusive, hsingle.known⟩

theorem uses (h : Borrowed b base (some n) held s) (hquiet : request.isQuiet = true) :
    Borrowed b base (some n) held (s.asked b n request) := by
  have hstands : Stands n .opened s := h.toRecorded.stands (h.kept n rfl)
  have hadmits : Phase.opened.admits request = true := Phase.admits_quiet hquiet
  have hparts : request.begins = false ∧ request.isClose = false := by
    simpa [Request.isQuiet] using hquiet
  refine ⟨h.toRecorded.asked hstands hadmits, ?_, h.since.concat hparts.2, fun _ => rfl,
    h.borrowed, fun hsteady => ?_⟩
  · rintro _ ⟨⟩
    rw [(hstands.asked b request).phase, Phase.after_quiet hquiet]
  · have hsingle := h.single hsteady
    refine hsingle.asked hstands hadmits ?_ ?_ (fun _ _ => .rfl) ?_
    · rw [hparts.1]
      exact nofun
    · rw [Phase.after_quiet hquiet]
      exact iff_of_true rfl rfl
    · intro hcurrent
      exact hsteady.stays n request s.state hquiet (hsingle.known n hcurrent)

/-- What holds of a session holds since that session. -/
theorem rebase (h : Borrowed b base s.persistent held s) : Borrowed b s s.persistent held s where
  toRecorded := h.toRecorded
  kept := h.kept
  since := .refl s.calls
  lasts := id
  borrowed := h.borrowed
  single := h.single

/-- The connection is closed, whether that is granted or not. -/
theorem closes (h : Borrowed b base (some n) held s) (hgiven : s.persistent = none) :
    Borrowed b (s.asked b n .close) none held (s.asked b n .close) where
  toRecorded := h.toRecorded.asked (h.toRecorded.stands (h.kept n rfl)) rfl
  kept := nofun
  since := .refl _
  lasts := by
    intro hsome
    rw [show (s.asked b n .close).persistent = none from hgiven] at hsome
    cases hsome
  borrowed := h.borrowed
  single := by
    intro hsteady
    refine (h.single hsteady).asked (h.toRecorded.stands (h.kept n rfl)) rfl nofun ?_ ?_ nofun
    · simp [Phase.after]
    · intro k hk
      simp [Ne.symm hk]

/-- What is kept is closed and given up. -/
theorem closeKept :
    let closed (s : Session σ) := (Borrowed b s s.persistent held s ∧ s.persistent = none) ∧
      ∀ n, current = some n → phaseOf n s.calls = .gone
    Triple (fun s => Borrowed b base s.persistent held s ∧ s.persistent = current) (closeKept b)
      (fun _ => closed) closed := by
  intro closed
  unfold SessionM.closeKept
  refine .get ?_
  rintro s ⟨hs, rfl⟩
  rcases hkept : s.persistent with _ | n
  · refine .pure ?_
    rintro t rfl
    refine ⟨⟨hs.rebase, hkept⟩, fun n hn => ?_⟩
    rw [hkept] at hn
    cases hn
  · rw [hkept] at hs
    have hgiven := hs.congr s.log none
    have hclosed : closed (Session.asked b n .close { s with persistent := none }) := by
      refine ⟨⟨hgiven.closes rfl, rfl⟩, fun k hk => ?_⟩
      obtain rfl : n = k := Option.some.inj (hkept.symm.trans hk)
      exact ((hgiven.toRecorded.stands (hgiven.kept n rfl)).asked b .close).phase
    refine .set (.ask ?_ ?_)
    · rintro t rfl -
      exact hclosed
    · rintro t rfl -
      exact hclosed

theorem borrow {l : Lease} (h : Borrowed b base current held s) (hl : l.owned = false) :
    Borrowed b base current (l :: held) s where
  toRecorded := h.toRecorded
  kept := h.kept
  since := h.since
  lasts := h.lasts
  borrowed := by
    intro k hk
    rcases List.mem_cons.mp hk with rfl | hk
    · exact hl
    · exact h.borrowed k hk
  single := h.single

/-- The kept connection is lent, or a new one is kept and lent. -/
theorem lease {a : QueryArguments} (ha : a.options.reuse = true) :
    Triple (fun s => Borrowed b base s.persistent held s) (lease b a)
      (fun l s => Borrowed b base s.persistent (l :: held) s ∧ s.persistent = some l.connection)
      (fun s => Borrowed b base s.persistent held s) := by
  unfold SessionM.lease
  rw [if_pos ha]
  refine .get fun s hs => ?_
  rcases hkept : kept? b s with _ | n
  · -- on a steady backend what is kept is open
    have hnone : b.Steady → s.persistent = none := by
      intro hsteady
      refine Option.eq_none_iff_forall_not_mem.mpr fun n hn => ?_
      have hopen := (hs.single hsteady).known n hn
      simp [kept?, Option.mem_def.mp hn, hopen] at hkept
    refine .bind (Q := fun n => Borrowed b base (some n) held) ?_ fun n => ?_
    · refine (connect a).mono ?_ (fun _ _ h => h) fun _ h => h.1
      rintro t rfl
      exact ⟨hs, hnone⟩
    · refine .bind (Q := fun _ t => Borrowed b base t.persistent held t ∧ t.persistent = some n)
        (fun t h => ?_) fun _ => .pure fun t h => ⟨h.1.borrow rfl, h.2⟩
      exact ⟨h.congr t.log (some n), rfl⟩
  · refine .pure ?_
    rintro t rfl
    exact ⟨hs.borrow rfl, (Option.filter_eq_some_iff.mp hkept).1⟩

end Borrowed

/-- All queries borrow the kept connection, and nothing on record since `base` closes one. -/
def keptConnection (b : Backend σ) (base : Session σ) : Custody b true where
  Idle held s := Borrowed b base s.persistent held s
  Busy l held s := Borrowed b base s.persistent (l :: held) s ∧ s.persistent = some l.connection
  idle_logFree _ s log h := h.congr log s.persistent
  busy_logFree _ _ s log h := ⟨h.1.congr log s.persistent, h.2⟩
  idle_perm hperm h :=
    { toRecorded := h.toRecorded
      kept := h.kept
      since := h.since
      lasts := h.lasts
      borrowed := fun l hl => h.borrowed l (hperm.mem_iff.mpr hl)
      single := h.single }
  idle_of_busy h := h.1
  take a held ha := Borrowed.lease ha
  use l held request hquiet := by
    have huses (s : Session σ) (h : Borrowed b base s.persistent (l :: held) s ∧
        s.persistent = some l.connection) :
        Borrowed b base s.persistent (l :: held) (s.asked b l.connection request) ∧
          s.persistent = some l.connection := by
      obtain ⟨h, hkept⟩ := h
      rw [hkept] at h ⊢
      exact ⟨h.uses hquiet, rfl⟩
    exact .ask (fun s h _ => huses s h) fun s h _ => huses s h
  giveUp l held := by
    intro s h
    have hrun : Triple (fun s => Borrowed b base s.persistent (l :: held) s) (release b l)
        (fun _ s => Borrowed b base s.persistent held s) fun _ => False := by
      unfold release
      rw [h.borrowed l (List.mem_cons_self ..)]
      exact .pure fun t h =>
        { toRecorded := h.toRecorded
          kept := h.kept
          since := h.since
          lasts := h.lasts
          borrowed := fun k hk => h.borrowed k (List.mem_cons_of_mem _ hk)
          single := h.single }
    exact hrun s h

end GridQuery
