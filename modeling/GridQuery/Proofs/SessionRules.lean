-- Rules for steps of a session: what holds after a step that ends well, and
-- after one that fails. A request is one step, granted or refused.
import GridQuery.Proofs.SessionRun

namespace GridQuery

/-! ## Single steps -/

def Session.asked {σ : Type} (b : Backend σ) (n : Nat) (request : Request) (s : Session σ) :
    Session σ :=
  let reply := b.answer n request s.state
  { s with
    state := reply.state
    calls := s.calls ++ [⟨n, request, reply.answer.isOk⟩]
    log := s.log ++ reply.log }

def Session.grants {σ : Type} (b : Backend σ) (n : Nat) (request : Request) (s : Session σ) :
    Bool :=
  (b.answer n request s.state).answer.isOk

namespace SessionM

variable {σ α β : Type}

theorem runOn_bind_error {x : SessionM σ α} {s t : Session σ} {e : Error} (f : α → SessionM σ β)
    (h : x.runOn s = (.error e, t)) : (x >>= f).runOn s = (.error e, t) := by
  simp only [runOn, ExceptT.run_bind, StateT.run_bind] at h ⊢
  rw [h]
  rfl

theorem runOn_get (s : Session σ) : (get : SessionM σ (Session σ)).runOn s = (.ok s, s) := rfl

theorem runOn_set (s t : Session σ) : (set t : SessionM σ PUnit).runOn s = (.ok ⟨⟩, t) := rfl

theorem runOn_ask (b : Backend σ) (n : Nat) (request : Request) (s : Session σ) :
    (ask b n request).runOn s = ((b.answer n request s.state).answer, s.asked b n request) := by
  unfold ask
  rw [runOn_bind _ (runOn_get s)]
  simp only [Session.asked]
  rw [runOn_bind _ (runOn_set s _)]
  rcases (b.answer n request s.state).answer with e | a <;> rfl

/-- A request whose answer is looked at, granted or refused. -/
theorem runOn_bind_attempt_ask {b : Backend σ} {n : Nat} {request : Request}
    (f : Except Error request.Answer → SessionM σ α) (s : Session σ) :
    (attempt (ask b n request) >>= f).runOn s =
      (f (b.answer n request s.state).answer).runOn (s.asked b n request) := by
  rw [runOn_bind _ (runOn_attempt _ s), runOn_ask]

/-! ## What steps keep true -/

/-- From a session where `P` holds, a step ends well where `Q` holds of its outcome, or fails
where `E` holds. -/
def Triple (P : Session σ → Prop) (x : SessionM σ α) (Q : α → Session σ → Prop)
    (E : Session σ → Prop) : Prop :=
  ∀ s, P s →
    match x.runOn s with
    | (.ok a, t) => Q a t
    | (.error _, t) => E t

/-- A step keeps `P` true, however it ends. -/
def Keeps (P : Session σ → Prop) (x : SessionM σ α) : Prop := Triple P x (fun _ => P) P

/-- What is reported does not matter. -/
def LogFree (P : Session σ → Prop) : Prop := ∀ s log, P s → P { s with log }

section

variable {b : Backend σ} {n : Nat} {P P' E E' : Session σ → Prop} {x : SessionM σ α}
  {Q : α → Session σ → Prop} {R : β → Session σ → Prop}

namespace Triple

theorem mono {Q' : α → Session σ → Prop} (h : Triple P x Q E) (hp : ∀ s, P' s → P s)
    (hq : ∀ a s, Q a s → Q' a s) (he : ∀ s, E s → E' s) : Triple P' x Q' E' := by
  intro s hs
  have hrun := h s (hp s hs)
  rcases hx : x.runOn s with ⟨e | a, t⟩ <;> rw [hx] at hrun
  · exact he t hrun
  · exact hq a t hrun

/-- Of a step that may do anything nothing is said but how it fails. -/
theorem of_forall (he : ∀ s, E s) : Triple P x (fun _ _ => True) E := by
  intro s _
  rcases x.runOn s with ⟨e | a, t⟩
  · exact he t
  · exact trivial

theorem pure {a : α} (h : ∀ s, P s → Q a s) : Triple P (Pure.pure a) Q E := h

theorem throw {e : Error} (h : ∀ s, P s → E s) : Triple P (MonadExcept.throw e) Q E := h

theorem bind {f : α → SessionM σ β} (hx : Triple P x Q E) (hf : ∀ a, Triple (Q a) (f a) R E) :
    Triple P (x >>= f) R E := by
  intro s hs
  have hrun := hx s hs
  rcases h : x.runOn s with ⟨e | a, t⟩ <;> rw [h] at hrun
  · rw [runOn_bind_error f h]
    exact hrun
  · rw [runOn_bind f h]
    exact hf a t hrun

theorem map {f : α → β} (h : Triple P x (fun a => R (f a)) E) : Triple P (f <$> x) R E := by
  intro s hs
  have hrun := h s hs
  rw [runOn_map]
  rcases hx : x.runOn s with ⟨e | a, t⟩ <;> rw [hx] at hrun
  · exact hrun
  · exact hrun

theorem lift {v : Except Error α} (hok : ∀ a s, v = .ok a → P s → Q a s)
    (herror : ∀ s, P s → E s) : Triple P (lift v) Q E := by
  intro s hs
  rw [runOn_lift]
  rcases v with e | a
  · exact herror s hs
  · exact hok a s rfl hs

theorem attempt (h : Triple P x Q E) :
    Triple P (attempt x) (fun r s => match r with | .ok a => Q a s | .error _ => E s) E' := by
  intro s hs
  have hrun := h s hs
  rw [runOn_attempt]
  rcases hx : x.runOn s with ⟨e | a, t⟩ <;> rw [hx] at hrun
  · exact hrun
  · exact hrun

theorem get {f : Session σ → SessionM σ α} (h : ∀ s, P s → Triple (· = s) (f s) Q E) :
    Triple P (MonadState.get >>= f) Q E := by
  intro s hs
  rw [runOn_bind f (runOn_get s)]
  exact h s hs s rfl

theorem set {t : Session σ} {f : PUnit → SessionM σ α} (h : Triple (· = t) (f ⟨⟩) Q E) :
    Triple P (MonadStateOf.set t >>= f) Q E := by
  intro s _
  rw [runOn_bind f (runOn_set s t)]
  exact h t rfl

theorem ask {request : Request} {R : Session σ → Prop}
    (hgranted : ∀ s, P s → s.grants b n request = true → R (s.asked b n request))
    (hrefused : ∀ s, P s → s.grants b n request = false → E (s.asked b n request)) :
    Triple P (ask b n request) (fun _ => R) E := by
  intro s hs
  rw [runOn_ask]
  rcases hanswer : (b.answer n request s.state).answer with e | a
  · exact hrefused s hs (by rw [Session.grants, hanswer]; rfl)
  · exact hgranted s hs (by rw [Session.grants, hanswer]; rfl)

end Triple

namespace Keeps

theorem pure (a : α) : Keeps P (Pure.pure a : SessionM σ α) := Triple.pure fun _ h => h

theorem throw (e : Error) : Keeps P (MonadExcept.throw e : SessionM σ α) :=
  Triple.throw fun _ h => h

theorem bind {f : α → SessionM σ β} (hx : Keeps P x) (hf : ∀ a, Keeps P (f a)) :
    Keeps P (x >>= f) := Triple.bind hx hf

theorem lift (v : Except Error α) : Keeps P (lift v) :=
  Triple.lift (fun _ _ _ h => h) fun _ h => h

theorem attempt (h : Keeps P x) : Keeps P (attempt x) := by
  refine (Triple.attempt h).mono (fun _ h => h) ?_ fun _ h => h
  rintro (e | a) s hs
  · exact hs
  · exact hs

theorem report (h : LogFree P) (line : LogLine) : Keeps P (SessionM.report line) :=
  fun s hs => h s _ hs

theorem reportEach (h : LogFree P) (lines : List LogLine) :
    Keeps P (lines.forM SessionM.report) := by
  induction lines with
  | nil => exact pure PUnit.unit
  | cons line lines ih => exact bind (report h line) fun _ => ih

end Keeps

/-! ## Steps of queries -/

section

variable {l : Lease} {r : Registry} {a : QueryArguments}

/-- Where a step fails, its lease is given up before the failure is passed on. -/
theorem Triple.guarding (hx : Triple P x Q P') (hrelease : Triple P' (release b l) (fun _ => E) E) :
    Triple P (guarding b l x) Q E := by
  unfold SessionM.guarding
  refine .bind (.attempt hx) ?_
  rintro (e | c)
  · exact .bind hrelease fun _ => .throw fun _ h => h
  · exact .pure fun _ h => h

/-- Nothing but the names of the worksheets is asked for to find one. -/
theorem Keeps.findWorksheet (hask : Keeps P (ask b l.connection .worksheetNames)) :
    Keeps P (a.findWorksheet (SessionM.attempt (ask b l.connection .worksheetNames))) := by
  unfold QueryArguments.findWorksheet
  split
  · exact .pure _
  · refine .bind hask.attempt ?_
    rintro (e | names)
    · exact .pure _
    · simp only
      split
      · exact .pure _
      · exact .pure _

theorem Keeps.findTable (hask : Keeps P (ask b l.connection .worksheetNames)) (hlog : LogFree P) :
    Keeps P (findTable b r a l) := by
  unfold SessionM.findTable
  refine .bind (.bind (.findWorksheet hask) fun found => .lift found) fun found => ?_
  exact .bind (.report hlog _) fun _ => .pure _

end

end

end SessionM

end GridQuery
