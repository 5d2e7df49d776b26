-- The calls on record, read as the lives of connections. A connection is made,
-- then opened, then used, then closed. A record is orderly if every call comes
-- at its time; what is said of closing follows from that alone.
import GridQuery.Backend
import Mathlib.Data.List.Induction

namespace GridQuery

/-! ## The life of a connection -/

namespace Request

def isOpenUp : Request → Bool
  | openUp => true
  | _ => false

def isClose : Request → Bool
  | close => true
  | _ => false

/-- The request begins the life of a connection. -/
def begins : Request → Bool
  | connect _ => true
  | openUp => true
  | _ => false

/-- The request leaves the life of a connection as it is. -/
def isQuiet (r : Request) : Bool := !r.begins && !r.isClose

end Request

/-- Where a connection stands. -/
inductive Phase
  | unmade
  | made
  | opened
  /-- The connection was closed, or could not be made or opened. -/
  | gone
  deriving DecidableEq, Repr

namespace Phase

/-- A connection in this phase can be asked this. -/
def admits : Phase → Request → Bool
  | unmade, .connect _ => true
  | made, .openUp => true
  | opened, r => !r.begins
  | _, _ => false

/-- The phase of a connection after one more call to it. -/
def after (p : Phase) (c : Call) : Phase :=
  match c.request with
  | .connect _ => if c.granted then made else gone
  | .openUp => if c.granted then opened else gone
  | .close => gone
  | _ => p

theorem admits_quiet {r : Request} (h : r.isQuiet = true) : opened.admits r = true := by
  cases r <;> first | rfl | cases h

/-- Only an open connection is asked for more than to be made and opened. -/
theorem eq_opened_of_admits {p : Phase} {r : Request} (h : p.admits r = true)
    (hr : r.begins = false) : p = opened := by
  cases p with
  | unmade =>
    cases r with
    | connect a => cases hr
    | _ => cases h
  | made =>
    cases r with
    | openUp => cases hr
    | _ => cases h
  | opened => rfl
  | gone => cases h

theorem after_quiet {p : Phase} {c : Call} (h : c.request.isQuiet = true) : p.after c = p := by
  obtain ⟨n, request, granted⟩ := c
  cases request <;> first | rfl | cases h

end Phase

def callsTo (n : Nat) (calls : List Call) : List Call := calls.filter (·.connection == n)

def phaseOf (n : Nat) (calls : List Call) : Phase := (callsTo n calls).foldl Phase.after .unmade

theorem callsTo_concat (n : Nat) (calls : List Call) (c : Call) :
    callsTo n (calls ++ [c]) =
      if c.connection = n then callsTo n calls ++ [c] else callsTo n calls := by
  unfold callsTo
  by_cases hn : c.connection = n <;> simp [List.filter_append, hn]

theorem phaseOf_concat (n : Nat) (calls : List Call) (c : Call) :
    phaseOf n (calls ++ [c]) =
      if c.connection = n then (phaseOf n calls).after c else phaseOf n calls := by
  unfold phaseOf
  rw [callsTo_concat]
  split
  · rw [List.foldl_append, List.foldl_cons, List.foldl_nil]
  · rfl

theorem phaseOf_of_unmentioned {n : Nat} {calls : List Call}
    (h : ∀ c ∈ calls, c.connection ≠ n) : phaseOf n calls = .unmade := by
  have hnone : callsTo n calls = [] := by
    rw [callsTo, List.filter_eq_nil_iff]
    intro c hc
    simpa using h c hc
  rw [phaseOf, hnone, List.foldl_nil]

/-! ## Records -/

/-- What holds of every call, with the calls before it. -/
def AtEachCall (P : List Call → Call → Prop) (calls : List Call) : Prop :=
  ∀ before c after, calls = before ++ c :: after → P before c

namespace AtEachCall

variable {P : List Call → Call → Prop} {calls : List Call}

theorem nil : AtEachCall P [] := by
  intro before c after h
  simp at h

theorem concat (h : AtEachCall P calls) {c : Call} (hc : P calls c) :
    AtEachCall P (calls ++ [c]) := by
  intro before d after heq
  rcases List.eq_nil_or_concat after with rfl | ⟨rest, e, rfl⟩
  · obtain ⟨rfl, hcd⟩ := List.append_inj' heq rfl
    obtain rfl : c = d := by simpa using hcd
    exact hc
  · rw [List.concat_eq_append, ← List.cons_append, ← List.append_assoc] at heq
    exact h before d rest (List.append_inj' heq rfl).1

theorem of_append {more : List Call} (h : AtEachCall P (calls ++ more)) : AtEachCall P calls := by
  intro before c after heq
  exact h before c (after ++ more) (by simp [heq])

theorem last {c : Call} (h : AtEachCall P (calls ++ [c])) : P calls c := h calls c [] rfl

end AtEachCall

/-- Every call comes at its time. -/
def Orderly (calls : List Call) : Prop :=
  AtEachCall (fun before c => (phaseOf c.connection before).admits c.request = true) calls

/-- A connection is made and opened only while no connection is open. -/
def Exclusive (calls : List Call) : Prop :=
  AtEachCall (fun before c => c.request.begins = true → ∀ n, phaseOf n before ≠ .opened) calls

/-! ## What the calls to one connection tell -/

/-- Opening was granted. -/
def WasOpened (cs : List Call) : Prop := ∃ c ∈ cs, c.request.isOpenUp = true ∧ c.granted = true

/-- Closing was not asked for. -/
def Unclosed (cs : List Call) : Prop := ∀ c ∈ cs, c.request.isClose = false

/-- Closing was asked for once, and nothing after it. -/
def ClosedInTheEnd (cs : List Call) : Prop :=
  ∃ before c, cs = before ++ [c] ∧ c.request.isClose = true ∧ Unclosed before

/-- What the calls to a connection tell of it in a phase. -/
def Phase.Tells (cs : List Call) : Phase → Prop
  | unmade => cs = []
  | made => ∀ c ∈ cs, c.request.isOpenUp = false ∧ c.request.isClose = false
  | opened => Unclosed cs
  | gone => ¬ WasOpened cs ∨ ClosedInTheEnd cs

theorem Phase.tells_after {p : Phase} {cs : List Call} {c : Call} (h : p.Tells cs)
    (hc : p.admits c.request = true) : (p.after c).Tells (cs ++ [c]) := by
  obtain ⟨n, request, granted⟩ := c
  -- by the phases that admit the request
  cases p with
  | unmade =>
    obtain rfl : cs = [] := h
    cases request with
    | connect a =>
      cases granted <;> simp [after, Tells, WasOpened, Request.isOpenUp, Request.isClose]
    | _ => cases hc
  | made =>
    cases request with
    | openUp =>
      cases granted with
      | true =>
        intro d hd
        rcases List.mem_append.mp hd with hd | hd
        · exact (h d hd).2
        · obtain rfl := List.mem_singleton.mp hd
          rfl
      | false =>
        refine .inl ?_
        rintro ⟨d, hd, hopen, hgranted⟩
        rcases List.mem_append.mp hd with hd | hd
        · rw [(h d hd).1] at hopen
          cases hopen
        · obtain rfl := List.mem_singleton.mp hd
          cases hgranted
    | _ => cases hc
  | opened =>
    have hquiet : request.isClose = false →
        ∀ d ∈ cs ++ [⟨n, request, granted⟩], d.request.isClose = false := by
      intro hclose d hd
      rcases List.mem_append.mp hd with hd | hd
      · exact h d hd
      · obtain rfl := List.mem_singleton.mp hd
        exact hclose
    cases request with
    | connect a => cases hc
    | openUp => cases hc
    | close => exact .inr ⟨cs, _, rfl, rfl, h⟩
    | _ => exact hquiet rfl
  | gone => cases hc

namespace Orderly

variable {calls : List Call}

theorem tells (h : Orderly calls) (n : Nat) : (phaseOf n calls).Tells (callsTo n calls) := by
  induction calls using List.reverseRecOn with
  | nil => rfl
  | append_singleton calls c ih =>
    have hbefore := ih h.of_append
    rw [phaseOf_concat, callsTo_concat]
    split
    · rename_i hn
      have hc : (phaseOf c.connection calls).admits c.request = true := h.last
      rw [hn] at hc
      exact Phase.tells_after hbefore hc
    · exact hbefore

/-- A connection that was opened is open and was not closed, or it was closed once, by the last
call to it. -/
theorem of_opened (h : Orderly calls) {n : Nat} (hopened : WasOpened (callsTo n calls)) :
    (phaseOf n calls = .opened ∧ Unclosed (callsTo n calls)) ∨
      (phaseOf n calls = .gone ∧ ClosedInTheEnd (callsTo n calls)) := by
  have htells := h.tells n
  rcases hphase : phaseOf n calls with _ | _ | _ | _ <;> rw [hphase] at htells
  · obtain ⟨c, hc, -⟩ := hopened
    rw [show callsTo n calls = [] from htells] at hc
    cases hc
  · obtain ⟨c, hc, hopen, -⟩ := hopened
    rw [(htells c hc).1] at hopen
    cases hopen
  · exact .inl ⟨rfl, htells⟩
  · refine .inr ⟨rfl, ?_⟩
    rcases htells with hfailed | hclosed
    · exact absurd hopened hfailed
    · exact hclosed

/-- Only closing ends an open connection. -/
theorem opened_of_append {more : List Call} (h : Orderly (calls ++ more)) (hclose : Unclosed more)
    {n : Nat} (hopen : phaseOf n calls = .opened) : phaseOf n (calls ++ more) = .opened := by
  induction more using List.reverseRecOn with
  | nil => rwa [List.append_nil]
  | append_singleton more c ih =>
    rw [← List.append_assoc] at h ⊢
    have hbefore := ih h.of_append fun d hd => hclose d (List.mem_append_left _ hd)
    have hadmits : (phaseOf c.connection (calls ++ more)).admits c.request = true := h.last
    have hquiet : c.request.isClose = false :=
      hclose c (List.mem_append_right _ (List.mem_singleton.mpr rfl))
    rw [phaseOf_concat]
    split
    · rename_i hn
      rw [hn, hbefore] at hadmits
      rw [hbefore]
      obtain ⟨k, request, granted⟩ := c
      cases request with
      | connect a => cases hadmits
      | openUp => cases hadmits
      | close => cases hquiet
      | _ => rfl
    · exact hbefore

end Orderly

/-- A connection that is open was open before, or is opened by the call. -/
theorem opened_of_concat {n : Nat} {calls : List Call} {c : Call}
    (h : phaseOf n (calls ++ [c]) = .opened) :
    phaseOf n calls = .opened ∨ (c.connection = n ∧ c.request.begins = true) := by
  rw [phaseOf_concat] at h
  split at h
  · rename_i hn
    obtain ⟨k, request, granted⟩ := c
    cases request with
    | connect a => cases granted <;> cases h
    | openUp => exact .inr ⟨hn, rfl⟩
    | close => cases h
    | _ => exact .inl h
  · exact .inl h

/-- Of a record that is exclusive, at most one connection is open. -/
theorem Exclusive.eq_of_opened {calls : List Call} (h : Exclusive calls) {n k : Nat}
    (hn : phaseOf n calls = .opened) (hk : phaseOf k calls = .opened) : n = k := by
  induction calls using List.reverseRecOn with
  | nil => cases hn
  | append_singleton calls c ih =>
    have hlast : c.request.begins = true → ∀ n, phaseOf n calls ≠ .opened := h.last
    rcases opened_of_concat hn with hn | ⟨rfl, hbegins⟩
    · rcases opened_of_concat hk with hk | ⟨rfl, hbegins⟩
      · exact ih h.of_append hn hk
      · exact absurd hn (hlast hbegins n)
    · rcases opened_of_concat hk with hk | ⟨rfl, -⟩
      · exact absurd hk (hlast hbegins k)
      · rfl

end GridQuery
