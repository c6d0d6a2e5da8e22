import Reckoner.Proofs.Calculator.Verdict
import Reckoner.Session

/-!
# Session — what is kept, and that it can be replayed

`Reaches` relates the calls of a session that came to their end to the session they leave.  A session keeps the outcomes of the lines submitted since the last clearing, and the display of the last line if it was a result; each outcome it keeps is the answer to its own expression, also at the start of another session; and a signal changes nothing.  `Reaches.faithful` collects this.
-/

namespace Reckoner

open Expression (signs)

namespace Session

variable {c : Calculator} {s s' : Session} {line : String} {o : Outcome} {e : Decimal.Signal}

/-! ### One line -/

/-- A state that is read, and changed by a result only. -/
theorem run_liftExcept {σ α ε : Type} (f : σ → Except ε α) (g : α → σ → σ) (s : σ) :
    ((do
      let s ← get
      let a ← liftExcept (f s)
      modify (g a)
      return a : ExceptT ε (StateM σ) α).run.run s).run = (f s, (f s).toOption.elim s (g · s)) := by
  have hget : ((do
      let s ← get
      let a ← liftExcept (f s)
      modify (g a)
      return a : ExceptT ε (StateM σ) α).run.run s).run = ((do
      let a ← liftExcept (f s)
      modify (g a)
      return a : ExceptT ε (StateM σ) α).run.run s).run := rfl
  rw [hget]
  cases f s <;> rfl

/-- A line comes to what its text is committed to. -/
theorem entered_eq (s : Session) (c : Calculator) (line : String) : s.entered c line
    = (c.commit (s.textOf line), (c.commit (s.textOf line)).toOption.elim s s.record) := by
  rw [entered, enter]
  -- `commit` is not to be unfolded here
  with_reducible exact run_liftExcept (fun s => c.commit (s.textOf line)) (fun o s => s.record o) s

theorem entered_eq_ok_iff : s.entered c line = (.ok o, s') ↔
    c.commit (s.textOf line) = .ok o ∧ s' = s.record o := by
  rw [entered_eq, Prod.mk.injEq]
  refine and_congr_right fun h => ?_
  rw [h, eq_comm]
  rfl

theorem textOf_of_continues {r : String} (hr : s.lastResult? = some r)
    (hline : continues (Text.trim line) = true) : s.textOf line = r ++ Text.trim line := by
  simp only [textOf, hr, hline, if_true]

theorem not_continues_of_blank (h : signs line = []) : continues (Text.trim line) = false := by
  rw [String.isEmpty_iff.mp (Text.isEmpty_trim_iff.mpr h)]
  rfl

/-- A line stands for a blank text exactly if it is blank. -/
theorem signs_textOf_eq_nil_iff (s : Session) (line : String) :
    signs (s.textOf line) = [] ↔ signs line = [] := by
  have hline : signs (Text.trim line) = signs line := Text.signs_trim line
  rw [textOf]
  split
  · split
    · next hcontinues =>
      have hne : signs line ≠ [] := fun h => by
        rw [not_continues_of_blank h] at hcontinues
        cases hcontinues
      simp [hne]
    · rw [hline]
  · rw [hline]

/-- Blank lines leave no entry. -/
theorem isEmpty_expression (h : c.commit (s.textOf line) = .ok o) :
    o.expression.isEmpty = (Text.trim line).isEmpty := by
  rw [Bool.eq_iff_iff, Calculator.expression_eq_of_commit h, Expression.isEmpty_canonical_iff,
    signs_textOf_eq_nil_iff, Text.isEmpty_trim_iff]

theorem lastResult_record {r : String} :
    (s.record o).lastResult? = some r ↔ o.isError = false ∧ o.display = r := by
  rw [record]
  cases o.isError <;> simp

/-- A result is never that of a blank text. -/
theorem not_isEmpty_expression {text : String} (h : c.commit text = .ok o)
    (hsuccess : o.isError = false) : o.expression.isEmpty = false := by
  obtain ⟨display, hcompute, rfl⟩ := Calculator.commit_eq_ok_iff.mp ⟨h, hsuccess⟩
  refine Bool.eq_false_iff.mpr fun hempty => ?_
  rw [Calculator.compute_of_isEmpty_canonical hempty] at hcompute
  cases hcompute

/-! ### Replay -/

/-- **An outcome is the answer to its own expression**, also as the first line of a session. -/
theorem replay_of_commit {text : String} (h : c.commit text = .ok o) :
    c.commit o.expression = .ok o ∧ (entered {} c o.expression).1 = .ok o := by
  have hcommit : c.commit o.expression = .ok o := by
    rw [Calculator.expression_eq_of_commit h, Calculator.commit_canonical, h]
  have htext : textOf {} o.expression = o.expression := by
    rw [Calculator.expression_eq_of_commit h]
    exact Expression.trim_canonical text
  refine ⟨hcommit, ?_⟩
  rw [entered_eq, htext, hcommit]

/-- **A signal leaves the session as it was.** -/
theorem entered_of_signal (h : c.commit (s.textOf line) = .error e) :
    s.entered c line = (.error e, s) := by
  rw [entered_eq, h]
  rfl

/-! ### Calls -/

/-- A call that came to its end. -/
inductive Call where
  | submitted (line : String) (o : Outcome)
  | cleared

/-- The calls, last one first, lead from a new session to this one. -/
inductive Reaches (c : Calculator) : List Call → Session → Prop
  | fresh : Reaches c [] {}
  | submit {calls : List Call} {s s' : Session} {line : String} {o : Outcome} :
      Reaches c calls s → s.entered c line = (.ok o, s') → Reaches c (.submitted line o :: calls) s'
  | clear {calls : List Call} {s : Session} : Reaches c calls s → Reaches c (.cleared :: calls) s.clear

/-- The outcomes of the lines submitted since the last clearing, but for the blank ones; the last one first. -/
def kept : List Call → List Outcome
  | [] | .cleared :: _ => []
  | .submitted line o :: calls => if (Text.trim line).isEmpty then kept calls else o :: kept calls

/-- What a session is after the calls. -/
structure Faithful (c : Calculator) (calls : List Call) (s : Session) : Prop where
  history : s.history = kept calls
  /-- There is a last result exactly after a line with a result. -/
  lastResult : s.lastResult?.isSome = true ↔
    ∃ line o rest, calls = .submitted line o :: rest ∧ o.isError = false
  /-- It is the display of the newest outcome kept. -/
  newest : ∀ r, s.lastResult? = some r →
    ∃ o rest, s.history = o :: rest ∧ o.isError = false ∧ o.display = r
  /-- Every outcome kept is the answer to its expression, also in a new session. -/
  replay : ∀ o ∈ s.history, c.commit o.expression = .ok o ∧ (entered {} c o.expression).1 = .ok o
  /-- A signal leaves the session as it was. -/
  signal : ∀ line e, c.commit (s.textOf line) = .error e → s.entered c line = (.error e, s)

namespace Faithful

variable {calls : List Call}

theorem fresh (c : Calculator) : Faithful c [] {} where
  history := rfl
  lastResult := by simp
  newest := nofun
  replay := nofun
  signal _ _ := entered_of_signal

theorem clear (c : Calculator) (calls : List Call) (s : Session) :
    Faithful c (.cleared :: calls) s.clear where
  history := rfl
  lastResult := by simp [Session.clear]
  newest := nofun
  replay := nofun
  signal _ _ := entered_of_signal

/-- **One line preserves it.** -/
theorem submit (hs : Faithful c calls s) (h : s.entered c line = (.ok o, s')) :
    Faithful c (.submitted line o :: calls) s' := by
  obtain ⟨hcommit, rfl⟩ := entered_eq_ok_iff.mp h
  refine ⟨?_, ?_, fun r hr => ?_, fun o' ho' => ?_, fun _ _ => entered_of_signal⟩
  · rw [record, kept, isEmpty_expression hcommit, hs.history]
  · rw [Option.isSome_iff_exists]
    constructor
    · rintro ⟨r, hr⟩
      exact ⟨line, o, calls, rfl, (lastResult_record.mp hr).1⟩
    · rintro ⟨_, _, _, hcalls, hsuccess⟩
      cases hcalls
      exact ⟨o.display, lastResult_record.mpr ⟨hsuccess, rfl⟩⟩
  · obtain ⟨hsuccess, rfl⟩ := lastResult_record.mp hr
    refine ⟨o, s.history, ?_, hsuccess, rfl⟩
    rw [record, not_isEmpty_expression hcommit hsuccess]
    rfl
  · have hmem : o' = o ∨ o' ∈ s.history := by
      rw [record] at ho'
      split at ho'
      · exact .inr ho'
      · exact List.mem_cons.mp ho'
    rcases hmem with rfl | hmem
    · exact replay_of_commit hcommit
    · exact hs.replay o' hmem

end Faithful

/-- **A session keeps what it answered, and all of it can be replayed.** -/
theorem Reaches.faithful {calls : List Call} (h : Reaches c calls s) : Faithful c calls s := by
  induction h with
  | fresh => exact .fresh c
  | submit _ h ih => exact ih.submit h
  | clear => exact .clear ..

/-- A sum, and a product that goes on from it. -/
theorem Reaches.faithful_chained :
    let c := Calculator.ofSettings {}
    let sum : Outcome := { expression := "1+2", display := "3" }
    let product : Outcome := { expression := "3×2", display := "6" }
    ∃ calls s, Reaches c calls s ∧ kept calls = [product, sum] ∧ Faithful c calls s := by
  intro c sum product
  have hsum : entered {} c " 1+2" = (.ok sum, ⟨[sum], some "3"⟩) := by decide +kernel
  have hproduct : entered ⟨[sum], some "3"⟩ c "*2 " = (.ok product, ⟨[product, sum], some "6"⟩) := by
    decide +kernel
  have hreaches := (Reaches.fresh.submit hsum).submit hproduct
  exact ⟨_, _, hreaches, by decide +kernel, hreaches.faithful⟩

end Session

end Reckoner
