import Reckoner.Proofs.Evaluation
import Reckoner.Proofs.Token.Group

/-!
# Evaluation — the stack under a run

Three facts about the stack that a run leaves.

* `run_mem`: a value on it was there before, is that of a numeral, or was rounded.
* `alike_run`: stacks of the same values, however these are written, lead to stacks of the same values or to the same failure.
* `run_append_stack`: what lies below is left alone, except by a percent sign that finds nothing else below its operand.  Whether there is one can be seen from the tokens (`Token.selfContained`), since how many values there are does not depend on the values (`step_length`).
-/

namespace Reckoner

open Decimal (Context Signal toRat)

namespace Token

/-- A percent sign that takes part of the value below its operand. -/
def reachesBelow : Token → Bool
  | percent (some .mul) | percent (some .div) => false
  | percent _ => true
  | num _ | op _ | lparen | rparen => false

/-- How many values there are after a token, `n` being there before it. -/
def depth (n : ℕ) : Token → ℕ
  | num _ => n + 1
  | op _ => n - 1
  | percent none => max 1 (n - 1)
  | percent (some _) | lparen | rparen => n

/-- Of tokens in postfix order, `n` values being there before them: no percent sign takes part of a value below these. -/
def selfContained : ℕ → List Token → Bool
  | _, [] => true
  | n, t :: ts => !(t.reachesBelow && decide (n ≤ 1)) && selfContained (t.depth n) ts

end Token

namespace Evaluation

section

variable {ε ε' α α' β β' γ : Type} {R : α → α' → Prop} {S : β → β' → Prop}

/-- The same failure, or results that `R` relates. -/
inductive Alike (R : α → α' → Prop) : Except ε α → Except ε α' → Prop
  | ok {a : α} {a' : α'} : R a a' → Alike R (.ok a) (.ok a')
  | error (e : ε) : Alike R (.error e) (.error e)

namespace Alike

variable {r : Except ε α} {r' : Except ε α'}

theorem bind {k : α → Except ε β} {k' : α' → Except ε β'} (h : Alike R r r')
    (hk : ∀ a a', R a a' → Alike S (k a) (k' a')) : Alike S (r >>= k) (r' >>= k') := by
  cases h with
  | ok h => exact hk _ _ h
  | error e => exact .error e

theorem map {f : α → β} {f' : α' → β'} (h : Alike R r r') (hf : ∀ a a', R a a' → S (f a) (f' a')) :
    Alike S (f <$> r) (f' <$> r') := by
  cases h with
  | ok h => exact .ok (hf _ _ h)
  | error e => exact .error e

theorem mapError (h : Alike R r r') (f : ε → ε') : Alike R (r.mapError f) (r'.mapError f) := by
  cases h with
  | ok h => exact .ok h
  | error e => exact .error (f e)

theorem iff_map_eq {f : α → γ} {f' : α' → γ} :
    Alike (fun a a' => f a = f' a') r r' ↔ f <$> r = f' <$> r' := by
  constructor
  · intro h
    cases h with
    | ok h => exact congrArg Except.ok h
    | error e => rfl
  · intro h
    cases r' with
    | error e => rw [map_eq_error_iff.mp h]; exact .error e
    | ok a' =>
      obtain ⟨a, rfl, ha⟩ := map_eq_ok_iff.mp h
      exact .ok ha

end Alike

end

variable {ctx : Context} {stack stack' : List Decimal} {t : Token} {ts : List Token} {d : Decimal}

/-- A numeral puts its value on the stack. -/
theorem step_number {text : String} (h : Numeral.value text = .ok d) (stack : List Decimal) :
    step ctx stack (.number text) = .ok (d :: stack) := by
  rw [Token.number, step.eq_def]
  simp only [h]
  rfl

/-! ### One token -/

/-- What a token does to the stack. -/
inductive Stepped (ctx : Context) : List Decimal → Token → List Decimal → Prop
  | num {n : Numeral} {d : Decimal} {below : List Decimal} :
      Numeral.value n.text = .ok d → Stepped ctx below (.num n) (d :: below)
  | op {o : BinOp} {a b r : Decimal} {below : List Decimal} :
      apply ctx o a b = .ok r → Stepped ctx (b :: a :: below) (.op o) (r :: below)
  /-- A percentage with nothing below stands for itself. -/
  | alone {p f : Decimal} {target : Option BinOp} :
      ctx.div p (.ofNat 100) = .ok f → Stepped ctx [p] (.percent target) [f]
  /-- So does a factor or a divisor. -/
  | fraction {o : BinOp} {p f a : Decimal} {below : List Decimal} : o = .mul ∨ o = .div →
      ctx.div p (.ofNat 100) = .ok f →
      Stepped ctx (p :: a :: below) (.percent (some o)) (f :: a :: below)
  /-- Of a summand a share is taken, and the other summand stays. -/
  | share {o : BinOp} {p f a r : Decimal} {below : List Decimal} : o = .add ∨ o = .sub →
      ctx.div p (.ofNat 100) = .ok f → ctx.mul a f = .ok r →
      Stepped ctx (p :: a :: below) (.percent (some o)) (r :: a :: below)
  /-- An unmarked percentage takes the value below. -/
  | part {p f a r : Decimal} {below : List Decimal} :
      ctx.div p (.ofNat 100) = .ok f → ctx.mul a f = .ok r →
      Stepped ctx (p :: a :: below) (.percent none) (r :: below)

theorem computed_eq_ok_iff {r : Except Signal Decimal} : computed r = .ok d ↔ r = .ok d :=
  mapError_eq_ok_iff

theorem stepped_percent {p f : Decimal} {target : Option BinOp} (hf : ctx.div p (.ofNat 100) = .ok f)
    (h : percentage ctx target f stack = .ok stack') :
    Stepped ctx (p :: stack) (.percent target) stack' := by
  cases stack with
  | nil => cases h; exact .alone hf
  | cons a below =>
    cases target with
    | none =>
      obtain ⟨r, hr, rfl⟩ := map_eq_ok_iff.mp h
      exact .part hf (computed_eq_ok_iff.mp hr)
    | some o =>
      cases o with
      | add | sub =>
        obtain ⟨r, hr, rfl⟩ := map_eq_ok_iff.mp h
        exact .share (by simp) hf (computed_eq_ok_iff.mp hr)
      | mul | div => cases h; exact .fraction (by simp) hf

/-- **What a step that succeeds has done.** -/
theorem step_eq_ok_iff : step ctx stack t = .ok stack' ↔ Stepped ctx stack t stack' := by
  constructor
  · intro h
    cases t with
    | num n =>
      obtain ⟨v, hv, rfl⟩ := map_eq_ok_iff.mp h
      exact .num (mapError_eq_ok_iff.mp hv)
    | op o =>
      rcases stack with _ | ⟨b, _ | ⟨a, below⟩⟩
      · cases h
      · cases h
      · obtain ⟨r, hr, rfl⟩ := map_eq_ok_iff.mp h
        exact .op hr
    | percent target =>
      rcases stack with _ | ⟨p, below⟩
      · cases h
      · obtain ⟨f, hf, h⟩ := bind_eq_ok_iff.mp h
        exact stepped_percent (computed_eq_ok_iff.mp hf) h
    | lparen | rparen => cases h
  · rintro (hv | hr | hf | ⟨ho, hf⟩ | ⟨ho, hf, hr⟩ | ⟨hf, hr⟩)
    · simp [step, hv]
    · simp [step, hr]
    · simp [step, percentage, computed, hf]
    · rcases ho with rfl | rfl <;> simp [step, percentage, computed, hf]
    · rcases ho with rfl | rfl <;> simp [step, percentage, computed, hf, hr]
    · simp [step, percentage, computed, hf, hr]

/-! ### Where a value comes from -/

theorem round_of_div {a b : Decimal} (h : ctx.div a b = .ok d) : ∃ x, ctx.round x = .ok d := by
  rw [Context.div] at h
  split at h
  · cases h
  · split at h
    · exact ⟨_, h⟩
    · exact ⟨_, h⟩

/-- Every operator rounds its result. -/
theorem round_of_apply {o : BinOp} {a b : Decimal} (h : apply ctx o a b = .ok d) :
    ∃ x, ctx.round x = .ok d := by
  cases o with
  | add | sub | mul => exact ⟨_, computed_eq_ok_iff.mp h⟩
  | div =>
    rw [apply] at h
    split at h
    · cases h
    · exact round_of_div (computed_eq_ok_iff.mp h)

theorem step_mem (h : step ctx stack t = .ok stack') (hd : d ∈ stack') :
    d ∈ stack ∨ (∃ n, t = .num n ∧ Numeral.value n.text = .ok d) ∨ ∃ x, ctx.round x = .ok d := by
  -- the value on top is new, and those below it were there
  cases step_eq_ok_iff.mp h with
  | num hv =>
    rcases List.mem_cons.mp hd with rfl | hd
    · exact .inr (.inl ⟨_, rfl, hv⟩)
    · exact .inl hd
  | op hr =>
    rcases List.mem_cons.mp hd with rfl | hd
    · exact .inr (.inr (round_of_apply hr))
    · exact .inl (by simp [hd])
  | alone hf =>
    obtain rfl := List.mem_singleton.mp hd
    exact .inr (.inr (round_of_div hf))
  | fraction _ hf =>
    rcases List.mem_cons.mp hd with rfl | hd
    · exact .inr (.inr (round_of_div hf))
    · exact .inl (List.mem_cons_of_mem _ hd)
  | share _ _ hr =>
    rcases List.mem_cons.mp hd with rfl | hd
    · exact .inr (.inr ⟨_, hr⟩)
    · exact .inl (List.mem_cons_of_mem _ hd)
  | part _ hr =>
    rcases List.mem_cons.mp hd with rfl | hd
    · exact .inr (.inr ⟨_, hr⟩)
    · exact .inl (by simp [hd])

/-- **A value was there before, is that of a numeral, or was rounded.** -/
theorem run_mem (h : run ctx stack ts = .ok stack') (hd : d ∈ stack') :
    d ∈ stack ∨ (∃ n, .num n ∈ ts ∧ Numeral.value n.text = .ok d) ∨ ∃ x, ctx.round x = .ok d := by
  induction ts generalizing stack with
  | nil => cases h; exact .inl hd
  | cons t ts ih =>
    rw [run_cons] at h
    obtain ⟨between, hstep, h⟩ := bind_eq_ok_iff.mp h
    rcases ih h with hd | ⟨n, hn, hv⟩ | hround
    · rcases step_mem hstep hd with hd | ⟨n, rfl, hv⟩ | hround
      · exact .inl hd
      · exact .inr (.inl ⟨n, List.mem_cons_self, hv⟩)
      · exact .inr (.inr hround)
    · exact .inr (.inl ⟨n, List.mem_cons_of_mem _ hn, hv⟩)
    · exact .inr (.inr hround)

/-! ### Only values count -/

/-- Written differently or not, the same number. -/
def SameValue (a b : Decimal) : Prop := a.toRat = b.toRat

theorem alike_computed {r r' : Except Signal Decimal} {x : ℚ} (h : toRat <$> r = ctx.delivered x)
    (h' : toRat <$> r' = ctx.delivered x) : Alike SameValue (computed r) (computed r') :=
  (Alike.iff_map_eq.mpr (h.trans h'.symm)).mapError _

theorem alike_apply (o : BinOp) {a a' b b' : Decimal} (ha : SameValue a a') (hb : SameValue b b') :
    Alike SameValue (apply ctx o a b) (apply ctx o a' b') := by
  have hcases := apply_cases ctx o a' b'
  rw [← ha, ← hb] at hcases
  obtain ⟨hzero, happly⟩ | ⟨hzero, r, happly, hr⟩ := apply_cases ctx o a b
  · obtain ⟨-, happly'⟩ | ⟨hne, -⟩ := hcases
    · rw [happly, happly']
      exact .error _
    · exact absurd hzero hne
  · obtain ⟨heq, -⟩ | ⟨-, r', happly', hr'⟩ := hcases
    · exact absurd heq hzero
    · rw [happly, happly']
      exact alike_computed hr hr'

theorem alike_percentage (target : Option BinOp) {fraction fraction' : Decimal}
    (hfraction : SameValue fraction fraction') (h : List.Forall₂ SameValue stack stack') :
    Alike (List.Forall₂ SameValue) (percentage ctx target fraction stack)
      (percentage ctx target fraction' stack') := by
  cases h with
  | nil => exact .ok (.cons hfraction .nil)
  | cons ha hbelow =>
    have hpart : Alike SameValue (apply ctx .mul _ fraction) (apply ctx .mul _ fraction') :=
      alike_apply .mul ha hfraction
    cases target with
    | none => exact hpart.map fun _ _ h => .cons h hbelow
    | some o =>
      cases o with
      | add | sub => exact hpart.map fun _ _ h => .cons h (.cons ha hbelow)
      | mul | div => exact .ok (.cons hfraction (.cons ha hbelow))

theorem alike_step (t : Token) (h : List.Forall₂ SameValue stack stack') :
    Alike (List.Forall₂ SameValue) (step ctx stack t) (step ctx stack' t) := by
  cases t with
  | num n =>
    rw [step, step]
    cases Numeral.value n.text with
    | error m => exact .error _
    | ok d => exact .ok (.cons rfl h)
  | op o =>
    cases h with
    | nil => exact .error _
    | cons hb h =>
      cases h with
      | nil => exact .error _
      | cons ha hbelow => exact (alike_apply o ha hb).map fun _ _ h => .cons h hbelow
  | percent target =>
    cases h with
    | nil => exact .error _
    | @cons p p' _ _ hp hbelow =>
      have hdiv' := toRat_div_hundred ctx p'
      rw [← hp] at hdiv'
      exact (alike_computed (toRat_div_hundred ctx p) hdiv').bind fun _ _ hfraction =>
        alike_percentage target hfraction hbelow
  | lparen | rparen => exact .error _

/-- **Only the values on the stack count**, not how they are written. -/
theorem alike_run (ts : List Token) (h : List.Forall₂ SameValue stack stack') :
    Alike (List.Forall₂ SameValue) (run ctx stack ts) (run ctx stack' ts) := by
  induction ts generalizing stack stack' with
  | nil => exact .ok h
  | cons t ts ih =>
    rw [run_cons, run_cons]
    exact (alike_step t h).bind fun _ _ => ih

theorem alike_result (h : List.Forall₂ SameValue stack stack') :
    Alike SameValue (result ctx stack) (result ctx stack') := by
  have hleftover := h.length_eq
  cases h with
  | nil => exact .error _
  | @cons v v' _ _ hv hbelow =>
    cases hbelow with
    | nil =>
      have hplus' := Decimal.toRat_plus ctx v'
      rw [← hv] at hplus'
      exact alike_computed (Decimal.toRat_plus ctx v) hplus'
    | @cons u u' below below' =>
      show Alike SameValue (.error (Failure.mistake (.leftover (v :: u :: below).length)))
        (.error (Failure.mistake (.leftover (v' :: u' :: below').length)))
      rw [hleftover]
      exact .error _

/-! ### What lies below -/

/-- How many values there are does not depend on the values. -/
theorem step_length (h : step ctx stack t = .ok stack') : stack'.length = t.depth stack.length := by
  cases step_eq_ok_iff.mp h with
  | num | op | fraction | share => rfl
  | @alone _ _ target => cases target <;> rfl
  | part => simp [Token.depth]

/-- A token leaves alone what lies below the values it takes. -/
theorem step_append_stack (hbelow : (t.reachesBelow && decide (stack.length ≤ 1)) = false)
    (h : step ctx stack t = .ok stack') (below : List Decimal) :
    step ctx (stack ++ below) t = .ok (stack' ++ below) := by
  refine step_eq_ok_iff.mpr ?_
  cases step_eq_ok_iff.mp h with
  | num hv => exact .num hv
  | op hr => exact .op hr
  | @alone _ _ target hf =>
    -- nothing else is there, so the percentage has to be one that stands for itself
    have htarget : ∃ o, target = some o ∧ (o = .mul ∨ o = .div) := by
      rcases target with _ | _ | _ | _ | _ <;> simp_all [Token.reachesBelow]
    obtain ⟨o, rfl, ho⟩ := htarget
    cases below with
    | nil => exact .alone hf
    | cons a below => exact .fraction ho hf
  | fraction ho hf => exact .fraction ho hf
  | share ho hf hr => exact .share ho hf hr
  | part hf hr => exact .part hf hr

/-- **What lies below is left alone**, if the tokens are self-contained. -/
theorem run_append_stack (hts : Token.selfContained stack.length ts = true)
    (h : run ctx stack ts = .ok stack') (below : List Decimal) :
    run ctx (stack ++ below) ts = .ok (stack' ++ below) := by
  induction ts generalizing stack with
  | nil => cases h; rfl
  | cons t ts ih =>
    rw [Token.selfContained, Bool.and_eq_true, Bool.not_eq_true'] at hts
    rw [run_cons] at h ⊢
    obtain ⟨between, hstep, h⟩ := bind_eq_ok_iff.mp h
    rw [step_append_stack hts.1 hstep, ok_bind]
    exact ih (by rw [step_length hstep]; exact hts.2) h

/-- Without a number nothing can be run. -/
theorem run_numberless (hts : ∀ t ∈ ts, t.isNumber = false) :
    ts = [] ∨ ∃ m, run ctx [] ts = .error (.mistake m) := by
  cases ts with
  | nil => exact .inl rfl
  | cons t ts =>
    refine .inr ?_
    cases t with
    | num n => exact absurd (hts _ List.mem_cons_self) (by simp [Token.isNumber, Token.kind])
    | op _ | percent _ | lparen | rparen => exact ⟨_, rfl⟩

end Evaluation

end Reckoner
