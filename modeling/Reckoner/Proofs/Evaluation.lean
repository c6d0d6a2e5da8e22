import Reckoner.Evaluation
import Reckoner.Proofs.Decimal.Arithmetic

/-!
# Evaluation — the only signal is an overflow

`results` lists the exact rational results that a token asks the arithmetic for.  A run ends in a signal exactly if some token that it comes to asks for a result that is too great, and the signal is an overflow (`run_eq_signal_iff`).  In particular no other signal of the arithmetic is ever raised: a divisor of value zero is caught before the division.
-/

namespace Reckoner

open Decimal (Context Signal toRat)

/-- The exact result of an operator. -/
def BinOp.exact : BinOp → ℚ → ℚ → ℚ
  | add, x, y => x + y
  | sub, x, y => x - y
  | mul, x, y => x * y
  | div, x, y => x / y

namespace Evaluation

/-! ### One operator -/

/-- An operator divides by zero or delivers its exact result. -/
theorem apply_cases (ctx : Context) (o : BinOp) (a b : Decimal) :
    (o = .div ∧ b.toRat = 0) ∧ apply ctx o a b = .error (.mistake .divisionByZero) ∨
      ¬ (o = .div ∧ b.toRat = 0) ∧ ∃ r, apply ctx o a b = computed r ∧
        toRat <$> r = ctx.delivered (o.exact a.toRat b.toRat) := by
  cases o with
  | add => exact .inr ⟨by simp, _, rfl, Decimal.toRat_add ctx a b⟩
  | sub => exact .inr ⟨by simp, _, rfl, Decimal.toRat_sub ctx a b⟩
  | mul => exact .inr ⟨by simp, _, rfl, Decimal.toRat_mul ctx a b⟩
  | div =>
    by_cases hb : b.toRat = 0
    · exact .inl ⟨⟨rfl, hb⟩, if_pos (Decimal.toRat_eq_zero_iff_isZero.mp hb)⟩
    · refine .inr ⟨by simp [hb], _, if_neg ?_, Decimal.toRat_div ctx a b hb⟩
      exact mt Decimal.toRat_eq_zero_iff_isZero.mpr hb

theorem computed_ne_mistake (r : Except Signal Decimal) (m : Mistake) :
    computed r ≠ .error (.mistake m) := by
  cases r <;> exact nofun

/-! ### Signals -/

/-- The computation ends in a signal exactly if one of the exact results `xs` is too great, and the signal is an overflow. -/
def Signals {α : Type} (ctx : Context) (r : Except Failure α) (xs : List ℚ) : Prop :=
  ∀ s, r = .error (.signal s) ↔ s = .overflow ∧ ∃ x ∈ xs, ctx.TooGreat x

namespace Signals

variable {ctx : Context} {α β : Type}

theorem ok (a : α) : Signals ctx (.ok a) [] := fun s => by simp

theorem mistake (m : Mistake) : Signals ctx (.error (.mistake m) : Except Failure α) [] :=
  fun s => by simp

theorem computed {r : Except Signal Decimal} {x : ℚ} (h : toRat <$> r = ctx.delivered x) :
    Signals ctx (computed r) [x] := by
  intro s
  simp [Evaluation.computed, mapError_eq_error_iff, Decimal.eq_error_iff_of_delivered h]

theorem map {r : Except Failure α} {xs : List ℚ} (f : α → β) (h : Signals ctx r xs) :
    Signals ctx (f <$> r) xs := by
  intro s
  rw [map_eq_error_iff]
  exact h s

/-- A computation signals in its first step, or in the rest of it if there is a value to go on with. -/
theorem bind {r : Except Failure α} {k : α → Except Failure β} {xs ys : List ℚ}
    (hr : Signals ctx r xs) (hm : ∀ m, r ≠ .error (.mistake m))
    (hk : ∀ a, r = .ok a → Signals ctx (k a) ys) : Signals ctx (r >>= k) (xs ++ ys) := by
  intro s
  rcases r with (m | s') | a
  · exact absurd rfl (hm m)
  · obtain ⟨rfl, x, hx, hgreat⟩ := (hr s').mp rfl
    refine ⟨fun h => ?_, fun ⟨h, _⟩ => by rw [h]; rfl⟩
    cases h
    exact ⟨rfl, x, List.mem_append_left _ hx, hgreat⟩
  · have hno : ¬ ∃ x ∈ xs, ctx.TooGreat x := fun h => by cases (hr .overflow).mpr ⟨rfl, h⟩
    refine Iff.trans (hk a rfl s) (and_congr_right fun _ => ⟨?_, ?_⟩)
    · rintro ⟨x, hx, hgreat⟩
      exact ⟨x, List.mem_append_right _ hx, hgreat⟩
    · rintro ⟨x, hx, hgreat⟩
      exact ⟨x, (List.mem_append.mp hx).resolve_left fun h => hno ⟨x, h, hgreat⟩, hgreat⟩

end Signals

/-! ### One token -/

/-- The exact results a token asks for, the stack being `stack`.  A quotient by zero is never asked for; here it counts as zero. -/
def results (ctx : Context) (stack : List Decimal) : Token → List ℚ
  | .num _ | .lparen | .rparen => []
  | .op o =>
    match stack with
    | b :: a :: _ => [o.exact a.toRat b.toRat]
    | _ => []
  | .percent target =>
    match stack with
    | [] => []
    | p :: below => p.toRat / 100 ::
      match target, below with
      | _, [] | some .mul, _ | some .div, _ => []
      | _, a :: _ => [a.toRat * ctx.rounded (p.toRat / 100)]

variable {ctx : Context} {stack : List Decimal}

theorem signals_apply (o : BinOp) (a b : Decimal) :
    Signals ctx (apply ctx o a b) [o.exact a.toRat b.toRat] := by
  obtain ⟨⟨rfl, hb⟩, happly⟩ | ⟨-, r, happly, hr⟩ := apply_cases ctx o a b
  · rw [happly, hb, BinOp.exact, div_zero]
    intro s
    simp [Decimal.not_tooGreat_zero]
  · rw [happly]
    exact .computed hr

theorem toRat_div_hundred (ctx : Context) (p : Decimal) :
    toRat <$> ctx.div p (.ofNat 100) = ctx.delivered (p.toRat / 100) := by
  have h := Decimal.toRat_div ctx p (.ofNat 100) (by norm_num)
  simpa using h

/-- **A step signals an overflow** exactly if the token asks for a result that is too great. -/
theorem signals_step (ctx : Context) (stack : List Decimal) (t : Token) :
    Signals ctx (step ctx stack t) (results ctx stack t) := by
  cases t with
  | num n =>
    intro s
    rw [step]
    cases Numeral.value n.text <;> simp [results]
  | lparen | rparen => exact .mistake _
  | op o =>
    rcases stack with _ | ⟨b, _ | ⟨a, below⟩⟩
    · exact .mistake _
    · exact .mistake _
    · exact (signals_apply o a b).map _
  | percent target =>
    rcases stack with _ | ⟨p, below⟩
    · exact .mistake _
    · have hdiv := toRat_div_hundred ctx p
      refine (Signals.computed hdiv).bind (computed_ne_mistake _) fun fraction hfraction => ?_
      -- the fraction is that of the exact quotient, rounded
      have hvalue : fraction.toRat = ctx.rounded (p.toRat / 100) := by
        obtain ⟨hr, -⟩ | ⟨d, hr, hd, -⟩ := Decimal.delivered_cases hdiv
        · rw [hr] at hfraction; cases hfraction
        · rw [hr] at hfraction; cases hfraction; exact hd
      have hmul := fun a : Decimal => Decimal.toRat_mul ctx a fraction
      simp only [hvalue] at hmul
      rcases below with _ | ⟨a, below⟩
      · cases target with
        | none => exact .ok _
        | some o => cases o <;> exact .ok _
      · cases target with
        | none => exact (Signals.computed (hmul a)).map _
        | some o =>
          cases o with
          | add | sub => exact (Signals.computed (hmul a)).map _
          | mul | div => exact .ok _

/-! ### A run -/

/-- Some token that is come to asks for a result that is too great. -/
def Exceeds (ctx : Context) (stack : List Decimal) (ts : List Token) : Prop :=
  ∃ done t rest stack', ts = done ++ t :: rest ∧ run ctx stack done = .ok stack' ∧
    ∃ x ∈ results ctx stack' t, ctx.TooGreat x

theorem exceeds_cons {t : Token} {ts : List Token} :
    Exceeds ctx stack (t :: ts) ↔ (∃ x ∈ results ctx stack t, ctx.TooGreat x) ∨
      ∃ stack', step ctx stack t = .ok stack' ∧ Exceeds ctx stack' ts := by
  constructor
  · rintro ⟨_ | ⟨u, done⟩, v, rest, stack', hts, hrun, hgreat⟩
    · cases hts
      cases hrun
      exact .inl hgreat
    · cases hts
      rw [run_cons] at hrun
      cases hstep : step ctx stack t with
      | error f => rw [hstep] at hrun; cases hrun
      | ok stack'' =>
        rw [hstep] at hrun
        exact .inr ⟨stack'', rfl, done, v, rest, stack', rfl, hrun, hgreat⟩
  · rintro (hgreat | ⟨stack'', hstep, done, v, rest, stack', rfl, hrun, hgreat⟩)
    · exact ⟨[], t, ts, stack, rfl, rfl, hgreat⟩
    · refine ⟨t :: done, v, rest, stack', rfl, ?_, hgreat⟩
      rw [run_cons, hstep]
      exact hrun

/-- **The only signal is an overflow**, and it is raised exactly if a result is too great. -/
theorem run_eq_signal_iff {ts : List Token} {s : Signal} :
    run ctx stack ts = .error (.signal s) ↔ s = .overflow ∧ Exceeds ctx stack ts := by
  induction ts generalizing stack with
  | nil =>
    refine iff_of_false nofun ?_
    rintro ⟨-, done, t, rest, _, hts, -⟩
    cases done <;> cases hts
  | cons t ts ih =>
    rw [run_cons, bind_eq_error_iff, exceeds_cons, signals_step ctx stack t s, and_or_left]
    refine or_congr_right ?_
    simp only [ih]
    constructor
    · rintro ⟨stack', hstep, rfl, hexceeds⟩
      exact ⟨rfl, stack', hstep, hexceeds⟩
    · rintro ⟨rfl, stack', hstep, hexceeds⟩
      exact ⟨stack', hstep, rfl, hexceeds⟩

theorem result_eq_signal_iff {s : Signal} : ∀ {values : List Decimal},
    result ctx values = .error (.signal s) ↔
      s = .overflow ∧ ∃ v, values = [v] ∧ ctx.TooGreat v.toRat
  | [] | _ :: _ :: _ => by simp [result]
  | [v] => by simpa [result] using Signals.computed (Decimal.toRat_plus ctx v) s

/-- An evaluation signals in its run, or when it rounds the one value left. -/
theorem evaluate_eq_signal_iff {ts : List Token} {s : Signal} :
    evaluate ctx ts = .error (.signal s) ↔ s = .overflow ∧
      (Exceeds ctx [] ts ∨ ∃ v, run ctx [] ts = .ok [v] ∧ ctx.TooGreat v.toRat) := by
  rw [evaluate, bind_eq_error_iff, run_eq_signal_iff, and_or_left]
  refine or_congr_right ?_
  simp only [result_eq_signal_iff]
  constructor
  · rintro ⟨_, hrun, rfl, v, rfl, hgreat⟩
    exact ⟨rfl, v, hrun, hgreat⟩
  · rintro ⟨rfl, v, hrun, hgreat⟩
    exact ⟨[v], hrun, rfl, v, rfl, hgreat⟩

end Evaluation

end Reckoner
