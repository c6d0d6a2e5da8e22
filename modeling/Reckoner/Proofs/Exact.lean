import Reckoner.Proofs.Calculator
import Reckoner.Proofs.Evaluation
import Reckoner.Proofs.Grammar.Operations
import Reckoner.Proofs.Numeral
import Reckoner.Proofs.Token.Scan

/-!
# Exact — agreement with rational arithmetic

The same derivation tree is computed twice: in the decimals of a context, and in rational numbers, where every result is `rounded` to the digits of the context or left `exact`.  `valueOf_eq_rational`: from any text that writes a percent-free expression the calculator gets the value of the rational computation with rounded results, as long as no magnitude leaves the normal range (`InRange`).  Where no result needs more digits than the context keeps, that is the exact value.
-/

namespace Reckoner

open Decimal (toRat Normal Context)
open Evaluation (ok_bind mapError_ok)
open Rational (significant HasDigits)

/-- The exact result of an operation. -/
def Operation.exact (x : Operation ℚ) : ℚ := x.op.exact x.left x.right

namespace Arithmetic

/-- The rational numbers.  Numerals denote what they denote, and of an exact result `deliver` is kept. -/
def rationals (deliver : ℚ → ℚ) : Arithmetic ℚ where
  numeral text := .ok (Numeral.denoted text.toList)
  hundred := 100
  apply o a b :=
    if o = .div ∧ b = 0 then .error (.mistake .divisionByZero)
    else .ok (deliver (Operation.exact ⟨o, a, b⟩))

/-- The rational numbers as they are. -/
def exact : Arithmetic ℚ := rationals id

/-- The rational numbers, every result rounded to `p` significant digits, a half away from zero. -/
def rounded (p : ℕ) : Arithmetic ℚ := rationals (significant p)

/-! ### One operation -/

theorem map_computed {r : Except Decimal.Signal Decimal} {x : ℚ} (h : toRat <$> r = .ok x) :
    toRat <$> Evaluation.computed r = .ok x := by
  cases r with
  | error s => cases h
  | ok d => exact congrArg Except.ok (Except.ok.inj h)

/-- In the normal range the decimals deliver the exact result, rounded once. -/
theorem map_perform_decimals {ctx : Context} {x : Operation Decimal}
    (h : Normal (significant ctx.precision (x.map toRat).exact)) :
    toRat <$> (decimals ctx).perform x = (rounded ctx.precision).perform (x.map toRat) := by
  have hdelivered := Decimal.delivered_eq_significant h
  simp only [perform, decimals, rounded, rationals, Operation.map]
  obtain ⟨hzero, happly⟩ | ⟨hzero, r, happly, hr⟩ := Evaluation.apply_cases ctx x.op x.left x.right
  · rw [happly, if_pos hzero]
    rfl
  · rw [happly, if_neg hzero]
    exact map_computed (hr.trans hdelivered)

/-- The decimals divide by zero where the divisor is zero, and nowhere else. -/
theorem perform_decimals_eq_divisionByZero {ctx : Context} {x : Operation Decimal} :
    (decimals ctx).perform x = .error (.mistake .divisionByZero) ↔
      x.op = .div ∧ x.right.toRat = 0 := by
  obtain ⟨hzero, happly⟩ | ⟨hzero, r, happly, -⟩ := Evaluation.apply_cases ctx x.op x.left x.right
  · exact iff_of_true happly hzero
  · refine iff_of_false (fun h => ?_) hzero
    exact Evaluation.computed_ne_mistake r _ (happly.symm.trans h)

/-- A result that needs no rounding is not rounded. -/
theorem perform_exact {p : ℕ} {x : Operation ℚ} (h : HasDigits p x.exact) :
    id <$> exact.perform x = (rounded p).perform (x.map id) := by
  have heq := Rational.significant_eq_self h
  simp only [perform, exact, rounded, rationals, Operation.map, id_map, id]
  rw [heq]

end Arithmetic

namespace Phrase

/-! ### Expressions as texts -/

theorem isChain_around (ts : List Token) {us : List Token} {t : Token} (ht : t.isNumber = false)
    (hts : ts.IsChain fun t u => ¬ (t.isNumber = true ∧ u.isNumber = true))
    (hus : us.IsChain fun t u => ¬ (t.isNumber = true ∧ u.isNumber = true)) :
    (ts ++ t :: us).IsChain fun t u => ¬ (t.isNumber = true ∧ u.isNumber = true) := by
  refine List.isChain_append.mpr ⟨hts, List.isChain_cons.mpr ⟨by simp [ht], hus⟩, ?_⟩
  rintro u - v hv
  obtain rfl : t = v := by simpa using hv
  simp [ht]

/-- Between two numbers stands an operator. -/
theorem isChain_tokens {k : Tier} {n : Next} (t : Phrase k n) :
    t.tokens.IsChain fun t u => ¬ (t.isNumber = true ∧ u.isNumber = true) := by
  induction t with
  | numeral text => exact List.isChain_singleton _
  | group e ih =>
    exact isChain_around [] rfl List.isChain_nil (isChain_around _ rfl ih List.isChain_nil)
  | ofAtom _ ih | ofSigned _ ih | ofPercentage _ ih | ofProduct _ ih => exact ih
  | negation u ih => exact isChain_around [] rfl List.isChain_nil ih
  | percent q ih => exact isChain_around _ rfl ih List.isChain_nil
  | share q u ihl ihr | product _ _ _ _ ihl ihr | sum _ _ _ _ ihl ihr =>
    exact isChain_around _ rfl ihl ihr

theorem unmarked_tokens {k : Tier} {n : Next} (t : Phrase k n) :
    t.tokens.map Token.unmarked = t.tokens := by
  induction t with
  | numeral | group | negation | percent => simp_all [tokens, Token.unmarked, Token.number]
  | ofAtom _ ih | ofSigned _ ih | ofPercentage _ ih | ofProduct _ ih => exact ih
  | share | product | sum => simp_all [tokens, Token.unmarked]

/-- An expression with well-formed numerals can be read back from its text. -/
theorem legible_tokens {k : Tier} {n : Next} (t : Phrase k n)
    (hn : ∀ text, .number text ∈ t.tokens → Numeral.WellFormed text.toList) :
    Token.Legible t.tokens := by
  refine ⟨fun u hu => ?_, t.isChain_tokens⟩
  rw [← unmarked_tokens] at hu
  obtain ⟨v, hv, rfl⟩ := List.mem_map.mp hu
  cases v with
  | num m =>
    have hm := hn m.text (by rw [← unmarked_tokens]; exact List.mem_map_of_mem hv)
    exact ⟨⟨hm.ne_nil, hm.1⟩, rfl⟩
  | percent => rfl
  | op | lparen | rparen => trivial

/-- A text that writes an expression without percent signs has its meaning, rounded. -/
theorem valueOf_eq {ctx : Context} {s : String} {e : Infix} (hs : Token.Writes s e.tokens)
    (hp : .percent none ∉ e.tokens)
    (hn : ∀ text, .number text ∈ e.tokens → Numeral.WellFormed text.toList) :
    Calculator.valueOf ctx s
      = (e.meaning (.decimals ctx) none >>= fun v => Evaluation.computed (ctx.plus v)) := by
  rw [Calculator.valueOf, Token.scan_of_writes hs (e.legible_tokens hn), mapError_ok, ok_bind,
    Token.toPostfix, e.toPostfixFrom_tokens, mapError_ok, ok_bind]
  exact e.evaluate_postorder ctx (e.anchored_of_percent_notMem hp true none)

/-! ### The whole expression -/

/-- No result that is rounded, of an operation or at the end, leaves the range of normal numbers. -/
structure InRange (ctx : Context) (e : Infix) : Prop where
  operations : ∀ x ∈ e.operations (.decimals ctx) none,
    Normal (significant ctx.precision (x.map toRat).exact)
  value : ∀ v, e.meaning (.decimals ctx) none = .ok v →
    Normal (significant ctx.precision v.toRat)

variable {ctx : Context} {s : String} {e : Infix}

theorem map_numeral (ctx : Context) {text : String} (h : Numeral.WellFormed text.toList) (p : ℕ) :
    toRat <$> (Arithmetic.decimals ctx).numeral text = (Arithmetic.rounded p).numeral text := by
  have hv := Numeral.toRat_value h
  simp only [Arithmetic.decimals, Arithmetic.rounded, Arithmetic.rationals]
  cases hd : Numeral.value text with
  | error m => rw [hd] at hv; cases hv
  | ok d => rw [hd] at hv; exact congrArg Except.ok (Except.ok.inj hv)

/-- The decimals compute the rational meaning with rounded results. -/
theorem toRat_meaning (hn : ∀ text, .number text ∈ e.tokens → Numeral.WellFormed text.toList)
    (hr : e.InRange ctx) :
    toRat <$> e.meaning (.decimals ctx) none = e.meaning (.rounded ctx.precision) none :=
  e.map_meaning (map_numeral ctx (by decide) _) (Decimal.toRat_ofNat 100)
    (fun text h => map_numeral ctx (hn text h) _) none
    fun _ hx => Arithmetic.map_perform_decimals (hr.operations _ hx)

/-- The meaning fails with a division by zero if a divisor that is come to is zero. -/
theorem meaning_eq_divisionByZero
    (hn : ∀ text, .number text ∈ e.tokens → Numeral.WellFormed text.toList) :
    e.meaning (.decimals ctx) none = .error (.mistake .divisionByZero) ↔
      ∃ x ∈ e.operations (.decimals ctx) none, x.op = .div ∧ x.right.toRat = 0 := by
  have hvalue : ∀ text, .number text ∈ e.tokens →
      ∃ a, (Arithmetic.decimals ctx).numeral text = .ok a := fun text h => by
    have hv := map_numeral ctx (hn text h) 0
    cases hd : (Arithmetic.decimals ctx).numeral text with
    | error f => rw [hd] at hv; cases hv
    | ok a => exact ⟨a, rfl⟩
  have hfails := e.meaning_eq_error_iff (A := .decimals ctx) (f := .mistake .divisionByZero)
    ⟨.ofNat 0, rfl⟩ hvalue none
  simpa only [Arithmetic.FailsBy, Arithmetic.perform_decimals_eq_divisionByZero] using hfails

/-- Rounded and exact meaning agree where no operation needs more digits. -/
theorem meaning_exact {p : ℕ} (e : Infix)
    (h : ∀ x ∈ e.operations .exact none, HasDigits p x.exact) :
    e.meaning .exact none = e.meaning (.rounded p) none := by
  have := e.map_meaning (A := .exact) (B := .rounded p) (f := id) rfl rfl (fun _ _ => rfl) none
    fun x hx => Arithmetic.perform_exact (h x hx)
  rwa [id_map] at this

/-- **Agreement with rational arithmetic, from text to value.**  Numerals enter exactly, every operation delivers its exact result on the values of its operands rounded once to the digits of the context, the evaluation fails exactly if some divisor it comes to is zero, and where nothing needs more digits the value is exact. -/
theorem valueOf_eq_rational (hs : Token.Writes s e.tokens) (hp : .percent none ∉ e.tokens)
    (hn : ∀ text, .number text ∈ e.tokens → Numeral.WellFormed text.toList)
    (hr : e.InRange ctx) :
    toRat <$> Calculator.valueOf ctx s
        = significant ctx.precision <$> e.meaning (.rounded ctx.precision) none ∧
      (∀ text, .number text ∈ e.tokens →
        toRat <$> Numeral.value text = .ok (Numeral.denoted text.toList)) ∧
      (∀ x ∈ e.operations (.decimals ctx) none,
        toRat <$> Evaluation.apply ctx x.op x.left x.right
          = if x.op = .div ∧ x.right.toRat = 0 then .error (.mistake .divisionByZero)
            else .ok (significant ctx.precision (x.map toRat).exact)) ∧
      (Calculator.valueOf ctx s = .error (.mistake .divisionByZero) ↔
        ∃ x ∈ e.operations (.decimals ctx) none, x.op = .div ∧ x.right.toRat = 0) ∧
      ((∀ x ∈ e.operations .exact none, HasDigits ctx.precision x.exact) →
        (∀ v, e.meaning .exact none = .ok v → HasDigits ctx.precision v) →
          toRat <$> Calculator.valueOf ctx s = e.meaning .exact none) := by
  have hvalue : toRat <$> Calculator.valueOf ctx s
      = significant ctx.precision <$> e.meaning (.rounded ctx.precision) none := by
    rw [valueOf_eq hs hp hn, ← toRat_meaning hn hr, map_bind]
    cases hv : e.meaning (.decimals ctx) none with
    | error f => rfl
    | ok v =>
      refine Arithmetic.map_computed ?_
      rw [Decimal.toRat_plus, Decimal.delivered_eq_significant (hr.value v hv)]
  refine ⟨hvalue, fun text h => Numeral.toRat_value (hn text h),
    fun x hx => Arithmetic.map_perform_decimals (hr.operations x hx), ?_, fun hops hv => ?_⟩
  · rw [valueOf_eq hs hp hn, ← meaning_eq_divisionByZero hn]
    cases e.meaning (.decimals ctx) none with
    | error f => exact Iff.rfl
    | ok v => exact iff_of_false (Evaluation.computed_ne_mistake _ _) nofun
  · rw [hvalue, ← meaning_exact e hops]
    cases h : e.meaning .exact none with
    | error f => rfl
    | ok v => exact congrArg Except.ok (Rational.significant_eq_self (hv v h))

/-- `(1.5 + 2) × -3 ÷ 4` -/
def scaled : Infix :=
  .ofProduct (.product .div BinOp.precedence_div
    (.product .mul BinOp.precedence_mul
      (.ofPercentage (.ofSigned (.ofAtom (.group (.sum .add BinOp.precedence_add
        (.ofProduct (.ofPercentage (.ofSigned (.ofAtom (.numeral "1.5")))))
        (.ofPercentage (.ofSigned (.ofAtom (.numeral "2")))))))))
      (.ofSigned (.negation (.ofAtom (.numeral "3")))))
    (.ofSigned (.ofAtom (.numeral "4"))))

theorem valueOf_scaled :
    Token.Writes "(1.5 + 2) * -3 /4" scaled.tokens ∧ .percent none ∉ scaled.tokens ∧
      (∀ text, .number text ∈ scaled.tokens → Numeral.WellFormed text.toList) ∧
      scaled.InRange { precision := 4 } ∧
      toRat <$> Calculator.valueOf { precision := 4 } "(1.5 + 2) * -3 /4" = .ok (-21 / 8) := by
  have hs : Token.Writes "(1.5 + 2) * -3 /4" scaled.tokens := by decide
  have hp : .percent none ∉ scaled.tokens := by decide
  have hn : ∀ text, .number text ∈ scaled.tokens → Numeral.WellFormed text.toList := by
    intro text h
    obtain rfl | rfl | rfl | rfl : text = "1.5" ∨ text = "2" ∨ text = "3" ∨ text = "4" := by
      simpa [scaled, tokens, Token.number] using h
    all_goals decide
  have hsmall : ∀ x : ℚ, 1 ≤ |x| → |x| ≤ 100 → Normal (significant 4 x) := fun x hlow hhigh => by
    refine Decimal.normal_significant (by decide) (le_trans ?_ hlow) (hhigh.trans_lt ?_)
    · exact (Rational.ten_zpow_le (show Decimal.minExponent ≤ 0 by decide)).trans_eq (zpow_zero _)
    · calc (100 : ℚ) = 10 ^ (2 : ℤ) := by norm_num
        _ < 10 ^ Decimal.maxExponent := zpow_lt_zpow_right₀ (by norm_num) (by decide)
  have hops : scaled.operations (.decimals { precision := 4 }) none =
      [⟨.add, ⟨false, 15, -1⟩, ⟨false, 2, 0⟩⟩, ⟨.sub, ⟨false, 0, 0⟩, ⟨false, 3, 0⟩⟩,
        ⟨.mul, ⟨false, 35, -1⟩, ⟨true, 3, 0⟩⟩, ⟨.div, ⟨true, 105, -1⟩, ⟨false, 4, 0⟩⟩] := by
    decide +kernel
  have hexact : scaled.operations .exact none =
      [⟨.add, 3 / 2, 2⟩, ⟨.sub, 0, 3⟩, ⟨.mul, 7 / 2, -3⟩, ⟨.div, -21 / 2, 4⟩] := by decide +kernel
  have hvalue : scaled.meaning .exact none = .ok (-21 / 8) := by decide +kernel
  have hr : scaled.InRange { precision := 4 } := by
    refine ⟨?_, ?_⟩
    · rw [hops]
      simp only [List.forall_mem_cons]
      refine ⟨hsmall _ ?_ ?_, hsmall _ ?_ ?_, hsmall _ ?_ ?_, hsmall _ ?_ ?_, by simp⟩
      all_goals norm_num [Operation.exact, BinOp.exact, Operation.map, toRat, Decimal.signum]
    · rintro v hv
      obtain rfl : (⟨true, 2625, -3⟩ : Decimal) = v := Except.ok.inj hv
      refine hsmall _ ?_ ?_
      all_goals norm_num [toRat, Decimal.signum]
  obtain ⟨-, -, -, -, hagree⟩ := valueOf_eq_rational hs hp hn hr
  refine ⟨hs, hp, hn, hr, (hagree ?_ ?_).trans hvalue⟩
  · rw [hexact]
    simp only [List.forall_mem_cons]
    refine ⟨⟨35, -1, ?_, ?_⟩, ⟨-3, 0, ?_, ?_⟩, ⟨-105, -1, ?_, ?_⟩, ⟨-2625, -3, ?_, ?_⟩, by simp⟩
    all_goals norm_num [Operation.exact, BinOp.exact]
  · rintro v hv
    rw [hvalue] at hv
    obtain rfl := Except.ok.inj hv
    exact ⟨-2625, -3, by norm_num, by norm_num⟩

end Phrase

end Reckoner
