import Reckoner.Proofs.Calculator.Written
import Reckoner.Proofs.Decimal.Growth
import Reckoner.Proofs.Overflow
import Reckoner.Proofs.Token.Reading

/-!
# Calculator — growth is linear

Every token adds to the places around the point that a value may span: a numeral as many as it has further digits, an operation two more than the digits kept.  So the values on a stack span no more than the tokens they were computed from are worth, and each token is spent once (`Evaluation.Affords`).  Putting tokens in order costs nothing, and each is paid for by the characters that write it (`Token.totalCost_le_length`).  Hence a text of `n` characters whose `n (p + 2)` places lie within the range of exponents neither overflows nor underflows, where `p` digits are kept: `growth`.

A percent sign that takes a share of a summand leaves the summand where it is.  What that is worth would be spent twice, and growth is exponential then (`run_squares`); texts with such percent signs are left out (`Shareless`).
-/

namespace Reckoner

open Decimal (Context toRat Normal)
open Evaluation (map_eq_ok_iff bind_eq_ok_iff ok_bind)
open Rational (Spans Settles Whole significant)

/-! ### What tokens cost -/

namespace Token

variable {b : Before} {w w' : List Pending} {t : Token} {ts out : List Token}

/-- A digit more than one, or an operation. -/
def cost : Token → ℕ
  | num n => n.text.length - 1
  | op _ | percent _ => 1
  | lparen | rparen => 0

def totalCost (ts : List Token) : ℕ := (ts.map cost).sum

@[simp] theorem totalCost_nil : totalCost [] = 0 := rfl

@[simp] theorem totalCost_cons (t : Token) (ts : List Token) : totalCost (t :: ts) = t.cost + totalCost ts := by
  simp [totalCost]

@[simp] theorem totalCost_append (ts us : List Token) : totalCost (ts ++ us) = totalCost ts + totalCost us := by
  simp [totalCost]

/-- Nothing is lost when some of what waits is released. -/
theorem totalCost_takeWhile_dropWhile (q : Pending → Bool) (w : List Pending) :
    totalCost ((w.takeWhile q).map Pending.token) + totalCost ((w.dropWhile q).map Pending.token)
      = totalCost (w.map Pending.token) := by
  rw [← totalCost_append, ← List.map_append, List.takeWhile_append_dropWhile]

theorem totalCost_advance {ends : Bool} (h : advance b w ends t = some (out, w')) :
    totalCost out + totalCost (w'.map Pending.token) = totalCost (w.map Pending.token) + t.cost := by
  cases t with
  | num n | lparen => cases h; simp [Pending.token, cost, Nat.add_comm]
  | op o =>
    rw [advance] at h
    split at h
    · cases h
      have hzero : (number "0").cost = 0 := by decide
      simp only [List.map_cons, totalCost_cons, totalCost_nil, hzero]
      simp only [Pending.token, cost]
      omega
    · cases h
      have := totalCost_takeWhile_dropWhile (o.precedence ≤ ·.power) w
      simp only [List.map_cons, totalCost_cons, Pending.token, cost]
      omega
  | percent target =>
    cases h
    have := totalCost_takeWhile_dropWhile (3 ≤ ·.power) w
    simp only [List.map_cons, totalCost_cons, Pending.token, cost]
    omega
  | rparen =>
    have hsplit := totalCost_takeWhile_dropWhile (· ≠ .group) w
    rw [advance] at h
    cases hkept : w.dropWhile (· ≠ .group) with
    | nil => rw [hkept] at h; cases h
    | cons q kept =>
      rw [hkept] at h hsplit
      cases h
      obtain rfl := eq_group_of_dropWhile hkept
      simpa [Pending.token, cost] using hsplit

/-- Putting tokens in order costs nothing. -/
theorem totalCost_toPostfixFrom (h : toPostfixFrom b w ts = .ok out) :
    totalCost out = totalCost (w.map Pending.token) + totalCost ts := by
  induction ts generalizing b w out with
  | nil =>
    obtain ⟨-, rfl⟩ := toPostfixFrom_nil_eq_ok_iff.mp h
    rfl
  | cons t ts ih =>
    obtain ⟨front, w', rest, hstep, hts, rfl⟩ := toPostfixFrom_cons_eq_ok_iff.mp h
    have := totalCost_advance hstep
    have := ih hts
    simp only [totalCost_append, totalCost_cons]
    omega

theorem cost_le_length (t : Token) : t.cost ≤ t.text.toList.length := by
  cases t with
  | num n =>
    rw [text, String.length_toList]
    exact Nat.sub_le _ _
  | op o => cases o <;> decide
  | percent _ => exact (show 1 ≤ "%".toList.length by decide)
  | lparen | rparen => exact Nat.zero_le _

theorem totalCost_le_length_written (ts : List Token) : totalCost ts ≤ (written ts).length := by
  induction ts with
  | nil => exact le_rfl
  | cons t ts ih =>
    have := cost_le_length t
    rw [totalCost_cons, written, List.flatMap_cons, List.length_append]
    exact Nat.add_le_add this ih

/-- **A text pays for its tokens** with its characters. -/
theorem totalCost_le_length {s : String} {rpn : List Token} (hscan : scan s = .ok ts)
    (hrpn : toPostfix ts = .ok rpn) : totalCost rpn ≤ s.length := by
  have hsigns : (Expression.signs s).length ≤ s.length := by
    rw [Expression.signs, List.length_map, ← String.length_toList]
    exact List.length_filter_le _ _
  have hcost : totalCost rpn = totalCost ts := by
    simpa using totalCost_toPostfixFrom (w := []) hrpn
  rw [hcost]
  exact (totalCost_le_length_written ts).trans ((congrArg List.length (writes_of_scan hscan)).ge.trans hsigns)

/-- A percent sign that leaves the value below it where it is, and takes a share of it. -/
def takesShare : Token → Bool
  | percent (some .add) | percent (some .sub) => true
  | _ => false

end Token

/-! ### What is spanned -/

namespace Numeral

theorem integer_lt {cs : List Char} (h : ∀ c ∈ cs, Decimal.isDigit c = true) :
    integer cs < 10 ^ cs.length := by
  have hdigits : ∀ d ∈ cs.reverse.map digit, d < 10 := by
    intro d hd
    obtain ⟨c, hc, rfl⟩ := List.mem_map.mp hd
    have hc := h c (List.mem_reverse.mp hc)
    have : 48 ≤ c.toNat ∧ c.toNat ≤ 57 := by
      simpa [Decimal.isDigit, Char.le_def, UInt32.le_iff_toNat_le] using hc
    rw [digit, show '0'.toNat = 48 from rfl]
    omega
  simpa [integer] using Nat.ofDigits_lt_base_pow_length (by decide) hdigits

theorem length_cut (cs : List Char) : (front cs).length ≤ cs.length ∧ (back cs).length ≤ cs.length - 1 := by
  rcases cut cs with ⟨hfront, hback⟩ | hcut
  · rw [hfront, hback]
    exact ⟨le_rfl, Nat.zero_le _⟩
  · have := congrArg List.length hcut
    rw [List.length_append, List.length_cons] at this
    omega

/-- Digits and a point, `n` characters together, span `n - 1`. -/
theorem WellFormed.spans {cs : List Char} (h : WellFormed cs) :
    Spans (cs.length - 1) (toRat ⟨false, integer (front cs ++ back cs), -(back cs).length⟩) := by
  obtain ⟨hfront, hback⟩ := length_cut cs
  have hdigit : ∀ c ∈ front cs ++ back cs, Decimal.isDigit c = true := fun c hc =>
    have hc := (mem_front_append_back h.2.1 c).mp hc
    (h.1 c hc.1).resolve_right hc.2
  have hwhole : Whole (-(back cs).length) (toRat ⟨false, integer (front cs ++ back cs), -(back cs).length⟩) :=
    ⟨integer (front cs ++ back cs), by simp [toRat, Decimal.signum]⟩
  refine ⟨hwhole.mono (by omega), ?_⟩
  calc |toRat ⟨false, integer (front cs ++ back cs), -(back cs).length⟩|
      = integer (front cs ++ back cs) * 10 ^ (-(back cs).length : ℤ) := Decimal.abs_toRat _
    _ < 10 ^ (front cs ++ back cs).length * 10 ^ (-(back cs).length : ℤ) := by
        gcongr
        exact_mod_cast integer_lt hdigit
    _ = 10 ^ ((front cs).length : ℤ) := by
        rw [← zpow_natCast, ← zpow_add₀ (by norm_num), List.length_append]
        congr 1
        push_cast
        ring
    _ ≤ 10 ^ ((cs.length - 1 : ℕ) + 1 : ℤ) := Rational.ten_zpow_le (by omega)

theorem length_withoutLineFeed_le (cs : List Char) : (withoutLineFeed cs).length ≤ cs.length := by
  rw [withoutLineFeed]
  split <;> simp

/-- A numeral of `n` characters spans `n - 1`. -/
theorem spans_of_value {text : String} {d : Decimal} (h : value text = .ok d) :
    Spans (text.length - 1) d.toRat := by
  rw [value] at h
  split at h
  · cases h
    exact ⟨⟨0, by simp⟩, by simp [Rational.ten_zpow_pos]⟩
  · cases hread : Decimal.ofPointed? (withoutLineFeed text.toList) with
    | none => rw [hread] at h; cases h
    | some r =>
      have hform := wellFormed_of_ofPointed? hread
      rw [hform.ofPointed?_eq] at h
      cases h
      refine hform.spans.mono ?_
      rw [← String.length_toList]
      exact Nat.sub_le_sub_right (length_withoutLineFeed_le _) 1

end Numeral

namespace Rational

/-! ### Places by the operation -/

variable {ctx : Context} {p m n : ℕ} {x y : ℚ}

/-- An operation costs one more than its operands, and is worth two places more than the digits kept. -/
theorem Spans.settles_exact (hx : Spans (m * (p + 2)) x) (hy : Spans (n * (p + 2)) y) (o : BinOp) :
    Settles p ((m + n + 1) * (p + 2)) (o.exact x y) := by
  have hworth : (m + n + 1) * (p + 2) = m * (p + 2) + n * (p + 2) + p + 2 := by ring
  rw [hworth]
  cases o with
  | add => exact (hx.settles_add hy p).mono (by omega)
  | sub => exact (hx.settles_sub hy p).mono (by omega)
  | mul => exact (hx.settles_mul hy p).mono (by omega)
  | div => exact hx.settles_div hy p

theorem Spans.settles_hundredth (hx : Spans (m * (p + 2)) x) : Settles p ((m + 1) * (p + 2)) (x / 100) :=
  (hx.settles_fraction p).mono (by rw [Nat.succ_mul]; omega)

theorem Spans.settles_part (hx : Spans (m * (ctx.precision + 2)) x) (hy : Spans (n * (ctx.precision + 2)) y) :
    Settles ctx.precision ((m + n + 1) * (ctx.precision + 2)) (y * ctx.rounded (x / 100)) :=
  (hx.settles_share hy).mono (le_of_eq (by ring))

end Rational

namespace Evaluation

open Decimal (Signal)

variable {ctx : Context} {stack stack' : List Decimal} {t : Token} {ts : List Token} {d : Decimal} {n : ℕ}

/-! ### Operators and their results -/

theorem toRat_of_delivered {r : Except Signal Decimal} {x : ℚ} (h : toRat <$> r = ctx.delivered x)
    (hd : r = .ok d) : d.toRat = ctx.rounded x := by
  obtain ⟨hr, -⟩ | ⟨d', hr, hd', -⟩ := Decimal.delivered_cases h
  · rw [hd] at hr; cases hr
  · rw [hd] at hr; cases hr; exact hd'

theorem toRat_of_apply {o : BinOp} {a b : Decimal} (h : apply ctx o a b = .ok d) :
    d.toRat = ctx.rounded (o.exact a.toRat b.toRat) := by
  obtain ⟨-, happly⟩ | ⟨-, r, happly, hr⟩ := apply_cases ctx o a b
  · rw [happly] at h; cases h
  · exact toRat_of_delivered hr (computed_eq_ok_iff.mp (happly.symm.trans h))

theorem toRat_of_share {p f a : Decimal} (hf : ctx.div p (.ofNat 100) = .ok f) (hd : ctx.mul a f = .ok d) :
    d.toRat = ctx.rounded (a.toRat * ctx.rounded (p.toRat / 100)) := by
  rw [← toRat_of_delivered (toRat_div_hundred ctx p) hf]
  exact toRat_of_delivered (Decimal.toRat_mul ctx a f) hd

/-- The token makes an operator compute the number. -/
inductive Computes (ctx : Context) : List Decimal → Token → Decimal → Prop
  | op {o : BinOp} {a b r : Decimal} {below : List Decimal} :
      apply ctx o a b = .ok r → Computes ctx (b :: a :: below) (.op o) r
  | fraction {target : Option BinOp} {p f : Decimal} {below : List Decimal} :
      ctx.div p (.ofNat 100) = .ok f → Computes ctx (p :: below) (.percent target) f
  | share {target : Option BinOp} {p f a r : Decimal} {below : List Decimal} :
      (∀ o ∈ target, o = .add ∨ o = .sub) → ctx.div p (.ofNat 100) = .ok f → ctx.mul a f = .ok r →
      Computes ctx (p :: a :: below) (.percent target) r

/-- What is computed is one of the exact results, rounded. -/
theorem Computes.exists_result (h : Computes ctx stack t d) :
    ∃ x ∈ results ctx stack t, d.toRat = ctx.rounded x := by
  cases h with
  | op hr => exact ⟨_, List.mem_cons_self, toRat_of_apply hr⟩
  | @fraction _ p _ _ hf => exact ⟨_, List.mem_cons_self, toRat_of_delivered (toRat_div_hundred ctx p) hf⟩
  | @share target p f a _ _ htarget hf hr =>
    refine ⟨a.toRat * ctx.rounded (p.toRat / 100), ?_, toRat_of_share hf hr⟩
    rcases target with _ | o
    · simp [results]
    · rcases htarget o rfl with rfl | rfl <;> simp [results]

/-! ### What a stack can afford -/

/-- The values span the places that tokens of cost `n` pay for, where `p` digits are kept: each value has a part of its own. -/
inductive Affords (p : ℕ) : ℕ → List Decimal → Prop
  | nil : Affords p 0 []
  | cons {m n : ℕ} {d : Decimal} {stack : List Decimal} :
      Spans (m * (p + 2)) d.toRat → Affords p n stack → Affords p (m + n) (d :: stack)

theorem Affords.spans {p : ℕ} (h : Affords p n stack) (hd : d ∈ stack) : Spans (n * (p + 2)) d.toRat := by
  induction h with
  | nil => cases hd
  | cons hv _ ih =>
    rcases List.mem_cons.mp hd with rfl | hd
    · exact hv.mono (Nat.mul_le_mul_right _ (by omega))
    · exact (ih hd).mono (Nat.mul_le_mul_right _ (by omega))

/-- A rounded result is put on top of what was not taken. -/
theorem Affords.push {m k : ℕ} {x : ℚ} (hbelow : Affords ctx.precision n stack)
    (hx : Settles ctx.precision (m * (ctx.precision + 2)) x) (hd : d.toRat = ctx.rounded x) (hk : k = m + n) :
    Affords ctx.precision k (d :: stack) := by
  subst hk
  exact .cons (hd ▸ hx.spans) hbelow

/-- **A result settles to what its operands are worth and one operation more.** -/
theorem Affords.settles (h : Affords ctx.precision n stack) (ht : t.takesShare = false) {x : ℚ}
    (hx : x ∈ results ctx stack t) : Settles ctx.precision ((n + t.cost) * (ctx.precision + 2)) x := by
  have hmono : ∀ {m : ℕ}, m ≤ n + t.cost → Settles ctx.precision (m * (ctx.precision + 2)) x →
      Settles ctx.precision ((n + t.cost) * (ctx.precision + 2)) x :=
    fun hm h => h.mono (Nat.mul_le_mul_right _ hm)
  cases t with
  | num _ | lparen | rparen => cases hx
  | op o =>
    rcases h with _ | ⟨hb, _ | ⟨ha, -⟩⟩
    · cases hx
    · cases hx
    · obtain rfl := List.mem_singleton.mp hx
      exact hmono (by simp only [Token.cost]; omega) (ha.settles_exact hb o)
  | percent target =>
    rcases h with _ | ⟨hp, hbelow⟩
    · cases hx
    · rcases List.mem_cons.mp hx with rfl | hx
      · exact hmono (by simp only [Token.cost]; omega) hp.settles_hundredth
      · rcases hbelow with _ | ⟨ha, -⟩
        · cases target <;> cases hx
        · rcases target with _ | _ | _ | _ | _ <;> try cases ht
          · obtain rfl := List.mem_singleton.mp hx
            exact hmono (by simp only [Token.cost]; omega) (hp.settles_part ha)
          · cases hx
          · cases hx

/-- **A step is paid for by its token.** -/
theorem Affords.step (h : Affords ctx.precision n stack) (ht : t.takesShare = false)
    (hstep : Stepped ctx stack t stack') : Affords ctx.precision (n + t.cost) stack' := by
  cases hstep with
  | @num m d _ hv =>
    have hm : m.text.length - 1 ≤ (m.text.length - 1) * (ctx.precision + 2) := Nat.le_mul_of_pos_right _ (by omega)
    rw [Nat.add_comm]
    exact .cons ((Numeral.spans_of_value hv).mono hm) h
  | @op o _ _ _ _ hr =>
    rcases h with _ | ⟨hb, _ | ⟨ha, hbelow⟩⟩
    exact hbelow.push (ha.settles_exact hb o) (toRat_of_apply hr) (by simp only [Token.cost]; omega)
  | @alone p _ _ hf | @fraction _ p _ _ _ _ hf =>
    rcases h with _ | ⟨hp, hbelow⟩
    exact hbelow.push hp.settles_hundredth (toRat_of_delivered (toRat_div_hundred ctx p) hf)
      (by simp only [Token.cost]; omega)
  | share ho => rcases ho with rfl | rfl <;> cases ht
  | part hf hr =>
    rcases h with _ | ⟨hp, _ | ⟨ha, hbelow⟩⟩
    exact hbelow.push (hp.settles_part ha) (toRat_of_share hf hr) (by simp only [Token.cost]; omega)

/-- **A run is paid for by its tokens.** -/
theorem Affords.run (h : Affords ctx.precision n stack) (hts : ∀ t ∈ ts, t.takesShare = false)
    (hrun : run ctx stack ts = .ok stack') : Affords ctx.precision (n + Token.totalCost ts) stack' := by
  induction ts generalizing stack n with
  | nil => cases hrun; exact h
  | cons t ts ih =>
    rw [run_cons] at hrun
    obtain ⟨between, hstep, hrun⟩ := bind_eq_ok_iff.mp hrun
    have hbetween := h.step (hts t List.mem_cons_self) (step_eq_ok_iff.mp hstep)
    rw [Token.totalCost_cons, ← Nat.add_assoc]
    exact ih hbetween (fun u hu => hts u (List.mem_cons_of_mem _ hu)) hrun

end Evaluation

/-! ### What a text can afford -/

namespace Calculator

open Evaluation (run results Computes Affords)

variable {ctx : Context} {text : String} {ts rpn done rest : List Token} {t : Token} {stack : List Decimal} {v : Decimal}

/-- No percent sign of the text takes a share of a summand. -/
def Shareless (text : String) : Prop :=
  ∀ rpn, (Token.scan text >>= Token.toPostfix) = .ok rpn → ∀ t ∈ rpn, t.takesShare = false

instance : DecidablePred Shareless := fun text =>
  match h : Token.scan text >>= Token.toPostfix with
  | .error _ => .isTrue fun _ hrpn => by cases h.symm.trans hrpn
  | .ok rpn => decidable_of_iff (∀ t ∈ rpn, t.takesShare = false)
      ⟨fun hall _ hrpn => Except.ok.inj (h.symm.trans hrpn) ▸ hall, fun htext => htext rpn h⟩

theorem Shareless.takesShare_eq_false (htext : Shareless text) (hscan : Token.scan text = .ok ts)
    (hrpn : Token.toPostfix ts = .ok rpn) : ∀ t ∈ rpn, t.takesShare = false :=
  htext rpn (by rw [hscan]; exact hrpn)

/-- Whatever a text comes to compute settles to what its characters are worth. -/
theorem settles_of_mem_results (htext : Shareless text) (hscan : Token.scan text = .ok ts)
    (hrpn : Token.toPostfix ts = .ok (done ++ t :: rest)) (hrun : run ctx [] done = .ok stack) {x : ℚ}
    (hx : x ∈ results ctx stack t) : Settles ctx.precision (text.length * (ctx.precision + 2)) x := by
  have hshare := htext.takesShare_eq_false hscan hrpn
  have hcost := Token.totalCost_le_length hscan hrpn
  rw [Token.totalCost_append, Token.totalCost_cons] at hcost
  have hstack := Affords.nil.run (fun u hu => hshare u (List.mem_append_left _ hu)) hrun
  exact (hstack.settles (hshare t (by simp)) hx).mono (Nat.mul_le_mul_right _ (by omega))

/-- So does the value that is left, up to the next power of ten. -/
theorem abs_le_of_run (htext : Shareless text) (hscan : Token.scan text = .ok ts)
    (hrpn : Token.toPostfix ts = .ok rpn) (hrun : run ctx [] rpn = .ok [v]) :
    |v.toRat| ≤ 10 ^ ((text.length * (ctx.precision + 2) : ℕ) + 1 : ℤ) := by
  have hcost := Token.totalCost_le_length hscan hrpn
  have hstack := Affords.nil.run (htext.takesShare_eq_false hscan hrpn) hrun
  exact ((hstack.spans List.mem_cons_self).mono (Nat.mul_le_mul_right _ (by omega))).abs_le

theorem not_tooGreat_of_lt {k : ℕ} {x : ℚ} (hk : k < 999999) (hx : |x| ≤ 10 ^ (k + 1 : ℤ)) (ctx : Context) :
    ¬ ctx.TooGreat x := by
  have hmax : (k + 1 : ℤ) ≤ Decimal.maxExponent := by
    rw [Decimal.maxExponent]
    omega
  exact Decimal.not_tooGreat_of_le ((ctx.least_le_natCast k).trans (by omega)) hmax hx

theorem exists_display {shown : Context} (h : ¬ shown.TooGreat v.toRat) : ∃ s, v.display shown = .ok s := by
  obtain ⟨-, hgreat⟩ | ⟨r, hr, -, -⟩ := Decimal.delivered_cases (Decimal.toRat_plus shown v)
  · exact absurd hgreat h
  · rw [Decimal.display_eq, hr]
    exact ⟨_, rfl⟩

/-- A text that can afford it has a value that can be shown, or a mistake. -/
theorem exists_value_or_mistake (hlength : text.length * (ctx.precision + 2) < 999999) (htext : Shareless text) :
    (∃ v, valueOf ctx text = .ok v ∧ ∀ shown : Context, ∃ s, v.display shown = .ok s) ∨
      ∃ m, valueOf ctx text = .error (.mistake m) := by
  cases hvalue : valueOf ctx text with
  | ok v =>
    obtain ⟨ts, rpn, hscan, hrpn, heval⟩ := valueOf_eq_ok_iff.mp hvalue
    obtain ⟨x, hrun, hplus⟩ := evaluate_eq_ok_iff.mp heval
    have hv : |v.toRat| ≤ 10 ^ ((text.length * (ctx.precision + 2) : ℕ) + 1 : ℤ) := by
      rw [Evaluation.toRat_of_delivered (Decimal.toRat_plus ctx x) hplus]
      exact Context.abs_rounded_le ((ctx.least_le_natCast _).trans (Int.le_add_one le_rfl))
        (abs_le_of_run htext hscan hrpn hrun)
    exact .inl ⟨v, rfl, fun shown => exists_display (not_tooGreat_of_lt hlength hv shown)⟩
  | error f =>
    cases f with
    | mistake m => exact .inr ⟨m, rfl⟩
    | signal s =>
      obtain ⟨-, ts, rpn, hscan, hrpn, hexceeds | ⟨v, hrun, hgreat⟩⟩ :=
        (valueOf_eq_signal_iff ctx text s).mp hvalue
      · obtain ⟨done, t, rest, stack, rfl, hrun, x, hx, hgreat⟩ := hexceeds
        have hsettles := settles_of_mem_results htext hscan hrpn hrun hx
        have hle := hsettles.le.trans (Rational.ten_zpow_le (Int.le_add_one le_rfl))
        exact absurd hgreat (not_tooGreat_of_lt hlength hle ctx)
      · exact absurd hgreat (not_tooGreat_of_lt hlength (abs_le_of_run htext hscan hrpn hrun) ctx)

/-- **Growth is linear.**  If the places that the characters of a text are worth lie within the range of exponents, and no percent sign of it takes a share of a summand, the text has a value that can be shown with any number of digits, or a mistake: nothing overflows.  Nothing underflows either: every result on the way is rounded to its significant digits, which are a normal number and zero only if the exact result is, and its first digit stands within those places. -/
theorem growth (ctx : Context) (text : String)
    (hlength : text.length * (ctx.precision + 2) < 999999) (htext : Shareless text) :
    ((∃ v, valueOf ctx text = .ok v ∧ ∀ shown : Context, ∃ s, v.display shown = .ok s) ∨
      ∃ m, valueOf ctx text = .error (.mistake m)) ∧
    ∀ ts done t rest stack, Token.scan text = .ok ts → Token.toPostfix ts = .ok (done ++ t :: rest) →
      run ctx [] done = .ok stack →
        (∀ x ∈ results ctx stack t, ctx.delivered x = .ok (significant ctx.precision x) ∧
          Normal (significant ctx.precision x) ∧ (significant ctx.precision x = 0 → x = 0)) ∧
        ∀ d, Computes ctx stack t d →
          (∃ x ∈ results ctx stack t, d.toRat = significant ctx.precision x) ∧
          (d.coefficient ≠ 0 → |d.adjusted| ≤ text.length * (ctx.precision + 2)) := by
  refine ⟨exists_value_or_mistake hlength htext, fun ts done t rest stack hscan hrpn hrun => ?_⟩
  have hsettles : ∀ x ∈ results ctx stack t, Settles ctx.precision (text.length * (ctx.precision + 2)) x :=
    fun x => settles_of_mem_results htext hscan hrpn hrun
  have hnormal : ∀ x ∈ results ctx stack t, Normal (significant ctx.precision x) := fun x hx =>
    (hsettles x hx).normal ctx.precision_pos (show _ < (999999 : ℤ) by exact_mod_cast hlength)
  refine ⟨fun x hx => ⟨Decimal.delivered_eq_significant (hnormal x hx), hnormal x hx, fun hzero => ?_⟩,
    fun d hd => ?_⟩
  · by_contra hne
    exact Rational.ne_zero_of_zpow_le (Rational.abs_significant_bounds ctx.precision_pos hne).1 hzero
  · obtain ⟨x, hx, hdx⟩ := hd.exists_result
    refine ⟨⟨x, hx, hdx.trans (Decimal.rounded_eq_significant (hnormal x hx))⟩, fun hzero => ?_⟩
    have hne : ctx.rounded x ≠ 0 := by rwa [← hdx, ne_eq, Decimal.toRat_eq_zero_iff]
    have hlog := (hsettles x hx).log_rounded hne
    rw [← hdx, Decimal.log_toRat hzero] at hlog
    rw [abs_le]
    exact_mod_cast hlog

/-- What cancels down to its last digit makes a quotient great, within what the text can afford. -/
theorem growth_of_cancelled :
    "1÷(1÷3-0.3332)".length * (4 + 2) < 999999 ∧ Shareless "1÷(1÷3-0.3332)" ∧
      valueOf { precision := 4 } "1÷(1÷3-0.3332)" = .ok ⟨false, 1, 4⟩ ∧
      ∀ shown : Context, ∃ s, (⟨false, 1, 4⟩ : Decimal).display shown = .ok s := by
  have hlength : "1÷(1÷3-0.3332)".length * (4 + 2) < 999999 := by decide +kernel
  have htext : Shareless "1÷(1÷3-0.3332)" := by decide +kernel
  have hvalue : valueOf { precision := 4 } "1÷(1÷3-0.3332)" = .ok ⟨false, 1, 4⟩ := by decide +kernel
  refine ⟨hlength, htext, hvalue, ?_⟩
  obtain ⟨v, hv, hdisplay⟩ | ⟨m, hm⟩ := (growth { precision := 4 } _ hlength htext).1
  · rw [hvalue] at hv
    cases hv
    exact hdisplay
  · rw [hvalue] at hm
    cases hm

end Calculator

end Reckoner
