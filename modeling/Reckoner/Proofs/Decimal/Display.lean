import Reckoner.Calculator
import Reckoner.Proofs.Decimal.Notation
import Reckoner.Proofs.Decimal.Order

/-!
# Decimal — the display is the canonical numeral of the rounded number

A numeral is canonical if no zero of it can be left out, in front of the point or behind it, if digits follow its point, and if zero has no sign (`Numeral.Canonical`).  The notation of a number without trailing zeros is canonical (`canonical_plain`) and denotes the number (`denotedSigned_plain`), and a display shows such a number, of the value to which the context rounds.  So displays are ordered like the numbers, and the display of the opposite number is the opposite numeral (`display_neg`).

`displayWith` is given a number of digits, as the calculator is by its settings; `canonicalDisplay` says what is displayed with each number of digits that some context keeps.
-/

namespace Reckoner

namespace Numeral

open Decimal (isDigit)

variable {ds es cs : List Char}

/-! ### Canonical numerals -/

/-- Digits in front of the point and behind it, without a zero that could be left out. -/
structure CanonicalParts (ds es : List Char) : Prop where
  front_isDigit : ∀ c ∈ ds, isDigit c = true
  back_isDigit : ∀ c ∈ es, isDigit c = true
  front_ne_nil : ds ≠ []
  leading : ds.head? = some '0' → ds = ['0']
  trailing : es.getLast? ≠ some '0'

/-- With a point if there is anything behind it. -/
def joined (ds es : List Char) : List Char := if es = [] then ds else ds ++ '.' :: es

/-- A canonical numeral, with a minus sign or without; zero has none. -/
def Canonical (cs : List Char) : Prop :=
  ∃ ds es, CanonicalParts ds es ∧ (cs = joined ds es ∨ cs = '-' :: joined ds es ∧ joined ds es ≠ ['0'])

/-- The number a numeral denotes with the sign in front of it. -/
def denotedSigned : List Char → ℚ
  | '-' :: cs => -denoted cs
  | cs => denoted cs

/-- The numeral of the opposite number. -/
def opposite (s : String) : String :=
  if s = "0" then s
  else if s.toList.head? = some '-' then .ofList s.toList.tail else .ofList ('-' :: s.toList)

theorem denotedSigned_of_notMem (h : '-' ∉ cs) : denotedSigned cs = denoted cs := by
  rw [denotedSigned]
  rintro es rfl
  exact h List.mem_cons_self

theorem WellFormed.minus_notMem (h : WellFormed cs) : '-' ∉ cs := fun hmem =>
  (h.1 '-' hmem).elim (by decide) (by decide)

theorem ofList_eq_zero_iff : String.ofList cs = "0" ↔ cs = ['0'] :=
  ⟨fun h => by simpa using congrArg String.toList h, fun h => by rw [h]⟩

theorem opposite_minus (cs : List Char) : opposite (.ofList ('-' :: cs)) = .ofList cs := by
  rw [opposite, if_neg (mt ofList_eq_zero_iff.mp (by simp)), String.toList_ofList,
    if_pos List.head?_cons, List.tail_cons]

theorem opposite_of_notMem (hzero : cs ≠ ['0']) (h : '-' ∉ cs) :
    opposite (.ofList cs) = .ofList ('-' :: cs) := by
  rw [opposite, if_neg (mt ofList_eq_zero_iff.mp hzero), String.toList_ofList,
    if_neg fun hhead => h (List.mem_of_head? hhead)]

end Numeral

namespace Decimal

open Rational

variable {ctx : Context} {d r : Decimal}

/-! ### Digits -/

theorem getLast?_digits (n : ℕ) : (digits n).getLast? = some (Nat.digitChar (n % 10)) := by
  rw [digits]
  rcases lt_or_ge n 10 with hlt | hle
  · rw [Nat.toDigits_of_lt_base hlt, Nat.mod_eq_of_lt hlt, List.getLast?_singleton]
  · rw [Nat.toDigits_of_base_le (by decide) hle, List.getLast?_concat]

theorem head?_digits {n : ℕ} (hn : n ≠ 0) : (digits n).head? ≠ some '0' := by
  rw [digits]
  induction n using Nat.strongRecOn with
  | ind n ih =>
    rcases lt_or_ge n 10 with hlt | hle
    · rwa [Nat.toDigits_of_lt_base hlt, List.head?_cons, Ne, Option.some.injEq, Nat.digitChar_eq_zero]
    · rw [Nat.toDigits_of_base_le (by decide) hle, List.head?_append_of_ne_nil _ Nat.toDigits_ne_nil]
      exact ih (n / 10) (by omega) (by omega)

/-- A number other than zero is written with one zero in front of the point, or with none. -/
theorem length_padded_of_head? {n places : ℕ} (hn : n ≠ 0) (h : (padded n places).head? = some '0') :
    (padded n places).length = places + 1 := by
  rw [padded] at h ⊢
  rcases Nat.eq_zero_or_pos (places + 1 - (digits n).length) with hzero | hpos
  · rw [hzero, List.replicate_zero, List.nil_append] at h
    exact absurd h (head?_digits hn)
  · rw [List.length_append, List.length_replicate]
    omega

/-! ### The notation is canonical -/

theorem canonicalParts_digits (n : ℕ) : Numeral.CanonicalParts (digits n) [] where
  front_isDigit _ := isDigit_of_mem_digits
  back_isDigit := nofun
  front_ne_nil := digits_ne_nil n
  leading h := by
    rcases eq_or_ne n 0 with rfl | hn
    · rfl
    · exact absurd h (head?_digits hn)
  trailing := nofun

/-- Around the point a number has no zero to leave out if its last digit is none. -/
theorem canonicalParts_of_padded {n : ℕ} {ds es : List Char} (hn : n % 10 ≠ 0) (hds : ds ≠ [])
    (hes : es ≠ []) (h : ds ++ es = padded n es.length) : Numeral.CanonicalParts ds es where
  front_isDigit _ hc := isDigit_of_mem_padded (h ▸ List.mem_append_left _ hc)
  back_isDigit _ hc := isDigit_of_mem_padded (h ▸ List.mem_append_right _ hc)
  front_ne_nil := hds
  leading hhead := by
    have hlength : (padded n es.length).length = es.length + 1 := by
      refine length_padded_of_head? (by rintro rfl; exact hn rfl) ?_
      rw [← h, List.head?_append_of_ne_nil _ hds, hhead]
    rw [← h, List.length_append, Nat.add_comm, Nat.add_left_cancel_iff] at hlength
    obtain ⟨c, rfl⟩ := List.length_eq_one_iff.mp hlength
    rw [Option.some.inj hhead]
  trailing := by
    have hlast : es.getLast? = (padded n es.length).getLast? := by
      rw [← h, List.getLast?_append_of_ne_nil _ hes]
    rw [hlast, padded, List.getLast?_append_of_ne_nil _ (digits_ne_nil n), getLast?_digits, Ne,
      Option.some.injEq, Nat.digitChar_eq_zero]
    exact hn

theorem canonicalParts_body (hd : d.Reduced) :
    ∃ ds es, Numeral.CanonicalParts ds es ∧ d.body = Numeral.joined ds es := by
  rcases hd.1.eq_or_lt with hzero | hneg
  · exact ⟨_, [], canonicalParts_digits _, body_of_nonneg hzero.ge⟩
  · obtain ⟨ds, es, hpointed, hpadded, hds, hlength⟩ := pointed_eq d.coefficient (-d.exponent).toNat
    have hes : es ≠ [] := List.ne_nil_of_length_pos (by omega)
    refine ⟨ds, es, canonicalParts_of_padded (hd.2 hneg) hds hes (hlength ▸ hpadded), ?_⟩
    rw [body, if_neg (not_le.mpr hneg), hpointed, Numeral.joined, if_neg hes]

/-! ### The number that is shown -/

theorem denoted_body (d : Decimal) : Numeral.denoted d.body = |d.toRat| := by
  obtain ⟨hform, hvalue⟩ := body_reads d
  have hform' : Numeral.WellFormed (String.ofList d.body).toList := by rwa [String.toList_ofList]
  have hdenoted := Numeral.toRat_value hform'
  rw [hvalue, String.toList_ofList] at hdenoted
  rw [← Except.ok.inj hdenoted, ← toRat_spread d, abs_toRat, toRat, signum, if_neg Bool.false_ne_true, one_mul]

theorem body_ne_zero (hd : d.coefficient ≠ 0) : d.body ≠ ['0'] := fun hzero => by
  have hdenoted := denoted_body d
  rw [hzero, show Numeral.denoted ['0'] = 0 from by decide +kernel] at hdenoted
  exact hd (toRat_eq_zero_iff.mp (abs_eq_zero.mp hdenoted.symm))

theorem minus_notMem_body (d : Decimal) : '-' ∉ d.body := (body_reads d).1.minus_notMem

/-- The notation denotes the number it writes. -/
theorem denotedSigned_plain (d : Decimal) : Numeral.denotedSigned d.plain.toList = d.toRat := by
  rw [plain_eq, String.toList_ofList, toRat, ← abs_toRat, ← denoted_body]
  split
  · next hneg => rw [hneg, signum, if_pos rfl, neg_one_mul, Numeral.denotedSigned]
  · next hneg =>
    rw [Numeral.denotedSigned_of_notMem (minus_notMem_body d), signum, if_neg hneg, one_mul]

theorem canonical_plain (d : Decimal) : Numeral.Canonical d.bare.plain.toList := by
  rw [bare]
  split
  · exact ⟨_, [], canonicalParts_digits 0, .inl rfl⟩
  · next hzero =>
    have hne : d.coefficient ≠ 0 := by simpa [isZero] using hzero
    obtain ⟨ds, es, hcanonical, hbody⟩ := canonicalParts_body (reduced_spread_reduceTo hne)
    refine ⟨ds, es, hcanonical, ?_⟩
    rw [← plain_spread, plain_eq, String.toList_ofList, ← hbody]
    split
    · exact .inr ⟨rfl, body_ne_zero (coefficient_spread_reduceTo hne)⟩
    · exact .inl rfl

theorem plain_neg (hd : d.coefficient ≠ 0) : d.neg.plain = Numeral.opposite d.plain := by
  have hbody : d.neg.body = d.body := rfl
  have hnegative : d.neg.negative = !d.negative := rfl
  rw [plain_eq, plain_eq, hbody, hnegative]
  cases d.negative with
  | true => exact (Numeral.opposite_minus _).symm
  | false => exact (Numeral.opposite_of_notMem (body_ne_zero hd) (minus_notMem_body d)).symm

theorem plain_bare_neg (d : Decimal) : d.neg.bare.plain = Numeral.opposite d.bare.plain := by
  rw [bare, bare]
  by_cases hzero : d.isZero = true
  · rw [if_pos hzero, if_pos (show d.neg.isZero = true from hzero)]
    decide
  · rw [if_neg hzero, if_neg (show ¬ d.neg.isZero = true from hzero)]
    refine plain_neg (d := d.reduceTo 0) ?_
    rw [Ne, ← toRat_eq_zero_iff, toRat_reduceTo, toRat_eq_zero_iff]
    simpa [isZero] using hzero

/-! ### Display -/

theorem tooGreat_neg {x : ℚ} : ctx.TooGreat (-x) ↔ ctx.TooGreat x := by
  rw [Context.TooGreat, Context.rounded_neg, abs_neg, Context.TooGreat]

/-- What is shown of the opposite number is the opposite numeral. -/
theorem display_neg (ctx : Context) (d : Decimal) :
    d.neg.display ctx = Numeral.opposite <$> d.display ctx := by
  have hneg := display_cases ctx d.neg
  rw [toRat_neg, tooGreat_neg, Context.rounded_neg] at hneg
  obtain ⟨h, hgreat⟩ | ⟨r, h, hr, hgreat⟩ := display_cases ctx d
  · obtain ⟨h', -⟩ | ⟨-, -, -, hnot⟩ := hneg
    · rw [h, h']; rfl
    · exact absurd hgreat hnot
  · obtain ⟨-, hgreat'⟩ | ⟨r', h', hr', -⟩ := hneg
    · exact absurd hgreat' hgreat
    · -- the notation depends on the value only, so the sign may be changed behind the rounding
      rw [h, h', plain_bare_eq_of_toRat_eq (b := r.neg) (by rw [hr', toRat_neg, hr]), plain_bare_neg]
      rfl

/-- What is shown denotes the rounded number. -/
theorem denotedSigned_display {s : String} (h : d.display ctx = .ok s) :
    Numeral.denotedSigned s.toList = ctx.rounded d.toRat := by
  obtain ⟨h', -⟩ | ⟨r, h', hr, -⟩ := display_cases ctx d <;> rw [h'] at h <;> cases h
  rw [denotedSigned_plain, toRat_bare, hr]

theorem canonical_display {s : String} (h : d.display ctx = .ok s) : Numeral.Canonical s.toList := by
  obtain ⟨h', -⟩ | ⟨r, h', -, -⟩ := display_cases ctx d <;> rw [h'] at h <;> cases h
  exact canonical_plain r

/-! ### The digits asked for -/

/-- Shown with a number of significant digits, if there is a context of so many. -/
def displayWith (digits : ℤ) (d : Decimal) : Except Signal String := do
  d.display (← Context.ofInt digits)

/-- What a display with so many significant digits has to be for all numbers. -/
structure CanonicalDisplay (digits : ℕ) : Prop where
  /-- A number too great in its significant digits overflows. -/
  overflow : ∀ v : Decimal, 10 ^ 1000000 ≤ |significant digits v.toRat| →
    displayWith digits v = .error .overflow
  /-- Every other number is rounded to these digits, or at the least place there is, and shown by the canonical numeral. -/
  shown : ∀ v : Decimal, |significant digits v.toRat| < 10 ^ 1000000 →
    ∃ s, displayWith digits v = .ok s ∧ Numeral.Canonical s.toList ∧
      Numeral.denotedSigned s.toList =
        nearest (max (Int.log 10 |v.toRat| - digits + 1) (-999999 - digits + 1)) v.toRat
  odd : ∀ v : Decimal, displayWith digits v.neg = Numeral.opposite <$> displayWith digits v
  mono : ∀ (v w : Decimal) (s t : String), v.toRat ≤ w.toRat → displayWith digits v = .ok s →
    displayWith digits w = .ok t → Numeral.denotedSigned s.toList ≤ Numeral.denotedSigned t.toList

theorem bound_eq : bound = 10 ^ 1000000 :=
  (congrArg ((10 : ℚ) ^ ·) (show maxExponent + 1 = ((1000000 : ℕ) : ℤ) from by decide)).trans
    (zpow_natCast 10 1000000)

theorem canonical_displayWith {digits : ℤ} {s : String} (h : displayWith digits d = .ok s) :
    Numeral.Canonical s.toList := by
  rw [displayWith] at h
  cases hctx : Context.ofInt digits with
  | error e => rw [hctx] at h; cases h
  | ok ctx => rw [hctx] at h; exact canonical_display h

theorem displayWith_eq {digits : ℕ} (hpos : 0 < digits) (hmax : digits ≤ maxPrecision) (d : Decimal) :
    displayWith digits d = d.display ⟨digits, hpos⟩ := by
  have hctx : Context.ofInt digits = .ok ⟨digits, hpos⟩ := dif_pos ⟨hpos, hmax⟩
  rw [displayWith, hctx]
  rfl

/-- More digits than a context keeps are refused, whatever the number is. -/
theorem displayWith_of_lt {digits : ℕ} (hmax : maxPrecision < digits) (d : Decimal) :
    displayWith digits d
      = .error (if (digits : ℤ) < wordLimit then .precisionRange else .precisionSize) := by
  have hnot : ¬ (0 < (digits : ℤ).toNat ∧ (digits : ℤ).toNat ≤ maxPrecision) := fun h =>
    hmax.not_ge h.2
  have hlow : -wordLimit ≤ (digits : ℤ) :=
    (show -wordLimit ≤ 0 from by decide).trans (Int.natCast_nonneg digits)
  rw [displayWith, Context.ofInt, dif_neg hnot]
  by_cases hword : (digits : ℤ) < wordLimit
  · rw [if_pos ⟨hlow, hword⟩, if_pos hword]
    rfl
  · rw [if_neg fun h => hword h.2, if_neg hword]
    rfl

/-- **The display is the canonical numeral of the rounded number**, for every number of digits that a context can keep; a greater one is refused. -/
theorem canonicalDisplay {digits : ℕ} (hpos : 1 ≤ digits) :
    (digits ≤ maxPrecision → CanonicalDisplay digits) ∧
      (maxPrecision < digits → ∀ v : Decimal, displayWith digits v
        = .error (if (digits : ℤ) < wordLimit then .precisionRange else .precisionSize)) := by
  refine ⟨fun hmax => ?_, displayWith_of_lt⟩
  let ctx : Context := ⟨digits, hpos⟩
  have hdisplay : ∀ v : Decimal, displayWith digits v = v.display ctx := displayWith_eq hpos hmax
  have hgreat : ∀ v : Decimal, ctx.TooGreat v.toRat ↔ 10 ^ 1000000 ≤ |significant digits v.toRat| :=
    fun v => by rw [tooGreat_iff, bound_eq]
  constructor
  case overflow =>
    intro v hv
    obtain ⟨h, -⟩ | ⟨-, -, -, hnot⟩ := display_cases ctx v
    · rw [hdisplay, h]
    · exact absurd ((hgreat v).mpr hv) hnot
  case shown =>
    intro v hv
    obtain ⟨-, hover⟩ | ⟨r, h, -, -⟩ := display_cases ctx v
    · exact absurd ((hgreat v).mp hover) hv.not_ge
    · refine ⟨_, (hdisplay v).trans h, canonical_display h, ?_⟩
      rw [denotedSigned_display h, Context.rounded, Context.least, minExponent]
  case odd =>
    intro v
    rw [hdisplay, hdisplay, display_neg]
  case mono =>
    intro v w s t hle hs ht
    rw [hdisplay] at hs ht
    rw [denotedSigned_display hs, denotedSigned_display ht]
    exact ctx.rounded_mono hle

/-- Nines are carried into a digit more, and the number is written with its sign. -/
theorem canonicalDisplay_carried : 1 ≤ 3 ∧ 3 ≤ maxPrecision ∧
    displayWith 3 ⟨true, 99951, -2⟩ = .ok "-1000" ∧ Numeral.Canonical "-1000".toList ∧
    displayWith 3 ⟨false, 99951, -2⟩ = .ok "1000" := by
  obtain ⟨hdisplays, -⟩ := canonicalDisplay (show 1 ≤ 3 by decide)
  have hdisplay : CanonicalDisplay 3 := hdisplays (by decide)
  have hshown : displayWith 3 ⟨true, 99951, -2⟩ = .ok "-1000" := by decide +kernel
  have hsmall : |significant 3 (toRat ⟨true, 99951, -2⟩)| < 10 ^ 1000000 := by
    by_contra! hgreat
    cases hshown.symm.trans (hdisplay.overflow _ hgreat)
  obtain ⟨s, hs, hcanonical, -⟩ := hdisplay.shown _ hsmall
  cases hshown.symm.trans hs
  have hpositive := (hdisplay.odd ⟨true, 99951, -2⟩).trans (congrArg (Numeral.opposite <$> ·) hshown)
  exact ⟨by decide, by decide, hshown, hcanonical, hpositive⟩

/-- With a digit more than any context keeps not even a one is shown. -/
theorem not_canonicalDisplay : ¬ ∀ digits : ℕ, 1 ≤ digits → CanonicalDisplay digits := fun h => by
  have hdisplay : CanonicalDisplay 1000000000000000000 := h _ (by decide)
  have hone : toRat ⟨false, 1, 0⟩ = 1 := by simp [toRat, signum]
  have hdigits : HasDigits 1000000000000000000 1 :=
    ⟨1, 0, by rw [abs_one]; exact one_lt_pow₀ (by norm_num) (by norm_num), by norm_num⟩
  have hsmall : |significant 1000000000000000000 (toRat ⟨false, 1, 0⟩)| < 10 ^ 1000000 := by
    rw [hone, significant_eq_self hdigits, abs_one]
    exact one_lt_pow₀ (by norm_num) (by norm_num)
  obtain ⟨s, hs, -⟩ := hdisplay.shown _ hsmall
  cases (displayWith_of_lt (by decide) _).symm.trans hs

end Decimal

/-- Whatever its settings are, a calculator shows canonical numerals only. -/
theorem Calculator.canonical_of_shown {c : Calculator} {v : Decimal} {s : String}
    (h : c.shown v = .ok s) : Numeral.Canonical s.toList := Decimal.canonical_displayWith h

end Reckoner
