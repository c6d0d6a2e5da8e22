import Reckoner.Proofs.Decimal.Notation
import Reckoner.Proofs.Stack
import Reckoner.Proofs.Token.Reading

/-!
# Numeral — which texts have a value, and which value

A text has a value if it is empty, or if it is a well-formed numeral, with a line feed behind it or without (`Accepted`).  The value is made of the digits and of how many of them follow the point, all of them kept however many there are, and every other text is the invalid number it is reported as: `value_exact`.
-/

namespace Reckoner

namespace Numeral

open Decimal (isDigit toRat)

variable {s : String} {cs ds es : List Char} {d : Decimal} {m : Mistake}

/-! ### The specification -/

/-- The text is these characters, with a line feed behind them or without. -/
def Spells (s : String) (cs : List Char) : Prop := s.toList = cs ∨ s.toList = cs ++ ['\n']

/-- The text is empty or spells a well-formed numeral. -/
def Accepted (s : String) : Prop := s = "" ∨ ∃ cs, Spells s cs ∧ WellFormed cs

/-- A number with all digits of a numeral, and with as many places as digits follow its point. -/
structure Reads (cs : List Char) (d : Decimal) : Prop where
  negative : d.negative = false
  coefficient : d.coefficient = integer (cs.filter isDigit)
  whole : '.' ∉ cs → d.exponent = 0
  pointed : ∀ ds es, cs = ds ++ '.' :: es → d.exponent = -es.length
  value : d.toRat = denoted cs

/-! ### The line feed -/

theorem spells_withoutLineFeed (s : String) : Spells s (withoutLineFeed s.toList) := by
  rw [withoutLineFeed]
  split
  · next h => exact .inr (List.dropLast_append_getLast? _ h).symm
  · exact .inl rfl

theorem Spells.withoutLineFeed_eq (h : Spells s cs) (hcs : WellFormed cs) :
    withoutLineFeed s.toList = cs := by
  rcases h with h | h
  · rw [h]
    exact hcs.withoutLineFeed_eq
  · rw [h, withoutLineFeed, if_pos List.getLast?_concat, List.dropLast_concat]

theorem Spells.ne_empty (h : Spells s cs) (hcs : WellFormed cs) : s ≠ "" := by
  rintro rfl
  rcases h with h | h
  · exact hcs.ne_nil h.symm
  · exact List.append_ne_nil_of_right_ne_nil cs (List.cons_ne_nil _ _) h.symm

/-! ### Digits and places -/

/-- The digits of a numeral stand in front of its point and behind it. -/
theorem WellFormed.filter_isDigit (h : WellFormed cs) : cs.filter isDigit = front cs ++ back cs := by
  have hdigits : ∀ c ∈ front cs ++ back cs, isDigit c = true := fun c hc => by
    obtain ⟨hc, hne⟩ := (mem_front_append_back h.2.1 c).mp hc
    exact (h.1 c hc).resolve_right hne
  have hpoint : isDigit '.' = false := by decide
  rcases cut cs with ⟨hfront, hback⟩ | hcut
  · rw [hfront, hback, List.append_nil] at hdigits ⊢
    exact List.filter_eq_self.mpr hdigits
  · conv_lhs => rw [← hcut]
    rw [List.filter_append, List.filter_cons_of_neg (by rw [hpoint]; decide), ← List.filter_append]
    exact List.filter_eq_self.mpr hdigits

/-- Nothing but digits stands in front of the only point. -/
theorem WellFormed.back_eq (h : WellFormed (ds ++ '.' :: es)) : back (ds ++ '.' :: es) = es := by
  have hcount := h.2.1
  rw [List.count_append, List.count_cons_self] at hcount
  exact back_append_point (List.count_eq_zero.mp (by omega))

theorem WellFormed.reads (h : WellFormed cs) :
    Reads cs ⟨false, integer (front cs ++ back cs), -(back cs).length⟩ where
  negative := rfl
  coefficient := by rw [h.filter_isDigit]
  whole hpoint := by
    obtain ⟨-, hback⟩ := cut_of_notMem hpoint
    simp [hback]
  pointed ds es hcs := by
    subst hcs
    rw [h.back_eq]
  value := toRat_read cs

/-! ### Values -/

theorem Spells.value_eq (h : Spells s cs) (hcs : WellFormed cs) :
    value s = .ok ⟨false, integer (front cs ++ back cs), -(back cs).length⟩ := by
  rw [Numeral.value, if_neg (mt String.isEmpty_iff.mp (h.ne_empty hcs)), h.withoutLineFeed_eq hcs,
    hcs.ofPointed?_eq]

theorem Spells.exists_reads (h : Spells s cs) (hcs : WellFormed cs) : ∃ d, value s = .ok d ∧ Reads cs d :=
  ⟨_, h.value_eq hcs, hcs.reads⟩

theorem exists_value_of_accepted (h : Accepted s) : ∃ d, value s = .ok d := by
  rcases h with rfl | ⟨cs, hs, hcs⟩
  · exact ⟨_, rfl⟩
  · exact ⟨_, hs.value_eq hcs⟩

/-- A text that is not accepted is reported as it stands. -/
theorem value_of_not_accepted (h : ¬ Accepted s) : value s = .error (.invalidNumber s) := by
  obtain ⟨hempty, hform⟩ := not_or.mp h
  rw [value, if_neg (mt String.isEmpty_iff.mp hempty)]
  cases hread : Decimal.ofPointed? (withoutLineFeed s.toList) with
  | none => rfl
  | some r => exact absurd ⟨_, spells_withoutLineFeed s, wellFormed_of_ofPointed? hread⟩ hform

theorem exists_value_iff : (∃ d, value s = .ok d) ↔ Accepted s := by
  refine ⟨fun ⟨d, hd⟩ => ?_, exists_value_of_accepted⟩
  by_contra h
  rw [value_of_not_accepted h] at hd
  cases hd

theorem value_eq_error_iff : value s = .error m ↔ m = .invalidNumber s ∧ ¬ Accepted s := by
  by_cases h : Accepted s
  · obtain ⟨d, hd⟩ := exists_value_of_accepted h
    exact iff_of_false (fun hm => by rw [hd] at hm; cases hm) fun hm => hm.2 h
  · rw [value_of_not_accepted h, Except.error.injEq, eq_comm, and_iff_left h]

/-- A numeral that is read from a text is refused for the lack of a digit or for a second point. -/
theorem refused_iff_of_scan {text : String} {ts : List Token} {n : Numeral}
    (hscan : Token.scan text = .ok ts) (hn : .num n ∈ ts) :
    (∃ m, value n.text = .error m) ↔
      (∀ c ∈ n.text.toList, isDigit c = false) ∨ 2 ≤ n.text.toList.count '.' := by
  obtain ⟨⟨hne, hchars⟩, -⟩ := (Token.legible_of_scan hscan).scanned _ hn
  have hvalue := value_eq_ok_iff hne hchars
  have hrefused : (∃ m, value n.text = .error m) ↔ ¬ ∃ d, value n.text = .ok d := by
    cases value n.text <;> simp
  rw [hrefused, hvalue, WellFormed, and_iff_right hchars, not_and_or, not_le, or_comm]
  simp [Nat.lt_iff_add_one_le]

/-- **Numerals are read exactly.**  The texts with a value are the accepted ones, and a numeral has the value it denotes, with all its digits, in whatever context it is evaluated.  Every other text is reported, as it stands, as an invalid number; among the numerals read from a text these are the ones without a digit or with a second point. -/
theorem value_exact :
    (∀ s, (∃ d, value s = .ok d) ↔ Accepted s) ∧
      value "" = .ok ⟨false, 0, 0⟩ ∧
      (∀ s cs, Spells s cs → WellFormed cs → ∃ d, value s = .ok d ∧ Reads cs d) ∧
      (∀ s d, value s = .ok d → ∀ (ctx : Decimal.Context) (stack : List Decimal),
        Evaluation.step ctx stack (.number s) = .ok (d :: stack)) ∧
      (∀ s m, value s = .error m ↔ m = .invalidNumber s ∧ ¬ Accepted s) ∧
      ∀ text ts n, Token.scan text = .ok ts → .num n ∈ ts →
        ((∃ m, value n.text = .error m) ↔
          (∀ c ∈ n.text.toList, isDigit c = false) ∨ 2 ≤ n.text.toList.count '.') := by
  exact ⟨fun s => exists_value_iff, rfl, fun s cs => Spells.exists_reads,
    fun s d hd ctx => Evaluation.step_number hd, fun s m => value_eq_error_iff,
    fun text ts n => refused_iff_of_scan⟩

/-- Zeros in front and behind are digits like the others and one line feed is not looked at; a point or a line feed alone is no numeral, nor is a digit of another script. -/
theorem value_exact_spelled :
    Spells "012.50\n" "012.50".toList ∧ WellFormed "012.50".toList ∧
      (∃ d, value "012.50\n" = .ok d ∧ d.negative = false ∧ d.coefficient = 1250 ∧ d.exponent = -2 ∧
        ∀ ctx : Decimal.Context, Evaluation.step ctx [] (.number "012.50\n") = .ok [d]) ∧
      ¬ Accepted "." ∧ ¬ Accepted "\n" ∧ ¬ Accepted "٣" ∧ ¬ Accepted "1\n\n" ∧
      Token.scan "1.2.3" = .ok [.number "1.2.3"] ∧ ∃ m, value "1.2.3" = .error m := by
  obtain ⟨-, -, hvalue, hstep, herror, hscanned⟩ := value_exact
  have hspells : Spells "012.50\n" "012.50".toList := .inr (by decide)
  have hform : WellFormed "012.50".toList := by decide
  have hscan : Token.scan "1.2.3" = .ok [.number "1.2.3"] := by decide +kernel
  have hrefused : ∀ s, value s = .error (.invalidNumber s) → ¬ Accepted s := fun s h => ((herror s _).mp h).2
  obtain ⟨d, hd, hreads⟩ := hvalue _ _ hspells hform
  refine ⟨hspells, hform, ⟨d, hd, hreads.negative, ?_, ?_, fun ctx => hstep _ d hd ctx []⟩, hrefused _ (by decide),
    hrefused _ (by decide), hrefused _ (by decide), hrefused _ (by decide), hscan, ?_⟩
  · rw [hreads.coefficient]
    decide
  · exact hreads.pointed "012".toList "50".toList (by decide)
  · exact (hscanned _ _ _ hscan List.mem_cons_self).mpr (.inr (by decide))

end Numeral

end Reckoner
