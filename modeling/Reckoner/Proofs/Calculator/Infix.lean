import Reckoner.Proofs.Overflow
import Reckoner.Proofs.Calculator.Written
import Reckoner.Proofs.Token.Separate

/-!
# Calculator — what is accepted is infix

A text is accepted if the number of its values comes out at one.  If its operands stand apart and no percent sign begins one that is not a number (`Token.Joined`), this takes an operand on either side of every binary operator and one behind every negation; and if there are no percent signs and no empty groups either, operators between operands take operands that stand apart: `infix_of_commit`.

The conditions cannot be left out: `accepts_malformed`.
-/

namespace Reckoner.Calculator

open Token (Joined Infixed Filled Numbered Separate Percentless)
open Decimal (Signal)

variable {c : Calculator} {text : String} {ts : List Token} {o : Outcome}

/-- What has a value has a postfix order that leaves one. -/
theorem walk_of_valueOf {v : Decimal} (h : valueOf c.context text = .ok v)
    (hscan : Token.scan text = .ok ts) : ∃ rpn, Token.toPostfix ts = .ok rpn ∧ Token.walk 0 rpn = some 1 := by
  obtain ⟨ts', rpn, hscan', hrpn, hvalue⟩ := valueOf_eq_ok_iff.mp h
  obtain rfl := Except.ok.inj (hscan.symm.trans hscan')
  obtain ⟨x, hrun, -⟩ := evaluate_eq_ok_iff.mp hvalue
  exact ⟨rpn, hrpn, Token.walk_of_run hrun⟩

/-- The tally of a text with a value is one. -/
theorem one_le_tally {v : Decimal} (h : valueOf c.context text = .ok v) (hscan : Token.scan text = .ok ts)
    (hseparate : Separate ts) : 1 ≤ Token.tally false false false ts := by
  obtain ⟨rpn, hrpn, hwalk⟩ := walk_of_valueOf h hscan
  have hapart : Token.Apart ts := by
    refine List.IsChain.imp (fun t u h hnumber => h ⟨?_, hnumber.2⟩) hseparate
    cases t <;> first | rfl | cases hnumber.1
  have hle : ((1 : ℕ) + Token.owed [] : ℤ) ≤ (0 : ℕ) + Token.tally false false false ts :=
    Token.walk_toPostfixFrom hapart (Token.legible_of_scan hscan).scanned hrpn hwalk (fun h => by cases h) rfl
      Token.shares_false
  simpa [Token.owed] using hle

/-- **What has a value is infix**, if its operands stand apart. -/
theorem infix_of_valueOf {v : Decimal} (h : valueOf c.context text = .ok v)
    (hscan : Token.scan text = .ok ts) (hjoined : Joined ts) :
    Infixed ts ∧ (Numbered ts → Filled ts) := by
  have hone := one_le_tally h hscan hjoined.separate
  have hcap : ∀ seen, Token.cap seen false none = 0 := fun seen => Token.cap_eq fun _ _ => rfl
  have hmost : Token.tally false false false ts ≤ 1 - Token.cap false false none :=
    Token.tally_le (.start hjoined false) rfl
  rw [hcap] at hmost
  have hplaced := Token.placed_of_tally_eq (.start hjoined false) rfl (fun _ h => by cases h)
    (by rw [hcap]; exact le_antisymm hmost hone)
  refine ⟨Token.infix_of_placed hplaced, fun hnumbered => ?_⟩
  have hfilled := Token.placed_of_tally_eq (.start hjoined true) rfl (fun _ h => by cases h)
    (by rw [hcap, Token.tally_of_numbered hnumbered]; exact le_antisymm hmost hone)
  exact hfilled.filled

/-- **What is accepted is infix.**  A text that does not overflow has a mistake, or its tokens are well-formed infix if their operands stand apart; and then no group is empty either, if no percent sign stands in front of the first number.  Conversely, if there are no percent signs and no empty groups, the operands of well-formed infix stand apart. -/
theorem infix_of_commit {s : Settings} {c : Calculator} (hc : Setup.ofSettings s = .ok c) (text : String) :
    c.commit text = .error .overflow ∨ ∃ o, c.commit text = .ok o ∧ (o.isError = true ∨
      ∃ ts, Token.scan text = .ok ts ∧ (Joined ts → Infixed ts ∧ (Numbered ts → Filled ts)) ∧
        (Percentless ts → Filled ts → Infixed ts → Separate ts)) := by
  obtain ⟨ctx, hd⟩ := display_of_ofSettings hc
  cases hcommit : c.commit text with
  | error s =>
    rw [commit_eq_error_iff, compute_eq_signal_iff hd] at hcommit
    exact .inl (congrArg Except.error hcommit.1)
  | ok o =>
    refine .inr ⟨o, rfl, ?_⟩
    cases herror : o.isError with
    | true => exact .inl rfl
    | false =>
      obtain ⟨display, hcompute, -⟩ := commit_eq_ok_iff.mp ⟨hcommit, herror⟩
      rw [compute_eq] at hcompute
      obtain ⟨v, hvalue, -⟩ := Evaluation.bind_eq_ok_iff.mp hcompute
      obtain ⟨ts, -, hscan, -⟩ := valueOf_eq_ok_iff.mp hvalue
      obtain ⟨rpn, hrpn, hwalk⟩ := walk_of_valueOf hvalue hscan
      exact .inr ⟨ts, hscan, infix_of_valueOf hvalue hscan,
        fun hts hfilled hinfixed => Token.separate_of_walk hts hfilled hinfixed hrpn hwalk⟩

/-- A percent sign may stand in front of a negative number. -/
theorem infix_of_commit_signed :
    Setup.ofSettings {} = .ok (.ofSettings {}) ∧
    (∃ ts, Token.scan "-2×(3+5%)÷5%--4" = .ok ts ∧ Joined ts ∧ Numbered ts ∧ Infixed ts ∧ Filled ts) ∧
    ∃ ts, Token.scan "-2×(3+5)÷-4" = .ok ts ∧ Percentless ts ∧ Filled ts ∧ Infixed ts ∧ Separate ts := by
  have hc : Setup.ofSettings {} = .ok (.ofSettings {}) := rfl
  have hpercent : (ofSettings {}).commit "-2×(3+5%)÷5%--4" =
      .ok { expression := "-2×(3+5%)÷5%--4", display := "-31.5" } := by decide +kernel
  have hplain : (ofSettings {}).commit "-2×(3+5)÷-4" =
      .ok { expression := "-2×(3+5)÷-4", display := "4" } := by decide +kernel
  have hjoined : (Token.scan "-2×(3+5%)÷5%--4").toOption.any (fun ts => Joined ts ∧ Numbered ts) = true := by
    decide +kernel
  have hinfixed : (Token.scan "-2×(3+5)÷-4").toOption.any
      (fun ts => Percentless ts ∧ Filled ts ∧ Infixed ts) = true := by decide +kernel
  refine ⟨hc, ?_, ?_⟩
  · obtain h | ⟨o, h, herror | ⟨ts, hscan, hts, -⟩⟩ := infix_of_commit hc "-2×(3+5%)÷5%--4"
    · rw [hpercent] at h; cases h
    · rw [hpercent] at h; cases h; cases herror
    · rw [hscan] at hjoined
      obtain ⟨hjoined, hnumbered⟩ := of_decide_eq_true hjoined
      exact ⟨ts, hscan, hjoined, hnumbered, (hts hjoined).1, (hts hjoined).2 hnumbered⟩
  · obtain h | ⟨o, h, herror | ⟨ts, hscan, -, hts⟩⟩ := infix_of_commit hc "-2×(3+5)÷-4"
    · rw [hplain] at h; cases h
    · rw [hplain] at h; cases h; cases herror
    · rw [hscan] at hinfixed
      obtain ⟨hpercentless, hfilled, hinfixed⟩ := of_decide_eq_true hinfixed
      exact ⟨ts, hscan, hpercentless, hfilled, hinfixed, hts hpercentless hfilled hinfixed⟩

/-- **Not everything that is accepted is infix.**  A number behind a group makes up for an operator without a right operand.  A percent sign that finds a single value takes none away, which makes up for an operand that is missing behind it or in a group before it; one that takes a value away, or an operator in front of an empty group, makes up for operands side by side. -/
theorem accepts_malformed :
    ((ofSettings {}).commit "(1)2+" = .ok { expression := "(1)2+", display := "3" } ∧
      ∃ ts, Token.scan "(1)2+" = .ok ts ∧ ¬ Separate ts ∧ ¬ Infixed ts) ∧
    ((ofSettings {}).commit "5%-" = .ok { expression := "5%-", display := "0.05" } ∧
      ∃ ts, Token.scan "5%-" = .ok ts ∧ Separate ts ∧ ¬ Infixed ts) ∧
    ((ofSettings {}).commit "5%-+3" = .ok { expression := "5%-+3", display := "3.05" } ∧
      ∃ ts, Token.scan "5%-+3" = .ok ts ∧ Separate ts ∧ ¬ Infixed ts) ∧
    ((ofSettings {}).commit "5%(3+)" = .ok { expression := "5%(3+)", display := "0.08" } ∧
      ∃ ts, Token.scan "5%(3+)" = .ok ts ∧ Separate ts ∧ ¬ Infixed ts) ∧
    ((ofSettings {}).commit "5%-(3+)" = .ok { expression := "5%-(3+)", display := "0.02" } ∧
      ∃ ts, Token.scan "5%-(3+)" = .ok ts ∧ Separate ts ∧ ¬ Infixed ts) ∧
    ((ofSettings {}).commit "()%1" = .ok { expression := "()%1", display := "0.01" } ∧
      ∃ ts, Token.scan "()%1" = .ok ts ∧ Joined ts ∧ ¬ Filled ts) ∧
    ((ofSettings {}).commit "(2)3%" = .ok { expression := "(2)3%", display := "0.06" } ∧
      ∃ ts, Token.scan "(2)3%" = .ok ts ∧ Filled ts ∧ Infixed ts ∧ ¬ Separate ts) ∧
    ((ofSettings {}).commit "2(3)+()" = .ok { expression := "2(3)+()", display := "5" } ∧
      ∃ ts, Token.scan "2(3)+()" = .ok ts ∧ Percentless ts ∧ Infixed ts ∧ ¬ Separate ts) := by
  refine ⟨⟨?_, _, rfl, ?_⟩, ⟨?_, _, rfl, ?_⟩, ⟨?_, _, rfl, ?_⟩, ⟨?_, _, rfl, ?_⟩, ⟨?_, _, rfl, ?_⟩,
    ⟨?_, _, rfl, ?_⟩, ⟨?_, _, rfl, ?_⟩, ?_, _, rfl, ?_⟩ <;> decide +kernel

end Reckoner.Calculator
