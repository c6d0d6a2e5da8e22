import Reckoner.Proofs.Calculator.Written

/-!
# Calculator — results are fixed points

A result typed in again is its own result.  `trace` gives back the value it is given in plain notation, and `commit` the display it is given, whatever the two contexts of a calculator are: what is displayed fits both of them (`displayed`), and display depends on the value only.

The notation may have more digits than the contexts keep, zeros in front of the point that stand for an exponent; rounding gives these back.
-/

namespace Reckoner.Calculator

open Decimal (Context Signal)
open Evaluation (ok_bind mapError_ok mapError_eq_ok_iff bind_eq_ok_iff map_eq_ok_iff)

variable {c : Calculator} {ctx : Context} {text : String} {v w : Decimal}

/-! ### Display -/

/-- What fits the display is shown as it is, but for trailing zeros. -/
theorem display_of_fits (h : ctx.Fits v) : v.display ctx = .ok v.bare.plain := by
  have hplus := Decimal.toRat_plus ctx v
  rw [h.delivered] at hplus
  obtain ⟨r, hr, hvalue⟩ := map_eq_ok_iff.mp hplus
  rw [Decimal.display_eq, hr]
  exact congrArg Except.ok (Decimal.plain_bare_eq_of_toRat_eq hvalue)

theorem shown_congr (c : Calculator) (h : v.toRat = w.toRat) : c.shown v = c.shown w := by
  rw [shown, shown]
  simp only [Decimal.display_eq_of_toRat_eq _ h]

/-- **What is displayed** is a number that fits both contexts, and is displayed so itself. -/
theorem displayed {display : String} (hv : ctx.Final v) (h : c.shown v = .ok display) :
    ∃ r, ctx.Final r ∧ r.plain = display ∧ c.shown r = .ok display := by
  obtain ⟨other, hother, h⟩ := bind_eq_ok_iff.mp h
  rw [Decimal.display_eq] at h
  obtain ⟨r, hr, rfl⟩ := map_eq_ok_iff.mp h
  rw [Decimal.plus_eq_round hv.signed] at hr
  have hshown : c.shown r.bare = .ok r.bare.plain := by
    rw [shown_congr c (Decimal.toRat_bare r), shown, hother, ok_bind]
    exact display_of_fits (Decimal.fits_of_round hr)
  exact ⟨r.bare, Decimal.final_bare (hv.toFits.round hr), rfl, hshown⟩

/-! ### Successful ways through a calculator -/

theorem compute_eq_ok_iff {display : String} : c.compute text = .ok display ↔
    ∃ v, valueOf c.context text = .ok v ∧ c.shown v = .ok display := by
  simp only [compute_eq, bind_eq_ok_iff, mapError_eq_ok_iff]

/-- A trace with a value ends with its display, and with no mistake. -/
theorem trace_of_valueOf {display : String} (hv : valueOf c.context text = .ok v)
    (hdisplay : c.shown v = .ok display) : ∃ t, c.trace text = .ok t ∧
      t.value? = some v.plain ∧ t.display = display ∧ t.mistake? = none := by
  obtain ⟨ts, rpn, hts, hrpn, hv⟩ := valueOf_eq_ok_iff.mp hv
  let t : Trace :=
    { expression := Expression.canonical text
      tokens := ts
      rpn
      value? := some v.plain
      display }
  refine ⟨t, ?_, rfl, rfl, rfl⟩
  simp only [trace, hts, hrpn, hv, hdisplay]
  rfl

/-- The value of a trace is that of the text. -/
theorem valueOf_of_trace {t : Trace} {s : String} (h : c.trace text = .ok t)
    (hs : t.value? = some s) :
    ∃ v, valueOf c.context text = .ok v ∧ s = v.plain ∧ c.shown v = .ok t.display := by
  rw [trace] at h
  split at h
  · cases h; cases hs
  · next ts hts =>
    split at h
    · cases h; cases hs
    · next rpn hrpn =>
      split at h
      · cases h; cases hs
      · cases h
      · next v hv =>
        obtain ⟨display, hdisplay, h⟩ := bind_eq_ok_iff.mp h
        cases h
        cases hs
        exact ⟨v, valueOf_eq_ok_iff.mpr ⟨ts, rpn, hts, hrpn, hv⟩, rfl, hdisplay⟩

/-- The value of a number written out is shown as the number is. -/
theorem valueOf_shown {display : String} (hv : ctx.Final v) (hdisplay : c.shown v = .ok display) :
    ∃ r, valueOf ctx v.plain = .ok r ∧ r.plain = v.plain ∧ c.shown r = .ok display := by
  obtain ⟨r, hr, hplain, hvalue⟩ := valueOf_plain hv
  exact ⟨r, hr, hplain, by rw [shown_congr c hvalue, hdisplay]⟩

/-! ### Fixed points -/

/-- **Results are fixed points**, those of `trace` digit by digit, and those of `commit` as they are displayed. -/
theorem results_fixed (c : Calculator) (text : String) :
    (∀ t s, c.trace text = .ok t → t.value? = some s → ∃ t', c.trace s = .ok t' ∧
      t'.value? = some s ∧ t'.display = t.display ∧ t'.mistake? = none) ∧
    (∀ o, c.commit text = .ok o → o.isError = false → ∃ o', c.commit o.display = .ok o' ∧
      o'.isError = false ∧ o'.display = o.display) := by
  constructor
  · intro t s ht hs
    obtain ⟨v, hv, rfl, hdisplay⟩ := valueOf_of_trace ht hs
    obtain ⟨r, hr, hplain, hshown⟩ := valueOf_shown (final_of_valueOf hv) hdisplay
    rw [← hplain]
    exact trace_of_valueOf (hplain ▸ hr) hshown
  · intro o ho herror
    obtain ⟨display, hcompute, rfl⟩ := commit_eq_ok_iff.mp ⟨ho, herror⟩
    obtain ⟨v, hv, hdisplay⟩ := compute_eq_ok_iff.mp hcompute
    obtain ⟨r, hfinal, rfl, hshown⟩ := displayed (final_of_valueOf hv) hdisplay
    obtain ⟨w, hw, -, hwshown⟩ := valueOf_shown hfinal hshown
    have hcompute := compute_eq_ok_iff.mpr ⟨w, hw, hwshown⟩
    obtain ⟨hcommit, hsuccess⟩ := commit_eq_ok_iff.mpr ⟨_, hcompute, rfl⟩
    exact ⟨_, hcommit, hsuccess, rfl⟩

/-- Two thirds of a hundred thousand, kept to four digits, are written with five. -/
theorem results_fixed_rounded :
    let c : Calculator := { settings := {}, context := { precision := 4 } }
    (∃ t, c.trace "-200000/3" = .ok t ∧ t.value? = some "-66670") ∧
      (∃ o, c.commit "-200000/3" = .ok o ∧ o.isError = false ∧ o.display = "-66670") ∧
      (∃ t', c.trace "-66670" = .ok t' ∧ t'.value? = some "-66670" ∧ t'.display = "-66670" ∧
        t'.mistake? = none) ∧
      ∃ o', c.commit "-66670" = .ok o' ∧ o'.isError = false ∧ o'.display = "-66670" := by
  intro c
  have htrace : (fun t : Trace => (t.value?, t.display)) <$> c.trace "-200000/3"
      = .ok (some "-66670", "-66670") := by decide +kernel
  have hcommit : (fun o : Outcome => (o.isError, o.display)) <$> c.commit "-200000/3"
      = .ok (false, "-66670") := by decide +kernel
  obtain ⟨t, ht, heq⟩ := map_eq_ok_iff.mp htrace
  obtain ⟨hvalue, hdisplay⟩ := Prod.mk.inj heq
  obtain ⟨o, ho, heq⟩ := map_eq_ok_iff.mp hcommit
  obtain ⟨hsuccess, hshown⟩ := Prod.mk.inj heq
  obtain ⟨htraces, hcommits⟩ := results_fixed c "-200000/3"
  refine ⟨⟨t, ht, hvalue⟩, ⟨o, ho, hsuccess, hshown⟩, ?_, ?_⟩
  · obtain ⟨t', ht', hvalue', hdisplay', hmistake⟩ := htraces t _ ht hvalue
    exact ⟨t', ht', hvalue', hdisplay'.trans hdisplay, hmistake⟩
  · rw [← hshown]
    exact hcommits o ho hsuccess

end Reckoner.Calculator
