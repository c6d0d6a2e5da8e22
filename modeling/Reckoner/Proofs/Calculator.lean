import Mathlib
import Reckoner.Calculator

/-!
# Calculator — three doors to one value

`valueOf` is the value of a text before it is rounded for display.  `preview`, `commit` and `trace` all come to this value and let a signal through exactly if `compute` raises it; blanks alone, which two of them do not compute, raise none.
-/

namespace Reckoner

theorem Text.all_of_trimmedList_eq_nil {p : Char → Bool} {cs : List Char}
    (h : Text.trimmedList p cs = []) : ∀ c ∈ cs, p c = true := by
  rw [Text.trimmedList, List.reverse_eq_nil_iff, List.dropWhile_eq_nil_iff] at h
  intro c hc
  rw [← List.takeWhile_append_dropWhile (p := p) (l := cs), List.mem_append] at hc
  rcases hc with hc | hc
  · exact List.mem_takeWhile_imp hc
  · exact h c (List.mem_reverse.mpr hc)

namespace Calculator

open Decimal (Signal)
open Evaluation (ok_bind mapError_ok bind_eq_error_iff map_eq_error_iff mapError_eq_error_iff)

/-- The value of a text. -/
def valueOf (ctx : Decimal.Context) (text : String) : Except Failure Decimal := do
  let tokens ← (Token.scan text).mapError .mistake
  let rpn ← (Token.toPostfix tokens).mapError .mistake
  evaluate ctx rpn

variable {c : Calculator} {text : String} {s : Signal}

theorem compute_eq (c : Calculator) (text : String) :
    c.compute text = valueOf c.context text >>= fun v => (c.shown v).mapError .signal := by
  simp only [compute, valueOf, bind_assoc]

/-! ### Blanks -/

theorem ofChars_of_blank {cs : List Char} (h : ∀ c ∈ cs, Text.isBlank c = true) (position : Nat) :
    Glyph.ofChars position cs = .ok [] := by
  induction cs generalizing position with
  | nil => rfl
  | cons c cs ih =>
    rw [Glyph.ofChars, if_pos (h c List.mem_cons_self)]
    exact ih (fun d hd => h d (List.mem_cons_of_mem _ hd)) _

/-- Blanks alone leave no value, and that is a mistake. -/
theorem compute_of_blank (h : Text.trimmedList Text.isBlank text.toList = []) :
    c.compute text = .error (.mistake (.leftover 0)) := by
  have hscan : Token.scan text = .ok [] := by
    rw [Token.scan, Glyph.ofText, ofChars_of_blank (Text.all_of_trimmedList_eq_nil h)]
    rfl
  rw [compute, hscan]
  rfl

theorem compute_of_isEmpty_trim (h : (Text.trim text).isEmpty = true) :
    c.compute text = .error (.mistake (.leftover 0)) := by
  refine compute_of_blank ?_
  simpa [Text.trim, Text.trimmed, String.isEmpty_iff] using h

theorem compute_of_isEmpty_canonical (h : (Expression.canonical text).isEmpty = true) :
    c.compute text = .error (.mistake (.leftover 0)) := by
  refine compute_of_blank ?_
  simpa [Expression.canonical, String.isEmpty_iff] using h

/-! ### Signals -/

theorem settle_eq_error_iff {α : Type} {r : Except Failure α} :
    settle r = .error s ↔ r = .error (.signal s) := by
  rcases r with (m | s') | a <;> simp [settle]

theorem preview_eq_error_iff : c.preview text = .error s ↔ c.compute text = .error (.signal s) := by
  have hglance : c.preview text = .error s ↔ c.glance text = .error s := by
    rw [preview, bind_eq_error_iff, or_iff_left]
    rintro ⟨_ | _ | _, -, h⟩ <;> cases h
  rw [hglance, glance]
  split
  · next h => simp [compute_of_isEmpty_trim h]
  · rw [map_eq_error_iff, settle_eq_error_iff]

theorem commit_eq_error_iff : c.commit text = .error s ↔ c.compute text = .error (.signal s) := by
  rw [commit, map_eq_error_iff, attempt]
  split
  · next h => simp [compute_of_isEmpty_canonical h]
  · rw [settle_eq_error_iff]

theorem trace_eq_error_iff : c.trace text = .error s ↔ c.compute text = .error (.signal s) := by
  rw [trace, compute]
  cases Token.scan text with
  | error m => simp
  | ok tokens =>
    simp only [mapError_ok, ok_bind]
    cases Token.toPostfix tokens with
    | error m => simp
    | ok rpn =>
      simp only [mapError_ok, ok_bind]
      rcases evaluate c.context rpn with (m | s') | v
      · simp
      · simp
      · simp [map_eq_error_iff, mapError_eq_error_iff]

end Calculator

end Reckoner
