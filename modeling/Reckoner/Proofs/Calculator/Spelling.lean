import Reckoner.Proofs.Terminal.Doors
import Reckoner.Proofs.Token.Reading

/-!
# Calculator — texts of the same signs

Two texts have the same signs if they are the same text without blanks and in one spelling of each operator.  Then the same tokens are read from both, or the same foreign character is found first, if at different places (`scan_cases`), and nothing behind the reader sees a difference: `spelling_free`.
-/

namespace Reckoner

open Expression (Foreign FirstForeign signs spelling)

variable {a b : String}

/-! ### Reading -/

namespace Expression

/-- A foreign character has one spelling. -/
theorem spelling_of_foreign {c : Char} (h : Foreign c) : spelling c = c := by
  have hne : ∀ d ∈ Glyph.alphabet, c ≠ d := fun d hd => by rintro rfl; exact h.2 hd
  rw [spelling, if_neg (hne '*' (by decide)), if_neg (hne '/' (by decide))]

theorem exists_firstForeign {cs : List Char} {c : Char} :
    (∃ front, FirstForeign cs front c) ↔ cs.find? (Foreign ·) = some c := by
  rw [List.find?_eq_some_iff_append]
  constructor
  · rintro ⟨front, ⟨back, rfl⟩, hfront, hc⟩
    exact ⟨decide_eq_true hc, front, back, rfl, fun d hd => by simpa using hfront d hd⟩
  · rintro ⟨hc, front, back, rfl, hfront⟩
    exact ⟨front, ⟨back, rfl⟩, fun d hd => by simpa using hfront d hd, of_decide_eq_true hc⟩

/-- A text and its signs have the same first foreign character. -/
theorem find?_signs (s : String) : (signs s).find? (Foreign ·) = s.toList.find? (Foreign ·) := by
  have hforeign : ∀ c, ((!Text.isBlank c) = true ∧ decide (Foreign (spelling c)) = true) ↔ Foreign c := fun c => by
    rw [decide_eq_true_iff, foreign_spelling, Bool.not_eq_true', and_iff_right_iff_imp]
    exact And.left
  have hfind : (signs s).find? (Foreign ·) = (s.toList.find? (Foreign ·)).map spelling := by
    simp only [signs, List.find?_map, List.find?_filter, Function.comp_apply, hforeign]
  rw [hfind]
  cases h : s.toList.find? (Foreign ·) with
  | none => rfl
  | some c => exact congrArg some (spelling_of_foreign (by simpa using List.find?_some h))

end Expression

/-- **Texts of the same signs** are read as the same tokens, or the same foreign character comes first in them. -/
theorem Token.scan_cases (h : signs a = signs b) :
    (∃ ts, scan a = .ok ts ∧ scan b = .ok ts) ∨
      ∃ c i j, scan a = .error (.invalidCharacter c i) ∧ scan b = .error (.invalidCharacter c j) := by
  cases ha : scan a with
  | ok ts => exact .inl ⟨ts, rfl, scan_eq_ok_iff.mpr (h ▸ scan_eq_ok_iff.mp ha)⟩
  | error m =>
    obtain ⟨front, c, hfirst, rfl⟩ := scan_eq_error_iff.mp ha
    have hfind := Expression.exists_firstForeign.mp ⟨front, hfirst⟩
    rw [← Expression.find?_signs, h, Expression.find?_signs] at hfind
    obtain ⟨front', hfirst'⟩ := Expression.exists_firstForeign.mpr hfind
    exact .inr ⟨c, _, _, rfl, scan_eq_error_iff.mpr ⟨front', c, hfirst', rfl⟩⟩

/-! ### Answering -/

/-- Traces that differ in nothing but the text and the place of a foreign character. -/
structure Trace.Matches (t u : Trace) : Prop where
  tokens : t.tokens = u.tokens
  rpn : t.rpn = u.rpn
  value : t.value? = u.value?
  display : t.display = u.display
  errorKind : t.errorKind? = u.errorKind?
  errorMessage : t.errorMessage? = u.errorMessage? ∨
    ∃ c i j, t.mistake? = some (.invalidCharacter c i) ∧ u.mistake? = some (.invalidCharacter c j)

/-- They differ in nothing but the text. -/
theorem Trace.Matches.of_eq {t u : Trace} {expression : String} (h : { t with expression } = u) : t.Matches u := by
  subst h
  exact ⟨rfl, rfl, rfl, rfl, rfl, .inl rfl⟩

namespace Calculator

open Decimal (Signal)
open Evaluation (Alike)

variable (c : Calculator)

/-- What is shown while a text is typed whose signs are displayed so, or fail so. -/
def shownOfSigns : Except (Mistake.Kind ⊕ Signal) String → Except Signal String
  | .ok display => .ok display
  | .error (.inl _) => .ok ""
  | .error (.inr s) => .error s

theorem preview_eq_shownOfSigns (text : String) :
    c.preview text = shownOfSigns (c.displayOfSigns (signs text)) := by
  rw [preview_eq, ← compute_kind]
  rcases c.compute text with (m | s) | display <;> rfl

theorem trace_matches (h : signs a = signs b) : Alike Trace.Matches (c.trace a) (c.trace b) := by
  rw [trace, trace]
  obtain ⟨ts, ha, hb⟩ | ⟨x, i, j, ha, hb⟩ := Token.scan_cases h
  · rw [ha, hb]
    dsimp only
    cases Token.toPostfix ts with
    | error m => exact .ok (.of_eq rfl)
    | ok rpn =>
      dsimp only
      rcases evaluate c.context rpn with (m | s) | v
      · exact .ok (.of_eq rfl)
      · exact .error s
      · cases hshown : c.shown v with
        | error s => simp only [hshown]; exact .error s
        | ok display => simp only [hshown]; exact .ok (.of_eq rfl)
  · rw [ha, hb]
    exact .ok ⟨rfl, rfl, rfl, rfl, rfl, .inr ⟨x, i, j, rfl, rfl⟩⟩

/-- **Spelling and spacing never matter.**  Texts of the same signs are shown alike while they are typed, get the same verdict when they are finished, and are traced alike but for the text and the place of a foreign character.  The form of a text kept in the history is even answered by the same outcome. -/
theorem spelling_free (c : Calculator) :
    (∀ a b, signs a = signs b →
      c.preview a = c.preview b ∧
      Outcome.verdict <$> c.commit a = Outcome.verdict <$> c.commit b ∧
      Alike Trace.Matches (c.trace a) (c.trace b)) ∧
    ∀ a, c.commit (Expression.canonical a) = c.commit a := by
  refine ⟨fun a b h => ⟨?_, ?_, trace_matches c h⟩, commit_canonical c⟩
  · rw [preview_eq_shownOfSigns, preview_eq_shownOfSigns, h]
  · exact verdict_commit_congr (congrArg c.displayOfSigns h)

/-- Blanks inside a numeral and another spelling of the operators go unnoticed, and so does where a foreign character is found. -/
theorem spelling_free_blanks :
    let c := ofSettings {}
    signs "1 0*(2/4)" = signs " 10×( 2÷4 )" ∧ signs "2 * $" = signs "2×$" ∧
      c.preview "1 0*(2/4)" = c.preview " 10×( 2÷4 )" ∧
      Outcome.verdict <$> c.commit "2 * $" = Outcome.verdict <$> c.commit "2×$" ∧
      Alike Trace.Matches (c.trace "2 * $") (c.trace "2×$") ∧
      c.trace "2 * $" ≠ c.trace "2×$" := by
  intro c
  have hnumeral : signs "1 0*(2/4)" = signs " 10×( 2÷4 )" := by decide +kernel
  have hforeign : signs "2 * $" = signs "2×$" := by decide +kernel
  obtain ⟨hspelling, -⟩ := spelling_free c
  obtain ⟨hpreview, -, -⟩ := hspelling _ _ hnumeral
  obtain ⟨-, hcommit, htrace⟩ := hspelling _ _ hforeign
  exact ⟨hnumeral, hforeign, hpreview, hcommit, htrace, by decide +kernel⟩

end Calculator

end Reckoner
