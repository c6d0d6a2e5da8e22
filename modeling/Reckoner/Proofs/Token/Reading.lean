import Reckoner.Evaluation
import Reckoner.Proofs.Numeral
import Reckoner.Proofs.Token.Signs

/-!
# Token — what a text is read as

The first foreign character of a text, one that is neither blank nor writes a sign, is the mistake its reader reports (`scan_eq_error_iff`).  A text without one writes the tokens that are read from it (`writes_of_scan`, `legible_of_scan`), so these can be described by the text alone: their numerals are the maximal runs of digits and points among its signs (`numeralTexts_of_scan`).
-/

namespace Reckoner

open Decimal (isDigit)

/-! ### Foreign characters -/

namespace Glyph

/-- The characters that write a sign. -/
def alphabet : List Char :=
  ['0', '1', '2', '3', '4', '5', '6', '7', '8', '9', '.', '(', ')', '+', '-', '*', '/', '×', '÷', '%']

theorem isSome_ofChar?_iff {c : Char} : (ofChar? c).isSome = true ↔ c ∈ alphabet := by
  refine ⟨fun h => ?_, fun h => ?_⟩
  · unfold ofChar? at h
    split at h
    rotate_right
    · cases h
    all_goals decide
  · have hall : (alphabet.all fun d => (ofChar? d).isSome) = true := by decide
    exact List.all_eq_true.mp hall c h

end Glyph

/-- A character that is neither blank nor writes a sign. -/
def Expression.Foreign (c : Char) : Prop := Text.isBlank c = false ∧ c ∉ Glyph.alphabet

instance : DecidablePred Expression.Foreign := fun c =>
  inferInstanceAs (Decidable (Text.isBlank c = false ∧ c ∉ Glyph.alphabet))

instance Expression.decidableNoForeign (cs : List Char) : Decidable (∀ c ∈ cs, ¬ Foreign c) :=
  List.decidableBAll _ cs

namespace Expression

theorem foreign_iff {c : Char} : Foreign c ↔ Text.isBlank c = false ∧ Glyph.ofChar? c = none := by
  rw [Foreign, ← Glyph.isSome_ofChar?_iff, Bool.not_eq_true, Option.isSome_eq_false_iff,
    Option.isNone_iff_eq_none]

theorem foreign_spelling {c : Char} : Foreign (spelling c) ↔ Foreign c := by
  rw [foreign_iff, foreign_iff, isBlank_spelling, Glyph.ofChar?_spelling]

/-- `c` is the first foreign character of the characters, and `front` stands before it. -/
def FirstForeign (cs front : List Char) (c : Char) : Prop :=
  (∃ back, cs = front ++ c :: back) ∧ (∀ d ∈ front, ¬ Foreign d) ∧ Foreign c

theorem firstForeign_cons {cs front : List Char} {c d : Char} : FirstForeign (d :: cs) front c ↔
    (front = [] ∧ d = c ∧ Foreign c) ∨ ∃ front', front = d :: front' ∧ ¬ Foreign d ∧ FirstForeign cs front' c := by
  constructor
  · rintro ⟨⟨back, hcs⟩, hfront, hc⟩
    cases front with
    | nil => cases hcs; exact .inl ⟨rfl, rfl, hc⟩
    | cons e front =>
      cases hcs
      exact .inr ⟨front, rfl, hfront _ List.mem_cons_self, ⟨back, rfl⟩,
        fun x hx => hfront x (List.mem_cons_of_mem _ hx), hc⟩
  · rintro (⟨rfl, rfl, hc⟩ | ⟨front, rfl, hd, ⟨back, rfl⟩, hfront, hc⟩)
    · exact ⟨⟨cs, rfl⟩, nofun, hc⟩
    · exact ⟨⟨back, rfl⟩, List.forall_mem_cons.mpr ⟨hd, hfront⟩, hc⟩

/-- Where there is a foreign character, there is a first one. -/
theorem exists_firstForeign_iff {cs : List Char} :
    (∃ front c, FirstForeign cs front c) ↔ ∃ c ∈ cs, Foreign c := by
  constructor
  · rintro ⟨front, c, ⟨back, rfl⟩, -, hc⟩
    exact ⟨c, by simp, hc⟩
  · rintro ⟨c, hmem, hc⟩
    induction cs with
    | nil => cases hmem
    | cons d cs ih =>
      by_cases hd : Foreign d
      · exact ⟨[], d, firstForeign_cons.mpr (.inl ⟨rfl, rfl, hd⟩)⟩
      · have hmem : c ∈ cs := (List.mem_cons.mp hmem).resolve_left fun h => hd (h ▸ hc)
        obtain ⟨front, e, hfirst⟩ := ih hmem
        exact ⟨d :: front, e, firstForeign_cons.mpr (.inr ⟨front, rfl, hd, hfirst⟩)⟩

end Expression

open Expression (Foreign FirstForeign signs)

/-- **The first foreign character is reported**, with its index. -/
theorem Glyph.ofChars_eq_error_iff {cs : List Char} {position : ℕ} {m : Mistake} :
    ofChars position cs = .error m ↔
      ∃ front c, FirstForeign cs front c ∧ m = .invalidCharacter c (position + front.length) := by
  induction cs generalizing position with
  | nil =>
    refine iff_of_false nofun ?_
    rintro ⟨front, c, ⟨⟨back, h⟩, -⟩, -⟩
    cases front <;> cases h
  | cons d cs ih =>
    -- behind a character that is not foreign the index is one more
    have hgo : ¬ Foreign d → (ofChars (position + 1) cs = .error m ↔
        ∃ front c, FirstForeign (d :: cs) front c ∧
          m = .invalidCharacter c (position + front.length)) := by
      intro hd
      simp only [ih, Expression.firstForeign_cons]
      constructor
      · rintro ⟨front, c, hfirst, rfl⟩
        exact ⟨d :: front, c, .inr ⟨front, rfl, hd, hfirst⟩, by rw [List.length_cons]; ring_nf⟩
      · rintro ⟨front, c, ⟨-, rfl, hc⟩ | ⟨front, rfl, -, hfirst⟩, rfl⟩
        · exact absurd hc hd
        · exact ⟨front, c, hfirst, by rw [List.length_cons]; ring_nf⟩
    have hforeign := Expression.foreign_iff (c := d)
    rw [ofChars]
    by_cases hblank : Text.isBlank d = true
    · rw [if_pos hblank]
      exact hgo (by simp [hforeign, hblank])
    · rw [if_neg hblank]
      cases hd : ofChar? d with
      | some g =>
        simp only [Evaluation.map_eq_error_iff]
        exact hgo (by simp [hforeign, hd])
      | none =>
        have hd : Foreign d := hforeign.mpr ⟨Bool.eq_false_iff.mpr hblank, hd⟩
        simp only [Except.error.injEq, Expression.firstForeign_cons]
        constructor
        · rintro rfl
          exact ⟨[], d, .inl ⟨rfl, rfl, hd⟩, rfl⟩
        · rintro ⟨front, c, ⟨rfl, rfl, -⟩ | ⟨_, -, hnot, -⟩, rfl⟩
          · rfl
          · exact absurd hd hnot

namespace Token

open Glyph (ofChar?)

variable {s : String} {ts : List Token} {m : Mistake}

theorem scan_eq_error_iff : scan s = .error m ↔
    ∃ front c, FirstForeign s.toList front c ∧ m = .invalidCharacter c front.length := by
  rw [scan, Evaluation.map_eq_error_iff, Glyph.ofText, Glyph.ofChars_eq_error_iff]
  simp only [Nat.zero_add]

/-- A text is read exactly if no character of it is foreign. -/
theorem exists_scan_iff : (∃ ts, scan s = .ok ts) ↔ ∀ c ∈ s.toList, ¬ Foreign c := by
  constructor
  · rintro ⟨ts, hscan⟩ c hc hforeign
    obtain ⟨front, d, hfirst⟩ := Expression.exists_firstForeign_iff.mpr ⟨c, hc, hforeign⟩
    rw [scan_eq_error_iff.mpr ⟨front, d, hfirst, rfl⟩] at hscan
    cases hscan
  · intro h
    cases hscan : scan s with
    | ok ts => exact ⟨ts, rfl⟩
    | error m =>
      obtain ⟨front, c, hfirst, -⟩ := scan_eq_error_iff.mp hscan
      obtain ⟨d, hd, hforeign⟩ := Expression.exists_firstForeign_iff.mp ⟨front, c, hfirst⟩
      exact absurd hforeign (h d hd)

/-! ### Tokens -/

end Token

namespace Glyph

/-- The character kept of a sign. -/
def char : Glyph → Char
  | digit d => digitChar d
  | point => '.'
  | op .add => '+'
  | op .sub => '-'
  | op .mul => '×'
  | op .div => '÷'
  | percent => '%'
  | lparen => '('
  | rparen => ')'

theorem char_of_ofChar? {c : Char} {g : Glyph} (h : ofChar? c = some g) :
    g.char = Expression.spelling c := by
  have hall : (alphabet.all fun d => (ofChar? d).all (·.char = Expression.spelling d)) = true := by
    decide
  have hc := List.all_eq_true.mp hall c (isSome_ofChar?_iff.mp (by rw [h]; rfl))
  rw [h] at hc
  exact of_decide_eq_true hc

theorem map_char {cs : List Char} (h : ∀ c ∈ cs, (ofChar? c).isSome = true) :
    (cs.filterMap ofChar?).map char = cs.map Expression.spelling := by
  induction cs with
  | nil => rfl
  | cons c cs ih =>
    obtain ⟨hc, hcs⟩ := List.forall_mem_cons.mp h
    obtain ⟨g, hg⟩ := Option.isSome_iff_exists.mp hc
    rw [List.filterMap_cons_some hg, List.map_cons, List.map_cons, char_of_ofChar? hg, ih hcs]

theorem text_token? {g : Glyph} {t : Token} (h : g.token? = some t) :
    t.text.toList = [g.char] ∧ t.Scanned ∧ t.isNumber = false := by
  cases g with
  | digit _ | point => cases h
  | op o => cases h; exact ⟨by cases o <;> rfl, trivial, rfl⟩
  | percent => cases h; exact ⟨rfl, rfl, rfl⟩
  | lparen | rparen => cases h; exact ⟨rfl, trivial, rfl⟩

end Glyph

/-- The characters numerals are made of. -/
def Expression.inNumeral (c : Char) : Bool := isDigit c || c == '.'

theorem Expression.inNumeral_iff {c : Char} : inNumeral c = true ↔ isDigit c = true ∨ c = '.' := by
  simp [inNumeral]

namespace Token

open Glyph (ofChar?)
open Expression (inNumeral)

variable {s : String} {ts : List Token} {m : Mistake} {run : List Char}

theorem isDigit_digitChar (d : Fin 10) : isDigit (Glyph.digitChar d) = true := by
  revert d; decide

theorem written_pendingNumeral (run : List Char) : written (pendingNumeral run) = run.reverse := by
  cases run with
  | nil => rfl
  | cons c run => simp [pendingNumeral, written, number, text]

theorem written_append (ts us : List Token) : written (ts ++ us) = written ts ++ written us :=
  List.flatMap_append

/-- Every sign that was read is written again. -/
theorem written_ofGlyphs (run : List Char) (gs : List Glyph) :
    written (ofGlyphs run gs) = run.reverse ++ gs.map Glyph.char := by
  induction gs generalizing run with
  | nil => rw [ofGlyphs, written_pendingNumeral, List.map_nil, List.append_nil]
  | cons g gs ih =>
    cases hg : g.token? with
    | none =>
      cases g with
      | digit d => rw [ofGlyphs, ih]; simp [Glyph.char]
      | point => rw [ofGlyphs, ih]; simp [Glyph.char]
      | op _ | percent | lparen | rparen => cases hg
    | some t =>
      have hseparator := ofGlyphs_separator hg run [] gs
      rw [List.nil_append] at hseparator
      have ht : written (t :: ofGlyphs [] gs) = t.text.toList ++ written (ofGlyphs [] gs) := rfl
      rw [hseparator, ofGlyphs, written_append, written_pendingNumeral, ht, ih, (Glyph.text_token? hg).1]
      simp

theorem legible_pendingNumeral (hrun : ∀ c ∈ run, inNumeral c = true) : Legible (pendingNumeral run) := by
  cases run with
  | nil => exact ⟨nofun, .nil⟩
  | cons c run =>
    refine ⟨fun t ht => ?_, List.isChain_singleton _⟩
    obtain rfl := List.mem_singleton.mp ht
    refine ⟨⟨?_, fun d hd => ?_⟩, rfl⟩
    · rw [String.toList_ofList]; simp
    · rw [String.toList_ofList, List.mem_reverse] at hd
      exact Expression.inNumeral_iff.mp (hrun d hd)

/-- A sign that ends a numeral keeps it apart from the next one. -/
theorem Legible.append_cons {us : List Token} {t : Token} (hts : Legible ts) (hus : Legible us)
    (ht : t.Scanned) (hnumber : t.isNumber = false) : Legible (ts ++ t :: us) := by
  refine ⟨fun u hu => ?_, ?_⟩
  · rcases List.mem_append.mp hu with hu | hu
    · exact hts.scanned u hu
    · rcases List.mem_cons.mp hu with rfl | hu
      · exact ht
      · exact hus.scanned u hu
  · refine List.isChain_append.mpr ⟨hts.apart, ?_, fun x _ y hy h => ?_⟩
    · refine List.isChain_cons.mpr ⟨fun y _ h => ?_, hus.apart⟩
      rw [hnumber] at h; cases h.1
    · obtain rfl : t = y := by simpa using hy
      rw [hnumber] at h; cases h.2

theorem legible_ofGlyphs (gs : List Glyph) (hrun : ∀ c ∈ run, inNumeral c = true) :
    Legible (ofGlyphs run gs) := by
  induction gs generalizing run with
  | nil => exact legible_pendingNumeral hrun
  | cons g gs ih =>
    cases hg : g.token? with
    | none =>
      cases g with
      | digit d =>
        exact ih (List.forall_mem_cons.mpr ⟨by simp [inNumeral, isDigit_digitChar], hrun⟩)
      | point => exact ih (List.forall_mem_cons.mpr ⟨rfl, hrun⟩)
      | op _ | percent | lparen | rparen => cases hg
    | some t =>
      have hseparator := ofGlyphs_separator hg run [] gs
      rw [List.nil_append] at hseparator
      obtain ⟨-, ht, hnumber⟩ := Glyph.text_token? hg
      rw [hseparator]
      exact (legible_pendingNumeral hrun).append_cons (ih nofun) ht hnumber

theorem ofGlyphs_of_scan (h : scan s = .ok ts) :
    (∀ c ∈ signs s, (ofChar? c).isSome = true) ∧ ts = ofGlyphs [] ((signs s).filterMap ofChar?) := by
  rw [scan_eq_ok_iff, ofSigns] at h
  split at h
  · next hall => cases h; exact ⟨List.all_eq_true.mp hall, rfl⟩
  · cases h

/-- **A text writes the tokens that are read from it.** -/
theorem writes_of_scan (h : scan s = .ok ts) : Writes s ts := by
  obtain ⟨hall, rfl⟩ := ofGlyphs_of_scan h
  rw [Writes, written_ofGlyphs, Glyph.map_char hall, signs, List.map_map]
  exact List.map_congr_left fun c _ => (Expression.spelling_spelling c).symm

theorem legible_of_scan (h : scan s = .ok ts) : Legible ts := by
  obtain ⟨-, rfl⟩ := ofGlyphs_of_scan h
  exact legible_ofGlyphs _ nofun

end Token

/-! ### Numerals -/

/-- The maximal runs of digits and points in a text, blanks ignored. -/
def Expression.numerals (s : String) : List (List Char) :=
  ((signs s).splitOnP (!inNumeral ·)).filter (· ≠ [])

/-- The characters of a numeral. -/
def Token.numeralText? : Token → Option (List Char)
  | num n => some n.text.toList
  | op _ | percent _ | lparen | rparen => none

namespace Token

open Expression (inNumeral)

variable {s : String} {ts : List Token}

theorem text_of_not_number {t : Token} (ht : t.isNumber = false) :
    t.numeralText? = none ∧ ∃ c, t.text.toList = [c] ∧ inNumeral c = false := by
  cases t with
  | num n => cases ht
  | op o => exact ⟨rfl, by cases o <;> exact ⟨_, rfl, by decide⟩⟩
  | percent _ => exact ⟨rfl, '%', show "%".toList = ['%'] from rfl, by decide⟩
  | lparen => exact ⟨rfl, '(', rfl, by decide⟩
  | rparen => exact ⟨rfl, ')', rfl, by decide⟩

theorem runs_written (h : Legible ts) :
    ((written ts).splitOnP (!inNumeral ·)).filter (· ≠ []) = ts.filterMap numeralText? := by
  induction ts with
  | nil => rfl
  | cons t ts ih =>
    have ih := ih ⟨fun u hu => h.scanned u (List.mem_cons_of_mem _ hu), h.apart.tail⟩
    have hwritten : written (t :: ts) = t.text.toList ++ written ts := rfl
    cases hnumber : t.isNumber with
    | false =>
      obtain ⟨hnone, c, hc, hout⟩ := text_of_not_number hnumber
      rw [hwritten, hc, List.singleton_append, List.splitOnP_cons_eq_if_modifyHead, hout,
        List.filterMap_cons_none hnone, ← ih]
      simp
    | true =>
      cases t with
      | op _ | percent _ | lparen | rparen => cases hnumber
      | num n =>
        obtain ⟨⟨hne, hchars⟩, -⟩ := h.scanned _ List.mem_cons_self
        have hchars : ∀ c ∈ n.text.toList, (!inNumeral c) = false := fun c hc => by
          rw [Expression.inNumeral_iff.mpr (hchars c hc)]; rfl
        have hsome : (num n).numeralText? = some n.text.toList := rfl
        rw [hwritten, List.filterMap_cons_some hsome]
        cases ts with
        | nil =>
          have hend : (num n).text.toList ++ written [] = n.text.toList := List.append_nil _
          rw [hend, List.splitOnP_eq_singleton hchars]
          simpa using hne
        | cons u ts =>
          -- the run ends at the next token, which is none
          have hu : u.isNumber = false := by
            simpa [isNumber, kind] using (List.isChain_cons_cons.mp h.apart).1
          obtain ⟨-, c, hc, hout⟩ := text_of_not_number hu
          have hnext : written (u :: ts) = c :: written ts := by
            rw [written, List.flatMap_cons, hc]; rfl
          rw [hnext, List.splitOnP_cons_eq_if_modifyHead, hout] at ih
          rw [hnext, ← ih, text, List.splitOnP_append_cons_of_forall_mem hchars c (by rw [hout]; rfl)]
          exact List.filter_cons_of_pos (decide_eq_true hne)

/-- **The numerals read are the maximal runs of digits and points.** -/
theorem numeralTexts_of_scan (h : scan s = .ok ts) :
    ts.filterMap numeralText? = Expression.numerals s := by
  rw [Expression.numerals, writes_of_scan h, runs_written (legible_of_scan h)]

theorem mem_numerals_iff (h : scan s = .ok ts) {cs : List Char} :
    cs ∈ Expression.numerals s ↔ ∃ n, .num n ∈ ts ∧ n.text.toList = cs := by
  rw [← numeralTexts_of_scan h, List.mem_filterMap]
  constructor
  · rintro ⟨t, ht, hcs⟩
    cases t with
    | num n => exact ⟨n, ht, Option.some.inj hcs⟩
    | op _ | percent _ | lparen | rparen => cases hcs
  · rintro ⟨n, hn, rfl⟩
    exact ⟨_, hn, rfl⟩

end Token

end Reckoner
