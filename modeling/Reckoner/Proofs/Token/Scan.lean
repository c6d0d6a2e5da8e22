import Mathlib
import Reckoner.Decimal.Extended
import Reckoner.Expression
import Reckoner.Token.Scan

/-!
# Token — the tokens a text writes

A text writes tokens if, without its blanks and in one spelling of each operator, it is their texts one after another (`Writes`).  `scan_of_writes`: the tokens are read back from every such text if they can be told apart there (`Legible`), that is, if their numerals consist of digits and points and no two of them stand side by side.
-/

namespace Reckoner

open Decimal (isDigit)

/-- The characters that are not blank, each in the spelling kept. -/
def Expression.signs (s : String) : List Char :=
  (s.toList.filter (!Text.isBlank ·)).map Expression.spelling

namespace Token

/-- The texts of the tokens, one after another. -/
def written (ts : List Token) : List Char := ts.flatMap (·.text.toList)

/-- The text is that of the tokens, up to blanks and spelling. -/
def Writes (s : String) (ts : List Token) : Prop := Expression.signs s = written ts

instance (s : String) (ts : List Token) : Decidable (Writes s ts) :=
  inferInstanceAs (Decidable (_ = _))

/-- A token as the scanner makes them: a numeral is made of digits and points, and nothing is marked. -/
def Scanned : Token → Prop
  | num n => (n.text.toList ≠ [] ∧ ∀ c ∈ n.text.toList, isDigit c = true ∨ c = '.') ∧ n.target = none
  | percent target => target = none
  | op _ | lparen | rparen => True

/-- Tokens that a text can keep apart: no two numerals side by side. -/
structure Legible (ts : List Token) : Prop where
  scanned : ∀ t ∈ ts, t.Scanned
  apart : ts.IsChain fun t u => ¬ (t.isNumber = true ∧ u.isNumber = true)

end Token

/-! ### Signs -/

namespace Glyph

theorem ofChar?_spelling (c : Char) : ofChar? (Expression.spelling c) = ofChar? c := by
  by_cases h₁ : c = '*'
  · subst h₁; decide
  · by_cases h₂ : c = '/'
    · subst h₂; decide
    · rw [Expression.spelling, if_neg h₁, if_neg h₂]

theorem ofChar?_of_isDigit {c : Char} (h : isDigit c = true) :
    ∃ d, ofChar? c = some (.digit d) ∧ digitChar d = c := by
  obtain ⟨hlow, hhigh⟩ : 48 ≤ c.toNat ∧ c.toNat ≤ 57 := by
    simpa [isDigit, Char.le_def, UInt32.le_iff_toNat_le] using h
  obtain ⟨d, hd⟩ : ∃ d : Fin 10, c.toNat = 0x30 + d := ⟨⟨c.toNat - 0x30, by omega⟩, by simp; omega⟩
  have hc : digitChar d = c := by rw [digitChar, ← hd, Char.ofNat_toNat]
  exact ⟨d, by rw [← hc, ofChar?_digitChar], hc⟩

theorem ofChar?_text {t : Token} (ht : t.Scanned) {c : Char} (hc : c ∈ t.text.toList) :
    (ofChar? c).isSome = true := by
  cases t with
  | num n =>
    rcases ht.1.2 c hc with h | rfl
    · obtain ⟨d, hd, -⟩ := ofChar?_of_isDigit h
      simp [hd]
    · rfl
  | op o => cases o <;> (obtain rfl := List.mem_singleton.mp hc; rfl)
  | percent _ =>
    obtain rfl : c = '%' := List.mem_singleton.mp (show c ∈ "%".toList from hc)
    rfl
  | lparen | rparen => obtain rfl := List.mem_singleton.mp hc; rfl

/-- If every character but the blanks is a sign, the signs are read. -/
theorem ofChars_eq {cs : List Char} (position : Nat)
    (h : ∀ c ∈ cs, Text.isBlank c = false → (ofChar? c).isSome = true) :
    ofChars position cs = .ok (cs.filterMap ofChar?) := by
  induction cs generalizing position with
  | nil => rfl
  | cons c cs ih =>
    have ih := fun position => ih position fun d hd => h d (List.mem_cons_of_mem _ hd)
    rw [ofChars]
    split
    · next hblank => rw [ih, List.filterMap_cons_none (ofChar?_eq_none_of_isBlank hblank)]
    · next hblank =>
      obtain ⟨g, hg⟩ := Option.isSome_iff_exists.mp
        (h c List.mem_cons_self (Bool.eq_false_iff.mpr hblank))
      rw [hg, ih, List.filterMap_cons_some hg]
      rfl

end Glyph

namespace Token

open Glyph (ofChar?)

theorem filterMap_signs (s : String) :
    (Expression.signs s).filterMap ofChar? = s.toList.filterMap ofChar? := by
  rw [Expression.signs, List.filterMap_map, List.filterMap_filter]
  congr 1
  funext c
  cases hblank : Text.isBlank c with
  | false => simpa using Glyph.ofChar?_spelling c
  | true => simpa using (Glyph.ofChar?_eq_none_of_isBlank hblank).symm

/-- A text that writes tokens is read as their signs. -/
theorem Writes.ofText_eq {s : String} {ts : List Token} (hs : Writes s ts)
    (ht : ∀ t ∈ ts, t.Scanned) : Glyph.ofText s = .ok ((written ts).filterMap ofChar?) := by
  rw [← hs, filterMap_signs]
  refine Glyph.ofChars_eq 0 fun c hc hblank => ?_
  have hmem : Expression.spelling c ∈ written ts := by
    rw [← hs]
    exact List.mem_map_of_mem (List.mem_filter.mpr ⟨hc, by simp [hblank]⟩)
  obtain ⟨t, hmem, hc⟩ := List.mem_flatMap.mp hmem
  rw [← Glyph.ofChar?_spelling]
  exact Glyph.ofChar?_text (ht t hmem) hc

/-! ### Tokens -/

/-- Digits and points go on with the numeral that is being read. -/
theorem ofGlyphs_append {cs : List Char} (hcs : ∀ c ∈ cs, isDigit c = true ∨ c = '.')
    (run : List Char) (gs : List Glyph) :
    ofGlyphs run (cs.filterMap ofChar? ++ gs) = ofGlyphs (cs.reverse ++ run) gs := by
  induction cs generalizing run with
  | nil => rfl
  | cons c cs ih =>
    have ih := ih (fun d hd => hcs d (List.mem_cons_of_mem _ hd)) (c :: run)
    rw [List.reverse_cons, List.append_assoc, List.singleton_append, ← ih]
    rcases hcs c List.mem_cons_self with h | rfl
    · obtain ⟨d, hd, rfl⟩ := Glyph.ofChar?_of_isDigit h
      rw [List.filterMap_cons_some hd]
      rfl
    · rw [List.filterMap_cons_some (show ofChar? '.' = some .point from rfl)]
      rfl

theorem written_cons (t : Token) (ts : List Token) :
    (written (t :: ts)).filterMap ofChar?
      = t.text.toList.filterMap ofChar? ++ (written ts).filterMap ofChar? := by
  rw [written, List.flatMap_cons, List.filterMap_append]
  rfl

theorem pendingNumeral_reverse {n : Numeral} (hn : (num n).Scanned) :
    pendingNumeral n.text.toList.reverse = [num n] := by
  obtain ⟨text, target, hmark⟩ := n
  obtain ⟨⟨hne, -⟩, htarget⟩ := hn
  obtain rfl : target = none := htarget
  rw [pendingNumeral, List.reverse_reverse, String.ofList_toList]
  · rfl
  · simpa using hne

/-- Behind an unfinished numeral `run` no other one may begin. -/
theorem ofGlyphs_written {ts : List Token} (h : Legible ts) (run : List Char)
    (hrun : run ≠ [] → ∀ t ∈ ts.head?, t.isNumber = false) :
    ofGlyphs run ((written ts).filterMap ofChar?) = pendingNumeral run ++ ts := by
  induction ts generalizing run with
  | nil => exact (List.append_nil _).symm
  | cons t ts ih =>
    have ht := h.scanned t List.mem_cons_self
    have hts : Legible ts := ⟨fun u hu => h.scanned u (List.mem_cons_of_mem _ hu), h.apart.tail⟩
    have ih₀ := ih hts [] (fun h => absurd rfl h)
    rw [written_cons]
    cases t with
    | num n =>
      -- the numeral is read to its end, and what comes next is none
      obtain rfl : run = [] := by
        by_contra hne
        cases hrun hne _ rfl
      have hnext : ∀ u ∈ ts.head?, u.isNumber = false := fun u hu => by
        cases ts with
        | nil => cases hu
        | cons v us =>
          obtain rfl : v = u := by simpa using hu
          simpa [isNumber, kind] using (List.isChain_cons_cons.mp h.apart).1
      have happend := ofGlyphs_append ht.1.2 [] ((written ts).filterMap ofChar?)
      rw [List.append_nil, ih hts _ fun _ => hnext, pendingNumeral_reverse ht] at happend
      exact happend
    | op o => cases o <;> exact congrArg (pendingNumeral run ++ _ :: ·) ih₀
    | percent target =>
      obtain rfl : target = none := ht
      exact congrArg (pendingNumeral run ++ percent none :: ·) ih₀
    | lparen => exact congrArg (pendingNumeral run ++ lparen :: ·) ih₀
    | rparen => exact congrArg (pendingNumeral run ++ rparen :: ·) ih₀

/-- **Tokens are read back** from every text that writes them, whatever its blanks and spellings. -/
theorem scan_of_writes {s : String} {ts : List Token} (hs : Writes s ts) (hts : Legible ts) :
    scan s = .ok ts := by
  rw [scan, hs.ofText_eq hts.scanned]
  exact congrArg Except.ok (ofGlyphs_written hts [] fun h => absurd rfl h)

end Token

end Reckoner
