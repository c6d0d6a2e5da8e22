import Reckoner.Proofs.Calculator.Verdict
import Reckoner.Proofs.Token.Reading
import Reckoner.Terminal.Encoding

/-!
# Terminal — what is shown can be typed

What is shown of a text is what its bytes in the encoding of the terminal say.  If the text has bytes, it is shown as it is; if not, the bytes are those of the text with the multiplication and division signs of ASCII, and a question mark for every character without bytes (`encode_shown`).  The form of an expression kept in the history has none of these characters, and the signs of ASCII are read like the others, so that what is shown of it is read as the expression itself: `shown_typed`.
-/

namespace Reckoner.Terminal.Encoding

open Expression (canonical signs spelling)

variable {e : Encoding} {s : String} {c : Char} {cs : List Char}

/-! ### Bytes -/

/-- The bytes of a character, if the encoding has any for it. -/
def bytes? : Encoding → Char → Option (List UInt8)
  | utf8, c => some (String.utf8EncodeChar c)
  | ascii, c => if c.toNat < 0x80 then some [c.toNat.toUInt8] else none
  | latin1, c => if c.toNat < 0x100 then some [c.toNat.toUInt8] else none

/-- The bytes of characters, if each of them has some. -/
def bytesOf? (e : Encoding) : List Char → Option (List UInt8)
  | [] => some []
  | c :: cs => do return (← e.bytes? c) ++ (← e.bytesOf? cs)

/-- The bytes of a text, if it can be encoded. -/
def encode (e : Encoding) (s : String) : Option (List UInt8) := e.bytesOf? s.toList

/-- The bytes of a text, with a question mark for every character that has none. -/
def encodeReplacing (e : Encoding) (s : String) : List UInt8 :=
  s.toList.flatMap fun c => (e.bytes? c).getD ['?'.toNat.toUInt8]

/-- The ASCII spelling of a character: `*` for `×`, `/` for `÷`. -/
def asciiSpelling (c : Char) : Char := if c = '×' then '*' else if c = '÷' then '/' else c

/-- The text with the multiplication and division signs of ASCII. -/
def asciiSpelled (s : String) : String := .ofList (s.toList.map asciiSpelling)

theorem isSome_bytes? (e : Encoding) (c : Char) : (e.bytes? c).isSome = e.holds c := by
  cases e with
  | utf8 => rfl
  | ascii | latin1 => rw [bytes?, holds]; split <;> simp_all

theorem isSome_bytesOf? : (e.bytesOf? cs).isSome = cs.all e.holds := by
  induction cs with
  | nil => rfl
  | cons c cs ih =>
    rw [List.all_cons, ← ih, ← isSome_bytes?, bytesOf?]
    cases e.bytes? c <;> cases e.bytesOf? cs <;> rfl

/-- A text can be encoded if all of its characters can. -/
theorem isSome_encode_iff : (e.encode s).isSome = true ↔ ∀ c ∈ s.toList, e.holds c = true := by
  rw [encode, isSome_bytesOf?, List.all_eq_true]

/-! ### Substitutes -/

theorem holds_of_ascii (hc : c.toNat < 0x80) : e.holds c = true := by
  cases e with
  | utf8 => rfl
  | ascii => exact decide_eq_true hc
  | latin1 => exact decide_eq_true (hc.trans (by decide))

theorem substitute_eq (e : Encoding) (c : Char) :
    e.substitute c = if e.holds (asciiSpelling c) then asciiSpelling c else '?' := by
  have hascii : e.holds '*' = true ∧ e.holds '/' = true :=
    ⟨holds_of_ascii (by decide), holds_of_ascii (by decide)⟩
  rw [substitute, asciiSpelling]
  split_ifs <;> simp_all

theorem holds_substitute (e : Encoding) (c : Char) : e.holds (e.substitute c) = true := by
  rw [substitute_eq]
  split
  · assumption
  · exact holds_of_ascii (by decide)

/-- A substitute has the bytes of the character it stands for, or those of a question mark. -/
theorem bytes?_substitute (e : Encoding) (c : Char) : e.bytes? (e.substitute c)
    = some ((e.bytes? (asciiSpelling c)).getD ['?'.toNat.toUInt8]) := by
  rw [substitute_eq, ← isSome_bytes?]
  cases h : e.bytes? (asciiSpelling c) with
  | some bytes => exact h
  | none =>
    show e.bytes? '?' = some ['?'.toNat.toUInt8]
    cases e <;> decide

/-! ### Shown texts -/

theorem shown_of_encode (h : (e.encode s).isSome = true) : e.shown s = s :=
  if_pos (List.all_eq_true.mpr (isSome_encode_iff.mp h))

theorem shown_of_encode_eq_none (h : e.encode s = none) :
    e.shown s = .ofList (s.toList.map e.substitute) := by
  refine if_neg fun hall => ?_
  rw [encodes, ← isSome_bytesOf?, ← encode, h] at hall
  cases hall

theorem holds_shown (e : Encoding) (s : String) : ∀ c ∈ (e.shown s).toList, e.holds c = true := by
  cases h : e.encode s with
  | some bytes =>
    have hs : (e.encode s).isSome = true := by rw [h]; rfl
    rw [shown_of_encode hs]
    exact isSome_encode_iff.mp hs
  | none =>
    intro c hc
    rw [shown_of_encode_eq_none h, String.toList_ofList] at hc
    obtain ⟨d, -, rfl⟩ := List.mem_map.mp hc
    exact holds_substitute e d

/-- **What is shown is what the bytes say**, those of the text or those of its substitutes. -/
theorem encode_shown (e : Encoding) (s : String) :
    e.encode (e.shown s) = some ((e.encode s).getD (e.encodeReplacing (asciiSpelled s))) := by
  cases h : e.encode s with
  | some bytes =>
    rw [shown_of_encode (by rw [h]; rfl), h]
    rfl
  | none =>
    rw [shown_of_encode_eq_none h, encode, encodeReplacing, asciiSpelled, String.toList_ofList,
      String.toList_ofList, Option.getD_none]
    induction s.toList with
    | nil => rfl
    | cons c cs ih => simp [bytesOf?, bytes?_substitute, ih]

theorem length_shown (e : Encoding) (s : String) : (e.shown s).length = s.length := by
  rw [shown]
  split
  · rfl
  · rw [String.length_ofList, List.length_map, String.length_toList]

/-! ### Typed back -/

/-- Every sign but two is an ASCII character. -/
theorem ascii_of_mem_alphabet (hc : c ∈ Glyph.alphabet) : c = '×' ∨ c = '÷' ∨ c.toNat < 0x80 := by
  have hall : (Glyph.alphabet.all fun d => d == '×' || d == '÷' || d.toNat < 0x80) = true := by decide
  simpa [or_assoc] using List.all_eq_true.mp hall c hc

/-- What stands for a sign or a blank is read like it, if there are bytes for the blank. -/
theorem spelling_substitute (hblank : Text.isBlank c = true → e.holds c = true)
    (hc : ¬ Expression.Foreign c) :
    Text.isBlank (e.substitute c) = Text.isBlank c ∧ spelling (e.substitute c) = spelling c := by
  by_cases hmul : c = '×'
  · subst hmul
    rw [substitute, if_pos rfl]
    decide
  by_cases hdiv : c = '÷'
  · subst hdiv
    rw [substitute, if_neg hmul, if_pos rfl]
    decide
  have hholds : e.holds c = true := by
    cases hb : Text.isBlank c with
    | true => exact hblank hb
    | false =>
      have hmem : c ∈ Glyph.alphabet := by_contra fun h => hc ⟨hb, h⟩
      exact holds_of_ascii (((ascii_of_mem_alphabet hmem).resolve_left hmul).resolve_left hdiv)
  rw [substitute, if_neg hmul, if_neg hdiv, if_pos hholds]
  exact ⟨rfl, rfl⟩

/-- What is shown of a text without foreign characters has its signs. -/
theorem signs_shown (hblank : ∀ c ∈ s.toList, Text.isBlank c = true → e.holds c = true)
    (hs : ∀ c ∈ s.toList, ¬ Expression.Foreign c) : signs (e.shown s) = signs s := by
  rw [shown]
  split
  · rfl
  · have hread : ∀ c ∈ s.toList, Text.isBlank (e.substitute c) = Text.isBlank c ∧
        spelling (e.substitute c) = spelling c :=
      fun c hc => spelling_substitute (hblank c hc) (hs c hc)
    rw [signs, signs, String.toList_ofList, List.filter_map, List.map_map]
    have hfilter : s.toList.filter ((!Text.isBlank ·) ∘ e.substitute) = s.toList.filter (!Text.isBlank ·) :=
      List.filter_congr fun c hc => congrArg not (hread c hc).1
    rw [hfilter]
    exact List.map_congr_left fun c hc => (hread c (List.mem_of_mem_filter hc)).2

/-- A blank is kept as it is spelled. -/
theorem spelling_of_isBlank (hc : Text.isBlank c = true) : spelling c = c := by
  have hne : c ≠ '*' ∧ c ≠ '/' := ⟨by rintro rfl; exact absurd hc (by decide), by rintro rfl; exact absurd hc (by decide)⟩
  rw [spelling, if_neg hne.1, if_neg hne.2]

/-- What is shown of the form kept in the history has the signs of the expression. -/
theorem signs_shown_canonical {text : String} {ts : List Token} (hscan : Token.scan text = .ok ts)
    (hblank : ∀ c ∈ text.toList, Text.isBlank c = true → c.toNat < 0x80) :
    signs (e.shown (canonical text)) = signs text := by
  rw [signs_shown, Expression.signs_canonical]
  · intro c hc hb
    obtain ⟨d, hd, rfl⟩ := Expression.exists_of_mem_canonical hc
    rw [Expression.isBlank_spelling] at hb
    rw [spelling_of_isBlank hb]
    exact holds_of_ascii (hblank d hd hb)
  · intro c hc
    obtain ⟨d, hd, rfl⟩ := Expression.exists_of_mem_canonical hc
    exact mt Expression.foreign_spelling.mp (Token.exists_scan_iff.mp ⟨ts, hscan⟩ d hd)

/-- **What is shown can be typed back.**  It can be encoded, by the bytes of the text if there are any and by those of its substitutes otherwise, it has as many characters as the text, is the text if that can be encoded, and is shown as it is.  What is shown of the form of an expression kept in the history is read as the same tokens, so that it has the same value and gets the same verdict, provided that its blanks are those of ASCII. -/
theorem shown_typed (e : Encoding) :
    (∀ s, e.encode (e.shown s) = some ((e.encode s).getD (e.encodeReplacing (asciiSpelled s))) ∧
      (e.shown s).length = s.length ∧
      ((e.encode s).isSome = true → e.shown s = s) ∧
      e.shown (e.shown s) = e.shown s) ∧
    ∀ text ts, Token.scan text = .ok ts →
      (∀ c ∈ text.toList, Text.isBlank c = true → c.toNat < 0x80) →
      Token.scan (e.shown (canonical text)) = .ok ts ∧
      (∀ ctx, Calculator.valueOf ctx (e.shown (canonical text)) = Calculator.valueOf ctx text) ∧
      ∀ c : Calculator,
        Outcome.verdict <$> c.commit (e.shown (canonical text)) = Outcome.verdict <$> c.commit text := by
  refine ⟨fun s => ⟨encode_shown e s, length_shown e s, shown_of_encode, ?_⟩, ?_⟩
  · exact shown_of_encode (isSome_encode_iff.mpr (holds_shown e s))
  · intro text ts hscan hblank
    have hsigns := signs_shown_canonical (e := e) hscan hblank
    have hshown : Token.scan (e.shown (canonical text)) = .ok ts := by
      rw [Token.scan_eq_ok_iff, hsigns]
      exact Token.scan_eq_ok_iff.mp hscan
    refine ⟨hshown, fun ctx => ?_, fun c => ?_⟩
    · rw [Calculator.valueOf_eq_valueOfTokens, Calculator.valueOf_eq_valueOfTokens, hshown, hscan]
    · exact Calculator.verdict_commit_congr (congrArg c.displayOfSigns hsigns)

/-- The signs of ASCII stand in for the others as soon as one character has no bytes, even where the encoding has bytes for them. -/
theorem shown_typed_spaced :
    latin1.encode "2×Ω" = none ∧ latin1.shown "2×Ω" = "2*?" ∧ latin1.shown "2×3" = "2×3" ∧
      latin1.shown "2*?" = "2*?" ∧ ascii.shown (canonical " 2*( 3÷4 )\t") = "2*( 3/4 )" ∧
      Token.scan "2*( 3/4 )" = Token.scan " 2*( 3÷4 )\t" ∧
      ∀ c : Calculator, Outcome.verdict <$> c.commit "2*( 3/4 )" = Outcome.verdict <$> c.commit " 2*( 3÷4 )\t" := by
  have hnone : latin1.encode "2×Ω" = none := by decide +kernel
  have hforeign : latin1.shown "2×Ω" = "2*?" := by decide +kernel
  have hshown : ascii.shown (canonical " 2*( 3÷4 )\t") = "2*( 3/4 )" := by decide +kernel
  obtain ⟨ts, hscan⟩ : ∃ ts, Token.scan " 2*( 3÷4 )\t" = .ok ts := Token.exists_scan_iff.mpr (by decide +kernel)
  have hblank : (" 2*( 3÷4 )\t".toList.all fun c => !Text.isBlank c || c.toNat < 0x80) = true := by decide +kernel
  obtain ⟨hlatin1, -⟩ := shown_typed latin1
  obtain ⟨-, -, -, hfixed⟩ := hlatin1 "2×Ω"
  obtain ⟨-, hread⟩ := shown_typed ascii
  obtain ⟨htokens, -, hverdict⟩ := hread _ ts hscan fun c hc hb => by
    simpa [hb] using List.all_eq_true.mp hblank c hc
  rw [hforeign] at hfixed
  rw [hshown] at htokens hverdict
  exact ⟨hnone, hforeign, (hlatin1 "2×3").2.2.1 (by decide +kernel), hfixed, hshown, htokens.trans hscan.symm, hverdict⟩

end Reckoner.Terminal.Encoding
