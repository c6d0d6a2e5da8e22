import Reckoner.Proofs.Token.Scan

/-!
# Token — only the signs of a text count

Blanks and the spelling of an operator make no difference: the tokens of a text, or the kind of the mistake in it, are a function of its `Expression.signs` (`scan_kind`).  The form kept in the history has the same signs (`signs_canonical`).  At a sign that ends a numeral a text can be cut in two that are read apart (`ofSigns_separator`).
-/

namespace Reckoner

namespace Text

variable {p : Char → Bool}

theorem filter_trimmedList (p : Char → Bool) (cs : List Char) :
    (trimmedList p cs).filter (!p ·) = cs.filter (!p ·) := by
  have hdrop : ∀ cs : List Char, (cs.dropWhile p).filter (!p ·) = cs.filter (!p ·) := by
    intro cs
    induction cs with
    | nil => rfl
    | cons c cs ih =>
      by_cases hc : p c = true
      · rw [List.dropWhile_cons_of_pos hc, ih, List.filter_cons_of_neg (by simp [hc])]
      · rw [List.dropWhile_cons_of_neg hc]
  rw [trimmedList, List.filter_reverse, hdrop, List.filter_reverse, List.reverse_reverse, hdrop]

theorem trimmedList_map {f : Char → Char} (hf : ∀ c, p (f c) = p c) (cs : List Char) :
    trimmedList p (cs.map f) = (trimmedList p cs).map f := by
  have hp : p ∘ f = p := funext hf
  rw [trimmedList, trimmedList, List.dropWhile_map, hp, ← List.map_reverse, List.dropWhile_map, hp,
    ← List.map_reverse]

/-- Trimmed once, nothing is left to trim. -/
theorem trimmedList_trimmedList (p : Char → Bool) (cs : List Char) :
    trimmedList p (trimmedList p cs) = trimmedList p cs := by
  have hfront : (trimmedList p cs).dropWhile p = trimmedList p cs := by
    refine List.dropWhile_eq_self_iff.mpr fun hpos => ?_
    -- what is left begins as the text does without the blanks in front
    have hbegins : trimmedList p cs <+: cs.dropWhile p := List.rdropWhile_prefix p _
    rw [hbegins.getElem hpos]
    exact List.dropWhile_eq_self_iff.mp (List.dropWhile_idempotent p cs) _
  rw [trimmedList, hfront]
  exact List.rdropWhile_idempotent p _

theorem trimmedList_eq_nil_iff {p : Char → Bool} {cs : List Char} :
    trimmedList p cs = [] ↔ cs.filter (!p ·) = [] := by
  constructor
  · intro h
    rw [← filter_trimmedList, h, List.filter_nil]
  · intro h
    have hall : ∀ c ∈ cs, p c = true := by simpa using List.filter_eq_nil_iff.mp h
    rw [trimmedList, List.dropWhile_eq_nil_iff.mpr hall]
    rfl

theorem mem_of_mem_trimmedList {cs : List Char} {c : Char} (h : c ∈ trimmedList p cs) : c ∈ cs := by
  rw [trimmedList, List.mem_reverse] at h
  exact (List.dropWhile_suffix _).subset (List.mem_reverse.mp ((List.dropWhile_suffix _).subset h))

@[simp] theorem signs_trim (s : String) : Expression.signs (trim s) = Expression.signs s := by
  rw [Expression.signs, trim, trimmed, String.toList_ofList, filter_trimmedList, Expression.signs]

theorem isEmpty_trim_iff {s : String} : (trim s).isEmpty = true ↔ Expression.signs s = [] := by
  rw [String.isEmpty_iff, trim, trimmed, String.ofList_eq_empty_iff, trimmedList_eq_nil_iff,
    Expression.signs, List.map_eq_nil_iff]

end Text

namespace Expression

theorem isBlank_spelling (c : Char) : Text.isBlank (spelling c) = Text.isBlank c := by
  by_cases h₁ : c = '*'
  · subst h₁; decide
  · by_cases h₂ : c = '/'
    · subst h₂; decide
    · rw [spelling, if_neg h₁, if_neg h₂]

@[simp] theorem signs_append (a b : String) : signs (a ++ b) = signs a ++ signs b := by
  simp [signs]

@[simp] theorem signs_lparen : signs "(" = ['('] := by decide

@[simp] theorem signs_rparen : signs ")" = [')'] := by decide

/-- The form kept in the history has the signs of the text. -/
@[simp] theorem signs_canonical (s : String) : signs (canonical s) = signs s := by
  rw [signs, canonical, String.toList_ofList, List.filter_map, List.map_map, signs,
    ← Text.filter_trimmedList Text.isBlank s.toList]
  congr 1
  · exact funext spelling_spelling
  · exact congrArg (List.filter · _) (funext fun c => congrArg not (isBlank_spelling c))

@[simp] theorem canonical_canonical (s : String) : canonical (canonical s) = canonical s := by
  have htrim : Text.trimmedList Text.isBlank (canonical s).toList
      = (Text.trimmedList Text.isBlank s.toList).map spelling := by
    rw [canonical, String.toList_ofList, Text.trimmedList_map isBlank_spelling,
      Text.trimmedList_trimmedList]
  have hspelling : spelling ∘ spelling = spelling := funext spelling_spelling
  rw [canonical, htrim, List.map_map, hspelling]
  rfl

/-- The characters of the form kept in the history are those of the text, in the spelling kept. -/
theorem exists_of_mem_canonical {s : String} {c : Char} (h : c ∈ (canonical s).toList) :
    ∃ d ∈ s.toList, spelling d = c := by
  rw [canonical, String.toList_ofList] at h
  obtain ⟨d, hd, rfl⟩ := List.mem_map.mp h
  exact ⟨d, Text.mem_of_mem_trimmedList hd, rfl⟩

theorem isEmpty_canonical_iff {s : String} : (canonical s).isEmpty = true ↔ signs s = [] := by
  rw [String.isEmpty_iff, canonical, String.ofList_eq_empty_iff, List.map_eq_nil_iff,
    Text.trimmedList_eq_nil_iff, signs, List.map_eq_nil_iff]

@[simp] theorem trim_canonical (s : String) : Text.trim (canonical s) = canonical s := by
  rw [Text.trim, Text.trimmed, canonical, String.toList_ofList,
    Text.trimmedList_map isBlank_spelling, Text.trimmedList_trimmedList]

end Expression

/-! ### Reading -/

namespace Glyph

/-- The token of a sign that ends a numeral. -/
def token? : Glyph → Option Token
  | digit _ | point => none
  | op o => some (.op o)
  | percent => some (.percent none)
  | lparen => some .lparen
  | rparen => some .rparen

theorem ofChars_eq_error {cs : List Char} (position : Nat)
    (h : ∃ c ∈ cs, Text.isBlank c = false ∧ ofChar? c = none) :
    ∃ c i, ofChars position cs = .error (.invalidCharacter c i) := by
  induction cs generalizing position with
  | nil =>
    obtain ⟨c, hc, -⟩ := h
    cases hc
  | cons d cs ih =>
    rw [ofChars]
    by_cases hblank : Text.isBlank d = true
    · rw [if_pos hblank]
      refine ih _ ?_
      obtain ⟨c, hc, hcblank, hnone⟩ := h
      rcases List.mem_cons.mp hc with rfl | hc
      · rw [hblank] at hcblank; cases hcblank
      · exact ⟨c, hc, hcblank, hnone⟩
    · rw [if_neg hblank]
      cases hd : ofChar? d with
      | none => exact ⟨d, position, rfl⟩
      | some g =>
        obtain ⟨c, hc, hcblank, hnone⟩ := h
        rcases List.mem_cons.mp hc with rfl | hc
        · rw [hd] at hnone; cases hnone
        · obtain ⟨c', i, herror⟩ := ih (position + 1) ⟨c, hc, hcblank, hnone⟩
          exact ⟨c', i, by simp only [herror]; rfl⟩

end Glyph

namespace Token

open Glyph (ofChar?)
open Expression (signs)

/-- The tokens of characters none of which is blank. -/
def ofSigns (cs : List Char) : Except Mistake.Kind (List Token) :=
  if cs.all fun c => (ofChar? c).isSome then .ok (ofGlyphs [] (cs.filterMap ofChar?))
  else .error .invalidCharacter

theorem all_signs (s : String) : ((signs s).all fun c => (ofChar? c).isSome) = true ↔
    ∀ c ∈ s.toList, Text.isBlank c = false → (ofChar? c).isSome = true := by
  simp [signs, Glyph.ofChar?_spelling, or_iff_not_imp_left]

/-- **Only the signs count.** -/
theorem scan_kind (s : String) : (scan s).mapError Mistake.kind = ofSigns (signs s) := by
  rw [ofSigns, scan, Glyph.ofText]
  split
  · next h =>
    rw [Glyph.ofChars_eq 0 ((all_signs s).mp h), filterMap_signs]
    rfl
  · next h =>
    have hforeign : ∃ c ∈ s.toList, Text.isBlank c = false ∧ ofChar? c = none := by
      simpa using mt (all_signs s).mpr h
    obtain ⟨c, i, herror⟩ := Glyph.ofChars_eq_error 0 hforeign
    rw [herror]
    rfl

theorem scan_eq_ok_iff {s : String} {ts : List Token} : scan s = .ok ts ↔ ofSigns (signs s) = .ok ts := by
  rw [← scan_kind]
  cases scan s <;> simp [Except.mapError]

/-! ### Cutting a text -/

theorem ofGlyphs_separator {g : Glyph} {t : Token} (h : g.token? = some t) (run : List Char)
    (gs gs' : List Glyph) : ofGlyphs run (gs ++ g :: gs') = ofGlyphs run gs ++ t :: ofGlyphs [] gs' := by
  induction gs generalizing run with
  | nil =>
    cases g with
    | digit _ | point => cases h
    | op _ | percent | lparen | rparen => cases h; rfl
  | cons g' gs ih =>
    cases g' with
    | digit _ | point => exact ih _
    | op _ | percent | lparen | rparen => simp [ofGlyphs, ih]

/-- **A text can be cut** at a sign that ends a numeral. -/
theorem ofSigns_separator {c : Char} {t : Token} (h : (ofChar? c).bind Glyph.token? = some t)
    (cs ds : List Char) :
    ofSigns (cs ++ c :: ds) = (do
      let ts ← ofSigns cs
      let us ← ofSigns ds
      return ts ++ t :: us) := by
  obtain ⟨g, hg, ht⟩ := Option.bind_eq_some_iff.mp h
  have hglyphs : (cs ++ c :: ds).filterMap ofChar? = cs.filterMap ofChar? ++ g :: ds.filterMap ofChar? := by
    rw [List.filterMap_append, List.filterMap_cons_some hg]
  simp only [ofSigns, hglyphs, ofGlyphs_separator ht, List.all_append, List.all_cons, hg]
  cases cs.all fun c => (ofChar? c).isSome <;> cases ds.all fun c => (ofChar? c).isSome <;> rfl

/-- A group is cut out at its parentheses. -/
theorem ofSigns_group (cs ds es : List Char) :
    ofSigns (cs ++ '(' :: (ds ++ ')' :: es)) = (do
      let ts ← ofSigns cs
      let us ← ofSigns ds
      let vs ← ofSigns es
      return ts ++ .lparen :: (us ++ .rparen :: vs)) := by
  rw [ofSigns_separator (t := .lparen) rfl, ofSigns_separator (t := .rparen) rfl]
  simp only [bind_assoc, pure_bind]

end Token

end Reckoner
