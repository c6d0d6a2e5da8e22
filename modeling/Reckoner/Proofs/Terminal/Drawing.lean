import Reckoner.Proofs.Calculator.Stages
import Reckoner.Terminal.Report
import Reckoner.Terminal.Screen

/-!
# Terminal — what can always be drawn

A table is drawn from texts that may hold tags, and a tag can be one that cannot be shown.  The screen shows a text in which no bracket opens a tag, whatever else it holds (`Markup.shown_of_untagged`), and draws a table of such texts (`Console.draws_screen`).  The tables that explain a text without a mistake are such tables, because a text with brackets has a mistake (`plain_of_mem_tables`).
-/

namespace Reckoner.Terminal

open Evaluation (ok_bind map_ok)

/-! ### Texts -/

open Markup (Part tag? flush partsFrom shownParts plainText)

variable {cs : List Char}

theorem untagged_of_notMem (h : '[' ∉ cs) : Untagged cs := by
  rintro front c rest rfl
  exact absurd (List.mem_append_right front List.mem_cons_self) h

/-- One bracket, and what follows it starts no tag. -/
theorem untagged_bracket {as bs : List Char} {c : Char} (has : '[' ∉ as) (hbs : '[' ∉ c :: bs)
    (hc : startsTag c = false) : Untagged (as ++ '[' :: c :: bs) := by
  intro front d rest heq
  obtain ⟨us, rfl, hus⟩ | ⟨us, rfl, hus⟩ := List.append_eq_append_iff.mp heq
  · cases us with
    | nil => cases hus; exact hc
    | cons u us =>
      have htail : c :: bs = us ++ '[' :: d :: rest := (List.cons.inj hus).2
      rw [htail] at hbs
      exact absurd (List.mem_append_right us List.mem_cons_self) hbs
  · cases us with
    | nil => cases hus; exact hc
    | cons u us =>
      obtain ⟨rfl, -⟩ := List.cons.inj hus
      exact absurd (List.mem_append_right front List.mem_cons_self) has

theorem Untagged.tail {c : Char} (h : Untagged (c :: cs)) : Untagged cs :=
  fun front d rest heq => h (c :: front) d rest (by rw [heq]; rfl)

theorem Untagged.tag?_drop (h : Untagged cs) (n : ℕ) : tag? (cs.drop n) = none := by
  unfold tag?
  split
  · next c rest hdrop =>
    have hc := h (cs.take n) c rest (by rw [← hdrop, List.take_append_drop])
    split
    · simp [hc]
    · rfl
  · rfl

theorem eq_plain_of_mem_flush {pending : List Char} {p : Part} (hp : p ∈ flush pending) :
    ∃ ds, p = .plain ds := by
  rw [flush] at hp
  split at hp
  · cases hp
  · exact ⟨_, List.mem_singleton.mp hp⟩

/-- Without a tag there is nothing but plain text. -/
theorem Untagged.eq_plain (h : Untagged cs) {position : ℕ} {pending : List Char} {p : Part}
    (hp : p ∈ partsFrom position pending cs) : ∃ ds, p = .plain ds := by
  induction cs generalizing position pending with
  | nil =>
    rw [partsFrom] at hp
    exact eq_plain_of_mem_flush hp
  | cons c cs ih =>
    rw [partsFrom] at hp
    split at hp
    · next htag =>
      rw [h.tag?_drop] at htag
      cases htag
    · exact ih h.tail hp

theorem exists_shownParts {ps : List Part} (hps : ∀ p ∈ ps, ∃ ds, p = .plain ds)
    (opened : List String) : ∃ cs, shownParts opened ps = .ok cs := by
  induction ps with
  | nil => exact ⟨[], rfl⟩
  | cons p ps ih =>
    obtain ⟨⟨ds, rfl⟩, htail⟩ := List.forall_mem_cons.mp hps
    obtain ⟨cs, hcs⟩ := ih htail
    exact ⟨plainText ds ++ cs, by rw [shownParts, hcs]; rfl⟩

/-- **A text without tags is shown.** -/
theorem Markup.shown_of_untagged {s : String} (h : Untagged s.toList) : ∃ cs, shown s = .ok cs :=
  exists_shownParts (fun _ => h.eq_plain) []

/-! ### Tables -/

theorem exists_mapM {ε α β : Type} {f : α → Except ε β} {as : List α} (h : ∀ a ∈ as, ∃ b, f a = .ok b) :
    ∃ bs, as.mapM f = .ok bs := by
  induction as with
  | nil => exact ⟨[], rfl⟩
  | cons a as ih =>
    obtain ⟨⟨b, hb⟩, has⟩ := List.forall_mem_cons.mp h
    obtain ⟨bs, hbs⟩ := ih has
    exact ⟨b :: bs, by rw [List.mapM_cons, hb, ok_bind, hbs]; rfl⟩

namespace Table

variable {t : Table}

theorem exists_laidFrom (h : t.Plain) {columns : List Column} (hsub : ∀ c ∈ columns, c ∈ t.columns)
    (i : ℕ) : ∃ ls, t.laidFrom i columns = .ok ls := by
  induction columns generalizing i with
  | nil => exact ⟨[], rfl⟩
  | cons c columns ih =>
    obtain ⟨hc, hsub⟩ := List.forall_mem_cons.mp hsub
    have hcells : ∀ s ∈ (if t.hasHeader then [c.header] else []) ++ c.cells,
        ∃ cs, Markup.shown s = .ok cs := by
      intro s hs
      refine Markup.shown_of_untagged ?_
      rcases List.mem_append.mp hs with hs | hs
      · split at hs
        · rw [List.mem_singleton.mp hs]; exact h.header _ (List.mem_map_of_mem hc)
        · cases hs
      · exact h.cell c hc s hs
    obtain ⟨cells, hcells⟩ := exists_mapM hcells
    obtain ⟨ls, hls⟩ := ih hsub (i + 1)
    rw [laidFrom, hcells, ok_bind, hls]
    exact ⟨_, rfl⟩

/-- **A table without tags is drawn.** -/
theorem Plain.exists_draw (h : t.Plain) : ∃ s, t.draw = .ok s := by
  obtain ⟨ls, hls⟩ := exists_laidFrom h (fun _ hc => hc) 0
  obtain ⟨title, htitle⟩ := Markup.shown_of_untagged h.title
  rw [draw, lines, hls, ok_bind, htitle]
  exact ⟨_, rfl⟩

end Table

/-- The screen does what is expected of a console. -/
theorem Console.draws_screen (e : Encoding) : (screen e).Draws := fun _ ht => ht.exists_draw

/-! ### Explaining a text -/

theorem notMem_of_isDigit {cs : List Char} (h : ∀ c ∈ cs, Decimal.isDigit c = true) : '[' ∉ cs :=
  fun hmem => absurd (h _ hmem) (by decide)

theorem isDigit_of_mem_toString {n : ℕ} {c : Char} (h : c ∈ (toString n).toList) :
    Decimal.isDigit c = true := by
  rw [Nat.toString_eq_repr, Nat.toList_repr] at h
  exact Decimal.isDigit_of_mem_digits h

/-- No encoding puts a bracket in. -/
theorem Encoding.notMem_shown {e : Encoding} {s : String} (h : '[' ∉ s.toList) :
    '[' ∉ (e.shown s).toList := by
  rw [shown]
  split
  · exact h
  · rw [String.toList_ofList, List.mem_map]
    rintro ⟨c, hc, heq⟩
    rw [substitute] at heq
    split_ifs at heq
    · cases heq
    · cases heq
    · exact h (heq ▸ hc)
    · cases heq

theorem notMem_plain (d : Decimal) : '[' ∉ d.plain.toList := fun hmem => by
  rcases Decimal.mem_plain hmem with h | h | h <;> exact absurd h (by decide)

theorem notMem_display {ctx : Decimal.Context} {d : Decimal} {display : String}
    (h : d.display ctx = .ok display) : '[' ∉ display.toList := by
  rw [Decimal.display_eq] at h
  obtain ⟨r, -, rfl⟩ := Evaluation.map_eq_ok_iff.mp h
  exact notMem_plain _

/-- A bracket is foreign to a text. -/
theorem notMem_of_scan {text : String} {ts : List Token} (h : Token.scan text = .ok ts) :
    '[' ∉ text.toList := by
  intro hmem
  obtain ⟨front, c, hfirst⟩ := Expression.exists_firstForeign_iff.mpr ⟨'[', hmem, by decide⟩
  rw [Token.scan_eq_error_iff.mpr ⟨front, c, hfirst, rfl⟩] at h
  cases h

theorem notMem_canonical {text : String} (h : '[' ∉ text.toList) :
    '[' ∉ (Expression.canonical text).toList := by
  intro hmem
  obtain ⟨c, hc, heq⟩ := Expression.exists_of_mem_canonical hmem
  rw [Expression.spelling] at heq
  split_ifs at heq
  · cases heq
  · cases heq
  · exact h (heq ▸ hc)

/-- Tokens written without a bracket. -/
def Bracketless (ts : List Token) : Prop := ∀ t ∈ ts, '[' ∉ t.text.toList

theorem bracketless_of_scan {text : String} {ts : List Token} (h : Token.scan text = .ok ts) :
    Bracketless ts := by
  intro t ht hmem
  have hsome := Glyph.ofChar?_text ((Token.legible_of_scan h).scanned t ht) hmem
  exact absurd hsome (by decide)

theorem bracketless_of_toPostfix {ts rpn : List Token} (h : Token.toPostfix ts = .ok rpn)
    (hts : Bracketless ts) : Bracketless rpn := by
  intro t ht
  by_cases hnumber : t.isNumber = true
  · rcases Token.isNumber_of_toPostfixFrom h ht hnumber with hmem | rfl
    · exact hts t hmem
    · decide
  · cases t with
    | num n => exact absurd rfl hnumber
    | op o => cases o <;> decide
    | percent _ => exact (by decide : '[' ∉ "%".toList)
    | lparen | rparen => decide

/-- Behind the bracket of a title stands a digit. -/
theorem untagged_title (e : Encoding) (name : String) (ts : List Token) (hname : '[' ∉ name.toList) :
    Untagged (Report.tokenTable e name ts).title.toList := by
  obtain ⟨c, cs, hcs⟩ := List.exists_cons_of_ne_nil (Decimal.digits_ne_nil ts.length)
  have hdigits : (toString ts.length).toList = c :: cs := hcs ▸ Nat.toList_repr
  have hdigit : ∀ d ∈ c :: cs, Decimal.isDigit d = true := fun d hd =>
    isDigit_of_mem_toString (hdigits ▸ hd)
  have htitle : (Report.tokenTable e name ts).title.toList
      = (name.toList ++ [' ']) ++ '[' :: c :: (cs ++ [']']) := by
    show (name ++ " [" ++ toString ts.length ++ "]").toList = _
    rw [String.toList_append, String.toList_append, String.toList_append, hdigits]
    simp
  rw [htitle]
  refine untagged_bracket ?_ ?_ ?_
  · simp [hname]
  · rw [← List.cons_append, List.mem_append, not_or]
    exact ⟨notMem_of_isDigit hdigit, by decide⟩
  · have hstart : ∀ d, startsTag (Glyph.digitChar d) = false := by decide
    obtain ⟨d, -, rfl⟩ := Glyph.ofChar?_of_isDigit (hdigit c List.mem_cons_self)
    exact hstart d

theorem plain_tokenTable (e : Encoding) (name : String) {ts : List Token} (hname : '[' ∉ name.toList)
    (hts : Bracketless ts) : (Report.tokenTable e name ts).Plain := by
  have hnumber : ∀ n : ℕ, Untagged (toString n).toList := fun n =>
    untagged_of_notMem (notMem_of_isDigit fun _ => isDigit_of_mem_toString)
  refine ⟨untagged_title e name ts hname, ?_, ?_⟩
  · have hheaders : ∀ s ∈ ["#", "Type", "Value", "Prec"], '[' ∉ s.toList := by decide
    exact fun s hs => untagged_of_notMem (hheaders s hs)
  · have hkind : ∀ k : Token.Kind, '[' ∉ k.name.toList := fun k => by cases k <;> decide
    intro c hc s hs
    simp only [Report.tokenTable, List.mem_cons, List.not_mem_nil, or_false] at hc
    rcases hc with rfl | rfl | rfl | rfl <;> obtain ⟨t, ht, rfl⟩ := List.mem_map.mp hs
    · exact hnumber t
    · exact untagged_of_notMem (hkind t.kind)
    · exact untagged_of_notMem (Encoding.notMem_shown (hts t ht))
    · cases t.precedence? with
      | none => exact untagged_of_notMem (show '[' ∉ "".toList by decide)
      | some n => exact hnumber n

theorem plain_resultTable (e : Encoding) {t : Trace} (ht : t.mistake? = none)
    (hexpression : '[' ∉ t.expression.toList) (hvalue : '[' ∉ (t.value?.getD "").toList)
    (hdisplay : '[' ∉ t.display.toList) : (Report.resultTable e t).Plain := by
  refine ⟨untagged_of_notMem (show '[' ∉ "Result".toList by decide), ?_, ?_⟩
  · have hheaders : ∀ s ∈ ["Key", "Value"], '[' ∉ s.toList := by decide
    exact fun s hs => untagged_of_notMem (hheaders s hs)
  · intro c hc s hs
    simp only [Report.resultTable, ht, List.mem_cons, List.not_mem_nil, or_false] at hc
    have hkeys : ∀ s ∈ ["expression", "value", "display"], '[' ∉ s.toList := by decide
    have hvalues : ∀ s ∈ [t.expression, t.value?.getD "", t.display], '[' ∉ s.toList := by
      simp [hexpression, hvalue, hdisplay]
    refine untagged_of_notMem ?_
    rcases hc with rfl | rfl <;> obtain ⟨r, hr, rfl⟩ := List.mem_map.mp hs <;>
      refine Encoding.notMem_shown ?_
    · exact hkeys _ (List.mem_map_of_mem hr)
    · exact hvalues _ (List.mem_map_of_mem hr)

/-- **The tables that explain a text without a mistake hold no tags.** -/
theorem plain_of_mem_tables {c : Calculator} {text : String} {t : Trace} (h : c.trace text = .ok t)
    (ht : t.mistake? = none) (e : Encoding) : ∀ table ∈ Report.tables e t, table.Plain := by
  have htraced := c.traced text
  rw [h] at htraced
  generalize c.compute text = r at htraced
  cases htraced with
  | unread | unordered | unevaluated => cases ht
  | @shown ts rpn v display hscan hrpn _ hshown =>
    have hts := bracketless_of_scan hscan
    obtain ⟨ctx, -, hdisplay⟩ := Evaluation.bind_eq_ok_iff.mp hshown
    have hresult := plain_resultTable e
      (t := ⟨Expression.canonical text, ts, rpn, some v.plain, display, none⟩) rfl
      (notMem_canonical (notMem_of_scan hscan)) (notMem_plain v) (notMem_display hdisplay)
    intro table htable
    simp only [Report.tables, List.mem_cons, List.not_mem_nil, or_false] at htable
    rcases htable with rfl | rfl | rfl
    · exact plain_tokenTable e "Tokens" (by decide) hts
    · exact plain_tokenTable e "Postfix" (by decide) (bracketless_of_toPostfix hrpn hts)
    · exact hresult

end Reckoner.Terminal
