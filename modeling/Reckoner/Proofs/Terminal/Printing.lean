import Reckoner.Calculator.Record
import Reckoner.Json.Printer
import Reckoner.Proofs.Decimal.Notation
import Reckoner.Proofs.Evaluation
import Reckoner.Proofs.Terminal.Encoding
import Reckoner.Refusal
import Reckoner.Terminal.Console

/-!
# Terminal — what can always be printed

A terminal takes a text whose characters are all in its encoding (`printed_of_encodes`), and every encoding has the characters of ASCII.  Results are written in these, so that they are printed everywhere (`encodes_display`).  An outcome as a record adds the texts it holds, the expression and what is shown of it: it can be printed where these can (`encodes_pretty`).  A console on a terminal that holds every character can print all it draws (`Console.prints_of_utf8`).
-/

namespace Reckoner.Terminal

variable {e : Encoding} {s t : String}

namespace Encoding

theorem printed_of_encodes (h : e.encodes s = true) : e.printed s = .ok s := if_pos h

theorem encodes_utf8 (s : String) : utf8.encodes s = true := List.all_eq_true.mpr fun _ _ => rfl

/-- Every encoding holds ASCII. -/
theorem encodes_of_ascii (h : ascii.encodes s = true) : e.encodes s = true :=
  List.all_eq_true.mpr fun c hc => holds_of_ascii (of_decide_eq_true (List.all_eq_true.mp h c hc))

theorem encodes_append : e.encodes (s ++ t) = true ↔ e.encodes s = true ∧ e.encodes t = true := by
  rw [encodes, String.toList_append, List.all_append, Bool.and_eq_true]
  rfl

/-! ### Results -/

theorem encodes_plain (d : Decimal) : e.encodes d.plain = true := by
  refine List.all_eq_true.mpr fun c hc => holds_of_ascii ?_
  rcases Decimal.mem_plain hc with h | rfl | rfl
  · have hle : c ≤ '9' := by simp [Decimal.isDigit] at h; exact h.2
    exact Nat.lt_of_le_of_lt (Char.le_def.mp hle) (by decide)
  · decide
  · decide

/-- A result is written in ASCII. -/
theorem encodes_display {ctx : Decimal.Context} {d : Decimal} {display : String}
    (h : d.display ctx = .ok display) : e.encodes display = true := by
  rw [Decimal.display_eq] at h
  obtain ⟨r, -, rfl⟩ := Evaluation.map_eq_ok_iff.mp h
  exact encodes_plain _

/-! ### Records -/

theorem ascii_of_mem_hex {width n : ℕ} {c : Char} (hc : c ∈ Text.hex width n) : c.toNat < 0x80 := by
  induction width generalizing n with
  | zero => cases hc
  | succ width ih =>
    rcases List.mem_append.mp hc with hc | hc
    · exact ih hc
    · have hall : ∀ d < 16, (Text.hexDigit d).toNat < 0x80 := by decide
      rw [List.mem_singleton.mp hc]
      exact hall _ (Nat.mod_lt n (by decide))

/-- An escape is written in ASCII. -/
theorem ascii_of_mem_escaped {c d : Char} (hd : d ∈ Json.escaped c) : d.toNat < 0x80 ∨ d = c := by
  have hpair : ∀ x : Char, x.toNat < 0x80 → d ∈ ['\\', x] → d.toNat < 0x80 := by
    intro x hx hd
    simp only [List.mem_cons, List.not_mem_nil, or_false] at hd
    rcases hd with rfl | rfl
    · decide
    · exact hx
  rw [Json.escaped] at hd
  split_ifs at hd
  -- the seven characters with an escape of their own, then the other controls
  iterate 7 exact .inl (hpair _ (by decide) hd)
  · rcases List.mem_append.mp (show d ∈ ['\\', 'u'] ++ Text.hex 4 c.toNat from hd) with hd | hd
    · exact .inl (hpair _ (by decide) hd)
    · exact .inl (ascii_of_mem_hex hd)
  · exact .inr (List.mem_singleton.mp hd)

theorem encodes_quoted (h : e.encodes s = true) : e.encodes (Json.quoted s) = true := by
  refine List.all_eq_true.mpr fun c hc => ?_
  have hmark : e.holds '\x22' = true := holds_of_ascii (by decide)
  rw [Json.quoted, String.toList_ofList] at hc
  rcases List.mem_append.mp hc with hc | hc
  · rcases List.mem_cons.mp hc with rfl | hc
    · exact hmark
    · obtain ⟨d, hd, hc⟩ := List.mem_flatMap.mp hc
      rcases ascii_of_mem_escaped hc with hascii | rfl
      · exact holds_of_ascii hascii
      · exact List.all_eq_true.mp h c hd
  · rw [List.mem_singleton.mp hc]
    exact hmark

theorem encodes_intercalate {items : List String} (hs : e.encodes s = true)
    (hitems : ∀ t ∈ items, e.encodes t = true) : e.encodes (s.intercalate items) = true := by
  induction items with
  | nil => rw [String.intercalate_nil]; rfl
  | cons t items ih =>
    obtain ⟨ht, hitems⟩ := List.forall_mem_cons.mp hitems
    cases items with
    | nil => rwa [String.intercalate_singleton]
    | cons u items =>
      rw [String.intercalate_cons_cons]
      exact encodes_append.mpr ⟨encodes_append.mpr ⟨ht, hs⟩, ih hitems⟩

/-- Brackets and fields put nothing but ASCII between the texts they hold. -/
theorem encodes_bracketed {left right indent : String} {items : List String}
    (hleft : e.encodes left = true) (hright : e.encodes right = true)
    (hindent : e.encodes indent = true) (hitems : ∀ t ∈ items, e.encodes t = true) :
    e.encodes (Json.bracketed left right indent items) = true := by
  have hspaces : e.encodes "  " = true := encodes_of_ascii (by decide)
  have hline : e.encodes "\n" = true := encodes_of_ascii (by decide)
  have hcomma : e.encodes ",\n" = true := encodes_of_ascii (by decide)
  rw [Json.bracketed]
  split
  · exact encodes_append.mpr ⟨hleft, hright⟩
  · have hjoined := encodes_intercalate (s := ",\n" ++ indent ++ "  ")
      (by simp only [encodes_append, hcomma, hindent, hspaces, and_self]) hitems
    simp only [encodes_append, hleft, hright, hindent, hspaces, hline, hjoined, and_self]

theorem encodes_field {indent name : String} {v : Json} (hname : e.encodes name = true)
    (hv : e.encodes (v.render indent) = true) :
    e.encodes (Json.quoted name ++ ": " ++ v.render indent) = true :=
  encodes_append.mpr ⟨encodes_append.mpr ⟨encodes_quoted hname, encodes_of_ascii (by decide)⟩, hv⟩

/-- The record of an outcome is printed where the texts it holds can be. -/
theorem encodes_pretty {o : Outcome} (hexpression : e.encodes o.expression = true)
    (hdisplay : e.encodes o.display = true) : e.encodes o.toJson.pretty = true := by
  have hflag : e.encodes (Json.render "  " (.bool o.isError)) = true := by
    cases o.isError <;> exact encodes_of_ascii (by decide)
  have hkind : e.encodes (Json.render "  " (.ofString? (o.errorKind?.map Mistake.Kind.name))) = true := by
    cases o.errorKind? with
    | none => exact encodes_of_ascii (by decide)
    | some k =>
      exact encodes_quoted (encodes_of_ascii (by cases k <;> decide))
  refine encodes_bracketed (encodes_of_ascii (by decide)) (encodes_of_ascii (by decide))
    (encodes_of_ascii (by decide)) ?_
  show ∀ t ∈ Json.renderFields "  " _, e.encodes t = true
  simp only [Json.renderFields, List.forall_mem_cons, List.not_mem_nil, false_implies, implies_true,
    and_true]
  exact ⟨encodes_field (encodes_of_ascii (by decide)) (encodes_quoted hexpression),
    encodes_field (encodes_of_ascii (by decide)) (encodes_quoted hdisplay),
    encodes_field (encodes_of_ascii (by decide)) hflag,
    encodes_field (encodes_of_ascii (by decide)) hkind⟩

end Encoding

/-! ### Consoles -/

namespace Console

variable {console : Console}

theorem print_of_encodes (h : console.encoding.encodes s = true) :
    Refusal.ofMarkup (console.print s) = .ok s := by
  rw [print, Encoding.printed_of_encodes h]
  rfl

theorem prints_of_utf8 (h : console.encoding = .utf8) (tables : List Table) : console.Prints tables := by
  intro _ _ drawing _
  rw [h]
  exact Encoding.encodes_utf8 drawing

/-- What a console draws for tables without tags is written if it can be encoded. -/
theorem Draws.exists_draw {tables : List Table} {table : Table} (h : console.Draws)
    (hprints : console.Prints tables) (hmem : table ∈ tables) (htable : table.Plain) :
    ∃ drawing, console.draw table = .ok drawing := by
  obtain ⟨drawing, hdrawing⟩ := h table htable
  refine ⟨drawing, ?_⟩
  rw [draw, hdrawing]
  exact Encoding.printed_of_encodes (hprints table hmem drawing hdrawing)

end Console

end Reckoner.Terminal
