import Reckoner.Proofs.Calculator.Written
import Reckoner.Proofs.Token.Reading

/-!
# Token — reading loses nothing

The tokens read from a text are the legible ones whose texts are its signs (`scan_eq_ok_iff_writes`).

* `scan_exact`: a text is read exactly if no character of it is foreign.  Its numerals are the maximal runs of digits and points among its signs, each at its place, and every other token is one sign.
* `scan_join`: the tokens that are read back from their own text are the legible ones, and no other tokens can be read from any text.
-/

namespace Reckoner

/-! ### Maximal runs -/

namespace Expression

/-- A run of digits and points that goes on to neither side, between what stands before it and what stands behind it. -/
structure Run (cs front run back : List Char) : Prop where
  split : front ++ (run ++ back) = cs
  ne_nil : run ≠ []
  inside : ∀ c ∈ run, inNumeral c = true
  before : ∀ c ∈ front.getLast?, inNumeral c = false
  behind : ∀ c ∈ back.head?, inNumeral c = false

variable {cs ds front run run' back back' : List Char}

theorem Run.head (h : Run cs [] run back) : ∃ c ∈ cs.head?, inNumeral c = true := by
  obtain ⟨c, run, rfl⟩ := List.exists_cons_of_ne_nil h.ne_nil
  exact ⟨c, by rw [← h.split]; rfl, h.inside c List.mem_cons_self⟩

theorem Run.takeWhile_eq (h : Run cs [] run back) : cs.takeWhile inNumeral = run := by
  have hback : back.takeWhile inNumeral = [] := by
    cases back with
    | nil => rfl
    | cons c back => exact List.takeWhile_cons_of_neg (by simp [h.behind c rfl])
  rw [← h.split, List.nil_append, List.takeWhile_append_of_pos h.inside, hback, List.append_nil]

/-- At the start there is one run at most. -/
theorem Run.unique (h : Run cs [] run back) (h' : Run cs [] run' back') : run = run' ∧ back = back' := by
  obtain rfl : run = run' := h.takeWhile_eq.symm.trans h'.takeWhile_eq
  exact ⟨rfl, List.append_cancel_left (h.split.trans h'.split.symm)⟩

/-- A run stays one behind characters that do not join it. -/
theorem Run.append (h : Run ds front run back) (hcs : front = [] → ∀ c ∈ cs.getLast?, inNumeral c = false) :
    Run (cs ++ ds) (cs ++ front) run back where
  split := by rw [List.append_assoc, h.split]
  ne_nil := h.ne_nil
  inside := h.inside
  before c hc := by
    rw [List.getLast?_append] at hc
    cases hlast : front.getLast? with
    | none =>
      rw [hlast] at hc
      exact hcs (List.getLast?_eq_none_iff.mp hlast) c hc
    | some d =>
      rw [hlast] at hc
      exact h.before c (hlast.trans hc)
  behind := h.behind

/-- Without what stands in front of it a run is one still. -/
theorem Run.of_append (h : Run (cs ++ ds) (cs ++ front) run back) : Run ds front run back where
  split := List.append_cancel_left ((List.append_assoc ..).symm.trans h.split)
  ne_nil := h.ne_nil
  inside := h.inside
  before c hc := h.before c (by rw [List.getLast?_append, Option.mem_def.mp hc]; rfl)
  behind := h.behind

end Expression

namespace Token

open Expression (inNumeral signs Run Foreign FirstForeign)

variable {s : String} {ts : List Token} {t : Token} {front run back : List Char}

/-- A numeral of the tokens, between the texts of those before it and of those behind it. -/
def NumeralAt (ts : List Token) (front run back : List Char) : Prop :=
  ∃ before n after, ts = before ++ num n :: after ∧ written before = front ∧ n.text.toList = run ∧
    written after = back

theorem numeralAt_cons : NumeralAt (t :: ts) front run back ↔
    ((∃ n, t = num n ∧ n.text.toList = run) ∧ front = [] ∧ written ts = back) ∨
      ∃ front', front = t.text.toList ++ front' ∧ NumeralAt ts front' run back := by
  constructor
  · rintro ⟨before, n, after, hts, rfl, rfl, rfl⟩
    rcases List.cons_eq_append_iff.mp hts with ⟨rfl, h⟩ | ⟨before, rfl, rfl⟩
    · cases h
      exact .inl ⟨⟨n, rfl, rfl⟩, rfl, rfl⟩
    · exact .inr ⟨written before, rfl, before, n, after, rfl, rfl, rfl, rfl⟩
  · rintro (⟨⟨n, rfl, rfl⟩, rfl, rfl⟩ | ⟨_, rfl, before, n, after, rfl, rfl, rfl, rfl⟩)
    · exact ⟨[], n, ts, rfl, rfl, rfl, rfl⟩
    · exact ⟨t :: before, n, after, rfl, rfl, rfl, rfl⟩

/-- No numeral begins right behind another. -/
theorem Legible.head_written {n : Numeral} (h : Legible (num n :: ts)) :
    ∀ c ∈ (written ts).head?, inNumeral c = false := by
  intro c hc
  cases ts with
  | nil => cases hc
  | cons u ts =>
    have hu : u.isNumber = false := by
      simpa [isNumber, kind] using (List.isChain_cons_cons.mp h.apart).1
    obtain ⟨-, d, hd, hout⟩ := text_of_not_number hu
    rw [written, List.flatMap_cons, hd] at hc
    obtain rfl : d = c := by simpa using hc
    exact hout

theorem run_written_num {n : Numeral} (h : Legible (num n :: ts)) :
    Run (written (num n :: ts)) [] n.text.toList (written ts) where
  split := rfl
  ne_nil := (h.scanned _ List.mem_cons_self).1.1
  inside c hc := Expression.inNumeral_iff.mpr ((h.scanned _ List.mem_cons_self).1.2 c hc)
  before := nofun
  behind := h.head_written

theorem run_written_cons (h : Legible (t :: ts)) : Run (written (t :: ts)) front run back ↔
    ((∃ n, t = num n ∧ n.text.toList = run) ∧ front = [] ∧ written ts = back) ∨
      ∃ front', front = t.text.toList ++ front' ∧ Run (written ts) front' run back := by
  have hwritten : written (t :: ts) = t.text.toList ++ written ts := rfl
  cases hnumber : t.isNumber with
  | false =>
    obtain ⟨-, c, hc, hout⟩ := text_of_not_number hnumber
    rw [hwritten, hc]
    constructor
    · intro hrun
      rcases List.append_eq_cons_iff.mp hrun.split with ⟨rfl, -⟩ | ⟨front, rfl, -⟩
      · -- the run would begin with the sign
        obtain ⟨d, hd, hin⟩ := hrun.head
        obtain rfl : c = d := by simpa using hd
        rw [hout] at hin
        cases hin
      · have hrun : Run ([c] ++ written ts) ([c] ++ front) run back := hrun
        exact .inr ⟨front, rfl, hrun.of_append⟩
    · rintro (⟨⟨n, rfl, -⟩, -⟩ | ⟨front, rfl, hrun⟩)
      · cases hnumber
      · exact hrun.append fun _ d hd => by
          obtain rfl : c = d := by simpa using hd
          exact hout
  | true =>
    cases t with
    | op _ | percent _ | lparen | rparen => cases hnumber
    | num n =>
      have hfirst := run_written_num h
      constructor
      · intro hrun
        rcases List.append_eq_append_iff.mp hrun.split with ⟨rest, hn, -⟩ | ⟨front, rfl, -⟩
        · rcases List.eq_nil_or_concat' front with rfl | ⟨front, c, rfl⟩
          · obtain ⟨rfl, rfl⟩ := hfirst.unique hrun
            exact .inl ⟨⟨n, rfl, rfl⟩, rfl, rfl⟩
          · -- the run would begin inside of the numeral
            have hin := hfirst.inside c (by rw [show n.text.toList = _ from hn]; simp)
            rw [hrun.before c List.getLast?_concat] at hin
            cases hin
        · exact .inr ⟨front, rfl, hrun.of_append⟩
      · rintro (⟨⟨_, ht, rfl⟩, rfl, rfl⟩ | ⟨front, rfl, hrun⟩)
        · cases ht
          exact hfirst
        · refine hrun.append ?_
          rintro rfl
          -- a run does not begin right behind the numeral
          obtain ⟨c, hc, hin⟩ := hrun.head
          rw [h.head_written c hc] at hin
          cases hin

/-- **The numerals of legible tokens are the maximal runs of their text**, each at its place. -/
theorem run_written_iff (h : Legible ts) : Run (written ts) front run back ↔ NumeralAt ts front run back := by
  induction ts generalizing front with
  | nil =>
    refine iff_of_false (fun hrun => hrun.ne_nil ?_) fun ⟨before, _, _, hts, _⟩ => ?_
    · exact (List.append_eq_nil_iff.mp (List.append_eq_nil_iff.mp hrun.split).2).1
    · cases before <;> cases hts
  | cons t ts ih =>
    have hts : Legible ts := ⟨fun u hu => h.scanned u (List.mem_cons_of_mem _ hu), h.apart.tail⟩
    rw [run_written_cons h, numeralAt_cons]
    simp only [ih hts]

/-! ### Reading -/

/-- **The tokens of a text** are the legible ones whose texts are its signs. -/
theorem scan_eq_ok_iff_writes : scan s = .ok ts ↔ Writes s ts ∧ Legible ts :=
  ⟨fun h => ⟨writes_of_scan h, legible_of_scan h⟩, fun h => scan_of_writes h.1 h.2⟩

/-- The characters that are tokens of the class by themselves. -/
def Kind.signs : Kind → List Char
  | num => []
  | op => ['+', '-', '×', '÷', '%']
  | paren => ['(', ')']

theorem isNumber_or_sign (t : Token) : t.isNumber = true ∨ ∃ c ∈ t.kind.signs, t.text.toList = [c] := by
  cases t with
  | num n => exact .inl rfl
  | op o => cases o <;> exact .inr ⟨_, by decide, rfl⟩
  | percent _ => exact .inr ⟨'%', show '%' ∈ Kind.op.signs by decide, show "%".toList = ['%'] from rfl⟩
  | lparen | rparen => exact .inr ⟨_, by decide, rfl⟩

theorem Scanned.target?_eq_none (h : t.Scanned) : t.target? = none := by
  cases t with
  | num n => exact h.2
  | percent target => exact h
  | op _ | lparen | rparen => rfl

/-- **Reading is exact.**  A text is read exactly if every character of it is blank or writes a sign.  Then the texts of the tokens are its signs in order, the numerals are the maximal runs of digits and points, every other token is one sign of its class, and none is marked.  Otherwise the first foreign character is reported, with its index. -/
theorem scan_exact (s : String) :
    ((∃ ts, scan s = .ok ts) ↔ ∀ c ∈ s.toList, ¬ Foreign c) ∧
      (∀ ts, scan s = .ok ts → written ts = signs s ∧
        (∀ front run back, Run (signs s) front run back ↔ NumeralAt ts front run back) ∧
        (∀ t ∈ ts, t.isNumber = true ∨ ∃ c ∈ t.kind.signs, t.text.toList = [c]) ∧
        ∀ t ∈ ts, t.target? = none) ∧
      ∀ m, scan s = .error m ↔
        ∃ front c, FirstForeign s.toList front c ∧ m = .invalidCharacter c front.length := by
  refine ⟨exists_scan_iff, fun ts h => ?_, fun m => scan_eq_error_iff⟩
  obtain ⟨hwrites, hlegible⟩ := scan_eq_ok_iff_writes.mp h
  have hsigns : signs s = written ts := hwrites
  refine ⟨hsigns.symm, fun front run back => ?_, fun t _ => isNumber_or_sign t, fun t ht => ?_⟩
  · rw [hsigns]
    exact run_written_iff hlegible
  · exact (hlegible.scanned t ht).target?_eq_none

/-- Blanks do not end a numeral; a percent sign that is read is not marked. -/
theorem scan_exact_spaced :
    let s := "1 2*(.5.%)-3"
    let ts : List Token := [.number "12", .op .mul, .lparen, .number ".5.", .percent none, .rparen, .op .sub, .number "3"]
    scan s = .ok ts ∧ written ts = "12×(.5.%)-3".toList ∧ Run (signs s) "12×(".toList ".5.".toList "%)-3".toList ∧
      (∀ t ∈ ts, t.isNumber = true ∨ ∃ c ∈ t.kind.signs, t.text.toList = [c]) ∧ (∀ t ∈ ts, t.target? = none) ∧
      scan "1 2#%" = .error (.invalidCharacter '#' 3) := by
  intro s ts
  have hscan : scan s = .ok ts := by decide +kernel
  have hsigns : signs s = "12×(.5.%)-3".toList := by decide +kernel
  obtain ⟨hwritten, hruns, hclasses, htargets⟩ := (scan_exact s).2.1 ts hscan
  refine ⟨hscan, hwritten.trans hsigns, (hruns _ _ _).mpr ?_, hclasses, htargets, ((scan_exact _).2.2 _).mpr ?_⟩
  · exact ⟨[.number "12", .op .mul, .lparen], _, [.percent none, .rparen, .op .sub, .number "3"], rfl,
      by decide +kernel, rfl, by decide +kernel⟩
  · exact ⟨"1 2".toList, '#', ⟨⟨['%'], by decide +kernel⟩, by decide +kernel, by decide +kernel⟩, rfl⟩

/-! ### Reading back -/

/-- No character of a scanned token is blank or has another spelling. -/
theorem spelling_text (ht : t.Scanned) {c : Char} (hc : c ∈ t.text.toList) :
    Text.isBlank c = false ∧ Expression.spelling c = c := by
  cases t with
  | num n =>
    rcases ht.1.2 c hc with h | rfl
    · exact ⟨Numeral.not_isBlank_of_isDigit h, Numeral.spelling_of_isDigit h⟩
    · decide
  | op o => cases o <;> (obtain rfl := List.mem_singleton.mp hc; decide)
  | percent _ =>
    obtain rfl : c = '%' := List.mem_singleton.mp (show c ∈ "%".toList from hc)
    decide
  | lparen | rparen => obtain rfl := List.mem_singleton.mp hc; decide

theorem writes_join (h : ∀ t ∈ ts, t.Scanned) : Writes (join ts) ts := by
  induction ts with
  | nil => rfl
  | cons t ts ih =>
    have ht : signs t.text = t.text.toList :=
      Expression.signs_eq_self fun c hc => spelling_text (h t List.mem_cons_self) hc
    have ih : signs (join ts) = written ts := ih fun u hu => h u (List.mem_cons_of_mem _ hu)
    have hwritten : written (t :: ts) = t.text.toList ++ written ts := rfl
    rw [Writes, hwritten, ← ih, ← ht]
    cases ts with
    | nil => simp [join, signs]
    | cons u ts =>
      have hspace : signs " " = [] := by decide
      rw [join, List.map_cons, List.map_cons, String.intercalate_cons_cons, Expression.signs_append,
        Expression.signs_append, hspace, List.append_nil]
      rfl

/-- **Legible tokens are read back**, and no others can be read. -/
theorem scan_join : (∀ ts, scan (join ts) = .ok ts ↔ Legible ts) ∧ (∀ ts, Legible ts ↔ ∃ s, scan s = .ok ts) ∧
    ∀ s, (scan s >>= fun ts => scan (join ts)) = scan s := by
  have hjoin : ∀ ts, Legible ts → scan (join ts) = .ok ts := fun ts h => scan_of_writes (writes_join h.scanned) h
  refine ⟨fun ts => ⟨legible_of_scan, hjoin ts⟩, fun ts => ⟨fun h => ⟨join ts, hjoin ts h⟩, ?_⟩, fun s => ?_⟩
  · rintro ⟨s, h⟩
    exact legible_of_scan h
  · cases h : scan s with
    | error m => rfl
    | ok ts => exact hjoin ts (legible_of_scan h)

/-- A space does not keep numerals apart. -/
example : scan (join [.number "1", .number "2"]) = .ok [.number "12"] := by decide +kernel

end Token

end Reckoner
