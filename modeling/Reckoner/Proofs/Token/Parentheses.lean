import Reckoner.Proofs.Token.Group
import Reckoner.Proofs.Token.Reading

/-!
# Token — unmatched parentheses

The parentheses of a text alone decide whether its tokens have a postfix order: `toPostfix_of_scan`.  A waiting `group` stands for a parenthesis that is still open, so a closing one finds none exactly where more have been closed than opened, and one is left at the end exactly if more were opened than closed.  These are the only mistakes in the order of tokens, and no number is lost by it (`num_mem_toPostfixFrom`).

So a group is put in order apart from its surroundings, or the surroundings fail whatever it holds: `toPostfix_group`.
-/

namespace Reckoner

/-! ### Parentheses in order -/

namespace Expression

/-- Some beginning of the text closes more parentheses than it opens. -/
def Overclosed (s : String) : Prop :=
  ∃ front, front <+: s.toList ∧ front.count '(' < front.count ')'

/-- The parentheses of the text match. -/
def Balanced (s : String) : Prop := ¬ Overclosed s ∧ s.toList.count '(' = s.toList.count ')'

instance : DecidablePred Overclosed := fun s =>
  decidable_of_iff (∃ front ∈ s.toList.inits, front.count '(' < front.count ')')
    (by simp [Overclosed])

instance : DecidablePred Balanced := fun s =>
  inferInstanceAs (Decidable (¬ Overclosed s ∧ s.toList.count '(' = s.toList.count ')'))

/-- Whether the character opens a parenthesis or closes one. -/
def opens? (c : Char) : Option Bool :=
  if c = '(' then some true else if c = ')' then some false else none

end Expression

namespace Parentheses

/-- Behind `n` open parentheses some beginning closes more than are open; `true` is one that opens. -/
def Overclosed (n : ℕ) (bs : List Bool) : Prop :=
  ∃ front, front <+: bs ∧ n + front.count true < front.count false

variable {n : ℕ} {bs : List Bool}

theorem not_overclosed_nil : ¬ Overclosed n [] := by
  rintro ⟨front, hfront, h⟩
  rw [List.prefix_nil.mp hfront] at h
  cases h

theorem overclosed_open : Overclosed n (true :: bs) ↔ Overclosed (n + 1) bs := by
  constructor
  · rintro ⟨front, hfront, h⟩
    rcases List.prefix_cons_iff.mp hfront with rfl | ⟨front, rfl, htail⟩
    · cases h
    · refine ⟨front, htail, ?_⟩
      simp at h
      omega
  · rintro ⟨front, hfront, h⟩
    refine ⟨true :: front, List.cons_prefix_cons.mpr ⟨rfl, hfront⟩, ?_⟩
    simp
    omega

theorem overclosed_close : Overclosed n (false :: bs) ↔ n = 0 ∨ Overclosed (n - 1) bs := by
  constructor
  · rintro ⟨front, hfront, h⟩
    rcases List.prefix_cons_iff.mp hfront with rfl | ⟨front, rfl, htail⟩
    · cases h
    · refine or_iff_not_imp_left.mpr fun hn => ⟨front, htail, ?_⟩
      simp at h
      omega
  · rintro (rfl | ⟨front, hfront, h⟩)
    · exact ⟨[false], by simp, by simp⟩
    · refine ⟨false :: front, List.cons_prefix_cons.mpr ⟨rfl, hfront⟩, ?_⟩
      simp
      omega

/-- A result that depends on parentheses behind `n` open ones: it is there if they match, and otherwise the mistake is theirs. -/
structure Judges {α : Type} (n : ℕ) (bs : List Bool) (r : Except Mistake α) : Prop where
  closing : Overclosed n bs → r = .error .unmatchedClosing
  opening : ¬ Overclosed n bs → n + bs.count true ≠ bs.count false → r = .error .unmatchedOpening
  ordered : ¬ Overclosed n bs → n + bs.count true = bs.count false → ∃ a, r = .ok a

namespace Judges

variable {α β : Type} {r : Except Mistake α}

theorem nil_zero (a : α) : Judges 0 [] (.ok a) :=
  ⟨fun h => absurd h not_overclosed_nil, fun _ h => absurd rfl h, fun _ _ => ⟨a, rfl⟩⟩

theorem nil_pos (hn : n ≠ 0) : Judges n [] (.error .unmatchedOpening : Except Mistake α) :=
  ⟨fun h => absurd h not_overclosed_nil, fun _ _ => rfl, fun _ h => absurd h hn⟩

theorem map (f : α → β) (h : Judges n bs r) : Judges n bs (f <$> r) := by
  refine ⟨fun hover => by rw [h.closing hover]; rfl,
    fun hover hcount => by rw [h.opening hover hcount]; rfl, fun hover hcount => ?_⟩
  obtain ⟨a, rfl⟩ := h.ordered hover hcount
  exact ⟨f a, rfl⟩

theorem opened (h : Judges (n + 1) bs r) : Judges n (true :: bs) r := by
  have hcount : n + (true :: bs).count true = n + 1 + bs.count true := by simp; omega
  have hcount' : (true :: bs).count false = bs.count false := by simp
  refine ⟨fun hover => h.closing (overclosed_open.mp hover), ?_, ?_⟩ <;>
    rw [overclosed_open, hcount, hcount']
  · exact h.opening
  · exact h.ordered

theorem closed (h : Judges n bs r) : Judges (n + 1) (false :: bs) r := by
  have hover : Overclosed (n + 1) (false :: bs) ↔ Overclosed n bs := by simp [overclosed_close]
  have hcount : n + 1 + (false :: bs).count true = (false :: bs).count false
      ↔ n + bs.count true = bs.count false := by simp; omega
  refine ⟨fun h' => h.closing (hover.mp h'), ?_, ?_⟩
  · rw [hover, Ne, hcount]; exact h.opening
  · rw [hover, hcount]; exact h.ordered

theorem closed_none : Judges 0 (false :: bs) (.error .unmatchedClosing : Except Mistake α) :=
  have hover : Overclosed 0 (false :: bs) := overclosed_close.mpr (.inl rfl)
  ⟨fun _ => rfl, fun h => absurd hover h, fun h => absurd hover h⟩

end Judges

end Parentheses

/-! ### Tokens -/

namespace Token

open Evaluation (map_eq_ok_iff)
open Parentheses (Judges)

variable {b : Before} {w w' : List Pending} {ts out : List Token} {t : Token}

/-- Whether the token opens a parenthesis or closes one. -/
def opens? : Token → Option Bool
  | lparen => some true
  | rparen => some false
  | num _ | op _ | percent _ => none

theorem count_group_cons {p : Pending} (hp : p ≠ .group) (w : List Pending) :
    (p :: w).count .group = w.count .group := List.count_cons_of_ne hp

/-- What is released up to an opening parenthesis leaves every parenthesis waiting. -/
theorem count_group_dropWhile {q : Pending → Bool} (hq : q .group = false) (w : List Pending) :
    (w.dropWhile q).count .group = w.count .group := by
  have htake : (w.takeWhile q).count .group = 0 := List.count_eq_zero.mpr fun hmem => by
    rw [List.mem_takeWhile_imp hmem] at hq
    cases hq
  conv_rhs => rw [← List.takeWhile_append_dropWhile (p := q) (l := w), List.count_append, htake, Nat.zero_add]

/-- **The parentheses decide** whether there is a postfix order. -/
theorem judges_toPostfixFrom (b : Before) (w : List Pending) (ts : List Token) :
    Judges (w.count .group) (ts.filterMap opens?) (toPostfixFrom b w ts) := by
  induction ts generalizing b w with
  | nil =>
    rw [toPostfixFrom]
    split
    · next h => exact .nil_pos (List.count_pos_iff.mpr h).ne'
    · next h => rw [List.count_eq_zero.mpr h]; exact .nil_zero _
  | cons t ts ih =>
    cases t with
    | num n => exact (ih _ w).map _
    | op o =>
      rw [toPostfixFrom]
      split
      · have h := ih .opening (.negation :: w)
        rw [count_group_cons (p := .negation) (by simp)] at h
        exact h.map _
      · have h := ih (.binary o) (.binary o :: w.dropWhile (o.precedence ≤ ·.power))
        rw [count_group_cons (p := .binary o) (by simp), count_group_dropWhile (not_precedence_le_group o)] at h
        exact h.map _
    | percent target =>
      rw [toPostfixFrom]
      have h := ih .opening
        (.percent (if endsOperand ts then b.rightOf? <|> target else target) :: w.dropWhile (3 ≤ ·.power))
      rw [count_group_cons (p := .percent _) (by simp), count_group_dropWhile (by decide)] at h
      exact h.map _
    | lparen =>
      have h := ih .opening (.group :: w)
      rw [List.count_cons_self] at h
      exact h.opened
    | rparen =>
      have hcount := count_group_dropWhile (q := (· ≠ .group)) (by decide) w
      rw [toPostfixFrom]
      cases hdrop : w.dropWhile (· ≠ .group) with
      | nil =>
        rw [hdrop] at hcount
        rw [← hcount]
        exact .closed_none
      | cons p kept =>
        obtain rfl := eq_group_of_dropWhile hdrop
        rw [hdrop, List.count_cons_self] at hcount
        rw [← hcount]
        exact ((ih .closing kept).map _).closed

/-- The mistakes in the order of tokens are unmatched parentheses. -/
theorem toPostfix_eq_error {m : Mistake} (h : toPostfix ts = .error m) :
    m.kind = .mismatchedParentheses := by
  have hjudges := judges_toPostfixFrom .opening [] ts
  rw [← toPostfix, h] at hjudges
  rw [List.count_nil] at hjudges
  by_cases hover : Parentheses.Overclosed 0 (ts.filterMap opens?)
  · cases hjudges.closing hover; rfl
  · by_cases hcount : 0 + (ts.filterMap opens?).count true = (ts.filterMap opens?).count false
    · obtain ⟨_, h⟩ := hjudges.ordered hover hcount
      cases h
    · cases hjudges.opening hover hcount; rfl

/-- **A group is put in order apart from its surroundings.**  Between the same tokens all groups that can be put in order by themselves fail alike, by parentheses that do not match, or the same is put out in front of them and behind them; and a group by itself is put in the order of its tokens. -/
theorem toPostfix_group (front back : List Token) :
    ((∃ m, m.kind = .mismatchedParentheses ∧ ∀ inner out, toPostfix inner = .ok out →
        toPostfix (front ++ .lparen :: (inner ++ .rparen :: back)) = .error m) ∨
      ∃ before behind, ∀ inner out, toPostfix inner = .ok out →
        toPostfix (front ++ .lparen :: (inner ++ .rparen :: back))
          = .ok (before ++ (out ++ behind))) ∧
    ∀ inner out, toPostfix inner = .ok out → toPostfix (.lparen :: (inner ++ [.rparen])) = .ok out := by
  refine ⟨?_, fun inner out h => ?_⟩
  · obtain ⟨m, hm⟩ | ⟨before, behind, hout, -⟩ := toPostfix_around front back
    · exact .inl ⟨m, toPostfix_eq_error (hm [] [] rfl), hm⟩
    · exact .inr ⟨before, behind, hout⟩
  · have hempty : toPostfixFrom .closing [] [] = .ok [] := rfl
    rw [toPostfix, toPostfixFrom_group h, hempty, Evaluation.map_ok, List.append_nil]

/-- A percentage at the end of a group is marked as it is by itself, whatever follows the group, and an empty group leaves no trace. -/
theorem toPostfix_group_percent :
    let inner : List Token := [.op .sub, .number "4", .op .add, .number "5", .percent none]
    let out : List Token := [.number "0", .number "4", .op .sub, .number "5", .percent (some .add), .op .add]
    let front : List Token := [.number "2", .op .mul]
    let back : List Token := [.op .sub, .number "1"]
    toPostfix inner = .ok out ∧ toPostfix [] = .ok [] ∧ toPostfix (lparen :: (inner ++ [rparen])) = .ok out ∧
      ∃ before behind,
        toPostfix (front ++ lparen :: (inner ++ rparen :: back)) = .ok (before ++ (out ++ behind)) ∧
        toPostfix (front ++ lparen :: ([] ++ rparen :: back)) = .ok (before ++ ([] ++ behind)) := by
  intro inner out front back
  have hinner : toPostfix inner = .ok out := by decide +kernel
  obtain ⟨h | ⟨before, behind, h⟩, hself⟩ := toPostfix_group front back
  · obtain ⟨m, -, hm⟩ := h
    cases hm [] [] rfl
  · exact ⟨hinner, rfl, hself _ _ hinner, before, behind, h _ _ hinner, h _ _ rfl⟩

/-- No number is lost. -/
theorem num_mem_toPostfixFrom {n : Numeral} (h : toPostfixFrom b w ts = .ok out) (hn : .num n ∈ ts) :
    .num n ∈ out := by
  induction ts generalizing b w out with
  | nil => cases hn
  | cons t ts ih =>
    obtain ⟨now, w', rest, hstep, hrest, rfl⟩ := toPostfixFrom_cons_eq_ok_iff.mp h
    rcases List.mem_cons.mp hn with rfl | hn
    · cases hstep; exact List.mem_cons_self
    · exact List.mem_append_right _ (ih hrest hn)

end Token

/-! ### Texts -/

namespace Glyph

/-- Whether the sign opens a parenthesis or closes one. -/
def opens? : Glyph → Option Bool
  | lparen => some true
  | rparen => some false
  | digit _ | point | op _ | percent => none

theorem bind_opens? (c : Char) : (ofChar? c).bind opens? = Expression.opens? c := by
  by_cases h : c ∈ alphabet
  · have hall : (alphabet.all fun d => (ofChar? d).bind opens? = Expression.opens? d) = true := by decide
    exact of_decide_eq_true (List.all_eq_true.mp hall c h)
  · have hnone := mt isSome_ofChar?_iff.mp h
    rw [Bool.not_eq_true, Option.isSome_eq_false_iff, Option.isNone_iff_eq_none] at hnone
    rw [hnone, Expression.opens?, if_neg, if_neg]
    · rfl
    · rintro rfl; exact h (by decide)
    · rintro rfl; exact h (by decide)

end Glyph

namespace Token

open Glyph (ofChar?)
open Parentheses (Judges)

variable {s : String} {ts : List Token}

theorem filterMap_pendingNumeral (run : List Char) : (pendingNumeral run).filterMap opens? = [] := by
  cases run <;> rfl

theorem filterMap_ofGlyphs (run : List Char) (gs : List Glyph) :
    (ofGlyphs run gs).filterMap opens? = gs.filterMap Glyph.opens? := by
  induction gs generalizing run with
  | nil => exact filterMap_pendingNumeral run
  | cons g gs ih =>
    cases g with
    | digit _ | point => exact ih _
    | op _ | percent | lparen | rparen =>
      rw [ofGlyphs, List.filterMap_append, filterMap_pendingNumeral, List.nil_append]
      simp [List.filterMap_cons, opens?, Glyph.opens?, ih]

/-- A text has the parentheses of its tokens. -/
theorem opens?_of_scan (h : scan s = .ok ts) :
    ts.filterMap opens? = s.toList.filterMap Expression.opens? := by
  obtain ⟨-, rfl⟩ := ofGlyphs_of_scan h
  rw [filterMap_ofGlyphs, filterMap_signs, List.filterMap_filterMap]
  simp only [Glyph.bind_opens?]

end Token

namespace Expression

variable {s : String}

theorem count_opens? (cs : List Char) :
    (cs.filterMap opens?).count true = cs.count '(' ∧ (cs.filterMap opens?).count false = cs.count ')' := by
  rw [List.count_filterMap, List.count_filterMap, List.count_eq_countP, List.count_eq_countP]
  constructor <;> refine List.countP_congr fun c _ => ?_ <;> simp only [opens?] <;> split_ifs <;> simp_all

theorem overclosed_iff : Parentheses.Overclosed 0 (s.toList.filterMap opens?) ↔ Overclosed s := by
  simp only [Parentheses.Overclosed, Overclosed, List.prefix_filterMap_iff, Nat.zero_add]
  constructor
  · rintro ⟨_, ⟨front, hfront, rfl⟩, h⟩
    rw [(count_opens? front).1, (count_opens? front).2] at h
    exact ⟨front, hfront, h⟩
  · rintro ⟨front, hfront, h⟩
    rw [← (count_opens? front).1, ← (count_opens? front).2] at h
    exact ⟨_, ⟨front, hfront, rfl⟩, h⟩

end Expression

namespace Token

open Expression (Overclosed Balanced)

variable {s : String} {ts : List Token} {m : Mistake}

/-- **A text in order is one whose parentheses match.** -/
theorem toPostfix_of_scan (h : scan s = .ok ts) :
    (Overclosed s → toPostfix ts = .error .unmatchedClosing) ∧
      (¬ Overclosed s → ¬ Balanced s → toPostfix ts = .error .unmatchedOpening) ∧
      (Balanced s → ∃ rpn, toPostfix ts = .ok rpn) := by
  have hjudges := judges_toPostfixFrom .opening [] ts
  rw [← toPostfix, opens?_of_scan h] at hjudges
  obtain ⟨hopen, hclose⟩ := Expression.count_opens? s.toList
  obtain ⟨hclosing, hopening, hordered⟩ := hjudges
  rw [List.count_nil, Expression.overclosed_iff] at hclosing hopening hordered
  rw [Nat.zero_add, hopen, hclose] at hopening hordered
  exact ⟨hclosing, fun hover hbalanced => hopening hover fun hcount => hbalanced ⟨hover, hcount⟩,
    fun hbalanced => hordered hbalanced.1 hbalanced.2⟩

end Token

end Reckoner
