import Reckoner.Proofs.Grammar
import Reckoner.Token.Postfix

/-!
# Grammar — the operator stack parses

`toPostfix_tokens`: the tokens of an expression, put in postfix order by the stack of waiting operators, are the post-order listing of its derivation tree.

What a phrase leaves behind is `Leaves`: some tokens already put out, and on top of the operators that waited before it some more, `held`, which the phrase has opened and not yet released.  Together they list the phrase, and every operator held binds at least as tightly as the nonterminal (`Tier.power`).  So the operator after the phrase releases all that is held and, since what waited before binds less tightly, nothing else.
-/

namespace Reckoner

/-- How tightly the operators of a phrase bind at least, outside parentheses. -/
def Tier.power : Tier → Nat
  | .sum => 1
  | .product => 2
  | .percentage => 3
  | .signed | .atom => 4

namespace Phrase

open Token (toPostfixFrom endsOperand)

/-! ### The end of a phrase -/

/-- What precedes the token after the phrase, if `b` precedes the phrase. -/
def after {k : Tier} {n : Next} (b : Before) : Phrase k n → Before
  | numeral _ => .numeral b.operator?
  | group _ => .closing
  | ofAtom a => a.after b
  | negation u => u.after .opening
  | ofSigned u => u.after b
  | share _ u => u.after .opening
  | percent _ => .opening
  | ofPercentage q => q.after b
  | product o _ _ r | sum o _ _ r => r.after (.binary o)
  | ofProduct t => t.after b

/-- Where an operand may begin next the phrase ends with one, so a minus there subtracts. -/
theorem negates_after {k : Tier} {n : Next} (t : Phrase k n) (b : Before) (hn : n = .operand) :
    (t.after b).negates = false := by
  induction t generalizing b with
  | numeral | group => rfl
  | ofAtom _ ih | ofSigned _ ih | ofPercentage _ ih | ofProduct _ ih => exact ih b hn
  | negation _ ih => exact ih _ hn
  | share _ _ _ ih | product _ _ _ _ _ ih | sum _ _ _ _ _ ih => exact ih _ hn
  | percent => cases hn

/-- Only a single number is remembered as the right operand of the operator before it. -/
theorem rightOf?_after {k : Tier} {n : Next} (t : Phrase k n) (b : Before) (hk : 3 ≤ k.power) :
    (t.after b).rightOf? = if t.isNumeral then b.operator? else none := by
  induction t generalizing b with
  | numeral | group | percent => rfl
  | ofAtom _ ih | ofSigned _ ih => exact ih b (by decide)
  | negation _ ih => simp [after, isNumeral, ih .opening (by decide), Before.operator?]
  | share _ _ _ ih => simp [after, isNumeral, ih .opening (by decide), Before.operator?]
  | ofPercentage | product | ofProduct | sum => exact absurd hk (by decide)

/-- A phrase at tier `signed` begins with a number, `(` or `-`. -/
theorem endsOperand_tokens {k : Tier} {n : Next} (t : Phrase k n) (rest : List Token) :
    endsOperand (t.tokens ++ rest) = false := by
  induction t generalizing rest with
  | numeral | group | negation => rfl
  | ofAtom _ ih | ofSigned _ ih | ofPercentage _ ih | ofProduct _ ih => exact ih rest
  | share _ _ ih | percent _ ih | product _ _ _ _ ih | sum _ _ _ _ ih =>
    simp only [tokens, List.append_assoc]
    exact ih _

theorem endsOperand_op {o : BinOp} (ho : Next.ofOperator o = .other) (ts : List Token) :
    endsOperand (.op o :: ts) = true := by
  cases o <;> first | rfl | cases ho

/-! ### Reading a list of tokens -/

/-- With `rest` still to come, reading `ts` puts out `out` and leaves `w'` waiting and `b'` behind. -/
def Reads (b : Before) (w : List Pending) (ts rest out : List Token) (b' : Before)
    (w' : List Pending) : Prop :=
  toPostfixFrom b w (ts ++ rest) = (out ++ ·) <$> toPostfixFrom b' w' rest

namespace Reads

variable {b b₁ b₂ : Before} {w w₁ w₂ held : List Pending} {ts us rest out out' : List Token}

theorem trans (ts us : List Token) (h₁ : Reads b w ts (us ++ rest) out b₁ w₁)
    (h₂ : Reads b₁ w₁ us rest out' b₂ w₂) : Reads b w (ts ++ us) rest (out ++ out') b₂ w₂ := by
  simp only [Reads] at h₁ h₂ ⊢
  rw [List.append_assoc, h₁, h₂]
  simp [Functor.map_map, List.append_assoc]

/-- An operator releases exactly what binds as tightly as it does. -/
theorem released {m : Nat} (hheld : ∀ p ∈ held, m ≤ p.power) (hw : ∀ p ∈ w.head?, p.power < m) :
    (held ++ w).takeWhile (m ≤ ·.power) = held ∧ (held ++ w).dropWhile (m ≤ ·.power) = w := by
  have hpos : ∀ p ∈ held, decide (m ≤ p.power) = true := fun p hp => decide_eq_true (hheld p hp)
  rw [List.takeWhile_append_of_pos hpos, List.dropWhile_append_of_pos hpos]
  cases w with
  | nil => simp
  | cons p w => simp [hw p rfl]

theorem numeral (text : String) :
    Reads b w [.number text] rest [.number text] (.numeral b.operator?) w := rfl

theorem opening : Reads b w [.lparen] rest [] .opening (.group :: w) := by
  simp [Reads, toPostfixFrom]

theorem closing (hheld : ∀ p ∈ held, 1 ≤ p.power) :
    Reads b (held ++ .group :: w) [.rparen] rest (held.map Pending.token) .closing w := by
  have hpos : ∀ p ∈ held, decide (p ≠ .group) = true := by
    rintro p hp
    rw [decide_eq_true_iff]
    rintro rfl
    exact absurd (hheld _ hp) (by decide)
  simp only [Reads, List.singleton_append, toPostfixFrom, List.takeWhile_append_of_pos hpos,
    List.dropWhile_append_of_pos hpos]
  simp

theorem negation (hb : b.negates = true) :
    Reads b w [.op .sub] rest [.number "0"] .opening (.negation :: w) := by
  simp [Reads, toPostfixFrom, hb]

theorem binary {o : BinOp} (hb : o = .sub → b.negates = false)
    (hheld : ∀ p ∈ held, o.precedence ≤ p.power) (hw : ∀ p ∈ w.head?, p.power < o.precedence) :
    Reads b (held ++ w) [.op o] rest (held.map Pending.token) (.binary o) (.binary o :: w) := by
  obtain ⟨h₁, h₂⟩ := released hheld hw
  have hneg : ¬ (o = .sub ∧ b.negates = true) := fun h => by simp [hb h.1] at h
  simp only [Reads, List.singleton_append, toPostfixFrom, if_neg hneg, h₁, h₂]

theorem percent (rest : List Token) (hheld : ∀ p ∈ held, 3 ≤ p.power) (hw : ∀ p ∈ w.head?, p.power < 3) :
    Reads b (held ++ w) [.percent none] rest (held.map Pending.token) .opening
      (.percent (if endsOperand rest then b.rightOf? else none) :: w) := by
  obtain ⟨h₁, h₂⟩ := released hheld hw
  simp [Reads, toPostfixFrom, h₁, h₂]

end Reads

/-! ### What a phrase leaves -/

/-- Reading `ts` behind `b`, with `w` waiting and `rest` still to come, leaves `b'` behind and some operators above `w` that bind at least as tightly as `m`.  What it puts out, and then these, list `order`. -/
def Leaves (m : Nat) (b b' : Before) (w : List Pending) (ts rest order : List Token) : Prop :=
  ∃ out held, Reads b w ts rest out b' (held ++ w) ∧ out ++ held.map Pending.token = order ∧
    ∀ p ∈ held, m ≤ p.power

namespace Leaves

variable {m m' : Nat} {b b' b₁ : Before} {w : List Pending} {ts us rest order order' : List Token}

theorem mono (h : Leaves m b b' w ts rest order) (hm : m' ≤ m) : Leaves m' b b' w ts rest order := by
  obtain ⟨out, held, hr, hl, hb⟩ := h
  exact ⟨out, held, hr, hl, fun p hp => Nat.le_trans hm (hb p hp)⟩

theorem numeral (text : String) :
    Leaves m b (.numeral b.operator?) w [.number text] rest [.number text] :=
  ⟨_, [], Reads.numeral text, rfl, by simp⟩

/-- Parentheses are dropped, with everything in between released. -/
theorem group (h : Leaves 1 .opening b' (.group :: w) ts (.rparen :: rest) order) :
    Leaves m b .closing w (.lparen :: (ts ++ [.rparen])) rest order := by
  obtain ⟨out, held, hr, rfl, hb⟩ := h
  exact ⟨out ++ held.map Pending.token, [],
    Reads.opening.trans [.lparen] _ (hr.trans _ [.rparen] (Reads.closing hb)),
    by simp, by simp⟩

theorem negation (hb : b.negates = true) (hm : m ≤ 4)
    (h : Leaves m .opening b' (.negation :: w) ts rest order) :
    Leaves m b b' w (.op .sub :: ts) rest (.number "0" :: (order ++ [.op .sub])) := by
  obtain ⟨out, held, hr, rfl, hbs⟩ := h
  refine ⟨.number "0" :: out, held ++ [.negation], ?_, by simp [Pending.token], ?_⟩
  · have := (Reads.negation hb).trans [.op .sub] ts hr
    simpa using this
  · simpa [or_imp, forall_and] using ⟨hbs, hm⟩

/-- The operator between two operands releases what the left one holds and waits below what the right one holds. -/
theorem binary {o : BinOp} (ho : o.precedence = m)
    (hl : Leaves m b b₁ w ts (.op o :: (us ++ rest)) order) (hneg : o = .sub → b₁.negates = false)
    (hw : ∀ p ∈ w.head?, p.power < m)
    (hr : Leaves m (.binary o) b' (.binary o :: w) us rest order') :
    Leaves m b b' w (ts ++ .op o :: us) rest (order ++ order' ++ [.op o]) := by
  obtain ⟨outl, heldl, hrl, rfl, hbl⟩ := hl
  obtain ⟨outr, heldr, hrr, rfl, hbr⟩ := hr
  subst ho
  refine ⟨outl ++ (heldl.map Pending.token ++ outr), heldr ++ [.binary o], ?_,
    by simp [Pending.token], ?_⟩
  · have := hrl.trans ts (.op o :: us) ((Reads.binary hneg hbl hw).trans [.op o] us hrr)
    simpa using this
  · simpa [or_imp, forall_and] using ⟨hbr, Nat.le_refl _⟩

theorem share (hq : Leaves 3 b b₁ w ts (.percent none :: (us ++ rest)) order)
    (hnext : endsOperand (us ++ rest) = false) (hw : ∀ p ∈ w.head?, p.power < 3)
    (hu : Leaves 3 .opening b' (.percent none :: w) us rest order') :
    Leaves 3 b b' w (ts ++ .percent none :: us) rest (order ++ order' ++ [.percent none]) := by
  obtain ⟨outq, heldq, hrq, rfl, hbq⟩ := hq
  obtain ⟨outu, heldu, hru, rfl, hbu⟩ := hu
  have hp := Reads.percent (b := b₁) (us ++ rest) hbq hw
  simp only [hnext, Bool.false_eq_true, if_false] at hp
  refine ⟨outq ++ (heldq.map Pending.token ++ outu), heldu ++ [.percent none], ?_,
    by simp [Pending.token], ?_⟩
  · have := hrq.trans ts (.percent none :: us) (hp.trans [.percent none] us hru)
    simpa using this
  · simpa [or_imp, forall_and] using ⟨hbu, Nat.le_refl 3⟩

theorem percent (hq : Leaves 3 b b₁ w ts (.percent none :: rest) order)
    (hnext : endsOperand rest = true) (hw : ∀ p ∈ w.head?, p.power < 3) :
    Leaves 3 b .opening w (ts ++ [.percent none]) rest (order ++ [.percent b₁.rightOf?]) := by
  obtain ⟨out, held, hr, rfl, hb⟩ := hq
  have hp := Reads.percent (b := b₁) rest hb hw
  simp only [hnext, if_true] at hp
  exact ⟨out ++ held.map Pending.token, [.percent b₁.rightOf?],
    hr.trans ts [.percent none] hp, by simp [Pending.token], by simp [Pending.power]⟩

end Leaves

/-- **A phrase leaves its post-order listing**, behind anything that makes a minus a negation, above anything that binds less tightly, and in front of anything its last percent sign allows. -/
theorem leaves {k : Tier} {n : Next} (t : Phrase k n) {b : Before} {w : List Pending}
    {rest : List Token} (hb : b.negates = true)
    (hw : k.power ≤ 3 → ∀ p ∈ w.head?, p.power < k.power)
    (hrest : n = .other → endsOperand rest = true) :
    Leaves k.power b (t.after b) w t.tokens rest (t.postorder b.operator?) := by
  induction t generalizing b w rest with
  | numeral text => exact .numeral text
  | group e ih =>
    -- the open parenthesis binds less tightly than anything inside
    exact .group (ih (b := .opening) rfl (by simp [Pending.power, Tier.power]) fun _ => rfl)
  | ofAtom a ih => exact ih hb (fun h => absurd h (by decide)) hrest
  | negation u ih =>
    exact .negation hb (Nat.le_refl 4) (ih (b := .opening) rfl (fun h => absurd h (by decide)) hrest)
  | ofSigned u ih => exact (ih hb (fun h => absurd h (by decide)) hrest).mono (by decide)
  | share q u ihq ihu =>
    exact .share (ihq hb hw fun _ => rfl) (u.endsOperand_tokens rest) (hw (by decide))
      ((ihu (b := .opening) rfl (fun h => absurd h (by decide)) hrest).mono (by decide))
  | percent q ih =>
    -- the mark is read off what the operand leaves behind it
    simp only [postorder]
    rw [← q.rightOf?_after b (by decide)]
    exact .percent (ih hb hw fun _ => rfl) (hrest rfl) (hw (by decide))
  | ofPercentage q ih =>
    exact (ih hb (fun _ p hp => Nat.lt_succ_of_lt (hw (by decide) p hp)) hrest).mono (by decide)
  | ofProduct t ih =>
    exact (ih hb (fun _ p hp => Nat.lt_succ_of_lt (hw (by decide) p hp)) hrest).mono (by decide)
  | product o ho l r ihl ihr | sum o ho l r ihl ihr =>
    refine .binary ho (ihl hb hw fun hn => endsOperand_op hn _)
      (fun h => l.negates_after b (by rw [h]; rfl)) (hw (by decide)) ?_
    exact (ihr (b := .binary o) rfl (by simp [Pending.power, ho, Tier.power]) hrest).mono (by decide)

/-- At the end of an expression everything it still holds is released. -/
theorem toPostfixFrom_tokens (e : Infix) :
    toPostfixFrom .opening [] e.tokens = .ok (e.postorder none) := by
  have hleaves : Leaves 1 .opening (e.after .opening) [] e.tokens [] (e.postorder none) :=
    e.leaves rfl (by simp) fun _ => rfl
  obtain ⟨out, held, hr, hl, hb⟩ := hleaves
  have hg : .group ∉ held := fun h => absurd (hb _ h) (by decide)
  simp only [Reads, List.append_nil] at hr
  rw [hr, toPostfixFrom, if_neg hg, ← hl]
  rfl

/-- **The operator stack parses.**  Every expression is put in postfix order, and the order is the post-order listing of its derivation tree: operands before their operator, the left one first, a negation as a subtraction from zero, parentheses dropped.  A percent sign is marked exactly if it follows a single number that directly follows a binary operator, with that operator. -/
theorem toPostfix_tokens (e : Infix) : Token.toPostfix e.tokens = .ok (e.postorder none) :=
  e.toPostfixFrom_tokens

end Phrase

end Reckoner
