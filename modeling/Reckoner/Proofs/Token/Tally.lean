import Reckoner.Proofs.Stack
import Reckoner.Proofs.Token.Scan

/-!
# Token — how many values tokens leave

Whether every token of a postfix order finds the values it takes, and how many are left at the end, does not depend on the values: `walk` counts them, and a run that succeeds has counted so (`walk_of_run`).  `tally` counts on the tokens as they were read: a number adds a value, a binary operator takes one away, a percent sign takes one away with the number behind it, minus signs in between or not, if there is a value before it, and parentheses and negations count nothing.  If no operand begins directly behind a number, a postfix order leaves no more values than its tokens add up to (`walk_toPostfixFrom`).
-/

namespace Reckoner

/-- What waits takes a value away when it is released. -/
def Pending.owes : Pending → Bool
  | binary _ | negation => true
  | percent _ | group => false

namespace Token

open Evaluation (map_eq_ok_iff bind_eq_ok_iff Stepped step_eq_ok_iff step_length run)

/-! ### Postfix order -/

/-- How many values a token takes at least. -/
def arity : Token → ℕ
  | num _ | lparen | rparen => 0
  | op _ => 2
  | percent _ => 1

/-- How many values tokens in postfix order leave of `n`, if each of them finds as many as it takes. -/
def walk : ℕ → List Token → Option ℕ
  | n, [] => some n
  | n, t :: ts => if t.arity ≤ n then walk (t.depth n) ts else none

variable {n k : ℕ} {t : Token} {ts us out : List Token}

theorem walk_cons_eq_some_iff : walk n (t :: ts) = some k ↔ t.arity ≤ n ∧ walk (t.depth n) ts = some k := by
  rw [walk]
  split
  · next h => exact (and_iff_right h).symm
  · next h => exact iff_of_false nofun fun hk => h hk.1

theorem walk_append_eq_some_iff :
    walk n (ts ++ us) = some k ↔ ∃ m, walk n ts = some m ∧ walk m us = some k := by
  induction ts generalizing n with
  | nil => simp [walk]
  | cons t ts ih =>
    simp only [List.cons_append, walk_cons_eq_some_iff, ih]
    constructor
    · rintro ⟨ht, m, hts, hus⟩
      exact ⟨m, ⟨ht, hts⟩, hus⟩
    · rintro ⟨m, ⟨ht, hts⟩, hus⟩
      exact ⟨ht, m, hts, hus⟩

theorem arity_le_of_stepped {ctx : Decimal.Context} {stack stack' : List Decimal}
    (h : Stepped ctx stack t stack') : t.arity ≤ stack.length := by
  cases h <;> simp [arity]

/-- **A run that succeeds has counted its values.** -/
theorem walk_of_run {ctx : Decimal.Context} {stack stack' : List Decimal}
    (h : run ctx stack ts = .ok stack') : walk stack.length ts = some stack'.length := by
  induction ts generalizing stack with
  | nil => cases h; rfl
  | cons t ts ih =>
    rw [Evaluation.run_cons] at h
    obtain ⟨between, hstep, h⟩ := bind_eq_ok_iff.mp h
    rw [walk_cons_eq_some_iff, ← step_length hstep]
    exact ⟨arity_le_of_stepped (step_eq_ok_iff.mp hstep), ih h⟩

/-! ### What waits -/

/-- How many values will be taken away by what waits. -/
def owed (w : List Pending) : ℕ := w.countP Pending.owes

theorem owed_takeWhile_dropWhile (p : Pending → Bool) (w : List Pending) :
    owed (w.takeWhile p) + owed (w.dropWhile p) = owed w := by
  rw [owed, owed, ← List.countP_append, List.takeWhile_append_dropWhile]
  rfl

/-- What is released takes away what it owes, and leaves a value where there was one. -/
theorem walk_released {w : List Pending} (h : walk n (w.map Pending.token) = some k) :
    k + owed w ≤ n ∧ (1 ≤ n → 1 ≤ k) := by
  induction w generalizing n with
  | nil => cases h; exact ⟨le_rfl, id⟩
  | cons p w ih =>
    rw [List.map_cons, walk_cons_eq_some_iff] at h
    obtain ⟨harity, h⟩ := h
    obtain ⟨hle, hpos⟩ := ih h
    have howed : owed (p :: w) = owed w + if p.owes then 1 else 0 := List.countP_cons ..
    rw [howed]
    rcases p with o | _ | (_ | o) | _ <;> simp [Pending.token, arity, depth, Pending.owes] at * <;> omega

/-! ### As they were read -/

/-- The token ends an operand that no other can follow. -/
def closes : Token → Bool
  | num _ | rparen => true
  | op _ | percent _ | lparen => false

/-- The token begins an operand, and is no sign. -/
def opens : Token → Bool
  | num _ | lparen => true
  | op _ | percent _ | rparen => false

/-- How many values tokens add.  `seen` says whether there is a value before them, `closed` whether an operand ends right before them, and `sharing` whether a percent sign waits that will take a value away with the first number. -/
def tally : (seen closed sharing : Bool) → List Token → ℤ
  | _, _, _, [] => 0
  | _, _, sharing, num _ :: ts => (if sharing then 0 else 1) + tally true true false ts
  | seen, closed, sharing, op o :: ts =>
    if o = .sub ∧ closed = false then tally true false sharing ts else tally seen false false ts - 1
  | seen, _, _, percent _ :: ts => tally seen false seen ts
  | seen, _, _, lparen :: ts => tally seen false false ts
  | seen, _, _, rparen :: ts => tally seen true false ts

/-- A minus behind the token is a negation exactly if the token ends no operand. -/
theorem negates_after (b : Before) (t : Token) : (b.after t).negates = !t.closes := by
  cases t with
  | op o => rw [Before.after]; split <;> rfl
  | num _ | percent _ | lparen | rparen => rfl

/-- A minus behind these tokens is a negation. -/
def Negates (front : List Token) : Prop := front.getLast?.any closes = false

instance : DecidablePred Negates := fun front => inferInstanceAs (Decidable (front.getLast?.any closes = false))

/-- The tokens are read so: a minus is a negation where the order of tokens takes it for one. -/
theorem negates_foldl (front : List Token) :
    (front.foldl Before.after .opening).negates = true ↔ Negates front := by
  induction front using List.reverseRecOn with
  | nil => exact iff_of_true rfl rfl
  | append_singleton front t =>
    rw [List.foldl_append, Negates, List.getLast?_concat]
    simp [negates_after]

/-- Behind a number, what binds as tightly as a percent sign is released by every token that begins no operand. -/
theorem advance_tight {p : Pending} (hp : 3 ≤ p.power) (ht : t.opens = false) (o : Option BinOp)
    (w : List Pending) (ends : Bool) : advance (.numeral o) (p :: w) ends t
      = (advance (.numeral o) w ends t).map fun r => (p.token :: r.1, r.2) := by
  have hgroup : p ≠ .group := by rintro rfl; cases hp
  cases t with
  | num _ | lparen => cases ht
  | op b =>
    have hle : b.precedence ≤ p.power := le_trans (by cases b <;> decide) hp
    simp [advance, Before.negates, hle]
  | percent _ => simp [advance, hp]
  | rparen =>
    have hdrop : (p :: w).dropWhile (· ≠ .group) = w.dropWhile (· ≠ .group) :=
      List.dropWhile_cons_of_pos (by simpa using hgroup)
    have htake : (p :: w).takeWhile (· ≠ .group) = p :: w.takeWhile (· ≠ .group) :=
      List.takeWhile_cons_of_pos (by simpa using hgroup)
    rw [advance, advance, hdrop, htake]
    cases w.dropWhile (· ≠ .group) <;> rfl

theorem toPostfixFrom_tight {ps : List Pending} (hps : ∀ p ∈ ps, 3 ≤ p.power)
    (hts : ∀ t ∈ ts.head?, t.opens = false) (o : Option BinOp) (w : List Pending) :
    toPostfixFrom (.numeral o) (ps ++ w) ts
      = (ps.map Pending.token ++ ·) <$> toPostfixFrom (.numeral o) w ts := by
  induction ps with
  | nil => simp
  | cons p ps ih =>
    obtain ⟨hp, hps⟩ := List.forall_mem_cons.mp hps
    have hgroup : p ≠ .group := by rintro rfl; cases hp
    have hone : toPostfixFrom (.numeral o) (p :: (ps ++ w)) ts
        = (p.token :: ·) <$> toPostfixFrom (.numeral o) (ps ++ w) ts := by
      cases ts with
      | nil =>
        have hmem : Pending.group ∈ p :: (ps ++ w) ↔ Pending.group ∈ ps ++ w := by
          rw [List.mem_cons, or_iff_right hgroup.symm]
        simp only [toPostfixFrom, hmem]
        split <;> rfl
      | cons t ts =>
        rw [toPostfixFrom_cons, advance_tight hp (hts t rfl), toPostfixFrom_cons]
        cases advance (.numeral o) (ps ++ w) (endsOperand ts) t with
        | none => rfl
        | some r => simp only [Option.map_some, Functor.map_map, List.cons_append]
    rw [List.cons_append, hone, ih hps, Functor.map_map]
    rfl

/-- A number that is put out adds a value. -/
theorem walk_number {m : Numeral} {r : Except Mistake (List Token)} (h : (num m :: ·) <$> r = .ok out)
    (hwalk : walk n out = some k) : ∃ rest, r = .ok rest ∧ walk (n + 1) rest = some k := by
  obtain ⟨rest, hr, rfl⟩ := map_eq_ok_iff.mp h
  exact ⟨rest, hr, (walk_cons_eq_some_iff.mp hwalk).2⟩

/-- What is released takes away what it owes. -/
theorem walk_release {p : List Pending} {r : Except Mistake (List Token)}
    (h : (p.map Pending.token ++ ·) <$> r = .ok out) (hwalk : walk n out = some k) :
    ∃ rest m, r = .ok rest ∧ walk m rest = some k ∧ m + owed p ≤ n ∧ (1 ≤ n → 1 ≤ m) := by
  obtain ⟨rest, hr, rfl⟩ := map_eq_ok_iff.mp h
  obtain ⟨m, hreleased, hrest⟩ := walk_append_eq_some_iff.mp hwalk
  exact ⟨rest, m, hr, hrest, walk_released hreleased⟩

theorem owed_cons (p : Pending) (w : List Pending) : owed (p :: w) = owed w + if p.owes then 1 else 0 :=
  List.countP_cons ..

/-- No operand begins directly behind a number. -/
def Apart (ts : List Token) : Prop := ts.IsChain fun t u => ¬ (t.isNumber = true ∧ u.opens = true)

theorem Apart.tail (h : Apart (t :: ts)) : Apart ts := List.IsChain.tail h

theorem Apart.opens_head {n : Numeral} (h : Apart (num n :: ts)) : ∀ t ∈ ts.head?, t.opens = false := by
  intro t ht
  simpa [isNumber, kind] using (List.isChain_cons.mp h).1 t ht

variable {b : Before} {w w' : List Pending} {seen closed sharing : Bool}

/-- Where a number is to be shared, a percent sign waits behind negations only, each with its zero, and there is a value for it; it has no target if a number or another negation follows. -/
def Shares (sharing : Bool) (n : ℕ) (w : List Pending) (ts : List Token) : Prop :=
  sharing = true → ∃ j target w', w = List.replicate j .negation ++ .percent target :: w' ∧ j + 1 ≤ n ∧
    (endsOperand ts = false → target = none)

theorem shares_false : Shares false n w ts := nofun

/-- Negations give back what their zeros added, and the percent sign takes a value more. -/
theorem walk_shared {j : ℕ} (hj : j + 1 ≤ n)
    (h : walk (n + 1) ((List.replicate j Pending.negation ++ [Pending.percent none]).map Pending.token) = some k) :
    k + j = n := by
  induction j generalizing n with
  | zero =>
    cases h
    exact max_eq_right hj
  | succ j ih =>
    obtain ⟨n, rfl⟩ := Nat.exists_eq_add_of_lt hj
    have := ih (n := j + 1 + n) (by omega) (walk_cons_eq_some_iff.mp h).2
    omega

/-- **A postfix order leaves no more values than its tokens add up to.** -/
theorem walk_toPostfixFrom (hapart : Apart ts) (hscanned : ∀ t ∈ ts, t.Scanned)
    (h : toPostfixFrom b w ts = .ok out) (hwalk : walk n out = some k) (hseen : seen = true → 1 ≤ n)
    (hclosed : b.negates = !closed) (hshares : Shares sharing n w ts) :
    (k + owed w : ℤ) ≤ n + tally seen closed sharing ts := by
  fun_induction tally seen closed sharing ts generalizing b w out n with
  | case1 seen closed sharing =>
    obtain ⟨-, rfl⟩ := toPostfixFrom_nil_eq_ok_iff.mp h
    have := (walk_released hwalk).1
    omega
  | case2 seen closed sharing m ts ih =>
    obtain ⟨rest, hrest, hwalk⟩ := walk_number h hwalk
    have hscanned := (List.forall_mem_cons.mp hscanned).2
    cases sharing with
    | false =>
      have := ih hapart.tail hscanned hrest hwalk (fun _ => by omega) rfl shares_false
      simp at *
      omega
    | true =>
      -- the negations and the percent sign are released right behind the number
      obtain ⟨j, target, w', rfl, hj, htarget⟩ := hshares rfl
      obtain rfl := htarget rfl
      have htight : ∀ p ∈ List.replicate j Pending.negation ++ [Pending.percent none], 3 ≤ p.power := by
        simp [List.mem_replicate, or_imp, forall_and, Pending.power]
      have hnext := toPostfixFrom_tight htight hapart.opens_head b.operator? w'
      rw [List.append_assoc, List.singleton_append, hrest] at hnext
      obtain ⟨behind, hbehind, rfl⟩ := map_eq_ok_iff.mp hnext.symm
      obtain ⟨l, hshared, hwalk⟩ := walk_append_eq_some_iff.mp hwalk
      have hl := walk_shared hj hshared
      have := ih hapart.tail hscanned hbehind hwalk (fun _ => by omega) rfl shares_false
      have howed : owed (List.replicate j Pending.negation ++ .percent none :: w') = j + owed w' := by
        simp [owed, List.countP_append, List.countP_replicate, Pending.owes]
      rw [howed]
      simp
      omega
  | case3 seen closed sharing o ts hneg ih =>
    -- the zero that a negation puts out is taken away again
    rw [toPostfixFrom, if_pos ⟨hneg.1, by rw [hclosed, hneg.2]; rfl⟩] at h
    obtain ⟨rest, hrest, hwalk⟩ := walk_number h hwalk
    have hnext : Shares sharing (n + 1) (.negation :: w) ts := fun hsharing => by
      obtain ⟨j, target, w', rfl, hj, htarget⟩ := hshares hsharing
      have hnone : target = none := htarget (by rw [hneg.1]; rfl)
      exact ⟨j + 1, target, w', rfl, by omega, fun _ => hnone⟩
    have := ih hapart.tail (List.forall_mem_cons.mp hscanned).2 hrest hwalk (fun _ => by omega) rfl hnext
    simp only [owed_cons, Pending.owes, if_true] at this
    omega
  | case4 seen closed sharing o ts hneg ih =>
    rw [toPostfixFrom, if_neg (by simpa [hclosed] using hneg)] at h
    obtain ⟨rest, m, hrest, hwalk, hle, hpos⟩ := walk_release h hwalk
    have := ih hapart.tail (List.forall_mem_cons.mp hscanned).2 hrest hwalk (fun h => hpos (hseen h)) rfl
      shares_false
    have := owed_takeWhile_dropWhile (o.precedence ≤ ·.power) w
    simp only [owed_cons, Pending.owes, if_true] at *
    omega
  | case5 closed sharing seen target ts ih =>
    obtain ⟨htarget, htail⟩ := List.forall_mem_cons.mp hscanned
    obtain rfl : target = none := htarget
    rw [toPostfixFrom] at h
    obtain ⟨rest, m, hrest, hwalk, hle, hpos⟩ := walk_release h hwalk
    have hnext : Shares seen m (.percent (if endsOperand ts then b.rightOf? <|> none else none)
        :: w.dropWhile (3 ≤ ·.power)) ts := fun hs =>
      ⟨0, _, _, rfl, hpos (hseen hs), fun hends => by rw [hends]; rfl⟩
    have := ih hapart.tail htail hrest hwalk (fun h => hpos (hseen h)) rfl hnext
    have := owed_takeWhile_dropWhile (3 ≤ ·.power) w
    simp [owed_cons, Pending.owes] at *
    omega
  | case6 closed sharing seen ts ih =>
    have := ih hapart.tail (List.forall_mem_cons.mp hscanned).2 h hwalk hseen rfl shares_false
    simpa [owed_cons, Pending.owes] using this
  | case7 closed sharing seen ts ih =>
    rw [toPostfixFrom] at h
    have howed := owed_takeWhile_dropWhile (· ≠ .group) w
    cases hdrop : w.dropWhile (· ≠ .group) with
    | nil => rw [hdrop] at h; cases h
    | cons p kept =>
      obtain rfl := eq_group_of_dropWhile hdrop
      rw [hdrop] at h howed
      obtain ⟨rest, m, hrest, hwalk, hle, hpos⟩ := walk_release h hwalk
      have := ih hapart.tail (List.forall_mem_cons.mp hscanned).2 hrest hwalk (fun h => hpos (hseen h)) rfl
        shares_false
      simp [owed_cons, Pending.owes] at *
      omega

end Token

end Reckoner
