import Reckoner.Proofs.Token.Tally

/-!
# Token — postfix order without marks

Where a token goes does not depend on marks.  `Plain.order` puts items in postfix order that carry a token each, and tells of everything that is put out which item it is; the zero of a negation is none.  It is the textbook's algorithm: two operators are compared by how tightly they bind, and nothing else about what waits is looked at.

What the items carry besides their tokens makes no difference (`order_map`).  So the order of tokens with their places is the order of the tokens, and every item that is no parenthesis is put out exactly once (`order_perm`).
-/

namespace Reckoner

namespace Plain

open Evaluation (map_eq_ok_iff)
open Token (closes endsOperand number)
open scoped List

variable {α β : Type} (tok : α → Token)

/-- How tightly an item binds that waits, where `true` says that it is a negation; a parenthesis holds everything below it back. -/
def power (x : α × Bool) : ℕ :=
  match tok x.1 with
  | .op o => if o = .sub ∧ x.2 then 4 else o.precedence
  | .percent _ => 3
  | .num _ | .lparen | .rparen => 0

/-- What is put out in front of an item that binds with power `p`. -/
def released (p : ℕ) (w : List (α × Bool)) : List (Option α) :=
  (w.takeWhile (p ≤ power tok ·)).map (some ·.1)

/-- What waits on below it. -/
def kept (p : ℕ) (w : List (α × Bool)) : List (α × Bool) := w.dropWhile (p ≤ power tok ·)

/-- What an item puts out, and what waits then; nothing if it closes a group that was never opened. -/
def place (negates : Bool) (w : List (α × Bool)) (a : α) : Option (List (Option α) × List (α × Bool)) :=
  match tok a with
  | .num _ => some ([some a], w)
  | .op o =>
    if o = .sub ∧ negates then some ([none], (a, true) :: w)
    else some (released tok o.precedence w, (a, false) :: kept tok o.precedence w)
  | .percent _ => some (released tok 3 w, (a, false) :: kept tok 3 w)
  | .lparen => some ([], (a, false) :: w)
  | .rparen =>
    match kept tok 1 w with
    | [] => none
    | _ :: below => some (released tok 1 w, below)

/-- Items in postfix order, with those that wait, innermost first; `negates` says that a minus is a negation here. -/
def orderFrom : Bool → List (α × Bool) → List α → Except Mistake (List (Option α))
  | _, w, [] =>
    if ∃ x ∈ w, power tok x = 0 then .error .unmatchedOpening else .ok (w.map (some ·.1))
  | negates, w, a :: as =>
    match place tok negates w a with
    | none => .error .unmatchedClosing
    | some (out, w') => (out ++ ·) <$> orderFrom (!closes (tok a)) w' as

/-- Items in the postfix order of their tokens. -/
def order (as : List α) : Except Mistake (List (Option α)) := orderFrom tok true [] as

/-- Tokens in postfix order. -/
def toPostfix (ts : List Token) : Except Mistake (List Token) :=
  List.map (·.getD (number "0")) <$> order id ts

variable {negates : Bool} {w w' : List (α × Bool)} {a : α} {as bs : List α} {out : List (Option α)}

theorem orderFrom_cons_eq_ok_iff : orderFrom tok negates w (a :: as) = .ok out ↔
    ∃ now w' rest, place tok negates w a = some (now, w') ∧
      orderFrom tok (!closes (tok a)) w' as = .ok rest ∧ now ++ rest = out := by
  rw [orderFrom]
  cases place tok negates w a with
  | none => simp
  | some r =>
    obtain ⟨now, w'⟩ := r
    simp only [map_eq_ok_iff, Option.some.injEq, Prod.mk.injEq]
    constructor
    · rintro ⟨rest, hrest, rfl⟩
      exact ⟨now, w', rest, ⟨rfl, rfl⟩, hrest, rfl⟩
    · rintro ⟨_, _, rest, ⟨rfl, rfl⟩, hrest, rfl⟩
      exact ⟨rest, hrest, rfl⟩

theorem orderFrom_of_place {now : List (Option α)} (hplace : place tok negates w a = some (now, w'))
    (h : orderFrom tok negates w (a :: as) = .ok out) :
    ∃ rest, orderFrom tok (!closes (tok a)) w' as = .ok rest ∧ now ++ rest = out := by
  obtain ⟨_, _, rest, hplace', hrest, rfl⟩ := (orderFrom_cons_eq_ok_iff tok).mp h
  cases hplace.symm.trans hplace'
  exact ⟨rest, hrest, rfl⟩

/-! ### One item -/

section

variable {n : Numeral} {o : BinOp} {target : Option BinOp}

theorem place_num (h : tok a = .num n) : place tok negates w a = some ([some a], w) := by
  rw [place, h]

theorem place_negation (h : tok a = .op o) (hneg : o = .sub ∧ negates = true) :
    place tok negates w a = some ([none], (a, true) :: w) := by
  rw [place, h]
  exact if_pos hneg

theorem place_binary (h : tok a = .op o) (hneg : ¬ (o = .sub ∧ negates = true)) :
    place tok negates w a = some (released tok o.precedence w, (a, false) :: kept tok o.precedence w) := by
  rw [place, h]
  exact if_neg hneg

theorem place_percent (h : tok a = .percent target) :
    place tok negates w a = some (released tok 3 w, (a, false) :: kept tok 3 w) := by
  rw [place, h]

theorem place_lparen (h : tok a = .lparen) : place tok negates w a = some ([], (a, false) :: w) := by
  rw [place, h]

theorem place_rparen_eq_some_iff (h : tok a = .rparen) : place tok negates w a = some (out, w') ↔
    ∃ x, kept tok 1 w = x :: w' ∧ released tok 1 w = out := by
  rw [place, h]
  cases kept tok 1 w <;> simp [and_comm]

end

/-! ### What the items carry -/

section

variable (tok : β → Token) (f : α → β)

theorem power_map (x : α × Bool) : power tok (x.map f id) = power (tok ∘ f) x := rfl

theorem released_map (p : ℕ) (w : List (α × Bool)) :
    released tok p (w.map (Prod.map f id)) = (released (tok ∘ f) p w).map (Option.map f) := by
  simp only [released, List.takeWhile_map, List.map_map]
  rfl

theorem kept_map (p : ℕ) (w : List (α × Bool)) :
    kept tok p (w.map (Prod.map f id)) = (kept (tok ∘ f) p w).map (Prod.map f id) := by
  simp only [kept, List.dropWhile_map]
  rfl

theorem place_map (negates : Bool) (w : List (α × Bool)) (a : α) :
    place tok negates (w.map (Prod.map f id)) (f a)
      = (place (tok ∘ f) negates w a).map (Prod.map (List.map (Option.map f)) (List.map (Prod.map f id))) := by
  simp only [place, released_map, kept_map, Function.comp_apply]
  cases tok (f a) with
  | num _ | percent _ | lparen => rfl
  | op o => dsimp only; split <;> rfl
  | rparen => cases kept (tok ∘ f) 1 w <;> rfl

theorem orderFrom_map (negates : Bool) (w : List (α × Bool)) (as : List α) :
    orderFrom tok negates (w.map (Prod.map f id)) (as.map f)
      = List.map (Option.map f) <$> orderFrom (tok ∘ f) negates w as := by
  induction as generalizing negates w with
  | nil =>
    have hopen : (∃ x ∈ w.map (Prod.map f id), power tok x = 0) ↔ ∃ x ∈ w, power (tok ∘ f) x = 0 := by
      simp only [List.mem_map, exists_exists_and_eq_and, power_map]
    rw [List.map_nil, orderFrom, orderFrom, apply_ite (List.map (Option.map f) <$> ·)]
    refine if_congr hopen rfl (congrArg Except.ok ?_)
    simp only [List.map_map]
    rfl
  | cons a as ih =>
    rw [List.map_cons, orderFrom, orderFrom, place_map]
    cases place (tok ∘ f) negates w a with
    | none => rfl
    | some r =>
      simp only [Option.map_some, Prod.map, ih, Functor.map_map, List.map_append, Function.comp_apply]

/-- **What the items carry makes no difference.** -/
theorem order_map (as : List α) :
    order tok (as.map f) = List.map (Option.map f) <$> order (tok ∘ f) as :=
  orderFrom_map tok f true [] as

end

/-! ### Everything once -/

/-- The items that are no parentheses. -/
def proper (as : List α) : List α := as.filter fun a => (tok a).kind ≠ .paren

/-- The items that wait to be put out. -/
def carried (w : List (α × Bool)) : List α := (w.filter (0 < power tok ·)).map (·.1)

theorem proper_singleton (h : (tok a).kind ≠ .paren) : proper tok [a] = [a] :=
  List.filter_cons_of_pos (decide_eq_true h)

theorem proper_paren (h : (tok a).kind = .paren) : proper tok [a] = [] :=
  List.filter_cons_of_neg (by simpa using h)

theorem carried_cons_of_pos {x : α × Bool} (h : 0 < power tok x) (w : List (α × Bool)) :
    carried tok (x :: w) = x.1 :: carried tok w := by
  rw [carried, List.filter_cons_of_pos (by simpa using h), List.map_cons, ← carried]

theorem carried_cons_of_zero {x : α × Bool} (h : power tok x = 0) (w : List (α × Bool)) :
    carried tok (x :: w) = carried tok w := by
  rw [carried, List.filter_cons_of_neg (by simpa using h), ← carried]

theorem reduceOption_some (xs : List (α × Bool)) :
    (xs.map (some ·.1) : List (Option α)).reduceOption = xs.map (·.1) := by
  induction xs with
  | nil => rfl
  | cons x xs ih => rw [List.map_cons, List.reduceOption_cons_of_some, ih, List.map_cons]

/-- What is put out of what waits, and what waits on, is what waited. -/
theorem carried_released {p : ℕ} (hp : 1 ≤ p) (w : List (α × Bool)) :
    (released tok p w).reduceOption ++ carried tok (kept tok p w) = carried tok w := by
  have hreleased : (w.takeWhile (p ≤ power tok ·)).filter (0 < power tok ·) = w.takeWhile (p ≤ power tok ·) :=
    List.filter_eq_self.mpr fun x hx => by
      have := List.mem_takeWhile_imp hx
      simp only [decide_eq_true_eq] at this ⊢
      omega
  rw [released, reduceOption_some, ← hreleased, kept, carried, carried, ← List.map_append,
    ← List.filter_append, List.takeWhile_append_dropWhile]

/-- What stands behind everything that binds is a parenthesis. -/
theorem power_of_kept {x : α × Bool} {below : List (α × Bool)} (h : kept tok 1 w = x :: below) :
    power tok x = 0 := by
  have hhead := List.head?_dropWhile_not (1 ≤ power tok ·) w
  rw [← kept, h] at hhead
  simpa using hhead

/-- An item is put out or waits, unless it is a parenthesis. -/
theorem place_perm (h : place tok negates w a = some (out, w')) :
    out.reduceOption ++ carried tok w' ~ proper tok [a] ++ carried tok w := by
  have hop {p : ℕ} (hp : 1 ≤ p) (ha : 0 < power tok (a, false)) :
      (released tok p w).reduceOption ++ carried tok ((a, false) :: kept tok p w) ~ a :: carried tok w := by
    rw [carried_cons_of_pos tok ha, ← carried_released tok hp w]
    exact List.perm_middle
  cases ha : tok a with
  | num n =>
    cases (place_num tok ha).symm.trans h
    rw [proper_singleton tok (by simp [ha, Token.kind])]
    exact .refl _
  | op o =>
    have hpower (negation : Bool) : 0 < power tok (a, negation) := by
      cases o <;> cases negation <;> simp [power, ha, BinOp.precedence]
    rw [proper_singleton tok (by simp [ha, Token.kind])]
    by_cases hneg : o = .sub ∧ negates = true
    · cases (place_negation tok ha hneg).symm.trans h
      rw [carried_cons_of_pos tok (hpower true)]
      exact .refl _
    · cases (place_binary tok ha hneg).symm.trans h
      exact hop (by cases o <;> decide) (hpower false)
  | percent target =>
    cases (place_percent tok ha).symm.trans h
    rw [proper_singleton tok (by simp [ha, Token.kind])]
    exact hop (by decide) (by simp [power, ha])
  | lparen =>
    cases (place_lparen tok ha).symm.trans h
    rw [proper_paren tok (by simp [ha, Token.kind]), carried_cons_of_zero tok (by simp [power, ha])]
    exact .refl _
  | rparen =>
    obtain ⟨x, hkept, rfl⟩ := (place_rparen_eq_some_iff tok ha).mp h
    have hcarried := carried_released tok le_rfl w
    rw [hkept, carried_cons_of_zero tok (power_of_kept tok hkept)] at hcarried
    rw [proper_paren tok (by simp [ha, Token.kind]), hcarried]
    exact .refl _

theorem orderFrom_perm (h : orderFrom tok negates w as = .ok out) :
    out.reduceOption ~ proper tok as ++ carried tok w := by
  induction as generalizing negates w out with
  | nil =>
    rw [orderFrom] at h
    split at h
    · cases h
    · next hclosed =>
      cases h
      have hall : w.filter (0 < power tok ·) = w := List.filter_eq_self.mpr fun x hx =>
        decide_eq_true (Nat.pos_of_ne_zero fun hx0 => hclosed ⟨x, hx, hx0⟩)
      rw [reduceOption_some, carried, hall]
      exact .refl _
  | cons a as ih =>
    obtain ⟨now, w', rest, hplace, hrest, rfl⟩ := (orderFrom_cons_eq_ok_iff tok).mp h
    have hsplit : proper tok (a :: as) = proper tok [a] ++ proper tok as := List.filter_append [a] as
    calc (now ++ rest).reduceOption
      _ = now.reduceOption ++ rest.reduceOption := List.reduceOption_append now rest
      _ ~ now.reduceOption ++ (proper tok as ++ carried tok w') := (ih hrest).append_left _
      _ ~ proper tok as ++ (now.reduceOption ++ carried tok w') := List.perm_append_comm_assoc ..
      _ ~ proper tok as ++ (proper tok [a] ++ carried tok w) := (place_perm tok hplace).append_left _
      _ ~ proper tok [a] ++ (proper tok as ++ carried tok w) := List.perm_append_comm_assoc ..
      _ = proper tok (a :: as) ++ carried tok w := by rw [hsplit, List.append_assoc]

/-- **Every item that is no parenthesis is put out once.** -/
theorem order_perm (h : order tok as = .ok out) : out.reduceOption ~ proper tok as := by
  have hperm := orderFrom_perm tok h
  rwa [carried, List.filter_nil, List.map_nil, List.append_nil] at hperm

/-! ### In parts -/

/-- Items are placed one after another, and numbers are put out at once. -/
theorem orderFrom_append (h : orderFrom tok negates w (as ++ bs) = .ok out) :
    ∃ front w' back, orderFrom tok (as.foldl (fun _ a => !closes (tok a)) negates) w' bs = .ok back ∧
      front ++ back = out ∧ ∀ a ∈ as, (tok a).isNumber = true → some a ∈ front := by
  induction as generalizing negates w out with
  | nil => exact ⟨[], w, out, h, rfl, nofun⟩
  | cons a as ih =>
    obtain ⟨now, w', rest, hplace, hrest, rfl⟩ := (orderFrom_cons_eq_ok_iff tok).mp h
    obtain ⟨front, w'', back, hback, rfl, hfront⟩ := ih hrest
    refine ⟨now ++ front, w'', back, hback, List.append_assoc .., List.forall_mem_cons.mpr ⟨fun ha => ?_, ?_⟩⟩
    · refine List.mem_append_left _ ?_
      cases htok : tok a with
      | num n =>
        cases (place_num tok htok).symm.trans hplace
        exact List.mem_singleton_self _
      | op _ | percent _ | lparen | rparen => rw [htok] at ha; cases ha
    · exact fun b hb hnumber => List.mem_append_right _ (hfront b hb hnumber)

/-- **An operator is put out behind every number before it.** -/
theorem order_number_operator {n : α} (hn : n ∈ as) (hnumber : (tok n).isNumber = true) (ha : (tok a).kind = .op)
    (h : order tok (as ++ a :: bs) = .ok out) : [some n, some a] <+ out := by
  obtain ⟨front, w, back, hback, rfl, hfront⟩ := orderFrom_append tok h
  have hmem : a ∈ back.reduceOption := by
    refine (orderFrom_perm tok hback).mem_iff.mpr (List.mem_append_left _ ?_)
    exact List.mem_filter.mpr ⟨List.mem_cons_self, by simp [ha]⟩
  exact (List.singleton_sublist.mpr (hfront n hn hnumber)).append
    (List.singleton_sublist.mpr (List.reduceOption_mem_iff.mp hmem))

theorem negates_foldl_closes (as : List α) :
    as.foldl (fun _ a => !closes (tok a)) true = true ↔ Token.Negates (as.map tok) := by
  induction as using List.reverseRecOn with
  | nil => exact iff_of_true rfl rfl
  | append_singleton as a => simp [Token.Negates]

theorem released_cons {p : ℕ} {x : α × Bool} (h : p ≤ power tok x) (w : List (α × Bool)) :
    released tok p (x :: w) = some x.1 :: released tok p w := by
  rw [released, List.takeWhile_cons_of_pos (by simpa using h), List.map_cons, ← released]

theorem released_cons_of_lt {p : ℕ} {x : α × Bool} (h : power tok x < p) (w : List (α × Bool)) :
    released tok p (x :: w) = [] := by
  rw [released, List.takeWhile_cons_of_neg (by simpa using h), List.map_nil]

variable {o : BinOp} {target : Option BinOp}

/-- A percent sign that waits is put out next where no operand begins. -/
theorem orderFrom_percent (ha : tok a = .percent target) (hbs : endsOperand (bs.map tok) = true)
    (h : orderFrom tok negates ((a, false) :: w) bs = .ok out) : ∃ rest, out = some a :: rest := by
  have hpower : power tok (a, false) = 3 := by rw [power, ha]
  cases bs with
  | nil =>
    rw [orderFrom] at h
    split at h
    · cases h
    · cases h; exact ⟨_, rfl⟩
  | cons b bs =>
    obtain ⟨now, w', rest, hplace, -, rfl⟩ := (orderFrom_cons_eq_ok_iff tok).mp h
    rw [List.map_cons] at hbs
    obtain ⟨p, hp, hnow⟩ : ∃ p ≤ 3, released tok p ((a, false) :: w) = now := by
      cases hb : tok b with
      | num _ | lparen => rw [hb] at hbs; cases hbs
      | op o =>
        rw [hb, endsOperand, bne_iff_ne] at hbs
        cases (place_binary tok hb fun h => hbs h.1).symm.trans hplace
        exact ⟨o.precedence, by cases o <;> decide, rfl⟩
      | percent _ =>
        cases (place_percent tok hb).symm.trans hplace
        exact ⟨3, le_rfl, rfl⟩
      | rparen =>
        obtain ⟨_, -, hnow⟩ := (place_rparen_eq_some_iff tok hb).mp hplace
        exact ⟨1, by decide, hnow⟩
    rw [released_cons tok (hpower.symm ▸ hp)] at hnow
    exact ⟨released tok p w ++ rest, by rw [← hnow, List.cons_append]⟩

/-- **A percent sign behind a number that is a right operand is put out right behind it**, unless an operand begins next. -/
theorem order_operand_percent {n p : α} {m : Numeral} (ha : tok a = .op o) (hn : tok n = .num m)
    (hp : tok p = .percent target) (hneg : ¬ (o = .sub ∧ Token.Negates (as.map tok)))
    (hbs : endsOperand (bs.map tok) = true) (h : order tok (as ++ a :: n :: p :: bs) = .ok out) :
    [some n, some p] <:+: out := by
  rw [← negates_foldl_closes] at hneg
  obtain ⟨front, w, _, hoperator, rfl, -⟩ := orderFrom_append tok h
  obtain ⟨_, hnumber, rfl⟩ := orderFrom_of_place tok (place_binary tok ha hneg) hoperator
  obtain ⟨_, hpercent, rfl⟩ := orderFrom_of_place tok (place_num tok hn) hnumber
  obtain ⟨_, hbehind, rfl⟩ := orderFrom_of_place tok (place_percent tok hp) hpercent
  obtain ⟨rest, rfl⟩ := orderFrom_percent tok hp hbs hbehind
  -- the operator that waits binds less tightly than a percent sign, so nothing comes between
  have hpower : power tok (a, false) < 3 := by cases o <;> simp [power, ha, BinOp.precedence]
  rw [released_cons_of_lt tok hpower]
  exact ⟨front ++ released tok o.precedence w, rest, by simp⟩

end Plain

end Reckoner
