import Mathlib
import Reckoner.Evaluation
import Reckoner.Token.Postfix

/-!
# Token — a group is put in order by itself

`toPostfixFrom_cons` reads one token: what it puts out, and what waits behind it (`advance`).

An opening parenthesis keeps what waits before it apart from what comes after it.  So tokens that are put in postfix order by themselves are put in the same order as a group, whatever waits before the group and follows it (`toPostfixFrom_group`), and what is put out around a group does not depend on what the group holds (`toPostfix_around`).

A number in front of an operator needs no parentheses to be a group, with a sign or without one: `toPostfix_operand`.
-/

namespace Reckoner

/-- What precedes the token after this one. -/
def Before.after (b : Before) : Token → Before
  | .num _ => .numeral b.operator?
  | .op o => if o = .sub ∧ b.negates then .opening else .binary o
  | .percent _ | .lparen => .opening
  | .rparen => .closing

namespace Token

open Evaluation (map_eq_ok_iff)

variable {b : Before} {w w' kept : List Pending} {ts out : List Token} {t : Token}

/-! ### One token -/

/-- What a token puts out, and what waits then; nothing if it closes a group that was never opened.  `ends` says that no operand begins after the token. -/
def advance (b : Before) (w : List Pending) (ends : Bool) : Token → Option (List Token × List Pending)
  | num n => some ([num n], w)
  | op o =>
    if o = .sub ∧ b.negates then some ([number "0"], .negation :: w)
    else some ((w.takeWhile (o.precedence ≤ ·.power)).map Pending.token,
      .binary o :: w.dropWhile (o.precedence ≤ ·.power))
  | percent target => some ((w.takeWhile (3 ≤ ·.power)).map Pending.token,
      .percent (if ends then b.rightOf? <|> target else target) :: w.dropWhile (3 ≤ ·.power))
  | lparen => some ([], .group :: w)
  | rparen =>
    match w.dropWhile (· ≠ .group) with
    | [] => none
    | _ :: kept => some ((w.takeWhile (· ≠ .group)).map Pending.token, kept)

/-- **Tokens are read one at a time.** -/
theorem toPostfixFrom_cons (b : Before) (w : List Pending) (t : Token) (ts : List Token) :
    toPostfixFrom b w (t :: ts) = match advance b w (endsOperand ts) t with
      | none => .error .unmatchedClosing
      | some (out, w') => (out ++ ·) <$> toPostfixFrom (b.after t) w' ts := by
  cases t with
  | num n => rfl
  | op o => rw [toPostfixFrom, advance, Before.after]; split <;> rfl
  | percent target => rfl
  | lparen => exact (id_map _).symm
  | rparen =>
    rw [toPostfixFrom, advance]
    cases w.dropWhile (· ≠ .group) <;> rfl

/-- What a token leads to, where it is read. -/
theorem toPostfixFrom_of_advance {out : List Token}
    (h : advance b w (endsOperand ts) t = some (out, w')) :
    toPostfixFrom b w (t :: ts) = (out ++ ·) <$> toPostfixFrom (b.after t) w' ts := by
  rw [toPostfixFrom_cons, h]

/-- At the end everything that waits is put out, if no group is open. -/
theorem toPostfixFrom_nil_eq_ok_iff :
    toPostfixFrom b w [] = .ok out ↔ .group ∉ w ∧ w.map Pending.token = out := by
  rw [toPostfixFrom]
  split
  · next h => exact iff_of_false nofun fun hout => hout.1 h
  · next h => rw [Except.ok.injEq, and_iff_right h]

/-- A token puts something out, and the others the rest. -/
theorem toPostfixFrom_cons_eq_ok_iff : toPostfixFrom b w (t :: ts) = .ok out ↔
    ∃ now w' rest, advance b w (endsOperand ts) t = some (now, w') ∧
      toPostfixFrom (b.after t) w' ts = .ok rest ∧ now ++ rest = out := by
  rw [toPostfixFrom_cons]
  cases advance b w (endsOperand ts) t with
  | none => simp
  | some r => obtain ⟨now, w'⟩ := r; simp [map_eq_ok_iff, and_assoc]

/-! ### Behind a parenthesis -/

/-- What stops at an opening parenthesis does not see what waits below it. -/
theorem takeWhile_group {q : Pending → Bool} (hq : q .group = false) (w kept : List Pending) :
    (w ++ .group :: kept).takeWhile q = w.takeWhile q ∧
      (w ++ .group :: kept).dropWhile q = w.dropWhile q ++ .group :: kept := by
  induction w with
  | nil => simp [hq]
  | cons p w ih => cases hp : q p <;> simp [hp, ih]

theorem eq_group_of_dropWhile {p : Pending} (h : w.dropWhile (· ≠ .group) = p :: kept) : p = .group := by
  have hhead := List.head?_dropWhile_not (· ≠ .group) w
  rw [h] at hhead
  simpa using hhead

theorem not_precedence_le_group (o : BinOp) : decide (o.precedence ≤ Pending.group.power) = false := by
  cases o <;> rfl

/-- No token reaches below an opening parenthesis but the one that closes it. -/
theorem advance_group {ends : Bool} (h : advance b w ends t = some (out, w')) (kept : List Pending) :
    advance b (w ++ .group :: kept) ends t = some (out, w' ++ .group :: kept) := by
  cases t with
  | num n | lparen => cases h; rfl
  | op o =>
    obtain ⟨htake, hdrop⟩ :=
      takeWhile_group (q := (o.precedence ≤ ·.power)) (not_precedence_le_group o) w kept
    rw [advance] at h ⊢
    split at h
    · next hneg => cases h; rw [if_pos hneg]; rfl
    · next hneg => cases h; rw [if_neg hneg, htake, hdrop]; rfl
  | percent target =>
    obtain ⟨htake, hdrop⟩ := takeWhile_group (q := (3 ≤ ·.power)) (by decide) w kept
    cases h
    rw [advance, htake, hdrop]
    rfl
  | rparen =>
    obtain ⟨htake, hdrop⟩ := takeWhile_group (q := (· ≠ .group)) (by decide) w kept
    rw [advance] at h ⊢
    rw [htake, hdrop]
    cases hinner : w.dropWhile (· ≠ .group) with
    | nil => rw [hinner] at h; cases h
    | cons p inner => rw [hinner] at h; cases h; rfl

theorem endsOperand_append_rparen (ts rest : List Token) :
    endsOperand (ts ++ .rparen :: rest) = endsOperand ts := by
  cases ts with
  | nil => rfl
  | cons t ts => cases t <;> rfl

/-- Up to its closing parenthesis a group is read like a whole list of tokens. -/
theorem toPostfixFrom_append_rparen (h : toPostfixFrom b w ts = .ok out) (kept : List Pending)
    (rest : List Token) :
    toPostfixFrom b (w ++ .group :: kept) (ts ++ .rparen :: rest)
      = (out ++ ·) <$> toPostfixFrom .closing kept rest := by
  induction ts generalizing b w out with
  | nil =>
    obtain ⟨hw, rfl⟩ := toPostfixFrom_nil_eq_ok_iff.mp h
    -- the group is closed, and everything in it released
    have hall : ∀ p ∈ w, decide (p ≠ .group) = true := fun p hp =>
      decide_eq_true (ne_of_mem_of_not_mem hp hw)
    obtain ⟨htake, hdrop⟩ := takeWhile_group (q := (· ≠ .group)) (by decide) w kept
    rw [List.takeWhile_eq_self_iff.mpr hall] at htake
    rw [List.dropWhile_eq_nil_iff.mpr hall, List.nil_append] at hdrop
    rw [List.nil_append, toPostfixFrom, htake, hdrop]
  | cons t ts ih =>
    obtain ⟨now, w', out', hstep, hts, rfl⟩ := toPostfixFrom_cons_eq_ok_iff.mp h
    rw [← endsOperand_append_rparen ts rest] at hstep
    rw [List.cons_append, toPostfixFrom_of_advance (advance_group hstep kept), ih hts, Functor.map_map]
    simp only [List.append_assoc]

/-- **A group is put in order by itself**, whatever waits before it and follows it. -/
theorem toPostfixFrom_group (h : toPostfix ts = .ok out) (b : Before) (w : List Pending)
    (rest : List Token) :
    toPostfixFrom b w (.lparen :: (ts ++ .rparen :: rest))
      = (out ++ ·) <$> toPostfixFrom .closing w rest := by
  rw [toPostfixFrom]
  exact toPostfixFrom_append_rparen h w rest

/-! ### In front of a parenthesis -/

/-- No token puts a number out: none is a number, and no minus is a negation, which puts a zero out. -/
def Numberless (b : Before) : List Token → Prop
  | [] => True
  | t :: ts => (t.isNumber = false ∧ ¬ (t = .op .sub ∧ b.negates = true)) ∧ Numberless (b.after t) ts

instance decidableNumberless (b : Before) : (ts : List Token) → Decidable (Numberless b ts)
  | [] => inferInstanceAs (Decidable True)
  | _ :: ts => @instDecidableAnd _ _ _ (decidableNumberless _ ts)

theorem isNumber_token (p : Pending) : p.token.isNumber = false := by
  cases p <;> rfl

/-- Only a number or a negation puts a number out. -/
theorem isNumber_of_advance {ends : Bool} {u : Token} (h : advance b w ends t = some (out, w'))
    (hu : u ∈ out) (hnumber : u.isNumber = true) :
    u = t ∨ u = number "0" ∧ t = .op .sub ∧ b.negates = true := by
  have hpending : ∀ ps : List Pending, u ∉ ps.map Pending.token := by
    intro ps hu
    obtain ⟨p, -, rfl⟩ := List.mem_map.mp hu
    rw [isNumber_token] at hnumber
    cases hnumber
  cases t with
  | num n => cases h; exact .inl (List.mem_singleton.mp hu)
  | op o =>
    rw [advance] at h
    split at h
    · next hneg =>
      cases h
      exact .inr ⟨List.mem_singleton.mp hu, by rw [hneg.1], hneg.2⟩
    · cases h; exact absurd hu (hpending _)
  | percent target => cases h; exact absurd hu (hpending _)
  | lparen => cases h; cases hu
  | rparen =>
    rw [advance] at h
    split at h
    · cases h
    · cases h; exact absurd hu (hpending _)

theorem endsOperand_append_lparen (ts rest : List Token) :
    endsOperand (ts ++ .lparen :: rest) = endsOperand (ts ++ [.lparen]) := by
  cases ts with
  | nil => rfl
  | cons t ts => cases t <;> rfl

/-- In front of a group all that matters is that a group begins. -/
theorem toPostfixFrom_append_lparen (b : Before) (w : List Pending) (ts : List Token) :
    (∀ rest, toPostfixFrom b w (ts ++ .lparen :: rest) = .error .unmatchedClosing) ∨
      ∃ out b' w', (∀ rest, toPostfixFrom b w (ts ++ .lparen :: rest)
          = (out ++ ·) <$> toPostfixFrom b' w' (.lparen :: rest)) ∧
        (Numberless b ts → ∀ u ∈ out, u.isNumber = false) := by
  induction ts generalizing b w with
  | nil => exact .inr ⟨[], b, w, fun rest => (id_map _).symm, fun _ => nofun⟩
  | cons t ts ih =>
    cases hstep : advance b w (endsOperand (ts ++ [.lparen])) t with
    | none =>
      refine .inl fun rest => ?_
      rw [List.cons_append, toPostfixFrom_cons, endsOperand_append_lparen, hstep]
    | some r =>
      obtain ⟨released, w'⟩ := r
      have hcons : ∀ rest, toPostfixFrom b w (t :: ts ++ .lparen :: rest)
          = (released ++ ·) <$> toPostfixFrom (b.after t) w' (ts ++ .lparen :: rest) := fun rest =>
        toPostfixFrom_of_advance ((endsOperand_append_lparen ts rest).symm ▸ hstep)
      rcases ih (b.after t) w' with herror | ⟨out, b', w'', hout, hnumber⟩
      · exact .inl fun rest => by rw [hcons, herror]; rfl
      · refine .inr ⟨released ++ out, b', w'', fun rest => ?_, fun ⟨⟨ht, hneg⟩, hts⟩ u hu => ?_⟩
        · rw [hcons, hout, Functor.map_map]
          simp only [List.append_assoc]
        · rcases List.mem_append.mp hu with hu | hu
          · refine Bool.eq_false_iff.mpr fun hu' => ?_
            rcases isNumber_of_advance hstep hu hu' with rfl | ⟨-, hsub⟩
            · rw [hu'] at ht; cases ht
            · exact hneg hsub
          · exact hnumber hts u hu

/-- **What is put out around a group does not depend on what the group holds.** -/
theorem toPostfix_around (ts us : List Token) :
    (∃ m, ∀ inner out, toPostfix inner = .ok out →
        toPostfix (ts ++ .lparen :: (inner ++ .rparen :: us)) = .error m) ∨
      ∃ front back, (∀ inner out, toPostfix inner = .ok out →
          toPostfix (ts ++ .lparen :: (inner ++ .rparen :: us)) = .ok (front ++ (out ++ back))) ∧
        (Numberless .opening ts → ∀ u ∈ front, u.isNumber = false) := by
  rcases toPostfixFrom_append_lparen .opening [] ts with herror | ⟨front, b, w, hfront, hnumber⟩
  · exact .inl ⟨_, fun inner out _ => herror _⟩
  · cases hback : toPostfixFrom .closing w us with
    | error m =>
      refine .inl ⟨m, fun inner out h => ?_⟩
      rw [toPostfix, hfront, toPostfixFrom_group h, hback]
      rfl
    | ok back =>
      refine .inr ⟨front, back, fun inner out h => ?_, hnumber⟩
      rw [toPostfix, hfront, toPostfixFrom_group h, hback]
      rfl

/-- The numbers put out are those of the tokens, and zeros. -/
theorem isNumber_of_toPostfixFrom {u : Token} (h : toPostfixFrom b w ts = .ok out) (hu : u ∈ out)
    (hnumber : u.isNumber = true) : u ∈ ts ∨ u = number "0" := by
  induction ts generalizing b w out with
  | nil =>
    obtain ⟨-, rfl⟩ := toPostfixFrom_nil_eq_ok_iff.mp h
    obtain ⟨p, -, rfl⟩ := List.mem_map.mp hu
    rw [isNumber_token] at hnumber
    cases hnumber
  | cons t ts ih =>
    obtain ⟨now, w', rest, hstep, hts, rfl⟩ := toPostfixFrom_cons_eq_ok_iff.mp h
    rcases List.mem_append.mp hu with hu | hu
    · rcases isNumber_of_advance hstep hu hnumber with rfl | ⟨hzero, -⟩
      · exact .inl List.mem_cons_self
      · exact .inr hzero
    · exact (ih hts hu).imp_left (List.mem_cons_of_mem _)

/-! ### A number as a group -/

theorem kind_eq_op (ht : t.kind = .op) : (∃ o, t = .op o) ∨ ∃ target, t = .percent target := by
  cases t with
  | op o => exact .inl ⟨o, rfl⟩
  | percent target => exact .inr ⟨target, rfl⟩
  | num | lparen | rparen => cases ht

/-- An operator sees no difference between a number that is nobody's right operand and a group. -/
theorem toPostfixFrom_numeral (ht : t.kind = .op) (w : List Pending) (ts : List Token) :
    toPostfixFrom (.numeral none) w (t :: ts) = toPostfixFrom .closing w (t :: ts) := by
  obtain ⟨o, rfl⟩ | ⟨target, rfl⟩ := kind_eq_op ht
  · cases o <;> rfl
  · rfl

/-- A negation is released by every operator. -/
theorem advance_negation (ht : t.kind = .op) (w : List Pending) (ends : Bool) :
    advance .closing (.negation :: w) ends t
      = (advance .closing w ends t).map fun r => (.op .sub :: r.1, r.2) := by
  obtain ⟨o, rfl⟩ | ⟨target, rfl⟩ := kind_eq_op ht
  · cases o <;> rfl
  · rfl

theorem toPostfixFrom_negation (ht : t.kind = .op) (w : List Pending) (ts : List Token) :
    toPostfixFrom .closing (.negation :: w) (t :: ts)
      = (.op .sub :: ·) <$> toPostfixFrom .closing w (t :: ts) := by
  rw [toPostfixFrom_cons, advance_negation ht, toPostfixFrom_cons]
  cases advance .closing w (endsOperand ts) t with
  | none => rfl
  | some r =>
    simp only [Option.map_some, Functor.map_map, List.cons_append]

/-- **A number in front of an operator is a group**, with a sign or without one. -/
theorem toPostfix_operand {n : Numeral} {operand : List Token}
    (hoperand : operand = [.num n] ∨ operand = [.op .sub, .num n]) (ht : t.kind = .op)
    (ts : List Token) :
    toPostfix (operand ++ t :: ts) = toPostfix (.lparen :: (operand ++ .rparen :: t :: ts)) := by
  rcases hoperand with rfl | rfl
  · have hgroup : toPostfix [.num n] = .ok [.num n] := rfl
    rw [toPostfix, toPostfix, toPostfixFrom_group hgroup, ← toPostfixFrom_numeral ht]
    rfl
  · have hgroup : toPostfix [.op .sub, .num n] = .ok [.number "0", .num n, .op .sub] := rfl
    have hnegation := toPostfixFrom_negation ht [] ts
    rw [← toPostfixFrom_numeral ht] at hnegation
    rw [toPostfix, toPostfix, toPostfixFrom_group hgroup]
    have hread : toPostfixFrom .opening [] ([.op .sub, .num n] ++ t :: ts)
        = ([.number "0", .num n] ++ ·) <$> toPostfixFrom (.numeral none) [.negation] (t :: ts) :=
      Functor.map_map ..
    rw [hread, hnegation, Functor.map_map]
    rfl

end Token

end Reckoner
