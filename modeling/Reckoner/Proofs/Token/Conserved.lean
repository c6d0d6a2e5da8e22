import Reckoner.Proofs.Token.Marks

/-!
# Token — what postfix order conserves

Tokens in postfix order are the tokens that were read, but for the zeros of negations, which are new, and for parentheses, which are gone.  Numbers keep their order (`filter_isNumber_toPostfixFrom`).  Marks change nothing about where a token goes (`unmarked_toPostfixFrom`), so tokens that are marked already go where the plain order puts them: every operator is put out once, behind every number that was read before it.  The main statement is `toPostfix_conserves`.
-/

namespace Reckoner

open Evaluation (map_eq_ok_iff)
open scoped List

/-! ### Marks -/

/-- Without its target. -/
def Pending.unmarked : Pending → Pending
  | percent _ => percent none
  | p => p

namespace Pending

theorem power_unmarked (p : Pending) : p.unmarked.power = p.power := by cases p <;> rfl

theorem token_unmarked (p : Pending) : p.unmarked.token = p.token.unmarked := by cases p <;> rfl

theorem unmarked_eq_group_iff {p : Pending} : p.unmarked = group ↔ p = group := by
  cases p <;> simp [unmarked]

end Pending

namespace Token

variable {ts out now : List Token} {t : Token} {b : Before} {w w' : List Pending}

theorem unmarked_unmarked (t : Token) : t.unmarked.unmarked = t.unmarked :=
  unmarked_eq_self (target?_unmarked t)

theorem map_token_unmarked (w : List Pending) :
    (w.map Pending.token).map unmarked = (w.map Pending.unmarked).map Pending.token := by
  simp only [List.map_map, Function.comp_def, Pending.token_unmarked]

theorem takeWhile_unmarked {q : Pending → Bool} (hq : ∀ p, q p.unmarked = q p) (w : List Pending) :
    (w.map Pending.unmarked).takeWhile q = (w.takeWhile q).map Pending.unmarked ∧
      (w.map Pending.unmarked).dropWhile q = (w.dropWhile q).map Pending.unmarked := by
  have hcomp : q ∘ Pending.unmarked = q := funext hq
  rw [List.takeWhile_map, List.dropWhile_map, hcomp]
  exact ⟨rfl, rfl⟩

/-- But for marks, a token without a mark leads to the same. -/
theorem advance_unmarked (b : Before) (w : List Pending) (ends : Bool) (t : Token) :
    advance b (w.map Pending.unmarked) false t.unmarked
      = (advance b w ends t).map (Prod.map (List.map unmarked) (List.map Pending.unmarked)) := by
  have hpower (p : ℕ) := takeWhile_unmarked (q := (p ≤ ·.power)) (fun x => by rw [Pending.power_unmarked]) w
  cases t with
  | num n => rfl
  | op o =>
    obtain ⟨htake, hdrop⟩ := hpower o.precedence
    change advance b (w.map Pending.unmarked) false (op o) = _
    rw [advance, advance, htake, hdrop, ← map_token_unmarked]
    split <;> rfl
  | percent target =>
    obtain ⟨htake, hdrop⟩ := hpower 3
    rw [unmarked, advance, advance, htake, hdrop, ← map_token_unmarked]
    rfl
  | lparen => rfl
  | rparen =>
    obtain ⟨htake, hdrop⟩ := takeWhile_unmarked (q := (· ≠ .group))
      (fun x => decide_eq_decide.mpr (not_congr Pending.unmarked_eq_group_iff)) w
    change advance b (w.map Pending.unmarked) false rparen = _
    rw [advance, advance, htake, hdrop, ← map_token_unmarked]
    cases w.dropWhile (· ≠ .group) <;> rfl

/-- **Marks change nothing about where a token goes.** -/
theorem unmarked_toPostfixFrom (hw : w.map Pending.unmarked = w'.map Pending.unmarked) (ts : List Token) :
    List.map unmarked <$> toPostfixFrom b w ts = List.map unmarked <$> toPostfixFrom b w' (ts.map unmarked) := by
  induction ts generalizing b w w' with
  | nil =>
    have hgroup (w : List Pending) : .group ∈ w ↔ .group ∈ w.map Pending.unmarked := by
      simp only [List.mem_map, Pending.unmarked_eq_group_iff, exists_eq_right]
    rw [List.map_nil, toPostfixFrom, toPostfixFrom, apply_ite (List.map unmarked <$> ·),
      apply_ite (List.map unmarked <$> ·)]
    refine if_congr ((hgroup w).trans (by rw [hw, ← hgroup])) rfl (congrArg Except.ok ?_)
    rw [map_token_unmarked, map_token_unmarked, hw]
  | cons t ts ih =>
    -- both runs take the step that tokens without marks take
    have hstep := advance_unmarked b w (endsOperand ts) t
    rw [hw, ← unmarked_unmarked t, advance_unmarked b w' (endsOperand (ts.map unmarked)) t.unmarked] at hstep
    have hafter : b.after t.unmarked = b.after t := by cases t <;> rfl
    rw [List.map_cons, toPostfixFrom_cons, toPostfixFrom_cons, hafter]
    have hmap (out : List Token) (r : Except Mistake (List Token)) :
        List.map unmarked <$> (out ++ ·) <$> r = (out.map unmarked ++ ·) <$> List.map unmarked <$> r := by
      simp only [Functor.map_map, List.map_append]
    cases h : advance b w (endsOperand ts) t with
    | none =>
      rw [h] at hstep
      rw [Option.map_eq_none_iff.mp hstep]
    | some r =>
      rw [h, Option.map_some] at hstep
      obtain ⟨r', hr', heq⟩ := Option.map_eq_some_iff.mp hstep
      obtain ⟨hout, hw'⟩ := Prod.mk.inj heq
      rw [hr', hmap, hmap, hout, ih hw'.symm]

/-- What is put out for a place, or for a zero, which is at none. -/
def tokenAt (place : Option (Token × ℕ)) : Token := (place.map Prod.fst).getD (number "0")

/-- **Marked or not, tokens go where the plain order puts them.** -/
theorem unmarked_toPostfix_eq (ts : List Token) : List.map unmarked <$> toPostfix ts
    = List.map tokenAt <$> Plain.order Prod.fst (ts.map unmarked).zipIdx := by
  have hts : ∀ t ∈ ts.map unmarked, t.target? = none := by
    rw [List.forall_mem_map]
    exact fun t _ => target?_unmarked t
  have hplain := plain_toPostfix_eq (ts.map unmarked)
  rw [← unmarked_toPostfix hts] at hplain
  exact (unmarked_toPostfixFrom rfl ts).trans hplain

/-! ### Numbers -/

/-- The tokens, each behind the one in front of it. -/
def withPrevious : Option Token → List Token → List (Option Token × Token)
  | _, [] => []
  | prev, t :: ts => (prev, t) :: withPrevious (some t) ts

/-- The token is a minus that no operand ends in front of. -/
def isNegation (x : Option Token × Token) : Bool := x.2 == op .sub && !x.1.any closes

/-- The number that a token puts out: itself, or the zero of a negation. -/
def number? (x : Option Token × Token) : Option Token :=
  if x.2.isNumber then some x.2 else if isNegation x then some (number "0") else none

/-- The numbers of tokens in order, with a zero in the place of each negation. -/
def numbers (ts : List Token) : List Token := (withPrevious none ts).filterMap number?

/-- How many negations there are. -/
def negations (ts : List Token) : ℕ := (withPrevious none ts).countP isNegation

variable {prev : Option Token}

theorem filterMap_number?_cons (prev : Option Token) (t : Token) (ts : List Token) :
    (withPrevious prev (t :: ts)).filterMap number?
      = (number? (prev, t)).toList ++ (withPrevious (some t) ts).filterMap number? := by
  rw [withPrevious, List.filterMap_cons]
  cases number? (prev, t) <;> rfl

theorem filter_isNumber_pending (w : List Pending) : (w.map Pending.token).filter (·.isNumber) = [] := by
  simp [isNumber_token]

theorem filter_isNumber_of_advance {ends : Bool} (h : advance b w ends t = some (now, w'))
    (hb : b.negates = !prev.any closes) : now.filter (·.isNumber) = (number? (prev, t)).toList := by
  cases t with
  | num n => cases h; rfl
  | op o =>
    have hneg : isNegation (prev, op o) = true ↔ o = .sub ∧ b.negates = true := by
      simp [isNegation, hb]
    rw [advance] at h
    rw [number?, if_neg (show ¬ (op o).isNumber = true from Bool.false_ne_true)]
    split at h
    · next h' => cases h; rw [if_pos (hneg.mpr h')]; rfl
    · next h' => cases h; rw [if_neg (mt hneg.mp h')]; exact filter_isNumber_pending _
  | percent target => cases h; exact filter_isNumber_pending _
  | lparen => cases h; rfl
  | rparen =>
    rw [advance] at h
    split at h
    · cases h
    · cases h; exact filter_isNumber_pending _

/-- **Numbers keep their order**, and a zero is put out in the place of each negation. -/
theorem filter_isNumber_toPostfixFrom (h : toPostfixFrom b w ts = .ok out) (hb : b.negates = !prev.any closes) :
    out.filter (·.isNumber) = (withPrevious prev ts).filterMap number? := by
  induction ts generalizing b w out prev with
  | nil =>
    obtain ⟨-, rfl⟩ := toPostfixFrom_nil_eq_ok_iff.mp h
    exact filter_isNumber_pending w
  | cons t ts ih =>
    obtain ⟨now, w', rest, hstep, hrest, rfl⟩ := toPostfixFrom_cons_eq_ok_iff.mp h
    -- what is carried along and the token in front say the same of a minus that follows
    have hafter : (b.after t).negates = !(some t).any closes := negates_after b t
    rw [List.filter_append, filter_isNumber_of_advance hstep hb, ih hrest hafter, filterMap_number?_cons]

theorem length_number? (prev : Option Token) (t : Token) : (number? (prev, t)).toList.length
    = (if t.isNumber then 1 else 0) + if isNegation (prev, t) then 1 else 0 := by
  cases t with
  | num n => simp [number?, isNegation, isNumber, kind]
  | op o => cases h : isNegation (prev, op o) <;> simp [number?, h, isNumber, kind]
  | percent _ | lparen | rparen => rfl

theorem length_filterMap_number? (prev : Option Token) (ts : List Token) :
    ((withPrevious prev ts).filterMap number?).length
      = ts.countP (·.isNumber) + (withPrevious prev ts).countP isNegation := by
  induction ts generalizing prev with
  | nil => rfl
  | cons t ts ih =>
    rw [filterMap_number?_cons, List.length_append, ih, length_number?, withPrevious, List.countP_cons,
      List.countP_cons]
    omega

theorem length_numbers (ts : List Token) : (numbers ts).length = ts.countP (·.isNumber) + negations ts :=
  length_filterMap_number? none ts

/-! ### Operators and parentheses -/

theorem kind_unmarked (t : Token) : t.unmarked.kind = t.kind := by cases t <;> rfl

/-- Every token is of one of the three classes. -/
theorem length_eq_countP (ts : List Token) :
    ts.length = ts.countP (·.isNumber) + ts.countP (·.isOperator) + ts.countP (·.isParen) := by
  induction ts with
  | nil => rfl
  | cons t ts ih =>
    rw [List.length_cons, List.countP_cons, List.countP_cons, List.countP_cons, ih]
    cases h : t.kind <;> simp [isNumber, isOperator, isParen, h] <;> omega

theorem filter_tokenAt {q : Token → Bool} (hq : q (number "0") = false) (places : List (Option (Token × ℕ))) :
    (places.map tokenAt).filter q = (places.reduceOption.map Prod.fst).filter q := by
  induction places with
  | nil => rfl
  | cons place places ih =>
    cases place with
    | none =>
      rw [List.map_cons, List.reduceOption_cons_of_none, ← ih]
      exact List.filter_cons_of_neg (by simp [tokenAt, hq])
    | some x =>
      rw [List.map_cons, List.reduceOption_cons_of_some, List.map_cons, List.filter_cons, List.filter_cons, ih]
      rfl

theorem map_proper_zipIdx (ts : List Token) :
    (Plain.proper Prod.fst ts.zipIdx).map Prod.fst = ts.filter fun t => t.kind ≠ .paren := by
  have hfilter := List.filter_map (f := Prod.fst) (p := fun t : Token => t.kind ≠ .paren) (l := ts.zipIdx)
  rw [List.zipIdx_map_fst] at hfilter
  exact hfilter.symm

variable {places : List (Option (Token × ℕ))}

/-- **What is put out comes from places**, but for marks. -/
theorem exists_places (h : toPostfix ts = .ok out) :
    ∃ places, Plain.order Prod.fst (ts.map unmarked).zipIdx = .ok places ∧ places.map tokenAt = out.map unmarked := by
  have heq := unmarked_toPostfix_eq ts
  rw [h] at heq
  exact map_eq_ok_iff.mp heq.symm

theorem filter_unmarked {q : Token → Bool} (hq : ∀ t, q t.unmarked = q t) (ts : List Token) :
    (ts.map unmarked).filter q = (ts.filter q).map unmarked := by
  rw [List.filter_map, show q ∘ unmarked = q from funext hq]

/-- **Tokens of a class are put out once each**, but for marks and for the numbers that are new. -/
theorem filter_perm_of_toPostfix (h : toPostfix ts = .ok out) {q : Token → Bool} (hq : ∀ t, q t.unmarked = q t)
    (hnumber : q (number "0") = false) :
    (out.filter q).map unmarked ~ ((ts.filter fun t => t.kind ≠ .paren).filter q).map unmarked := by
  obtain ⟨places, hplaces, hout⟩ := exists_places h
  have hkind (t : Token) : decide (t.unmarked.kind ≠ .paren) = decide (t.kind ≠ .paren) := by rw [kind_unmarked]
  rw [← filter_unmarked hq, ← filter_unmarked hq, ← filter_unmarked hkind, ← hout, filter_tokenAt hnumber,
    ← map_proper_zipIdx]
  exact ((Plain.order_perm _ hplaces).map _).filter _

theorem isOperator_unmarked (t : Token) : t.unmarked.isOperator = t.isOperator := by
  simp [isOperator, kind_unmarked]

theorem isParen_unmarked (t : Token) : t.unmarked.isParen = t.isParen := by
  simp [isParen, kind_unmarked]

theorem filter_isOperator_perm (h : toPostfix ts = .ok out) :
    (out.filter (·.isOperator)).map unmarked ~ (ts.filter (·.isOperator)).map unmarked := by
  have hperm := filter_perm_of_toPostfix (q := (·.isOperator)) h isOperator_unmarked rfl
  have hproper : (ts.filter fun t => t.kind ≠ .paren).filter (·.isOperator) = ts.filter (·.isOperator) := by
    rw [List.filter_filter]
    exact List.filter_congr fun t _ => by cases t <;> rfl
  rwa [hproper] at hperm

theorem isParen_of_toPostfix (h : toPostfix ts = .ok out) : ∀ t ∈ out, t.isParen = false := by
  have hperm := filter_perm_of_toPostfix (q := (·.isParen)) h isParen_unmarked rfl
  have hproper : (ts.filter fun t => t.kind ≠ .paren).filter (·.isParen) = [] := by
    rw [List.filter_filter, List.filter_eq_nil_iff]
    intro t _
    cases t <;> simp [isParen, kind]
  rw [hproper, List.map_nil, List.perm_nil, List.map_eq_nil_iff, List.filter_eq_nil_iff] at hperm
  simpa using hperm

theorem filter_isNumber_toPostfix (h : toPostfix ts = .ok out) : out.filter (·.isNumber) = numbers ts :=
  filter_isNumber_toPostfixFrom h rfl

/-- **Parentheses are gone, and a zero is new for each negation.** -/
theorem length_of_toPostfix (h : toPostfix ts = .ok out) :
    out.length + ts.countP (·.isParen) = ts.length + negations ts := by
  have hnumbers : out.countP (·.isNumber) = ts.countP (·.isNumber) + negations ts := by
    rw [List.countP_eq_length_filter, filter_isNumber_toPostfix h, length_numbers]
  have hoperators : out.countP (·.isOperator) = ts.countP (·.isOperator) := by
    have hperm := (filter_isOperator_perm h).length_eq
    rwa [List.length_map, List.length_map, ← List.countP_eq_length_filter, ← List.countP_eq_length_filter] at hperm
  have hparens : out.countP (·.isParen) = 0 := List.countP_eq_zero.mpr (by simpa using isParen_of_toPostfix h)
  rw [length_eq_countP out, length_eq_countP ts]
  omega

/-! ### Places -/

/-- What is put out is the token at a place, but for its mark, or the zero of a negation. -/
def TakenFrom (ts : List Token) : Option ℕ → Token → Prop
  | none, u => u = number "0"
  | some i, u => ∃ t, ts[i]? = some t ∧ u.unmarked = t.unmarked

theorem eq_number_of_unmarked {u : Token} {text : String} (htext : text ≠ "%") (h : u.unmarked = number text) :
    u = number text := by
  have hu : u.text = text := by rw [← text_unmarked, h]; rfl
  rw [← h, unmarked_eq_self (target?_eq_none (hu ▸ htext))]

theorem takenFrom_of_tokenAt {place : Option (Token × ℕ)} {u : Token}
    (hplace : ∀ x ∈ place, x ∈ (ts.map unmarked).zipIdx) (h : tokenAt place = u.unmarked) :
    TakenFrom ts (place.map Prod.snd) u := by
  cases place with
  | none => exact eq_number_of_unmarked (by decide) h.symm
  | some x =>
    have hget := List.mem_zipIdx_iff_getElem?.mp (hplace x rfl)
    rw [List.getElem?_map, Option.map_eq_some_iff] at hget
    obtain ⟨t, hget, ht⟩ := hget
    exact ⟨t, hget, h.symm.trans ht.symm⟩

theorem takenFrom_of_order (hplaces : Plain.order Prod.fst (ts.map unmarked).zipIdx = .ok places)
    (hout : places.map tokenAt = out.map unmarked) :
    List.Forall₂ (TakenFrom ts) (places.map (Option.map Prod.snd)) out := by
  have hall : ∀ place ∈ places, ∀ x ∈ place, x ∈ (ts.map unmarked).zipIdx := by
    intro place hplace x hx
    obtain rfl := Option.mem_def.mp hx
    exact List.mem_of_mem_filter ((Plain.order_perm _ hplaces).mem_iff.mp (List.reduceOption_mem_iff.mpr hplace))
  have hsame : List.Forall₂ (fun place u => tokenAt place = u.unmarked) places out := by
    rw [← List.forall₂_map_right_iff (R := fun place u => tokenAt place = u), ← hout, List.forall₂_map_right_iff,
      List.forall₂_same]
    exact fun _ _ => rfl
  rw [List.forall₂_map_left_iff]
  exact ((List.forall₂_and_left _ _).mpr ⟨hall, hsame⟩).imp fun place u h => takenFrom_of_tokenAt h.1 h.2

/-- The places of the tokens that are no parentheses. -/
def properPlaces (ts : List Token) : List ℕ := (ts.zipIdx.filter fun x => x.1.kind ≠ .paren).map Prod.snd

theorem reduceOption_perm (hplaces : Plain.order Prod.fst (ts.map unmarked).zipIdx = .ok places) :
    (places.map (Option.map Prod.snd)).reduceOption ~ properPlaces ts := by
  have hperm := (Plain.order_perm _ hplaces).map Prod.snd
  have hkind : (fun x : Token × ℕ => decide (x.1.kind ≠ .paren)) ∘ Prod.map unmarked id
      = fun x => decide (x.1.kind ≠ .paren) := funext fun x => by simp [kind_unmarked]
  rw [List.zipIdx_map, Plain.proper, List.filter_map, hkind, List.map_map] at hperm
  rw [List.reduceOption_map]
  exact hperm

theorem number_operator_sublist (hplaces : Plain.order Prod.fst (ts.map unmarked).zipIdx = .ok places)
    {i j : ℕ} {n t : Token} (hij : i < j) (hi : ts[i]? = some n) (hn : n.isNumber = true) (hj : ts[j]? = some t)
    (ht : t.isOperator = true) : [some i, some j] <+ places.map (Option.map Prod.snd) := by
  -- the operator splits the tokens, and the number is among those before it
  obtain ⟨front, back, rfl, rfl⟩ := exists_append_of_getElem? hj
  rw [List.getElem?_append_left hij] at hi
  rw [List.map_append, List.map_cons, List.zipIdx_append, List.zipIdx_cons, Nat.zero_add, List.length_map] at hplaces
  have hmem : (n.unmarked, i) ∈ (front.map unmarked).zipIdx := by
    rw [List.mem_zipIdx_iff_getElem?, List.getElem?_map, hi]
    rfl
  have hnumber : n.unmarked.isNumber = true := by rw [isNumber, kind_unmarked]; exact hn
  have hop : t.unmarked.kind = .op := by simpa [kind_unmarked, isOperator] using ht
  exact (Plain.order_number_operator Prod.fst hmem hnumber hop hplaces).map (Option.map Prod.snd)

/-- **Postfix order loses, invents and reorders nothing.**  Whatever tokens are put in postfix order, expression or not: numbers keep their order, with a zero in the place of each negation; the operators are those that were read, but for marks; no parenthesis is put out; and every operator is put out behind all numbers that were read before it. -/
theorem toPostfix_conserves (h : toPostfix ts = .ok out) :
    out.filter (·.isNumber) = numbers ts ∧
      (out.filter (·.isOperator)).map unmarked ~ (ts.filter (·.isOperator)).map unmarked ∧
      (∀ t ∈ out, t.isParen = false) ∧
      out.length + ts.countP (·.isParen) = ts.length + negations ts ∧
      ∃ places, List.Forall₂ (TakenFrom ts) places out ∧ places.reduceOption ~ properPlaces ts ∧
        ∀ i j n t, i < j → ts[i]? = some n → n.isNumber = true → ts[j]? = some t → t.isOperator = true →
          [some i, some j] <+ places := by
  obtain ⟨places, hplaces, hout⟩ := exists_places h
  refine ⟨filter_isNumber_toPostfix h, filter_isOperator_perm h, isParen_of_toPostfix h, length_of_toPostfix h,
    places.map (Option.map Prod.snd), takenFrom_of_order hplaces hout, reduceOption_perm hplaces, ?_⟩
  exact fun i j n t hij hi hn hj ht => number_operator_sublist hplaces hij hi hn hj ht

/-- A number stands behind a parenthesis here, an operator at the end, and the percent sign is marked already. -/
theorem toPostfix_conserves_juxtaposed :
    let ts : List Token := [.number "2", .op .mul, .op .sub, .lparen, .number "3", .op .add, .number "5",
      .percent (some .mul), .rparen, .number "4", .op .div]
    let out : List Token := [.number "2", .number "0", .number "3", .number "5", .percent (some .add), .op .add,
      .number "4", .op .sub, .op .mul, .op .div]
    toPostfix ts = .ok out ∧ numbers ts = [.number "2", .number "0", .number "3", .number "5", .number "4"] ∧
      out.filter (·.isNumber) = numbers ts ∧
      (out.filter (·.isOperator)).map unmarked ~ (ts.filter (·.isOperator)).map unmarked ∧
      (∀ t ∈ out, t.isParen = false) ∧ out.length + 2 = ts.length + 1 ∧
      ∃ places, List.Forall₂ (TakenFrom ts) places out ∧ places.reduceOption ~ [0, 1, 2, 4, 5, 6, 7, 9, 10] ∧
        [some 6, some 10] <+ places := by
  intro ts out
  have hout : toPostfix ts = .ok out := by decide +kernel
  obtain ⟨hnumbers, hoperators, hparens, hlength, places, htaken, hperm, hbehind⟩ := toPostfix_conserves hout
  exact ⟨hout, by decide +kernel, hnumbers, hoperators, hparens, hlength, places, htaken, hperm,
    hbehind 6 10 (.number "5") (.op .div) (by decide) rfl rfl rfl rfl⟩

end Token

end Reckoner
