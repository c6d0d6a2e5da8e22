import Reckoner.Proofs.Token.Plain

/-!
# Token — marks are local

The few tokens around a percent sign decide whether it is marked, and with which operator (`MarkedAt`).  What the order of tokens carries along to decide it says the same at every place (`markAt_eq_some_iff`), and marks never change where a token goes: but for them the postfix order is the plain one (`toPostfix_eq`).  The main statement is `toPostfix_marks`.
-/

namespace Reckoner

open Evaluation (map_eq_ok_iff)

namespace Token

variable {ts front : List Token} {t : Token} {i : ℕ} {o : BinOp}

/-! ### The rule -/

/-- The percent sign at place `i` directly follows a number, which directly follows the operator `o`; the operator is no negation, and no operand begins behind the percent sign. -/
def MarkedAt (ts : List Token) (i : ℕ) (o : BinOp) : Prop :=
  ∃ front n back, ts = front ++ .op o :: .num n :: .percent none :: back ∧ i = front.length + 2 ∧
    ¬ (o = .sub ∧ Negates front) ∧ ∀ t ∈ back.head?, t = .rparen ∨ t.kind = .op ∧ t ≠ .op .sub

theorem MarkedAt.getElem? (h : MarkedAt ts i o) : ts[i]? = some (.percent none) := by
  obtain ⟨front, n, back, rfl, rfl, -⟩ := h
  simp

theorem endsOperand_iff : endsOperand ts = true ↔ ∀ t ∈ ts.head?, t = .rparen ∨ t.kind = .op ∧ t ≠ .op .sub := by
  cases ts with
  | nil => exact iff_of_true rfl nofun
  | cons t ts => cases t <;> simp [endsOperand, kind]

theorem operator?_foldl : ((front ++ [t]).foldl Before.after .opening).operator? = some o ↔
    t = .op o ∧ ¬ (o = .sub ∧ Negates front) := by
  rw [List.foldl_concat, ← negates_foldl]
  cases t with
  | op o' =>
    by_cases h : o' = .sub ∧ (front.foldl Before.after .opening).negates = true
    · rw [Before.after, if_pos h, Token.op.injEq]
      refine iff_of_false (by simp) ?_
      rintro ⟨rfl, hneg⟩
      exact hneg h
    · rw [Before.after, if_neg h, Before.operator?_binary, Option.some.injEq, Token.op.injEq]
      constructor
      · rintro rfl
        exact ⟨rfl, h⟩
      · exact And.left
  | num _ | percent _ | lparen | rparen => simp [Before.after, Before.operator?]

/-- What is carried along says whether a right operand ends here that is a number. -/
theorem rightOf?_foldl : (ts.foldl Before.after .opening).rightOf? = some o ↔
    ∃ front n, ts = front ++ [.op o, .num n] ∧ ¬ (o = .sub ∧ Negates front) := by
  constructor
  · intro h
    rcases List.eq_nil_or_concat' ts with rfl | ⟨ts, t, rfl⟩
    · cases h
    · rw [List.foldl_concat] at h
      cases t with
      | num n =>
        rcases List.eq_nil_or_concat' ts with rfl | ⟨front, t, rfl⟩
        · cases h
        · obtain ⟨rfl, hneg⟩ := operator?_foldl.mp h
          exact ⟨front, n, List.append_assoc .., hneg⟩
      | op o => rw [Before.after] at h; split at h <;> cases h
      | percent _ | lparen | rparen => cases h
  · rintro ⟨front, n, rfl, hneg⟩
    rw [List.append_cons, List.foldl_concat]
    exact operator?_foldl.mpr ⟨rfl, hneg⟩

/-- The mark that a percent sign at place `i` gets. -/
def markAt (ts : List Token) (i : ℕ) : Option BinOp :=
  if endsOperand (ts.drop (i + 1)) then ((ts.take i).foldl Before.after .opening).rightOf? else none

theorem markAt_append (front back : List Token) (t : Token) : markAt (front ++ t :: back) front.length
    = if endsOperand back then (front.foldl Before.after .opening).rightOf? else none := by
  have hdrop : (front ++ t :: back).drop (front.length + 1) = back := by
    rw [List.append_cons, List.drop_left' (by simp)]
  rw [markAt, hdrop, List.take_left]

theorem exists_append_of_getElem? (h : ts[i]? = some t) :
    ∃ front back, ts = front ++ t :: back ∧ i = front.length := by
  obtain ⟨hi, rfl⟩ := List.getElem?_eq_some_iff.mp h
  exact ⟨ts.take i, ts.drop (i + 1), by simp, by simp [hi.le]⟩

/-- **The mark is a matter of the tokens around.** -/
theorem markAt_eq_some_iff (h : ts[i]? = some (.percent none)) : markAt ts i = some o ↔ MarkedAt ts i o := by
  obtain ⟨front, back, rfl, rfl⟩ := exists_append_of_getElem? h
  rw [markAt_append]
  constructor
  · intro hmark
    split at hmark
    · next hends =>
      obtain ⟨front, n, rfl, hneg⟩ := rightOf?_foldl.mp hmark
      exact ⟨front, n, back, by simp, by simp, hneg, endsOperand_iff.mp hends⟩
    · cases hmark
  · rintro ⟨front', n, back', hts, hlength, hneg, hback⟩
    rw [show front' ++ .op o :: .num n :: .percent none :: back'
      = (front' ++ [.op o, .num n]) ++ .percent none :: back' by simp] at hts
    obtain ⟨rfl, htail⟩ := List.append_inj hts (by simpa using hlength)
    cases htail
    rw [if_pos (endsOperand_iff.mpr hback)]
    exact rightOf?_foldl.mpr ⟨front', n, rfl, hneg⟩

/-! ### The plain order, marked -/

variable (ts)

/-- What waits with its mark. -/
def pendingOf (x : (Token × ℕ) × Bool) : Pending :=
  match x.1.1 with
  | .op o => if o = .sub ∧ x.2 then .negation else .binary o
  | .percent _ => .percent (markAt ts x.1.2)
  | .num _ | .lparen | .rparen => .group

/-- What is put out with its mark. -/
def markedOf : Option (Token × ℕ) → Token
  | none => number "0"
  | some (.percent _, i) => .percent (markAt ts i)
  | some (t, _) => t

theorem power_pendingOf (x : (Token × ℕ) × Bool) : (pendingOf ts x).power = Plain.power Prod.fst x := by
  obtain ⟨⟨t, i⟩, negation⟩ := x
  cases t with
  | op o => simp only [pendingOf, Plain.power]; split <;> rfl
  | num _ | percent _ | lparen | rparen => rfl

theorem token_pendingOf {x : (Token × ℕ) × Bool} (h : 0 < Plain.power Prod.fst x) :
    (pendingOf ts x).token = markedOf ts (some x.1) := by
  obtain ⟨⟨t, i⟩, negation⟩ := x
  cases t with
  | op o =>
    rw [pendingOf]
    dsimp only
    split
    · next ho => rw [ho.1]; rfl
    · rfl
  | percent _ => rfl
  | num _ | lparen | rparen => cases h

theorem group_iff (p : Pending) : p = .group ↔ p.power = 0 := by
  cases p with
  | binary o => cases o <;> exact iff_of_false nofun nofun
  | negation | percent _ => exact iff_of_false nofun nofun
  | group => exact iff_of_true rfl rfl

theorem released_pendingOf {p : ℕ} (hp : 1 ≤ p) (w : List ((Token × ℕ) × Bool)) :
    ((w.map (pendingOf ts)).takeWhile (p ≤ ·.power)).map Pending.token
      = (Plain.released Prod.fst p w).map (markedOf ts) := by
  rw [List.takeWhile_map, Plain.released, List.map_map, List.map_map]
  simp only [Function.comp_def, power_pendingOf]
  refine List.map_congr_left fun x hx => token_pendingOf ts ?_
  have := List.mem_takeWhile_imp hx
  simp only [decide_eq_true_eq] at this
  omega

theorem kept_pendingOf (p : ℕ) (w : List ((Token × ℕ) × Bool)) :
    (w.map (pendingOf ts)).dropWhile (p ≤ ·.power) = (Plain.kept Prod.fst p w).map (pendingOf ts) := by
  rw [List.dropWhile_map, Plain.kept]
  simp only [Function.comp_def, power_pendingOf]

/-- **One token goes where the plain order puts it.** -/
theorem advance_pendingOf {b : Before} {ends : Bool} {x : Token × ℕ} (htarget : x.1.target? = none)
    (hmark : (if ends then b.rightOf? else none) = markAt ts x.2) (w : List ((Token × ℕ) × Bool)) :
    advance b (w.map (pendingOf ts)) ends x.1
      = (Plain.place Prod.fst b.negates w x).map (Prod.map (List.map (markedOf ts)) (List.map (pendingOf ts))) := by
  obtain ⟨t, i⟩ := x
  cases t with
  | num n => rfl
  | op o =>
    rw [advance, released_pendingOf ts (by cases o <;> decide), kept_pendingOf]
    by_cases hneg : o = .sub ∧ b.negates = true
    · rw [if_pos hneg, Plain.place_negation Prod.fst rfl hneg]
      simp [pendingOf, markedOf, hneg.1]
    · rw [if_neg hneg, Plain.place_binary Prod.fst rfl hneg]
      simp [pendingOf]
  | percent target =>
    obtain rfl : target = none := htarget
    rw [advance, released_pendingOf ts (by decide), kept_pendingOf, Plain.place_percent Prod.fst rfl]
    simp [pendingOf, ← hmark]
  | lparen => rfl
  | rparen =>
    have hgroup : (fun p : Pending => decide (p ≠ .group)) = fun p => decide (1 ≤ p.power) :=
      funext fun p => decide_eq_decide.mpr ((not_congr (group_iff p)).trans Nat.one_le_iff_ne_zero.symm)
    rw [advance, hgroup, released_pendingOf ts le_rfl, kept_pendingOf, Plain.place]
    cases Plain.kept Prod.fst 1 w <;> rfl

variable {ts}

/-- **Tokens go where the plain order puts them**, from any place on. -/
theorem toPostfixFrom_eq {done rest : List Token} (hts : ts = done ++ rest) (hrest : ∀ t ∈ rest, t.target? = none)
    (w : List ((Token × ℕ) × Bool)) :
    toPostfixFrom (done.foldl Before.after .opening) (w.map (pendingOf ts)) rest
      = List.map (markedOf ts) <$>
        Plain.orderFrom Prod.fst (done.foldl Before.after .opening).negates w (rest.zipIdx done.length) := by
  induction rest generalizing done w with
  | nil =>
    have hgroup : .group ∈ w.map (pendingOf ts) ↔ ∃ x ∈ w, Plain.power Prod.fst x = 0 := by
      simp only [List.mem_map, group_iff, power_pendingOf]
    rw [toPostfixFrom, List.zipIdx_nil, Plain.orderFrom]
    simp only [hgroup]
    split
    · rfl
    · next hclosed =>
      refine congrArg Except.ok ?_
      rw [List.map_map, List.map_map]
      exact List.map_congr_left fun x hx =>
        token_pendingOf ts (Nat.pos_of_ne_zero fun hx0 => hclosed ⟨x, hx, hx0⟩)
  | cons t rest ih =>
    obtain ⟨ht, hrest⟩ := List.forall_mem_cons.mp hrest
    have hmark : (if endsOperand rest then (done.foldl Before.after .opening).rightOf? else none)
        = markAt ts done.length := by
      rw [hts, markAt_append]
    have hdone : ts = done ++ [t] ++ rest := by rw [hts, List.append_cons]
    rw [toPostfixFrom_cons, List.zipIdx_cons, Plain.orderFrom,
      advance_pendingOf ts (x := (t, done.length)) ht hmark]
    cases Plain.place Prod.fst (done.foldl Before.after .opening).negates w (t, done.length) with
    | none => rfl
    | some r =>
      have hnext := ih hdone hrest r.2
      rw [List.foldl_concat, negates_after, List.length_append, List.length_singleton] at hnext
      simp only [Option.map_some, Prod.map, hnext, Functor.map_map, List.map_append]

/-- **The postfix order is the plain one, marked.** -/
theorem toPostfix_eq (h : ∀ t ∈ ts, t.target? = none) :
    toPostfix ts = List.map (markedOf ts) <$> Plain.order Prod.fst ts.zipIdx :=
  toPostfixFrom_eq (List.nil_append ts).symm h []

/-! ### What is put out -/

/-- What is put out: the zero of a negation, or the token at a place with the mark that the tokens around it decide. -/
def PutOut (ts : List Token) : Option (Token × ℕ) → Token → Prop
  | none, u => u = number "0"
  | some (t, i), u => u.unmarked = t ∧ ∀ o, u.target? = some o ↔ MarkedAt ts i o

theorem putOut_markedOf {x : Token × ℕ} (htarget : x.1.target? = none) (hx : ts[x.2]? = some x.1) :
    PutOut ts (some x) (markedOf ts (some x)) := by
  obtain ⟨t, i⟩ := x
  have hother (ht : t ≠ .percent none) (o : BinOp) : t.target? = some o ↔ MarkedAt ts i o := by
    rw [htarget]
    exact iff_of_false nofun fun hmarked => ht (Option.some.inj (hx.symm.trans hmarked.getElem?))
  cases t with
  | percent target =>
    obtain rfl : target = none := htarget
    exact ⟨rfl, fun o => markAt_eq_some_iff hx⟩
  | num _ | op _ | lparen | rparen => exact ⟨unmarked_eq_self htarget, hother nofun⟩

theorem unmarked_of_putOut {place : Option (Token × ℕ)} {u : Token} (h : PutOut ts place u) :
    u.unmarked = (place.map Prod.fst).getD (number "0") := by
  cases place with
  | none =>
    obtain rfl : u = number "0" := h
    rfl
  | some x => exact h.1

variable {out : List Token} {places : List (Option (Token × ℕ))}

theorem putOut_of_mem (hts : ∀ t ∈ ts, t.target? = none) (h : Plain.order Prod.fst ts.zipIdx = .ok places)
    {place : Option (Token × ℕ)} (hplace : place ∈ places) : PutOut ts place (markedOf ts place) := by
  cases place with
  | none => rfl
  | some x =>
    have hx : x ∈ ts.zipIdx :=
      List.mem_of_mem_filter ((Plain.order_perm _ h).mem_iff.mp (List.reduceOption_mem_iff.mpr hplace))
    have hget := List.mem_zipIdx_iff_getElem?.mp hx
    exact putOut_markedOf (hts x.1 (List.mem_of_getElem? hget)) hget

/-- A marked percent sign is put out right behind its number. -/
theorem MarkedAt.infix_of_order (hmarked : MarkedAt ts i o) (h : Plain.order Prod.fst ts.zipIdx = .ok places) :
    ∃ n, [some (.num n, i - 1), some (.percent none, i)] <:+: places := by
  obtain ⟨front, n, back, rfl, rfl, hneg, hback⟩ := hmarked
  rw [List.zipIdx_append, List.zipIdx_cons, List.zipIdx_cons, List.zipIdx_cons, Nat.zero_add] at h
  refine ⟨n, Plain.order_operand_percent Prod.fst rfl rfl rfl ?_ ?_ h⟩
  · rwa [List.zipIdx_map_fst]
  · rwa [List.zipIdx_map_fst, endsOperand_iff]

theorem plain_toPostfix_eq (ts : List Token) : Plain.toPostfix ts
    = List.map (fun place => (place.map Prod.fst).getD (number "0")) <$> Plain.order Prod.fst ts.zipIdx := by
  have hmap := Plain.order_map id Prod.fst ts.zipIdx
  rw [List.zipIdx_map_fst] at hmap
  rw [Plain.toPostfix, hmap, Functor.map_map]
  simp only [List.map_map]
  rfl

/-- **Without its marks the postfix order is the plain one**, and it fails alike. -/
theorem unmarked_toPostfix (hts : ∀ t ∈ ts, t.target? = none) :
    List.map unmarked <$> toPostfix ts = Plain.toPostfix ts := by
  rw [toPostfix_eq hts, plain_toPostfix_eq]
  cases hplaces : Plain.order Prod.fst ts.zipIdx with
  | error m => rfl
  | ok places =>
    rw [Evaluation.map_ok, Evaluation.map_ok, Evaluation.map_ok, List.map_map]
    exact congrArg Except.ok (List.map_congr_left fun place hplace =>
      unmarked_of_putOut (putOut_of_mem hts hplaces hplace))

/-- **Marks are placed by a local rule, and nothing else depends on them.**  If tokens without marks have a postfix order, then everything put out is the zero of a negation or the token at some place, every token but a parenthesis exactly once, with the mark that the tokens around its place decide.  A marked percent sign is put out right behind the number in front of it, and without its marks the postfix order is the plain one. -/
theorem toPostfix_marks (hts : ∀ t ∈ ts, t.target? = none) (h : toPostfix ts = .ok out) :
    ∃ places, Plain.order Prod.fst ts.zipIdx = .ok places ∧
      places.reduceOption.Perm (Plain.proper Prod.fst ts.zipIdx) ∧
      List.Forall₂ (PutOut ts) places out ∧
      (∀ i o, MarkedAt ts i o → ∃ n, [some (.num n, i - 1), some (.percent none, i)] <:+: places) ∧
      Plain.toPostfix ts = .ok (out.map unmarked) := by
  have hplain : Plain.toPostfix ts = .ok (out.map unmarked) := by rw [← unmarked_toPostfix hts, h]; rfl
  rw [toPostfix_eq hts] at h
  obtain ⟨places, hplaces, rfl⟩ := map_eq_ok_iff.mp h
  refine ⟨places, hplaces, Plain.order_perm _ hplaces, ?_, fun i o hmarked => hmarked.infix_of_order hplaces, hplain⟩
  rw [List.forall₂_map_right_iff, List.forall₂_same]
  exact fun place => putOut_of_mem hts hplaces

/-- The percentage of a right operand is marked, that of a negation is not. -/
theorem toPostfix_marks_operand :
    let ts : List Token := [.number "200", .op .add, .number "10", .percent none, .op .mul, .lparen, .op .sub,
      .number "5", .percent none, .rparen]
    let out : List Token := [.number "200", .number "10", .percent (some .add), .number "0", .number "5",
      .op .sub, .percent none, .op .mul, .op .add]
    (∀ t ∈ ts, t.target? = none) ∧ toPostfix ts = .ok out ∧ MarkedAt ts 3 .add ∧
      ∃ places, Plain.order Prod.fst ts.zipIdx = .ok places ∧
        places.reduceOption.Perm (Plain.proper Prod.fst ts.zipIdx) ∧ List.Forall₂ (PutOut ts) places out ∧
        (∃ n, [some (.num n, 2), some (.percent none, 3)] <:+: places) ∧
        Plain.toPostfix ts = .ok (out.map unmarked) := by
  intro ts out
  have hts : ∀ t ∈ ts, t.target? = none := by decide
  have hout : toPostfix ts = .ok out := by decide +kernel
  have hmarked : MarkedAt ts 3 .add :=
    ⟨[.number "200"], _, _, rfl, rfl, nofun, by decide⟩
  obtain ⟨places, hplaces, hperm, hput, hbehind, hplain⟩ := toPostfix_marks hts hout
  exact ⟨hts, hout, hmarked, places, hplaces, hperm, hput, hbehind 3 .add hmarked, hplain⟩

end Token

end Reckoner
