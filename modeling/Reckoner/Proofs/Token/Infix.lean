import Reckoner.Proofs.Token.Tally

/-!
# Token — operands and operators

Nothing checks that operators stand between their operands (`Infixed`): a misplaced one is noticed only if the number of values comes out wrong.  It does as long as operands stand apart and no percent sign begins one that is not a number (`Joined`).  The tally of such tokens is at most one (`tally_le`), and it is one only if every token may stand where it does (`placed_of_tally_eq`), so that they are well-formed infix (`infix_of_placed`).
-/

namespace Reckoner.Token

/-! ### Well-formed infix -/

/-- The token ends an operand. -/
def isEnd : Token → Bool
  | num _ | rparen | percent _ => true
  | op _ | lparen => false

/-- The token begins an operand. -/
def isStart : Token → Bool
  | num _ | lparen | op .sub => true
  | op _ | rparen | percent _ => false

def isPercent : Token → Bool
  | percent _ => true
  | num _ | op _ | lparen | rparen => false

/-- Every binary operator stands between operands, and every negation in front of one. -/
structure Infixed (ts : List Token) : Prop where
  binary : ∀ front o back, ts = front ++ op o :: back → ¬ (o = .sub ∧ Negates front) →
    (∃ t ∈ front.getLast?, t.isEnd = true) ∧ ∃ t ∈ back.head?, t.isStart = true
  negation : ∀ front back, ts = front ++ op .sub :: back → Negates front →
    ∃ t ∈ back.head?, t.isStart = true

/-- Behind every operator an operand begins. -/
theorem Infixed.isStart_behind {front back : List Token} {o : BinOp} (h : Infixed (front ++ op o :: back)) :
    ∃ t ∈ back.head?, t.isStart = true := by
  by_cases hneg : o = .sub ∧ Negates front
  · obtain ⟨rfl, hneg⟩ := hneg
    exact h.negation front back rfl hneg
  · exact (h.binary front o back rfl hneg).2

theorem infixed_iff (ts : List Token) : Infixed ts ↔
    ∀ i < ts.length, ∀ o ∈ [BinOp.add, .sub, .mul, .div], ts.drop i = op o :: ts.drop (i + 1) →
      (ts.drop (i + 1)).head?.any isStart = true ∧
        (o = .sub ∧ Negates (ts.take i) ∨ (ts.take i).getLast?.any isEnd = true) := by
  simp only [Option.any_eq_true]
  constructor
  · intro h i _ o _ hdrop
    have hts : ts = ts.take i ++ op o :: ts.drop (i + 1) := by rw [← hdrop, List.take_append_drop]
    refine ⟨Infixed.isStart_behind (hts ▸ h), or_iff_not_imp_left.mpr fun hbinary => ?_⟩
    exact (h.binary _ o _ hts hbinary).1
  · intro h
    have hat : ∀ front o back, ts = front ++ op o :: back → (∃ t ∈ back.head?, t.isStart = true) ∧
        (o = .sub ∧ Negates front ∨ ∃ t ∈ front.getLast?, t.isEnd = true) := by
      rintro front o back rfl
      simpa using h front.length (by simp) o (by cases o <;> simp) (by simp)
    exact ⟨fun front o back hts hbinary => ⟨(hat front o back hts).2.resolve_left hbinary, (hat front o back hts).1⟩,
      fun front back hts _ => (hat front .sub back hts).1⟩

instance : DecidablePred Infixed := fun ts => decidable_of_iff _ (infixed_iff ts).symm

/-- No operand begins right behind another. -/
def Separate (ts : List Token) : Prop := ts.IsChain fun t u => ¬ (t.closes = true ∧ u.opens = true)

/-- Minus signs, if any, and then a number. -/
def leads : List Token → Bool
  | num _ :: _ => true
  | op .sub :: ts => leads ts
  | _ => false

/-- An operand behind a percent sign is a number, with minus signs in front of it or without. -/
def Led (ts : List Token) : Prop :=
  ∀ target us, percent target :: us <:+ ts → us.head?.any isStart = true → leads us = true

/-- No operand begins right behind another, and none but a number behind a percent sign. -/
structure Joined (ts : List Token) : Prop where
  separate : Separate ts
  led : Led ts

/-- No group is empty. -/
def Filled (ts : List Token) : Prop := ts.IsChain fun t u => ¬ (t = lparen ∧ u = rparen)

/-- No percent sign stands in front of the first number. -/
def Numbered (ts : List Token) : Prop := ∀ t ∈ ts.takeWhile (!·.isNumber), t.isPercent = false

instance : DecidablePred Separate := fun ts => inferInstanceAs (Decidable (List.IsChain _ ts))

theorem led_iff (ts : List Token) : Led ts ↔ ∀ us ∈ ts.tails,
    us.head?.any isPercent = true → us.tail.head?.any isStart = true → leads us.tail = true := by
  constructor
  · intro h us hus hpercent hstart
    rcases us with _ | ⟨_ | _ | target | _ | _, us⟩ <;> try cases hpercent
    exact h target us ((List.mem_tails _ _).mp hus) hstart
  · exact fun h target us hus => h _ ((List.mem_tails _ _).mpr hus) rfl

instance : DecidablePred Led := fun ts => decidable_of_iff _ (led_iff ts).symm

instance : DecidablePred Joined := fun ts =>
  decidable_of_iff (Separate ts ∧ Led ts) ⟨fun h => ⟨h.1, h.2⟩, fun h => ⟨h.separate, h.led⟩⟩

instance : DecidablePred Filled := fun ts => inferInstanceAs (Decidable (List.IsChain _ ts))

instance : DecidablePred Numbered := fun ts =>
  inferInstanceAs (Decidable (∀ t ∈ ts.takeWhile (!·.isNumber), t.isPercent = false))

variable {seen closed sharing : Bool} {prev : Option Token} {ts front : List Token} {t : Token}

theorem Joined.suffix {us : List Token} (h : Joined ts) (hus : us <:+ ts) : Joined us :=
  ⟨List.IsChain.suffix h.separate hus, fun target vs hvs => h.led target vs (hvs.trans hus)⟩

theorem isEnd_of_closes (h : prev.any closes = true) : prev.any isEnd = true := by
  rcases prev with _ | _ | _ | _ | _ | _ <;> first | rfl | cases h

theorem isEnd_of_isPercent (h : prev.any isPercent = true) : prev.any isEnd = true := by
  rcases prev with _ | _ | _ | _ | _ | _ <;> first | rfl | cases h

/-! ### What the tally says -/

/-- What stands behind `prev` is joined to it, and a number is to be shared behind a percent sign only, with nothing but minus signs between. -/
structure JoinedBehind (prev : Option Token) (seen sharing : Bool) (ts : List Token) : Prop where
  joined : Joined (prev.toList ++ ts)
  percent : prev.any isPercent = true → sharing = seen
  seen : sharing = true → seen = true
  leads : sharing = true → prev.any isPercent = true ∨ leads ts = true

namespace JoinedBehind

theorem start (h : Joined ts) (seen : Bool) : JoinedBehind none seen false ts := ⟨h, nofun, nofun, nofun⟩

/-- Behind a token that is no percent sign a number is not shared, unless a negation is read. -/
theorem next (h : JoinedBehind prev seen sharing (t :: ts)) (ht : t.isPercent = false) (seen' : Bool) :
    JoinedBehind (some t) seen' false ts :=
  ⟨h.joined.suffix (List.suffix_append _ _), fun hpercent => absurd (ht.symm.trans hpercent) Bool.false_ne_true,
    nofun, nofun⟩

theorem behind_percent {target : Option BinOp} (h : JoinedBehind prev seen sharing (.percent target :: ts)) :
    JoinedBehind (some (.percent target)) seen seen ts :=
  ⟨h.joined.suffix (List.suffix_append _ _), fun _ => rfl, id, fun _ => .inl rfl⟩

/-- A number that is shared is led to by what begins an operand. -/
theorem leads_of_isStart (h : JoinedBehind prev seen sharing (t :: ts)) (ht : t.isStart = true)
    (hsharing : sharing = true) : Token.leads (t :: ts) = true := by
  refine (h.leads hsharing).elim (fun hpercent => ?_) id
  rcases prev with _ | _ | _ | target | _ | _ <;> try cases hpercent
  exact h.joined.led target (t :: ts) List.suffix_rfl ht

/-- In front of an operand that is no number a number is not shared. -/
theorem sharing_eq_false (h : JoinedBehind prev seen sharing (t :: ts)) (ht : t.isStart = true)
    (hleads : Token.leads (t :: ts) = false) : sharing = false := by
  cases hsharing : sharing with
  | true => exact absurd (hleads.symm.trans (h.leads_of_isStart ht hsharing)) Bool.false_ne_true
  | false => rfl

theorem behind_negation (h : JoinedBehind prev seen sharing (op .sub :: ts)) :
    JoinedBehind (some (op .sub)) true sharing ts :=
  ⟨h.joined.suffix (List.suffix_append _ _), nofun, fun _ => rfl,
    fun hsharing => .inr (h.leads_of_isStart rfl hsharing)⟩

/-- No operand ends in front of one that begins here, but for a percent sign that shares a number or has no value to share. -/
theorem isEnd_of_seen (h : JoinedBehind prev seen sharing (t :: ts))
    (ht : t.opens = true ∨ t = op .sub ∧ prev.any closes = false) (hseen : seen = true)
    (hsharing : sharing = false) : prev.any isEnd = false := by
  rcases prev with _ | u
  · rfl
  · have hapart : ¬ (u.closes = true ∧ t.opens = true) := (List.isChain_cons_cons.mp h.joined.separate).1
    cases u with
    | op _ | lparen => rfl
    | num _ | rparen => simp_all [closes, opens]
    | percent target =>
      have hsame : sharing = seen := h.percent rfl
      rw [hseen, hsharing] at hsame
      cases hsame

end JoinedBehind

/-- The most a tally can be is one less behind an operand, and where a number is to be shared. -/
def cap (seen sharing : Bool) (prev : Option Token) : ℤ := if seen && prev.any isEnd || sharing then 1 else 0

theorem cap_le_one (seen sharing : Bool) (prev : Option Token) : cap seen sharing prev ≤ 1 := by
  rw [cap]; split <;> decide

/-- Where no operand has ended a tally is restricted only by a number to be shared. -/
theorem cap_eq (h : seen = true → sharing = false → prev.any isEnd = false) :
    cap seen sharing prev = if sharing then 1 else 0 := by
  cases seen <;> cases sharing <;> simp_all [cap]

theorem cap_of_isEnd (ht : t.isEnd = true) (seen : Bool) :
    cap seen false (some t) = if seen then 1 else 0 := by
  simp [cap, ht]

theorem cap_percent (target : Option BinOp) (seen : Bool) :
    cap seen seen (some (percent target)) = if seen then 1 else 0 := by
  cases seen <;> rfl

/-- A tally is not restricted without a value. -/
theorem JoinedBehind.cap_le (h : JoinedBehind prev seen sharing ts) :
    cap seen sharing prev ≤ if seen then 1 else 0 := by
  cases hseen : seen with
  | true => exact cap_le_one true sharing prev
  | false =>
    cases sharing with
    | true => exact absurd (hseen.symm.trans (h.seen rfl)) Bool.false_ne_true
    | false => rfl

/-- Where a tally is restricted an operand has ended, or a number is led to. -/
theorem JoinedBehind.isEnd_of_cap (h : JoinedBehind prev seen sharing ts)
    (hleads : Token.leads ts = true → prev.any isEnd = true) (hcap : cap seen sharing prev = 1) :
    seen = true ∧ prev.any isEnd = true := by
  cases hsharing : sharing with
  | true =>
    exact ⟨h.seen hsharing, (h.leads hsharing).elim isEnd_of_isPercent hleads⟩
  | false =>
    rw [cap, hsharing, Bool.or_false] at hcap
    split at hcap
    · next hboth => simpa using hboth
    · cases hcap

/-- **A tally is at most one**, and nothing at most behind an operand. -/
theorem tally_le (h : JoinedBehind prev seen sharing ts) (hclosed : prev.any closes = closed) :
    tally seen closed sharing ts ≤ 1 - cap seen sharing prev := by
  fun_induction tally seen closed sharing ts generalizing prev with
  | case1 seen closed sharing =>
    have := cap_le_one seen sharing prev
    omega
  | case2 seen closed sharing m ts ih =>
    have hrest := ih (h.next rfl true) rfl
    rw [cap_of_isEnd rfl, if_pos rfl] at hrest
    rw [cap_eq (h.isEnd_of_seen (.inl rfl))]
    split <;> omega
  | case3 seen closed sharing o ts hneg ih =>
    obtain ⟨rfl, hopen⟩ := hneg
    have hrest := ih h.behind_negation rfl
    rw [cap_eq (h.isEnd_of_seen (.inr ⟨rfl, hclosed.trans hopen⟩))]
    rwa [cap_eq fun _ _ => rfl] at hrest
  | case4 seen closed sharing o ts hneg ih =>
    have hrest := ih (h.next rfl seen) rfl
    have := cap_le_one seen sharing prev
    rw [cap_eq fun _ _ => rfl, if_neg Bool.false_ne_true] at hrest
    omega
  | case5 closed sharing seen target ts ih =>
    have hrest := ih h.behind_percent rfl
    have := h.cap_le
    rw [cap_percent] at hrest
    omega
  | case6 closed sharing seen ts ih =>
    have hrest := ih (h.next rfl seen) rfl
    obtain rfl := h.sharing_eq_false rfl rfl
    rw [cap_eq (h.isEnd_of_seen (.inl rfl))]
    rwa [cap_eq fun _ _ => rfl] at hrest
  | case7 closed sharing seen ts ih =>
    have hrest := ih (h.next rfl seen) rfl
    have := h.cap_le
    rw [cap_of_isEnd rfl] at hrest
    omega

/-- The token may stand behind `prev`, where `seen` says whether there is a value already. -/
structure Follows (seen : Bool) (prev : Option Token) (t : Token) : Prop where
  /-- A binary operator stands behind an operand. -/
  binary : ∀ o, t = op o → ¬ (o = .sub ∧ prev.any closes = false) → prev.any isEnd = true
  /-- Behind an operator an operand begins. -/
  operand : ∀ o, prev = some (op o) → t.isStart = true
  /-- A group is closed behind an operand. -/
  filled : seen = true → t = rparen → prev ≠ some lparen

/-- A number or a group may stand anywhere. -/
theorem follows_of_opens (ht : t.opens = true) : Follows seen prev t := by
  cases t with
  | num _ | lparen => exact ⟨by simp, fun _ _ => rfl, by simp⟩
  | op _ | percent _ | rparen => cases ht

/-- There is a value when the token has been read. -/
def sees (seen : Bool) (prev : Option Token) (t : Token) : Bool :=
  seen || t.isNumber || (t == op .sub && !prev.any closes)

theorem sees_eq (hnumber : t.isNumber = false) (hsub : t ≠ op .sub) : sees seen prev t = seen := by
  have hbeq : (t == op .sub) = false := beq_eq_false_iff_ne.mpr hsub
  simp [sees, hnumber, hbeq]

/-- Every token may stand where it does, and no operator stands at the end. -/
def Placed : Bool → Option Token → List Token → Prop
  | _, prev, [] => ∀ o, prev ≠ some (op o)
  | seen, prev, t :: ts => Follows seen prev t ∧ Placed (sees seen prev t) (some t) ts

theorem ne_op_of_isEnd (h : prev.any isEnd = true) (o : BinOp) : prev ≠ some (op o) := by
  rintro rfl
  cases h

/-- An operand may end behind an operand, or where there is no value. -/
theorem follows_of_isEnd (ht : t.isEnd = true) (hseen : ∀ o, prev = some (op o) → seen = true)
    (hend : seen = true → prev.any isEnd = true) :
    Follows seen prev t := by
  refine ⟨fun o ho => ?_, fun o ho => absurd ho (ne_op_of_isEnd (hend (hseen o ho)) o), fun hs _ => ?_⟩
  · rw [ho] at ht
    cases ht
  · rintro rfl
    cases hend hs

/-- Where a tally is restricted as far as it can be, an operand may end. -/
theorem JoinedBehind.follows (h : JoinedBehind prev seen sharing (t :: ts)) (ht : t.isEnd = true)
    (hleads : Token.leads (t :: ts) = false) (hseen : ∀ o, prev = some (op o) → seen = true)
    (hcap : (if seen then 1 else 0) ≤ cap seen sharing prev) : Follows seen prev t := by
  refine follows_of_isEnd ht hseen fun hs => ?_
  rw [if_pos hs] at hcap
  have hone : cap seen sharing prev = 1 := le_antisymm (cap_le_one seen sharing prev) hcap
  exact (h.isEnd_of_cap (fun hnumber => absurd (hleads.symm.trans hnumber) Bool.false_ne_true) hone).2

/-- **Where the tally is as great as it can be, every token may stand where it does.** -/
theorem placed_of_tally_eq (h : JoinedBehind prev seen sharing ts) (hclosed : prev.any closes = closed)
    (hseen : ∀ o, prev = some (op o) → seen = true)
    (heq : tally seen closed sharing ts = 1 - cap seen sharing prev) : Placed seen prev ts := by
  fun_induction tally seen closed sharing ts generalizing prev with
  | case1 seen closed sharing =>
    have hcap : cap seen sharing prev = 1 := by omega
    exact ne_op_of_isEnd (h.isEnd_of_cap (fun hnumber => by cases hnumber) hcap).2
  | case2 seen closed sharing m ts ih =>
    have hsees : sees seen prev (num m) = true := by simp [sees, isNumber, kind]
    refine ⟨follows_of_opens rfl, ?_⟩
    rw [hsees]
    refine ih (h.next rfl true) rfl (by simp) ?_
    rw [cap_eq (h.isEnd_of_seen (.inl rfl))] at heq
    rw [cap_of_isEnd rfl, if_pos rfl]
    split at heq <;> omega
  | case3 seen closed sharing o ts hneg ih =>
    obtain ⟨rfl, hopen⟩ := hneg
    have hsees : sees seen prev (op .sub) = true := by simp [sees, hclosed, hopen]
    refine ⟨⟨fun o ho hbinary => absurd ⟨(op.inj ho).symm, hclosed.trans hopen⟩ hbinary,
      fun _ _ => rfl, by simp⟩, ?_⟩
    rw [hsees]
    rw [cap_eq (h.isEnd_of_seen (.inr ⟨rfl, hclosed.trans hopen⟩))] at heq
    exact ih h.behind_negation rfl (fun _ _ => rfl) (by rwa [cap_eq fun _ _ => rfl])
  | case4 seen closed sharing o ts hneg ih =>
    have hrest : tally seen false false ts ≤ 1 - cap seen false (some (op o)) :=
      tally_le (h.next rfl seen) rfl
    rw [cap_eq fun _ _ => rfl, if_neg Bool.false_ne_true] at hrest
    have hcap : cap seen sharing prev = 1 := by
      have := cap_le_one seen sharing prev
      omega
    -- only a minus leads to a number, and if it is no negation, an operand ends in front of it
    have hleads : leads (op o :: ts) = true → prev.any isEnd = true := fun hnumber => by
      refine isEnd_of_closes (hclosed.trans ?_)
      cases o with
      | sub => simpa using hneg
      | add | mul | div => cases hnumber
    obtain ⟨rfl, hend⟩ := h.isEnd_of_cap hleads hcap
    refine ⟨⟨fun _ _ _ => hend, fun o ho => absurd ho (ne_op_of_isEnd hend o), by simp⟩, ?_⟩
    refine ih (h.next rfl true) rfl (fun _ _ => rfl) ?_
    rw [cap_eq fun _ _ => rfl, if_neg Bool.false_ne_true]
    omega
  | case5 closed sharing seen target ts ih =>
    have hrest : tally seen false seen ts ≤ 1 - cap seen seen (some (percent target)) :=
      tally_le h.behind_percent rfl
    have hmost := h.cap_le
    rw [cap_percent] at hrest
    refine ⟨h.follows rfl rfl hseen (by omega), ?_⟩
    rw [sees_eq rfl (by simp)]
    exact ih h.behind_percent rfl (by simp) (by rw [cap_percent]; omega)
  | case6 closed sharing seen ts ih =>
    obtain rfl := h.sharing_eq_false rfl rfl
    rw [cap_eq (h.isEnd_of_seen (.inl rfl))] at heq
    refine ⟨follows_of_opens rfl, ?_⟩
    rw [sees_eq rfl (by simp)]
    exact ih (h.next rfl seen) rfl (by simp) (by rwa [cap_eq fun _ _ => rfl])
  | case7 closed sharing seen ts ih =>
    have hrest : tally seen true false ts ≤ 1 - cap seen false (some rparen) :=
      tally_le (h.next rfl seen) rfl
    have hmost := h.cap_le
    rw [cap_of_isEnd rfl] at hrest
    refine ⟨h.follows rfl rfl hseen (by omega), ?_⟩
    rw [sees_eq rfl (by simp)]
    exact ih (h.next rfl seen) rfl (by simp) (by rw [cap_of_isEnd rfl]; omega)

/-! ### Where tokens stand -/

/-- Behind some tokens that stand well the others do. -/
theorem Placed.behind (h : Placed seen prev (front ++ ts)) :
    ∃ seen', (seen = true → seen' = true) ∧ Placed seen' (front.getLast?.or prev) ts := by
  induction front generalizing seen prev with
  | nil => exact ⟨seen, id, h⟩
  | cons t front ih =>
    obtain ⟨seen', hseen, hplaced⟩ := ih h.2
    refine ⟨seen', fun hs => hseen (by simp [sees, hs]), ?_⟩
    rw [List.getLast?_cons]
    cases hlast : front.getLast? <;> simpa [hlast] using hplaced

theorem Placed.isStart_head {o : BinOp} (h : Placed seen (some (op o)) ts) :
    ∃ t ∈ ts.head?, t.isStart = true := by
  cases ts with
  | nil => exact absurd rfl (h o)
  | cons t ts => exact ⟨t, rfl, h.1.operand o rfl⟩

/-- Tokens that stand well are well-formed infix. -/
theorem infix_of_placed (h : Placed seen none ts) : Infixed ts := by
  refine ⟨fun front o back hts hbinary => ?_, fun front back hts hneg => ?_⟩
  all_goals
    subst hts
    obtain ⟨seen', -, hplaced⟩ := h.behind
    rw [Option.or_none] at hplaced
  · have hend := hplaced.1.binary o rfl hbinary
    rw [Option.any_eq_true] at hend
    exact ⟨hend, hplaced.2.isStart_head⟩
  · exact hplaced.2.isStart_head

/-- If there is a value from the start, no group is empty. -/
theorem Placed.filled (h : Placed true prev ts) : Filled (prev.toList ++ ts) := by
  induction ts generalizing prev with
  | nil => cases prev <;> simp [Filled]
  | cons t ts ih =>
    obtain ⟨hfollows, hrest⟩ := h
    have hsees : sees true prev t = true := by simp [sees]
    rw [hsees] at hrest
    cases prev with
    | none => exact ih hrest
    | some u =>
      refine List.isChain_cons_cons.mpr ⟨?_, ih hrest⟩
      rintro ⟨rfl, rfl⟩
      exact hfollows.filled rfl rfl rfl

/-- If a number stands in front of every percent sign, it makes no difference whether there is a value before. -/
theorem tally_of_numbered (h : Numbered ts) (closed sharing : Bool) :
    tally true closed sharing ts = tally false closed sharing ts := by
  have htail : ∀ {t ts}, Numbered (t :: ts) → t.isNumber = false → Numbered ts := by
    intro t ts h ht u hu
    exact h u (by rw [List.takeWhile_cons_of_pos (by simp [ht])]; exact List.mem_cons_of_mem _ hu)
  induction ts generalizing closed sharing with
  | nil => rfl
  | cons t ts ih =>
    cases t with
    | num _ => rfl
    | op o => rw [tally, tally, ih (htail h rfl) false false]
    | percent target => cases h (percent target) List.mem_cons_self
    | lparen => exact ih (htail h rfl) false false
    | rparen => exact ih (htail h rfl) true false

end Reckoner.Token
