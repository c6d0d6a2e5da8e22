import Reckoner.Proofs.Token.Infix
import Reckoner.Proofs.Token.Parentheses

/-!
# Token — operands side by side

Without percent signs a postfix order leaves exactly as many values as its tokens add up to (`walk_eq_total`).  In well-formed infix without empty groups operands and binary operators take turns, but for operands that begin right behind another: each of these adds a value that nothing takes away.  If one value is left, there are none of them: `separate_of_walk`.
-/

namespace Reckoner.Token

open Evaluation (map_eq_ok_iff)

variable {b : Before} {w w' : List Pending} {closed ends : Bool} {prev : Option Token} {t : Token}
  {ts front now out : List Token} {n m k : ℕ}

/-- There are no percent signs. -/
def Percentless (ts : List Token) : Prop := ∀ t ∈ ts, t.isPercent = false

instance : DecidablePred Percentless := fun ts =>
  inferInstanceAs (Decidable (∀ t ∈ ts, t.isPercent = false))

/-! ### What is added -/

/-- How many values a token adds that is no percent sign. -/
def gain (closed : Bool) : Token → ℤ
  | num _ => 1
  | op o => if o = .sub ∧ closed = false then 0 else -1
  | percent _ | lparen | rparen => 0

/-- How many values tokens add without percent signs; `closed` says whether an operand ends right before them. -/
def total : (closed : Bool) → List Token → ℤ
  | _, [] => 0
  | closed, t :: ts => gain closed t + total t.closes ts

/-- What is released takes away exactly what it owes. -/
theorem walk_released_eq (hw : Percentless (w.map Pending.token))
    (h : walk n (w.map Pending.token) = some k) : k + owed w = n := by
  induction w generalizing n with
  | nil => cases h; rfl
  | cons p w ih =>
    obtain ⟨hp, hw⟩ := List.forall_mem_cons.mp hw
    obtain ⟨harity, h⟩ := walk_cons_eq_some_iff.mp h
    have := ih hw h
    rw [owed_cons]
    cases p with
    | percent target => cases hp
    | binary _ | negation | group =>
      simp [Pending.token, arity, depth, Pending.owes] at *
      omega

theorem walk_takeWhile (hw : Percentless (w.map Pending.token)) (q : Pending → Bool)
    (h : walk n ((w.takeWhile q).map Pending.token) = some m) : m + owed w = n + owed (w.dropWhile q) := by
  have hreleased := walk_released_eq (fun t ht => hw t ?_) h
  · have := owed_takeWhile_dropWhile q w
    omega
  · exact List.map_subset _ (List.takeWhile_prefix q).subset ht

theorem percentless_dropWhile (hw : Percentless (w.map Pending.token)) (q : Pending → Bool) :
    Percentless ((w.dropWhile q).map Pending.token) :=
  fun t ht => hw t (List.map_subset _ (List.dropWhile_suffix q).subset ht)

/-- What a token puts out and what waits behind it come to what it adds. -/
theorem walk_advance (ht : t.isPercent = false) (hw : Percentless (w.map Pending.token))
    (hclosed : b.negates = !closed) (h : advance b w ends t = some (now, w'))
    (hwalk : walk n now = some m) :
    (m + owed w : ℤ) = n + gain closed t + owed w' ∧ Percentless (w'.map Pending.token) := by
  cases t with
  | num _ =>
    cases h
    cases hwalk
    exact ⟨by simp [gain, depth], hw⟩
  | op o =>
    rw [advance] at h
    split at h
    · next hneg =>
      cases h
      obtain rfl : n + 1 = m := Option.some.inj hwalk
      have hopen : closed = false := by simpa [hclosed] using hneg.2
      refine ⟨?_, List.forall_mem_cons.mpr ⟨rfl, hw⟩⟩
      simp [gain, owed_cons, Pending.owes, hneg.1, hopen]
      omega
    · next hneg =>
      cases h
      have hbinary : ¬ (o = .sub ∧ closed = false) := by simpa [hclosed] using hneg
      have := walk_takeWhile hw _ hwalk
      refine ⟨?_, List.forall_mem_cons.mpr ⟨rfl, percentless_dropWhile hw _⟩⟩
      rw [gain, if_neg hbinary, owed_cons]
      simp [Pending.owes]
      omega
  | percent _ => cases ht
  | lparen =>
    cases h
    cases hwalk
    exact ⟨by simp [gain, owed_cons, Pending.owes], List.forall_mem_cons.mpr ⟨rfl, hw⟩⟩
  | rparen =>
    rw [advance] at h
    split at h
    · cases h
    · next p kept hdrop =>
      cases h
      have hkept := percentless_dropWhile hw (· ≠ .group)
      have := walk_takeWhile hw _ hwalk
      obtain rfl := eq_group_of_dropWhile hdrop
      rw [hdrop] at this hkept
      refine ⟨?_, (List.forall_mem_cons.mp hkept).2⟩
      simp [gain, owed_cons, Pending.owes] at *
      omega

/-- **Without percent signs a postfix order leaves as many values as its tokens add up to.** -/
theorem walk_eq_total (hts : Percentless ts) (hw : Percentless (w.map Pending.token))
    (hclosed : b.negates = !closed) (h : toPostfixFrom b w ts = .ok out) (hwalk : walk n out = some k) :
    (k + owed w : ℤ) = n + total closed ts := by
  induction ts generalizing b w closed out n with
  | nil =>
    obtain ⟨-, rfl⟩ := toPostfixFrom_nil_eq_ok_iff.mp h
    have := walk_released_eq hw hwalk
    rw [total]
    omega
  | cons t ts ih =>
    obtain ⟨ht, hts⟩ := List.forall_mem_cons.mp hts
    rw [toPostfixFrom_cons] at h
    split at h
    · cases h
    · next now w' hadvance =>
      obtain ⟨rest, hrest, rfl⟩ := map_eq_ok_iff.mp h
      obtain ⟨m, hnow, hwalk⟩ := walk_append_eq_some_iff.mp hwalk
      obtain ⟨hstep, hw'⟩ := walk_advance ht hw hclosed hadvance hnow
      have := ih hts hw' (negates_after b t) hrest hwalk
      rw [total]
      omega

/-! ### Taking turns -/

/-- In well-formed infix without empty groups every token may stand where it does. -/
theorem placed_of_infixed (hinfixed : Infixed (front ++ ts)) (hfilled : Filled (front ++ ts)) :
    Placed true front.getLast? ts := by
  induction ts generalizing front with
  | nil =>
    intro o ho
    obtain ⟨front, rfl⟩ := List.getLast?_eq_some_iff.mp ho
    rw [List.append_assoc] at hinfixed
    obtain ⟨t, ht, -⟩ := hinfixed.isStart_behind
    cases ht
  | cons t ts ih =>
    refine ⟨⟨?_, ?_, ?_⟩, ?_⟩
    · rintro o rfl hbinary
      exact (Option.any_eq_true _ _).mpr (hinfixed.binary front o ts rfl hbinary).1
    · intro o ho
      obtain ⟨front, rfl⟩ := List.getLast?_eq_some_iff.mp ho
      rw [List.append_assoc] at hinfixed
      obtain ⟨u, hu, hstart⟩ := hinfixed.isStart_behind
      cases hu
      exact hstart
    · rintro - rfl ho
      obtain ⟨front, rfl⟩ := List.getLast?_eq_some_iff.mp ho
      rw [List.append_assoc] at hfilled
      have hend : Filled (lparen :: rparen :: ts) := List.IsChain.suffix hfilled (List.suffix_append _ _)
      exact (List.isChain_cons_cons.mp hend).1 ⟨rfl, rfl⟩
    · have hrest : Placed true (front ++ [t]).getLast? ts := ih (by simpa using hinfixed) (by simpa using hfilled)
      rwa [List.getLast?_concat] at hrest

/-- How many values are missing behind a token, or at the start, until an operand has ended. -/
def missing (prev : Option Token) : ℤ := if prev.any closes then 0 else 1

/-- Without percent signs an operand has ended right behind what ends one. -/
theorem closes_of_isEnd (hprev : prev.any isPercent = false) (h : prev.any isEnd = true) :
    prev.any closes = true := by
  rcases prev with _ | u
  · cases h
  · cases u with
    | num _ | rparen => rfl
    | op _ | lparen => cases h
    | percent _ => cases hprev

/-- A token that stands well adds what was missing before it, but for what is missing behind it, and one more if an operand begins right behind another. -/
theorem missing_eq (ht : t.isPercent = false) (hprev : prev.any isPercent = false)
    (hfollows : Follows true prev t) (hfirst : prev = none → t ≠ rparen) :
    missing prev + (if prev.any closes = true ∧ t.opens = true then 1 else 0)
      = gain (prev.any closes) t + missing (some t) := by
  cases t with
  | num _ | lparen => cases hclosed : prev.any closes <;> simp [missing, gain, closes, opens, hclosed]
  | op o =>
    by_cases hneg : o = .sub ∧ prev.any closes = false
    · simp [missing, gain, closes, opens, hneg]
    · have hclosed := closes_of_isEnd hprev (hfollows.binary o rfl hneg)
      rw [gain, if_neg hneg]
      simp [missing, closes, opens, hclosed]
  | percent _ => cases ht
  | rparen =>
    have hclosed : prev.any closes = true := by
      rcases prev with _ | _ | o | _ | _ | _
      · exact absurd rfl (hfirst rfl)
      · rfl
      · cases hfollows.operand o rfl
      · cases hprev
      · exact absurd rfl (hfollows.filled rfl rfl)
      · rfl
    simp [missing, gain, closes, opens, hclosed]

/-- **Operands that take turns with binary operators add one value in all**, and more if one begins right behind another. -/
theorem missing_le_total (hts : Percentless ts) (hprev : prev.any isPercent = false)
    (hplaced : Placed true prev ts) (hlast : (ts.getLast?.or prev).any isEnd = true)
    (hfirst : prev = none → ts.head? ≠ some rparen) :
    missing prev ≤ total (prev.any closes) ts ∧
      (total (prev.any closes) ts = missing prev → Separate (prev.toList ++ ts)) := by
  induction ts generalizing prev with
  | nil =>
    have hmissing : missing prev = 0 := if_pos (closes_of_isEnd hprev hlast)
    refine ⟨hmissing.le, fun _ => ?_⟩
    cases prev <;> simp [Separate]
  | cons t ts ih =>
    obtain ⟨ht, hts⟩ := List.forall_mem_cons.mp hts
    obtain ⟨hfollows, hplaced⟩ := hplaced
    have hsees : sees true prev t = true := by simp [sees]
    rw [hsees] at hplaced
    have hlast' : (ts.getLast?.or (some t)).any isEnd = true := by
      rw [List.getLast?_cons] at hlast
      cases hlast : ts.getLast? <;> simp_all
    obtain ⟨hle, hseparate⟩ := ih hts (show (some t).any isPercent = false from ht) hplaced hlast'
      (fun h => by cases h)
    have hstep := missing_eq ht hprev hfollows (fun h hrparen => hfirst h (by rw [hrparen]; rfl))
    have hclosed : (some t).any closes = t.closes := rfl
    rw [hclosed] at hle hseparate
    rw [total]
    by_cases hjuxtaposed : prev.any closes = true ∧ t.opens = true
    · rw [if_pos hjuxtaposed] at hstep
      exact ⟨by omega, fun heq => by omega⟩
    · rw [if_neg hjuxtaposed] at hstep
      refine ⟨by omega, fun heq => ?_⟩
      have hrest : Separate (t :: ts) := hseparate (by omega)
      cases prev with
      | none => exact hrest
      | some u => exact List.isChain_cons_cons.mpr ⟨hjuxtaposed, hrest⟩

/-! ### One value -/

/-- What is put in order does not end in an opening parenthesis. -/
theorem getLast?_of_toPostfix (h : toPostfix ts = .ok out) : ts.getLast? ≠ some lparen := by
  intro hlast
  obtain ⟨front, rfl⟩ := List.getLast?_eq_some_iff.mp hlast
  have hjudges := judges_toPostfixFrom .opening [] (front ++ [lparen])
  rw [← toPostfix, h, List.count_nil, List.filterMap_append] at hjudges
  have hover : ¬ Parentheses.Overclosed 0 (front.filterMap opens? ++ [lparen].filterMap opens?) :=
    fun hover => by cases hjudges.closing hover
  have hcount : (front.filterMap opens? ++ [true]).count true = (front.filterMap opens? ++ [true]).count false :=
    by_contra fun hne => by cases hjudges.opening hover (by rwa [Nat.zero_add])
  rw [List.count_append, List.count_append] at hcount
  refine hover ⟨front.filterMap opens?, List.prefix_append _ _, ?_⟩
  simp at hcount
  omega

/-- **Well-formed infix that leaves one value holds no operands side by side**, if there are no percent signs and no empty groups. -/
theorem separate_of_walk (hts : Percentless ts) (hfilled : Filled ts) (hinfixed : Infixed ts)
    (h : toPostfix ts = .ok out) (hwalk : walk 0 out = some 1) : Separate ts := by
  have htotal : ((1 : ℕ) + owed [] : ℤ) = (0 : ℕ) + total false ts :=
    walk_eq_total hts (fun t ht => by cases ht) rfl h hwalk
  have hlast : (ts.getLast?.or none).any isEnd = true := by
    rw [Option.or_none]
    cases hlast : ts.getLast? with
    | none =>
      rw [List.getLast?_eq_none_iff.mp hlast] at htotal
      cases htotal
    | some t =>
      cases t with
      | num _ | percent _ | rparen => rfl
      | op o =>
        obtain ⟨front, rfl⟩ := List.getLast?_eq_some_iff.mp hlast
        obtain ⟨u, hu, -⟩ := hinfixed.isStart_behind
        cases hu
      | lparen => exact absurd hlast (getLast?_of_toPostfix h)
  have hfirst : ts.head? ≠ some rparen := by
    intro hhead
    obtain ⟨us, rfl⟩ := List.head?_eq_some_iff.mp hhead
    cases h
  have hplaced : Placed true ([] : List Token).getLast? ts := placed_of_infixed hinfixed hfilled
  obtain ⟨-, hseparate⟩ := missing_le_total hts rfl hplaced hlast fun _ => hfirst
  exact hseparate (by simp [owed] at htotal; exact htotal.symm)

end Reckoner.Token
