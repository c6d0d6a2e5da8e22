import Reckoner.Numeral
import Reckoner.Proofs.Decimal.Value

/-!
# Numeral — the number a numeral denotes

`Numeral.denoted` reads a numeral place by place: each digit counts ten times what it would count one place further right.  `toRat_value`: the value of a well-formed numeral is the number it denotes, exactly, however many digits it has.
-/

namespace Reckoner.Numeral

open Decimal (isDigit ofDigits toRat)

/-! ### The specification -/

/-- ASCII digits with at most one point among them, and at least one digit. -/
def WellFormed (cs : List Char) : Prop :=
  (∀ c ∈ cs, isDigit c = true ∨ c = '.') ∧ cs.count '.' ≤ 1 ∧ ∃ c ∈ cs, isDigit c = true

instance (cs : List Char) : Decidable (WellFormed cs) :=
  decidable_of_iff ((cs.all fun c => isDigit c || c == '.') = true ∧ cs.count '.' ≤ 1 ∧
    cs.any isDigit = true) (by simp [WellFormed])

/-- What a digit counts. -/
def digit (c : Char) : ℕ := c.toNat - '0'.toNat

/-- What digits count in front of the point. -/
def integer (cs : List Char) : ℕ := Nat.ofDigits 10 (cs.reverse.map digit)

/-- What digits count behind the point. -/
def fraction : List Char → ℚ
  | [] => 0
  | c :: cs => (digit c + fraction cs) / 10

/-- What is written in front of the first point. -/
def front (cs : List Char) : List Char := cs.takeWhile (· ≠ '.')

/-- What is written behind the first point. -/
def back (cs : List Char) : List Char := (cs.dropWhile (· ≠ '.')).drop 1

/-- The number a numeral denotes. -/
def denoted (cs : List Char) : ℚ := integer (front cs) + fraction (back cs)

example : denoted "12.50".toList = 25 / 2 := by decide +kernel

/-! ### Digits -/

theorem integer_append (cs ds : List Char) :
    integer (cs ++ ds) = integer cs * 10 ^ ds.length + integer ds := by
  simp only [integer, List.reverse_append, List.map_append, Nat.ofDigits_append, List.length_map,
    List.length_reverse]
  ring

/-- The left fold that reads digits is positional notation. -/
theorem ofDigits_eq (cs : List Char) : ofDigits cs = integer cs := by
  induction cs using List.reverseRecOn with
  | nil => rfl
  | append_singleton cs c ih =>
    rw [integer_append, ← ih]
    simp [ofDigits, integer, digit, List.foldl_append, Nat.mul_comm]

/-- Behind the point digits count less by one power of ten for each of them. -/
theorem fraction_eq (cs : List Char) : fraction cs = integer cs / 10 ^ cs.length := by
  induction cs with
  | nil => simp [fraction, integer]
  | cons c cs ih =>
    have h := integer_append [c] cs
    rw [List.singleton_append] at h
    rw [fraction, ih, h, List.length_cons, pow_succ]
    have : integer [c] = digit c := by simp [integer]
    rw [this]
    push_cast
    field_simp

/-! ### Reading -/

theorem point_notMem_front (cs : List Char) : '.' ∉ front cs := fun h => by
  have hall := List.all_eq_true.mp (List.all_takeWhile (p := (· ≠ '.')) (l := cs)) '.' h
  exact of_decide_eq_true hall rfl

/-- A point stands in between, or there is none. -/
theorem cut (cs : List Char) :
    front cs = cs ∧ back cs = [] ∨ front cs ++ '.' :: back cs = cs := by
  have hsplit := List.takeWhile_append_dropWhile (p := (· ≠ '.')) (l := cs)
  rw [front, back]
  rcases hd : cs.dropWhile (· ≠ '.') with _ | ⟨d, ds⟩
  · rw [hd, List.append_nil] at hsplit
    exact .inl ⟨hsplit, rfl⟩
  · have hhead := List.head?_dropWhile_not (· ≠ '.') cs
    rw [hd] at hhead
    obtain rfl : d = '.' := by simpa using hhead
    rw [hd] at hsplit
    exact .inr hsplit

/-- Around the only point stand the other characters. -/
theorem mem_front_append_back {cs : List Char} (h : cs.count '.' ≤ 1) (c : Char) :
    c ∈ front cs ++ back cs ↔ c ∈ cs ∧ c ≠ '.' := by
  have hfront := point_notMem_front cs
  rcases cut cs with ⟨hf, hb⟩ | hcut
  · rw [hf] at hfront ⊢
    rw [hb, List.append_nil]
    exact ⟨fun hc => ⟨hc, fun heq => hfront (heq ▸ hc)⟩, And.left⟩
  · -- a point behind the first one would be the second
    have hback : '.' ∉ back cs := fun hmem => by
      have := List.count_pos_iff.mpr hmem
      rw [← hcut, List.count_append, List.count_cons_self] at h
      omega
    have hmem : c ∈ cs ↔ c ∈ front cs ∨ c = '.' ∨ c ∈ back cs := by
      conv_lhs => rw [← hcut]
      simp
    rw [hmem, List.mem_append]
    refine ⟨?_, fun ⟨hc, hne⟩ => hc.imp_right fun hc => hc.resolve_left hne⟩
    rintro (hc | hc)
    · exact ⟨.inl hc, fun heq => hfront (heq ▸ hc)⟩
    · exact ⟨.inr (.inr hc), fun heq => hback (heq ▸ hc)⟩

theorem WellFormed.ne_nil {cs : List Char} (h : WellFormed cs) : cs ≠ [] := by
  obtain ⟨-, -, c, hc, -⟩ := h
  exact List.ne_nil_of_mem hc

theorem WellFormed.withoutLineFeed_eq {cs : List Char} (h : WellFormed cs) :
    withoutLineFeed cs = cs := by
  refine if_neg fun hlast => ?_
  rcases h.1 '\n' (List.mem_of_getLast? hlast) with hd | hd <;> exact absurd hd (by decide)

theorem WellFormed.ofPointed?_eq {cs : List Char} (h : WellFormed cs) :
    Decimal.ofPointed? cs = some (integer (front cs ++ back cs), (back cs).length) := by
  obtain ⟨hsigns, hpoint, c, hc, hdigit⟩ := h
  have hmem := mem_front_append_back hpoint
  have hne : front cs ++ back cs ≠ [] := by
    refine List.ne_nil_of_mem ((hmem c).mpr ⟨hc, ?_⟩)
    rintro rfl
    exact absurd hdigit (by decide)
  have hall : (front cs ++ back cs).all isDigit = true := by
    refine List.all_eq_true.mpr fun d hd => ?_
    obtain ⟨hd, hp⟩ := (hmem d).mp hd
    exact (hsigns d hd).resolve_right hp
  rw [← ofDigits_eq]
  exact if_pos ⟨hne, hall⟩

/-- What is read by digits with a point among them is well-formed. -/
theorem wellFormed_of_ofPointed? {cs : List Char} {r : ℕ × ℕ} (h : Decimal.ofPointed? cs = some r) :
    WellFormed cs := by
  rw [Decimal.ofPointed?] at h
  split at h
  · next hdigits =>
    obtain ⟨hne, hall⟩ : front cs ++ back cs ≠ [] ∧ (front cs ++ back cs).all isDigit = true := hdigits
    have hdigit : ∀ c ∈ front cs ++ back cs, isDigit c = true := List.all_eq_true.mp hall
    obtain ⟨d, hd⟩ := List.exists_mem_of_ne_nil _ hne
    rcases cut cs with ⟨hfront, hback⟩ | hcut
    · rw [hfront, hback, List.append_nil] at hdigit hd
      have hpoint := point_notMem_front cs
      rw [hfront] at hpoint
      exact ⟨fun c hc => .inl (hdigit c hc), by rw [List.count_eq_zero.mpr hpoint]; exact Nat.zero_le _,
        d, hd, hdigit d hd⟩
    · have hback : '.' ∉ back cs := fun hmem =>
        absurd (hdigit '.' (List.mem_append_right _ hmem)) (by decide)
      rw [← hcut]
      refine ⟨fun c hc => ?_, ?_, d, ?_, hdigit d hd⟩
      · rcases List.mem_append.mp hc with hc | hc
        · exact .inl (hdigit c (List.mem_append_left _ hc))
        · exact (List.mem_cons.mp hc).symm.imp_left fun hc => hdigit c (List.mem_append_right _ hc)
      · rw [List.count_append, List.count_cons_self, List.count_eq_zero.mpr hback,
          List.count_eq_zero.mpr (point_notMem_front cs)]
      · exact (List.mem_append.mp hd).elim (List.mem_append_left _)
          fun hd => List.mem_append_right _ (List.mem_cons_of_mem _ hd)
  · cases h

/-- The value has all the digits, and as many places as digits follow the point. -/
theorem WellFormed.value_eq {text : String} (h : WellFormed text.toList) : value text
    = .ok ⟨false, integer (front text.toList ++ back text.toList), -(back text.toList).length⟩ := by
  have hne : ¬ text.isEmpty = true := by
    rw [String.isEmpty_iff]
    rintro rfl
    exact h.ne_nil rfl
  rw [value, if_neg hne, h.withoutLineFeed_eq, h.ofPointed?_eq]

/-- **A numeral of digits and points has a value exactly if it is well-formed.** -/
theorem value_eq_ok_iff {text : String} (hne : text.toList ≠ [])
    (hchars : ∀ c ∈ text.toList, isDigit c = true ∨ c = '.') :
    (∃ d, value text = .ok d) ↔ WellFormed text.toList := by
  constructor
  · rintro ⟨d, h⟩
    have hempty : ¬ text.isEmpty = true := by
      rw [String.isEmpty_iff]
      rintro rfl
      exact hne rfl
    have hline : withoutLineFeed text.toList = text.toList := by
      refine if_neg fun hlast => ?_
      rcases hchars '\n' (List.mem_of_getLast? hlast) with hd | hd <;> exact absurd hd (by decide)
    rw [value, if_neg hempty, hline] at h
    cases hread : Decimal.ofPointed? text.toList with
    | none => rw [hread] at h; cases h
    | some r => exact wellFormed_of_ofPointed? hread
  · exact fun h => ⟨_, h.value_eq⟩

/-- A number of as many places as digits follow the point is the one that is written. -/
theorem toRat_read (cs : List Char) :
    toRat ⟨false, integer (front cs ++ back cs), -(back cs).length⟩ = denoted cs := by
  rw [integer_append, denoted, fraction_eq, Decimal.toRat, Decimal.signum]
  simp only [zpow_neg, zpow_natCast, Bool.false_eq_true, if_false, one_mul]
  push_cast
  field_simp

/-- **Numerals enter exactly.** -/
theorem toRat_value {text : String} (h : WellFormed text.toList) :
    toRat <$> value text = .ok (denoted text.toList) := by
  rw [h.value_eq]
  exact congrArg Except.ok (toRat_read _)

end Reckoner.Numeral
