/-!
# Decimal — numbers as sign, coefficient and exponent

A decimal is `±coefficient · 10 ^ exponent`.  The triple is kept as it is: `2.50` and `2.5` are two decimals of one value, and zero has a sign and an exponent of its own.
-/

namespace Reckoner

structure Decimal where
  negative : Bool
  coefficient : Nat
  exponent : Int
deriving DecidableEq, Repr

namespace Decimal

/-! ### Powers of ten -/

/-- The `k`th power of ten. -/
def tenPow (k : Nat) : Nat := Nat.pow 10 k

theorem tenPow_zero : tenPow 0 = 1 := rfl

theorem tenPow_succ (k : Nat) : tenPow (k + 1) = tenPow k * 10 := rfl

theorem tenPow_pos (k : Nat) : 0 < tenPow k := by
  induction k with
  | zero => decide
  | succ k ih => rw [tenPow_succ]; omega

theorem tenPow_add (j k : Nat) : tenPow (j + k) = tenPow j * tenPow k := by
  induction k with
  | zero => rw [Nat.add_zero, tenPow_zero, Nat.mul_one]
  | succ k ih => rw [← Nat.add_assoc, tenPow_succ, ih, tenPow_succ, Nat.mul_assoc]

theorem tenPow_le_tenPow {j k : Nat} (h : j ≤ k) : tenPow j ≤ tenPow k := by
  obtain ⟨i, rfl⟩ := Nat.exists_eq_add_of_le h
  rw [tenPow_add]
  exact Nat.le_mul_of_pos_right _ (tenPow_pos i)

/-- A number lies below the power of ten named by its count of binary digits. -/
theorem lt_tenPow_log2 (n : Nat) : n < tenPow (n.log2 + 1) := by
  have h : ∀ k, 2 ^ k ≤ tenPow k := by
    intro k
    induction k with
    | zero => decide
    | succ k ih => rw [Nat.pow_succ, tenPow_succ]; exact Nat.mul_le_mul ih (by decide)
  exact Nat.lt_of_lt_of_le Nat.lt_log2_self (h _)

/-! ### Counting digits -/

/-- The number of decimal digits of a number that has at most `1 <<< j` of them, half of the places at a time. -/
def digitCountBelow : Nat → Nat → Nat
  | 0, _ => 1
  | j + 1, n =>
    let half := 1 <<< j
    if n < tenPow half then digitCountBelow j n
    else half + digitCountBelow j (n / tenPow half)

/-- The number of decimal digits; zero has one. -/
def digitCount (n : Nat) : Nat := digitCountBelow ((n.log2 + 1).log2 + 1) n

theorem digitCountBelow_pos (j n : Nat) : 0 < digitCountBelow j n := by
  induction j generalizing n with
  | zero => simp [digitCountBelow]
  | succ j ih =>
    simp only [digitCountBelow]
    split
    · exact ih n
    · exact Nat.add_pos_right _ (ih _)

theorem digitCount_pos (n : Nat) : 0 < digitCount n := digitCountBelow_pos _ n

theorem lt_tenPow_digitCountBelow {j n : Nat} (h : n < tenPow (1 <<< j)) :
    n < tenPow (digitCountBelow j n) := by
  induction j generalizing n with
  | zero => exact h
  | succ j ih =>
    simp only [digitCountBelow]
    split
    · next hn => exact ih hn
    · have hq : n / tenPow (1 <<< j) < tenPow (1 <<< j) := by
        apply Nat.div_lt_of_lt_mul
        rwa [← tenPow_add, ← Nat.two_mul, ← Nat.shiftLeft_succ]
      rw [tenPow_add]
      calc n < tenPow (1 <<< j) * (n / tenPow (1 <<< j) + 1) :=
            Nat.lt_mul_div_succ n (tenPow_pos _)
        _ ≤ tenPow (1 <<< j) * tenPow (digitCountBelow j (n / tenPow (1 <<< j))) :=
            Nat.mul_le_mul_left _ (ih hq)

/-- A number lies below the power of ten that its digit count names. -/
theorem lt_tenPow_digitCount (n : Nat) : n < tenPow (digitCount n) := by
  apply lt_tenPow_digitCountBelow
  rw [Nat.one_shiftLeft]
  exact Nat.lt_of_lt_of_le (lt_tenPow_log2 n) (tenPow_le_tenPow (Nat.le_of_lt Nat.lt_log2_self))

theorem tenPow_digitCountBelow_le {j n : Nat} (hn : 0 < n) :
    tenPow (digitCountBelow j n - 1) ≤ n := by
  induction j generalizing n with
  | zero => exact hn
  | succ j ih =>
    simp only [digitCountBelow]
    split
    · exact ih hn
    · next hle =>
      have hq : 0 < n / tenPow (1 <<< j) := Nat.div_pos (Nat.le_of_not_lt hle) (tenPow_pos _)
      rw [Nat.add_sub_assoc (digitCountBelow_pos _ _), tenPow_add]
      calc tenPow (1 <<< j) * tenPow (digitCountBelow j (n / tenPow (1 <<< j)) - 1)
          ≤ tenPow (1 <<< j) * (n / tenPow (1 <<< j)) := Nat.mul_le_mul_left _ (ih hq)
        _ ≤ n := Nat.mul_div_le n _

/-- No shorter power of ten lies above a positive number. -/
theorem tenPow_digitCount_le {n : Nat} (hn : 0 < n) : tenPow (digitCount n - 1) ≤ n :=
  tenPow_digitCountBelow_le hn

/-! ### Parts of a decimal -/

def isZero (d : Decimal) : Bool := d.coefficient == 0

/-- The exponent of the leading digit. -/
def adjusted (d : Decimal) : Int := d.exponent + digitCount d.coefficient - 1

/-- A natural number, exactly. -/
def ofNat (n : Nat) : Decimal := ⟨false, n, 0⟩

/-- An integer, exactly. -/
def ofInt (n : Int) : Decimal := ⟨n < 0, n.natAbs, 0⟩

def neg (d : Decimal) : Decimal := { d with negative := !d.negative }

/-- The signed number of units `10 ^ e` in `d`, for `e` not above the exponent of `d`. -/
def units (d : Decimal) (e : Int) : Int :=
  let n : Int := d.coefficient * tenPow (d.exponent - e).toNat
  if d.negative then -n else n

/-- Divides `n` by `10 ^ k` for the greatest `k` that is at most `limit`, if that `k` is below `1 <<< j`; with the number of divisions by ten. -/
def stripZerosBelow : (j limit n : Nat) → Nat × Nat
  | 0, _, n => (n, 0)
  | j + 1, limit, n =>
    let half := 1 <<< j
    if half ≤ limit ∧ n % tenPow half = 0 then
      let (m, k) := stripZerosBelow j (limit - half) (n / tenPow half)
      (m, k + half)
    else stripZerosBelow j limit n

/-- Divides `n` by ten while it is a multiple of ten, at most `limit` times; with the number of divisions. -/
def stripZeros (limit n : Nat) : Nat × Nat :=
  stripZerosBelow ((min limit (digitCount n)).log2 + 1) limit n

/-- Without trailing zeros of the coefficient, as long as the exponent stays at most `ideal`. -/
def reduceTo (ideal : Int) (d : Decimal) : Decimal :=
  let (c, k) := stripZeros (ideal - d.exponent).toNat d.coefficient
  { d with coefficient := c, exponent := d.exponent + k }

/-! ### Trailing zeros -/

theorem stripZerosBelow_fst_mul (j limit n : Nat) :
    (stripZerosBelow j limit n).1 * tenPow (stripZerosBelow j limit n).2 = n := by
  induction j generalizing limit n with
  | zero => exact Nat.mul_one n
  | succ j ih =>
    simp only [stripZerosBelow]
    split
    · next h =>
      rw [tenPow_add, ← Nat.mul_assoc, ih]
      exact Nat.div_mul_cancel (Nat.dvd_of_mod_eq_zero h.2)
    · exact ih limit n

theorem stripZerosBelow_fst_mod {j limit n : Nat}
    (hj : limit < 1 <<< j ∨ ¬ tenPow (1 <<< j) ∣ n) :
    (stripZerosBelow j limit n).2 = limit ∨ (stripZerosBelow j limit n).1 % 10 ≠ 0 := by
  induction j generalizing limit n with
  | zero =>
    rcases hj with h | h
    · exact .inl (Nat.lt_one_iff.mp h).symm
    · exact .inr fun h₀ => h (Nat.dvd_of_mod_eq_zero h₀)
  | succ j ih =>
    have htwo : 1 <<< (j + 1) = 1 <<< j + 1 <<< j := by rw [Nat.shiftLeft_succ, Nat.two_mul]
    simp only [stripZerosBelow]
    split
    · next h =>
      obtain ⟨q, rfl⟩ := Nat.dvd_of_mod_eq_zero h.2
      rw [Nat.mul_div_cancel_left q (tenPow_pos _)]
      have hq : limit - 1 <<< j < 1 <<< j ∨ ¬ tenPow (1 <<< j) ∣ q := by
        refine hj.imp (fun hl => by omega) fun hd hq => hd ?_
        rw [htwo, tenPow_add]
        exact Nat.mul_dvd_mul_left _ hq
      refine (ih hq).imp (fun hk => ?_) id
      have := h.1
      omega
    · next h =>
      refine ih (Decidable.or_iff_not_imp_left.mpr fun hl hd => h ⟨by omega, ?_⟩)
      exact Nat.mod_eq_zero_of_dvd hd

/-- Stripping zeros loses nothing but the factor of ten it counts. -/
theorem stripZeros_fst_mul (limit n : Nat) :
    (stripZeros limit n).1 * tenPow (stripZeros limit n).2 = n :=
  stripZerosBelow_fst_mul _ limit n

/-- Where fewer zeros are stripped than may be, none is left. -/
theorem stripZeros_fst_mod {limit n : Nat} (hn : 0 < n) (h : (stripZeros limit n).2 < limit) :
    (stripZeros limit n).1 % 10 ≠ 0 := by
  have hj : limit < 1 <<< ((min limit (digitCount n)).log2 + 1)
      ∨ ¬ tenPow (1 <<< ((min limit (digitCount n)).log2 + 1)) ∣ n := by
    have hlt : min limit (digitCount n) < 1 <<< ((min limit (digitCount n)).log2 + 1) := by
      rw [Nat.one_shiftLeft]
      exact Nat.lt_log2_self
    refine Decidable.or_iff_not_imp_left.mpr fun hl hd => ?_
    have hle := Nat.le_of_dvd hn hd
    have hten := tenPow_le_tenPow (j := digitCount n)
      (k := 1 <<< ((min limit (digitCount n)).log2 + 1)) (by omega)
    exact absurd (lt_tenPow_digitCount n) (by omega)
  exact (stripZerosBelow_fst_mod hj).resolve_left (Nat.ne_of_lt h)

end Decimal

end Reckoner
