import Reckoner.Proofs.Grammar.Meaning

/-!
# Grammar — the operations behind a value

`Phrase.operations` lists the operations that are performed to compute the meaning of a phrase, with the values of their operands, up to and with the first that fails.  Two things follow from the list alone.  Where numerals are fine, the phrase fails as one of its operations does (`meaning_eq_error_iff`).  And a map of numbers that commutes with these operations commutes with the meaning (`map_meaning`), so two arithmetics are compared operation by operation.
-/

namespace Reckoner

/-- An operation with its operands. -/
structure Operation (α : Type) where
  op : BinOp
  left : α
  right : α
deriving DecidableEq, Repr

/-- The same operation on other numbers. -/
def Operation.map {α β : Type} (f : α → β) (x : Operation α) : Operation β :=
  ⟨x.op, f x.left, f x.right⟩

namespace Arithmetic

variable {α β : Type}

/-- The result of an operation. -/
def perform (A : Arithmetic α) (x : Operation α) : Except Failure α := A.apply x.op x.left x.right

/-- What is done with a value, nothing if there is none. -/
def following (r : Except Failure α) (k : α → List β) : List β :=
  match r with
  | .ok a => k a
  | .error _ => []

/-- The operation of `-x`. -/
def negateOperations (A : Arithmetic α) (x : α) : List (Operation α) :=
  following (A.numeral "0") fun zero => [⟨.sub, zero, x⟩]

/-- The operations of `a % b`. -/
def shareOperations (A : Arithmetic α) (a b : α) : List (Operation α) :=
  ⟨.div, b, A.hundred⟩ :: following (A.hundredth b) fun part => [⟨.mul, a, part⟩]

/-- The operations of `x %`. -/
def percentOperations (A : Arithmetic α) (left : Option (BinOp × α)) (x : α) :
    List (Operation α) :=
  ⟨.div, x, A.hundred⟩ :: following (A.hundredth x) fun part =>
    match left with
    | some (.add, a) | some (.sub, a) => [⟨.mul, a, part⟩]
    | _ => []

end Arithmetic

namespace Phrase

open Arithmetic

variable {α β : Type} {k : Tier} {n : Next}

/-- The operations performed for a phrase, in order. -/
def operations {α : Type} (A : Arithmetic α) {k : Tier} {n : Next} (left : Option (BinOp × α)) :
    Phrase k n → List (Operation α)
  | numeral _ => []
  | group e => e.operations A none
  | ofAtom a => a.operations A left
  | negation u => u.operations A none ++ following (u.meaning A none) A.negateOperations
  | ofSigned u => u.operations A left
  | share q u =>
    q.operations A left ++ following (q.meaning A left) fun a =>
      u.operations A none ++ following (u.meaning A none) (A.shareOperations a)
  | percent q =>
    q.operations A left ++
      following (q.meaning A left) (A.percentOperations (if q.isNumeral then left else none))
  | ofPercentage q => q.operations A left
  | product o _ l r | sum o _ l r =>
    l.operations A left ++ following (l.meaning A left) fun a =>
      r.operations A (some (o, a)) ++ following (r.meaning A (some (o, a))) fun b => [⟨o, a, b⟩]
  | ofProduct t => t.operations A left

end Phrase

/-! ### Failures -/

namespace Arithmetic

variable {α β : Type} {A : Arithmetic α} {f : Failure}

/-- `r` fails with `f` exactly if one of `ops` does. -/
def FailsBy (A : Arithmetic α) (f : Failure) (r : Except Failure α) (ops : List (Operation α)) :
    Prop :=
  r = .error f ↔ ∃ x ∈ ops, A.perform x = .error f

theorem failsBy_ok (a : α) : A.FailsBy f (.ok a) [] := by simp [FailsBy]

theorem failsBy_apply (o : BinOp) (a b : α) : A.FailsBy f (A.apply o a b) [⟨o, a, b⟩] := by
  simp [FailsBy, perform]

/-- A computation fails by its first step, or by the rest of it if there is a value to go on with. -/
theorem FailsBy.bind {r : Except Failure α} {k : α → Except Failure α} {ops : List (Operation α)}
    {l : α → List (Operation α)} (hr : A.FailsBy f r ops) (hk : ∀ a, A.FailsBy f (k a) (l a)) :
    A.FailsBy f (r >>= k) (ops ++ following r l) := by
  cases r with
  | error f' =>
    refine ⟨fun h => ?_, fun ⟨x, hx, hf⟩ => ?_⟩
    · obtain ⟨x, hx, hf⟩ := hr.mp h
      exact ⟨x, List.mem_append_left _ hx, hf⟩
    · exact hr.mpr ⟨x, by simpa [following] using hx, hf⟩
  | ok a =>
    -- no operation failed before the value was there
    have hno : ¬ ∃ x ∈ ops, A.perform x = .error f := fun h => by simpa using hr.mpr h
    refine ⟨fun h => ?_, fun ⟨x, hx, hf⟩ => ?_⟩
    · obtain ⟨x, hx, hf⟩ := (hk a).mp h
      exact ⟨x, List.mem_append_right _ hx, hf⟩
    · rcases List.mem_append.mp hx with hx | hx
      · exact absurd ⟨x, hx, hf⟩ hno
      · exact (hk a).mpr ⟨x, hx, hf⟩

theorem failsBy_negate (hz : ∃ zero, A.numeral "0" = .ok zero) (x : α) :
    A.FailsBy f (A.negate x) (A.negateOperations x) := by
  obtain ⟨zero, hz⟩ := hz
  rw [negate, negateOperations, hz]
  exact failsBy_apply ..

theorem failsBy_share (a b : α) : A.FailsBy f (A.share a b) (A.shareOperations a b) :=
  (failsBy_apply .div b A.hundred).bind fun part => failsBy_apply .mul a part

theorem failsBy_percent (left : Option (BinOp × α)) (x : α) :
    A.FailsBy f (A.percent left x) (A.percentOperations left x) := by
  refine (failsBy_apply .div x A.hundred).bind fun part => ?_
  rcases left with _ | ⟨o, a⟩
  · exact failsBy_ok part
  · cases o with
    | add | sub => exact failsBy_apply .mul a part
    | mul | div => exact failsBy_ok part

end Arithmetic

namespace Phrase

open Arithmetic

variable {α β : Type} {k : Tier} {n : Next}

/-- **A phrase fails as one of its operations does**, where every numeral has a value. -/
theorem meaning_eq_error_iff {A : Arithmetic α} {f : Failure} (t : Phrase k n)
    (hz : ∃ zero, A.numeral "0" = .ok zero)
    (hn : ∀ text, .number text ∈ t.tokens → ∃ a, A.numeral text = .ok a)
    (left : Option (BinOp × α)) :
    A.FailsBy f (t.meaning A left) (t.operations A left) := by
  induction t generalizing left with
  | numeral text =>
    obtain ⟨a, ha⟩ := hn text (by simp [tokens])
    rw [meaning, ha]
    exact failsBy_ok a
  | group e ih => exact ih (fun text h => hn text (by simp [tokens, h])) none
  | ofAtom _ ih | ofSigned _ ih | ofPercentage _ ih | ofProduct _ ih => exact ih hn left
  | negation u ih =>
    exact (ih (fun text h => hn text (by simp [tokens, h])) none).bind (failsBy_negate hz)
  | share q u ihq ihu =>
    refine (ihq (fun text h => hn text (by simp [tokens, h])) left).bind fun a => ?_
    exact (ihu (fun text h => hn text (by simp [tokens, h])) none).bind (failsBy_share a)
  | percent q ih =>
    exact (ih (fun text h => hn text (by simp [tokens, h])) left).bind (failsBy_percent _)
  | product o ho l r ihl ihr | sum o ho l r ihl ihr =>
    refine (ihl (fun text h => hn text (by simp [tokens, h])) left).bind fun a => ?_
    exact (ihr (fun text h => hn text (by simp [tokens, h])) _).bind (failsBy_apply o a)

end Phrase

/-! ### Maps of numbers -/

namespace Arithmetic

variable {α β : Type} {A : Arithmetic α} {B : Arithmetic β} {f : α → β}

/-- If `f` commutes with the operations `ops`, it takes the result `r` to the result `s`. -/
def MapsBy (f : α → β) (A : Arithmetic α) (B : Arithmetic β) (r : Except Failure α)
    (s : Except Failure β) (ops : List (Operation α)) : Prop :=
  (∀ x ∈ ops, f <$> A.perform x = B.perform (x.map f)) → f <$> r = s

theorem mapsBy_ok (a : α) : MapsBy f A B (.ok a) (.ok (f a)) [] := fun _ => rfl

theorem mapsBy_apply (o : BinOp) (a b : α) :
    MapsBy f A B (A.apply o a b) (B.apply o (f a) (f b)) [⟨o, a, b⟩] :=
  fun h => h _ (List.mem_singleton_self _)

theorem MapsBy.bind {r : Except Failure α} {s : Except Failure β} {k : α → Except Failure α}
    {k' : β → Except Failure β} {ops : List (Operation α)} {l : α → List (Operation α)}
    (hr : MapsBy f A B r s ops) (hk : ∀ a, MapsBy f A B (k a) (k' (f a)) (l a)) :
    MapsBy f A B (r >>= k) (s >>= k') (ops ++ following r l) := by
  intro h
  obtain rfl := hr fun x hx => h x (List.mem_append_left _ hx)
  cases r with
  | error f' => rfl
  | ok a => exact hk a fun x hx => h x (List.mem_append_right _ hx)

theorem mapsBy_hundredth (hh : f A.hundred = B.hundred) (x : α) :
    MapsBy f A B (A.hundredth x) (B.hundredth (f x)) [⟨.div, x, A.hundred⟩] := by
  rw [hundredth, hundredth, ← hh]
  exact mapsBy_apply .div x A.hundred

theorem mapsBy_negate (hz : f <$> A.numeral "0" = B.numeral "0") (x : α) :
    MapsBy f A B (A.negate x) (B.negate (f x)) (A.negateOperations x) := by
  have hzero : MapsBy f A B (A.numeral "0") (B.numeral "0") [] := fun _ => hz
  exact hzero.bind fun zero => mapsBy_apply .sub zero x

theorem mapsBy_share (hh : f A.hundred = B.hundred) (a b : α) :
    MapsBy f A B (A.share a b) (B.share (f a) (f b)) (A.shareOperations a b) :=
  (mapsBy_hundredth hh b).bind fun part => mapsBy_apply .mul a part

theorem mapsBy_percent (hh : f A.hundred = B.hundred) (left : Option (BinOp × α)) (x : α) :
    MapsBy f A B (A.percent left x) (B.percent (left.map (Prod.map id f)) (f x))
      (A.percentOperations left x) := by
  refine (mapsBy_hundredth hh x).bind fun part => ?_
  rcases left with _ | ⟨o, a⟩
  · exact mapsBy_ok part
  · cases o with
    | add | sub => exact mapsBy_apply .mul a part
    | mul | div => exact mapsBy_ok part

end Arithmetic

namespace Phrase

open Arithmetic

variable {α β : Type} {k : Tier} {n : Next}

/-- **Arithmetics are compared operation by operation.**  A map of numbers that agrees with the numerals and commutes with every operation performed takes the meaning to the meaning. -/
theorem map_meaning {A : Arithmetic α} {B : Arithmetic β} {f : α → β} (t : Phrase k n)
    (hz : f <$> A.numeral "0" = B.numeral "0") (hh : f A.hundred = B.hundred)
    (hn : ∀ text, .number text ∈ t.tokens → f <$> A.numeral text = B.numeral text)
    (left : Option (BinOp × α)) :
    MapsBy f A B (t.meaning A left) (t.meaning B (left.map (Prod.map id f)))
      (t.operations A left) := by
  induction t generalizing left with
  | numeral text => exact fun _ => hn text (by simp [tokens])
  | group e ih => exact ih (fun text h => hn text (by simp [tokens, h])) none
  | ofAtom _ ih | ofSigned _ ih | ofPercentage _ ih | ofProduct _ ih => exact ih hn left
  | negation u ih =>
    exact (ih (fun text h => hn text (by simp [tokens, h])) none).bind (mapsBy_negate hz)
  | share q u ihq ihu =>
    refine (ihq (fun text h => hn text (by simp [tokens, h])) left).bind fun a => ?_
    exact (ihu (fun text h => hn text (by simp [tokens, h])) none).bind (mapsBy_share hh a)
  | percent q ih =>
    refine (ih (fun text h => hn text (by simp [tokens, h])) left).bind fun x => ?_
    -- the left operand is passed on only where the percent sign looks at it
    have h := mapsBy_percent (A := A) hh (if q.isNumeral then left else none) x
    rwa [apply_ite (Option.map _)] at h
  | product o ho l r ihl ihr | sum o ho l r ihl ihr =>
    refine (ihl (fun text h => hn text (by simp [tokens, h])) left).bind fun a => ?_
    exact (ihr (fun text h => hn text (by simp [tokens, h])) (some (o, a))).bind
      fun b => mapsBy_apply o a b

end Phrase

end Reckoner
