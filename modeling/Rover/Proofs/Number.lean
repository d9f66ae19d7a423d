import Rover.Value.Arith

/-!
# Numbers

A value that equals a whole number compares with whole numbers as that number does, whatever kind of
number it is; and zero times a finite double is zero.
-/

namespace Rover

open Num

theorem eq_ok_of_bind {ε α β : Type} {e : Except ε α} {f : α → Except ε β} {b : β}
    (h : (e >>= f) = .ok b) : ∃ a, e = .ok a ∧ f a = .ok b := by
  cases e with
  | error f => cases h
  | ok a => exact ⟨a, rfl, h⟩

theorem eq_ok_of_toOption {α : Type} {e : Result α} {a : α} (h : e.toOption = some a) :
    e = .ok a := by
  cases e with
  | error f => cases h
  | ok b => exact congrArg _ (Option.some.inj h)

theorem exists_ok_of_isOk {ε α : Type} {e : Except ε α} (h : e.isOk) : ∃ a, e = .ok a := by
  cases e with
  | error f => cases h
  | ok a => exact ⟨a, rfl⟩

theorem twoPow_pos (n : Nat) : 0 < twoPow n := Nat.pow_pos (by decide)

theorem twoPow_add (m n : Nat) : twoPow (m + n) = twoPow m * twoPow n := Nat.pow_add ..

theorem twoPow_le_twoPow {m n : Nat} (h : m ≤ n) : twoPow m ≤ twoPow n :=
  Nat.pow_le_pow_right (by decide) h

theorem twoPow_le_tenPow (n : Nat) : twoPow n ≤ tenPow n := Nat.pow_le_pow_left (by decide) n

theorem Binary.fraction_den_pos (b : Binary) : 0 < b.fraction.2 := by
  unfold Binary.fraction
  split
  · exact Nat.one_pos
  · exact twoPow_pos _

theorem compare_mul_right {d : Int} (hd : 0 < d) (m n : Int) :
    compare (m * d) (n * d) = compare m n := by
  have hlt := Int.mul_lt_mul_right (b := m) (c := n) hd
  have heq : m * d = n * d ↔ m = n := ⟨Int.eq_of_mul_eq_mul_right (by omega), fun h => by rw [h]⟩
  simp only [compare, compareOfLessAndEq, hlt, heq]

theorem compareInt_of_eq {k : Int} {x : Float} (h : compareInt k x = some .eq) (n : Int) :
    compareInt n x = some (compare n k) := by
  unfold compareInt at h ⊢
  cases hx : Binary.ofFloat? x with
  | none =>
    rw [hx] at h
    simp only at h
    split at h
    · cases h
    · split at h <;> cases h
  | some b =>
    rw [hx] at h
    simp only [Option.some.injEq, Int.compare_eq_eq] at h ⊢
    rw [← h, compare_mul_right (Int.natCast_pos.mpr b.fraction_den_pos)]

namespace Num

variable {x : Num} {k : Int}

theorem same_int_of_same (h : x.same (.int k)) (n : Int) : x.same (.int n) = decide (k = n) := by
  rw [Bool.eq_iff_iff]
  cases x with
  | int m =>
    have hm : m = k := by simpa [same] using h
    simp [same, hm]
  | float y =>
    have hy : compareInt k y = some .eq := by simpa [same] using h
    simp [same, compareInt_of_eq hy n]
    exact eq_comm

theorem int_less_of_same (h : x.same (.int k)) (n : Int) :
    Num.less (.int n) x = decide (n < k) := by
  rw [Bool.eq_iff_iff]
  cases x with
  | int m =>
    have hm : m = k := by simpa [same] using h
    simp [Num.less, hm]
  | float y =>
    have hy : compareInt k y = some .eq := by simpa [same] using h
    simp [Num.less, compareInt_of_eq hy n, Int.compare_eq_lt]

end Num

namespace Value

variable {v : Value} {k n : Int}

theorem same_int (v : Value) (k : Int) : v.same (.int k) = match v.num? with
      | some x => x.same (.int k)
      | Option.none => false := by
  cases v <;> simp [Value.same, num?]

theorem greater_int (v : Value) (k : Int) : v.greater (.int k) = match v.num? with
      | some x => .ok (Num.less (.int k) x)
      | Option.none => .error (.order ">" v.className "int") := by
  cases v <;> simp [greater, compare, num?, Relation.ofNums, Relation.sign, className]

theorem less_int (v : Value) (k : Int) : v.less (.int k) = match v.num? with
      | some x => .ok (x.less (.int k))
      | Option.none => .error (.order "<" v.className "int") := by
  cases v <;> simp [less, compare, num?, Relation.ofNums, Relation.sign, className]

theorem int_less_int (m n : Int) : less (.int m) (.int n) = .ok (decide (m < n)) := rfl

theorem int_greater_int (m n : Int) : greater (.int m) (.int n) = .ok (decide (n < m)) := rfl

theorem int_same_int (m n : Int) : same (.int m) (.int n) = decide (m = n) := by
  rw [same_int]
  rfl

theorem same_int_of_same (h : v.same (.int k)) (n : Int) : v.same (.int n) = decide (k = n) := by
  rw [same_int] at h ⊢
  cases hv : v.num? with
  | none => simp [hv] at h
  | some x =>
    rw [hv] at h
    exact Num.same_int_of_same h n

theorem greater_int_of_same (h : v.same (.int k)) (n : Int) :
    v.greater (.int n) = .ok (decide (n < k)) := by
  rw [same_int] at h
  rw [greater_int]
  cases hv : v.num? with
  | none => simp [hv] at h
  | some x =>
    rw [hv] at h
    exact congrArg Except.ok (int_less_of_same h n)

theorem cases_of_test {test : Result Bool} {a b w : Value}
    (h : (do if ← test then return a else return b) = .ok w) :
    test = .ok true ∧ w = a ∨ test = .ok false ∧ w = b := by
  cases test with
  | error f => cases h
  | ok c =>
    cases c with
    | true =>
      cases h
      exact .inl ⟨rfl, rfl⟩
    | false =>
      cases h
      exact .inr ⟨rfl, rfl⟩

theorem num?_of_integer? (h : v.integer? = some n) : v.num? = some (.int n) := by
  cases v <;> simp_all [integer?, num?]

theorem less_of_integer? (h : v.integer? = some n) (k : Int) :
    v.less (.int k) = .ok (decide (n < k)) := by
  rw [less_int, num?_of_integer? h]
  rfl

theorem greater_of_integer? (h : v.integer? = some n) (k : Int) :
    v.greater (.int k) = .ok (decide (k < n)) := by
  rw [greater_int, num?_of_integer? h]
  rfl

theorem same_of_integer? (h : v.integer? = some n) (k : Int) :
    v.same (.int k) = decide (n = k) := by
  rw [same_int, num?_of_integer? h]
  rfl

theorem same_str_iff (v : Value) (t : String) : v.same (.str t) ↔ v = .str t := by
  cases v <;> simp [Value.same, num?]

theorem toFloat_int (h : (nearestInt n).isInf = false) :
    (Num.int n).toFloat = .ok (nearestInt n) := by
  simp only [Num.toFloat]
  rw [h]
  rfl

section
variable {n : Int} (h : (nearestInt n).isInf = false) (x : Float)
include h

theorem lift_float_int (f : Int → Int → Int) (g : Float → Float → Float) :
    (lift f g (.float x) (.int n)).map Num.toValue = .ok (.float (g x (nearestInt n))) := by
  change (do return Num.float (g (← Except.ok x) (← (Num.int n).toFloat))).map Num.toValue = _
  rw [toFloat_int h]
  rfl

theorem int_mul_float : mul (.int n) (.float x) = .ok (.float (nearestInt n * x)) := by
  change (do return Num.float ((← (Num.int n).toFloat) * (← Except.ok x))).map Num.toValue = _
  rw [toFloat_int h]
  rfl

theorem float_mul_int : mul (.float x) (.int n) = .ok (.float (x * nearestInt n)) :=
  lift_float_int h x _ _

theorem float_add_int : add (.float x) (.int n) = .ok (.float (x + nearestInt n)) :=
  lift_float_int h x _ _

theorem float_sub_int : sub (.float x) (.int n) = .ok (.float (x - nearestInt n)) :=
  lift_float_int h x _ _

theorem int_div_float {x : Float} (h0 : (x == 0) = false) :
    div (.int n) (.float x) = .ok (.float (nearestInt n / x)) := by
  change (do
    let y ← (Num.int n).toFloat
    if x == 0 then .error .floatDivisionByZero else .ok (Num.float (y / x))).map Num.toValue = _
  rw [toFloat_int h]
  simp only [bind, Except.bind, h0]
  rfl

theorem float_div_int (h0 : (nearestInt n == 0) = false) :
    div (.float x) (.int n) = .ok (.float (x / nearestInt n)) := by
  change (do
    let y ← (Num.int n).toFloat
    if y == 0 then .error .floatDivisionByZero else .ok (Num.float (x / y))).map Num.toValue = _
  rw [toFloat_int h]
  simp only [bind, Except.bind, h0]
  rfl

end

theorem toInteger_float {x : Float} {n : Int}
    (h : (Binary.ofFloat? x).map Binary.truncate = some n) : toInteger (.float x) = .ok n := by
  obtain ⟨b, hb, rfl⟩ := Option.map_eq_some_iff.mp h
  change truncate (.float x) = _
  simp only [truncate, hb]

end Value

end Rover
