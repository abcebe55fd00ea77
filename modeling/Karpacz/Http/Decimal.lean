import Mathlib.Tactic.Ring
import Mathlib.Tactic.IntervalCases
import Mathlib.Data.Nat.Digits

/-!
# Decimal numerals

`format!("{}", n)` and `HeaderValue::from(u64)` print an unsigned integer in decimal,
and `str::parse::<u64>` reads one back. Printing is core's `Nat.toDigits 10`; this file
proves the two facts the log and the headers need of it: the text is made of digits
only, and reading the digits back gives the number.
-/

namespace Karpacz

/-- `format!("{}", n)` for an unsigned integer. -/
def decimal (n : Nat) : List Char := Nat.toDigits 10 n

/-- The number a string of decimal digits denotes. -/
def digitsValue (ds : List Char) : Nat := ds.foldl (fun acc c => acc * 10 + (c.toNat - 48)) 0

/-- `str::parse::<u64>`: an optional `+`, then at least one digit, below `2^64`. -/
def parseU64 (s : String) : Option Nat :=
  let ds := match s.data with
    | '+' :: rest => rest
    | cs => cs
  if (!ds.isEmpty && ds.all Char.isDigit && decide (digitsValue ds < 2 ^ 64)) = true then
    some (digitsValue ds)
  else none

theorem foldl_digitsValue (acc : Nat) (ds : List Char) :
    ds.foldl (fun acc c => acc * 10 + (c.toNat - 48)) acc = acc * 10 ^ ds.length + digitsValue ds := by
  induction ds generalizing acc with
  | nil => simp [digitsValue]
  | cons c cs ih =>
      simp only [digitsValue, List.foldl_cons, List.length_cons] at ih ⊢
      rw [ih, ih (0 * 10 + _)]
      ring

theorem digitsValue_cons (c : Char) (ds : List Char) :
    digitsValue (c :: ds) = (c.toNat - 48) * 10 ^ ds.length + digitsValue ds := by
  simp only [digitsValue, List.foldl_cons, Nat.zero_mul, Nat.zero_add]
  exact foldl_digitsValue _ ds

theorem digitChar_isDigit {d : Nat} (h : d < 10) : (Nat.digitChar d).isDigit = true := by
  interval_cases d <;> rfl

theorem digitChar_value {d : Nat} (h : d < 10) : (Nat.digitChar d).toNat - 48 = d := by
  interval_cases d <;> rfl

theorem toDigitsCore_isDigit : ∀ (fuel n : Nat) (ds : List Char),
    (∀ c ∈ ds, c.isDigit = true) → ∀ c ∈ Nat.toDigitsCore 10 fuel n ds, c.isDigit = true
  | 0, _, _, hds => hds
  | fuel + 1, n, ds, hds => by
      have hd : ∀ c ∈ Nat.digitChar (n % 10) :: ds, c.isDigit = true := by
        simpa [digitChar_isDigit (Nat.mod_lt n (by decide))] using hds
      simp only [Nat.toDigitsCore]
      split
      · exact hd
      · exact toDigitsCore_isDigit fuel _ _ hd

theorem toDigitsCore_value : ∀ (fuel n : Nat) (ds : List Char), n < fuel →
    digitsValue (Nat.toDigitsCore 10 fuel n ds) = n * 10 ^ ds.length + digitsValue ds
  | 0, _, _, h => absurd h (Nat.not_lt_zero _)
  | fuel + 1, n, ds, h => by
      have hd := digitChar_value (Nat.mod_lt n (show 10 > 0 by decide))
      simp only [Nat.toDigitsCore]
      split
      · rename_i h0
        rw [digitsValue_cons, hd, Nat.mod_eq_of_lt (by omega)]
      · rw [toDigitsCore_value fuel _ _ (by omega), digitsValue_cons, hd, List.length_cons,
          Nat.pow_succ]
        have := Nat.div_add_mod n 10
        calc n / 10 * (10 ^ ds.length * 10) + (n % 10 * 10 ^ ds.length + digitsValue ds)
            = (10 * (n / 10) + n % 10) * 10 ^ ds.length + digitsValue ds := by ring
          _ = n * 10 ^ ds.length + digitsValue ds := by rw [this]

theorem decimal_isDigit (n : Nat) : ∀ c ∈ decimal n, c.isDigit = true :=
  toDigitsCore_isDigit _ n [] (by simp)

@[simp] theorem digitsValue_decimal (n : Nat) : digitsValue (decimal n) = n := by
  simpa [digitsValue] using toDigitsCore_value (n + 1) n [] (Nat.lt_succ_self n)

end Karpacz
