/-
# Numbers in decimal

Timestamps write their numbers in decimal with leading zeros, always in the same number of
digits.  `digits` writes such a number and `number?` reads one; `natural?` reads a number of any
width.  Only the ASCII digits count.

* `number?_digits`: what was written is read back, whatever stands behind it;
* `eq_digits_of_number?`: nothing else is read.
-/

namespace SinglePage.Text

/-- How many numbers there are of at most `width` digits: 1, 10, 100 and so on. -/
def tenTo : Nat → Nat
  | 0 => 1
  | width + 1 => tenTo width * 10

/-- The last `width` decimal digits of a number, with leading zeros. -/
def digits : Nat → Nat → List Char
  | 0, _ => []
  | width + 1, n => digits width (n / 10) ++ [Nat.digitChar (n % 10)]

/-- The value of a digit. -/
def digit? (c : Char) : Option Nat :=
  if c.isDigit then some (c.toNat - '0'.toNat) else none

/-- The number that a text of one or more digits stands for. -/
def natural? (text : List Char) : Option Nat :=
  if text = [] then none
  else text.foldlM (fun read c => (digit? c).map fun d => read * 10 + d) 0

/-- Reads exactly `width` digits behind a number `read` that was read already; what follows
the digits is returned with the number. -/
def numberFrom? : Nat → Nat → List Char → Option (Nat × List Char)
  | 0, read, text => some (read, text)
  | width + 1, read, c :: text =>
    match digit? c with
    | some d => numberFrom? width (read * 10 + d) text
    | none => none
  | _ + 1, _, [] => none

/-- Reads a number of exactly `width` digits at the beginning of a text. -/
def number? (width : Nat) (text : List Char) : Option (Nat × List Char) :=
  numberFrom? width 0 text

/-- Reads the character `c` at the beginning of a text. -/
def expect? (c : Char) : List Char → Option (List Char)
  | d :: text => if d = c then some text else none
  | [] => none

theorem expect?_self (c : Char) (rest : List Char) : expect? c (c :: rest) = some rest := by
  simp [expect?]

theorem expect?_eq_some {c : Char} {text rest : List Char}
    (h : expect? c text = some rest) : text = c :: rest := by
  cases text with
  | nil => simp [expect?] at h
  | cons d text =>
    simp only [expect?] at h
    split at h
    · rename_i eq
      rw [eq, Option.some.inj h]
    · exact absurd h (by simp)

theorem digit?_digitChar {d : Nat} (h : d < 10) : digit? (Nat.digitChar d) = some d := by
  have all : ∀ e ∈ List.range 10, digit? (Nat.digitChar e) = some e := by decide
  exact all d (List.mem_range.mpr h)

theorem digit?_eq_some {c : Char} {d : Nat} (h : digit? c = some d) :
    d < 10 ∧ c = Nat.digitChar d := by
  unfold digit? at h
  split at h
  · rename_i isDigit
    obtain rfl := Option.some.inj h
    have low : 48 ≤ c.toNat ∧ c.toNat ≤ 57 := by
      simp only [Char.isDigit, Bool.and_eq_true, decide_eq_true_eq] at isDigit
      exact ⟨UInt32.le_iff_toNat_le.mp isDigit.1, UInt32.le_iff_toNat_le.mp isDigit.2⟩
    have all : ∀ n ∈ List.range 58, 48 ≤ n →
        n - '0'.toNat < 10 ∧ Char.ofNat n = Nat.digitChar (n - '0'.toNat) := by decide
    have := all c.toNat (List.mem_range.mpr (by omega)) low.1
    rwa [Char.ofNat_toNat] at this
  · exact absurd h (by simp)

@[simp] theorem length_digits (width n : Nat) : (digits width n).length = width := by
  induction width generalizing n with
  | zero => rfl
  | succ width ih => simp [digits, ih]

theorem numberFrom?_append {width more read : Nat} {text rest : List Char} {n : Nat}
    (h : numberFrom? width read text = some (n, rest)) :
    numberFrom? (width + more) read text = numberFrom? more n rest := by
  induction width generalizing read text with
  | zero =>
    obtain ⟨rfl, rfl⟩ := Prod.mk.inj (Option.some.inj h)
    rw [Nat.zero_add]
  | succ width ih =>
    cases text with
    | nil => exact absurd h (by simp [numberFrom?])
    | cons c text =>
      rw [Nat.add_right_comm]
      simp only [numberFrom?] at h ⊢
      cases hc : digit? c with
      | none => exact absurd h (by simp [hc])
      | some d =>
        rw [hc] at h
        exact ih h

theorem numberFrom?_digits (width n read : Nat) (rest : List Char) (h : n < tenTo width) :
    numberFrom? width read (digits width n ++ rest) = some (read * tenTo width + n, rest) := by
  induction width generalizing n rest with
  | zero =>
    obtain rfl : n = 0 := by
      rw [tenTo] at h
      omega
    simp [numberFrom?, digits, tenTo]
  | succ width ih =>
    have small : n / 10 < tenTo width := by
      rw [tenTo] at h
      exact Nat.div_lt_of_lt_mul (by rwa [Nat.mul_comm] at h)
    rw [digits, List.append_assoc, numberFrom?_append (ih (n / 10) _ small)]
    simp only [List.cons_append, List.nil_append, numberFrom?,
      digit?_digitChar (Nat.mod_lt n (by decide))]
    rw [tenTo, Nat.add_mul, Nat.mul_assoc]
    have := Nat.div_add_mod n 10
    congr 2
    omega

/-- **What was written is read back.** -/
theorem number?_digits {width n : Nat} (h : n < tenTo width) (rest : List Char) :
    number? width (digits width n ++ rest) = some (n, rest) := by
  rw [number?, numberFrom?_digits width n 0 rest h]
  simp

theorem eq_digits_of_numberFrom? {width read : Nat} {text : List Char} {n : Nat}
    {rest : List Char} (h : numberFrom? width read text = some (n, rest)) :
    ∃ m, m < tenTo width ∧ n = read * tenTo width + m ∧ text = digits width m ++ rest := by
  induction width generalizing read text n rest with
  | zero =>
    obtain ⟨rfl, rfl⟩ := Prod.mk.inj (Option.some.inj h)
    exact ⟨0, by simp [tenTo], by simp [tenTo], by simp [digits]⟩
  | succ width ih =>
    cases whole : numberFrom? width read text with
    | none =>
      exfalso
      clear ih
      induction width generalizing read text with
      | zero => simp [numberFrom?] at whole
      | succ width ihw =>
        cases text with
        | nil => simp [numberFrom?] at h
        | cons c text =>
          simp only [numberFrom?] at h whole
          cases hc : digit? c with
          | none => simp [hc] at h
          | some d =>
            rw [hc] at h whole
            exact ihw h whole
    | some found =>
      obtain ⟨k, behind⟩ := found
      obtain ⟨m, small, rfl, rfl⟩ := ih whole
      rw [numberFrom?_append whole] at h
      cases behind with
      | nil => simp [numberFrom?] at h
      | cons c behind =>
        simp only [numberFrom?] at h
        cases hc : digit? c with
        | none => simp [hc] at h
        | some d =>
          rw [hc] at h
          obtain ⟨rfl, rfl⟩ := Prod.mk.inj (Option.some.inj h)
          obtain ⟨ten, rfl⟩ := digit?_eq_some hc
          refine ⟨m * 10 + d, ?_, ?_, ?_⟩
          · rw [tenTo]
            omega
          · rw [tenTo, Nat.add_mul, Nat.mul_assoc, Nat.add_assoc]
          · rw [digits]
            simp [Nat.add_comm (m * 10), Nat.add_mul_div_right,
              Nat.div_eq_of_lt ten, Nat.mod_eq_of_lt ten]

/-- **Nothing but the digits of a number is read.** -/
theorem eq_digits_of_number? {width n : Nat} {text rest : List Char}
    (h : number? width text = some (n, rest)) :
    n < tenTo width ∧ text = digits width n ++ rest := by
  obtain ⟨m, small, eq, whole⟩ := eq_digits_of_numberFrom? h
  obtain rfl : n = m := by simpa using eq
  exact ⟨small, whole⟩

end SinglePage.Text
