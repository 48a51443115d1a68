/-
# Texts in the order of their bytes

Texts are compared character by character, and characters by their numbers.  Machines compare the
bytes of the UTF-8 forms instead.  Both come to the same: the form of a smaller character has a
smaller byte where the two forms first differ, and there is such a place, because no form begins
with another one.

* `utf8EncodeChar_lt`: of two characters, the smaller one has the smaller bytes, whatever follows;
* `lt_iff_utf8_lt`: texts stand in the order of their bytes.
-/
import Mathlib.Data.List.Lex
import SinglePage.KeyOrder

namespace SinglePage.Text

/-! ## 1. Bytes -/

theorem ofNat_lt_ofNat {n m : Nat} (lt : n < m) (small : m < 256) :
    UInt8.ofNat n < UInt8.ofNat m := by
  have size : UInt8.size = 256 := rfl
  rw [UInt8.lt_iff_toNat_lt, UInt8.toNat_ofNat_of_lt' (by omega), UInt8.toNat_ofNat_of_lt' small]
  exact lt

/-- Smaller bytes come first, and equal ones leave it to those behind them. -/
theorem lex_cons {n m : Nat} {l r : List UInt8} (small : m < 256) (le : n ≤ m)
    (rest : n = m → List.Lex (· < ·) l r) :
    List.Lex (· < ·) (UInt8.ofNat n :: l) (UInt8.ofNat m :: r) := by
  rcases Nat.lt_or_eq_of_le le with lt | rfl
  · exact .rel (ofNat_lt_ofNat lt small)
  · exact .cons (rest rfl)

/-! ## 2. Characters -/

theorem toNat_lt (c : Char) : c.val.toNat < 0x110000 := by
  rcases c.valid with low | high
  · omega
  · exact high.2

/-- **Of two characters, the smaller one has the smaller bytes**, whatever stands behind them. -/
theorem utf8EncodeChar_lt {c d : Char} (lt : c < d) (l r : List UInt8) :
    List.Lex (· < ·) (String.utf8EncodeChar c ++ l) (String.utf8EncodeChar d ++ r) := by
  have order : c.val.toNat < d.val.toNat := lt
  have bound := toNat_lt d
  simp only [String.utf8EncodeChar]
  generalize c.val.toNat = n at order
  generalize d.val.toNat = m at order bound
  -- The first byte tells how many there are; a form with more bytes has a greater one.
  by_cases one : m ≤ 127
  · rw [if_pos one, if_pos (by omega)]
    exact .rel (ofNat_lt_ofNat order (by omega))
  by_cases two : m ≤ 2047
  · rw [if_neg one, if_pos two]
    split
    · exact .rel (ofNat_lt_ofNat (by omega) (by omega))
    · rw [if_pos (by omega)]
      refine lex_cons (by omega) (by omega) fun same => ?_
      exact .rel (ofNat_lt_ofNat (by omega) (by omega))
  by_cases three : m ≤ 65535
  · rw [if_neg one, if_neg two, if_pos three]
    split
    · exact .rel (ofNat_lt_ofNat (by omega) (by omega))
    · split
      · exact .rel (ofNat_lt_ofNat (by omega) (by omega))
      · rw [if_pos (by omega)]
        refine lex_cons (by omega) (by omega) fun same => ?_
        refine lex_cons (by omega) (by omega) fun same' => ?_
        exact .rel (ofNat_lt_ofNat (by omega) (by omega))
  · rw [if_neg one, if_neg two, if_neg three]
    split
    · exact .rel (ofNat_lt_ofNat (by omega) (by omega))
    · split
      · exact .rel (ofNat_lt_ofNat (by omega) (by omega))
      · split
        · exact .rel (ofNat_lt_ofNat (by omega) (by omega))
        · refine lex_cons (by omega) (by omega) fun same => ?_
          refine lex_cons (by omega) (by omega) fun same' => ?_
          refine lex_cons (by omega) (by omega) fun same'' => ?_
          exact .rel (ofNat_lt_ofNat (by omega) (by omega))

/-! ## 3. Texts -/

/-- The bytes of a text in UTF-8. -/
def utf8 (text : String) : List UInt8 := text.toList.flatMap String.utf8EncodeChar

theorem toList_toUTF8 (text : String) : text.toUTF8.data.toList = utf8 text := by
  rw [String.toUTF8_eq_toByteArray, ← String.ofList_toList (s := text), String.toByteArray_ofList,
    utf8, String.toList_ofList, List.utf8Encode, List.toList_data_toByteArray]

theorem lex_utf8 {l r : List Char} (lex : List.Lex (· < ·) l r) :
    List.Lex (· < ·) (l.flatMap String.utf8EncodeChar) (r.flatMap String.utf8EncodeChar) := by
  induction lex with
  | @nil d r =>
    rw [List.flatMap_nil, List.flatMap_cons]
    cases bytes : String.utf8EncodeChar d with
    | nil => exact absurd bytes String.utf8EncodeChar_ne_nil
    | cons byte rest => exact .nil
  | cons _ ih =>
    rw [List.flatMap_cons, List.flatMap_cons]
    exact ih.append_left _ _
  | rel lt =>
    rw [List.flatMap_cons, List.flatMap_cons]
    exact utf8EncodeChar_lt lt _ _

/-- **Texts stand in the order of their bytes.** -/
theorem lt_iff_utf8_lt {s t : String} :
    s < t ↔ s.toUTF8.data.toList < t.toUTF8.data.toList := by
  rw [toList_toUTF8, toList_toUTF8]
  have forth : ∀ {a b : String}, a < b → utf8 a < utf8 b := fun {a b} lt =>
    lex_utf8 (show List.Lex (· < ·) a.toList b.toList from lt)
  constructor
  · exact forth
  · intro lt
    by_contra notLess
    by_cases greater : t < s
    · exact List.lt_asymm lt (forth greater)
    · obtain rfl : s = t := KeyOrder.connected notLess greater
      exact List.lt_irrefl _ lt

end SinglePage.Text
