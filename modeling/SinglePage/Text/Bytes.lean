/-
# Lengths in bytes

Places in a text are counted in the bytes of its UTF-8 form.  `byteLength` is that count for a
list of characters; it adds up over appending (`byteLength_append`), and on the characters of a
string it is the size of the string (`byteLength_toList`).

* `slice?_append`: what stands between two places is cut out.
-/

namespace SinglePage.Text

/-- The number of bytes that a text takes in UTF-8. -/
def byteLength : List Char → Nat
  | [] => 0
  | c :: text => c.utf8Size + byteLength text

@[simp] theorem byteLength_nil : byteLength [] = 0 := rfl

@[simp] theorem byteLength_cons (c : Char) (text : List Char) :
    byteLength (c :: text) = c.utf8Size + byteLength text := rfl

@[simp] theorem byteLength_append (l r : List Char) :
    byteLength (l ++ r) = byteLength l + byteLength r := by
  induction l with
  | nil => simp
  | cons c l ih => rw [List.cons_append, byteLength_cons, byteLength_cons, ih, Nat.add_assoc]

theorem byteLength_eq_size (text : List Char) :
    (String.ofList text).utf8ByteSize = byteLength text := by
  induction text with
  | nil => rfl
  | cons c text ih =>
    have split : String.ofList (c :: text) = String.singleton c ++ String.ofList text :=
      String.toList_injective (by simp)
    rw [split, String.utf8ByteSize_append, String.utf8ByteSize_singleton, ih, byteLength_cons]

theorem byteLength_toList (s : String) : byteLength s.toList = s.utf8ByteSize := by
  rw [← byteLength_eq_size, String.ofList_toList]

/-! ## Cutting at bytes -/

/-- The text behind its first `count` bytes, if they are whole characters. -/
def dropBytes? : Nat → List Char → Option (List Char)
  | 0, text => some text
  | _ + 1, [] => none
  | count + 1, c :: text =>
    if c.utf8Size ≤ count + 1 then dropBytes? (count + 1 - c.utf8Size) text else none

/-- The text from byte `start` to byte `stop`, if no character is cut. -/
def slice? (text : List Char) (start stop : Nat) : Option (List Char) := do
  let behind ← dropBytes? start text
  let after ← dropBytes? (stop - start) behind
  return behind.take (behind.length - after.length)

theorem dropBytes?_append (l r : List Char) : dropBytes? (byteLength l) (l ++ r) = some r := by
  induction l with
  | nil => simp [dropBytes?]
  | cons c l ih =>
    obtain ⟨n, eq⟩ : ∃ n, byteLength (c :: l) = n + 1 :=
      ⟨byteLength (c :: l) - 1, by have := c.utf8Size_pos; rw [byteLength_cons]; omega⟩
    have size : c.utf8Size + byteLength l = n + 1 := eq
    rw [eq, List.cons_append, dropBytes?, if_pos (by omega), ← size, Nat.add_sub_cancel_left, ih]

/-- **What stands between two places is cut out.** -/
theorem slice?_append (l m r : List Char) :
    slice? (l ++ (m ++ r)) (byteLength l) (byteLength (l ++ m)) = some m := by
  have rest := dropBytes?_append m r
  simp only [slice?, dropBytes?_append, byteLength_append, Nat.add_sub_cancel_left, rest, bind,
    Option.bind_some, pure, List.length_append, Nat.add_sub_cancel, List.take_left]

end SinglePage.Text
