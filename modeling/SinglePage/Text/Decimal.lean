/-
# Numbers with fractions

A number can have a sign, a fraction behind a point, and an exponent behind an `e`; either the
digits before the point or those behind it can be missing.  Infinity, and what is no number, have
names.

* `isNumber`: whether a text is a number.
-/

namespace SinglePage.Text

/-- The text without the sign that it begins with. -/
def unsigned : List Char → List Char
  | '+' :: text => text
  | '-' :: text => text
  | text => text

/-- Whether a text is an exponent, or nothing. -/
def isExponent : List Char → Bool
  | [] => true
  | c :: text =>
    let digits := unsigned text
    (c = 'e' || c = 'E') && digits ≠ [] && digits.all Char.isDigit

/-- Whether a text is a number without a sign. -/
def isDecimal (text : List Char) : Bool :=
  let whole := text.takeWhile Char.isDigit
  match text.drop whole.length with
  | '.' :: behind =>
    let fraction := behind.takeWhile Char.isDigit
    (whole ≠ [] || fraction ≠ []) && isExponent (behind.drop fraction.length)
  | behind => whole ≠ [] && isExponent behind

/-- The names of infinity, and of what is no number. -/
def numberNames : List String := ["inf", "infinity", "nan"]

/-- **Whether a text is a number.** -/
def isNumber (text : List Char) : Bool :=
  let body := unsigned text
  isDecimal body || numberNames.contains (String.ofList (body.map Char.toLower))

example : (["5", "+5", "-1.5", "5.", ".5", "1e5", "+2E-3", "+Inf", "NaN"].all fun text =>
    isNumber text.toList) = true := by decide +kernel

example : (["", "+", ".", "e5", "1e", "1e+", "++1", "1.5.2", "0x1"].any fun text =>
    isNumber text.toList) = false := by decide +kernel

end SinglePage.Text
