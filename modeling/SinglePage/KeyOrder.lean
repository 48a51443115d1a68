/-
# Orders for keys

A map in key order needs keys that can be put in order in one way only.  Texts are such keys,
ordered by their code points, which is also the order of their UTF-8 bytes.
-/

namespace SinglePage

/-- **An order that keys can be kept in**: no key comes before itself, the order is transitive,
and of two different keys one comes before the other. -/
class KeyOrder (κ : Type) [LT κ] : Prop where
  irrefl : ∀ a : κ, ¬ a < a
  trans : ∀ {a b c : κ}, a < b → b < c → a < c
  connected : ∀ {a b : κ}, ¬ a < b → ¬ b < a → a = b

instance : KeyOrder String where
  irrefl := String.lt_irrefl
  trans := String.lt_trans
  connected nab nba := String.le_antisymm (String.not_lt.mp nba) (String.not_lt.mp nab)

end SinglePage
