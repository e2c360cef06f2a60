/-!
# Powers of two and ten

The powers that binary and decimal scales are made of.
-/

namespace RecordRules

/-- A power of two. -/
def twoTo (n : Nat) : Nat := Nat.pow 2 n

/-- A power of ten. -/
def tenTo (n : Nat) : Nat := Nat.pow 10 n

end RecordRules
