/-!
# Shapes of texts

A shape describes texts by the ways in which it can match the start of one: `shape s` lists what is
left of `s` after each of them. `Shape.fits` asks for a way that leaves nothing.
-/

namespace RecordRules.Text

/-- What is left of a text after each way of matching its start. -/
abbrev Shape := List Char → List (List Char)

namespace Shape

/-- One character with a property. -/
def one (p : Char → Bool) : Shape
  | [] => []
  | c :: rest => if p c then [rest] else []

/-- One shape after another. -/
def andThen (a b : Shape) : Shape := fun s => (a s).flatMap b

/-- The shape or nothing. -/
def opt (a : Shape) : Shape := fun s => s :: a s

/-- The shape a number of times. -/
def times (n : Nat) (a : Shape) : Shape :=
  match n with
  | 0 => fun s => [s]
  | n + 1 => a.andThen (times n a)

/-- The shape at most a number of times. -/
def upTo (n : Nat) (a : Shape) : Shape :=
  match n with
  | 0 => fun s => [s]
  | n + 1 => opt (a.andThen (upTo n a))

/-- Shapes in sequence. -/
def all (shapes : List Shape) : Shape := shapes.foldr andThen fun s => [s]

/-- The whole text has the shape. -/
def fits (a : Shape) (s : List Char) : Bool := (a s).any List.isEmpty

end Shape

end RecordRules.Text
