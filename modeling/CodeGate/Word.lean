/-!
# Words

Integers of 64 bits, with a sign and without one.
-/

namespace CodeGate.Word

/-- How many values a word has. -/
def count : Nat := 0x10000000000000000

/-- How many values of a word with a sign are below zero. -/
def half : Nat := 0x8000000000000000

/-- Whether an integer is the value of a word with a sign. -/
def fitsSigned (n : Int) : Bool := -half ≤ n && n < half

end CodeGate.Word
