/-!
# Machine Words

How many numbers a word of some bits holds. The limits of the number types that
the formats know are written in terms of it.

## Main definitions

* `wordSize`: The count.
-/

namespace WikiSync

/-- How many numbers a word of some bits holds. -/
def wordSize (bits : Nat) : Nat :=
  Nat.pow 2 bits

end WikiSync
