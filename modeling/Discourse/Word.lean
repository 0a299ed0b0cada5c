/-!
# Integers of 64 bits

A store numbers its sessions, and a text gives its times, with integers of 64 bits, one of them for
the sign.

* `isWord`: whether an integer has room in so many bits.
-/

namespace Discourse

/-- The least positive integer that has no room in 64 bits. -/
def wordBound : Nat := Nat.pow 2 63

/-- Whether an integer has room in 64 bits. -/
def isWord (n : Int) : Bool := -wordBound ≤ n && n < wordBound

end Discourse
