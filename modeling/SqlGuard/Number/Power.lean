/-!
# Powers of two and of ten

The two bases that numbers are written in here.
-/
namespace SqlGuard

def twoTo (n : Nat) : Nat := Nat.pow 2 n

def tenTo (n : Nat) : Nat := Nat.pow 10 n

end SqlGuard
