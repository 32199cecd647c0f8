/-! # 64-bit words

Heights, counts and spans of time are natural numbers below a common bound. Sums that would reach it
stop short of it.
-/
namespace RelayGateway

def wordBound : Nat := 18446744073709551616

def saturatingAdd (a b : Nat) : Nat := min (a + b) (wordBound - 1)

end RelayGateway
