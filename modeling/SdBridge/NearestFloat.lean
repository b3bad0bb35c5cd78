/-! Floating point numbers from natural numbers of any size. -/
namespace SdBridge

/-- The double nearest to a number. What lies beyond the 63 leading bits is kept as one bit, which
is enough to round the right way. -/
def nearestFloat (n : Nat) : Float :=
  let beyond := n.log2 - 62
  let leading := n >>> beyond
  let kept := if leading <<< beyond = n then leading else leading ||| 1
  kept.toUInt64.toFloat.scaleB beyond

end SdBridge
