/-!
Powers of natural numbers and integers. They are the ones of the core library wherever they are written, whatever
other powers are at hand.
-/
namespace Callout

attribute [default_instance 20000] instPowNat

instance (priority := high) natPow : Pow Nat Nat := instPowNat

instance (priority := high) intPow : Pow Int Nat := instPowNat

end Callout
