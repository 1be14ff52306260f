/-!
# Powers of whole numbers

A power is the same term wherever it is written, also where more general powers are in sight.
-/

namespace AssetWatch

@[default_instance 20000]
instance (priority := high) powNat : Pow Nat Nat := ⟨Nat.pow⟩

@[default_instance 15000]
instance (priority := high) powInt : Pow Int Nat := ⟨Int.pow⟩

end AssetWatch
