/-! # Instances

Powers of numbers and the comparison of bytes are those of the core library, whatever else is in
scope.
-/

attribute [instance (high), default_instance 20000] instPowNat

attribute [instance (high)] ByteArray.instDecidableEq
