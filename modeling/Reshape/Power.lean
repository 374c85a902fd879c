/-!
# Powers

Powers of natural numbers and integers are the ones of core, also where a library
that brings powers of its own is imported.
-/

attribute [instance (high), default_instance 10001] instPowNat
