/-!
# Powers

Powers with natural exponents are those of the core library in every module, whatever else it imports.
-/

attribute [instance (2000), default_instance (20000)] instPowNat
