/-
# Powers of numbers

A power of a natural number or an integer is the one that the language itself
defines, also where a library knows other powers.  So what runs and what is proved
about it is the same term everywhere.
-/

attribute [instance (high), default_instance (high + 1)] instPowNat
