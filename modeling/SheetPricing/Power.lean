/-!
# Powers

A power of a natural or a whole number is the one of the language, whatever other powers are known
where it is written. An exponent that is a numeral is written with its type.
-/

attribute [instance (2000)] instPowNat
