/-!
Powers of naturals and integers. The sizes of words, and all that is counted in them, are written as
powers with numerals for exponents; wherever other structures bring powers of their own, those of
the numbers themselves are meant.
-/

set_option autoImplicit false
set_option relaxedAutoImplicit false

attribute [default_instance 20000] instPowNat
