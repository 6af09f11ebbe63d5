/-!
# Casts and powers

A natural number is cast to the double nearest to it. With this cast the doubles have every operation
that coefficient vectors and means ask for. Powers of whole numbers are those of the core library,
also where another library brings powers of its own.
-/

namespace PolySurvey.Number

/-- The double nearest to a natural number. -/
instance instNatCastFloat : NatCast Float := ⟨Float.ofNat⟩

attribute [default_instance 20000] instPowNat

end PolySurvey.Number
