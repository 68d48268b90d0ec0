import CryptoUsage.Text.Dotted

/-!
# Object types

What is known of the type of a receiver or an argument: its name, and the names of the types it is
known to extend.  Names compare by `Text.namesAgree`.

## What is here

An object type is what the adapters of both languages make of a type that they find out about.
Java has supertypes for the types that the unit declares, and Python has none for any.

`ObjectType.isA` is the only test that is made on it.  Asked exactly, the name has to agree with
that of the candidate; otherwise it is enough that the name of a supertype does.  So what is a
candidate exactly is one in any case (`isA_of_exact`), and more supertypes never make a type stop
being one.
-/

set_option autoImplicit false

namespace CryptoUsage

/-- A type by name, with the names of its known supertypes. -/
structure ObjectType where
  name : String
  supertypes : List String := []
deriving DecidableEq, Repr

namespace ObjectType

/-- The name of the type without its qualifier. -/
def simpleName (type : ObjectType) : String := Text.simpleName type.name

/-- Whether the type is the candidate, or, unless exactly that is asked for, extends it. -/
def isA (type : ObjectType) (candidate : String) (exact : Bool) : Bool :=
  Text.namesAgree type.name candidate ||
    (!exact && type.supertypes.any fun super => Text.namesAgree super candidate)

theorem isA_of_exact {type : ObjectType} {candidate : String} {exact : Bool}
    (h : type.isA candidate true = true) : type.isA candidate exact = true := by
  simp only [isA, Bool.not_true, Bool.false_and, Bool.or_false] at h
  simp [isA, h]

end ObjectType

end CryptoUsage
