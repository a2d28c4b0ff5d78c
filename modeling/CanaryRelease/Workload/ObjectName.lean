import CanaryRelease.Value.Display

/-!
# Names of objects

An object of a kind is found under a name and a namespace. Both come from manifests that nobody has
checked, so they are values; a list or an object in their place names nothing.
-/

namespace CanaryRelease

/-- The name of an object and the namespace it lies in. -/
structure ObjectName where
  name : Value
  space : Value
  deriving DecidableEq

namespace ObjectName

/-- Name and namespace as messages show them. -/
def display (n : ObjectName) : String := n.name.display ++ "." ++ n.space.display

/-- Whether an object can be found under the name. -/
def isAddressable (n : ObjectName) : Bool := n.name.isScalar && n.space.isScalar

/-- Namespace and name in the form that stands for all names that count as one. -/
def standard (n : ObjectName) : Option Key × Option Key :=
  (n.space.toKey?.map Key.standard, n.name.toKey?.map Key.standard)

theorem isAddressable_congr {m n : ObjectName} (h : m.standard = n.standard) :
    m.isAddressable = n.isAddressable := by
  have scalar (v : Value) : v.isScalar = (v.toKey?.map Key.standard).isSome := by
    cases v <;> rfl
  obtain ⟨space, name⟩ := Prod.mk.inj h
  rw [isAddressable, isAddressable, scalar, scalar, scalar, scalar, space, name]

end ObjectName

end CanaryRelease
