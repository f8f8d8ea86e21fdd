import LineScript.Catalog.TextUnit
import LineScript.Catalog.MathUnit

/-!
The units that programs can import, by name.  Main statement: the units that come with the library
are `textUnit` and `mathUnit` (`eq_of_lookup_bundled`).
-/

namespace LineScript

abbrev Catalog := Std.ExtTreeMap String ExtensionUnit

namespace Catalog

/-- Makes the unit importable, in place of a unit of the same name. -/
def add (catalog : Catalog) (name : String) (unit : ExtensionUnit) : Catalog :=
  catalog.insert name unit

/-- The units that come with the library. -/
def bundled : Catalog :=
  add (add ∅ "text" textUnit) "math" mathUnit

def lookup (catalog : Catalog) (name : String) : Option ExtensionUnit :=
  catalog[name]?

theorem lookup_add (catalog : Catalog) (name other : String) (unit : ExtensionUnit) :
    (catalog.add name unit).lookup other =
      if name = other then some unit else catalog.lookup other := by
  simp [add, lookup, Std.ExtTreeMap.getElem?_insert]

def LeavesStores (catalog : Catalog) : Prop :=
  ∀ name unit, catalog.lookup name = some unit → unit.LeavesStores

theorem eq_of_lookup_bundled {name : String} {unit : ExtensionUnit}
    (h : bundled.lookup name = some unit) : unit = textUnit ∨ unit = mathUnit := by
  rw [bundled, lookup_add, lookup_add] at h
  split at h
  · exact .inr (Option.some.inj h).symm
  · split at h
    · exact .inl (Option.some.inj h).symm
    · simp [lookup] at h

theorem bundled_leavesStores : bundled.LeavesStores := by
  intro name unit h
  rcases eq_of_lookup_bundled h with rfl | rfl
  · exact textUnit_leavesStores
  · exact mathUnit_leavesStores

end Catalog

end LineScript
