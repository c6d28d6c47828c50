/-!
Labels name every entity of a build: targets, platforms, constraint settings and values, toolchain
types, toolchains, environments and their groups.
-/

namespace CrossBuild

/-- The main repository has the empty name. -/
structure Label where
  repository : String
  package : String
  name : String
deriving DecidableEq, Inhabited

structure ConfigurationKey where
  identifier : String
deriving DecidableEq, Inhabited

instance : ToString ConfigurationKey := ⟨ConfigurationKey.identifier⟩

namespace Label

def isMain (label : Label) : Bool := label.repository = ""

def path (label : Label) : String := "//" ++ label.package ++ ":" ++ label.name

def text (label : Label) : String :=
  if label.isMain then label.path else "@" ++ label.repository ++ label.path

instance : ToString Label := ⟨text⟩

/-- The form in which labels are compared with what a user wrote.  It always has a repository
mark, which is doubled when external repositories come from the module system. -/
def canonicalText (label : Label) (moduleSystem : Bool) : String :=
  (if moduleSystem then "@@" else "@") ++ label.repository ++ label.path

@[simp] theorem toString_eq_text (label : Label) : toString label = label.text := rfl

/-- Labels are ordered by repository, then by package, then by name, each by code points. -/
def order (first second : Label) : Ordering :=
  ((compare first.repository second.repository).then
    (compare first.package second.package)).then (compare first.name second.name)

instance : Ord Label := ⟨order⟩

def notAfter (first second : Label) : Bool := (order first second).isLE

def sorted (labels : List Label) : List Label := labels.mergeSort notAfter

theorem order_eq_eq_iff (first second : Label) : order first second = .eq ↔ first = second := by
  cases first
  cases second
  simp [order, Ordering.then_eq_eq, and_assoc]

end Label

end CrossBuild
