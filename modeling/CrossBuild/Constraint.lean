import CrossBuild.Label.Basic
import CrossBuild.Text.Basic

/-!
Constraint values, collections of them, and platforms.  A setting is an axis such as the operating
system, a value is a point on it, and a collection has at most one value for each setting.
Platforms are machines that actions run on or that outputs are made for.
-/

namespace CrossBuild

structure ConstraintSetting where
  label : Label
deriving DecidableEq, Inhabited

instance : ToString ConstraintSetting := ⟨fun setting => toString setting.label⟩

/-- Two values are equal if both their labels and their settings are. -/
structure ConstraintValue where
  label : Label
  setting : ConstraintSetting
deriving DecidableEq, Inhabited

instance : ToString ConstraintValue := ⟨fun value => toString value.label⟩

structure ConstraintConflict where
  setting : ConstraintSetting
  first : ConstraintValue
  second : ConstraintValue
deriving DecidableEq

def ConstraintConflict.message (conflict : ConstraintConflict) : String :=
  "Duplicate constraint values detected: constraint_setting " ++ toString conflict.setting ++
    " has " ++ Text.bracketList [conflict.first, conflict.second]

structure ConstraintCollection where
  values : List ConstraintValue
  nodup_settings : (values.map ConstraintValue.setting).Nodup

namespace ConstraintCollection

def empty : ConstraintCollection := ⟨[], by simp⟩

instance : Inhabited ConstraintCollection := ⟨empty⟩

def get? (collection : ConstraintCollection) (setting : ConstraintSetting) :
    Option ConstraintValue :=
  collection.values.find? fun value => value.setting = setting

theorem get?_eq_none_iff (collection : ConstraintCollection) (setting : ConstraintSetting) :
    collection.get? setting = none ↔
      setting ∉ collection.values.map ConstraintValue.setting := by
  simp [get?]

def has (collection : ConstraintCollection) (value : ConstraintValue) : Bool :=
  collection.get? value.setting = some value

def append (collection : ConstraintCollection) (value : ConstraintValue)
    (fresh : collection.get? value.setting = none) : ConstraintCollection where
  values := collection.values ++ [value]
  nodup_settings := by
    rw [List.map_append, List.nodup_append]
    refine ⟨collection.nodup_settings, by simp, ?_⟩
    intro present member last lastMember
    rw [List.map_singleton, List.mem_singleton] at lastMember
    subst lastMember
    exact fun equal => (get?_eq_none_iff _ _).mp fresh (equal ▸ member)

def add (collection : ConstraintCollection) (value : ConstraintValue) :
    Except ConstraintConflict ConstraintCollection :=
  match found : collection.get? value.setting with
  | none => .ok (collection.append value found)
  | some held =>
      if held = value then .ok collection
      else .error { setting := value.setting, first := held, second := value }

/-- Fails at the first value that differs from an earlier value of its setting. -/
def ofList (values : List ConstraintValue) : Except ConstraintConflict ConstraintCollection :=
  values.foldlM add empty

def missing (collection : ConstraintCollection) (required : List ConstraintValue) :
    List ConstraintValue :=
  required.filter fun value => !collection.has value

def size (collection : ConstraintCollection) : Nat := collection.values.length

def isEmpty (collection : ConstraintCollection) : Bool := collection.values.isEmpty

def sameValues (first second : ConstraintCollection) : Bool :=
  first.size = second.size && first.values.all second.has

instance : ToString ConstraintCollection :=
  ⟨fun collection => Text.bracketList collection.values⟩

theorem missing_eq_nil_iff (collection : ConstraintCollection)
    (required : List ConstraintValue) :
    collection.missing required = [] ↔ ∀ value ∈ required, collection.has value = true := by
  simp [missing, List.filter_eq_nil_iff]

end ConstraintCollection

structure Platform where
  label : Label
  constraints : ConstraintCollection
deriving Inhabited

namespace Platform

instance : ToString Platform := ⟨fun platform => toString platform.label⟩

/-- A platform is identified by its label: another platform with the same constraints does not
stand in for it. -/
def same (first second : Platform) : Bool := first.label = second.label

def missing (platform : Platform) (required : List ConstraintValue) : List ConstraintValue :=
  platform.constraints.missing required

end Platform

end CrossBuild
