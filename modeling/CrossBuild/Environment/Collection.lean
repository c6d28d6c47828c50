import CrossBuild.Environment.Group
import CrossBuild.OrderedMap

/-!
Sets of environments that remember the group of each member.
-/

namespace CrossBuild

abbrev EnvironmentCollection := OrderedMap Label EnvironmentGroup

namespace EnvironmentCollection

/-- Putting an environment again moves it to the new group and keeps its position. -/
def put (collection : EnvironmentCollection) (group : EnvironmentGroup) (environment : Label) :
    EnvironmentCollection :=
  OrderedMap.insert collection environment group

def environments (collection : EnvironmentCollection) : List Label := OrderedMap.keys collection

def groupOf? (collection : EnvironmentCollection) (environment : Label) :
    Option EnvironmentGroup :=
  OrderedMap.get? collection environment

def distinctGroups : List EnvironmentGroup → List EnvironmentGroup
  | [] => []
  | group :: rest => group :: (distinctGroups rest).filter fun other => other.label ≠ group.label

def groups (collection : EnvironmentCollection) : List EnvironmentGroup :=
  distinctGroups (OrderedMap.values collection)

def referencesGroup (collection : EnvironmentCollection) (label : Label) : Bool :=
  (OrderedMap.values collection).any fun group => group.label = label

def ofPairs (pairs : List (EnvironmentGroup × Label)) : EnvironmentCollection :=
  pairs.foldl (fun collection pair => put collection pair.1 pair.2) OrderedMap.empty

theorem mem_distinctGroups_label {label : Label} {groups : List EnvironmentGroup} :
    (∃ group ∈ distinctGroups groups, group.label = label) ↔
      ∃ group ∈ groups, group.label = label := by
  induction groups with
  | nil => simp [distinctGroups]
  | cons first rest ih =>
      by_cases same : first.label = label
      · simp [distinctGroups, same]
      · have apart : ∀ group : EnvironmentGroup,
            (group.label ≠ first.label ∧ group.label = label) ↔ group.label = label := by
          intro group
          constructor
          · exact And.right
          · intro equal
            exact ⟨fun other => same (other ▸ equal), equal⟩
        simp [distinctGroups, same, and_assoc, apart, ih]

theorem referencesGroup_iff (collection : EnvironmentCollection) (label : Label) :
    referencesGroup collection label = true ↔
      ∃ group ∈ groups collection, group.label = label := by
  rw [groups, mem_distinctGroups_label]
  simp [referencesGroup]

end EnvironmentCollection

end CrossBuild
