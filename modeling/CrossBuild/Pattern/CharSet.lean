import CrossBuild.Text.CodeRange
import CrossBuild.Text.Unicode.CaseFolding

/-!
Sets of characters.  A set is kept as the ascending list of the code points at which membership
changes, so that equal sets are equal as data and every operation of two sets is one walk along
both lists.  A range from one character to another takes along the surrogates between them, which
are no characters; ranges that only meet around the surrogates stay apart.
-/

namespace CrossBuild

namespace Bounds

def memberFrom (member : Bool) : List Nat → Nat → Bool
  | [], _ => member
  | bound :: bounds, code =>
      if code < bound then member else memberFrom (!member) bounds code

def mark (bound : Nat) (before after : Bool) (bounds : List Nat) : List Nat :=
  if before = after then bounds else bound :: bounds

def combineUpTo (operation : Bool → Bool → Bool) (first : Bool) (bound : Nat)
    (goOn : Bool → List Nat → List Nat) (second : Bool) : List Nat → List Nat
  | [] => mark bound (operation first second) (operation (!first) second) (goOn second [])
  | other :: others =>
      if other < bound then
        mark other (operation first second) (operation first (!second))
          (combineUpTo operation first bound goOn (!second) others)
      else if other = bound then
        mark bound (operation first second) (operation (!first) (!second)) (goOn (!second) others)
      else
        mark bound (operation first second) (operation (!first) second)
          (goOn second (other :: others))

def combine (operation : Bool → Bool → Bool) (first : Bool) :
    List Nat → Bool → List Nat → List Nat
  | [], _, others => if operation first true = operation first false then [] else others
  | bound :: bounds, second, others =>
      combineUpTo operation first bound (combine operation (!first) bounds) second others

theorem memberFrom_of_lt (member : Bool) (bounds : List Nat) (code : Nat)
    (before : ∀ bound ∈ bounds, code < bound) : memberFrom member bounds code = member := by
  cases bounds with
  | nil => rfl
  | cons bound bounds => simp [memberFrom, before bound (by simp)]

theorem memberFrom_mark (bound code : Nat) (before after : Bool) (bounds : List Nat)
    (above : ∀ later ∈ bounds, bound + 1 ≤ later) :
    memberFrom before (mark bound before after bounds) code =
      if code < bound then before else memberFrom after bounds code := by
  unfold mark
  by_cases same : before = after
  · subst same
    by_cases early : code < bound
    · simp only [early, if_true]
      exact memberFrom_of_lt _ _ _ fun later isLater => by
        have := above later isLater
        omega
    · simp [early]
  · have flipped : (!before) = after := by cases before <;> cases after <;> simp_all
    simp [memberFrom, same, flipped]

theorem memberFrom_map (change : Bool → Bool) (flips : change true ≠ change false)
    (bounds : List Nat) (code : Nat) : ∀ member,
    memberFrom (change member) bounds code = change (memberFrom member bounds code) := by
  induction bounds with
  | nil => intro member; rfl
  | cons bound bounds ih =>
      intro member
      have flipped : (!change member) = change (!member) := by
        cases member <;> cases yes : change true <;> cases no : change false <;> simp_all
      by_cases early : code < bound
      · simp [memberFrom, early]
      · simp [memberFrom, early, flipped, ih]

def Ascends (low : Nat) (bounds : List Nat) : Prop :=
  bounds.Pairwise (· < ·) ∧ ∀ bound ∈ bounds, low ≤ bound

theorem Ascends.tail {low bound : Nat} {bounds : List Nat}
    (ascends : Ascends low (bound :: bounds)) :
    Ascends (bound + 1) bounds :=
  ⟨(List.pairwise_cons.mp ascends.1).2, (List.pairwise_cons.mp ascends.1).1⟩

theorem Ascends.head {low bound : Nat} {bounds : List Nat}
    (ascends : Ascends low (bound :: bounds)) :
    low ≤ bound :=
  ascends.2 bound (by simp)

theorem Ascends.raise {low bound high : Nat} {bounds : List Nat}
    (ascends : Ascends low (bound :: bounds)) (reached : high ≤ bound) :
    Ascends high (bound :: bounds) := by
  refine ⟨ascends.1, fun later isLater => ?_⟩
  rcases List.mem_cons.mp isLater with rfl | isLater
  · exact reached
  · have := (List.pairwise_cons.mp ascends.1).1 later isLater
    omega

theorem ascends_mark {low bound : Nat} {before after : Bool} {bounds : List Nat}
    (reached : low ≤ bound) (ascends : Ascends (bound + 1) bounds) :
    Ascends low (mark bound before after bounds) := by
  unfold mark
  split
  · exact ⟨ascends.1, fun later isLater => by have := ascends.2 later isLater; omega⟩
  · refine ⟨List.pairwise_cons.mpr ⟨ascends.2, ascends.1⟩, fun later isLater => ?_⟩
    rcases List.mem_cons.mp isLater with rfl | isLater
    · exact reached
    · have := ascends.2 later isLater
      omega

/-- Every operation keeps the order, and does what it says for each code point. -/
theorem combineUpTo_spec (operation : Bool → Bool → Bool) (first : Bool) (bound : Nat)
    (bounds : List Nat) (goOn : Bool → List Nat → List Nat)
    (goes : ∀ second others, Ascends (bound + 1) others →
      Ascends (bound + 1) (goOn second others) ∧
      ∀ code, memberFrom (operation (!first) second) (goOn second others) code =
        operation (memberFrom (!first) bounds code) (memberFrom second others code))
    (others : List Nat) : ∀ (low : Nat) (second : Bool), low ≤ bound → Ascends low others →
      Ascends low (combineUpTo operation first bound goOn second others) ∧
      ∀ code, memberFrom (operation first second)
          (combineUpTo operation first bound goOn second others) code =
        operation (memberFrom first (bound :: bounds) code) (memberFrom second others code) := by
  induction others with
  | nil =>
      intro low second reached _
      have after := goes second [] ⟨.nil, by simp⟩
      refine ⟨ascends_mark reached after.1, fun code => ?_⟩
      rw [combineUpTo, memberFrom_mark _ _ _ _ _ after.1.2, after.2]
      by_cases early : code < bound <;> simp [memberFrom, early]
  | cons other others ih =>
      intro low second reached ascends
      unfold combineUpTo
      split
      · rename_i earlier
        have after := ih (other + 1) (!second) (by omega) ascends.tail
        refine ⟨ascends_mark ascends.head after.1, fun code => ?_⟩
        rw [memberFrom_mark _ _ _ _ _ after.1.2, after.2]
        by_cases early : code < other
        · have : code < bound := by omega
          simp [memberFrom, early, this]
        · simp [memberFrom, early]
      · split
        · rename_i same
          subst same
          have after := goes (!second) others ascends.tail
          refine ⟨ascends_mark reached after.1, fun code => ?_⟩
          rw [memberFrom_mark _ _ _ _ _ after.1.2, after.2]
          by_cases early : code < other <;> simp [memberFrom, early]
        · have after := goes second (other :: others) (ascends.raise (by omega))
          refine ⟨ascends_mark reached after.1, fun code => ?_⟩
          rw [memberFrom_mark _ _ _ _ _ after.1.2, after.2]
          by_cases early : code < bound
          · have : code < other := by omega
            simp [memberFrom, early, this]
          · simp [memberFrom, early]

theorem combine_spec (operation : Bool → Bool → Bool) (bounds : List Nat) :
    ∀ (low : Nat) (first second : Bool) (others : List Nat), Ascends low bounds →
      Ascends low others → Ascends low (combine operation first bounds second others) ∧
      ∀ code, memberFrom (operation first second) (combine operation first bounds second others)
          code = operation (memberFrom first bounds code) (memberFrom second others code) := by
  induction bounds with
  | nil =>
      intro low first second others _ ascends
      unfold combine
      split
      · rename_i same
        refine ⟨⟨.nil, by simp⟩, fun code => ?_⟩
        cases second <;> cases found : memberFrom _ others code <;> simp_all [memberFrom]
      · rename_i flips
        exact ⟨ascends, fun code => memberFrom_map (operation first) flips others code second⟩
  | cons bound bounds ih =>
      intro low first second others ascends otherAscends
      exact combineUpTo_spec operation first bound bounds _
        (fun second others ascending =>
          ih (bound + 1) (!first) second others ascends.tail ascending)
        others low second ascends.head otherAscends

end Bounds

/-- The bounds ascend.  Nothing before the first one belongs to the set. -/
structure CharSet where
  bounds : List Nat
  ascending : bounds.Pairwise (· < ·)
deriving DecidableEq

namespace CharSet

def empty : CharSet := ⟨[], .nil⟩

instance : Inhabited CharSet := ⟨empty⟩

def containsCode (set : CharSet) (code : Nat) : Bool := Bounds.memberFrom false set.bounds code

def contains (set : CharSet) (character : Char) : Bool := set.containsCode character.toNat

def combine (operation : Bool → Bool → Bool) (first second : CharSet) : CharSet :=
  ⟨Bounds.combine operation false first.bounds false second.bounds,
    (Bounds.combine_spec operation first.bounds 0 false false second.bounds
      ⟨first.ascending, by simp⟩ ⟨second.ascending, by simp⟩).1.1⟩

theorem containsCode_combine (operation : Bool → Bool → Bool)
    (outside : operation false false = false) (first second : CharSet) (code : Nat) :
    (combine operation first second).containsCode code =
      operation (first.containsCode code) (second.containsCode code) := by
  have combined := (Bounds.combine_spec operation first.bounds 0 false false second.bounds
    ⟨first.ascending, by simp⟩ ⟨second.ascending, by simp⟩).2 code
  rwa [outside] at combined

def union : CharSet → CharSet → CharSet := combine fun first second => first || second

def intersection : CharSet → CharSet → CharSet := combine fun first second => first && second

def lastCode : Nat := 0x10FFFF

def lowSide : Nat := 0xD7FF

def highSide : Nat := 0xE000

def surrogates : CharSet := ⟨[lowSide + 1, highSide], by simp [lowSide, highSide]⟩

def without : CharSet → CharSet → CharSet := combine fun first second => first && !second

/-- The surrogates stay in a set only between the characters on both sides of them. -/
def settled (set : CharSet) : CharSet :=
  if set.containsCode lowSide && set.containsCode highSide then set else set.without surrogates

def difference (first second : CharSet) : CharSet := (first.without second).settled

def symmetricDifference (first second : CharSet) : CharSet :=
  (combine (fun first second => first != second) first second).settled

def all : CharSet := ⟨[0], by simp⟩

def ofRange (range : Text.CodeRange) : CharSet :=
  if reached : range.last < range.first then empty
  else if range.last < lastCode then ⟨[range.first, range.last + 1], by simp; omega⟩
  else ⟨[range.first], by simp⟩

def ofRanges (ranges : List Text.CodeRange) : CharSet :=
  ranges.foldr (fun range set => union (ofRange range) set) empty

def ofCodes (codes : List Nat) : CharSet := ofRanges (codes.map fun code => ⟨code, code⟩)

def only (character : Char) : CharSet := ofRange (.only character)

def ofText (text : String) : CharSet := ofRanges (Text.rangesOf text)

def ascii : CharSet := ofRange ⟨0, 0x7F⟩

def unionAll (sets : List CharSet) : CharSet := sets.foldr union empty

def rangesFrom : List Nat → List Text.CodeRange
  | [] => []
  | [first] => [⟨first, lastCode⟩]
  | first :: next :: bounds => ⟨first, next - 1⟩ :: rangesFrom bounds

def ranges (set : CharSet) : List Text.CodeRange := rangesFrom set.bounds

def seam (set : CharSet) : List Text.CodeRange :=
  if set.containsCode lowSide && set.containsCode highSide && !set.containsCode (lowSide + 1) then
    [⟨lowSide, highSide⟩]
  else []

def gaps (set : CharSet) : List Text.CodeRange :=
  let outside := (difference all set).ranges
  outside.takeWhile (fun range => range.first < lowSide) ++ set.seam ++
    outside.dropWhile (fun range => range.first < lowSide)

def complement (set : CharSet) : CharSet := union (difference all set) (ofRanges set.seam)

def anyCase (set : CharSet) : CharSet :=
  let folded := union set (ofCodes (Text.Unicode.foldings.filterMap fun folding =>
    if set.containsCode folding.code then some folding.target else none))
  union folded (ofCodes (Text.Unicode.foldings.filterMap fun folding =>
    if folded.containsCode folding.target then some folding.code else none))

end CharSet

end CrossBuild
