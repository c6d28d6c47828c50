import CrossBuild.DebugFilter
import CrossBuild.Pattern.Placement
import CrossBuild.Pattern.Program
import CrossBuild.Pattern.Token

/-!
Reading patterns.  The groups that are open stand on a stack; each token adds to the innermost one.
-/

namespace CrossBuild

namespace Pattern

structure Piece where
  pattern : Pattern
  depth : Nat

inductive Item where
  | piece (piece : Piece)
  | flags

def Item.toPiece : Item → Piece
  | piece part => part
  | flags => ⟨.empty, 0⟩

structure Group where
  number : Option Nat
  alternatives : List Piece
  items : List Item
  outerFlags : Flags

namespace Group

def start (number : Option Nat) (outerFlags : Flags) : Group := ⟨number, [], [], outerFlags⟩

def addItem (group : Group) (item : Item) : Group := { group with items := item :: group.items }

def deepest (pieces : List Piece) : Nat := (pieces.map Piece.depth).foldl max 0

def sequence (group : Group) : Piece :=
  match group.items with
  | [] => ⟨.empty, 0⟩
  | [item] => item.toPiece
  | items =>
      let pieces := items.reverse.map Item.toPiece
      ⟨.sequence (pieces.map Piece.pattern), 1 + deepest pieces⟩

def divide (group : Group) : Group :=
  { group with alternatives := group.sequence :: group.alternatives, items := [] }

def close (group : Group) : Piece :=
  match group.alternatives with
  | [] => group.sequence
  | alternatives =>
      let pieces := (group.sequence :: alternatives).reverse
      ⟨.either (pieces.map Piece.pattern), 1 + deepest pieces⟩

def closed (group : Group) : Piece :=
  let whole := group.close
  ⟨group.number.elim whole.pattern fun number => .capture number whole.pattern, 1 + whole.depth⟩

def repeatLast (group : Group) (least : Nat) (most : Option Nat) (greedy : Bool) :
    Except PatternError Group :=
  match group.items with
  | .piece last :: others =>
      .ok { group with
        items := .piece ⟨last.pattern.repeated least most greedy, 1 + last.depth⟩ :: others }
  | _ => .error .nothingToRepeat

end Group

structure Reading where
  group : Group
  outer : List Group
  flags : Flags
  captures : Nat
  names : List String

namespace Reading

def initial : Reading := ⟨.start none {}, [], {}, 0, []⟩

def openGroup (reading : Reading) (number : Option Nat) (changes : FlagChanges) : Reading :=
  { reading with
    group := .start number reading.flags
    outer := reading.group :: reading.outer
    flags := reading.flags.changeAll changes }

def openCapture (reading : Reading) (name : Option String) : Except PatternError Reading :=
  match name.filter reading.names.contains with
  | some used => .error (.duplicateGroupName used)
  | none =>
      .ok { reading.openGroup (some (reading.captures + 1)) [] with
        captures := reading.captures + 1
        names := name.toList ++ reading.names }

def closeGroup (reading : Reading) : Except PatternError Reading :=
  match reading.outer with
  | [] => .error .unopenedGroup
  | enclosing :: others =>
      .ok { reading with
        group := enclosing.addItem (.piece reading.group.closed)
        outer := others
        flags := reading.group.outerFlags }

def add (reading : Reading) : Token → Except PatternError Reading
  | .expression pattern depth =>
      .ok { reading with group := reading.group.addItem (.piece ⟨pattern, depth⟩) }
  | .openGroup changes => .ok (reading.openGroup none changes)
  | .openCapture name => reading.openCapture name
  | .closeGroup => reading.closeGroup
  | .setFlags changes =>
      .ok { reading with
        group := reading.group.addItem .flags
        flags := reading.flags.changeAll changes }
  | .alternative => .ok { reading with group := reading.group.divide }
  | .repetition least most greedy => do
      return { reading with group := ← reading.group.repeatLast least most greedy }

/-- Reads on to the end of the text.  Every token takes at least one character. -/
def run : Nat → Reading → List Char → Except PatternError Reading
  | 0, reading, _ => .ok reading
  | fuel + 1, reading, text =>
      match reading.flags.skip text with
      | [] => .ok reading
      | first :: rest => do
          let (token, rest) ← Token.read reading.flags first rest
          run fuel (← reading.add token) rest

def compiled (reading : Reading) : CompiledPattern where
  names := reading.names.reverse
  isMatch := reading.group.close.pattern.isMatch

end Reading

def read (text : List Char) : Except PatternError Reading := do
  let reading ← Reading.run text.length .initial text
  match reading.outer with
  | _ :: _ => .error .unclosedGroup
  | [] => .ok reading

def limit? (whole : Piece) : Option PatternError :=
  if depthLimit < whole.depth then some .tooDeep
  else if (Shape.ofPattern whole.pattern).fits then none
  else some .tooLarge

/-- The patterns of this library as an engine for filters. -/
def engine : PatternEngine where
  read text :=
    match read text.toList with
    | .ok reading => .ok reading.compiled
    | .error reason => .error reason.message
  overrun? text :=
    match read text.toList with
    | .ok reading => (limit? reading.group.close).map PatternError.message
    | .error _ => none

end Pattern

end CrossBuild
