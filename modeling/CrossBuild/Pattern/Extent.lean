import CrossBuild.Distinct
import CrossBuild.Text.Utf8
import Std.Data.HashMap

/-!
The size of the parts of a program.  A class that is read forward is a tree of choices by one byte
after the other, one that is read from the end is a chain of bytes for each of its sequences, and
both share what they have laid out before; literals form a tree over their bytes.
-/

namespace CrossBuild

open Text (ByteRange ByteSequence)

structure Extent where
  instructions : Nat
  branches : Nat

namespace Extent

def add (first second : Extent) : Extent :=
  ⟨first.instructions + second.instructions, first.branches + second.branches⟩

def bytes (extent : Extent) : Nat := 32 * extent.instructions + extent.branches

def fork (targets : Nat) : Extent := ⟨1, 4 * targets⟩

def choose (ranges : Nat) : Extent := ⟨1, 8 * ranges⟩

def plain (count : Nat) : Extent := ⟨count, 0⟩

def sum (extents : List Extent) : Extent := extents.foldr add (plain 0)

end Extent

/-- The instructions that are remembered with their positions, each in the slot that its contents
lead to, and the extent of everything before the next one. -/
structure Sharing (α : Type) where
  slots : Std.HashMap Nat (α × Nat)
  extent : Extent

namespace Sharing

variable {α : Type} [DecidableEq α]

def start (before : Extent) : Sharing α := ⟨∅, before⟩

def mix (hash : UInt64) (value : Nat) : UInt64 := (hash ^^^ value.toUInt64) * 1099511628211

def slot (size : Nat) (contents : List Nat) : Nat :=
  (contents.foldl mix 14695981039346656037).toNat % size

def build (sharing : Sharing α) (slot : Nat) (instruction : α) (size : Extent) :
    Nat × Sharing α :=
  let position := sharing.extent.instructions
  (position, ⟨sharing.slots.insert slot (instruction, position), sharing.extent.add size⟩)

def share (sharing : Sharing α) (slot : Nat) (instruction : α) (size : Extent) :
    Nat × Sharing α :=
  match sharing.slots[slot]? with
  | some (known, position) =>
      if known = instruction then (position, sharing) else sharing.build slot instruction size
  | none => sharing.build slot instruction size

end Sharing

abbrev SharedTree := Sharing (List (ByteRange × Nat))

namespace SharedTree

def slotCount : Nat := 10000

def choose (tree : SharedTree) (choice : List (ByteRange × Nat)) : Nat × SharedTree :=
  let contents := choice.flatMap fun (range, next) => [range.first, range.last, next]
  tree.share (Sharing.slot slotCount contents) choice (.choose choice.length)

def groups : List ByteSequence → List (ByteRange × List ByteSequence)
  | [] => []
  | [] :: sequences => groups sequences
  | (first :: rest) :: sequences =>
      match groups sequences with
      | (range, rests) :: others =>
          if range = first then (range, rest :: rests) :: others
          else (first, [rest]) :: (range, rests) :: others
      | [] => [(first, [rest])]

def add (final : Nat) : Nat → List ByteSequence → SharedTree → Nat × SharedTree
  | 0, _, tree => (final, tree)
  | length + 1, sequences, tree =>
      match groups sequences with
      | [] => (final, tree)
      | grouped =>
          let (choice, tree) := grouped.foldl
            (fun (choice, tree) (range, rests) =>
              let (next, tree) := add final length rests tree
              (choice ++ [(range, next)], tree))
            ([], tree)
          choose tree choice

def lay (sequences : List ByteSequence) (before : Extent) : Extent :=
  (add before.instructions 4 sequences (.start (before.add (.plain 1)))).2.extent

end SharedTree

abbrev TailTable := Sharing (Nat × ByteRange)

namespace TailTable

def slotCount : Nat := 1000

def tail (table : TailTable) (next : Nat) (range : ByteRange) : Nat × TailTable :=
  table.share (Sharing.slot slotCount [next, range.first, range.last]) (next, range) (.plain 1)

def addSequence (final : Nat) (table : TailTable) (sequence : ByteSequence) : TailTable :=
  (sequence.foldl (fun (next, table) range => tail table next range) (final, table)).2

def lay (sequences : List ByteSequence) (before : Extent) : Extent :=
  let fork := Extent.fork sequences.length
  let final := (before.add fork).instructions
  (sequences.foldl (addSequence final) (.start (.sum [before, fork, .plain 1]))).extent

end TailTable

namespace LiteralTree

def chunks (literals : List (List Nat)) : List (List (List Nat)) :=
  match literals with
  | [] :: others => [] :: (others.dropWhile List.isEmpty).splitOnP List.isEmpty
  | _ => literals.splitOnP List.isEmpty

def firsts (literals : List (List Nat)) : List Nat := distinct (literals.filterMap List.head?)

def behind (byte : Nat) (literals : List (List Nat)) : List (List Nat) :=
  literals.filterMap fun literal =>
    match literal with
    | first :: rest => if first = byte then some rest else none
    | [] => none

def chunkExtent (count : Nat) : Extent := if count = 1 then .plain 1 else .choose count

def extentFrom : Nat → List (List Nat) → Extent
  | 0, _ => .plain 0
  | length + 1, literals =>
      if literals.all List.isEmpty then .plain 0
      else
        let chunks := chunks literals
        let filled := chunks.filter fun chunk => !chunk.isEmpty
        .sum (.fork (filled.length + (chunks.length - 1)) :: filled.flatMap fun chunk =>
          chunkExtent (firsts chunk).length ::
            (firsts chunk).map fun byte => extentFrom length (behind byte chunk))

def extent (literals : List (List Nat)) : Extent :=
  (Extent.plain 1).add
    (extentFrom ((literals.map List.length).foldl max 0 + 1) literals)

end LiteralTree

end CrossBuild
