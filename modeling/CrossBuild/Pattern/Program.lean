import CrossBuild.Pattern.Extent
import CrossBuild.Pattern.Opening
import CrossBuild.Pattern.Shape

/-!
The programs that a pattern is compiled to: one that reads text forward, and one that reads it from
its end.  A pattern that needs them is only accepted if both stay within a limit.
-/

namespace CrossBuild

open Text (ByteSequence Utf8.sequences Utf8.encode)

inductive Program where
  | block (extent : Extent)
  | encodings (forward : Bool) (sequences : List ByteSequence)
  | append (first second : Program)
  | copies (count : Nat) (body : Program)

namespace Program

def series (parts : List Program) : Program := parts.foldr append (block (.plain 0))

def limit : Nat := 10 * 1024 * 1024

def check (extent : Extent) : Option Extent := if extent.bytes ≤ limit then some extent else none

def times (lay : Extent → Option Extent) : Nat → Extent → Option Extent
  | 0, extent => some extent
  | count + 1, extent => (lay extent).bind (times lay count)

def lay : Program → Extent → Option Extent
  | block extent, before => check (before.add extent)
  | encodings forward sequences, before =>
      check (if forward then SharedTree.lay sequences before else TailTable.lay sequences before)
  | append first second, before => (first.lay before).bind second.lay
  | copies count body, before => times body.lay count before

def ofClass (forward : Bool) (members : CharClass) : Program :=
  if members.ranges.all fun range => range.last < 0x80 then
    block ((Extent.choose members.ranges.length).add (.plain 1))
  else encodings forward (members.ranges.flatMap Utf8.sequences)

def literalBytes? : Shape → Option (List Nat)
  | .literal text => some (text.flatMap Utf8.encode)
  | _ => none

def ofChoices (choices : List Program) : Program :=
  let ends := (Extent.fork choices.length).add (.plain 1)
  series (choices.take 2 ++ block ends :: choices.drop 2)

def ofRepetition (hasText : Bool) (body : Program) (least : Nat) (most : Option Nat) : Program :=
  let fork := block (.fork 2)
  let final := block (.plain 1)
  match least, most with
  | 0, some 1 => series [fork, body, final]
  | 0, none =>
      if hasText then append fork body
      else append body (block (.sum [.fork 2, .fork 2, .plain 1]))
  | least, none => append (copies least body) fork
  | least, some most =>
      if least = most then copies least body
      else
        series [if least = 0 then final else copies least body, final,
          copies (most - least) (append fork body)]

mutual

def ofShape (forward : Bool) : Shape → Program
  | .empty | .look _ => block (.plain 1)
  | .literal text => block (.plain (text.map Char.utf8Size).sum)
  | .characters members => ofClass forward members
  | .capture _ body =>
      if forward then series [block (.plain 1), ofShape forward body, block (.plain 1)]
      else ofShape forward body
  | .sequence parts =>
      let parts := ofShapes forward parts
      series (if forward then parts else parts.reverse)
  | .either choices =>
      match choices.mapM literalBytes? with
      | some literals =>
          block (LiteralTree.extent (if forward then literals else literals.map List.reverse))
      | none => ofChoices (ofShapes forward choices)
  | .repetition body least most _ =>
      ofRepetition body.hasText (ofShape forward body) least most

def ofShapes (forward : Bool) : List Shape → List Program
  | [] => []
  | shape :: shapes => ofShape forward shape :: ofShapes forward shapes

end

end Program

namespace Shape

mutual

def isTied (forward : Bool) : Shape → Bool
  | empty | literal _ | characters _ => false
  | look condition => condition = if forward then .textStart else .textEnd
  | capture _ body => body.isTied forward
  | sequence parts => if forward then startsTied parts else endsTied parts
  | either choices => areTied forward choices
  | repetition body least _ _ => least ≠ 0 && body.isTied forward

def startsTied : List Shape → Bool
  | [] => false
  | part :: parts => part.isTied true || (part.isBlank && startsTied parts)

def endsTied : List Shape → Bool
  | [] => false
  | part :: parts => endsTied parts || (areBlank parts && part.isTied false)

def areTied (forward : Bool) : List Shape → Bool
  | [] => true
  | choice :: choices => choice.isTied forward && areTied forward choices

end

/-- The whole program: unless the place is known, it begins with a loop over what precedes the
match.  Its last instruction announces the match. -/
def program (forward : Bool) (shape : Shape) : Program :=
  let intro : Extent := if shape.isTied forward then .plain 1
    else .sum [.fork 2, .plain 1, .choose 1]
  .series [.block intro, Program.ofShape forward (capture 0 shape), .block (.plain 1)]

/-- Whether the pattern needs no program, or its programs stay within the limit. -/
def fits (shape : Shape) : Bool :=
  shape.isListed || [true, false].all fun forward => ((shape.program forward).lay (.plain 0)).isSome

end Shape

end CrossBuild
