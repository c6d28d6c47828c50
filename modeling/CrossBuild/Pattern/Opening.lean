import CrossBuild.Pattern.Shape
import CrossBuild.Text.Utf8

/-!
What matches begin with.  If the matches of a pattern are all among a few texts, it is enough to
look for these texts, and the pattern needs no program.
-/

namespace CrossBuild

structure Opening where
  bytes : List Nat
  whole : Bool
deriving DecidableEq

abbrev Openings := Option (List Opening)

namespace Opening

def blank : Opening := ⟨[], true⟩

def unfinished (opening : Opening) : Opening := { opening with whole := false }

def cut (length : Nat) (opening : Opening) : Opening :=
  if opening.bytes.length ≤ length then opening else ⟨opening.bytes.take length, false⟩

def join (opening : Opening) : List Opening → List Opening
  | [] => [opening]
  | next :: others =>
      if opening.bytes = next.bytes then ⟨next.bytes, opening.whole && next.whole⟩ :: others
      else opening :: next :: others

def joinAll (openings : List Opening) : List Opening := openings.foldr join []

def cutAll (length : Nat) (openings : List Opening) : List Opening := openings.map (cut length)

def product (first second : List Opening) : List Opening :=
  joinAll (first.flatMap fun opening =>
    if opening.whole then second.map fun next => ⟨opening.bytes ++ next.bytes, next.whole⟩
    else [opening])

def leastOf (openings : List Opening) : List Opening :=
  openings.foldl (fun kept opening =>
    if kept.any fun earlier => earlier.bytes.isPrefixOf opening.bytes then kept
    else kept ++ [opening]) []

def sharedBytes (first second : List Nat) : List Nat :=
  ((first.zip second).takeWhile fun pair => pair.1 = pair.2).map Prod.fst

def shared : List Opening → List Nat
  | [] => []
  | first :: others =>
      others.foldl (fun bytes opening => sharedBytes bytes opening.bytes) first.bytes

def frequentBytes : List Text.CodeRange :=
  Text.rangesOf ("a d 20 28-29 2c-32 39-3a 5f 61-69 6c-70 72-76 78-79 7c 80-84 90 b1 b5-b7 " ++
    "b9-bd bf-ff")

def isFrequent (byte : Nat) : Bool := frequentBytes.any fun range => range.contains byte

def cuts : List (Nat × Nat) := [(5, 10), (4, 10), (3, 64), (2, 64), (1, 10)]

def shorten : List (Nat × Nat) → List Opening → List Opening
  | [], openings => openings
  | (length, count) :: cuts, openings =>
      if openings.length ≤ count then openings else shorten cuts (leastOf (cutAll length openings))

/-- Whether looking for the openings finds all matches and nothing else.  It is not tried if they
can be cut to something that is faster to look for: a rare first byte, a long beginning that they
share, or a few beginnings of at least three bytes. -/
def isEnough (openings : List Opening) : Bool :=
  let least := leastOf openings
  let shared := shared least
  let isShort := least.all Opening.whole && least.length ≤ 16
  if openings.isEmpty || openings.any fun opening => opening.bytes.isEmpty then false
  else if 1 < openings.length && shared.length ≤ 3 && shared.head?.any (!isFrequent ·) then
    (cutAll 1 least).all Opening.whole
  else
    let kept := if 4 < shared.length || (1 < shared.length && !isShort) then
        joinAll (cutAll shared.length least)
      else least
    let shorter := shorten cuts kept
    kept.all Opening.whole &&
      (shorter.all Opening.whole || 64 < shorter.length ||
        shorter.any fun opening => opening.bytes.length ≤ 2)

end Opening

namespace Openings

def limit : Nat := 250

def longest : Nat := 100

def blank : Openings := some [.blank]

def unfinished (openings : Openings) : Openings := openings.map (List.map Opening.unfinished)

def goesOn (openings : Openings) : Bool := openings.any fun openings => openings.any Opening.whole

def followedBy : Openings → Openings → Openings
  | none, _ => none
  | some first, second =>
      match second.filter fun second => first.length * second.length ≤ limit with
      | some second => some (Opening.cutAll longest (Opening.product first second))
      | none =>
          if first.any fun opening => opening.bytes.isEmpty then none
          else unfinished (some first)

def either : Openings → Openings → Openings
  | some first, some second =>
      if first.length + second.length ≤ limit then some (Opening.joinAll (first ++ second))
      else
        let first := Opening.joinAll (Opening.cutAll 4 first)
        let second := Opening.joinAll (Opening.cutAll 4 second)
        if first.length + second.length ≤ limit then some (Opening.joinAll (first ++ second))
        else none
  | _, _ => none

def ofClass (members : CharClass) : Openings :=
  if members.ranges.foldl (fun total range => total + range.size) 0 ≤ 10 then
    some (Opening.joinAll (members.ranges.flatMap fun range =>
      (List.range' range.first range.size).map fun code =>
        ⟨Text.Utf8.encode (Char.ofNat code), true⟩))
  else none

def times (body : Openings) : Nat → Openings → Openings
  | 0, openings => openings
  | count + 1, openings =>
      if openings.goesOn then times body count (openings.followedBy body) else openings

def repeated (body : Openings) (least : Nat) (most : Option Nat) (greedy : Bool) : Openings :=
  if least = 0 then
    let body := if most = some 1 then body else body.unfinished
    if greedy then body.either blank else blank.either body
  else
    let openings := times body (min least 10) blank
    if most = some least && least ≤ 10 then openings else openings.unfinished

mutual

def ofShape : Shape → Openings
  | .empty | .look _ => blank
  | .literal text => some [.cut longest ⟨text.flatMap Text.Utf8.encode, true⟩]
  | .characters members => ofClass members
  | .capture _ body => ofShape body
  | .sequence parts => ofSequence blank parts
  | .either choices => ofChoices (some []) choices
  | .repetition body least most greedy => repeated (ofShape body) least most greedy

def ofSequence (before : Openings) : List Shape → Openings
  | [] => before
  | part :: parts =>
      if before.goesOn then ofSequence (before.followedBy (ofShape part)) parts else before

def ofChoices (before : Openings) : List Shape → Openings
  | [] => before
  | choice :: choices => ofChoices (before.either (ofShape choice)) choices

end

end Openings

namespace Shape

mutual

def isPlain : Shape → Bool
  | empty | literal _ | characters _ => true
  | look _ | capture _ _ => false
  | sequence parts | either parts => arePlain parts
  | repetition body _ _ _ => body.isPlain

def arePlain : List Shape → Bool
  | [] => true
  | part :: parts => part.isPlain && arePlain parts

end

def isLiteral : Shape → Bool
  | literal _ => true
  | _ => false

def isDictionary : Shape → Bool
  | either choices => 3000 ≤ choices.length && choices.all isLiteral
  | _ => false

def isListed (shape : Shape) : Bool :=
  (shape.isPlain && (Openings.ofShape shape).any Opening.isEnough) || shape.isDictionary

end Shape

end CrossBuild
