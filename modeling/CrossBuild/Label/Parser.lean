import CrossBuild.Label.Basic
import CrossBuild.Text.Basic

/-!
Reading labels.  The accepted spellings are `//package:name`, `//package`, `@repository//...`,
`@@repository//...` and `@//...`; a spelling without a name takes the last segment of its package.
-/

namespace CrossBuild

/-- Why a text is not a label.  Every constructor carries the whole text. -/
inductive LabelError where
  | missingRoot (text : String)
  | missingPackageSeparator (text : String)
  | emptyName (text : String)
  | invalidCharacter (text : String) (character : Char)
deriving DecidableEq

namespace LabelError

def text : LabelError → String
  | missingRoot text | missingPackageSeparator text | emptyName text
  | invalidCharacter text _ => text

def reason : LabelError → String
  | missingRoot _ => "labels must start with '//' or '@'"
  | missingPackageSeparator _ => "repository name must be followed by '//'"
  | emptyName _ => "empty target name"
  | invalidCharacter _ character => "invalid character " ++ Text.quoteCharacter character

def message (error : LabelError) : String :=
  "invalid label '" ++ error.text ++ "': " ++ error.reason

end LabelError

namespace Label

def splitAtRoot : List Char → Option (List Char × List Char)
  | [] => none
  | '/' :: '/' :: rest => some ([], rest)
  | first :: rest => (splitAtRoot rest).map fun parts => (first :: parts.1, parts.2)

def splitAtColon : List Char → Option (List Char × List Char)
  | [] => none
  | first :: rest =>
      if first = ':' then some ([], rest)
      else (splitAtColon rest).map fun parts => (first :: parts.1, parts.2)

def lastSegment (package : List Char) : List Char :=
  (package.reverse.takeWhile (· ≠ '/')).reverse

def splitPath (path : List Char) : List Char × List Char :=
  (splitAtColon path).getD (path, lastSegment path)

def dropMark : List Char → List Char
  | '@' :: rest => rest
  | characters => characters

def splitRepository (text : String) : Except LabelError (List Char × List Char) :=
  match text.toList with
  | '@' :: rest =>
      match splitAtRoot (dropMark rest) with
      | some parts => .ok parts
      | none => .error (.missingPackageSeparator text)
  | '/' :: '/' :: rest => .ok ([], rest)
  | _ => .error (.missingRoot text)

def isForbidden (character : Char) : Bool :=
  Text.isBlank character || character == ':' || character == '@'

/-- An empty name is reported before a forbidden character, and of several forbidden characters
the first in the order repository, package, name. -/
def parse (text : String) : Except LabelError Label := do
  let (repository, path) ← splitRepository text
  let (package, name) := splitPath path
  if name.isEmpty then
    throw (.emptyName text)
  match (repository ++ package ++ name).find? isForbidden with
  | some character => throw (.invalidCharacter text character)
  | none =>
      return { repository := String.ofList repository
               package := String.ofList package
               name := String.ofList name }

end Label

end CrossBuild
