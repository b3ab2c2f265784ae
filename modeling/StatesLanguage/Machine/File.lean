import StatesLanguage.Machine.Loading
import StatesLanguage.Yaml.Reader

/-!
# Definition files

A file is read as YAML if its extension says so, in either case, and as JSON
otherwise.  The extension is what follows the last point of the file's name, unless
the point comes first.
-/

namespace StatesLanguage

/-- How a definition is written. -/
inductive DefinitionFormat where
  | json
  | yaml
  deriving DecidableEq, Repr

namespace DefinitionFormat

/-- The parts of a path between slashes that name something. -/
def components (path : List Char) : List (List Char) :=
  (path.splitOnP (· = '/')).filter fun part => !part.isEmpty && part ≠ ['.']

/-- The part of a name after its last point, with what stands before that point. -/
def splitExtension : List Char → Option (List Char × List Char)
  | [] => none
  | character :: rest =>
      match splitExtension rest with
      | some (stem, extension) => some (character :: stem, extension)
      | none => if character = '.' then some ([], rest) else none

/-- The extension of the file that a path names. -/
def extension? (path : List Char) : Option (List Char) := do
  let name ← (components path).getLast?
  if name = ['.', '.'] then none
  else
    let (stem, extension) ← splitExtension name
    if stem.isEmpty then none else some extension

/-- The format of the file that a path names. -/
def ofPath (path : String) : DefinitionFormat :=
  match extension? path.toList with
  | some extension =>
      let lower := String.ofList (extension.map Char.toLower)
      if lower = "yaml" ∨ lower = "yml" then .yaml else .json
  | none => .json

end DefinitionFormat

namespace Machine

def ofYaml (text : String) : Except Failure Machine :=
  match Yaml.read? text with
  | some document => ofDocument document
  | none => .error (.unreadable "not a document")

/-- The valid machine that a text of either format writes. -/
def ofText (format : DefinitionFormat) (text : String) : Except Failure Machine :=
  match format with
  | .json => ofJson text
  | .yaml => ofYaml text

/-- The text of a file that is there and encoded in UTF-8. -/
def textOfFile (content : Option ByteArray) : Except Failure String :=
  match content with
  | none => .error (.inaccessible "no such file")
  | some bytes =>
      match String.fromUTF8? bytes with
      | some text => .ok text
      | none => .error (.inaccessible "the file does not hold text")

def ofFile (path : String) (content : Option ByteArray) : Except Failure Machine := do
  let text ← textOfFile content
  ofText (DefinitionFormat.ofPath path) text

end Machine

end StatesLanguage
