import CommandStream.Keyed
import CommandStream.Text.CaseMap
import CommandStream.Text.Class
import CommandStream.Text.Edit

/-!
# Names of enum groups and their keys

An emitted enum class is named like its group, up to a few names that would be ambiguous, and its
keys are the symbols without prefix, each segment with one capital. A digit ends a word within a
segment, acronyms stay capitals, and a key that would start with a digit gets an `E` in front.
-/

namespace CommandStream.Description
open Text

/-- Segments that stay capitals. -/
def acronyms : List String := [
  "AMD", "APPLE", "ARB", "ASTC", "ATI", "BGR", "BGRA", "BPTC", "DXT1", "DXT3", "DXT5", "EAC",
  "ETC2", "EXT", "HDR", "ID", "INTEL", "KHR", "LOD", "MESA", "NV", "OES", "RGB", "RGBA", "RGTC",
  "S3TC", "SGIS", "SGIX", "SRGB", "UV"]

/-- Groups whose own name would be ambiguous in emitted code, with the name they get. -/
def groupNameExceptions : Keyed String := [
  ("Boolean", "BooleanValue"), ("Buffer", "ClearBufferType"), ("String", "StringName"),
  ("Texture", "TextureUnitName")]

/-- The name of the enum class of a group. -/
def groupTypeName (group : String) : String :=
  (Keyed.find? groupNameExceptions group).getD group

/-- The characters of a segment, the next letter as a capital or not. -/
def spell (capital : Bool) : List Char → List Char
  | [] => []
  | c :: rest =>
    if isDigit c then c :: spell true rest
    else (if capital then capitalForm c else smallForm c) ++ spell false rest

/-- A segment of a key. -/
def segmentKey (segment : List Char) : List Char :=
  if acronyms.contains (String.ofList segment) then segment else spell true segment

/-- A key that starts with a digit behind a letter. -/
def startWithLetter (key : List Char) : List Char :=
  match key with
  | c :: _ => if isDigit c then 'E' :: key else key
  | [] => []

/-- The key of a symbol without prefix. -/
def keyOf (symbol : String) : String :=
  String.ofList (startWithLetter ((pieces '_' symbol.toList).flatMap segmentKey))

end CommandStream.Description
