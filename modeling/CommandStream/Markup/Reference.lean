import CommandStream.Keyed
import CommandStream.Markup.Character
import CommandStream.Text.Edit

/-!
# Names and references

The lexical parts that tags, attribute values and declarations share: names, qualified names,
references to characters and entities, and the search for the end of a comment or section.
-/

namespace CommandStream.Markup
open Text

/-- A name without colon, and the rest. -/
def name? (ordinals : Bool) (cs : List Char) : Option (List Char × List Char) :=
  match cs with
  | [] => none
  | c :: rest =>
    if startsName ordinals c then
      some (c :: rest.takeWhile (continuesName ordinals), rest.dropWhile (continuesName ordinals))
    else none

/-- Whether a text is a name without colon. -/
def isName (ordinals : Bool) (cs : List Char) : Bool :=
  match cs with
  | [] => false
  | c :: rest => startsName ordinals c && rest.all (continuesName ordinals)

/-- A name with an optional qualifier in front of a colon. -/
structure QualifiedName where
  qualifier : Option String
  stem : String
  deriving DecidableEq

namespace QualifiedName

/-- The name as it is written. -/
def written (n : QualifiedName) : String :=
  match n.qualifier with
  | some q => q ++ ":" ++ n.stem
  | none => n.stem

/-- The name that a text writes: a qualifier is what stands in front of the first colon. -/
def ofText (cs : List Char) : QualifiedName :=
  match cs.dropWhile (· != ':') with
  | [] => ⟨none, String.ofList cs⟩
  | _ :: stem => ⟨some (String.ofList (cs.takeWhile (· != ':'))), String.ofList stem⟩

end QualifiedName

/-- A qualified name, and the rest. -/
def qualifiedName? (ordinals : Bool) (cs : List Char) : Option (QualifiedName × List Char) := do
  let (first, rest) ← name? ordinals cs
  match rest with
  | ':' :: behind =>
    let (second, rest) ← name? ordinals behind
    some (⟨some (String.ofList first), String.ofList second⟩, rest)
  | _ => some (⟨none, String.ofList first⟩, rest)

/-- A text without its leading white space. -/
def skipSpace (cs : List Char) : List Char :=
  cs.dropWhile isSpace

/-- The part in front of the first occurrence of a text, behind a part already read in reverse,
and the rest behind the occurrence. -/
def splitFrom? (mark read : List Char) : List Char → Option (List Char × List Char)
  | [] => none
  | c :: cs =>
    match afterPrefix? mark (c :: cs) with
    | some rest => some (read.reverse, rest)
    | none => splitFrom? mark (c :: read) cs

/-- The part in front of the first occurrence of a text, and the rest behind it. -/
def splitAt? (mark : String) (cs : List Char) : Option (List Char × List Char) :=
  splitFrom? mark.toList [] cs

/-- What a reference stands for. -/
inductive Reference where
  | char (c : Char)
  | entity (name : String)

/-- The character of a number, if it may stand in a document. -/
def legalChar? (n : Nat) : Option Char :=
  if n < 0xD800 ∨ (0xDFFF < n ∧ n < 0x110000) then
    if isLegal (Char.ofNat n) then some (Char.ofNat n) else none
  else none

/-- The value of a hexadecimal digit. -/
def hexDigit? (c : Char) : Option Nat :=
  if c.isDigit then some (c.toNat - '0'.toNat)
  else if 'a' ≤ c ∧ c ≤ 'f' then some (c.toNat - 'a'.toNat + 10)
  else if 'A' ≤ c ∧ c ≤ 'F' then some (c.toNat - 'A'.toNat + 10)
  else none

/-- The number of digits in some base. -/
def number? (base : Nat) (cs : List Char) : Option Nat :=
  match cs with
  | [] => none
  | _ =>
    cs.foldlM (fun n c =>
      match hexDigit? c with
      | some d => if d < base then some (n * base + d) else none
      | none => none) 0

/-- The greatest number of digits, leading zeros apart, of a number that a character may have. -/
def digitLimit : Nat := 8

/-- The character that digits in some base name. -/
def numberedChar? (base : Nat) (digits : List Char) : Option Char :=
  let significant := digits.dropWhile (· == '0')
  if significant.length ≤ digitLimit then (number? base significant).bind legalChar? else none

/-- What the text of a reference, between ampersand and semicolon, stands for. -/
def reference? (ordinals : Bool) (cs : List Char) : Option Reference :=
  match cs with
  | '#' :: 'x' :: digits => (numberedChar? 16 digits).map .char
  | '#' :: digits => (numberedChar? 10 digits).map .char
  | _ => if isName ordinals cs then some (.entity (String.ofList cs)) else none

/-- The characters that may be named in every document. -/
def predefined? (name : String) : Option Char :=
  [("lt", '<'), ("gt", '>'), ("amp", '&'), ("quot", '"'), ("apos", '\'')].lookup name

/-- Whether a text, behind the opening of a processing instruction and in front of its end, names a
target and goes on with white space. Targets that read `xml` in any case are kept for the document's
own declaration. -/
def isInstruction (ordinals : Bool) (cs : List Char) : Bool :=
  match name? ordinals cs with
  | none => false
  | some (target, rest) =>
    target.map Char.toLower != "xml".toList && (rest.head?.map isSpace).getD true

/-- Behind the opening of a processing instruction: its text, and the rest behind its end. -/
def instruction? (ordinals : Bool) (cs : List Char) : Option (List Char × List Char) := do
  let (text, rest) ← splitAt? "?>" cs
  if isInstruction ordinals text then some (text, rest) else none

/-- Behind the opening of a comment: its text, and the rest behind its end. Two hyphens only end a
comment. -/
def comment? (cs : List Char) : Option (List Char × List Char) := do
  let (text, rest) ← splitAt? "--" cs
  match rest with
  | '>' :: rest => some (text, rest)
  | _ => none

end CommandStream.Markup
