import CommandStream.Markup.DocumentType
import CommandStream.Markup.Element

/-!
# Documents

A whole document: its own declaration at the very front, comments and processing instructions, at
most one document type, one element, and again comments and processing instructions.
-/

namespace CommandStream.Markup
open Text

/-- What a document declares about itself. -/
structure DocumentHead where
  encoding : Option String
  standalone : Bool

namespace DocumentHead

/-- The head of a document that declares nothing. -/
def plain : DocumentHead := ⟨none, false⟩

/-- Characters of a declared value. -/
def isValueChar (c : Char) : Bool :=
  c.isAlphanum || c == '.' || c == '-' || c == '_'

/-- The next clause of a declaration, if any is left, and the rest. A clause is a name, an equals
sign and a quoted value, behind white space. -/
def clause? (cs : List Char) : Option (Option (String × List Char) × List Char) :=
  match cs, skipSpace cs with
  | _, [] => some (none, [])
  | [], _ => some (none, [])
  | c :: _, behind =>
    if !isSpace c then none
    else
      let isName (c : Char) : Bool := c != '=' && !isSpace c
      let name := behind.takeWhile isName
      match skipSpace (behind.dropWhile isName) with
      | '=' :: rest =>
        match skipSpace rest with
        | mark :: rest =>
          if mark = '"' ∨ mark = '\'' then
            match rest.dropWhile isValueChar with
            | close :: after =>
              if close = mark then
                some (some (String.ofList name, rest.takeWhile isValueChar), after)
              else none
            | [] => none
          else none
        | [] => none
      | _ => none

/-- The last clause, which tells whether the document stands alone. -/
def standalone? (encoding : Option String) (name : String) (value rest : List Char) :
    Option DocumentHead :=
  if name ≠ "standalone" ∨ !rest.all isSpace then none
  else if value = "yes".toList then some ⟨encoding, true⟩
  else if value = "no".toList then some ⟨encoding, false⟩
  else none

/-- The head that the text of a declaration describes. -/
def ofClauses? (cs : List Char) : Option DocumentHead := do
  match ← clause? cs with
  | (some ("version", _), rest) =>
    match ← clause? rest with
    | (none, _) => some plain
    | (some ("encoding", value), rest) =>
      match value with
      | [] => none
      | first :: _ =>
        if !first.isAlpha then none
        else
          let encoding := some (String.ofList value)
          match ← clause? rest with
          | (none, _) => some ⟨encoding, false⟩
          | (some (name, value), rest) => standalone? encoding name value rest
    | (some (name, value), rest) => standalone? none name value rest
  | _ => none

/-- The head of a document, and the rest behind it. -/
def read? (cs : List Char) : Option (DocumentHead × List Char) :=
  match afterPrefix? "<?xml".toList cs with
  | none => some (plain, cs)
  | some rest =>
    match rest with
    | c :: _ =>
      if isSpace c || c == '?' then do
        let (clauses, rest) ← splitAt? "?>" rest
        some (← ofClauses? clauses, rest)
      else some (plain, cs)
    | [] => none

end DocumentHead

/-- The text behind white space, comments and processing instructions, of at most `fuel`, and the
growth there. -/
def misc? (o : Origin) : Nat → Growth → List Char → Option (Growth × List Char)
  | 0, _, _ => none
  | fuel + 1, g, cs => do
    let g ← o.read? g (o.size (cs.takeWhile isSpace))
    match cs.dropWhile isSpace with
    | '<' :: '!' :: '-' :: '-' :: rest => do
      let (text, rest) ← comment? rest
      misc? o fuel (← o.read? g (o.size text + o.marks 7)) rest
    | '<' :: '?' :: rest => do
      let (text, rest) ← instruction? o.ordinals rest
      misc? o fuel (← o.read? g (o.size text + o.marks 4)) rest
    | rest => some (g, rest)

/-- Everything up to the root element: what a document type in it declares, and the rest. -/
def prolog? (o : Origin) (standalone : Bool) (g : Growth) (cs : List Char) : Option Prolog := do
  let opening := "<!DOCTYPE".toList
  let (g, rest) ← misc? o (cs.length + 1) g cs
  match afterPrefix? opening rest with
  | none => some ⟨Declarations.empty, g, rest⟩
  | some (c :: rest) =>
    if isSpace c then do
      let prolog ← documentType? o standalone opening.length g (c :: rest)
      let (growth, rest) ← misc? o (prolog.rest.length + 1) prolog.growth prolog.rest
      some { prolog with growth, rest }
    else none
  | some [] => none

/-- The root element of a document behind its head, of which so much has been read. -/
def Element.ofBody? (o : Origin) (standalone : Bool) (g : Growth) (cs : List Char) :
    Option Element :=
  if cs.all isLegal then do
    let prolog ← prolog? o standalone g cs
    let d := prolog.declarations
    match prolog.rest with
    | '<' :: c :: _ =>
      if startsName o.ordinals c then do
        let (content, rest) ← readContent? Construction.step? d (d.expansionBound prolog.rest) [] o
          ⟨[], Construction.start, prolog.growth⟩ prolog.rest
        match ← misc? o (rest.length + 1) content.growth rest with
        | (_, []) => content.made.root
        | _ => none
      else none
    | _ => none
  else none

end CommandStream.Markup
