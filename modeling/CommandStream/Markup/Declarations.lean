import CommandStream.Markup.Growth
import CommandStream.Markup.Reference

/-!
# Declared entities and attributes

What a document type declares that bears on the content: general entities, and the attributes of
elements with their defaults. `attributeValue?` turns the text between the quotes of an attribute
into its value.
-/

namespace CommandStream.Markup

/-- A general entity. -/
inductive Entity where
  /-- Replacement text within the document. -/
  | inner (text : List Char)
  | outer
  /-- Data that is no markup. -/
  | unparsed

/-- An attribute as an element type declares it. -/
structure AttributeDeclaration where
  element : String
  name : QualifiedName
  /-- Whether the values are tokens, so that white space between them is of no account. -/
  tokenized : Bool
  default : Option (List Char)

/-- What a document type declares. -/
structure Declarations where
  entities : Keyed Entity
  attributes : List AttributeDeclaration
  /-- Whether no declaration can stand elsewhere. -/
  complete : Bool

/-- A blank and the rest behind it: a line end of two characters is one blank in a document, while
in the replacement text of an entity a carriage return ends no line. -/
def takeBlank (o : Origin) (c : Char) (cs : List Char) : List Char × List Char :=
  match c, cs with
  | '\r', '\n' :: rest => if o.own then (['\r', '\n'], rest) else ([c], cs)
  | _, _ => ([c], cs)

/-- Whether an attribute value stands for itself, so that it need not be read again: it has no
references, and no white space but single spaces between other characters. -/
def isPlainValue (cs : List Char) : Bool :=
  !cs.any (fun c => c == '&' || c == '\t' || c == '\r' || c == '\n') &&
    cs.head? != some ' ' && cs.getLast? != some ' ' && !Text.occursIn [' ', ' '] cs

namespace Declarations

/-- The declarations of a document without document type. -/
def empty : Declarations := ⟨[], [], true⟩

variable (d : Declarations)

/-- The attributes of an element type; the first declaration of a name counts. -/
def attributesOf (element : String) : List AttributeDeclaration :=
  (d.attributes.filter fun a => a.element == element).foldl
    (fun found a => if found.any fun b => b.name = a.name then found else found ++ [a]) []

/-- The characters of an attribute value in reverse, in front of those already `read`. White space
becomes spaces, and entities are replaced, but not within themselves: `active` names those that are
being replaced. What has been read as part of a tag before is not counted again. -/
def readValue? : Nat → List String → Origin → Bool → List Char → Growth → List Char →
    Option (List Char × Growth)
  | 0, _, _, _, _, _, _ => none
  | _, _, _, _, read, g, [] => some (read, g)
  | fuel + 1, active, o, counted, read, g, c :: cs =>
    let count (g : Growth) (text : List Char) : Option Growth :=
      if counted then o.read? g (o.size text) else some g
    if c = '&' then do
      let (text, rest) ← splitAt? ";" cs
      let g ← count g ('&' :: ';' :: text)
      match ← reference? o.ordinals text with
      | .char c => readValue? fuel active o counted (c :: read) g rest
      | .entity name =>
        match predefined? name with
        | some c => readValue? fuel active o counted (c :: read) g.insertOne rest
        | none =>
          match Keyed.find? d.entities name with
          | some (.inner text) =>
            if active.contains name then none
            else do
              let (read, g) ← readValue? fuel (name :: active) .entity true read g text
              readValue? fuel active o counted read g rest
          | some _ => none
          | none => if d.complete then none else readValue? fuel active o counted read g rest
    else if c = '<' then none
    else if isSpace c then do
      let (blank, rest) := takeBlank o c cs
      readValue? fuel active o counted (' ' :: read) (← count g blank) rest
    else do
      let isData (c : Char) : Bool := c != '&' && c != '<' && !isSpace c
      let data := c :: cs.takeWhile isData
      readValue? fuel active o counted (data.reverse ++ read) (← count g data)
        (cs.dropWhile isData)

/-- How deep the replacement of references can go: a step per character of the text and of every
entity. -/
def expansionBound (cs : List Char) : Nat :=
  let sizes := d.entities.map fun entry =>
    match entry.2 with
    | .inner text => text.length + 1
    | _ => 1
  cs.length + sizes.foldr (· + ·) 0 + 1

/-- Spaces trimmed and runs of them joined into one. -/
def joinTokens (cs : List Char) : List Char :=
  let joined := cs.foldl (fun kept c =>
    if c = ' ' ∧ (kept.head? = none ∨ kept.head? = some ' ') then kept else c :: kept) []
  (if joined.head? = some ' ' then joined.tail else joined).reverse

/-- The value of the text between the quotes of an attribute. -/
def attributeValue? (o : Origin) (counted tokenized : Bool) (g : Growth) (cs : List Char) :
    Option (List Char × Growth) := do
  let (read, g) ← d.readValue? (d.expansionBound cs) [] o counted [] g cs
  some (if tokenized then joinTokens read.reverse else read.reverse, g)

end Declarations

end CommandStream.Markup
