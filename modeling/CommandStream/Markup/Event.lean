import CommandStream.Markup.Declarations
import CommandStream.Text.Line

/-!
# Content as events

The content of a document as a sequence of tags and texts, handed on one after another. Comments and
processing instructions leave no event, references are replaced, and every tag is closed in turn;
the replacement text of an entity is content of its own.
-/

namespace CommandStream.Markup
open Text

/-- A part of content. -/
inductive Event where
  | start (name : QualifiedName) (attributes : List (QualifiedName × List Char))
  | finish
  | text (cs : List Char)

/-- A start tag between its angle brackets, with the attributes as they are written. -/
structure StartTag where
  name : QualifiedName
  attributes : List (QualifiedName × List Char)
  /-- Whether the tag closes itself. -/
  closed : Bool

/-- The text up to the first closing angle bracket outside of quotes, behind what has been read in
reverse, and the rest behind the bracket. -/
def tagText? (quote : Option Char) (read : List Char) :
    List Char → Option (List Char × List Char)
  | [] => none
  | c :: cs =>
    match quote with
    | some q => tagText? (if c = q then none else some q) (c :: read) cs
    | none =>
      if c = '>' then some (read.reverse, cs)
      else tagText? (if c = '"' ∨ c = '\'' then some c else none) (c :: read) cs

/-- An equals sign and a quoted text behind an attribute name: the text, and the rest. -/
def attributeText? (cs : List Char) : Option (List Char × List Char) :=
  match skipSpace cs with
  | '=' :: rest =>
    match skipSpace rest with
    | '"' :: rest => splitAt? "\"" rest
    | '\'' :: rest => splitAt? "'" rest
    | _ => none
  | _ => none

/-- The attributes of a start tag up to its end, of at most `fuel`. -/
def attributes? (ordinals : Bool) (fuel : Nat) (read : List (QualifiedName × List Char))
    (cs : List Char) : Option (List (QualifiedName × List Char)) :=
  match fuel with
  | 0 => none
  | fuel + 1 =>
    match cs, skipSpace cs with
    | _, [] => some read.reverse
    | [], _ => some read.reverse
    | c :: _, rest =>
      if isSpace c then do
        let (name, rest) ← qualifiedName? ordinals rest
        let (text, rest) ← attributeText? rest
        attributes? ordinals fuel ((name, text) :: read) rest
      else none

/-- The start tag of a text between angle brackets. -/
def StartTag.ofText? (ordinals : Bool) (cs : List Char) : Option StartTag := do
  let closed := cs.getLast? == some '/'
  let (name, rest) ← qualifiedName? ordinals (if closed then cs.dropLast else cs)
  some ⟨name, ← attributes? ordinals (rest.length + 1) [] rest, closed⟩

/-- The name of an end tag, of which the text behind the slash is given. -/
def endName? (ordinals : Bool) (cs : List Char) : Option QualifiedName := do
  let (name, rest) ← qualifiedName? ordinals cs
  if rest.all isSpace then some name else none

/-- The attribute values of a tag, behind those already read in reverse. In a tag that closes itself
they are not counted on top of the tag. -/
def valuesOf? (d : Declarations) (o : Origin) (tag : StartTag) :
    List (QualifiedName × List Char) → Growth → List (QualifiedName × List Char) →
    Option (List (QualifiedName × List Char) × Growth)
  | read, g, [] => some (read.reverse, g)
  | read, g, (name, text) :: rest => do
    let tokenized :=
      (d.attributesOf tag.name.written).any fun a => a.name = name && a.tokenized
    let counted := !tag.closed && !isPlainValue text
    let (value, g) ← d.attributeValue? o counted tokenized g text
    valuesOf? d o tag ((name, value) :: read) g rest

/-- The attributes of a tag with their values, to which the defaults of missing ones are added. -/
def attributesOf? (d : Declarations) (o : Origin) (g : Growth) (tag : StartTag) :
    Option (List (QualifiedName × List Char) × Growth) := do
  let (values, g) ← valuesOf? d o tag [] g tag.attributes
  let given := values.map Prod.fst
  if given.eraseDups.length < given.length then none
  else
    let defaults := (d.attributesOf tag.name.written).filterMap fun a =>
      match a.default with
      | some value => if given.contains a.name then none else some (a.name, value)
      | none => none
    some (values ++ defaults, g)

/-- The growth after each of the line ends and other parts of a text has been read. -/
def readLines? (o : Origin) (g : Growth) : List (List Char) → Option Growth
  | [] => some g
  | part :: rest => do readLines? o (← o.read? g (o.size part)) rest

/-- Parts with another one, given in reverse, in front of them, unless it is empty. -/
def pushPart (parts : List (List Char)) (part : List Char) : List (List Char) :=
  if part.isEmpty then parts else part.reverse :: parts

/-- The line ends of a text, and what stands between them, behind parts already read in reverse. -/
def linePartsFrom (parts : List (List Char)) (part : List Char) : List Char → List (List Char)
  | [] => (pushPart parts part).reverse
  | '\r' :: '\n' :: rest => linePartsFrom (['\r', '\n'] :: pushPart parts part) [] rest
  | c :: rest =>
    if c = '\r' ∨ c = '\n' then linePartsFrom ([c] :: pushPart parts part) [] rest
    else linePartsFrom parts (c :: part) rest

/-- The line ends of a text, and what stands between them. -/
def lineParts (cs : List Char) : List (List Char) :=
  linePartsFrom [] [] cs

/-- A reading of content: the open elements, the innermost first, what the events have been made
into, and the growth. -/
structure Content (σ : Type) where
  stack : List QualifiedName
  made : σ
  growth : Growth

namespace Content

variable {σ : Type} (step : σ → Event → Option σ) (d : Declarations) (o : Origin) (x : Content σ)

/-- The reading after so many bytes. -/
def read? (bytes : Nat) : Option (Content σ) := do
  some { x with growth := ← o.read? x.growth bytes }

/-- The reading with an event. -/
def emit? (e : Event) : Option (Content σ) := do
  some { x with made := ← step x.made e }

/-- The reading with a text of several lines. In the replacement text of an entity a carriage return
ends no line. -/
def text? (cs : List Char) : Option (Content σ) := do
  let growth ← readLines? o x.growth (lineParts cs)
  emit? step { x with growth } (.text (if o.own then unifyLineEnds cs else cs))

/-- The reading with a start tag. -/
def open? (cs : List Char) : Option (Content σ) := do
  let x ← x.read? o (o.size cs + o.marks 2)
  let tag ← StartTag.ofText? o.ordinals cs
  let (attributes, growth) ← attributesOf? d o x.growth tag
  let x ← emit? step { x with growth } (.start tag.name attributes)
  if tag.closed then emit? step x .finish else some { x with stack := tag.name :: x.stack }

/-- The reading with an end tag. -/
def close? (cs : List Char) : Option (Content σ) := do
  let x ← x.read? o (o.size cs + o.marks 3)
  let name ← endName? o.ordinals cs
  match x.stack with
  | top :: below => if top = name then emit? step { x with stack := below } .finish else none
  | [] => none

/-- The reading with the part at the front of a text that starts with no reference, and the rest. -/
def part? (cs : List Char) : Option (Content σ × List Char) :=
  match cs with
  | '<' :: '/' :: rest => do
    let (text, rest) ← splitAt? ">" rest
    some (← close? step o x text, rest)
  | '<' :: '!' :: '-' :: '-' :: rest => do
    let (text, rest) ← comment? rest
    some (← x.read? o (o.size text + o.marks 7), rest)
  | '<' :: '!' :: rest => do
    let (text, rest) ← splitAt? "]]>" (← afterPrefix? "[CDATA[".toList rest)
    let x ← text? step o (← x.read? o (o.marks 9)) text
    some (← x.read? o (o.marks 3), rest)
  | '<' :: '?' :: rest => do
    let (text, rest) ← instruction? o.ordinals rest
    some (← x.read? o (o.size text + o.marks 4), rest)
  | '<' :: rest => do
    let (text, rest) ← tagText? none [] rest
    some (← open? step d o x text, rest)
  | _ =>
    let plain (c : Char) : Bool := c != '<' && c != '&'
    let text := cs.takeWhile plain
    if occursIn "]]>".toList text then none
    else do some (← text? step o x text, cs.dropWhile plain)

end Content

/-- Reads content, of at most `fuel` parts, and the rest behind it. The document's own ends where
its root element is closed, that of an entity at its end. Entities are not replaced within
themselves: `active` names those that are being replaced. -/
def readContent? {σ : Type} (step : σ → Event → Option σ) (d : Declarations) :
    Nat → List String → Origin → Content σ → List Char → Option (Content σ × List Char)
  | 0, _, _, _, _ => none
  | fuel + 1, active, o, x, cs =>
    match cs with
    | [] => if o.own || !x.stack.isEmpty then none else some (x, [])
    | '&' :: rest => do
      let (text, rest) ← splitAt? ";" rest
      let x ← x.read? o (o.size text + o.marks 2)
      match ← reference? o.ordinals text with
      | .char c => readContent? step d fuel active o (← x.emit? step (.text [c])) rest
      | .entity name =>
        match predefined? name with
        | some c =>
          let x := { x with growth := x.growth.insertOne }
          readContent? step d fuel active o (← x.emit? step (.text [c])) rest
        | none =>
          match Keyed.find? d.entities name with
          | some (.inner text) =>
            if active.contains name then none
            else do
              let (inner, _) ←
                readContent? step d fuel (name :: active) .entity { x with stack := [] } text
              readContent? step d fuel active o { inner with stack := x.stack } rest
          | _ => none
    | _ => do
      let (x, rest) ← x.part? step d o cs
      if o.own && x.stack.isEmpty then some (x, rest) else readContent? step d fuel active o x rest

end CommandStream.Markup
