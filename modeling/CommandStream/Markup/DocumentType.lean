import CommandStream.Markup.Declarations

/-!
# Document types

The document type declaration: its name, the place of an external part, which is never read, and
the declarations between brackets, with comments and processing instructions between them.
Declarations are read as tokens, then clause by clause. After a reference to a parameter entity
further declarations no longer count, unless the document stands alone.
-/

namespace CommandStream.Markup
open Text

namespace DocumentType

/-- A token of a declaration. -/
inductive Token where
  | name (text : String)
  | qualified (text : String)
  /-- Name characters that form no name. -/
  | word (text : String)
  /-- A name with a mark of repetition. -/
  | repeated (text : String)
  | keyword (text : String)
  /-- A quoted text, with the number of bytes from the opening of the declaration to its end. -/
  | literal (cs : List Char) (reach : Nat)
  | percent
  | parameterEntity
  | declaration (kind : String)
  | comment
  | instruction
  | close
  | openGroup
  | closeGroup (mark : Option Char)
  | openBracket
  | closeBracket
  | bar
  | comma
  deriving DecidableEq

/-- Whether the text at hand is at its end or begins with one of some characters. -/
def begins (marks : String) (cs : List Char) : Bool :=
  match cs with
  | [] => false
  | c :: _ => marks.toList.contains c

/-- White space as a set of characters. -/
def gaps : String := " \t\n\r"

/-- A token at the front of a text. -/
structure Lexeme where
  token : Token
  /-- The number of its bytes. -/
  size : Nat
  rest : List Char

/-- The lexeme of a name behind which the text goes on. -/
def nameLexeme? (o : Origin) (text : List Char) (make : String → Token) (rest : List Char) :
    Option Lexeme :=
  if begins (gaps ++ ">),|[%") rest then some ⟨make (String.ofList text), o.size text, rest⟩
  else
    match rest with
    | c :: rest =>
      if c = '?' ∨ c = '*' ∨ c = '+' then
        some ⟨.repeated (String.ofList text), o.size text + o.marks 1, rest⟩
      else none
    | [] => none

/-- The lexeme of name characters that form no name. -/
def wordLexeme? (o : Origin) (text : List Char) (rest : List Char) : Option Lexeme :=
  if begins (gaps ++ ">),|[%") rest then some ⟨.word (String.ofList text), o.size text, rest⟩
  else none

/-- Whether a character continues a word, which may hold colons. -/
def continuesWord (ordinals : Bool) (c : Char) : Bool :=
  c == ':' || continuesName ordinals c

/-- A lexeme that begins with a name character. The part of a qualified name behind the colon need
not be a name. -/
def wordLike? (o : Origin) (cs : List Char) : Option Lexeme :=
  let text := cs.takeWhile (continuesWord o.ordinals)
  let rest := cs.dropWhile (continuesWord o.ordinals)
  match name? o.ordinals text with
  | some (_, []) => nameLexeme? o text .name rest
  | some (_, _ :: c :: second) =>
    if (c :: second).all (continuesName o.ordinals) then nameLexeme? o text .qualified rest
    else wordLexeme? o text rest
  | _ => if text.isEmpty then none else wordLexeme? o text rest

/-- The number of bytes of the pieces in which converted text is handed on. -/
def pieceSize : Nat := 1024

/-- Whether none of the pieces of a text begins with an ampersand, if the first has so many bytes
left. -/
def sparesAmpersands (left : Nat) : List Char → Bool
  | [] => true
  | c :: cs =>
    if c.utf8Size ≤ left then sparesAmpersands (left - c.utf8Size) cs
    else c != '&' && sparesAmpersands (pieceSize - c.utf8Size) cs

/-- The lexeme of a quoted text behind its opening mark. Inside brackets it is handed on with its
marks, in pieces if it is converted, and a piece that begins with an ampersand is taken for a
reference that nobody knows. -/
def literal? (o : Origin) (inside : Bool) (mark : String) (cs : List Char) : Option Lexeme := do
  let (text, rest) ← splitAt? mark cs
  let handedOn := inside && o.converted
  if begins (gaps ++ ">%[") rest && (!handedOn || sparesAmpersands (pieceSize - 1) text) then
    some ⟨.literal text 0, o.size text + o.marks 2, rest⟩
  else none

/-- The lexeme of the opening of a declaration behind its first two characters. -/
def opening? (o : Origin) (cs : List Char) : Option Lexeme :=
  let kind := cs.takeWhile Char.isAlpha
  let rest := cs.dropWhile Char.isAlpha
  let follows := match rest with
    | '%' :: next => !begins (gaps ++ "%") next
    | _ => begins gaps rest
  if kind.isEmpty || !follows then none
  else some ⟨.declaration (String.ofList kind), o.size kind + o.marks 2, rest⟩

/-- The lexeme at the front of a text, which may stand inside brackets. -/
def lexeme? (o : Origin) (inside : Bool) (cs : List Char) : Option Lexeme :=
  let mark (token : Token) (rest : List Char) : Option Lexeme := some ⟨token, o.marks 1, rest⟩
  match cs with
  | [] => none
  | '"' :: rest => literal? o inside "\"" rest
  | '\'' :: rest => literal? o inside "'" rest
  | '<' :: '!' :: '-' :: '-' :: rest => do
    let (text, rest) ← comment? rest
    some ⟨.comment, o.size text + o.marks 7, rest⟩
  | '<' :: '!' :: rest => opening? o rest
  | '<' :: '?' :: rest => do
    let (text, rest) ← instruction? o.ordinals rest
    some ⟨.instruction, o.size text + o.marks 4, rest⟩
  | '>' :: rest => mark .close rest
  | '[' :: rest => mark .openBracket rest
  | ']' :: rest =>
    match rest with
    | ']' :: '>' :: _ => none
    | _ => mark .closeBracket rest
  | '(' :: rest => mark .openGroup rest
  | ')' :: rest =>
    match rest with
    | c :: behind =>
      if c = '?' ∨ c = '*' ∨ c = '+' then some ⟨.closeGroup (some c), o.marks 2, behind⟩
      else if begins (gaps ++ ">,|)") rest then mark (.closeGroup none) rest
      else none
    | [] => none
  | '|' :: rest => mark .bar rest
  | ',' :: rest => mark .comma rest
  | '%' :: rest =>
    match name? o.ordinals rest with
    | some (name, ';' :: rest) => some ⟨.parameterEntity, o.size name + o.marks 2, rest⟩
    | some _ => none
    | none => if begins (gaps ++ "%") rest then mark .percent rest else none
  | '#' :: rest => do
    let (name, rest) ← name? o.ordinals rest
    if begins (gaps ++ ")>%|") rest then
      some ⟨.keyword (String.ofList name), o.size name + o.marks 1, rest⟩
    else none
  | cs => wordLike? o cs

/-- A token that ends so many bytes behind the opening of the whole declaration. -/
def Token.ending (token : Token) (reach : Nat) : Token :=
  match token with
  | literal cs _ => literal cs reach
  | other => other

/-- The tokens up to the end of the declaration of the document type. -/
structure Tokens where
  tokens : List Token
  /-- The number of bytes of the whole declaration. -/
  size : Nat
  rest : List Char

/-- The tokens up to the end of the declaration of the document type, behind those already read in
reverse with so many bytes. Inside brackets the end of a declaration is not the end of the whole. -/
def tokens? (o : Origin) : Nat → Bool → List Token → Nat → List Char → Option Tokens
  | 0, _, _, _, _ => none
  | fuel + 1, inside, read, size, cs => do
    let blank := cs.takeWhile isSpace
    let found ← lexeme? o inside (cs.dropWhile isSpace)
    let size := size + o.size blank + found.size
    let read := found.token.ending size :: read
    match found.token, inside with
    | .close, false => some ⟨read.reverse, size, found.rest⟩
    | .openBracket, _ => tokens? o fuel true read size found.rest
    | .closeBracket, _ => tokens? o fuel false read size found.rest
    | _, _ => tokens? o fuel inside read size found.rest

/-- Characters of a public identifier. -/
def isPublic (c : Char) : Bool :=
  c.isAlphanum || " \n\r-'()+,./:=?;!*#@$_%".toList.contains c

/-- The place of an external part: a system identifier, behind a public one after `PUBLIC`. -/
def externalPlace? : List Token → Option (List Token)
  | .name "SYSTEM" :: .literal _ _ :: rest => some rest
  | .name "PUBLIC" :: .literal id _ :: .literal _ _ :: rest =>
    if id.all isPublic then some rest else none
  | _ => none

/-- What has been declared so far, and whether further declarations count. -/
structure Reading where
  origin : Origin
  /-- The bytes of the document in front of the declaration. -/
  before : Nat
  growth : Growth
  declared : Declarations
  counts : Bool
  standalone : Bool

/-- The replacement text of an entity, behind what has been read of it in reverse: line ends become
line feeds, characters named by number are put in, references to entities stay, and no parameter
entity may occur. -/
def replacementText? (ordinals : Bool) : Nat → List Char → List Char → Option (List Char)
  | 0, _, _ => none
  | _, read, [] => some read.reverse
  | fuel + 1, read, '&' :: rest => do
    let (text, rest) ← splitAt? ";" rest
    match ← reference? ordinals text with
    | .char c => replacementText? ordinals fuel (c :: read) rest
    | .entity _ => replacementText? ordinals fuel (';' :: text.reverse ++ '&' :: read) rest
  | fuel + 1, read, '\r' :: '\n' :: rest => replacementText? ordinals fuel ('\n' :: read) rest
  | fuel + 1, read, '\r' :: rest => replacementText? ordinals fuel ('\n' :: read) rest
  | fuel + 1, read, c :: rest =>
    if c = '%' then none else replacementText? ordinals fuel (c :: read) rest

namespace Reading

variable (r : Reading)

/-- The reading with a general entity, unless its name is taken. -/
def addEntity (name : String) (entity : Entity) : Reading :=
  if r.counts && (predefined? name).isNone && !Keyed.hasKey r.declared.entities name then
    { r with declared := { r.declared with entities := r.declared.entities ++ [(name, entity)] } }
  else r

/-- The reading with the replacement text of an entity, which is checked while declarations
count. -/
def addText? (name : Option String) (text : List Char) : Option Reading :=
  if r.counts then do
    let replacement ← replacementText? r.origin.ordinals (text.length + 1) [] text
    match name with
    | some name => some (r.addEntity name (.inner replacement))
    | none => some r
  else some r

/-- The value of a default that ends so many bytes behind the opening of the whole declaration, and
the growth behind it. -/
def defaultValue? (tokenized : Bool) : Option (List Char × Nat) →
    Option (Option (List Char) × Growth)
  | none => some (none, r.growth)
  | some (text, reach) => do
    let g ← r.growth.reach? (r.before + reach)
    let (value, g) ← r.declared.attributeValue? r.origin false tokenized g text
    some (some value, g)

/-- The reading with an attribute of an element type. -/
def addAttribute? (element name : String) (tokenized : Bool) (default : Option (List Char × Nat)) :
    Option Reading :=
  if r.counts then do
    let (value, growth) ← r.defaultValue? tokenized default
    let attributes :=
      r.declared.attributes ++ [⟨element, .ofText name.toList, tokenized, value⟩]
    some { r with growth, declared := { r.declared with attributes } }
  else some r

/-- The reading of a document type with an external part, which may declare more unless the document
stands alone. -/
def withOuterPart : Reading :=
  { r with declared := { r.declared with complete := r.standalone } }

/-- The reading after a parameter entity that is not read. -/
def afterParameterEntity : Reading :=
  { r.withOuterPart with counts := r.standalone }

end Reading

/-- The clauses of an entity declaration. -/
def entity? (r : Reading) : List Token → Option (Reading × List Token)
  | .percent :: .name _ :: .literal text _ :: .close :: rest => do
    some (← r.addText? none text, rest)
  | .percent :: .name _ :: rest => do
    match ← externalPlace? rest with
    | .close :: rest => some (r, rest)
    | _ => none
  | .name name :: .literal text _ :: .close :: rest => do
    some (← r.addText? (some name) text, rest)
  | .name name :: rest => do
    match ← externalPlace? rest with
    | .close :: rest => some (r.addEntity name .outer, rest)
    | .name "NDATA" :: .name _ :: .close :: rest => some (r.addEntity name .unparsed, rest)
    | _ => none
  | _ => none

/-- The clauses of the declaration of a data format. -/
def dataFormat? : List Token → Option (List Token)
  | .name _ :: .name "PUBLIC" :: .literal id _ :: .close :: rest =>
    if id.all isPublic then some rest else none
  | .name _ :: rest => do
    match ← externalPlace? rest with
    | .close :: rest => some rest
    | _ => none
  | _ => none

/-- Words between bars up to the end of a group. -/
def alternatives? (nameOnly : Bool) : List Token → Option (List Token)
  | token :: rest =>
    let fits := match token with
      | .name _ => true
      | .qualified _ => !nameOnly
      | .word _ => !nameOnly
      | _ => false
    if !fits then none
    else
      match rest with
      | .closeGroup none :: rest => some rest
      | .bar :: rest => alternatives? nameOnly rest
      | _ => none
  | [] => none

/-- The type of an attribute: whether its values are tokens. -/
def attributeType? : List Token → Option (Bool × List Token)
  | .name "CDATA" :: rest => some (false, rest)
  | .name "NOTATION" :: .openGroup :: rest => (alternatives? true rest).map (true, ·)
  | .openGroup :: rest => (alternatives? false rest).map (true, ·)
  | .name kind :: rest =>
    if ["ID", "IDREF", "IDREFS", "ENTITY", "ENTITIES", "NMTOKEN", "NMTOKENS"].contains kind then
      some (true, rest)
    else none
  | _ => none

/-- The default of an attribute, with the place of its end. -/
def attributeDefault? : List Token → Option (Option (List Char × Nat) × List Token)
  | .keyword "IMPLIED" :: rest => some (none, rest)
  | .keyword "REQUIRED" :: rest => some (none, rest)
  | .keyword "FIXED" :: .literal text reach :: rest => some (some (text, reach), rest)
  | .literal text reach :: rest => some (some (text, reach), rest)
  | _ => none

/-- The text of a token that is a name with or without qualifier. -/
def Token.nameText? : Token → Option String
  | name text => some text
  | qualified text => some text
  | _ => none

/-- The attributes of an element type, of at most `fuel`. -/
def attributeList? : Nat → Reading → String → List Token → Option (Reading × List Token)
  | 0, _, _, _ => none
  | _, r, _, .close :: rest => some (r, rest)
  | fuel + 1, r, element, token :: rest => do
    let name ← token.nameText?
    let (tokenized, rest) ← attributeType? rest
    let (default, rest) ← attributeDefault? rest
    attributeList? fuel (← r.addAttribute? element name tokenized default) element rest
  | _, _, _, [] => none

/-- Mixed content behind its first keyword. -/
def mixedContent? (named : Bool) : List Token → Option (List Token)
  | .closeGroup none :: rest => if named then none else some rest
  | .closeGroup (some '*') :: rest => some rest
  | .bar :: token :: rest => do
    let _ ← token.nameText?
    mixedContent? true rest
  | _ => none

/-- Groups of names behind an opening, with the connector of each open group; `wanted` tells
whether a name or group must come next. -/
def groups? : Nat → List (Option Token) → Bool → List Token → Option (List Token)
  | 0, _, _, _ => none
  | _, [], _, rest => some rest
  | fuel + 1, connector :: outer, wanted, token :: rest =>
    match token, wanted with
    | .openGroup, true => groups? fuel (none :: connector :: outer) true rest
    | .name _, true => groups? fuel (connector :: outer) false rest
    | .qualified _, true => groups? fuel (connector :: outer) false rest
    | .repeated _, true => groups? fuel (connector :: outer) false rest
    | .closeGroup _, false => groups? fuel outer false rest
    | .comma, false =>
      if connector = some .bar then none else groups? fuel (some .comma :: outer) true rest
    | .bar, false =>
      if connector = some .comma then none else groups? fuel (some .bar :: outer) true rest
    | _, _ => none
  | _, _ :: _, _, [] => none

/-- The clauses of an element type declaration. -/
def elementType? : List Token → Option (List Token)
  | token :: rest => do
    let _ ← token.nameText?
    let rest ← match rest with
      | .name "EMPTY" :: rest => some rest
      | .name "ANY" :: rest => some rest
      | .openGroup :: .keyword "PCDATA" :: rest => mixedContent? false rest
      | .openGroup :: rest => groups? (rest.length + 1) [none] true rest
      | _ => none
    match rest with
    | .close :: rest => some rest
    | _ => none
  | [] => none

/-- The declarations between brackets and what follows them, of at most `fuel`. -/
def subset? : Nat → Reading → List Token → Option (Reading × List Token)
  | 0, _, _ => none
  | fuel + 1, r, tokens =>
    match tokens with
    | .closeBracket :: rest => some (r, rest)
    | .comment :: rest => subset? fuel r rest
    | .instruction :: rest => subset? fuel r rest
    | .parameterEntity :: rest => subset? fuel r.afterParameterEntity rest
    | .declaration "ENTITY" :: rest => do
      let (next, rest) ← entity? r rest
      subset? fuel next rest
    | .declaration "ATTLIST" :: token :: rest => do
      let element ← token.nameText?
      let (next, rest) ← attributeList? (rest.length + 1) r element rest
      subset? fuel next rest
    | .declaration "ELEMENT" :: rest => do subset? fuel r (← elementType? rest)
    | .declaration "NOTATION" :: rest => do subset? fuel r (← dataFormat? rest)
    | _ => none

/-- The reading of the tokens behind the name of the document type. -/
def Reading.ofTokens? (start : Reading) (tokens : List Token) : Option Reading := do
  let (reading, rest) ← match tokens with
    | .name _ :: _ => do some (start.withOuterPart, ← externalPlace? tokens)
    | _ => some (start, tokens)
  match rest with
  | [.close] => some reading
  | .openBracket :: rest =>
    match ← subset? (rest.length + 1) reading rest with
    | (reading, [.close]) => some reading
    | _ => none
  | _ => none

end DocumentType

/-- A document up to its root element. -/
structure Prolog where
  declarations : Declarations
  growth : Growth
  rest : List Char

/-- Behind the opening of a document type declaration, of `marks` characters: what it declares, and
the rest. -/
def documentType? (o : Origin) (standalone : Bool) (marks : Nat) (g : Growth) (cs : List Char) :
    Option Prolog := do
  let found ← DocumentType.tokens? o (cs.length + 1) false [] (o.marks marks) cs
  match found.tokens with
  | token :: tokens => do
    let _ ← token.nameText?
    let start : DocumentType.Reading := ⟨o, g.own, g, Declarations.empty, true, standalone⟩
    let reading ← start.ofTokens? tokens
    some ⟨reading.declared, ← reading.growth.reach? (g.own + found.size), found.rest⟩
  | [] => none

end CommandStream.Markup
