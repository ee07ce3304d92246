import CommandStream.Markup.Event

/-!
# Elements

The tree of a document's elements. Of the text of an element only the part in front of its first
child is kept. Names belong to the namespace that their qualifier is bound to, attributes without
qualifier to none, and are written with the namespace in braces.
-/

namespace CommandStream.Markup

/-- An element. -/
inductive Element where
  | mk (tag : String) (attributes : Keyed String) (text : String) (children : List Element)

namespace Element

/-- The name of an element. -/
def tag : Element → String
  | mk tag _ _ _ => tag

/-- The attributes of an element. -/
def attributes : Element → Keyed String
  | mk _ attributes _ _ => attributes

/-- The text in front of the first child. -/
def text : Element → String
  | mk _ _ text _ => text

/-- The children of an element. -/
def children : Element → List Element
  | mk _ _ _ children => children

/-- The value of an attribute. -/
def attribute? (e : Element) (name : String) : Option String :=
  Keyed.find? e.attributes name

/-- The children of a name. -/
def childrenNamed (e : Element) (name : String) : List Element :=
  e.children.filter fun child => child.tag == name

/-- The first child of a name. -/
def child? (e : Element) (name : String) : Option Element :=
  e.children.find? fun child => child.tag == name

end Element

/-- The namespaces that qualifiers are bound to; the empty qualifier stands for names without. -/
abbrev Scope := Keyed String

namespace Scope

/-- The part that the reserved namespaces share. -/
def reservedStart : String := "http:" ++ "//www.w3.org/"

/-- The namespace of the qualifier `xml`. -/
def markupSpace : String := reservedStart ++ "XML/1998/namespace"

/-- The namespace of namespace declarations. -/
def declarationSpace : String := reservedStart ++ "2000/xmlns/"

/-- The scope around the document. -/
def outermost : Scope := [("xml", markupSpace)]

/-- The qualifier that an attribute binds. -/
def bound? (name : QualifiedName) : Option String :=
  match name.qualifier with
  | some "xmlns" => some name.stem
  | some _ => none
  | none => if name.stem = "xmlns" then some "" else none

/-- Whether a qualifier may be bound to a namespace: the reserved ones only to each other, and a
real qualifier to a real namespace. -/
def mayBind (qualifier space : String) : Bool :=
  !(space.isEmpty && !qualifier.isEmpty) && qualifier != "xmlns" &&
    ((qualifier == "xml") == (space == markupSpace)) && space != declarationSpace &&
    !space.toList.contains '\x7d'

/-- The scope with a qualifier bound. -/
def bind (scope : Scope) (qualifier space : String) : Scope :=
  Keyed.put scope qualifier space

/-- The scope inside an element, if its declarations are sound. -/
def inside? (scope : Scope) (attributes : List (QualifiedName × List Char)) : Option Scope :=
  attributes.foldlM (fun scope (name, value) =>
    match bound? name with
    | none => some scope
    | some qualifier =>
      let space := String.ofList value
      if mayBind qualifier space then some (bind scope qualifier space) else none) scope

/-- A name with its namespace in braces. -/
def expanded (space stem : String) : String :=
  if space.isEmpty then stem else "\x7b" ++ space ++ "\x7d" ++ stem

/-- The name of an element. -/
def elementName? (scope : Scope) (name : QualifiedName) : Option String :=
  match name.qualifier with
  | some q => (Keyed.find? scope q).map fun space => expanded space name.stem
  | none => some (expanded ((Keyed.find? scope "").getD "") name.stem)

/-- The name of an attribute. -/
def attributeName? (scope : Scope) (name : QualifiedName) : Option String :=
  match name.qualifier with
  | some q => (Keyed.find? scope q).map fun space => expanded space name.stem
  | none => some name.stem

/-- The attributes of an element by their full names, which must differ. -/
def attributes? (scope : Scope) (attributes : List (QualifiedName × List Char)) :
    Option (Keyed String) := do
  let plain := attributes.filter fun a => (bound? a.1).isNone
  let named ← plain.mapM fun (name, value) => do
    some (← attributeName? scope name, String.ofList value)
  if (Keyed.keys named).eraseDups.length < named.length then none else some named

end Scope

/-- An element under construction. -/
structure OpenElement where
  tag : String
  attributes : Keyed String
  scope : Scope
  /-- The text so far in reverse. -/
  text : List Char
  /-- The children so far in reverse. -/
  children : List Element

/-- The element that an open one becomes. -/
def OpenElement.closed (o : OpenElement) : Element :=
  .mk o.tag o.attributes (String.ofList o.text.reverse) o.children.reverse

/-- Elements under construction, the innermost first, and the finished root. -/
structure Construction where
  stack : List OpenElement
  root : Option Element

namespace Construction

/-- The construction of which nothing has been made. -/
def start : Construction := ⟨[], none⟩

/-- The construction after an event. -/
def step? (c : Construction) : Event → Option Construction
  | .start name attributes => do
    let outer := match c.stack with | [] => Scope.outermost | top :: _ => top.scope
    let scope ← Scope.inside? outer attributes
    let tag ← Scope.elementName? scope name
    let named ← Scope.attributes? scope attributes
    some { c with stack := ⟨tag, named, scope, [], []⟩ :: c.stack }
  | .finish =>
    match c.stack with
    | [] => none
    | [top] => some ⟨[], some top.closed⟩
    | top :: below :: rest =>
      some { c with stack := { below with children := top.closed :: below.children } :: rest }
  | .text cs =>
    match c.stack with
    | [] => some c
    | top :: rest =>
      if top.children.isEmpty then
        some { c with stack := { top with text := cs.reverse ++ top.text } :: rest }
      else some c

end Construction

end CommandStream.Markup
