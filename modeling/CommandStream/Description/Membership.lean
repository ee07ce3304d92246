import CommandStream.Keyed
import CommandStream.Log
import CommandStream.Markup.Element
import CommandStream.Text.Edit

/-!
# Members of enum groups

An interface description names the symbols of a group in two ways: in a list of groups, and as an
attribute of the symbols. The groups are gathered in document order, each symbol once.
-/

namespace CommandStream.Description
open Markup

/-- The symbols of each group. -/
abbrev Membership := Keyed (List String)

/-- The name under which the description is reported on. -/
def source : String := "glxml"

namespace Membership

/-- The symbols of a group; none if the group is unknown. -/
def members (m : Membership) (group : String) : List String :=
  (Keyed.find? m group).getD []

/-- A group, known from now on. -/
def addGroup (m : Membership) (group : String) : Membership :=
  if Keyed.hasKey m group then m else m ++ [(group, [])]

/-- A symbol of a group. -/
def addMember (m : Membership) (group symbol : String) : Membership :=
  let known := m.addGroup group
  if (known.members group).contains symbol then known
  else Keyed.put known group (known.members group ++ [symbol])

/-- The members that a group element lists. -/
def addListed (m : Membership) (group : String) (e : Element) : Membership :=
  ((e.childrenNamed "enum").filterMap fun child => child.attribute? "name").foldl
    (fun m symbol => m.addMember group symbol) (m.addGroup group)

/-- The name of a group element, unless it is missing or empty. -/
def groupName? (e : Element) : Option String :=
  match e.attribute? "name" with
  | some name => if name.isEmpty then none else some name
  | none => none

/-- The groups of a list of groups. -/
def addGroups (m : Membership) (e : Element) : Membership :=
  (e.childrenNamed "group").foldl (fun m child =>
    match groupName? child with
    | some name => m.addListed name child
    | none => m) m

/-- The groups that a symbol element is attributed to. -/
def groupsOf (attribution : String) : List String :=
  ((Text.pieces ',' attribution.toList).map fun piece => String.ofList (Text.trim piece)).filter
    fun name => !name.isEmpty

/-- The groups that a list of symbols attributes its symbols to. -/
def addAttributed (m : Membership) (e : Element) : Membership :=
  (e.childrenNamed "enum").foldl (fun m child =>
    match child.attribute? "group", child.attribute? "name" with
    | some attribution, some symbol =>
      (groupsOf attribution).foldl (fun m group => m.addMember group symbol) m
    | _, _ => m) m

/-- The groups with the content of a child of the root. -/
def addSection (m : Membership) (e : Element) : Membership :=
  if e.tag = "groups" then m.addGroups e
  else if e.tag = "enums" then m.addAttributed e
  else m

/-- The groups of a description. -/
def ofRoot (root : Element) : Membership :=
  root.children.foldl addSection []

end Membership

/-- How many groups without name a description holds. -/
def namelessGroups (root : Element) : Nat :=
  ((root.childrenNamed "groups").flatMap fun e =>
    (e.childrenNamed "group").filter fun child => (Membership.groupName? child).isNone).length

/-- What is reported about groups without name. -/
def membershipLog (root : Element) : Log :=
  List.replicate (namelessGroups root) ⟨.warning, source, "skipping <group> without a name"⟩

end CommandStream.Description
