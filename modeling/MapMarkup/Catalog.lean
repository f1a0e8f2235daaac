import MapMarkup.Layer
import MapMarkup.ServiceError

/-!
# Catalogs

The layers that a service publishes, in the order in which they were added. A name is looked up
with its workspace, or without one; then the entry of the preferred workspace wins and otherwise
the first entry of that name. `validate` asks that the members of every group can be found.
-/

namespace MapMarkup

/-- The published layers and groups. -/
structure Catalog where
  entries : List Layer := []

namespace Catalog

def add (c : Catalog) (l : Layer) : Catalog :=
  ⟨c.entries ++ [l]⟩

def size (c : Catalog) : Nat := c.entries.length

def inWorkspace? (c : Catalog) (workspace name : String) : Option Layer :=
  c.entries.find? fun l => l.name = name && l.workspace = some workspace

/-- The first entry of a name in any workspace or in none. -/
def named? (c : Catalog) (name : String) : Option Layer :=
  c.entries.find? fun l => l.name = name

/-- The entry that a token of a request stands for. What precedes a colon is the workspace; a bare
name is sought in the preferred workspace first. -/
def find? (c : Catalog) (token : String) (preferred : Option String) : Option Layer :=
  match Text.cut ':' token with
  | some (workspace, name) => c.inWorkspace? workspace name
  | none =>
    match preferred with
    | some w => (c.inWorkspace? w token).or (c.named? token)
    | none => c.named? token

/-- A group refers to a member that cannot be found. -/
def unknownMember (group member : String) : String :=
  "Layer group '" ++ group ++ "' references unknown layer '" ++ member ++ "'"

/-- The first member of an entry that cannot be found. -/
def missingMember? (c : Catalog) (l : Layer) : Option String :=
  match l.kind with
  | .layer => none
  | .group members => members.find? fun m => (c.find? m l.workspace).isNone

def validate (c : Catalog) : Except ServiceError Unit :=
  match c.entries.findSome? fun l => (c.missingMember? l).map fun m => (l.name, m) with
  | some (group, member) => .error (.invalidConfiguration (unknownMember group member))
  | none => .ok ()

end Catalog

end MapMarkup
