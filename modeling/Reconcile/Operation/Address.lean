import Reconcile.Text.Blank
import Reconcile.Section.Basic

namespace Reconcile

-- Stands for an identifying text that is blank.
def unnamed : String := "<unnamed>"

def orUnnamed (text : String) : String := if Text.isBlank text then unnamed else text

-- A named section that others live in.
structure Parent where
  kind : Section
  name : String
deriving DecidableEq, Repr

def Parent.text (p : Parent) : String := p.kind.name ++ " '" ++ orUnnamed p.name ++ "'"

-- What identifies a resource, as a change states it: nothing here is checked against the section.
inductive Address where
  | singleton
  | named (name : String)
  | child (parent : Parent) (name : String)
  | indexed (parent : Parent) (index : Nat)
  | contained (container : String) (name : String)
deriving DecidableEq, Repr

namespace Address

def shape : Address → Shape
  | .singleton => .singleton
  | .named _ => .topLevel
  | .child _ _ => .namedChild
  | .indexed _ _ => .indexedChild
  | .contained _ _ => .scopedChild

def index? : Address → Option Nat
  | .indexed _ index => some index
  | _ => none

def parent? : Address → Option Parent
  | .child parent _ | .indexed parent _ => some parent
  | _ => none

end Address

-- Where a request lands. Unlike an address it names the kind of a container, so that it can be
-- sent without the section's traits.
inductive Target where
  | singleton
  | named (name : String)
  | child (parent : Parent) (name : String)
  | indexed (parent : Parent) (index : Nat)
  | contained (container : Parent) (name : String)
deriving DecidableEq, Repr

namespace Target

def shape : Target → Shape
  | .singleton => .singleton
  | .named _ => .topLevel
  | .child _ _ => .namedChild
  | .indexed _ _ => .indexedChild
  | .contained _ _ => .scopedChild

def text : Target → String
  | .singleton => "section"
  | .named name => "'" ++ name ++ "'"
  | .child parent name => "'" ++ name ++ "' in " ++ parent.text
  | .indexed parent index => "#" ++ toString index ++ " in " ++ parent.text
  | .contained container name => "'" ++ name ++ "' in " ++ container.text

end Target
end Reconcile
