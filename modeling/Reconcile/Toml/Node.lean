namespace Reconcile.Toml

-- How a table came to be: from a header (or as the document), because a header names something
-- inside it, from a dotted key, or in braces. A table in braces is complete.
inductive Form where
  | header | implied | dotted | inline
deriving DecidableEq, Repr

-- A value of a document. Of a number that is no integer and of a date only the kind is kept.
-- A list of tables that headers build has its last table first.
inductive Node where
  | text (value : String)
  | integer (value : Int)
  | float
  | truth (value : Bool)
  | date
  | list (items : List Node)
  | table (form : Form) (fields : List (String × Node))
  | tables (newestFirst : List Node)
deriving Repr, Inhabited

abbrev Fields := List (String × Node)

def Fields.get? (fields : Fields) (key : String) : Option Node :=
  (fields.find? (·.1 == key)).map (·.2)

-- Replaces the value of a key, or adds the key at the end.
def Fields.set (fields : Fields) (key : String) (value : Node) : Fields :=
  match fields with
  | [] => [(key, value)]
  | (k, v) :: rest => if k = key then (k, value) :: rest else (k, v) :: Fields.set rest key value

namespace Node

-- Changes the table at the end of a path; tables that are missing on the way are made. A list of
-- tables stands for its last one. A dotted key (`dotted`) does not lead into a table that a header
-- has defined, and nothing leads into a table in braces.
def within (dotted : Bool) : List String → (Node → Option Node) → Node → Option Node
  | [], change, node => change node
  | key :: rest, change, .table form fields =>
    match Fields.get? fields key with
    | none =>
      (within dotted rest change (.table (if dotted then .dotted else .implied) [])).map
        fun child => .table form (Fields.set fields key child)
    | some (.tables (last :: before)) =>
      (within dotted rest change last).map
        fun child => .table form (Fields.set fields key (.tables (child :: before)))
    | some (.table childForm inner) =>
      if childForm = .inline ∨ (dotted = true ∧ childForm = .header) then none
      else
        (within dotted rest change (.table childForm inner)).map
          fun child => .table form (Fields.set fields key child)
    | some _ => none
  | _ :: _, _, _ => none

-- Adds a key that is not there yet. Where the key came with a path, only a table that dotted keys
-- have made takes it.
def add (viaPath : Bool) (key : String) (value : Node) : Node → Option Node
  | .table form fields =>
    if viaPath = true ∧ form ≠ .dotted then none
    else if (Fields.get? fields key).isSome then none
    else some (.table form (fields ++ [(key, value)]))
  | _ => none

-- A key and its value below a table. No path is empty.
def assign (table : Node) (path : List String) (value : Node) : Option Node :=
  match path.getLast? with
  | none => none
  | some key =>
    within true path.dropLast (add (!path.dropLast.isEmpty) key value) table

-- A header of a table: it is new, or it has only been implied so far.
def openTable (path : List String) (document : Node) : Option Node :=
  match path.getLast? with
  | none => none
  | some key =>
    within false path.dropLast (fun
      | .table form fields =>
        match Fields.get? fields key with
        | none => some (.table form (Fields.set fields key (.table .header [])))
        | some (.table .implied inner) =>
          some (.table form (Fields.set fields key (.table .header inner)))
        | some _ => none
      | _ => none) document

-- A header of a list of tables: one more table.
def openItem (path : List String) (document : Node) : Option Node :=
  match path.getLast? with
  | none => none
  | some key =>
    within false path.dropLast (fun
      | .table form fields =>
        match Fields.get? fields key with
        | none => some (.table form (Fields.set fields key (.tables [.table .header []])))
        | some (.tables items) =>
          some (.table form (Fields.set fields key (.tables (.table .header [] :: items))))
        | some _ => none
      | _ => none) document

end Node
end Reconcile.Toml
