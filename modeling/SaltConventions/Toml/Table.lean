import SaltConventions.Toml

/-!
# Building TOML tables

A document defines its tables piece by piece. How a table came to be decides what may be added to it
later: a table with a header of its own may not get another one, a table that only stands on the way
to one may, and a table made by dotted keys may be extended by dotted keys only. Dotted keys never
reach into a table that has a header.
-/

namespace SaltConventions.Toml

/-- How a table came to be: by its own header or by braces, on the way to another header, or by a
dotted key. -/
inductive Origin where
  | header
  | implied
  | dotted
  deriving DecidableEq, Repr, Inhabited

mutual

/-- A table under construction. -/
inductive Table where
  | mk (origin : Origin) (members : List (String × Item))

/-- What a name in a table under construction stands for. -/
inductive Item where
  | value (value : Value)
  | table (table : Table)
  | tables (elements : List Table)

end

namespace Table

def empty (origin : Origin) : Table := .mk origin []

def origin : Table → Origin
  | .mk origin _ => origin

def members : Table → List (String × Item)
  | .mk _ members => members

def get? (t : Table) (name : String) : Option Item :=
  (t.members.find? (·.1 == name)).map (·.2)

/-- The table with `item` under a name, in the place of the old one if there is one. -/
def set (t : Table) (name : String) (item : Item) : Table :=
  if (t.get? name).isSome then
    .mk t.origin (t.members.map fun member => if member.1 == name then (name, item) else member)
  else .mk t.origin (t.members ++ [(name, item)])

/-- Changes the table at the end of a path, making tables on the way. An array of tables is passed
through its last one; dotted paths pass no table with a header. -/
def update (dotted : Bool) (change : Table → Option Table) : List String → Table → Option Table
  | [], t => change t
  | name :: later, t =>
    match t.get? name with
    | none =>
      (update dotted change later (empty (if dotted then .dotted else .implied))).map fun child =>
        t.set name (.table child)
    | some (.value _) => none
    | some (.table child) =>
      if dotted && child.origin == .header then none
      else (update dotted change later child).map fun child => t.set name (.table child)
    | some (.tables elements) =>
      match elements.getLast? with
      | none => none
      | some last =>
        (update dotted change later last).map fun last =>
          t.set name (.tables (elements.dropLast ++ [last]))

/-- Adds a value under a new name. A table reached by a dotted path has to be made by dotted keys,
and the table that holds the key itself must not be. -/
def addValue (path : List String) (name : String) (value : Value) (t : Table) : Option Table :=
  update true
    (fun holder =>
      if (holder.origin == .dotted) == path.isEmpty then none
      else if (holder.get? name).isSome then none
      else some (holder.set name (.value value)))
    path t

def addHeader (path : List String) (name : String) (t : Table) : Option Table :=
  update false
    (fun parent =>
      match parent.get? name with
      | none => some (parent.set name (.table (empty .header)))
      | some (.table (.mk .implied members)) =>
        some (parent.set name (.table (.mk .header members)))
      | some _ => none)
    path t

def addElement (path : List String) (name : String) (t : Table) : Option Table :=
  update false
    (fun parent =>
      match parent.get? name with
      | none => some (parent.set name (.tables [empty .header]))
      | some (.tables elements) => some (parent.set name (.tables (elements ++ [empty .header])))
      | some _ => none)
    path t

end Table

mutual

def Table.toValue : Table → Value
  | .mk _ members => .table (valuesOfMembers members)

def Item.toValue : Item → Value
  | .value value => value
  | .table table => table.toValue
  | .tables elements => .array (valuesOfTables elements)

def valuesOfMembers : List (String × Item) → List (String × Value)
  | [] => []
  | (name, item) :: later => (name, item.toValue) :: valuesOfMembers later

def valuesOfTables : List Table → List Value
  | [] => []
  | table :: later => table.toValue :: valuesOfTables later

end

end SaltConventions.Toml
