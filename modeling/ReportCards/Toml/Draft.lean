import ReportCards.Toml.Value

/-!
# Putting tables together

A document defines its tables piece by piece, in headers and in keys with dots, and may define each
one only once. While a document is read every table therefore remembers how it came about:

* a header defines a table, also one that was only implied before;
* the tables on the way to a header or to a key are implied;
* a key with dots adds to tables that keys with dots have made, and to no others.

What a key is set to is complete: nothing is ever added to it.
-/
namespace ReportCards.Toml

structure Key where
  path : List String
  name : String
deriving DecidableEq, Repr

inductive Origin where
  | header
  | implied
  | dotted
deriving DecidableEq, Repr

inductive Draft where
  | complete (value : Toml)
  | table (origin : Origin) (fields : List (String × Draft))
  | tables (items : List (List (String × Draft)))

namespace Draft

abbrev Fields := List (String × Draft)

def alter (name : String) (change : Option Draft → Option Draft) : Fields → Option Fields
  | [] => (change none).map fun draft => [(name, draft)]
  | (other, draft) :: rest =>
      if other = name then (change (some draft)).map fun draft => (name, draft) :: rest
      else (alter name change rest).map ((other, draft) :: ·)

/-- Change the table at the end of a path. Tables that are missing on the way are made, with the
given origin. A key with dots, whose path makes tables of that origin, does not go through tables
that have a header of their own. -/
def descend (made : Origin) (change : Origin → Fields → Option Fields) :
    (path : List String) → Origin → Fields → Option Fields
  | [], origin, fields => change origin fields
  | name :: path, _, fields =>
      fields |> alter name fun
        | none => (descend made change path made []).map (table made)
        | some (complete _) => none
        | some (table origin inner) =>
            if made = .dotted ∧ origin = .header then none
            else (descend made change path origin inner).map (table origin)
        | some (tables []) => none
        | some (tables (last :: earlier)) =>
            (descend made change path .header last).map fun last => tables (last :: earlier)

/-- Set a key, which must be new. The table that holds its name is the given one or was made by keys
with dots. -/
def assign (key : Key) (value : Toml) (fields : Fields) : Option Fields :=
  let set (origin : Origin) (inner : Fields) : Option Fields :=
    if key.path ≠ [] ∧ origin ≠ .dotted then none
    else inner |> alter key.name fun
      | none => some (complete value)
      | some _ => none
  descend .dotted set key.path .header fields

def define (key : Key) (fields : Fields) : Option Fields :=
  let set (_ : Origin) (inner : Fields) : Option Fields :=
    inner |> alter key.name fun
      | none => some (table .header [])
      | some (table .implied inner) => some (table .header inner)
      | some _ => none
  descend .implied set key.path .header fields

def extend (key : Key) (fields : Fields) : Option Fields :=
  let set (_ : Origin) (inner : Fields) : Option Fields :=
    inner |> alter key.name fun
      | none => some (tables [[]])
      | some (tables items) => some (tables ([] :: items))
      | some _ => none
  descend .implied set key.path .header fields

def assignUnder (header : List String) (key : Key) (value : Toml) (fields : Fields) :
    Option Fields :=
  descend .implied (fun _ inner => assign key value inner) header .header fields

mutual
def finish : Draft → Toml
  | complete value => value
  | table _ fields => Toml.table (finishFields fields)
  | tables items => Toml.array (finishTables items).reverse

def finishFields : List (String × Draft) → List (String × Toml)
  | [] => []
  | (name, draft) :: rest => (name, finish draft) :: finishFields rest

def finishTables : List (List (String × Draft)) → List Toml
  | [] => []
  | fields :: rest => Toml.table (finishFields fields) :: finishTables rest
end

end Draft
end ReportCards.Toml
