namespace Referent

/-- How a table came about, which decides where it may be added to. -/
inductive TableKind where
  /-- Named in front of the last part of a header. -/
  | implied
  | header
  /-- Named in front of the last part of a dotted key. -/
  | dotted
  | inline
deriving Repr, DecidableEq

inductive Toml where
  | text (s : String)
  | integer (n : Int)
  | scalar
  | array (items : List Toml)
  | table (kind : TableKind) (entries : List (String × Toml))
deriving Repr, Inhabited

namespace Toml

abbrev Entries := List (String × Toml)

def lookup (key : String) : Entries → Option Toml
  | [] => none
  | (k, v) :: rest => if k = key then some v else lookup key rest

def replace (key : String) (value : Toml) : Entries → Entries
  | [] => [(key, value)]
  | (k, v) :: rest => if k = key then (key, value) :: rest else (k, v) :: replace key value rest

def insert (value : Toml) : List String → Entries → Option Entries
  | [], _ => none
  | [key], entries =>
    match lookup key entries with
    | none => some (replace key value entries)
    | some _ => none
  | key :: path, entries =>
    match lookup key entries with
    | none => (insert value path []).map fun inner => replace key (table .dotted inner) entries
    | some (table .dotted inner) =>
      (insert value path inner).map fun inner => replace key (table .dotted inner) entries
    | some (table .implied inner) =>
      (insert value path inner).map fun inner => replace key (table .implied inner) entries
    | some _ => none

def openTable : List String → Entries → Option Entries
  | [], _ => none
  | [key], entries =>
    match lookup key entries with
    | none => some (replace key (table .header []) entries)
    | some (table .implied inner) => some (replace key (table .header inner) entries)
    | some _ => none
  | key :: path, entries =>
    match lookup key entries with
    | none => (openTable path []).map fun inner => replace key (table .implied inner) entries
    | some (table .inline _) => none
    | some (table kind inner) =>
      (openTable path inner).map fun inner => replace key (table kind inner) entries
    | some _ => none

def insertAt (key : List String) (value : Toml) : List String → Entries → Option Entries
  | [], entries => insert value key entries
  | name :: header, entries =>
    match lookup name entries with
    | some (table kind inner) =>
      (insertAt key value header inner).map fun inner => replace name (table kind inner) entries
    | _ => none

end Toml

end Referent
