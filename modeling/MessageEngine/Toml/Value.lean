/-!
# TOML values

A document is a table.  A table remembers how it came about, because that
decides what may still be added to it: a header may name a table that was
only implied before, dotted keys may extend a table that dotted keys have
made, and a table in braces is complete.
-/

namespace MessageEngine

/-- How a table came about. -/
inductive TableOrigin
  /-- Written in braces. -/
  | inline
  /-- Named by a header, or the document itself. -/
  | header
  /-- On the way to a table that a header names. -/
  | implied
  /-- On the way to a key with dots. -/
  | dotted
  deriving DecidableEq, Repr

inductive Toml
  | string (s : String)
  | integer (n : Int)
  /-- A float, whose value is not kept. -/
  | float
  | boolean (b : Bool)
  /-- A date, a time of day or both; which one is not kept. -/
  | datetime
  | array (items : List Toml)
  /-- Tables that were made one after the other by headers of the same name, the last one
  first. -/
  | tables (rows : List (List (String × Toml)))
  | table (origin : TableOrigin) (entries : List (String × Toml))
  deriving Repr

namespace Toml

/-- The keys of a table, with their values. -/
abbrev Entries := List (String × Toml)

/-- Put a value under a key, in place of the one that was there. -/
def put (entries : Entries) (key : String) (v : Toml) : Entries :=
  match entries with
  | [] => [(key, v)]
  | (k, x) :: rest => if k = key then (k, v) :: rest else (k, x) :: put rest key v

/-- Change a table below the given one, the one that `path` leads to.  The change is told how
that table came about.  Tables that are missing on the way are made, `making` says how; with
`making = .dotted` the way must not lead through a table that a header named. -/
def alter (making : TableOrigin) (change : TableOrigin → Entries → Option Entries) :
    List String → TableOrigin → Entries → Option Entries
  | [], origin, entries => change origin entries
  | key :: path, _, entries =>
    match entries.lookup key with
    | none =>
      (alter making change path making []).map fun inner ↦ put entries key (.table making inner)
    | some (.table .inline _) => none
    | some (.table origin inner) =>
      if making = .dotted ∧ origin = .header then none
      else
        (alter making change path origin inner).map fun inner ↦
          put entries key (.table origin inner)
    | some (.tables (last :: before)) =>
      (alter making change path .header last).map fun inner ↦
        put entries key (.tables (inner :: before))
    | some _ => none

/-- Give a new key a value; a dotted key may only end in a table that dotted keys have made. -/
def insertNew (plain : Bool) (key : String) (v : Toml) (origin : TableOrigin)
    (entries : Entries) : Option Entries :=
  if plain = (origin = .dotted : Bool) then none
  else if (entries.lookup key).isSome then none
  else some (put entries key v)

/-- Add a key with its value to a table; all but the last part of the key lead to it. -/
def insert (path : List String) (key : String) (v : Toml) (origin : TableOrigin)
    (entries : Entries) : Option Entries :=
  alter .dotted (insertNew path.isEmpty key v) path origin entries

/-- Name a table by a header. -/
def open? (key : String) (_ : TableOrigin) (entries : Entries) : Option Entries :=
  match entries.lookup key with
  | none => some (put entries key (.table .header []))
  | some (.table .implied inner) => some (put entries key (.table .header inner))
  | some _ => none

/-- Begin one more of the tables that share a header. -/
def openRow? (key : String) (_ : TableOrigin) (entries : Entries) : Option Entries :=
  match entries.lookup key with
  | none => some (put entries key (.tables [[]]))
  | some (.tables rows) => some (put entries key (.tables ([] :: rows)))
  | some _ => none

end Toml

end MessageEngine
