import ForumQuery.Toml.Value

/-!
# Building tables

A document adds to its tables one key at a time. Nothing that is there is ever replaced: a key can
get a value once, a table can have one header, dotted keys add only to tables that dotted keys made,
and a table between braces is complete.
-/

namespace ForumQuery.Toml.Entries

/-- The entries after a change to the value of one key. The change sees the value, if there is one,
and may refuse. A new key comes last. -/
def alter? (key : Text) (change : Option Value → Option Value) : Entries → Option Entries
  | [] => (change none).map fun value => [(key, value)]
  | (other, value) :: rest =>
      if other = key then
        (change (some value)).map fun value => (key, value) :: rest
      else
        (alter? key change rest).map fun rest => (other, value) :: rest

/-- The entries after a dotted key got a value. -/
def assign? : List Text → Value → Entries → Option Entries
  | [], _, _ => none
  | [key], value, entries =>
      entries.alter? key fun
        | none => some value
        | some _ => none
  | key :: keys, value, entries =>
      entries.alter? key fun
        | none => (assign? keys value []).map (Value.table .dotted)
        | some (.table .dotted inner) => (assign? keys value inner).map (Value.table .dotted)
        | some _ => none

/-- The entries after a change to the table at the end of a path. Tables that are missing on the way
are implied; among tables of one name the last is meant. -/
def within? : List Text → (Entries → Option Entries) → Entries → Option Entries
  | [], change, entries => change entries
  | key :: keys, change, entries =>
      entries.alter? key fun
        | none => (within? keys change []).map (Value.table .implied)
        | some (.table origin inner) =>
            if origin = .inline then none
            else (within? keys change inner).map (Value.table origin)
        | some (.tables elements) => do
            let last ← elements.getLast?
            let last ← within? keys change last
            return .tables (elements.dropLast ++ [last])
        | some _ => none

/-- The entries after a header for one key. A table that was only implied may still get its header. -/
def open? (key : Text) (entries : Entries) : Option Entries :=
  entries.alter? key fun
    | none => some (.table .header [])
    | some (.table .implied inner) => some (.table .header inner)
    | some _ => none

/-- The entries after a header in double brackets for one key. -/
def append? (key : Text) (entries : Entries) : Option Entries :=
  entries.alter? key fun
    | none => some (.tables [[]])
    | some (.tables elements) => some (.tables (elements ++ [[]]))
    | some _ => none

end ForumQuery.Toml.Entries
