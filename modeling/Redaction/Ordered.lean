/-!
# Ordered tables

A table is a list of keys and values with increasing keys. `insert` puts a key in its place or
replaces the value that it has, so that a key is there once; `ofList` inserts entries one after the
other, so that of two entries with one key the later wins. Reading a key is `List.lookup`.

Texts are ordered by their code points, which is the order of their bytes.
-/

namespace Redaction.Ordered

variable {α β : Type} [LT α] [DecidableLT α] [DecidableEq α]

/-- **Puts a key in its place,** or replaces its value. -/
def insert (k : α) (v : β) : List (α × β) → List (α × β)
  | [] => [(k, v)]
  | e :: es =>
    if k < e.1 then (k, v) :: e :: es
    else if k = e.1 then (k, v) :: es
    else e :: insert k v es

/-- The table of a list of entries; a later entry replaces an earlier one with its key. -/
def ofList (entries : List (α × β)) : List (α × β) :=
  entries.foldl (fun table e => insert e.1 e.2 table) []

/-- Puts a member into an ordered list without repetition. -/
def add (k : α) : List α → List α
  | [] => [k]
  | x :: xs => if k < x then k :: x :: xs else if k = x then x :: xs else x :: add k xs

end Redaction.Ordered
