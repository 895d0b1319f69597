/-!
# Ordered tables

A table maps keys to values and remembers the order in which its keys came in. Writing to a key
that is present keeps the key's place; a new key goes to the end; an erased key loses its place,
so that writing it again puts it last.
-/

namespace Relabel

structure Table (κ α : Type) where
  entries : List (κ × α) := []
deriving Repr, DecidableEq, Inhabited

namespace Table

variable {κ α : Type}

def keys (t : Table κ α) : List κ :=
  t.entries.map Prod.fst

def values (t : Table κ α) : List α :=
  t.entries.map Prod.snd

variable [DecidableEq κ]

def get? (t : Table κ α) (k : κ) : Option α :=
  (t.entries.find? (fun entry ↦ decide (entry.1 = k))).map Prod.snd

def contains (t : Table κ α) (k : κ) : Bool :=
  t.entries.any (fun entry ↦ decide (entry.1 = k))

/-- Replaces the value in place, or appends a new entry. -/
def setEntries (k : κ) (v : α) : List (κ × α) → List (κ × α)
  | [] => [(k, v)]
  | entry :: rest =>
    if entry.1 = k then (k, v) :: rest else entry :: setEntries k v rest

def set (t : Table κ α) (k : κ) (v : α) : Table κ α :=
  ⟨setEntries k v t.entries⟩

def erase (t : Table κ α) (k : κ) : Table κ α :=
  ⟨t.entries.filter (fun entry ↦ decide (entry.1 ≠ k))⟩

def ofList (pairs : List (κ × α)) : Table κ α :=
  pairs.foldl (fun t pair ↦ t.set pair.1 pair.2) {}

end Table

end Relabel
