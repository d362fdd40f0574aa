import Callflow.Identifier

/-!
A table from keys to clean identifiers that are all different. An identifier that is taken gets the
suffix `_2`, `_3`, …, the first that is free.
-/

namespace Callflow

structure IdTable where
  entries : List (String × String) := []
  taken : List String := []
  deriving DecidableEq, Repr

namespace IdTable

def candidate (base : String) (k : Nat) : String :=
  if k < 2 then base else base ++ "_" ++ toString k

/-- The first free candidate from the `k`-th on, after at most `probes` that are taken. -/
def firstFree (taken : List String) (base : String) : (probes : Nat) → (k : Nat) → String
  | 0, k => candidate base k
  | probes + 1, k =>
    if candidate base k ∈ taken then firstFree taken base probes (k + 1) else candidate base k

/-- Gives out a free identifier made of a text. Of one more candidates than are taken, one is
free. -/
def reserve (t : IdTable) (text : String) : String × IdTable :=
  let id := firstFree t.taken (Identifier.clean text) t.taken.length 1
  (id, { t with taken := id :: t.taken })

def get? (t : IdTable) (key : String) : Option String := t.entries.lookup key

def contains (t : IdTable) (key : String) : Bool := (t.get? key).isSome

def insert (t : IdTable) (key : String) : String × IdTable :=
  match t.get? key with
  | some id => (id, t)
  | none =>
    let (id, t) := t.reserve key
    (id, { t with entries := (key, id) :: t.entries })

def size (t : IdTable) : Nat := t.entries.length

def isEmpty (t : IdTable) : Bool := t.entries.isEmpty

end IdTable

end Callflow
