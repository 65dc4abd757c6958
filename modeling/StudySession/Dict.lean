/-!
# Dictionaries

A `Dict α` is a list of keyed entries whose keys increase strictly in code point order, so two
dictionaries that hold the same entries are equal and a traversal has one order. `Dict.Sorted` says
this of a list; `insert` and every operation built from it keep it.
-/

namespace StudySession

/-- Entries under strictly increasing keys. -/
abbrev Dict (α : Type) := List (String × α)

namespace Dict

variable {α β : Type}

/-- The keys increase strictly. -/
def Sorted (d : Dict α) : Prop := d.Pairwise fun x y => x.1 < y.1

def get? (d : Dict α) (key : String) : Option α := List.lookup key d

def has (d : Dict α) (key : String) : Bool := (d.get? key).isSome

/-- Puts a value under a key, in place of the value it had. -/
def insert (d : Dict α) (key : String) (value : α) : Dict α :=
  match d with
  | [] => [(key, value)]
  | (k, v) :: rest =>
    if key < k then (key, value) :: (k, v) :: rest
    else if key = k then (key, value) :: rest
    else (k, v) :: insert rest key value

def erase (d : Dict α) (key : String) : Dict α := d.filter fun entry => entry.1 != key

/-- The entries of both, those of `top` winning. -/
def mergeOver (base top : Dict α) : Dict α :=
  top.foldl (fun d entry => d.insert entry.1 entry.2) base

/-- The dictionary of a list of entries, the last of one key winning. -/
def ofList (entries : List (String × α)) : Dict α := mergeOver [] entries

def mapValues (f : α → β) (d : Dict α) : Dict β := d.map fun entry => (entry.1, f entry.2)

/-- The keys, in order. -/
def keys (d : Dict α) : List String := d.map (·.1)

end Dict

end StudySession
