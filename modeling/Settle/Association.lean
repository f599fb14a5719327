/-!
# Associations

Lists of keys with values, sorted by key, each key once. The order of texts is that of their code
points, which is also the order of their bytes in UTF-8.
-/

namespace Settle.Association

variable {α : Type}

/-- Sets the value of a key; an earlier value is replaced. -/
def insert (key : String) (value : α) : List (String × α) → List (String × α)
  | [] => [(key, value)]
  | (k, v) :: rest =>
    if key < k then (key, value) :: (k, v) :: rest
    else if key = k then (key, value) :: rest
    else (k, v) :: insert key value rest

/-- The association with the given pairs, of which the last one of a key counts. -/
def ofPairs (pairs : List (String × α)) : List (String × α) :=
  pairs.foldl (fun ps p => insert p.1 p.2 ps) []

end Settle.Association
