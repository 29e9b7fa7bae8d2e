namespace LineTopology.Dictionary

variable {α : Type}

/-- Writes an entry into a list of entries with ascending keys; an entry of the same key is
replaced. -/
def insert (key : String) (value : α) : List (String × α) → List (String × α)
  | [] => [(key, value)]
  | (k, v) :: rest =>
      if key < k then (key, value) :: (k, v) :: rest
      else if key = k then (key, value) :: rest
      else (k, v) :: insert key value rest

/-- The value of a key; of two entries with one key the later counts. -/
def find? (key : String) : List (String × α) → Option α
  | [] => none
  | (k, v) :: rest => (find? key rest).or (if k = key then some v else none)

def keys (entries : List (String × α)) : List String := entries.map (·.1)

def ofList (entries : List (String × α)) : List (String × α) :=
  entries.foldl (fun d entry => insert entry.1 entry.2 d) []

def Ascending (entries : List (String × α)) : Prop := entries.Pairwise (·.1 < ·.1)

end LineTopology.Dictionary
