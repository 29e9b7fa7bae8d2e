namespace LineTopology

def appendNew (names : List String) (more : List String) : List String :=
  more.foldl (fun names name => if names.contains name then names else names ++ [name]) names

/-- The names without repetition, in the order in which they first occur. -/
def distinct (names : List String) : List String := appendNew [] names

end LineTopology
