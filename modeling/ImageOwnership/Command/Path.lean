/-!
Paths of files in their plain form: no empty segments, no single dots, and a dot for the empty path.
Two slashes at the beginning, and not more, are kept.
-/

namespace ImageOwnership.Command.Path

/-- The slashes that a path is rooted with. -/
def root (path : List Char) : List Char :=
  match (path.takeWhile (· = '/')).length with
  | 0 => []
  | 2 => ['/', '/']
  | _ => ['/']

def segments (path : List Char) : List (List Char) :=
  (path.splitOn '/').filter fun segment => segment ≠ [] && segment ≠ ['.']

def normalize (path : String) : String :=
  let plain := root path.toList ++ ['/'].intercalate (segments path.toList)
  if plain.isEmpty then "." else String.ofList plain

end ImageOwnership.Command.Path
