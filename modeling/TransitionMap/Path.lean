/-!
# File paths

A path that begins with a slash is absolute and stands for itself; any other is taken from a base,
with one slash between them.
-/

namespace TransitionMap

def joinPath (base path : String) : String :=
  if path.startsWith "/" then path
  else if base = "" || base.endsWith "/" then base ++ path
  else base ++ "/" ++ path

end TransitionMap
