import TransitionMap.Property

/-!
# Quoted text

A text between double quotes in which everything that could be mistaken is escaped: quotes and
backslashes, control characters, marks that would join the quote, blanks other than the space, and
characters that are not assigned.
-/

namespace TransitionMap

namespace Quoted

/-- The characters that are written as their code. -/
def unprintable : CharSet :=
  CharSet.diff
    (Property.unionAll
      [Property.categories ["Cc", "Cf", "Co", "Zl", "Zp", "Zs"], Property.category "Cn",
        Property.graphemeExtend])
    [(0x20, 0x20)]

def codeEscape (c : Char) : List Char :=
  '\\' :: 'u' :: '\x7b' :: (Nat.toDigits 16 c.toNat ++ ['\x7d'])

def escape (c : Char) : List Char :=
  if c = '"' || c = '\\' then ['\\', c]
  else if c = '\n' then ['\\', 'n']
  else if c = '\x0d' then ['\\', 'r']
  else if c = '\t' then ['\\', 't']
  else if c = '\x00' then ['\\', '0']
  else if 0x20 ≤ c.toNat && c.toNat < 0x7f then [c]
  else if unprintable.mem c.toNat then codeEscape c
  else [c]

end Quoted

/-- A text in double quotes, with escapes. -/
def quoted (s : String) : String :=
  "\"" ++ String.ofList (s.toList.flatMap Quoted.escape) ++ "\""

end TransitionMap
