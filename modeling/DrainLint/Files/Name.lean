import DrainLint.Text.Blank

/-! # File names

A file name as the names that lead to the file, one directory after the other.

- `FileName.ofText`: the name that a text is;
- `FileName.text`: how a name is written.
-/

namespace DrainLint

/-- A name of a file or directory.  The root is empty for a name that starts in the current
directory; the parts are neither empty nor a single dot. -/
structure FileName where
  root : String := ""
  parts : List String
  deriving DecidableEq

namespace FileName

/-- The root that a text starts with.  Two slashes are a root of their own, any other number of them
is one. -/
def rootOf (text : List Char) : String :=
  match (text.takeWhile (· == '/')).length with
  | 0 => ""
  | 2 => "//"
  | _ => "/"

/-- The name that a text is; what says nothing about the place is left out. -/
def ofText (text : String) : FileName where
  root := rootOf text.toList
  parts := ((Text.splitOn '/' text.toList).map String.ofList).filter fun part =>
    part != "" && part != "."

/-- A name as it is written; the name of the current directory is a dot. -/
def text (name : FileName) : String :=
  if name.root.isEmpty && name.parts.isEmpty then "."
  else name.root ++ "/".intercalate name.parts

def isAbsolute (name : FileName) : Bool := !name.root.isEmpty

/-- Whether a name holds the character that ends names, which no file has in its name. -/
def hasNul (name : FileName) : Bool := name.parts.any fun part => part.toList.contains '\x00'

def extend (name : FileName) (parts : List String) : FileName :=
  { name with parts := name.parts ++ parts }

end FileName
end DrainLint
