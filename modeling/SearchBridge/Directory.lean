import SearchBridge.Text.Split
/-!
Opening files for writing, by what their names alone decide.

Directories form a tree. A name is followed piece by piece, from the root if it starts with a slash
and from the working directory otherwise: a single dot stays where it is, two dots lead to the
directory above, and any other piece but the last has to be a directory. The last one may be new.
-/

namespace SearchBridge

inductive OpenFault where
  | zero
  | tooLong
  | notFound
  | notDirectory
  | isDirectory
  deriving DecidableEq, Repr

def OpenFault.message : OpenFault → String
  | .zero => "embedded null byte"
  | .tooLong => "File name too long"
  | .notFound => "No such file or directory"
  | .notDirectory => "Not a directory"
  | .isDirectory => "Is a directory"

/-- What a name in a directory stands for. -/
inductive Entry where
  | file
  | directory (entries : List (String × Entry))

def Entry.at? : Entry → List String → Option Entry
  | e, [] => some e
  | .file, _ :: _ => none
  | .directory entries, name :: path => (entries.lookup name).bind (·.at? path)

/-- All directories, and the path to the one that names without a slash in front start from. -/
structure Directories where
  root : Entry
  working : List String

namespace Directories

/-- The longest piece of a name, in octets. -/
def pieceLimit : Nat := 255

/-- The longest name, in octets. -/
def nameLimit : Nat := 4095

def octetCount (cs : List Char) : Nat := (String.ofList cs).utf8ByteSize

/-- Follows the pieces of a name from the directory at the end of a path; `closed` says that a slash
stands behind the last one. A slash behind a name that could be a file asks for a directory, however
long that name is. -/
def follow (d : Directories) (closed : Bool) (path : List String) :
    List (List Char) → Except OpenFault (List String)
  | [] => .error .isDirectory
  | [piece] =>
    if closed || piece = ['.'] || piece = ['.', '.'] then .error .isDirectory
    else if pieceLimit < octetCount piece then .error .tooLong
    else
      let path := path ++ [String.ofList piece]
      match d.root.at? path with
      | some (.directory _) => .error .isDirectory
      | _ => .ok path
  | piece :: rest =>
    if piece = ['.'] then d.follow closed path rest
    else if piece = ['.', '.'] then d.follow closed path.dropLast rest
    else if pieceLimit < octetCount piece then .error .tooLong
    else
      let path := path ++ [String.ofList piece]
      match d.root.at? path with
      | some (.directory _) => d.follow closed path rest
      | some .file => .error .notDirectory
      | none => .error .notFound

/-- The path to the file that opening a name for writing leads to. -/
def opening (d : Directories) (name : String) : Except OpenFault (List String) :=
  let cs := name.toList
  if cs.contains '\x00' then .error .zero
  else if nameLimit < octetCount cs then .error .tooLong
  else if cs.isEmpty then .error .notFound
  else
    d.follow (cs.getLast? = some '/') (if cs.head? = some '/' then [] else d.working)
      ((Text.splitOn '/' cs).filter (!·.isEmpty))

end Directories

end SearchBridge
