/-!
# Folder: files under paths, and why a path may not give a text

A folder holds files at places.  A path leads to a place by its parts, with `/` between them: an
empty part and `.` stay, `..` goes up, and any other part is a name inside.  What lies outside the
folder cannot be seen.  The file that was written last at a place is the one that is read there.
-/

namespace Scriptlet

inductive ReadError where
  | notFound
  | notDirectory
  | isDirectory
  | nameTooLong
  | notText
deriving DecidableEq

def ReadError.message : ReadError → String
  | .notFound => "No such file or directory (os error 2)"
  | .notDirectory => "Not a directory (os error 20)"
  | .isDirectory => "Is a directory (os error 21)"
  | .nameTooLong => "File name too long (os error 36)"
  | .notText => "stream did not contain valid UTF-8"

def decodeText (bytes : ByteArray) : Except ReadError String :=
  match String.fromUTF8? bytes with
  | some s => .ok s
  | none => .error .notText

/-- a place in a folder: the names that lead to it, the last one first -/
abbrev Place := List String

/-- files at their places, the last written first -/
structure Folder where
  files : List (Place × ByteArray)

namespace Folder

/-- the parts of a path, empty ones included -/
def parts (path : String) : List String :=
  (path.toList.foldr (fun c acc =>
    if c = '/' then [] :: acc
    else
      match acc with
      | [] => [[c]]
      | part :: rest => (c :: part) :: rest) [[]]).map String.ofList

def isName (part : String) : Bool := part != "" && part != "." && part != ".."

/-- where a path begins: in the folder, or outside if it begins with `/` -/
def start (path : String) : Option Place :=
  if path.toList.head? = some '/' then none else some []

/-- where one part of a path leads; `none` is outside -/
def step (here : Option Place) (part : String) : Option Place :=
  if isName part then here.map (part :: ·)
  else if part = ".." then
    match here with
    | some (_ :: up) => some up
    | _ => none
  else here

/-- the place of the file that a path names, if it ends with a name and stays inside -/
def filePlace? (path : String) : Option Place :=
  match (parts path).getLast? with
  | some last => if isName last then (parts path).foldl step (start path) else none
  | none => none

/-! ## writing -/

def empty : Folder := ⟨[]⟩

/-- Whether a file fits at a place: the place is no folder, and no file is on the way to it. -/
def fits (f : Folder) (place : Place) : Bool :=
  f.files.all fun (other, _) =>
    other == place || !(other.isSuffixOf place || place.isSuffixOf other)

/-- Puts a file at a path, over the one that was there; folders on the way come to be.  Where no
file fits nothing changes. -/
def write (f : Folder) (path : String) (content : ByteArray) : Folder :=
  match filePlace? path with
  | some place => if f.fits place then ⟨(place, content) :: f.files⟩ else f
  | none => f

def ofFiles (files : List (String × ByteArray)) : Folder :=
  files.foldl (fun f (path, content) => f.write path content) empty

/-! ## reading -/

/-- the bytes a part, and a whole path, may have -/
def longestPart : Nat := 255
def longestPath : Nat := 4095

inductive Node where
  | file (content : ByteArray)
  | inner

def node? (f : Folder) (place : Place) : Option Node :=
  match f.files.lookup place with
  | some content => some (.file content)
  | none => if f.files.any fun (other, _) => place.isSuffixOf other then some .inner else none

def walk (f : Folder) (here : Option Place) : List String → Except ReadError ByteArray
  | [] => .error .isDirectory
  | p :: ps =>
    if !isName p then walk f (step here p) ps
    else if longestPart < p.utf8ByteSize then .error .nameTooLong
    else
      match step here p with
      | none => .error .notFound
      | some place =>
        match f.node? place with
        | none => .error .notFound
        | some .inner => walk f (some place) ps
        | some (.file content) => if ps.isEmpty then .ok content else .error .notDirectory

def read (f : Folder) (path : String) : Except ReadError ByteArray :=
  if path = "" then .error .notFound
  else if longestPath < path.utf8ByteSize then .error .nameTooLong
  else f.walk (start path) (parts path)

def readText (f : Folder) (path : String) : Except ReadError String :=
  match f.read path with
  | .error e => .error e
  | .ok bytes => decodeText bytes

end Folder

end Scriptlet
