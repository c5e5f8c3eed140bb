/-!
# Files

What a reader of files sees, and a tree of files with the rules by which a
path is resolved in it. A path that starts with a slash goes from the top of
the tree, any other from the working directory. Empty parts and single dots
stay where they are, two dots go up, and every part but the last has to be a
directory.
-/

namespace DeviceWatch

/-- What a reader of files sees. -/
structure FileView where
  /-- Whether a path leads to anything. -/
  contains : String → Bool
  /-- The text of the file that a path leads to; none if there is no file or if
  its bytes are no text. -/
  readText? : String → Option String

/-- The view of files of which the paths and the texts are known. A path that
leads to something without a text has no text. -/
def FileView.ofList (files : List (String × Option String)) : FileView where
  contains path := (files.lookup path).isSome
  readText? path := (files.lookup path).join

/-- What is at a place in the tree. -/
inductive FileContent where
  | file (bytes : ByteArray)
  | directory

/-- A tree of files, and where in it the working directory is. -/
structure Files where
  /-- The names that lead from the top to the working directory. -/
  workingDirectory : List String := []
  /-- The files and the directories, with the names that lead to them from the
  top, the latest first. The working directory and those above it are there of
  themselves. -/
  entries : List (List String × FileContent) := []

/-- One path after another, with a slash between them unless there is one. -/
def joinPath (directory name : String) : String :=
  if directory.isEmpty || directory.endsWith "/" then directory ++ name
  else directory ++ "/" ++ name

namespace Files

/-- The parts of a path between its slashes. -/
def parts (path : String) : List String :=
  path.splitOn "/"

/-- The tree with something more in it, at a place. -/
def put (t : Files) (place : List String) (content : FileContent) : Files :=
  { t with entries := (place, content) :: t.entries }

/-- The tree with a directory made for each further part of a path, and the
place where the last of them is. -/
def enter (t : Files) (place : List String) : List String → Files × List String
  | [] => (t, place)
  | part :: rest =>
    if part.isEmpty || part = "." then t.enter place rest
    else if part = ".." then t.enter place.dropLast rest
    else (t.put (place ++ [part]) .directory).enter (place ++ [part]) rest

/-- The place where the way of a path begins: the top if the path starts with a
slash, else the working directory. -/
def start (t : Files) (path : String) : List String :=
  if path.startsWith "/" then [] else t.workingDirectory

/-- The tree with something more in it, at a path; the directories on the way
are made. -/
def add (t : Files) (path : String) (content : FileContent) : Files :=
  let names := parts path
  let (t, place) := t.enter (t.start path) names.dropLast
  match names.getLast? with
  | none => t
  | some name => t.put (place ++ [name]) content

/-- The file at a place, if there is one. -/
def fileAt? (t : Files) (place : List String) : Option ByteArray :=
  t.entries.findSome? fun (names, content) =>
    match content with
    | .file bytes => if names == place then some bytes else none
    | .directory => none

/-- Whether there is a directory at a place. -/
def isDirectory (t : Files) (place : List String) : Bool :=
  place.isPrefixOf t.workingDirectory || t.entries.any fun (names, content) =>
    names == place && content matches .directory

/-- Whether there is anything at a place. -/
def exists? (t : Files) (place : List String) : Bool :=
  t.isDirectory place || (t.fileAt? place).isSome

/-- One part of a path further: each part asks for a directory to stand in.
Above the top there is nothing but the top. -/
def descend? (t : Files) (place : List String) (part : String) : Option (List String) :=
  if !t.isDirectory place then
    none
  else if part.isEmpty || part = "." then
    some place
  else if part = ".." then
    some place.dropLast
  else if t.exists? (place ++ [part]) then
    some (place ++ [part])
  else
    none

/-- The place that a path leads to, if there is anything. The empty path leads
nowhere. -/
def resolve? (t : Files) (path : String) : Option (List String) :=
  if path.isEmpty then none else (parts path).foldlM t.descend? (t.start path)

/-- What a reader sees of the tree. -/
def view (t : Files) : FileView where
  contains path := (t.resolve? path).isSome
  readText? path := do String.fromUTF8? (← t.fileAt? (← t.resolve? path))

end Files
end DeviceWatch
