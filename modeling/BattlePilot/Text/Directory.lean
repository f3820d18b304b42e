import BattlePilot.Text.File

/-!
A tree of files held in memory, and what reading a path in it gives.
-/

namespace BattlePilot

/-- Files by the names that lead to them, from a directory in which paths start. Nothing is known
of what is around that directory. -/
structure Directory where
  files : List (List String × Except FileError String)

namespace Directory

/-- Whether a part of a path stays where it is. -/
def staysHere (part : String) : Bool :=
  part == "" || part == "."

/-- The parts between the slashes of a path. -/
def parts (path : String) : List String :=
  path.splitOn "/"

/-- The tree of some files, each named by its path. -/
def ofFiles (files : List (String × Except FileError String)) : Directory where
  files := files.map fun (path, content) => ((parts path).filter (!staysHere ·), content)

/-- Whether files are below the place that `names` lead to. -/
def isBelow (dir : Directory) (names : List String) : Bool :=
  dir.files.any fun (file, _) => names.length < file.length && names.isPrefixOf file

/-- What the last part of a path leads to from outside the tree. -/
def outside (rest : List String) : Except FileError String :=
  .error (if rest.all fun part => staysHere part || part == ".." then .isDirectory else .notFound)

/-- What a path leads to, part by part from the directory that the names `here` lead to. -/
def walk (dir : Directory) (here : List String) : List String → Except FileError String
  | [] => .error .isDirectory
  | part :: rest =>
    if staysHere part then dir.walk here rest
    else if part = ".." then
      if here = [] then outside rest else dir.walk here.dropLast rest
    else
      let there := here ++ [part]
      match dir.files.lookup there with
      | some content => if rest = [] then content else .error .notDirectory
      | none => if dir.isBelow there then dir.walk there rest else .error .notFound

/-- What reading a path gives. -/
def read (dir : Directory) (path : String) : Except FileError String :=
  if path = "" then .error .notFound
  else if path.startsWith "/" then outside (parts path)
  else dir.walk [] (parts path)

end Directory
end BattlePilot
