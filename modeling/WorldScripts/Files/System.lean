import WorldScripts.Files.Tree

/-!
A tree of files in the file system around it. Of what is around it, little is known: the directories
that stand at the root of every system, and two files.
-/

namespace WorldScripts.Tree

def rootNames : List String :=
  ["bin", "boot", "dev", "etc", "home", "lib", "media", "mnt", "opt", "proc", "root", "run", "sbin",
    "srv", "sys", "tmp", "usr", "var"]

def system : Tree where
  nodes := (rootNames.map fun name => ([name], Node.directory)) ++
    [(["dev", "null"], .file (some "")),
      (["etc", "passwd"], .file (some "root:x:0:0:root:/root:/bin/sh\n"))]

/-- The place of the tree in a system: in the directory for what is in passing use, under a name
that no path can spell. -/
def seat : List String := ["tmp", ""]

def seated (tree : Tree) : Tree where
  nodes := system.nodes ++ (seat, .directory) ::
    tree.nodes.map fun (place, node) => (seat ++ place, node)

def files (tree : Tree) : Files := fun path =>
  if path.isEmpty then .error .noSuchFile
  else tree.seated.readAt (if Path.isAbsolute path then [] else seat) path.toList

/-- The files under absolute paths, where the top of the tree has a path of its own. -/
def filesUnder (tree : Tree) (top : String) : Files := fun path =>
  if path = top then .error .isADirectory
  else
    let (front, rest) := path.toList.splitAt (top.length + 1)
    if String.ofList front = top ++ "/" then tree.seated.readAt seat rest
    else if Path.isAbsolute path then tree.seated.readAt [] path.toList
    else .error .noSuchFile

end WorldScripts.Tree
