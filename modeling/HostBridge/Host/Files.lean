import HostBridge.Code.Program
import HostBridge.Table

/-!
# Files

The host asks for files through a small interface: whether a path leads
anywhere, what a file holds, what a directory lists, and the making of files
and directories. `Files` is a tree of them in memory that answers these
questions (`Files.run`); paths are followed step by step from the working
directory, and every step but the last has to be a directory.

A program that works on files is a program over that interface, so the same
program is put to the real files by the executable and to a tree in memory
where it is spoken of.
-/

namespace HostBridge

/-- **What the host asks of a file system.** Paths are texts, relative to the
working directory unless they start with a slash. -/
inductive FileOp where
  /-- Whether the path leads to a file or a directory. -/
  | exists (path : String)
  /-- The text of a file. -/
  | read (path : String)
  /-- Writes a file, replacing what was there. -/
  | write (path text : String)
  /-- The names in a directory. -/
  | list (path : String)
  /-- Makes a directory and those above it. -/
  | makeDirs (path : String)

/-- The reply to a question; nothing, or `false`, if it cannot be done. -/
def FileOp.Reply : FileOp → Type
  | .exists _ => Bool
  | .read _ => Option String
  | .write _ _ => Bool
  | .list _ => Option (List String)
  | .makeDirs _ => Bool

/-- The interface of a file system. -/
def fileInterface : Interface := ⟨FileOp, FileOp.Reply⟩

/-- A program that works on files. -/
abbrev FileProgram (α : Type) := Program fileInterface α

/-- Asks one question. -/
def FileProgram.op (o : FileOp) : FileProgram o.Reply := Program.op (I := fileInterface) o

/-- A place in the tree: the names on the way from the top. -/
abbrev Place := List String

/-- What is at a place. -/
inductive FileEntry where
  | directory
  | file (text : String)
deriving DecidableEq, Repr

/-- **A tree of files**, and the directory that paths start from. -/
structure Files where
  /-- What there is below the top. -/
  entries : Table Place FileEntry := .empty
  /-- The working directory. -/
  cwd : Place := []

namespace Files

/-- What is at a place. The top is a directory. -/
def entry? (f : Files) (p : Place) : Option FileEntry :=
  if p = [] then some .directory else f.entries.get? p

/-- Whether a place is a directory. -/
def isDirectory (f : Files) (p : Place) : Bool := f.entry? p = some .directory

/-- Whether a text can name one entry: names have at most 255 bytes. -/
def isName (name : String) : Bool := name.utf8ByteSize ≤ 255

/-- Whether a text can be a path at all: it has at most 4095 bytes, and none of
them is NUL. -/
def isPath (path : String) : Bool := path.utf8ByteSize ≤ 4095 && !path.contains '\x00'

/-- The steps of a path. An empty step stays where it is. -/
def steps (path : String) : List String := path.splitOn "/"

/-- Where a path starts. -/
def start (f : Files) (path : String) : Place :=
  if path.startsWith "/" then [] else f.cwd

/-- One step from a directory. -/
def step (p : Place) (name : String) : Place :=
  if name = "" || name = "." then p
  else if name = ".." then p.dropLast
  else p ++ [name]

/-- Why a path leads nowhere. -/
inductive Obstacle where
  /-- A directory on the way is not there. -/
  | missing
  /-- What is on the way is no directory, or the path cannot be one. -/
  | refused
deriving DecidableEq, Repr

/-- Follows steps from a place; every place left has to be a directory. -/
def follow (f : Files) : Place → List String → Except Obstacle Place
  | p, [] => .ok p
  | p, name :: rest =>
    match f.entry? p with
    | some .directory => if isName name then f.follow (step p name) rest else .error .refused
    | some (.file _) => .error .refused
    | none => .error .missing

/-- **The place a path leads to**, whether anything is there or not. -/
def resolve (f : Files) (path : String) : Option Place :=
  if path = "" || !isPath path then none else (f.follow (f.start path) (steps path)).toOption

/-- What a path leads to. -/
def lookup? (f : Files) (path : String) : Option FileEntry := f.resolve path >>= f.entry?

/-! ## Making directories

A directory is made after the one above it, which is tried first only if it turns out to be
missing. -/

/-- What an attempt to make one directory has come to. -/
inductive Making where
  /-- The directory is there now. -/
  | made
  /-- Something was there before. -/
  | present
  /-- It cannot be made. -/
  | stopped (o : Obstacle)
deriving DecidableEq, Repr

/-- **Makes one directory**, in a directory that is there. A way that ends in one
or two points leads to something that is there already, or nowhere. -/
def makeDirectory (f : Files) (base : Place) (way : List String) : Making × Files :=
  match f.follow base way with
  | .error o => (.stopped o, f)
  | .ok p =>
    if way.getLast? = some "." || way.getLast? = some ".." || (f.entry? p).isSome then
      (.present, f)
    else (.made, { f with entries := f.entries.insert p .directory })

/-- Whether a way leads to a directory. -/
def leadsToDirectory (f : Files) (base : Place) (way : List String) : Bool :=
  match f.follow base way with
  | .ok p => f.isDirectory p
  | .error _ => false

/-- **Makes a directory and those above it.** The first way is the one asked for,
every other the one above; a way is tried again once the one above it is made. -/
def makeWays (f : Files) (base : Place) : List (List String) → Bool × Files
  | [] => (true, f)
  | way :: above =>
    match f.makeDirectory base way with
    | (.made, g) => (true, g)
    | (.present, g) => (g.leadsToDirectory base way, g)
    | (.stopped .refused, g) => (false, g)
    | (.stopped .missing, g) =>
      match g.makeWays base above with
      | (false, h) => (false, h)
      | (true, h) =>
        match h.makeDirectory base way with
        | (.made, i) => (true, i)
        | (.present, i) => (i.leadsToDirectory base way, i)
        | (.stopped _, i) => (false, i)

/-- The steps of a path that are none of the empty ones. -/
def names (path : String) : List String := (steps path).filter (· ≠ "")

/-- **The components of a path**: its names, without the points that stand
behind others. -/
def components (path : String) : List String :=
  match steps path with
  | "." :: rest => "." :: rest.filter (fun name => name ≠ "" && name ≠ ".")
  | all => all.filter (fun name => name ≠ "" && name ≠ ".")

/-- The beginnings of a list that are neither empty nor all of it, the longest
first. -/
def properBeginnings (names : List String) : List (List String) :=
  ((List.range names.length).drop 1).reverse.map names.take

/-- The ways to a directory and to those above it: the path as it is, and the
beginnings of its components. -/
def ways (path : String) : List (List String) :=
  if names path = [] then [] else names path :: properBeginnings (components path)

/-- Makes the directory of a path, and those above it. -/
def makeDirs (f : Files) (path : String) : Bool × Files :=
  if isPath path then f.makeWays (f.start path) (ways path) else (false, f)

/-! ## Files -/

/-- Writes a file at a path. -/
def write (f : Files) (path text : String) : Bool × Files :=
  match f.resolve path with
  | none => (false, f)
  | some p =>
    if f.isDirectory p || path.endsWith "/" then (false, f)
    else (true, { f with entries := f.entries.insert p (.file text) })

/-- The names right below a place. -/
def children (f : Files) (p : Place) : List String :=
  f.entries.keys.filterMap (fun q => if q.dropLast = p && q ≠ [] then q.getLast? else none)

/-- **The reply of the tree**, and the tree after it. -/
def reply (f : Files) : (op : FileOp) → op.Reply × Files
  | .exists path => ((f.lookup? path).isSome, f)
  | .read path => (match f.lookup? path with | some (.file text) => some text | _ => none, f)
  | .write path text => f.write path text
  | .list path =>
    (match f.resolve path with
     | some p => if f.isDirectory p then some (f.children p) else none
     | none => none, f)
  | .makeDirs path => f.makeDirs path

/-- **Runs a program on the tree.** A program that panics has no result. -/
def run {α : Type} : FileProgram α → Files → Option α × Files
  | .done a, f => (some a, f)
  | .panic _, f => (none, f)
  | .perform op next, f => run (next (f.reply op).1) (f.reply op).2

/-- Puts a file at a path, making the directories on the way. -/
def addFile (f : Files) (path text : String) : Files :=
  let parent := (components path).dropLast
  let ways := if parent = [] then [] else parent :: properBeginnings parent
  ((f.makeWays (f.start path) ways).2.write path text).2

/-- Goes to a directory. -/
def enter (f : Files) (path : String) : Files :=
  match f.resolve path with
  | some p => { f with cwd := p }
  | none => f

end Files

end HostBridge
