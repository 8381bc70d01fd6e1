import HostBridge.Domain.Assembly
import HostBridge.Table

/-!
# The managed domain

A domain holds the assembly images it was given, the classes it loaded, and
the heap. An object on the heap stays as long as it has **roots**: one for
every native holder of the object, every frame it is the receiver of, and
every time it is among the locals of a frame. The domain remembers who owns
the roots: `held`, `frames`, and `allocating` for objects under construction.

Only the roots decide whether a collection takes an object. The owners are
written down beside them and are looked at by nothing but the sections that
move them, so that it is a theorem, and not a definition, that the roots are
as many as they should be.

This module holds what can be said of a domain and what its locks let happen
to it in one go; running code in it is the business of `Domain.Calls`.
-/

namespace HostBridge

/-- **An object on the heap.** -/
structure HeapObject where
  /-- Its class. -/
  cls : Class
  /-- How many roots keep it. -/
  roots : Nat
  /-- Whether a collection has taken it. -/
  finalizing : Bool := false

/-- Number of an active frame. -/
abbrev FrameId := Nat

/-- **An active managed frame.** -/
structure Frame where
  /-- The number of the frame. -/
  id : FrameId
  /-- `Type::Method`. -/
  name : String
  /-- The receiver, which the frame keeps. -/
  receiver : Option ObjectId
  /-- Objects the frame allocated or got back from calls, which it keeps. -/
  locals : List ObjectId := []

namespace Frame

/-- Changes the locals of the frame of a number. -/
def updateLocals (f : FrameId) (g : List ObjectId → List ObjectId) : List Frame → List Frame
  | [] => []
  | x :: rest =>
    if x.id = f then { x with locals := g x.locals } :: rest else x :: updateLocals f g rest

/-- Removes the frame of a number. -/
def erase (f : FrameId) (frames : List Frame) : List Frame := frames.eraseP (fun x => x.id = f)

end Frame

/-- **A domain of the managed runtime.** -/
structure Domain where
  /-- The name. -/
  name : String
  /-- How many managed bodies may be nested. -/
  maxCallDepth : Nat
  /-- The images that can be loaded. -/
  images : Table String Image := .empty
  /-- The loaded classes, by full name. -/
  classes : Table String Class := .empty
  /-- The objects. -/
  heap : Table ObjectId HeapObject := .empty
  /-- The number of the object allocated last. -/
  lastObject : UInt64 := 0
  /-- The active frames, the one opened last in front. -/
  frames : List Frame := []
  /-- The number of the next frame. -/
  nextFrame : FrameId := 0
  /-- Objects whose construction is running. -/
  allocating : List ObjectId := []
  /-- Objects held by native code, one entry a holder. -/
  held : List ObjectId := []
  /-- The number of collections so far. -/
  collections : Nat := 0
  /-- The order in which a collection visits the garbage it found, the oldest
  object first unless said otherwise. -/
  sweepOrder : Nat → List (ObjectId × Class) → List (ObjectId × Class) := fun _ l => l

namespace Domain

/-! ## Images and classes

Images wait to be loaded. Classes are there to be found. -/

/-- Makes an image available for loading. -/
def provide (d : Domain) (i : Image) : Domain := { d with images := d.images.insert i.name i }

/-- The image of a name. -/
def image? (d : Domain) (name : String) : Option Image := d.images.get? name

/-- Takes over the classes of an image. A class of the same full name is
replaced. -/
def addClasses (d : Domain) (i : Image) : Domain :=
  { d with classes := i.classes.foldl (fun t c => t.insert c.fullName c) d.classes }

/-- **The class a name stands for**: the one of that full name, otherwise the
one of that simple name if there is exactly one. -/
def findClass? (d : Domain) (name : String) : Option Class :=
  match d.classes.get? name with
  | some c => some c
  | none =>
    match d.classes.values.filter (fun c => c.name = name) with
    | [c] => some c
    | _ => none

/-- The class a name stands for inside a class, which knows itself. -/
def classNamed (d : Domain) (inside : Class) (name : String) :
    Except ManagedException Class :=
  if inside.isNamed name then .ok inside
  else
    match d.findClass? name with
    | some c => .ok c
    | none => .error ⟨ManagedException.typeLoad, name, []⟩

/-! ## The heap -/

/-- The class of an object on the heap. -/
def classOf? (d : Domain) (o : ObjectId) : Option Class := (d.heap.get? o).map HeapObject.cls

/-- The class of an object, which has to be on the heap. -/
def classOf (d : Domain) (o : ObjectId) : Except ManagedException Class :=
  match d.classOf? o with
  | some c => .ok c
  | none => .error ⟨ManagedException.nullReference, o.render ++ " is no longer on the heap", []⟩

/-- The number of objects. -/
def objectCount (d : Domain) : Nat := d.heap.size

/-- Gives an object one more root. -/
def root (d : Domain) (o : ObjectId) : Domain :=
  { d with heap := d.heap.modify o (fun x => { x with roots := x.roots + 1 }) }

/-- Takes a root from an object. -/
def unroot (d : Domain) (o : ObjectId) : Domain :=
  { d with heap := d.heap.modify o (fun x => { x with roots := x.roots - 1 }) }

/-- Takes an object off the heap. -/
def remove (d : Domain) (o : ObjectId) : Domain := { d with heap := d.heap.erase o }

/-! ## Allocation

An object is under construction from its allocation on, with one root. The construction ends in
one of three ways: the root is handed to native code, or to a frame, or there is no object. -/

/-- **Puts a new object on the heap**, with one root for whoever allocates
it. -/
def allocate (d : Domain) (c : Class) : ObjectId × Domain :=
  let o : ObjectId := ⟨d.lastObject + 1⟩
  (o, { d with
    lastObject := d.lastObject + 1
    heap := d.heap.insert o { cls := c, roots := 1 }
    allocating := o :: d.allocating })

/-- Ends an allocation without an object. -/
def abandonAllocation (d : Domain) (o : ObjectId) : Domain :=
  { d with allocating := d.allocating.erase o }

/-- Hands the root of a finished allocation to native code. -/
def hold (d : Domain) (o : ObjectId) : Domain :=
  { d with allocating := d.allocating.erase o, held := o :: d.held }

/-- Native code lets go of an object. -/
def letGo (d : Domain) (o : ObjectId) : Domain :=
  { (d.unroot o) with held := d.held.erase o }

/-- Native code lets go of an object, if it holds it. The answer tells whether
it did. -/
def release (d : Domain) (o : ObjectId) : Bool × Domain :=
  if d.held.contains o then (true, d.letGo o) else (false, d)

/-! ## Frames

A frame is found by its number wherever it stands, since frames of several threads stand in one
list. -/

/-- **Opens a frame**, which keeps its receiver. -/
def openFrame (d : Domain) (name : String) (receiver : Option ObjectId) : FrameId × Domain :=
  let d' := match receiver with
    | some o => d.root o
    | none => d
  (d.nextFrame, { d' with
    frames := { id := d.nextFrame, name := name, receiver := receiver } :: d'.frames
    nextFrame := d.nextFrame + 1 })

/-- The active frame of a number. -/
def frame? (d : Domain) (f : FrameId) : Option Frame := d.frames.find? (fun x => x.id = f)

/-- Changes the locals of a frame. -/
def updateLocals (d : Domain) (f : FrameId) (g : List ObjectId → List ObjectId) : Domain :=
  { d with frames := Frame.updateLocals f g d.frames }

/-- The locals of a frame. -/
def locals (d : Domain) (f : FrameId) : List ObjectId :=
  ((d.frame? f).map Frame.locals).getD []

/-- Makes a finished allocation a local of a frame, which takes its root
over. -/
def adopt (d : Domain) (f : FrameId) (o : ObjectId) : Domain :=
  { (d.updateLocals f (· ++ [o])) with
    allocating := d.allocating.erase o }

/-- Makes an object that a call returned a local of a frame. -/
def keep (d : Domain) (f : FrameId) (v : ManagedValue) : Domain :=
  match v.asObject? with
  | some o => (d.root o).updateLocals f (· ++ [o])
  | none => d

/-- The frame lets go of its oldest local. -/
def releaseLocal (d : Domain) (f : FrameId) : Domain :=
  match d.locals f with
  | o :: rest => (d.unroot o).updateLocals f (fun _ => rest)
  | [] => d

/-- **Closes a frame**, which lets go of its receiver. -/
def closeFrame (d : Domain) (f : FrameId) : Domain :=
  match (d.frame? f).bind Frame.receiver with
  | some o => { (d.unroot o) with frames := Frame.erase f d.frames }
  | none => { d with frames := Frame.erase f d.frames }

/-- The end of a frame that a panic left: everything it kept stays rooted. -/
def abandonFrame (d : Domain) (f : FrameId) : Domain :=
  { d with frames := Frame.erase f d.frames }

/-! ## Collection

The garbage is marked in the section that finds it, so that no two collections take the same
object. -/

/-- Whether a collection may take an object. -/
def isGarbage (x : HeapObject) : Bool := x.roots = 0 && !x.finalizing

/-- **Takes the garbage**: the unrooted objects that no other collection has
taken, in the order in which they are going to be visited. -/
def takeGarbage (d : Domain) : List (ObjectId × Class) × Domain :=
  let garbage := (d.heap.toList.filter (fun e => isGarbage e.2)).map (fun e => (e.1, e.2.cls))
  (d.sweepOrder d.collections garbage, { d with
    heap := d.heap.map (fun x => if isGarbage x then { x with finalizing := true } else x)
    collections := d.collections + 1 })

end Domain

end HostBridge
