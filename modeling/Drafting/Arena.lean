import Drafting.Plane

/-!
# The unknowns of a drawing

An arena holds the unknowns with their present values and optional names. An unknown is referred to
by its position, so ids are handed out as 0, 1, 2, … and stay valid: nothing is ever removed, and
only values change.
-/

namespace Drafting

/-- The position of an unknown in its arena. -/
abbrev UnknownId := Nat

structure Unknown (α : Type) where
  value : α
  name : Option String
  deriving DecidableEq, Repr

structure Arena (α : Type) where
  unknowns : Array (Unknown α)
  deriving DecidableEq, Repr

namespace Arena

variable {α : Type}

def empty : Arena α := ⟨#[]⟩

def ofValues (values : List α) : Arena α := ⟨(values.map fun v => ⟨v, none⟩).toArray⟩

def size (arena : Arena α) : Nat := arena.unknowns.size

def Contains (arena : Arena α) (ids : List UnknownId) : Prop := ∀ id ∈ ids, id < arena.size

instance (arena : Arena α) (ids : List UnknownId) : Decidable (arena.Contains ids) :=
  inferInstanceAs (Decidable (∀ id ∈ ids, id < arena.size))

def value (arena : Arena α) (id : UnknownId) (known : id < arena.size) : α :=
  have : id < arena.unknowns.size := known
  arena.unknowns[id].value

def get? (arena : Arena α) (id : UnknownId) : Option (Unknown α) := arena.unknowns[id]?

def value? (arena : Arena α) (id : UnknownId) : Option α := (arena.get? id).map Unknown.value

def values (arena : Arena α) : List α := arena.unknowns.toList.map Unknown.value

def names (arena : Arena α) : List (Option String) := arena.unknowns.toList.map Unknown.name

def entries (arena : Arena α) : List (UnknownId × Unknown α) :=
  arena.unknowns.toList.zipIdx.map Prod.swap

/-- Add an unknown; its id is the number of those before it. -/
def push (arena : Arena α) (value : α) (name : Option String) : UnknownId × Arena α :=
  (arena.size, ⟨arena.unknowns.push ⟨value, name⟩⟩)

/-- Add the two unknowns of a point, first `x` and then `y`. The names of a named point end in the
axis. -/
def pushPoint (arena : Arena α) (place : Point α) (name : Option String) :
    Point UnknownId × Arena α :=
  let (x, arena) := arena.push place.x (name.map (· ++ ".x"))
  let (y, arena) := arena.push place.y (name.map (· ++ ".y"))
  (⟨x, y⟩, arena)

/-- Change one value; an id that the arena does not know changes nothing. -/
def set (arena : Arena α) (id : UnknownId) (value : α) : Arena α :=
  ⟨arena.unknowns.modify id fun unknown => { unknown with value := value }⟩

def set? (arena : Arena α) (id : UnknownId) (value : α) : Option (Arena α) :=
  if id < arena.size then some (arena.set id value) else none

def read (arena : Arena α) (ids : List UnknownId) (known : arena.Contains ids) :
    Vector α ids.length :=
  Vector.ofFn fun i => arena.value (ids.get i) (known _ (List.get_mem ids i))

def write (arena : Arena α) (ids : List UnknownId) (values : List α) : Arena α :=
  (ids.zip values).foldl (fun arena (id, value) => arena.set id value) arena

def place? (arena : Arena α) (p : Point UnknownId) : Option (Point α) := do
  return ⟨← arena.value? p.x, ← arena.value? p.y⟩

@[simp] theorem size_push (arena : Arena α) (value : α) (name : Option String) :
    (arena.push value name).2.size = arena.size + 1 :=
  Array.size_push ..

@[simp] theorem size_set (arena : Arena α) (id : UnknownId) (value : α) :
    (arena.set id value).size = arena.size :=
  Array.size_modify

@[simp] theorem size_write (arena : Arena α) (ids : List UnknownId) (values : List α) :
    (arena.write ids values).size = arena.size := by
  unfold write
  induction ids.zip values generalizing arena with
  | nil => rfl
  | cons entry rest ih => rw [List.foldl_cons, ih, size_set]

end Arena

end Drafting
