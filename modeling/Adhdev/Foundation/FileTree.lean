import Adhdev.Foundation.Octets

/-! # Trees of files

Files under their paths, and the operations on them, each of them whole.
-/

namespace Adhdev

open List

abbrev FileTree (Path : Type u) := List (Path × Octets)

inductive FileOp (Path : Type u)
  | unlink (path : Path)
  | create (path : Path)
  | write (path : Path) (offset : Nat) (data : Octets)
  | rename (path target : Path)

def Octets.overwrite (held : Octets) (offset : Nat) (data : Octets) : Octets :=
  held.take offset ++ List.replicate (offset - held.length) 0 ++ data ++
    held.drop (offset + data.length)

theorem Octets.overwrite_end (held data : Octets) :
    held.overwrite held.length data = held ++ data := by
  rw [overwrite, take_length, Nat.sub_self, replicate_zero, append_nil,
    drop_eq_nil_of_le (Nat.le_add_right ..), append_nil]

namespace FileTree

variable {Path : Type u} [DecidableEq Path]

def read (tree : FileTree Path) (path : Path) : Option Octets :=
  (tree.find? fun entry => entry.1 = path).map (·.2)

def unlink (tree : FileTree Path) (path : Path) : FileTree Path :=
  tree.filter fun entry => entry.1 ≠ path

def put (tree : FileTree Path) (path : Path) (held : Octets) : FileTree Path :=
  (path, held) :: tree.unlink path

/-- Nothing is created or renamed to where something is. -/
def apply (tree : FileTree Path) : FileOp Path → FileTree Path
  | .unlink path => tree.unlink path
  | .create path =>
    match tree.read path with
    | some _ => tree
    | none => tree.put path []
  | .write path offset data =>
    match tree.read path with
    | some held => tree.put path (held.overwrite offset data)
    | none => tree
  | .rename path target =>
    match tree.read path, tree.read target with
    | some held, none => (tree.unlink path).put target held
    | _, _ => tree

def applyAll (tree : FileTree Path) (ops : List (FileOp Path)) : FileTree Path :=
  ops.foldl apply tree

variable {tree : FileTree Path} {path other : Path} {held : Octets}

theorem read_unlink :
    (tree.unlink path).read other = if other = path then none else tree.read other := by
  induction tree with
  | nil => split_ifs <;> rfl
  | cons entry tree induction =>
    by_cases gone : entry.1 = path
    · rw [unlink, filter_cons_of_neg (by simp [gone]), ← unlink, induction]
      split_ifs with same
      · rfl
      · rw [read, read, find?_cons_of_neg (by simp [gone, Ne.symm same])]
    rw [unlink, filter_cons_of_pos (by simp [gone]), ← unlink]
    by_cases found : entry.1 = other
    · have different : other ≠ path := fun same => gone (found.trans same)
      rw [read, find?_cons_of_pos (by simp [found]), if_neg different, read,
        find?_cons_of_pos (by simp [found])]
    · rw [read, find?_cons_of_neg (by simp [found]), ← read, induction, read, read,
        find?_cons_of_neg (by simp [found])]

theorem read_put :
    (tree.put path held).read other = if other = path then some held else tree.read other := by
  by_cases same : other = path
  · rw [put, read, find?_cons_of_pos (by simp [same]), if_pos same]
    rfl
  · rw [put, read, find?_cons_of_neg (by simp [Ne.symm same]), ← read, read_unlink,
      if_neg same, if_neg same]

theorem read_isSome_iff : (tree.read path).isSome = true ↔ ∃ entry ∈ tree, entry.1 = path := by
  rw [read, Option.isSome_map, find?_isSome]
  simp only [decide_eq_true_eq]

theorem read_create_none (absent : tree.read path = none) :
    (tree.apply (.create path)).read other = if other = path then some [] else tree.read other := by
  rw [apply, absent]
  exact read_put

theorem read_create_some (present : tree.read path = some held) :
    tree.apply (.create path) = tree := by
  rw [apply, present]

theorem read_append {data : Octets} {offset : Nat} (present : tree.read path = some held)
    (isEnd : offset = held.length) : (tree.apply (.write path offset data)).read other =
      if other = path then some (held ++ data) else tree.read other := by
  rw [apply, present, isEnd]
  dsimp only
  rw [Octets.overwrite_end]
  exact read_put

theorem read_rename {target : Path} (present : tree.read path = some held)
    (absent : tree.read target = none) : (tree.apply (.rename path target)).read other =
      if other = target then some held else if other = path then none else tree.read other := by
  rw [apply, present, absent]
  dsimp only
  rw [read_put, read_unlink]

@[simp] theorem applyAll_nil (tree : FileTree Path) : tree.applyAll [] = tree := rfl

@[simp] theorem applyAll_cons (tree : FileTree Path) (op : FileOp Path) (ops : List (FileOp Path)) :
    tree.applyAll (op :: ops) = (tree.apply op).applyAll ops := rfl

end FileTree

end Adhdev
