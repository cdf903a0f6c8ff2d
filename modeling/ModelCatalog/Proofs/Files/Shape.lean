import ModelCatalog.Proofs.Files.Disk

namespace ModelCatalog.Files
open Ordered

def Item.bare : Item → Item
  | .file _ => .file .empty
  | .directory => .directory

namespace Disk

def shape (d : Disk) : Disk := ⟨d.items.map Item.bare⟩

theorem shape_item (d : Disk) (path : Path) : d.shape.item? path = (d.item? path).map Item.bare := by
  unfold item? shape
  split
  · rfl
  · exact Keyed.get?_map d.items Item.bare path

@[simp] theorem shape_directory (d : Disk) (path : Path) :
    d.shape.item? path = some .directory ↔ d.item? path = some .directory := by
  rw [shape_item]
  cases d.item? path with
  | none => simp
  | some item => cases item <;> simp [Item.bare]

theorem shape_insert (d : Disk) (path : Path) (item : Item) :
    (Disk.mk (d.items.insert path item)).shape = ⟨d.shape.items.insert path item.bare⟩ :=
  congrArg Disk.mk (Keyed.map_insert d.items Item.bare path item)

theorem write_shape (d : Disk) (path : Path) (bytes : ByteArray) :
    (d.writeBytes path bytes).map shape = d.shape.writeBytes path .empty := by
  unfold writeBytes
  simp only [ne_eq,shape_directory]
  split
  · rfl
  · exact congrArg some (shape_insert d path (.file bytes))

theorem makeDir_shape (d : Disk) (path : Path) : (d.makeDir path).map shape = d.shape.makeDir path := by
  unfold makeDir
  rw [shape_item]
  cases d.item? path with
  | none => exact congrArg some (shape_insert d path .directory)
  | some item => cases item <;> rfl

theorem makeDirs_shape (d : Disk) (path : Path) : (d.makeDirs path).map shape = d.shape.makeDirs path := by
  have each (paths : List Path) (d : Disk) : (paths.foldlM makeDir d).map shape = paths.foldlM makeDir d.shape := by
    induction paths generalizing d with
    | nil => rfl
    | cons head rest ih =>
      rw [List.foldlM_cons,List.foldlM_cons,← makeDir_shape]
      cases d.makeDir head with
      | none => rfl
      | some middle => exact ih middle
  exact each (way path) d

theorem rename_shape (d : Disk) (source target : Path) :
    (d.rename source target).map shape = d.shape.rename source target := by
  have removed : (d.remove source).shape = d.shape.remove source :=
    congrArg Disk.mk (Keyed.map_erase d.items Item.bare source)
  unfold rename
  rw [shape_item]
  cases d.item? source with
  | none => rfl
  | some item =>
    cases item with
    | directory => rfl
    | file bytes =>
      change ((d.remove source).writeBytes target bytes).map shape = (d.shape.remove source).writeBytes target .empty
      rw [write_shape,removed]

theorem shape_cases {x y : Option Disk} (same : x.map shape = y.map shape) :
    x = none ∧ y = none ∨ ∃ d d', x = some d ∧ y = some d' ∧ d.shape = d'.shape := by
  cases x with
  | none => exact .inl ⟨rfl,Option.map_eq_none_iff.mp same.symm⟩
  | some d =>
    obtain ⟨d',found,shapes⟩ := Option.map_eq_some_iff.mp same.symm
    exact .inr ⟨d,d',rfl,found,shapes.symm⟩

@[simp] theorem shape_isFile (d : Disk) (path : Path) : d.shape.IsFile path ↔ d.IsFile path := by
  unfold IsFile
  rw [shape_item]
  cases d.item? path with
  | none => simp
  | some item => cases item <;> simp [Item.bare]

theorem writeFault_shape (d : Disk) (path : Path) : d.shape.writeFault path = d.writeFault path := by
  simp [writeFault,blocked_congr fun p _ => shape_isFile d p]

def rewritten (d : Disk) (path : Path) (bytes : ByteArray) : Disk := ⟨d.items.insert path (.file bytes)⟩

section
variable {d : Disk} {path : Path} {old : ByteArray}

theorem rewritten_item (file : d.item? path = some (.file old)) (bytes : ByteArray) (other : Path) :
    (d.rewritten path bytes).item? other = if other = path then some (.file bytes) else d.item? other := by
  refine item?_insert d (fun root => ?_) (.file bytes) other
  rw [root,item?_root] at file
  cases file

theorem rewritten_shape (file : d.item? path = some (.file old)) (bytes : ByteArray) :
    (d.rewritten path bytes).shape = d.shape := by
  refine congrArg Disk.mk (Keyed.ext_get? fun other => ?_)
  rw [rewritten,Keyed.get?_map,Keyed.get?_map,Keyed.get?_insert]
  split
  · next same =>
    have held : d.items.get? path = some (.file old) := by
      unfold item? at file
      split at file
      · cases file
      · exact file
    rw [same,held]
    rfl
  · rfl

theorem readBytes_rewritten (file : d.item? path = some (.file old)) (bytes : ByteArray) :
    (d.rewritten path bytes).readBytes path = .ok bytes := readBytes_ok.mpr (by rw [rewritten_item file,if_pos rfl])

theorem readBytes_rewritten_other (file : d.item? path = some (.file old)) (bytes : ByteArray) {other : Path}
    (apart : other ≠ path) : (d.rewritten path bytes).readBytes other = d.readBytes other := by
  refine readBytes_congr (by rw [rewritten_item file,if_neg apart]) fun p _ => ?_
  unfold IsFile
  rw [rewritten_item file]
  split
  · next same => simp [same,file]
  · rfl

end

end Disk
end ModelCatalog.Files
