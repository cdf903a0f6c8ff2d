import ModelCatalog.Files.Disk
import ModelCatalog.Proofs.Ordered.Keyed

namespace ModelCatalog.Files.Disk
open Ordered

def IsFile (d : Disk) (path : Path) : Prop := ∃ bytes, d.item? path = some (.file bytes)

@[simp] theorem item?_root (d : Disk) : d.item? [] = some .directory := rfl

@[simp] theorem item?_insert (d : Disk) {path : Path} (inside : path ≠ []) (item : Item) (other : Path) :
    (Disk.mk (d.items.insert path item)).item? other = if other = path then some item else d.item? other := by
  unfold item?
  by_cases root : other = []
  · subst root
    simp [Ne.symm inside]
  · simp [root]

@[simp] theorem item?_remove (d : Disk) {path : Path} (inside : path ≠ []) (other : Path) :
    (d.remove path).item? other = if other = path then none else d.item? other := by
  unfold item?
  by_cases root : other = []
  · subst root
    simp [Ne.symm inside]
  · simp [root,remove]

theorem mem_way {path p : Path} : p ∈ way path ↔ p ≠ [] ∧ p <+: path := by
  unfold way
  constructor
  · intro member
    obtain ⟨n,below,rfl⟩ := List.mem_map.mp member
    have room := List.mem_range.mp below
    refine ⟨?_,List.take_prefix _ _⟩
    intro empty
    rcases List.take_eq_nil_iff.mp empty with zero | none
    · cases zero
    · simp [none] at room
  · rintro ⟨nonempty,start⟩
    have positive := List.length_pos_iff.mpr nonempty
    have short := start.length_le
    refine List.mem_map.mpr ⟨p.length - 1,List.mem_range.mpr (by omega),?_⟩
    rw [Nat.sub_add_cancel positive]
    exact (List.prefix_iff_eq_take.mp start).symm

theorem blocked_iff {d : Disk} {path : Path} : d.blocked path = true ↔ ∃ p ∈ way path, d.IsFile p := by
  have blocking (p : Path) : (d.item? p ≠ none ∧ d.item? p ≠ some .directory) ↔ d.IsFile p := by
    unfold IsFile
    cases d.item? p with
    | none => simp
    | some item => cases item <;> simp
  simp only [blocked,List.any_eq_true,decide_eq_true_eq,blocking]

theorem blocked_congr {d d' : Disk} {path : Path} (files : ∀ p ∈ way path, d'.IsFile p ↔ d.IsFile p) :
    d'.blocked path = d.blocked path := by
  rw [Bool.eq_iff_iff,blocked_iff,blocked_iff]
  exact exists_congr fun p => and_congr_right fun member => files p member

-- What is read at a path depends on what is there and on which paths on the way are files.
theorem readBytes_congr {d d' : Disk} {path : Path} (there : d'.item? path = d.item? path)
    (files : ∀ p ∈ way path, d'.IsFile p ↔ d.IsFile p) : d'.readBytes path = d.readBytes path := by
  simp only [readBytes,there,blocked_congr files]

theorem readBytes_frame {d d' : Disk} {path : Path} (same : ∀ p, p <+: path → d'.item? p = d.item? p) :
    d'.readBytes path = d.readBytes path :=
  readBytes_congr (same path (List.prefix_refl _)) fun p member => by simp [IsFile,same p (mem_way.mp member).2]

theorem readBytes_ok {d : Disk} {path : Path} : d.readBytes path = .ok bytes ↔ d.item? path = some (.file bytes) := by
  unfold readBytes
  split <;> simp [*]

theorem fromUTF8?_iff {bytes : ByteArray} : String.fromUTF8? bytes = some text ↔ bytes = text.toUTF8 := by
  unfold String.fromUTF8?
  split
  · next valid =>
    rw [Option.some_inj]
    exact ⟨fun same => same ▸ rfl,fun same => String.toByteArray_inj.mp same⟩
  · next invalid =>
    refine ⟨fun found => (by cases found),fun same => (invalid ?_).elim⟩
    rw [same]
    exact text.isValidUTF8

theorem read_text {d : Disk} {path : Path} : d.read path = .ok text ↔ d.readBytes path = .ok text.toUTF8 := by
  unfold read
  cases d.readBytes path with
  | error e => simp [Except.bind]
  | ok bytes =>
    rw [Except.ok.injEq,← fromUTF8?_iff]
    cases decoded : String.fromUTF8? bytes <;> simp [decoded,Except.bind]

theorem read_of_readBytes {d d' : Disk} {path path' : Path} (same : d'.readBytes path' = d.readBytes path) :
    d'.read path' = d.read path := by
  rw [read,same,read]

def makeDir (d : Disk) (path : Path) : Option Disk :=
  match d.item? path with
  | some .directory => some d
  | some (.file _) => none
  | none => some ⟨d.items.insert path .directory⟩

theorem makeDir_item {d d' : Disk} {path : Path} (made : d.makeDir path = some d') :
    (∀ bytes, d.item? path ≠ some (.file bytes)) ∧
      ∀ p, d'.item? p = if p = path then some .directory else d.item? p := by
  unfold makeDir at made
  split at made
  · next directory =>
    cases made
    refine ⟨fun bytes file => by simp [directory] at file,fun p => ?_⟩
    split
    · next same => rw [same,directory]
    · rfl
  · cases made
  · next nothing =>
    have inside : path ≠ [] := by
      intro root
      simp [root,item?_root] at nothing
    cases made
    exact ⟨fun bytes file => by simp [nothing] at file,item?_insert d inside .directory⟩

theorem makeDirs_item {d d' : Disk} {paths : List Path} (made : paths.foldlM makeDir d = some d') (p : Path) :
    d'.item? p = (if p ∈ paths then some .directory else d.item? p) ∧ (d'.IsFile p ↔ d.IsFile p) := by
  induction paths generalizing d with
  | nil =>
    cases made
    simp
  | cons head rest ih =>
    obtain ⟨middle,first,others⟩ := Option.bind_eq_some_iff.mp made
    obtain ⟨item,file⟩ := ih others
    obtain ⟨free,here⟩ := makeDir_item first
    have kept : middle.IsFile p ↔ d.IsFile p := by
      unfold IsFile
      rw [here p]
      split
      · next same => simpa [same] using free
      · rfl
    refine ⟨?_,file.trans kept⟩
    rw [item,here p]
    by_cases same : p = head
    · simp [same]
    · simp [same]

theorem makeDirs_succeeds {d : Disk} {paths : List Path} (clear : ∀ p ∈ paths, ¬ d.IsFile p) :
    ∃ d', paths.foldlM makeDir d = some d' := by
  induction paths generalizing d with
  | nil => exact ⟨d,rfl⟩
  | cons head rest ih =>
    have first : ∃ middle, d.makeDir head = some middle := by
      unfold makeDir
      split
      · exact ⟨d,rfl⟩
      · next bytes file => exact absurd ⟨bytes,file⟩ (clear head List.mem_cons_self)
      · exact ⟨_,rfl⟩
    obtain ⟨middle,made⟩ := first
    have clear' : ∀ p ∈ rest, ¬ middle.IsFile p := by
      intro p member file
      have one : [head].foldlM makeDir d = some middle := by simp [made]
      exact clear p (List.mem_cons_of_mem _ member) ((makeDirs_item one p).2.mp file)
    obtain ⟨d',others⟩ := ih clear'
    exact ⟨d',by simp [made,others]⟩

theorem readBytes_makeDirs {d d' : Disk} {path : Path} {paths : List Path} (made : paths.foldlM makeDir d = some d')
    (outside : path ∉ paths) : d'.readBytes path = d.readBytes path := by
  refine readBytes_congr ?_ fun p _ => (makeDirs_item made p).2
  rw [(makeDirs_item made path).1]
  simp [outside]

theorem write_item {d d' : Disk} {path : Path} (written : d.writeBytes path bytes = some d') :
    path ≠ [] ∧ ∀ p, d'.item? p = if p = path then some (.file bytes) else d.item? p := by
  unfold writeBytes at written
  split at written
  · cases written
  · next fits =>
    cases written
    have inside : path ≠ [] := fun root => fits (.inl root)
    exact ⟨inside,item?_insert d inside (.file bytes)⟩

theorem write_succeeds {d : Disk} {path : Path} (inside : path ≠ []) (above : d.item? path.dropLast = some .directory)
    (free : d.item? path ≠ some .directory) (bytes : ByteArray) : ∃ d', d.writeBytes path bytes = some d' := by
  simp [writeBytes,inside,above,free]

theorem readBytes_write_other {d d' : Disk} {path other : Path} (written : d.writeBytes path bytes = some d')
    (apart : ¬ path <+: other) : d'.readBytes other = d.readBytes other := by
  refine readBytes_frame fun p start => ?_
  rw [(write_item written).2 p]
  split
  · next same => exact absurd (same ▸ start) apart
  · rfl

theorem readBytes_write {d d' : Disk} {path : Path} (written : d.writeBytes path bytes = some d') :
    d'.readBytes path = .ok bytes := readBytes_ok.mpr (by simp [(write_item written).2 path])

theorem read_write {d d' : Disk} {path : Path} (written : d.write path text = some d') :
    d'.read path = .ok text := read_text.mpr (readBytes_write written)

theorem rename_item {d d' : Disk} {source target : Path} (moved : d.rename source target = some d') :
    ∃ bytes, d.item? source = some (.file bytes) ∧ (d.remove source).writeBytes target bytes = some d' := by
  unfold rename at moved
  split at moved
  · next bytes file => exact ⟨bytes,file,moved⟩
  · cases moved

end ModelCatalog.Files.Disk
