import ModelCatalog.Proofs.Files.Disk
import ModelCatalog.Proofs.Store.Run

namespace ModelCatalog.Store
open Ordered Files

-- The disks at which the writing of a document can stop without having replaced it. The directories above
-- it are made one by one, and the file beside it may hold anything until it is written whole.
inductive Unfinished (path : Path) (d : Disk) : Disk → Prop where
  | directories (n : Nat) (made : ((Disk.way path.dropLast).take n).foldlM Disk.makeDir d = some d') :
      Unfinished path d d'
  | beside (left : ByteArray) (made : d.makeDirs path.dropLast = some above)
      (written : above.writeBytes (temporary path) left = some d') : Unfinished path d d'

inductive Stop (path : Path) (text : String) (d : Disk) : Disk → Prop where
  | unfinished (stop : Unfinished path d d') : Stop path text d d'
  | replaced (made : d.makeDirs path.dropLast = some above)
      (written : above.write (temporary path) text = some whole)
      (moved : whole.rename (temporary path) path = some d') : Stop path text d d'

-- All that a commit can do, whatever makes it fail.
inductive Commits (path : Path) (text : String) (d : Disk) : Bool × Disk → Prop where
  | unmade : Commits path text d (false,d)
  | unwritten (made : d.makeDirs path.dropLast = some above) : Commits path text d (false,above)
  | torn (made : d.makeDirs path.dropLast = some above) (left : ByteArray)
      (written : above.writeBytes (temporary path) left = some d') : Commits path text d (false,d')
  | unmoved (made : d.makeDirs path.dropLast = some above)
      (written : above.write (temporary path) text = some whole) : Commits path text d (false,whole)
  | moved (made : d.makeDirs path.dropLast = some above)
      (written : above.write (temporary path) text = some whole)
      (moved : whole.rename (temporary path) path = some d') : Commits path text d (true,d')

variable {d d' above whole : Disk} {path : Path} {text : String}

theorem Unfinished.start : Unfinished path d d := .directories 0 rfl

theorem Unfinished.prepared (made : d.makeDirs path.dropLast = some d') : Unfinished path d d' :=
  .directories (Disk.way path.dropLast).length (by rwa [List.take_length])

@[simp] theorem temporary_length (path : Path) : (temporary path).length = path.length := by
  rcases path.eq_nil_or_concat with rfl | ⟨above,name,rfl⟩
  · rfl
  · simp [temporary]

theorem temporary_ne (inside : path ≠ []) : temporary path ≠ path := by
  rcases path.eq_nil_or_concat with rfl | ⟨above,name,rfl⟩
  · exact absurd rfl inside
  simp only [temporary,List.concat_eq_append,List.getLast?_concat,List.dropLast_concat]
  intro same
  have names := congrArg String.toList (List.singleton_inj.mp (List.append_cancel_left same))
  rw [String.toList_append,String.toList_ofList] at names
  split at names
  · next c before parted =>
    split at names
    · have lengths := congrArg List.length names
      simp at lengths
    · -- The last dot of the name is the one before the last three characters.
      rw [← names,List.reverse_append,List.reverse_reverse] at parted
      have lengths := congrArg List.length parted
      simp at lengths
      omega
  · have lengths := congrArg List.length names
    simp at lengths

theorem not_mem_above (path : Path) : path ∉ Disk.way path.dropLast := by
  intro member
  obtain ⟨inside,start⟩ := Disk.mem_way.mp member
  have short := start.length_le
  have positive := List.length_pos_iff.mpr inside
  rw [List.length_dropLast] at short
  omega

theorem temporary_apart (inside : temporary path ≠ []) : ¬ temporary path <+: path := by
  intro start
  have same := start.eq_of_length (temporary_length path)
  rw [same] at inside
  exact temporary_ne inside same

theorem readBytes_replaced (written : d.write (temporary path) text = some whole)
    (moved : whole.rename (temporary path) path = some d') : d'.readBytes path = .ok text.toUTF8 := by
  obtain ⟨held,there,placed⟩ := Disk.rename_item moved
  have same : held = text.toUTF8 := by
    rw [(Disk.write_item written).2,if_pos rfl] at there
    cases there
    rfl
  rw [Disk.readBytes_write placed,same]

theorem Unfinished.readBytes_eq (stop : Unfinished path d d') : d'.readBytes path = d.readBytes path := by
  cases stop with
  | directories n made =>
    exact Disk.readBytes_makeDirs made fun member => not_mem_above path (List.mem_of_mem_take member)
  | beside left made written =>
    rw [Disk.readBytes_write_other written (temporary_apart (Disk.write_item written).1)]
    exact Disk.readBytes_makeDirs made (not_mem_above path)

theorem Stop.readBytes_eq (stop : Stop path text d d') :
    d'.readBytes path = d.readBytes path ∨ d'.readBytes path = .ok text.toUTF8 := by
  cases stop with
  | unfinished stop => exact .inl stop.readBytes_eq
  | replaced made written moved => exact .inr (readBytes_replaced written moved)

theorem commit_cases (failure : Option CommitFailure) (path : Path) (text : String) (d : Disk) :
    Commits path text d (commit failure path text d) := by
  unfold commit
  cases found : (if failure = some .makeDirs then none else d.makeDirs path.dropLast) with
  | none => exact .unmade
  | some above =>
    have made : d.makeDirs path.dropLast = some above := by
      split at found
      · cases found
      · exact found
    simp only
    split
    · next _ left =>
      cases torn : left.bind (above.writeBytes (temporary path)) with
      | none => exact .unwritten made
      | some d' =>
        obtain ⟨held,-,written⟩ := Option.bind_eq_some_iff.mp torn
        exact .torn made held written
    · cases written : above.write (temporary path) text with
      | none => exact .unwritten made
      | some whole =>
        simp only
        by_cases stuck : failure = some .rename
        · simp only [if_pos stuck]
          exact .unmoved made written
        · simp only [if_neg stuck]
          cases moved : whole.rename (temporary path) path with
          | none => exact .unmoved made written
          | some d' => exact .moved made written moved

theorem commit_spec (failure : Option CommitFailure) (path : Path) (text : String) (d : Disk) :
    Stop path text d (commit failure path text d).2 ∧
      if (commit failure path text d).1 then (commit failure path text d).2.readBytes path = .ok text.toUTF8
      else Unfinished path d (commit failure path text d).2 := by
  have failed {d' : Disk} (stop : Unfinished path d d') : Stop path text d d' ∧ Unfinished path d d' :=
    ⟨.unfinished stop,stop⟩
  have commits := commit_cases failure path text d
  generalize commit failure path text d = outcome at commits ⊢
  cases commits with
  | unmade => exact failed .start
  | unwritten made => exact failed (.prepared made)
  | torn made left written => exact failed (.beside left made written)
  | unmoved made written => exact failed (.beside text.toUTF8 made written)
  | moved made written moved => exact ⟨.replaced made written moved,readBytes_replaced written moved⟩

-- No file stands where directories above a document are to be, and no directory in its place or in the one
-- of the file beside it.
structure Writable (path : Path) (d : Disk) : Prop where
  inside : path ≠ []
  clear : ∀ p ∈ Disk.way path.dropLast, ¬ d.IsFile p
  free : d.item? path ≠ some .directory
  beside : d.item? (temporary path) ≠ some .directory

@[simp] theorem temporary_dropLast (path : Path) : (temporary path).dropLast = path.dropLast := by
  rcases path.eq_nil_or_concat with rfl | ⟨above,name,rfl⟩
  · rfl
  · simp [temporary]

theorem temporary_inside (inside : path ≠ []) : temporary path ≠ [] := by
  intro empty
  have same := temporary_length path
  rw [empty] at same
  exact inside (List.length_eq_zero_iff.mp same.symm)

theorem above_apart (inside : path ≠ []) {p : Path} (start : p <+: path.dropLast) : p ≠ path ∧ p ≠ temporary path := by
  have short := start.length_le
  have same := temporary_length path
  have positive := List.length_pos_iff.mpr inside
  rw [List.length_dropLast] at short
  refine ⟨?_,?_⟩
  · rintro rfl
    omega
  · rintro rfl
    omega

theorem Writable.prepares (writable : Writable path d) :
    ∃ above, d.makeDirs path.dropLast = some above ∧ above.item? path.dropLast = some .directory ∧
      (∀ p, p = path ∨ p = temporary path → above.item? p = d.item? p) ∧ ∀ p, above.IsFile p ↔ d.IsFile p := by
  obtain ⟨above,made⟩ := Disk.makeDirs_succeeds writable.clear
  have item (p : Path) := (Disk.makeDirs_item made p).1
  refine ⟨above,made,?_,?_,fun p => (Disk.makeDirs_item made p).2⟩
  · by_cases root : path.dropLast = []
    · rw [root]
      rfl
    · rw [item,if_pos (Disk.mem_way.mpr ⟨root,List.prefix_refl _⟩)]
  · intro p which
    rw [item,if_neg]
    intro member
    have apart := above_apart writable.inside (Disk.mem_way.mp member).2
    exact which.elim apart.1 apart.2

theorem replace_succeeds (inside : path ≠ []) (parent : above.item? path.dropLast = some .directory)
    (free : above.item? path ≠ some .directory) (beside : above.item? (temporary path) ≠ some .directory)
    (text : String) :
    ∃ whole d', above.write (temporary path) text = some whole ∧ whole.rename (temporary path) path = some d' ∧
      ∀ p, d'.item? p =
        if p = path then some (.file text.toUTF8) else if p = temporary path then none else above.item? p := by
  have inside' := temporary_inside inside
  have apart := above_apart inside (List.prefix_refl _)
  have parent' : above.item? (temporary path).dropLast = some .directory := by simpa using parent
  obtain ⟨whole,written⟩ := Disk.write_succeeds inside' parent' beside text.toUTF8
  have there := (Disk.write_item written).2
  have removed (p : Path) : (whole.remove (temporary path)).item? p =
      if p = temporary path then none else above.item? p := by
    by_cases same : p = temporary path
    · simp [inside',same]
    · simp [inside',there,same]
  have parent'' : (whole.remove (temporary path)).item? path.dropLast = some .directory := by
    rw [removed,if_neg apart.2,parent]
  have free' : (whole.remove (temporary path)).item? path ≠ some .directory := by
    rw [removed,if_neg (temporary_ne inside).symm]
    exact free
  obtain ⟨d',moved⟩ := Disk.write_succeeds inside parent'' free' text.toUTF8
  refine ⟨whole,d',written,?_,?_⟩
  · have file : whole.item? (temporary path) = some (.file text.toUTF8) := by rw [there,if_pos rfl]
    simp only [Disk.rename,file,moved]
  · intro p
    rw [(Disk.write_item moved).2,removed]

theorem commit_succeeds (writable : Writable path d) (text : String) :
    ∃ d', commit none path text d = (true,d') ∧ Writable path d' := by
  obtain ⟨above,made,parent,kept,files⟩ := writable.prepares
  have free : above.item? path ≠ some .directory := by
    rw [kept path (.inl rfl)]
    exact writable.free
  have beside : above.item? (temporary path) ≠ some .directory := by
    rw [kept _ (.inr rfl)]
    exact writable.beside
  obtain ⟨whole,d',written,moved,item⟩ := replace_succeeds writable.inside parent free beside text
  refine ⟨d',by simp [commit,made,written,moved],writable.inside,?_,?_,?_⟩
  · intro p member file
    have apart := above_apart writable.inside (Disk.mem_way.mp member).2
    unfold Disk.IsFile at file
    rw [item,if_neg apart.1,if_neg apart.2] at file
    exact writable.clear p member ((files p).mp file)
  · rw [item,if_pos rfl]
    exact fun directory => by cases directory
  · rw [item,if_neg (temporary_ne writable.inside),if_pos rfl]
    exact fun directory => by cases directory

namespace DocumentStore

def StopsAt (s : DocumentStore) (call : Call) (d d' : Disk) : Prop :=
  d' = d ∨ ∃ a next, s.live.answer call = .ok (a,next) ∧ call.writes a = true ∧ Stop s.path (encode next) d d'

-- A call that fails leaves the live contents, and a disk on which the document is not replaced. One that
-- succeeds answers as its contents do and moves on to theirs: the document is theirs if something was to be
-- written, and otherwise nothing has changed.
structure Settles (call : Call) (s : DocumentStore) (d : Disk)
    (outcome : Except StoreError call.Answer × DocumentStore × Disk) : Prop where
  stops : s.StopsAt call d outcome.2.2
  refused : ∀ e, outcome.1 = .error e → outcome.2.1 = s ∧ Unfinished s.path d outcome.2.2 ∧
    (e ≠ .io → s.live.answer call = .error e)
  granted : ∀ a, outcome.1 = .ok a → ∃ next, s.live.answer call = .ok (a,next) ∧ outcome.2.1 = ⟨s.path,next⟩ ∧
    if call.writes a then outcome.2.2.readBytes s.path = .ok (encode next).toUTF8 else next = s.live ∧ outcome.2.2 = d

theorem answer_settles (failure : Option CommitFailure) (call : Call) (s : DocumentStore) (d : Disk) :
    Settles call s d (answer failure call (s,d)) := by
  unfold answer
  dsimp only
  cases answered : s.live.answer call with
  | error refusal =>
    refine ⟨.inl rfl,fun e same => ?_,fun a same => (by cases same)⟩
    cases same
    exact ⟨rfl,.start,fun _ => answered⟩
  | ok both =>
    obtain ⟨a,next⟩ := both
    simp only
    by_cases writes : call.writes a = true
    · obtain ⟨stop,document⟩ := commit_spec failure s.path (encode next) d
      have stops : s.StopsAt call d (commit failure s.path (encode next) d).2 := .inr ⟨a,next,answered,writes,stop⟩
      rw [if_pos writes]
      cases done : commit failure s.path (encode next) d with
      | mk success d' =>
        rw [done] at stops document
        cases success with
        | true =>
          refine ⟨stops,fun e same => (by cases same),fun a same => ?_⟩
          cases same
          exact ⟨next,answered,rfl,by rw [if_pos writes]; exact document⟩
        | false =>
          refine ⟨stops,fun e same => ?_,fun a same => (by cases same)⟩
          cases same
          exact ⟨rfl,document,fun other => absurd rfl other⟩
    · have kept : next = s.live := Contents.answer_unwritten answered (Bool.eq_false_iff.mpr writes)
      rw [if_neg writes]
      refine ⟨.inl rfl,fun e same => (by cases same),fun a same => ?_⟩
      cases same
      exact ⟨next,answered,by rw [kept],by rw [if_neg writes]; exact ⟨kept,rfl⟩⟩

theorem Settles.document (settles : Settles call s d outcome) (failed : outcome.1 = .error e) :
    outcome.2.2.readBytes s.path = d.readBytes s.path := (settles.refused e failed).2.1.readBytes_eq

def Synced (s : DocumentStore) (d : Disk) : Prop := d.readBytes s.path = .ok (encode s.live).toUTF8

theorem answer_document (failure : Option CommitFailure) (call : Call) (s : DocumentStore) (d : Disk) :
    (answer failure call (s,d)).2.1.Synced (answer failure call (s,d)).2.2 ∨
      (answer failure call (s,d)).2.1 = s ∧ (answer failure call (s,d)).2.2.readBytes s.path = d.readBytes s.path := by
  have settles := answer_settles failure call s d
  cases answered : (answer failure call (s,d)).1 with
  | error e => exact .inr ⟨(settles.refused e answered).1,settles.document answered⟩
  | ok a =>
    obtain ⟨next,-,moved,document⟩ := settles.granted a answered
    split at document
    · refine .inl ?_
      unfold Synced
      rw [moved]
      exact document
    · refine .inr ⟨?_,congrArg (Disk.readBytes · s.path) document.2⟩
      rw [moved,document.1]

theorem answer_synced (failure : Option CommitFailure) (call : Call) {s : DocumentStore} {d : Disk}
    (synced : s.Synced d) :
    (answer failure call (s,d)).2.1.Synced (answer failure call (s,d)).2.2 := by
  rcases answer_document failure call s d with new | ⟨same,unchanged⟩
  · exact new
  · unfold Synced
    rw [same,unchanged]
    exact synced

theorem answer_commits {failure : Option CommitFailure} {call : Call} {s : DocumentStore} {d : Disk}
    {a : call.Answer} (answered : (answer failure call (s,d)).1 = .ok a) (writes : call.writes a = true) :
    (answer failure call (s,d)).2.1.Synced (answer failure call (s,d)).2.2 := by
  obtain ⟨next,-,moved,document⟩ := (answer_settles failure call s d).granted a answered
  rw [if_pos writes] at document
  unfold Synced
  rw [moved]
  exact document

theorem answer_path (failure : Option CommitFailure) (call : Call) (s : DocumentStore) (d : Disk) :
    (answer failure call (s,d)).2.1.path = s.path := by
  have settles := answer_settles failure call s d
  cases answered : (answer failure call (s,d)).1 with
  | error e => rw [(settles.refused e answered).1]
  | ok a =>
    obtain ⟨next,-,moved,-⟩ := settles.granted a answered
    rw [moved]

def Idle (s : DocumentStore) (call : Call) : Prop :=
  (∀ d d', s.StopsAt call d d' → d' = d) ∧ ∀ failure d, (answer failure call (s,d)).2 = (s,d)

theorem idle_of_unwritten {s : DocumentStore} {call : Call} {a : call.Answer} {next : Contents}
    (answered : s.live.answer call = .ok (a,next)) (silent : call.writes a = false) : s.Idle call := by
  refine ⟨fun d d' stop => ?_,fun failure d => ?_⟩
  · rcases stop with same | ⟨b,other,found,writes,-⟩
    · exact same
    · rw [answered] at found
      cases found
      rw [silent] at writes
      cases writes
  · simp [answer,answered,silent]

theorem retain_all {s : Contents} {keep : KeySet String}
    (all : ∀ entry ∈ s.models.entries, keep.contains entry.1 = true) :
    s.answer (.retainModels keep) = .ok (0,s) := by
  simp [Contents.answer,Keyed.filter_eq_self all]

theorem run_path (calls : List Call) (failures : List (Option CommitFailure)) (s : DocumentStore) (d : Disk) :
    (transcript failing calls (failures,s,d)).2.2.1.path = s.path :=
  transcript_keeps (P := fun st : Scheduled => st.2.1.path = s.path)
    (fun call (failures,s,d) same => (answer_path failures.head?.join call s d).trans same) calls rfl

theorem run_synced (calls : List Call) {st : Scheduled} (synced : st.2.1.Synced st.2.2) :
    (transcript failing calls st).2.2.1.Synced (transcript failing calls st).2.2.2 :=
  transcript_keeps (P := fun st : Scheduled => st.2.1.Synced st.2.2)
    (fun call (failures,_,_) synced => answer_synced failures.head?.join call synced) calls synced

-- Writing a document is all or nothing: at every disk a call can stop at the document is the old one, and
-- until the last step it is certainly the old one, or that of the new contents. What fails leaves live
-- contents and document; what succeeds has written the document, or had nothing to write and touched
-- nothing. So in a run with any failures the document is up to date from the first success on.
theorem commit_all_or_nothing (s : DocumentStore) :
    (∀ call d d', s.StopsAt call d d' → d'.readBytes s.path = d.readBytes s.path ∨
      ∃ a next, s.live.answer call = .ok (a,next) ∧ call.writes a = true ∧ d'.readBytes s.path = .ok (encode next).toUTF8) ∧
    (∀ d d', Unfinished s.path d d' → d'.readBytes s.path = d.readBytes s.path) ∧
    (∀ failure call d, s.StopsAt call d (answer failure call (s,d)).2.2) ∧
    (∀ failure call d e s' d', answer failure call (s,d) = (.error e,s',d') →
      s' = s ∧ d'.readBytes s.path = d.readBytes s.path) ∧
    (∀ failure call d a s' d', answer failure call (s,d) = (.ok a,s',d') → s'.path = s.path ∧
      if call.writes a then d'.readBytes s.path = .ok (encode s'.live).toUTF8 else s' = s ∧ d' = d) ∧
    (∀ id, s.live.models.contains id = false → s.Idle (.deleteModel id)) ∧
    (∀ id, s.live.connections.contains id = false → s.Idle (.deleteConnection id)) ∧
    (∀ keep, (∀ entry ∈ s.live.models.entries, keep.contains entry.1 = true) → s.Idle (.retainModels keep)) ∧
    ∀ failures before call after d a,
      let reached := (transcript failing before (failures,s,d)).2
      let last := (transcript failing (before ++ call :: after) (failures,s,d)).2
      (failing call reached).1 = .ok a → call.writes a = true →
        last.2.2.readBytes s.path = .ok (encode last.2.1.live).toUTF8 := by
  refine ⟨?_,?_,?_,?_,?_,?_,?_,?_,?_⟩
  · intro call d d' stop
    rcases stop with rfl | ⟨a,next,answered,writes,stop⟩
    · exact .inl rfl
    · exact stop.readBytes_eq.imp_right fun new => ⟨a,next,answered,writes,new⟩
  · exact fun d d' stop => stop.readBytes_eq
  · exact fun failure call d => (answer_settles failure call s d).stops
  · intro failure call d e s' d' answered
    have settles := answer_settles failure call s d
    rw [answered] at settles
    exact ⟨(settles.refused e rfl).1,settles.document rfl⟩
  · intro failure call d a s' d' answered
    have settles := answer_settles failure call s d
    rw [answered] at settles
    obtain ⟨next,-,rfl,document⟩ := settles.granted a rfl
    refine ⟨rfl,?_⟩
    split
    · next writes =>
      rw [if_pos writes] at document
      exact document
    · next silent =>
      rw [if_neg silent] at document
      exact ⟨by rw [document.1],document.2⟩
  · exact fun id absent => idle_of_unwritten rfl absent
  · exact fun id absent => idle_of_unwritten rfl absent
  · exact fun keep all => idle_of_unwritten (retain_all all) rfl
  · intro failures before call after d a reached last answered writes
    have committed : (failing call reached).2.2.1.Synced (failing call reached).2.2.2 :=
      answer_commits answered writes
    have synced : last.2.1.Synced last.2.2 := by
      have rest := run_synced after committed
      have whole : (transcript failing after (failing call reached).2).2 = last := by
        simp only [last,transcript_append]
        rfl
      rwa [whole] at rest
    have path : last.2.1.path = s.path := run_path (before ++ call :: after) failures s d
    rw [← path]
    exact synced

def alpha : ModelRecord := .ofForm { id := "alpha",name := "Alpha" } "owner" ⟨5,by decide⟩

-- The first insertion fails at its last step, the second one succeeds, and the deletion behind it cannot
-- write: the document is that of the live contents.
theorem committed_between_failures :
    let start : Scheduled := ([some .rename,none,some .makeDirs],⟨["s.json"],.empty⟩,.empty)
    let last := (transcript failing [.insertModel alpha,.insertModel alpha,.deleteModel "alpha"] start).2
    (failing (.insertModel alpha) (transcript failing [.insertModel alpha] start).2).1 = .ok alpha ∧
      last.2.2.readBytes ["s.json"] = .ok (encode last.2.1.live).toUTF8 := by
  have inserted : (failing (.insertModel alpha) (transcript failing [.insertModel alpha]
      ([some .rename,none,some .makeDirs],⟨["s.json"],.empty⟩,.empty)).2).1 = .ok alpha := rfl
  obtain ⟨-,-,-,-,-,-,-,-,run⟩ := commit_all_or_nothing ⟨["s.json"],.empty⟩
  exact ⟨inserted,run _ [.insertModel alpha] (.insertModel alpha) [.deleteModel "alpha"] .empty alpha inserted rfl⟩

end DocumentStore
end ModelCatalog.Store
