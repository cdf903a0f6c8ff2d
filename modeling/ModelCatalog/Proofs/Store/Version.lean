import ModelCatalog.Command.Run
import ModelCatalog.Proofs.Json.Said
import ModelCatalog.Proofs.Store.Session

namespace ModelCatalog

namespace Json

def Node.integer? : Node → Option Int
  | .number (some (.int i _)) => some i
  | _ => none

theorem Codec.natural_read {type : String} {high : Nat} {range : high < 18446744073709551616} {node : Node} {n : Nat} :
    (natural type high range).read m node = .ok n ↔ n ≤ high ∧ node.integer? = some (n : Int) := by
  simp only [natural,Node.integer?]
  split
  · next i _ =>
    split
    · next bounds =>
      simp only [Except.ok.injEq,Option.some_inj]
      omega
    · next bounds =>
      simp only [reduceCtorEq,Option.some_inj,false_iff]
      omega
  · simp

end Json

namespace Store
open Json Files DocumentStore Command

-- An object says its version once, as a number of 32 bits.
def Versioned (members : List (String × Node)) (v : Nat) : Prop :=
  ∃ node, said "version" members = [node] ∧ v ≤ 4294967295 ∧ node.integer? = some (v : Int)

inductive Unversioned (members : List (String × Node)) : Prop where
  | missing (none : said "version" members = [])
  | repeated (again : 1 < (said "version" members).length)
  | unfit {node : Node} (once : said "version" members = [node])
      (other : ∀ v : Nat, v ≤ 4294967295 → node.integer? ≠ some (v : Int))

section
variable {found : Node × Bool} {members : List (String × Node)} {v : Nat}

theorem Unversioned.no_version (unversioned : Unversioned members) : ¬ Versioned members v := by
  rintro ⟨node,once,fits,number⟩
  cases unversioned with
  | missing none =>
    rw [none] at once
    cases once
  | repeated again =>
    rw [once] at again
    exact Nat.lt_irrefl 1 again
  | unfit single other =>
    cases single.symm.trans once
    exact other v fits number

theorem unversioned_or (members : List (String × Node)) : Unversioned members ∨ ∃ v, Versioned members v := by
  match all : said "version" members with
  | [] => exact .inl (.missing all)
  | [node] =>
    by_cases fits : ∃ v : Nat, v ≤ 4294967295 ∧ node.integer? = some (v : Int)
    · obtain ⟨v,fits⟩ := fits
      exact .inr ⟨v,node,all,fits⟩
    · exact .inl (.unfit all fun v small number => fits ⟨v,small,number⟩)
  | _ :: _ :: rest => exact .inl (.repeated (by rw [all]; simp))

-- The header is read from every object with a version, whatever else it says, and from no other one.
theorem header_versioned (object : IsObject found members) : header.readFrom found = .ok v ↔ Versioned members v := by
  rw [Codec.readFrom_ok,object.whole]
  simp only [header,Layout.codec,and_true,map_ok]
  constructor
  · rintro ⟨⟨_,_⟩,read,rfl⟩
    obtain ⟨node,once,number⟩ := (Layout.read_once "Header" rfl object.complete).mp read
    exact ⟨node,once,Codec.natural_read.mp number⟩
  · rintro ⟨node,once,number⟩
    exact ⟨(v,()),(Layout.read_once "Header" rfl object.complete).mpr ⟨node,once,Codec.natural_read.mpr number⟩,rfl⟩

theorem decodeFrom_other (read : header.readFrom found = .ok v) (other : v ≠ version) :
    decodeFrom found = .error (.unsupportedVersion v) := by
  unfold decodeFrom
  rw [read]
  change (if v ≠ version then _ else _) = _
  rw [if_pos other]
  rfl

theorem decodeFrom_headless {fault : Fault} (read : header.readFrom found = .error fault) :
    decodeFrom found = .error (.serialization fault) := by
  unfold decodeFrom
  rw [read]
  rfl

theorem decodeFrom_ok {s : Contents} (decoded : decodeFrom found = .ok s) :
    header.readFrom found = .ok version ∧ ∃ d, listed.readFrom found = .ok d := by
  simp only [decodeFrom,bind_ok,mapError_ok] at decoded
  obtain ⟨v,read,decoded⟩ := decoded
  split at decoded
  · cases decoded
  · next same =>
    simp only [bind_ok,mapError_ok] at decoded
    obtain ⟨d,body,-⟩ := decoded
    exact ⟨Decidable.not_not.mp same ▸ read,d,body⟩

-- Only an object decodes: an array has its first item for a version in the header, and for a list of models behind it.
theorem decoded_object {s : Contents} (decoded : decodeFrom found = .ok s) : ∃ members, IsObject found members := by
  obtain ⟨head,d,body⟩ := decodeFrom_ok decoded
  obtain ⟨head,clean⟩ := Codec.readFrom_ok.mp head
  obtain ⟨_,first,-⟩ := map_ok.mp head
  obtain ⟨_,second,-⟩ := map_ok.mp (Codec.readFrom_ok.mp body).1
  obtain ⟨node,whole⟩ := found
  cases clean
  -- The header and the listing are read from the same node.
  cases node with
  | object members stop =>
    obtain ⟨rfl,heading⟩ := Layout.read_object first
    obtain ⟨-,listing⟩ := Layout.read_object second
    obtain ⟨texts,rfl⟩ := exists_named fun member found => by
      obtain ⟨name,own,-⟩ := heading member found
      rw [own]
      exact Option.some_ne_none name
    refine ⟨texts,rfl,fun member found => ?_⟩
    obtain ⟨name,own,complete⟩ := heading _ (List.mem_map_of_mem found)
    obtain ⟨_,same,listed⟩ := listing _ (List.mem_map_of_mem found)
    cases own.symm.trans same
    by_cases version : name = "version"
    · exact listed (version ▸ version_unlisted)
    · exact complete (mt List.mem_singleton.mp version)
  | array items closed =>
    obtain ⟨-,_,given⟩ | ⟨inner,item,others,v,rfl,number⟩ := Layout.read_array first
    · cases given
    · obtain ⟨empty,-⟩ | ⟨inner',_,_,models,same,list⟩ := Layout.read_array second
      · cases empty
      · cases same
        cases item with
        | number n => cases list
        | null | bool b | text s | array items closed | object members stop | broken => cases number
  | null | bool b | broken => cases first
  | number n | text s => cases first

theorem openAt_document {path : Path} {d : Disk} {bytes : ByteArray} (held : d.readBytes path = .ok bytes) :
    openAt path d = (decodeBytes bytes).map fun live => ⟨path,live⟩ := by
  rw [openAt,held]

theorem invoke_unopened {site : Site} {invocation : Invocation} {settings : Settings} {bytes : ByteArray}
    {e : StoreError} (settled : site.settings invocation.config = .ok settings) (named : settings.storePath ≠ "")
    (held : site.disk.readBytes (site.locate settings.storePath) = .ok bytes) (refused : decodeBytes bytes = .error e) :
    invoke site invocation = (.ofRefusal (.storeUnopened settings.storePath e),site.disk) := by
  have opened : openStore site settings.storePath = .error (.storeUnopened settings.storePath e) := by
    rw [openStore,if_neg named,openAt_document held,refused]
    rfl
  unfold invoke
  simp only [settled,opened,bind,Except.bind]

end

-- Documents of another version are told apart and never misread. An object that says its version once, and not the one
-- that is read, is refused for that version, whatever else it says. Only objects of the version that is read decode;
-- an object without a version, with more than one, or with one that is no number of 32 bits is not understood. All
-- this is said of any object that is whole, as every one is that reads as free JSON. Opening a document that is there
-- gives what decoding its bytes gives, and leaves the disk: a store that is opened again, and a command whose store
-- does not open, find it as it was.
theorem versions_told_apart :
    (∀ text : String, decodeBytes text.toUTF8 = decode text) ∧
    (∀ bytes members v, IsObject (Node.readBytes bytes) members → Versioned members v → v ≠ version →
      decodeBytes bytes = .error (.unsupportedVersion v)) ∧
    (∀ bytes s, decodeBytes bytes = .ok s →
      ∃ members, IsObject (Node.readBytes bytes) members ∧ Versioned members version) ∧
    (∀ bytes members, IsObject (Node.readBytes bytes) members → Unversioned members →
      ∃ fault, decodeBytes bytes = .error (.serialization fault)) ∧
    (∀ bytes value trees, Codec.value.readFrom (Node.readBytes bytes) = .ok value → value.tree = .object trees →
      ∃ members, IsObject (Node.readBytes bytes) members ∧ (Unversioned members ∨ ∃ v, Versioned members v)) ∧
    ∀ path (d : Disk) bytes, d.readBytes path = .ok bytes →
      openAt path d = ((decodeBytes bytes).map fun live => ⟨path,live⟩) ∧
      (∀ failures s, (reopened (failures,s,d)).2.2 = d) ∧
      ∀ (site : Site) invocation settings e, site.disk = d → site.settings invocation.config = .ok settings →
        settings.storePath ≠ "" → site.locate settings.storePath = path → decodeBytes bytes = .error e →
          invoke site invocation = (.ofRefusal (.storeUnopened settings.storePath e),d) := by
  refine ⟨decodeBytes_toUTF8,fun bytes members v object said other => ?_,fun bytes s decoded => ?_,
    fun bytes members object unversioned => ?_,fun bytes value trees read object => ?_,
    fun path d bytes held => ⟨openAt_document held,fun failures s => ?_,?_⟩⟩
  · exact decodeFrom_other ((header_versioned object).mpr said) other
  · obtain ⟨members,object⟩ := decoded_object decoded
    exact ⟨members,object,(header_versioned object).mp (decodeFrom_ok decoded).1⟩
  · cases read : header.readFrom (Node.readBytes bytes) with
    | ok v => exact (unversioned.no_version ((header_versioned object).mp read)).elim
    | error fault => exact ⟨fault,decodeFrom_headless read⟩
  · obtain ⟨members,whole⟩ := isObject_of_value read object
    exact ⟨members,whole,unversioned_or members⟩
  · unfold reopened
    dsimp only
    split <;> rfl
  · rintro site invocation settings e rfl settled named rfl refused
    exact invoke_unopened settled named held refused

def newerMembers : List (String × Tree) :=
  [("models",.array [.bool true]),("version",Codec.size.write 2),("next_connection_id",.null)]

def twofoldMembers : List (String × Tree) :=
  [("version",Codec.size.write 1),("version",Codec.size.write 1)]

def newerSite : Site where
  disk := ⟨.ofList [(["home",".local","share","mosaic","store.json"],.file (Tree.object newerMembers).pretty.toUTF8)]⟩
  directory := ""
  home := "home"
  now := ⟨1700000310,by decide⟩

theorem newer_document_refused :
    let document := (Tree.object newerMembers).pretty
    let path := ["home",".local","share","mosaic","store.json"]
    decodeBytes document.toUTF8 = .error (.unsupportedVersion 2) ∧
      (∃ fault, decodeBytes (Tree.object twofoldMembers).pretty.toUTF8 = .error (.serialization fault)) ∧
      (∃ members, IsObject (Node.readBytes listing.toUTF8) members ∧ Versioned members 1) ∧
      (∃ members, IsObject (Node.readBytes document.toUTF8) members ∧ (Unversioned members ∨ ∃ v, Versioned members v)) ∧
      newerSite.disk.readBytes path = .ok document.toUTF8 ∧ openAt path newerSite.disk = .error (.unsupportedVersion 2) ∧
      ∃ store, invoke newerSite ⟨.listTags,.user "bob",none⟩ =
        (.ofRefusal (.storeUnopened store (.unsupportedVersion 2)),newerSite.disk) := by
  intro document path
  obtain ⟨texts,others,decodes,unversioned,objects,opens⟩ := versions_told_apart
  have exact : (Tree.object newerMembers).Exact := by decide +kernel
  have newer : decodeBytes document.toUTF8 = .error (.unsupportedVersion 2) :=
    others _ _ 2 (isObject_pretty exact) ⟨_,rfl,by decide,rfl⟩ (by decide)
  have held : newerSite.disk.readBytes path = .ok document.toUTF8 := rfl
  have read : Codec.value.readFrom (Node.readBytes document.toUTF8) = .ok (.ofTree (.object newerMembers)) := by
    rw [Node.readBytes_toUTF8,Node.read_pretty _ exact,Codec.readFrom_ok]
    exact ⟨(Codec.value_read .document (.object newerMembers)).trans (if_pos (by decide)),rfl⟩
  obtain ⟨opened,-,invoked⟩ := opens path newerSite.disk document.toUTF8 held
  have placed : (newerSite.settings none).toOption.map (·.storePath) = some "home/.local/share/mosaic/store.json" := by
    decide +kernel
  obtain ⟨settings,settled,named⟩ := Option.map_eq_some_iff.mp placed
  refine ⟨newer,unversioned _ _ (isObject_pretty (by decide +kernel)) (.repeated (by decide)),?_,
    objects _ _ _ read rfl,held,?_,settings.storePath,?_⟩
  · exact decodes listing.toUTF8 listedContents ((texts listing).trans decode_listing)
  · rw [opened,newer]
    rfl
  · refine invoked newerSite _ settings _ rfl (ok_of_toOption settled) ?_ ?_ newer
    · rw [named]; decide
    · rw [named]; decide +kernel

end Store
end ModelCatalog
