import ModelCatalog.Ordered.Keyed

namespace ModelCatalog.Ordered
open Std

namespace Entries

theorem insert_last {κ β : Type} [Ord κ] [TransOrd κ] (key : κ) (value : β) (entries : List (κ × β))
    (last : ∀ entry ∈ entries, compare entry.1 key = .lt) :
    insert key value entries = entries ++ [(key,value)] := by
  induction entries with
  | nil => rfl
  | cons head rest ih =>
    have greater : compare key head.1 = .gt := OrientedCmp.gt_of_lt (last head List.mem_cons_self)
    have others := ih fun entry member => last entry (List.mem_cons_of_mem _ member)
    simp [insert,greater,others]

theorem find?_mem {κ β : Type} [DecidableEq κ] {key : κ} {value : β} {entries : List (κ × β)}
    (found : find? key entries = some value) : (key,value) ∈ entries := by
  induction entries with
  | nil => cases found
  | cons head rest ih =>
    obtain ⟨other,first⟩ := head
    rw [find?] at found
    split at found
    · next same =>
      cases same
      cases found
      exact List.mem_cons_self
    · exact List.mem_cons_of_mem _ (ih found)

theorem find?_distinct {κ β : Type} [DecidableEq κ] {key : κ} {value : β} {entries : List (κ × β)}
    (distinct : (entries.map (·.1)).Nodup) (member : (key,value) ∈ entries) : find? key entries = some value := by
  induction entries with
  | nil => cases member
  | cons head rest ih =>
    obtain ⟨apart,distinct⟩ := List.nodup_cons.mp distinct
    rcases List.mem_cons.mp member with rfl | member
    · exact if_pos rfl
    · have different : key ≠ head.1 := fun same => apart (List.mem_map.mpr ⟨(key,value),member,same⟩)
      exact (if_neg different).trans (ih distinct member)

theorem ascending_distinct {κ β : Type} [Ord κ] [ReflOrd κ] {entries : List (κ × β)} (sorted : Ascending entries) :
    (entries.map (·.1)).Nodup := by
  refine List.nodup_iff_pairwise_ne.mpr (List.pairwise_map.mpr (sorted.imp fun {a b} less same => ?_))
  rw [same] at less
  cases less.symm.trans ReflCmp.compare_self

theorem mem_find? {κ β : Type} [Ord κ] [ReflOrd κ] [DecidableEq κ] {key : κ} {value : β} {entries : List (κ × β)}
    (sorted : Ascending entries) (member : (key,value) ∈ entries) : find? key entries = some value :=
  find?_distinct (ascending_distinct sorted) member

theorem find?_eq_none {κ β : Type} [DecidableEq κ] {key : κ} {entries : List (κ × β)} :
    find? key entries = none ↔ ∀ entry ∈ entries, entry.1 ≠ key := by
  induction entries with
  | nil => simp [find?]
  | cons head rest ih =>
    obtain ⟨other,first⟩ := head
    by_cases same : key = other
    · simp [find?,same]
    · simp [find?,same,ih,Ne.symm same]

theorem find?_filter {κ β : Type} [DecidableEq κ] (keep : κ → Bool) (key : κ) (entries : List (κ × β)) :
    find? key (entries.filter fun entry => keep entry.1) = if keep key then find? key entries else none := by
  induction entries with
  | nil => simp [find?]
  | cons head rest ih =>
    obtain ⟨first,value⟩ := head
    by_cases found : key = first
    · by_cases kept : keep first = true
      · simp [found,kept,find?]
      · simpa [List.filter_cons,found,kept] using ih
    · by_cases kept : keep first = true
      · simpa [kept,found,find?] using ih
      · simpa [List.filter_cons,kept,found,find?] using ih

theorem find?_append {κ β : Type} [DecidableEq κ] (key : κ) (first second : List (κ × β)) :
    find? key (first ++ second) = (find? key first).or (find? key second) := by
  induction first with
  | nil => rfl
  | cons head rest ih =>
    by_cases found : key = head.1
    · simp [find?,found]
    · simp [find?,found,ih]

theorem find?_map {κ β γ : Type} [DecidableEq κ] (f : β → γ) (key : κ) (entries : List (κ × β)) :
    find? key (entries.map fun entry => (entry.1,f entry.2)) = (find? key entries).map f := by
  induction entries with
  | nil => rfl
  | cons head rest ih =>
    by_cases found : key = head.1
    · simp [find?,found]
    · simp [find?,found,ih]

theorem find?_keyed {κ α β : Type} [DecidableEq κ] (name : α → κ) (f : α → β) (key : κ) (items : List α) :
    find? key (items.map fun item => (name item,f item)) = (items.find? fun item => name item = key).map f := by
  induction items with
  | nil => rfl
  | cons head rest ih =>
    by_cases found : name head = key
    · simp [find?,found]
    · simp [find?,found,Ne.symm found,ih]

theorem find?_reverse {κ β : Type} [DecidableEq κ] {entries : List (κ × β)} (distinct : (entries.map (·.1)).Nodup)
    (key : κ) : find? key entries.reverse = find? key entries := by
  induction entries with
  | nil => rfl
  | cons head rest ih =>
    obtain ⟨apart,distinct⟩ := List.nodup_cons.mp distinct
    rw [List.reverse_cons,find?_append,ih distinct]
    by_cases found : key = head.1
    · have none : find? head.1 rest = none :=
        find?_eq_none.mpr fun entry member same => apart (List.mem_map.mpr ⟨entry,member,same⟩)
      simp [find?,found,none]
    · simp [find?,found]

theorem filter_key {κ β : Type} [DecidableEq κ] {entries : List (κ × β)} (distinct : (entries.map (·.1)).Nodup)
    (key : κ) : (entries.filter (·.1 = key)).map (·.2) = (find? key entries).toList := by
  induction entries with
  | nil => rfl
  | cons head rest ih =>
    obtain ⟨apart,distinct⟩ := List.nodup_cons.mp distinct
    by_cases found : head.1 = key
    · have none : rest.filter (·.1 = key) = [] := by
        apply List.filter_eq_nil_iff.mpr
        intro entry member same
        exact apart (List.mem_map.mpr ⟨entry,member,(of_decide_eq_true same).trans found.symm⟩)
      simp [find?,found,none]
    · simp [find?,found,Ne.symm found,ih distinct]

end Entries

namespace Keyed
variable {κ β γ : Type} [Ord κ]

@[simp] theorem get?_map [DecidableEq κ] (m : Keyed κ β) (f : β → γ) (key : κ) : (m.map f).get? key = (m.get? key).map f :=
  Entries.find?_map f key m.entries

@[simp] theorem contains_map [DecidableEq κ] (m : Keyed κ β) (f : β → γ) (key : κ) : (m.map f).contains key = m.contains key := by
  simp [contains]

@[simp] theorem values_map (m : Keyed κ β) (f : β → γ) : (m.map f).values = m.values.map f := by
  rw [values,values,map,List.map_map,List.map_map]
  rfl

theorem map_erase [DecidableEq κ] (m : Keyed κ β) (f : β → γ) (key : κ) : (m.erase key).map f = (m.map f).erase key := by
  rw [erase,erase,filter,filter,map,map,mk.injEq,List.filter_map]
  rfl

theorem get?_mem [DecidableEq κ] {m : Keyed κ β} {key : κ} {value : β} (found : m.get? key = some value) :
    (key,value) ∈ m.entries := Entries.find?_mem found

theorem mem_get? [ReflOrd κ] [DecidableEq κ] {m : Keyed κ β} {key : κ} {value : β} (member : (key,value) ∈ m.entries) :
    m.get? key = some value := Entries.mem_find? m.sorted member

theorem mem_iff_get? [ReflOrd κ] [DecidableEq κ] {m : Keyed κ β} {key : κ} {value : β} :
    (key,value) ∈ m.entries ↔ m.get? key = some value := ⟨mem_get?,get?_mem⟩

theorem contains_eq_false [DecidableEq κ] {m : Keyed κ β} {key : κ} :
    m.contains key = false ↔ ∀ entry ∈ m.entries, entry.1 ≠ key := by
  rw [← Entries.find?_eq_none,contains,Option.isSome_eq_false_iff,Option.isNone_iff_eq_none]
  rfl

@[simp] theorem mem_filter {m : Keyed κ β} {keep : κ × β → Bool} {entry : κ × β} :
    entry ∈ (m.filter keep).entries ↔ entry ∈ m.entries ∧ keep entry = true := List.mem_filter

@[simp] theorem get?_filter [DecidableEq κ] (m : Keyed κ β) (keep : κ → Bool) (key : κ) :
    (m.filter fun entry => keep entry.1).get? key = if keep key then m.get? key else none :=
  Entries.find?_filter keep key m.entries

@[simp] theorem contains_filter [DecidableEq κ] (m : Keyed κ β) (keep : κ → Bool) (key : κ) :
    (m.filter fun entry => keep entry.1).contains key = (keep key && m.contains key) := by
  cases kept : keep key with
  | true => simp [contains,kept]
  | false => simp [contains,kept]

@[simp] theorem get?_filter_value [ReflOrd κ] [DecidableEq κ] (m : Keyed κ β) (keep : β → Bool) (key : κ) :
    (m.filter fun entry => keep entry.2).get? key = (m.get? key).filter keep := by
  refine Option.ext fun value => ?_
  rw [← mem_iff_get?,mem_filter,mem_iff_get?,Option.filter_eq_some_iff]

@[simp] theorem get?_erase [DecidableEq κ] (m : Keyed κ β) (key other : κ) :
    (m.erase key).get? other = if other = key then none else m.get? other := by
  refine (m.get?_filter (fun k => decide (k ≠ key)) other).trans ?_
  by_cases same : other = key
  · simp [same]
  · simp [same]

@[simp] theorem erase_contains [DecidableEq κ] (m : Keyed κ β) (key other : κ) :
    (m.erase key).contains other = (decide (other ≠ key) && m.contains other) :=
  contains_filter m (fun k => decide (k ≠ key)) other

theorem filter_eq_self {m : Keyed κ β} {keep : κ × β → Bool} (all : ∀ entry ∈ m.entries, keep entry = true) :
    m.filter keep = m := ext (List.filter_eq_self.mpr all)

theorem filter_size {m : Keyed κ β} {keep : κ × β → Bool} (same : m.size ≤ (m.filter keep).size) :
    m.filter keep = m :=
  ext (List.filter_sublist.eq_of_length_le same)

theorem erase_absent [DecidableEq κ] {m : Keyed κ β} {key : κ} (absent : m.contains key = false) :
    m.erase key = m :=
  filter_eq_self fun entry member => decide_eq_true (contains_eq_false.mp absent entry member)

theorem mem_values {m : Keyed κ β} {value : β} : value ∈ m.values ↔ ∃ key, (key,value) ∈ m.entries := by
  simp [values]

@[simp] theorem values_filter (m : Keyed κ β) (shown : β → Bool) :
    (m.filter fun entry => shown entry.2).values = m.values.filter shown := by
  rw [values,values,filter,List.filter_map]
  rfl

theorem keys_distinct [ReflOrd κ] (m : Keyed κ β) : (m.entries.map (·.1)).Nodup := Entries.ascending_distinct m.sorted

theorem values_key [ReflOrd κ] [DecidableEq κ] {m : Keyed κ β} {key : β → κ}
    (keyed : ∀ entry ∈ m.entries, key entry.2 = entry.1) (k : κ) :
    m.values.filter (key · = k) = (m.get? k).toList := by
  have same : m.entries.filter (fun entry => key entry.2 = k) = m.entries.filter (·.1 = k) :=
    List.filter_congr fun entry member => by rw [keyed entry member]
  rw [values,List.filter_map]
  exact (congrArg (List.map Prod.snd) same).trans (Entries.filter_key m.keys_distinct k)

theorem values_ascending {m : Keyed κ β} {key : β → κ} (keyed : ∀ entry ∈ m.entries, key entry.2 = entry.1) :
    m.values.Pairwise fun a b => compare (key a) (key b) = .lt := by
  refine List.pairwise_map.mpr (m.sorted.imp_of_mem fun {a b} first second less => ?_)
  rw [keyed a first,keyed b second]
  exact less

variable [TransOrd κ] [LawfulEqOrd κ]

theorem get?_insert_cases [DecidableEq κ] {m : Keyed κ β} {key other : κ} {value found : β}
    (held : (m.insert key value).get? other = some found) :
    other = key ∧ found = value ∨ other ≠ key ∧ m.get? other = some found := by
  rw [get?_insert] at held
  split at held
  · next same => exact .inl ⟨same,(Option.some.inj held).symm⟩
  · next different => exact .inr ⟨different,held⟩

@[simp] theorem insert_contains [DecidableEq κ] (m : Keyed κ β) (key other : κ) (value : β) :
    (m.insert key value).contains other = (decide (other = key) || m.contains other) := by
  by_cases same : other = key
  · simp [contains,same]
  · simp [contains,same]

theorem contains_insert [DecidableEq κ] {m : Keyed κ β} {other : κ} (held : m.contains other = true) (key : κ) (value : β) :
    (m.insert key value).contains other = true := by
  simp [held]

theorem mem_insert {m : Keyed κ β} {key : κ} {value : β} {entry : κ × β}
    (member : entry ∈ (m.insert key value).entries) : entry = (key,value) ∨ entry ∈ m.entries :=
  Entries.mem_insert member

theorem mem_insertAll {m : Keyed κ β} {added : List (κ × β)} {entry : κ × β}
    (member : entry ∈ (m.insertAll added).entries) : entry ∈ m.entries ∨ entry ∈ added := by
  unfold insertAll at member
  induction added generalizing m with
  | nil => exact .inl member
  | cons head rest ih =>
    rcases ih member with old | new
    · rcases mem_insert old with rfl | older
      · exact .inr List.mem_cons_self
      · exact .inl older
    · exact .inr (List.mem_cons_of_mem _ new)

theorem get?_insertAll [DecidableEq κ] (m : Keyed κ β) (added : List (κ × β)) (key : κ) :
    (m.insertAll added).get? key = (Entries.find? key added.reverse).or (m.get? key) := by
  unfold insertAll
  induction added generalizing m with
  | nil => rfl
  | cons head rest ih =>
    rw [List.foldl_cons,ih,get?_insert,List.reverse_cons,Entries.find?_append,Option.or_assoc]
    by_cases found : key = head.1
    · simp [Entries.find?,found]
    · simp [Entries.find?,found]

theorem get?_ofList [DecidableEq κ] (added : List (κ × β)) (key : κ) :
    (ofList added).get? key = Entries.find? key added.reverse :=
  (get?_insertAll ∅ added key).trans Option.or_none

theorem get?_ofList_distinct [DecidableEq κ] {added : List (κ × β)} (distinct : (added.map (·.1)).Nodup) (key : κ) :
    (ofList added).get? key = Entries.find? key added := by
  rw [get?_ofList,Entries.find?_reverse distinct]

theorem mem_ofList {added : List (κ × β)} {entry : κ × β} (member : entry ∈ (ofList added).entries) :
    entry ∈ added := (mem_insertAll member).resolve_left List.not_mem_nil

theorem ext_mem {m m' : Keyed κ β} (same : ∀ entry, entry ∈ m.entries ↔ entry ∈ m'.entries) : m = m' := by
  have nodup (m : Keyed κ β) : m.entries.Nodup := m.sorted.imp fun less equal => by
    cases equal
    cases less.symm.trans ReflCmp.compare_self
  have perm := (List.perm_ext_iff_of_nodup (nodup m) (nodup m')).mpr same
  refine ext (perm.eq_of_pairwise (fun a b _ _ less greater => ?_) m.sorted m'.sorted)
  cases (OrientedCmp.gt_of_lt less).symm.trans greater

theorem ext_get? [DecidableEq κ] {m m' : Keyed κ β} (same : ∀ key, m.get? key = m'.get? key) : m = m' := by
  refine ext_mem fun entry => ?_
  obtain ⟨key,value⟩ := entry
  rw [mem_iff_get?,mem_iff_get?,same key]

theorem map_insert (m : Keyed κ β) (f : β → γ) (key : κ) (value : β) :
    (m.insert key value).map f = (m.map f).insert key (f value) := by
  classical
  refine ext_get? fun other => ?_
  rw [get?_map,get?_insert,get?_insert,get?_map]
  split <;> rfl

theorem map_ofList (added : List (κ × β)) (f : β → γ) :
    (ofList added).map f = ofList (added.map fun entry => (entry.1,f entry.2)) := by
  have from' (m : Keyed κ β) : (m.insertAll added).map f =
      (m.map f).insertAll (added.map fun entry => (entry.1,f entry.2)) := by
    unfold insertAll
    induction added generalizing m with
    | nil => rfl
    | cons entry rest ih => rw [List.foldl_cons,ih,map_insert,List.map_cons,List.foldl_cons]
  exact from' ∅

theorem filter_values_eq [DecidableEq κ] {m m' : Keyed κ β} {shown : β → Bool} :
    (m.filter fun entry => shown entry.2) = (m'.filter fun entry => shown entry.2) ↔
      ∀ key value, shown value = true → (m.get? key = some value ↔ m'.get? key = some value) := by
  constructor
  · intro same key value seen
    rw [← mem_iff_get?,← mem_iff_get?]
    have entry := congrArg (fun m => (key,value) ∈ m.entries) same
    simpa [mem_filter,seen] using entry
  · intro agree
    refine ext_mem fun entry => ?_
    obtain ⟨key,value⟩ := entry
    rw [mem_filter,mem_filter,mem_iff_get?,mem_iff_get?]
    exact and_congr_left fun seen => agree key value seen

theorem insertAll_ascending (m : Keyed κ β) (added : List (κ × β)) (sorted : Ascending (m.entries ++ added)) :
    (m.insertAll added).entries = m.entries ++ added := by
  unfold insertAll
  induction added generalizing m with
  | nil => exact (List.append_nil _).symm
  | cons head rest ih =>
    have last : ∀ entry ∈ m.entries, compare entry.1 head.1 = .lt := fun entry member =>
      (List.pairwise_append.mp sorted).2.2 entry member head List.mem_cons_self
    have first : (m.insert head.1 head.2).entries = m.entries ++ [head] :=
      Entries.insert_last head.1 head.2 m.entries last
    have split : m.entries ++ [head] ++ rest = m.entries ++ head :: rest := by simp
    rw [List.foldl_cons,ih (m.insert head.1 head.2) (by rwa [first,split]),first,split]

theorem ofList_entries (m : Keyed κ β) : ofList m.entries = m :=
  ext (insertAll_ascending ∅ m.entries m.sorted)

theorem ofList_ascending {added : List (κ × β)} (sorted : Ascending added) : (ofList added).entries = added :=
  insertAll_ascending ∅ added sorted

theorem ofList_values (m : Keyed κ β) (key : β → κ) (keyed : ∀ entry ∈ m.entries, key entry.2 = entry.1) :
    ofList (m.values.map fun value => (key value,value)) = m := by
  have same : m.values.map (fun value => (key value,value)) = m.entries := by
    calc m.values.map (fun value => (key value,value))
      _ = m.entries.map (fun entry => (key entry.2,entry.2)) := by rw [values,List.map_map]; rfl
      _ = m.entries.map id := List.map_congr_left fun entry member => Prod.ext (keyed entry member) rfl
      _ = m.entries := List.map_id _
  rw [same,ofList_entries]

end Keyed

theorem KeySet.ofList_toList {κ : Type} [Ord κ] [TransOrd κ] [LawfulEqOrd κ] (s : KeySet κ) :
    ofList s.toList = s := by
  have same : s.toList.map (fun key => (key,())) = s.entries := by
    rw [toList,Keyed.keys,List.map_map]
    exact List.map_id _
  rw [ofList,same,Keyed.ofList_entries]

theorem KeySet.mem_toList {κ : Type} [Ord κ] [TransOrd κ] [LawfulEqOrd κ] [DecidableEq κ] {s : KeySet κ}
    {key : κ} : key ∈ s.toList ↔ s.contains key = true := by
  unfold toList Keyed.keys Keyed.contains
  rw [Option.isSome_iff_exists,List.mem_map]
  constructor
  · rintro ⟨entry,member,rfl⟩
    exact ⟨entry.2,Keyed.mem_get? member⟩
  · rintro ⟨value,found⟩
    exact ⟨(key,value),Keyed.get?_mem found,rfl⟩

@[simp] theorem KeySet.contains_ofList {κ : Type} [Ord κ] [TransOrd κ] [LawfulEqOrd κ] [DecidableEq κ] {members : List κ}
    {key : κ} : (ofList members).contains key = true ↔ key ∈ members := by
  unfold Keyed.contains ofList
  rw [Keyed.get?_ofList,Option.isSome_iff_ne_none,Ne,Entries.find?_eq_none]
  simp

end ModelCatalog.Ordered
