import ModelCatalog.Proofs.Registry.Turn

namespace ModelCatalog.Registry
open Ordered Store Action

structure Race (σ : Type) where
  store : σ
  running : List ((op : Operation) × Script (Except Error op.Result))

namespace Race

def start (ops : List Operation) (st : σ) : Race σ := ⟨st,ops.map fun op => ⟨op,ExceptT.run op.action⟩⟩

def turn (backend : Backend σ) (race : Race σ) (i : Nat) : Race σ :=
  match race.running[i]? with
  | some ⟨op,script⟩ =>
    ⟨(script.turn backend race.store).2,race.running.set i ⟨op,(script.turn backend race.store).1⟩⟩
  | none => race

def run (backend : Backend σ) (race : Race σ) (schedule : List Nat) : Race σ := schedule.foldl (turn backend) race

def on (live : σ → Contents) (race : Race σ) : Race Contents := ⟨live race.store,race.running⟩

section
variable {live : σ → Contents} {backend : Backend σ} {good : σ → Prop} {race : Race σ}

theorem run_concat (backend : Backend σ) (race : Race σ) (schedule : List Nat) (i : Nat) :
    race.run backend (schedule ++ [i]) = (race.run backend schedule).turn backend i := by
  rw [run,List.foldl_append]
  rfl

theorem run_append (backend : Backend σ) (race : Race σ) (first rest : List Nat) :
    race.run backend (first ++ rest) = (race.run backend first).run backend rest := List.foldl_append

theorem turn_on (mirrors : Mirrors live backend good) (order : good race.store) (i : Nat) :
    (race.turn backend i).on live = (race.on live).turn memory i ∧ good (race.turn backend i).store := by
  unfold turn
  cases there : race.running[i]? with
  | none =>
    have same : (race.on live).running[i]? = none := there
    rw [same]
    exact ⟨rfl,order⟩
  | some entry =>
    obtain ⟨op,script⟩ := entry
    have same : (race.on live).running[i]? = some ⟨op,script⟩ := there
    obtain ⟨alike,order'⟩ := mirrors.turn script order
    rw [same]
    refine ⟨?_,order'⟩
    change Race.mk _ _ = Race.mk (script.turn memory (live race.store)).2 (race.running.set i ⟨op,_⟩)
    rw [show (race.on live).store = live race.store from rfl,alike]

theorem run_on (mirrors : Mirrors live backend good) (order : good race.store) (schedule : List Nat) :
    (race.run backend schedule).on live = (race.on live).run memory schedule := by
  induction schedule generalizing race with
  | nil => rfl
  | cons i rest ih =>
    obtain ⟨alike,order'⟩ := turn_on mirrors order i
    exact (ih order').trans (congrArg (·.run memory rest) alike)

theorem turning_point {P : Race σ → Prop} {schedule : List Nat} (not_yet : ¬ P race)
    (reached : P (race.run backend schedule)) :
    ∃ before i after, schedule = before ++ i :: after ∧ ¬ P (race.run backend before) ∧
      P (race.run backend (before ++ [i])) := by
  induction schedule generalizing race with
  | nil => exact absurd reached not_yet
  | cons i rest ih =>
    by_cases now : P (race.turn backend i)
    · exact ⟨[],i,rest,rfl,not_yet,now⟩
    · obtain ⟨before,j,after,rfl,later,comes⟩ := ih now reached
      exact ⟨i :: before,j,after,rfl,later,comes⟩

end

-- What there is to say of a race behind a schedule.
structure Racing (ops : List Operation) (schedule : List Nat) (race : Race Contents) : Prop where
  ops : race.running.map (·.1) = ops
  stages : ∀ (i : Nat) (op : Operation) (script : Script (Except Error op.Result)),
    race.running[i]? = some ⟨op,script⟩ → Stage (2 - schedule.count i) op script
  filed : Filed race.store

structure Turns (n : Nat) (race : Race Contents) (i : Nat) (op : Operation) (call : Call)
    (script : Script (Except Error op.Result)) (race' : Race Contents) : Prop where
  under_way : ∃ next, race.running[i]? = some ⟨op,.perform call next⟩
  running : race'.running = race.running.set i ⟨op,script⟩
  turned : Turned race.store n op call script race'.store

section
variable {ops : List Operation} {schedule : List Nat} {race race' : Race Contents} {s : Contents} {i : Nat}
  {id : String} {op : Operation} {script : Script (Except Error op.Result)} {result : Except Error op.Result}

theorem turn_there (there : race.running[i]? = some ⟨op,script⟩) :
    race.turn memory i =
      ⟨(script.turn memory race.store).2,race.running.set i ⟨op,(script.turn memory race.store).1⟩⟩ := by
  unfold turn
  rw [there]

theorem Racing.turned (racing : Racing ops schedule race) (i : Nat) :
    (race.turn memory i = race ∧ ∀ (op : Operation) (script : Script (Except Error op.Result)),
      race.running[i]? = some ⟨op,script⟩ → ∃ result, script = .done result) ∨
    ∃ (op : Operation) (call : Call) (script : Script (Except Error op.Result)),
      Turns (1 - schedule.count i) race i op call script (race.turn memory i) := by
  cases there : race.running[i]? with
  | none =>
    refine .inl ⟨?_,fun op script no => by cases no⟩
    unfold turn
    rw [there]
  | some entry =>
    obtain ⟨op,script⟩ := entry
    rw [turn_there there]
    have stage := racing.stages i op script there
    cases script with
    | done result =>
      refine .inl ⟨?_,fun op' script' same => ?_⟩
      · obtain ⟨room,held⟩ := List.getElem?_eq_some_iff.mp there
        rw [Script.turn,← held,List.set_getElem_self]
      · cases same
        exact ⟨result,rfl⟩
    | perform call next =>
      refine .inr ⟨op,call,_,⟨next,there⟩,rfl,?_⟩
      -- Two turns are enough for every operation, so one that has a call left has had one at most.
      cases left : 2 - schedule.count i with
      | zero =>
        rw [left] at stage
        obtain ⟨result,no⟩ := stage.finished
        cases no
      | succ n =>
        rw [left] at stage
        rcases stage.turned racing.filed with ⟨result,no⟩ | ⟨_,_,same,turned⟩
        · cases no
        · cases same
          rwa [show 1 - schedule.count i = n by omega]

theorem count_turn (schedule : List Nat) (i j : Nat) :
    (schedule ++ [i]).count j = schedule.count j + if i = j then 1 else 0 := by
  simp [List.count_append,List.count_singleton]

theorem Racing.turn (racing : Racing ops schedule race) (i : Nat) :
    Racing ops (schedule ++ [i]) (race.turn memory i) := by
  have others {j : Nat} {op : Operation} {script : Script (Except Error op.Result)} (apart : i ≠ j)
      (found : race.running[j]? = some ⟨op,script⟩) : Stage (2 - (schedule ++ [i]).count j) op script := by
    rw [count_turn,if_neg apart]
    exact racing.stages j op script found
  rcases racing.turned i with ⟨same,ended⟩ | ⟨op,call,script',⟨next,there⟩,running,turned⟩
  · rw [same]
    refine ⟨racing.ops,fun j op script found => ?_,racing.filed⟩
    by_cases mine : i = j
    · subst mine
      obtain ⟨result,rfl⟩ := ended op script found
      exact .ended (racing.stages i op _ found).sound
    · exact others mine found
  · refine ⟨?_,fun j op' script found => ?_,turned.filed racing.filed⟩
    · rw [running]
      refine (set_map (·.1) there ?_).trans racing.ops
      rfl
    · rw [running] at found
      rcases set_cases found with ⟨rfl,same⟩ | ⟨apart,old⟩
      · cases same
        rw [count_turn,if_pos rfl,show 2 - (schedule.count j + 1) = 1 - schedule.count j by omega]
        exact turned.stage
      · exact others apart.symm old

theorem start_racing (one : ∀ op ∈ ops, op.target.isSome = true) (filed : Filed s) : Racing ops [] (start ops s) where
  ops := by simp [start,Function.comp_def]
  stages i op script found := by
    change (ops.map fun op => (⟨op,ExceptT.run op.action⟩ : (op : Operation) × Script (Except Error op.Result)))[i]? = _
      at found
    rw [List.getElem?_map] at found
    obtain ⟨_,listed,same⟩ := Option.map_eq_some_iff.mp found
    cases same
    exact start_stage (one op (List.mem_of_getElem? listed))
  filed := filed

theorem Racing.run (racing : Racing ops schedule race) (rest : List Nat) :
    Racing ops (schedule ++ rest) (race.run memory rest) := by
  induction rest generalizing schedule race with
  | nil => rwa [List.append_nil]
  | cons i rest ih =>
    have on := ih (racing.turn i)
    rwa [List.append_assoc] at on

theorem Turns.own {n : Nat} {call : Call} (turns : Turns n race i op call script race') :
    race'.running[i]? = some ⟨op,script⟩ := by
  obtain ⟨next,there⟩ := turns.under_way
  rw [turns.running]
  exact set_self there _

end

abbrev History := List Nat → Race Contents

section
variable (reached : History) (before : List Nat) (i : Nat) (id : String)

def Stored (schedule : List Nat) (id : String) : Bool := (reached schedule).store.models.contains id

def Ended (schedule : List Nat) (op : Operation) (result : Except Error op.Result) : Prop :=
  (reached schedule).running[i]? = some ⟨op,.done result⟩

structure EndsAt (op : Operation) (call : Call) (result : Except Error op.Result) : Prop where
  last : ∃ next, (reached before).running[i]? = some ⟨op,.perform call next⟩
  ended : Ended reached i (before ++ [i]) op result

-- A creation and a deletion succeed by the last of their calls, and it is then that the id comes or goes.
structure Inserted : Prop where
  ends : ∃ c form now, form.id = id ∧ EndsAt reached before i (.createModel c form now)
    (.insertModel (.ofForm form c.id now)) (.ok (.ofForm form c.id now))
  absent : Stored reached before id = false
  there : Stored reached (before ++ [i]) id = true

structure Deleted : Prop where
  ends : ∃ c, EndsAt reached before i (.deleteModel c id) (.deleteModel id) (.ok ())
  there : Stored reached before id = true
  absent : Stored reached (before ++ [i]) id = false

end

section
variable {ops : List Operation} {schedule first rest : List Nat} {s : Contents} {i : Nat} {id : String}
  {op : Operation} {result : Except Error op.Result}

def played (ops : List Operation) (s : Contents) : History := (start ops s).run memory

theorem Racing.change (racing : Racing ops first (played ops s first)) {P : Race Contents → Prop}
    (not_yet : ¬ P (played ops s first)) (reached : P (played ops s (first ++ rest))) :
    ∃ before i after, rest = before ++ i :: after ∧ ¬ P (played ops s (first ++ before)) ∧
      P (played ops s (first ++ before ++ [i])) ∧
      ∃ n op call script, Turns n (played ops s (first ++ before)) i op call script
        (played ops s (first ++ before ++ [i])) := by
  have append (rest : List Nat) : played ops s (first ++ rest) = (played ops s first).run memory rest :=
    run_append memory _ first rest
  rw [append] at reached
  obtain ⟨before,i,after,same,earlier,comes⟩ := turning_point not_yet reached
  refine ⟨before,i,after,same,?_⟩
  rw [List.append_assoc,append,append]
  refine ⟨earlier,comes,?_⟩
  rw [run_concat] at comes ⊢
  rcases (racing.run before).turned i with ⟨unmoved,-⟩ | ⟨op,call,script,turns⟩
  · rw [unmoved] at comes
    exact absurd comes earlier
  · exact ⟨_,op,call,script,turns⟩

theorem start_running {script : Script (Except Error op.Result)}
    (found : (start ops s).running[i]? = some ⟨op,script⟩) :
    script = ExceptT.run op.action := by
  change (ops.map fun op => (⟨op,ExceptT.run op.action⟩ : (op : Operation) × Script (Except Error op.Result)))[i]? = _
    at found
  rw [List.getElem?_map] at found
  obtain ⟨_,-,same⟩ := Option.map_eq_some_iff.mp found
  cases same
  rfl

theorem ends_at (racing : Racing ops [] (start ops s)) (not_yet : ExceptT.run op.action ≠ .done result)
    (ended : (played ops s schedule).running[i]? = some ⟨op,.done result⟩) :
    ∃ before after call, schedule = before ++ i :: after ∧ EndsAt (played ops s) before i op call result ∧
      ∃ n, Turned (played ops s before).store n op call (.done result) (played ops s (before ++ [i])).store := by
  have fresh : ¬ (played ops s []).running[i]? = some ⟨op,.done result⟩ := fun found =>
    not_yet (start_running found).symm
  obtain ⟨before,j,after,rfl,earlier,comes,n,op',call,script,turns⟩ :=
    Racing.change (P := fun race => race.running[i]? = some ⟨op,.done result⟩) racing fresh ended
  have found := comes
  rw [turns.running] at found
  rcases set_cases found with ⟨rfl,same⟩ | ⟨-,old⟩
  · cases same
    exact ⟨before,after,call,rfl,⟨turns.under_way,comes⟩,n,turns.turned⟩
  · exact absurd old earlier

theorem inserted_between (racing : Racing ops first (played ops s first))
    (absent : Stored (played ops s) first id = false)
    (there : Stored (played ops s) (first ++ rest) id = true) :
    ∃ before i after, rest = before ++ i :: after ∧ Inserted (played ops s) (first ++ before) i id := by
  obtain ⟨before,i,after,same,earlier,comes,n,op,call,script,turns⟩ :=
    racing.change (P := fun race => race.store.models.contains id = true) (Bool.eq_false_iff.mp absent) there
  have earlier := Bool.eq_false_iff.mpr earlier
  obtain ⟨c,form,now,own,rfl,done⟩ := turns.turned.appears earlier comes
  cases done
  exact ⟨before,i,after,same,⟨c,form,now,own,turns.under_way,turns.own⟩,earlier,comes⟩

theorem deleted_between (racing : Racing ops first (played ops s first)) (there : Stored (played ops s) first id = true)
    (absent : Stored (played ops s) (first ++ rest) id = false) :
    ∃ before i after, rest = before ++ i :: after ∧ Deleted (played ops s) (first ++ before) i id := by
  obtain ⟨before,i,after,same,earlier,comes,n,op,call,script,turns⟩ :=
    racing.change (P := fun race => race.store.models.contains id = false) (Bool.not_eq_false _ ▸ there) absent
  have earlier := Bool.eq_true_of_not_eq_false earlier
  obtain ⟨c,rfl,done⟩ := turns.turned.vanishes earlier comes
  cases done
  exact ⟨before,i,after,same,⟨c,turns.under_way,turns.own⟩,earlier,comes⟩

-- Of two insertions the later one has a deletion before it.
theorem deleted_meanwhile (racing : ∀ schedule, Racing ops schedule (played ops s schedule)) {i j : Nat}
    {before after before' after' : List Nat} (apart : i ≠ j) (earlier : Inserted (played ops s) before i id)
    (later : Inserted (played ops s) before' j id)
    (behind : ∃ middle, before' = before ++ middle ∧ i :: after = middle ++ j :: after') :
    ∃ between k rest, before' = before ++ i :: (between ++ k :: rest) ∧
      Deleted (played ops s) (before ++ i :: between) k id := by
  obtain ⟨middle,rfl,same⟩ := behind
  cases middle with
  | nil =>
    cases same
    exact absurd rfl apart
  | cons x rest =>
    cases same
    have absent := later.absent
    rw [List.append_cons] at absent
    obtain ⟨between,k,rest,rfl,deleted⟩ := deleted_between (racing _) earlier.there absent
    rw [← List.append_cons] at deleted
    exact ⟨between,k,rest,rfl,deleted⟩

end

-- What a race of operations on single models comes to under every schedule. No operation ends with an error of the
-- store, and each is over after two turns. A creation that succeeds makes its id stored, so that of two of one id the
-- later has a deletion before it; one of a valid id that fails ends in a conflict with a model that is stored. What is
-- deleted stays away until it is created again: a change that was loaded before then finds nothing to save to.
structure ClientErrors (ops : List Operation) (reached : History) : Prop where
  sound : ∀ schedule i op e, Ended reached i schedule op (.error e) → ∀ cause, e ≠ .storage cause
  ended : ∀ schedule i op, ops[i]? = some op → 2 ≤ schedule.count i → ∃ result, Ended reached i schedule op result
  created : ∀ schedule i c form now r, Ended reached i schedule (.createModel c form now) (.ok r) →
    ∃ before after, schedule = before ++ i :: after ∧ Inserted reached before i form.id
  twice : ∀ schedule i j c form now r c' form' now' r', i ≠ j → form'.id = form.id →
    Ended reached i schedule (.createModel c form now) (.ok r) →
    Ended reached j schedule (.createModel c' form' now') (.ok r') →
    ∃ before x between k rest y after, schedule = before ++ x :: (between ++ k :: (rest ++ y :: after)) ∧
      (x = i ∧ y = j ∨ x = j ∧ y = i) ∧ Inserted reached before x form.id ∧
      Deleted reached (before ++ x :: between) k form.id ∧
      Inserted reached (before ++ x :: (between ++ k :: rest)) y form.id
  conflicts : ∀ schedule i c form now e, ValidId form.id →
    Ended reached i schedule (.createModel c form now) (.error e) →
    e = .conflict (.model form.id) ∧ ∃ before after call, schedule = before ++ i :: after ∧
      EndsAt reached before i (.createModel c form now) call (.error e) ∧ Stored reached before form.id = true
  deleted : ∀ schedule i c id, Ended reached i schedule (.deleteModel c id) (.ok ()) →
    ∃ before after, schedule = before ++ i :: after ∧ Deleted reached before i id
  stays_away : ∀ first rest id, Stored reached first id = false →
    (∀ before i after, rest = before ++ i :: after → ¬ Inserted reached (first ++ before) i id) →
    Stored reached (first ++ rest) id = false
  misses : ∀ before (i : Nat) op id r next, (reached before).running[i]? = some ⟨op,.perform (.updateModel r) next⟩ →
    op.target = some id → Stored reached before id = false →
    EndsAt reached before i op (.updateModel r) (.error (.notFound (.model id))) ∧
      (reached (before ++ [i])).store = (reached before).store

section
variable {ops : List Operation} {s : Contents} {schedule : List Nat} {i : Nat} {op : Operation}

theorem played_concat (ops : List Operation) (s : Contents) (schedule : List Nat) (i : Nat) :
    played ops s (schedule ++ [i]) = (played ops s schedule).turn memory i := run_concat memory _ schedule i

theorem played_created (racing : Racing ops [] (start ops s)) {c : Caller} {form : ModelForm} {now : Timestamp}
    {r : ModelRecord} (ended : Ended (played ops s) i schedule (.createModel c form now) (.ok r)) :
    ∃ before after, schedule = before ++ i :: after ∧ Inserted (played ops s) before i form.id := by
  have not_yet : ExceptT.run (Operation.createModel c form now).action ≠ .done (.ok r) := fun answered => by
    obtain ⟨e,-,no⟩ := create_unanswered c form now answered
    cases no
  obtain ⟨before,after,call,same,ends,n,turned⟩ := ends_at racing not_yet ended
  obtain ⟨rfl,rfl,absent,there⟩ := turned.creates
  exact ⟨before,after,same,⟨c,form,now,rfl,ends⟩,absent,there⟩

end

theorem played_errors {ops : List Operation} {s : Contents} (one : ∀ op ∈ ops, op.target.isSome = true)
    (filed : Filed s) : ClientErrors ops (played ops s) := by
  have begun := start_racing one filed
  have racing (schedule : List Nat) : Racing ops schedule (played ops s schedule) := begun.run schedule
  constructor
  case sound =>
    intro schedule i op e ended cause same
    exact ((racing schedule).stages i op _ ended).sound cause (congrArg Except.error same)
  case ended =>
    intro schedule i op listed twice
    rw [← (racing schedule).ops,List.getElem?_map] at listed
    obtain ⟨⟨op,script⟩,there,rfl⟩ := Option.map_eq_some_iff.mp listed
    have stage := (racing schedule).stages i op script there
    rw [Nat.sub_eq_zero_of_le twice] at stage
    obtain ⟨result,rfl⟩ := stage.finished
    exact ⟨result,there⟩
  case created =>
    intro schedule i c form now r ended
    exact played_created begun ended
  case twice =>
    intro schedule i j c form now r c' form' now' r' apart alike ended ended'
    obtain ⟨before,after,same,inserted⟩ := played_created begun ended
    obtain ⟨before',after',same',inserted'⟩ := played_created begun ended'
    rw [alike] at inserted'
    -- The insertion with fewer turns before it is the earlier one.
    rcases List.append_eq_append_iff.mp (same.symm.trans same') with behind | behind
    · obtain ⟨between,k,rest,rfl,deleted⟩ := deleted_meanwhile racing apart inserted inserted' behind
      exact ⟨before,i,between,k,rest,j,after',by simp [same'],.inl ⟨rfl,rfl⟩,inserted,deleted,inserted'⟩
    · obtain ⟨between,k,rest,rfl,deleted⟩ := deleted_meanwhile racing apart.symm inserted' inserted behind
      exact ⟨before',j,between,k,rest,i,after,by simp [same],.inr ⟨rfl,rfl⟩,inserted',deleted,inserted⟩
  case conflicts =>
    intro schedule i c form now e valid ended
    have not_yet : ExceptT.run (Operation.createModel c form now).action ≠ .done (.error e) := fun answered => by
      obtain ⟨_,refused,-⟩ := create_unanswered c form now answered
      cases refused.symm.trans (validateId_ok.mpr valid)
    obtain ⟨before,after,call,same,ends,n,turned⟩ := ends_at begun not_yet ended
    exact ⟨turned.conflicts.1,before,after,call,same,ends,turned.conflicts.2⟩
  case deleted =>
    intro schedule i c id ended
    obtain ⟨before,after,call,same,ends,n,turned⟩ := ends_at begun (fun answered => by cases answered) ended
    obtain ⟨rfl,there,absent⟩ := turned.deletes
    exact ⟨before,after,same,⟨c,ends⟩,there,absent⟩
  case stays_away =>
    intro first rest id absent none
    rw [Bool.eq_false_iff]
    intro there
    obtain ⟨before,i,after,same,inserted⟩ := inserted_between (racing first) absent there
    exact none before i after same inserted
  case misses =>
    intro before i op id r next there target absent
    have stage := (racing before).stages i op _ there
    have turn := turn_there there
    rw [stage.misses target absent] at turn
    rw [← played_concat] at turn
    refine ⟨⟨⟨next,there⟩,?_⟩,?_⟩
    · unfold Ended
      rw [turn]
      exact set_self there _
    · rw [turn]

end Race

-- However the store calls of creations, changes and deletions of models interleave on a store in good order, they end
-- in errors of the client's.
theorem races_end_in_client_errors {live : σ → Contents} {backend : Backend σ} {good : σ → Prop}
    (mirrors : Mirrors live backend good) {st : σ} (order : good st) (filed : Filed (live st)) {ops : List Operation}
    (one : ∀ op ∈ ops, op.target.isSome = true) :
    Race.ClientErrors ops fun schedule => ((Race.start ops st).run backend schedule).on live := by
  have alike : (fun schedule => ((Race.start ops st).run backend schedule).on live) = Race.played ops (live st) :=
    funext fun schedule => Race.run_on mirrors order schedule
  rw [alike]
  exact Race.played_errors one filed

def Race.outcomes (race : Race σ) : List (Option (Option Error)) :=
  race.running.map fun entry =>
    match entry.2 with
    | .done (.ok _) => some none
    | .done (.error e) => some (some e)
    | .perform _ _ => none

-- Alice changes and deletes her model while Bob and Carol both create one of its id: the change finds it gone, and of
-- the two that found the id free only the first to insert succeeds.
theorem deleted_model_created_once :
    let now : Timestamp := ⟨1700000000,by decide⟩
    let form : ModelForm := { id := "a",name := "New" }
    let ops : List Operation := [.updateModel (.user "alice") "a" form now,.deleteModel (.user "alice") "a",
      .createModel (.user "bob") form now,.createModel (.user "carol") form now]
    let reached : Race.History := fun schedule => ((Race.start ops twoOwners).run memory schedule).on id
    Race.ClientErrors ops reached ∧
      (reached [0,1,1,2,3]).outcomes = [none,some none,none,none] ∧
      (reached [0,1,1,2,3,0,2,3]).outcomes =
        [some (some (.notFound (.model "a"))),some none,some none,some (some (.conflict (.model "a")))] := by
  intro now form ops reached
  have filed : Filed twoOwners := filed_of_keyed (by decide +kernel)
  have edits : ∀ op ∈ ops, op.target.isSome = true := by simp [ops,Operation.target]
  exact ⟨races_end_in_client_errors memory_mirrors trivial filed edits,by decide +kernel,by decide +kernel⟩

end ModelCatalog.Registry
