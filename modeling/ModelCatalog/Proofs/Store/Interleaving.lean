import ModelCatalog.Proofs.Store.Phase
import ModelCatalog.Proofs.Store.Session

namespace ModelCatalog.Store
open Files

inductive Stand (call : Call) where
  | waiting
  | working (phase : Phase call)
  | answered (answer : Except StoreError call.Answer)

def Stand.isOpen : Stand call → Bool
  | .answered _ => false
  | _ => true

def Stand.left : Stand call → Nat
  | .waiting => 8
  | .working phase => phase.left
  | .answered _ => 0

-- Calls that many made on one document store, each where it stands, and which of them has the lock.
abbrev Calls := List ((call : Call) × Stand call)

structure Traffic where
  store : DocumentStore
  disk : Disk
  lock : Option Nat
  calls : Calls

namespace Traffic

def start (s : DocumentStore) (d : Disk) (calls : List Call) : Traffic :=
  ⟨s,d,none,calls.map fun call => ⟨call,.waiting⟩⟩

def put (t : Traffic) (i : Nat) (stand : Stand call) : Traffic := { t with calls := t.calls.set i ⟨call,stand⟩ }

-- What is done next, for one of the calls. A step of a mutation tells the contents whose document it has moved into
-- its place.
inductive Event where
  | read (i : Nat)
  | locked (i : Nat)
  | worked (i : Nat) (placed : Option Contents)
  | released (i : Nat)

-- Reading takes no lock, and all else is done with the lock.
inductive Step : Traffic → Event → Traffic → Prop where
  | read (waits : t.calls[i]? = some ⟨call,.waiting⟩) (reading : call.isRead = true) :
      Step t (.read i) (t.put i (.answered (memory call t.store.live).1))
  | lock (waits : t.calls[i]? = some ⟨call,.waiting⟩) (changing : call.isRead = false) (free : t.lock = none) :
      Step t (.locked i) { t.put i (.working (.locked : Phase call)) with lock := some i }
  | work {call : Call} {phase phase' : Phase call} (works : t.calls[i]? = some ⟨call,.working phase⟩)
      (step : Phase.Step (phase,t.store,t.disk) (phase',s,d)) :
      Step t (.worked i phase'.placed) { t.put i (.working phase') with store := s,disk := d }
  | release {call : Call} {answer : Except StoreError call.Answer}
      (works : t.calls[i]? = some ⟨call,.working (.settled answer)⟩) :
      Step t (.released i) { t.put i (.answered answer) with lock := none }

inductive Run (start : Traffic) : List Event → Traffic → Prop where
  | nil : Run start [] start
  | snoc (run : Run start events t) (step : Step t event t') : Run start (events ++ [event]) t'

def lockOrder (events : List Event) : List Nat :=
  events.filterMap fun
    | .locked i => some i
    | _ => none

-- Some calls are answered as if they were made one after the other, and those left out whose commits failed; that
-- leads from the first contents to the last ones.
def Serial (calls : Calls) (first : Contents) (done : List Nat) (last : Contents) : Prop :=
  ∃ answers : List Answered, done.map (calls[·]?) = answers.map (fun a => some ⟨a.1,.answered a.2⟩) ∧
    transcript memory ((unfailed answers).map (·.1)) first = (unfailed answers,last)

def Placed (start : Traffic) (events : List Event) (s : Contents) : Prop :=
  ∃ before i after mid, events = before ++ .worked i (some s) :: after ∧
    Run start (before ++ [.worked i (some s)]) mid ∧ mid.disk.readBytes start.store.path = .ok (encode s).toUTF8

-- Contents that readers may see: the first ones, and those whose document was in its place by then.
def Shown (start : Traffic) (events : List Event) (s : Contents) : Prop :=
  s = start.store.live ∨ Placed start events s

def Reads (start : Traffic) (events : List Event) (i : Nat) (call : Call) (answer : Except StoreError call.Answer) :
    Prop :=
  ∃ before after seen, events = before ++ .read i :: after ∧ Shown start before seen ∧ answer = (memory call seen).1

def Alone (t : Traffic) : Prop :=
  ∀ i call (phase : Phase call), t.calls[i]? = some ⟨call,.working phase⟩ → t.lock = some i

-- The calls that are done were done one after the other; one that has the lock goes on from what they left.
inductive Serialized (first : Contents) (order : List Nat) (t : Traffic) : Prop where
  | idle (free : t.lock = none) (serial : Serial t.calls first order t.store.live)
  | busy {call : Call} {phase : Phase call} (held : t.lock = some i) (last : order = done ++ [i])
      (serial : Serial t.calls first done base) (works : t.calls[i]? = some ⟨call,.working phase⟩)
      (changing : call.isRead = false) (follows : phase.Follows base t.store t.disk)

-- The mutations that may be shown next have their documents in place.
def Coming (start : Traffic) (events : List Event) (t : Traffic) : Prop :=
  ∀ (i : Nat) (call : Call) (a : call.Answer) (next : Contents), t.calls[i]? = some ⟨call,.working (.replaced a next)⟩ →
    Placed start events next

structure Orderly (start : Traffic) (events : List Event) (t : Traffic) : Prop where
  path : t.store.path = start.store.path
  calls : t.calls.map (·.1) = start.calls.map (·.1)
  alone : t.Alone
  once : (lockOrder events).Nodup
  changing : ∀ i ∈ lockOrder events, ∃ call, (start.calls.map (·.1))[i]? = some call ∧ call.isRead = false
  begun : ∀ i call stand, t.calls[i]? = some ⟨call,stand⟩ → call.isRead = false →
    stand = .waiting ∨ i ∈ lockOrder events
  serialized : Serialized start.store.live (lockOrder events) t
  shown : Shown start events t.store.live
  coming : Coming start events t
  reads : ∀ i call answer, t.calls[i]? = some ⟨call,.answered answer⟩ → call.isRead = true →
    Reads start events i call answer

section
variable {calls : Calls} {call call' : Call} {stand : Stand call} {stand' : Stand call'} {i j : Nat}
  {first base live : Contents} {done : List Nat} {start t t' : Traffic} {events : List Event} {event : Event}

theorem lockOrder_concat (events : List Event) (event : Event) :
    lockOrder (events ++ [event]) = lockOrder events ++ lockOrder [event] := List.filterMap_append

theorem Serial.apart (serial : Serial calls first done base) (there : calls[i]? = some ⟨call,stand⟩)
    (unanswered : stand.isOpen = true) : i ∉ done := by
  obtain ⟨answers,same,-⟩ := serial
  intro member
  have listed : calls[i]? ∈ done.map (calls[·]?) := List.mem_map_of_mem member
  rw [same,there] at listed
  obtain ⟨a,-,found⟩ := List.mem_map.mp listed
  cases found
  cases unanswered

theorem Serial.put (serial : Serial calls first done base) (apart : i ∉ done) (entry : (call : Call) × Stand call) :
    Serial (calls.set i entry) first done base := by
  obtain ⟨answers,same,run⟩ := serial
  refine ⟨answers,?_,run⟩
  rw [← same]
  refine List.map_congr_left fun j member => List.getElem?_set_ne ?_
  rintro rfl
  exact apart member

theorem Serial.concat {answer : Except StoreError call.Answer} (serial : Serial calls first done base)
    (there : calls[i]? = some ⟨call,.answered answer⟩)
    (settled : if failed answer then live = base else memory call base = (answer,live)) :
    Serial calls first (done ++ [i]) live := by
  obtain ⟨answers,same,run⟩ := serial
  refine ⟨answers ++ [⟨call,answer⟩],?_,?_⟩
  · simp [same,there]
  · split at settled
    · next io =>
      rw [settled]
      simpa [unfailed,io] using run
    · next fine =>
      simp only [unfailed] at run
      simp [unfailed,fine,transcript_append,run,transcript,settled]

theorem Placed.later (placed : Placed start events live) (event : Event) : Placed start (events ++ [event]) live := by
  obtain ⟨before,i,after,mid,rfl,run,there⟩ := placed
  exact ⟨before,i,after ++ [event],mid,by simp,run,there⟩

theorem Shown.later (shown : Shown start events live) (event : Event) : Shown start (events ++ [event]) live :=
  shown.imp_right fun placed => placed.later event

theorem Reads.later {answer : Except StoreError call.Answer} (reads : Reads start events i call answer)
    (event : Event) : Reads start (events ++ [event]) i call answer := by
  obtain ⟨before,after,seen,rfl,shown,same⟩ := reads
  exact ⟨before,after ++ [event],seen,by simp,shown,same⟩

theorem Step.path (step : Step t event t') : t'.store.path = t.store.path := by
  cases step with
  | work works step => exact step.path
  | _ => rfl

theorem Step.same_calls (step : Step t event t') : t'.calls.map (·.1) = t.calls.map (·.1) := by
  cases step with
  | read waits reading => exact set_map _ waits rfl
  | lock waits changing free => exact set_map _ waits rfl
  | work works step => exact set_map _ works rfl
  | release works => exact set_map _ works rfl

theorem Step.alone (step : Step t event t') (alone : t.Alone) : t'.Alone := by
  intro j other phase found
  cases step with
  | read waits reading =>
    rcases set_cases found with ⟨-,same⟩ | ⟨-,old⟩
    · cases same
    · exact alone j other phase old
  | lock waits changing free =>
    rcases set_cases found with ⟨rfl,-⟩ | ⟨-,old⟩
    · rfl
    · cases free.symm.trans (alone j other phase old)
  | work works step =>
    rcases set_cases found with ⟨rfl,-⟩ | ⟨-,old⟩
    · exact alone j _ _ works
    · exact alone j other phase old
  | release works =>
    rcases set_cases found with ⟨-,same⟩ | ⟨apart,old⟩
    · cases same
    · cases (alone _ _ _ works).symm.trans (alone j other phase old)
      exact absurd rfl apart

theorem Serialized.follows {phase : Phase call} {order : List Nat} (serialized : Serialized first order t)
    (alone : t.Alone) (works : t.calls[i]? = some ⟨call,.working phase⟩) :
    call.isRead = false ∧ ∃ done base, order = done ++ [i] ∧ Serial t.calls first done base ∧
      phase.Follows base t.store t.disk := by
  have held := alone i call phase works
  cases serialized with
  | idle free serial => cases free.symm.trans held
  | busy held' last serial works' changing follows =>
    cases held.symm.trans held'
    cases works.symm.trans works'
    exact ⟨changing,_,_,last,serial,follows⟩

theorem Step.serialized {order : List Nat} (step : Step t event t') (alone : t.Alone)
    (serialized : Serialized first order t) : Serialized first (order ++ lockOrder [event]) t' := by
  -- Only the release adds a call to those that are done; the lock adds it to the order.
  cases step with
  | read waits reading =>
    change Serialized first (order ++ []) _
    rw [List.append_nil]
    cases serialized with
    | idle free serial => exact .idle free (serial.put (serial.apart waits rfl) _)
    | busy held last serial works changing follows =>
      refine .busy held last (serial.put (serial.apart waits rfl) _) ((List.getElem?_set_ne ?_).trans works) changing
        follows
      rintro rfl
      cases waits.symm.trans works
  | lock waits changing free =>
    cases serialized with
    | idle _ serial =>
      exact .busy rfl rfl (serial.put (serial.apart waits rfl) _) (set_self waits _) changing rfl
    | busy held _ _ _ _ _ => cases free.symm.trans held
  | work works step =>
    change Serialized first (order ++ []) _
    rw [List.append_nil]
    obtain ⟨changing,done,base,last,serial,follows⟩ := serialized.follows alone works
    exact .busy (alone _ _ _ works) last (serial.put (serial.apart works rfl) _) (set_self works _) changing
      (step.follows follows)
  | release works =>
    change Serialized first (order ++ []) _
    rw [List.append_nil]
    obtain ⟨changing,done,base,rfl,serial,follows⟩ := serialized.follows alone works
    exact .idle rfl ((serial.put (serial.apart works rfl) _).concat (set_self works _) follows)

theorem Step.once {order : List Nat} (step : Step t event t') (serialized : Serialized first order t)
    (once : order.Nodup) : (order ++ lockOrder [event]).Nodup := by
  cases step with
  | lock waits changing free =>
    cases serialized with
    | idle _ serial =>
      refine List.nodup_append.mpr ⟨once,List.nodup_cons.mpr ⟨List.not_mem_nil,List.nodup_nil⟩,?_⟩
      rintro i member j taken rfl
      cases List.mem_singleton.mp taken
      exact serial.apart waits rfl member
    | busy held _ _ _ _ _ => cases free.symm.trans held
  | _ => exact (List.append_nil order).symm ▸ once

theorem Step.changing (step : Step t event t') (i : Nat) (taken : i ∈ lockOrder [event]) :
    ∃ call, (t.calls.map (·.1))[i]? = some call ∧ call.isRead = false := by
  cases step with
  | lock waits changing free =>
    cases List.mem_singleton.mp taken
    exact ⟨_,by rw [List.getElem?_map,waits]; rfl,changing⟩
  | _ => cases taken

theorem Step.begun {order : List Nat} (step : Step t event t')
    (begun : ∀ i call stand, t.calls[i]? = some ⟨call,stand⟩ → call.isRead = false → stand = .waiting ∨ i ∈ order)
    (found : t'.calls[j]? = some ⟨call',stand'⟩) (changing : call'.isRead = false) :
    stand' = .waiting ∨ j ∈ order ++ lockOrder [event] := by
  have kept (old : t.calls[j]? = some ⟨call',stand'⟩) : stand' = .waiting ∨ j ∈ order ++ lockOrder [event] :=
    (begun j call' stand' old changing).imp_right fun member => List.mem_append_left _ member
  have under_way {phase : Phase call'} (works : t.calls[j]? = some ⟨call',.working phase⟩) :
      j ∈ order ++ lockOrder [event] := by
    rcases begun j _ _ works changing with waiting | member
    · cases waiting
    · exact List.mem_append_left _ member
  cases step with
  | read waits reading =>
    rcases set_cases found with ⟨rfl,same⟩ | ⟨-,old⟩
    · cases same
      cases reading.symm.trans changing
    · exact kept old
  | lock waits changing free =>
    rcases set_cases found with ⟨rfl,-⟩ | ⟨-,old⟩
    · exact .inr (List.mem_append_right _ (List.mem_singleton.mpr rfl))
    · exact kept old
  | work works step =>
    rcases set_cases found with ⟨rfl,same⟩ | ⟨-,old⟩
    · cases same
      exact .inr (under_way works)
    · exact kept old
  | release works =>
    rcases set_cases found with ⟨rfl,same⟩ | ⟨-,old⟩
    · cases same
      exact .inr (under_way works)
    · exact kept old

-- What becomes live has its document in place, and it was put there by the step before.
theorem Step.shown (step : Step t event t') (shown : Shown start events t.store.live)
    (coming : Coming start events t) : Shown start (events ++ [event]) t'.store.live := by
  cases step with
  | work works step =>
    rcases step.live with same | ⟨a,rfl⟩
    · rw [same]
      exact shown.later _
    · exact .inr ((coming _ _ a _ works).later _)
  | _ => exact shown.later _

theorem Step.coming (step : Step t event t') (run : Run start (events ++ [event]) t') (orderly : Orderly start events t)
    {a : call'.Answer} (found : t'.calls[j]? = some ⟨call',.working (.replaced a live)⟩) :
    Placed start (events ++ [event]) live := by
  cases step with
  | read waits reading =>
    rcases set_cases found with ⟨-,same⟩ | ⟨-,old⟩
    · cases same
    · exact (orderly.coming j _ a live old).later _
  | lock waits changing free =>
    rcases set_cases found with ⟨-,same⟩ | ⟨-,old⟩
    · cases same
    · exact (orderly.coming j _ a live old).later _
  | work works step =>
    rcases set_cases found with ⟨rfl,same⟩ | ⟨-,old⟩
    · cases same
      obtain ⟨-,-,base,-,-,follows⟩ := orderly.serialized.follows orderly.alone works
      refine ⟨events,j,[],_,rfl,run,?_⟩
      rw [← orderly.path,← step.path]
      exact (step.follows follows).placed rfl
    · exact (orderly.coming j _ a live old).later _
  | release works =>
    rcases set_cases found with ⟨-,same⟩ | ⟨-,old⟩
    · cases same
    · exact (orderly.coming j _ a live old).later _

theorem Step.reads (step : Step t event t') (orderly : Orderly start events t)
    {answer : Except StoreError call'.Answer} (found : t'.calls[j]? = some ⟨call',.answered answer⟩)
    (reading : call'.isRead = true) : Reads start (events ++ [event]) j call' answer := by
  cases step with
  | read waits _ =>
    rcases set_cases found with ⟨rfl,same⟩ | ⟨-,old⟩
    · cases same
      exact ⟨events,[],t.store.live,rfl,orderly.shown,rfl⟩
    · exact (orderly.reads j _ answer old reading).later _
  | lock waits changing free =>
    rcases set_cases found with ⟨-,same⟩ | ⟨-,old⟩
    · cases same
    · exact (orderly.reads j _ answer old reading).later _
  | work works step =>
    rcases set_cases found with ⟨-,same⟩ | ⟨-,old⟩
    · cases same
    · exact (orderly.reads j _ answer old reading).later _
  | release works =>
    rcases set_cases found with ⟨rfl,same⟩ | ⟨-,old⟩
    · cases same
      cases reading.symm.trans (orderly.serialized.follows orderly.alone works).1
    · exact (orderly.reads j _ answer old reading).later _

theorem Orderly.step (orderly : Orderly start events t) (run : Run start (events ++ [event]) t')
    (step : Step t event t') : Orderly start (events ++ [event]) t' where
  path := step.path.trans orderly.path
  calls := step.same_calls.trans orderly.calls
  alone := step.alone orderly.alone
  once := by
    rw [lockOrder_concat]
    exact step.once orderly.serialized orderly.once
  changing i member := by
    rw [lockOrder_concat] at member
    rcases List.mem_append.mp member with prior | taken
    · exact orderly.changing i prior
    · rw [← orderly.calls]
      exact step.changing i taken
  begun i call stand found changing := by
    rw [lockOrder_concat]
    exact step.begun orderly.begun found changing
  serialized := by
    rw [lockOrder_concat]
    exact step.serialized orderly.alone orderly.serialized
  shown := step.shown orderly.shown orderly.coming
  coming i call a next found := step.coming run orderly found
  reads i call answer found reading := step.reads orderly found reading

theorem start_stand {s : DocumentStore} {d : Disk} {calls : List Call}
    (found : (Traffic.start s d calls).calls[i]? = some ⟨call,stand⟩) : stand = .waiting := by
  change (calls.map fun call => (⟨call,.waiting⟩ : (call : Call) × Stand call))[i]? = _ at found
  rw [List.getElem?_map] at found
  obtain ⟨_,-,same⟩ := Option.map_eq_some_iff.mp found
  cases same
  rfl

theorem start_orderly (s : DocumentStore) (d : Disk) (calls : List Call) :
    Orderly (Traffic.start s d calls) [] (Traffic.start s d calls) where
  path := rfl
  calls := rfl
  alone i call phase found := by cases start_stand found
  once := List.nodup_nil
  changing _ member := by cases member
  begun i call stand found _ := .inl (start_stand found)
  serialized := .idle rfl ⟨[],rfl,rfl⟩
  shown := .inl rfl
  coming i call a next found := by cases start_stand found
  reads i call answer found := by cases start_stand found

theorem Run.orderly {s : DocumentStore} {d : Disk} {calls : List Call} (run : Run (Traffic.start s d calls) events t) :
    Orderly (Traffic.start s d calls) events t := by
  induction run with
  | nil => exact start_orderly s d calls
  | snoc run step ih => exact ih.step (.snoc run step) step

theorem put_left (there : calls[i]? = some ⟨call,stand⟩) (new : Stand call) :
    ((calls.set i ⟨call,new⟩).map fun entry => entry.2.left).sum + stand.left =
      (calls.map fun entry => entry.2.left).sum + new.left := by
  induction calls generalizing i with
  | nil => cases there
  | cons head rest ih =>
    cases i with
    | zero =>
      cases there
      simp only [List.set_cons_zero,List.map_cons,List.sum_cons]
      omega
    | succ i =>
      have others := ih (i := i) there
      simp only [List.set_cons_succ,List.map_cons,List.sum_cons]
      omega

def left (t : Traffic) : Nat := (t.calls.map fun entry => entry.2.left).sum

theorem left_put_lt {new : Stand call} (there : t.calls[i]? = some ⟨call,stand⟩) (less : new.left < stand.left) :
    (t.put i new).left < t.left := by
  have moved := put_left there new
  change ((t.calls.set i ⟨call,new⟩).map fun entry => entry.2.left).sum < (t.calls.map fun entry => entry.2.left).sum
  omega

theorem Step.left_lt (step : Step t event t') : t'.left < t.left := by
  cases step with
  | read waits reading => exact left_put_lt waits (Nat.zero_lt_succ 7)
  | lock waits changing free => exact left_put_lt waits (Nat.lt_succ_self 7)
  | work works step => exact left_put_lt works step.left_lt
  | release works => exact left_put_lt works Nat.zero_lt_one

theorem Run.short (run : Run start events t) : events.length + t.left ≤ start.left := by
  induction run with
  | nil => exact Nat.le_of_eq (Nat.zero_add _)
  | snoc run step ih =>
    have fewer := step.left_lt
    rw [List.length_append,List.length_singleton]
    omega

theorem start_left (s : DocumentStore) (d : Disk) (calls : List Call) :
    (Traffic.start s d calls).left = 8 * calls.length := by
  simp [left,Traffic.start,Function.comp_def,Stand.left,List.map_const',Nat.mul_comm]

theorem Orderly.continues (orderly : Orderly start events t) :
    (∃ event next, Step t event next) ∨ ∀ entry ∈ t.calls, entry.2.isOpen = false := by
  by_cases ended : ∀ entry ∈ t.calls, entry.2.isOpen = false
  · exact .inr ended
  · refine .inl ?_
    cases orderly.serialized with
    | @busy i _ _ call phase held last serial works _ follows =>
      rcases phase.continues t.store t.disk with ⟨⟨phase',s,d⟩,step⟩ | ⟨answer,rfl⟩
      · exact ⟨_,_,.work works step⟩
      · exact ⟨_,_,.release works⟩
    | idle free serial =>
      push Not at ended
      obtain ⟨⟨call,stand⟩,member,unanswered⟩ := ended
      obtain ⟨i,there⟩ := List.getElem?_of_mem member
      cases stand with
      | waiting =>
        cases reading : call.isRead with
        | true => exact ⟨_,_,.read there reading⟩
        | false => exact ⟨_,_,.lock there reading free⟩
      | working phase => cases free.symm.trans (orderly.alone i call phase there)
      | answered answer => exact absurd rfl unanswered

theorem Orderly.free (orderly : Orderly start events t) (ended : ∀ entry ∈ t.calls, entry.2.isOpen = false) :
    t.lock = none := by
  cases orderly.serialized with
  | idle free serial => exact free
  | busy held last serial works _ follows => cases ended _ (List.mem_of_getElem? works)

theorem worked_through (waits : t.calls[i]? = some ⟨call,.waiting⟩) (changing : call.isRead = false)
    (free : t.lock = none) {reached : Phase call × DocumentStore × Disk}
    (steps : Relation.ReflTransGen Phase.Step (.locked,t.store,t.disk) reached) :
    ∃ events, Run t events ⟨reached.2.1,reached.2.2,some i,t.calls.set i ⟨call,.working reached.1⟩⟩ := by
  induction steps with
  | refl => exact ⟨_,.snoc .nil (.lock waits changing free)⟩
  | @tail middle last _ step ih =>
    obtain ⟨phase,s,d⟩ := middle
    obtain ⟨phase',s',d'⟩ := last
    obtain ⟨events,run⟩ := ih
    have on := Step.work (t := ⟨s,d,some i,t.calls.set i ⟨call,.working phase⟩⟩) (set_self waits _) step
    rw [put,List.set_set] at on
    exact ⟨_,.snoc run on⟩

-- Traffic has every run of a document store that answers one call at a time, whatever fails.
theorem answered_alone (failure : Option CommitFailure) (waits : t.calls[i]? = some ⟨call,.waiting⟩)
    (free : t.lock = none) :
    let outcome := DocumentStore.answer failure call (t.store,t.disk)
    ∃ events, Run t events ⟨outcome.2.1,outcome.2.2,none,t.calls.set i ⟨call,.answered outcome.1⟩⟩ := by
  intro outcome
  cases reading : call.isRead with
  | true =>
    obtain ⟨a,found,silent⟩ := t.store.live.answer_reads reading
    have alike : outcome = ((memory call t.store.live).1,t.store,t.disk) := by
      simp [outcome,DocumentStore.answer,memory,found,silent]
    have read := Step.read waits reading
    rw [put,free] at read
    rw [alike]
    exact ⟨_,.snoc .nil read⟩
  | false =>
    obtain ⟨events,run⟩ := worked_through waits reading free (Phase.answer_steps failure call t.store t.disk)
    have last := Step.release (t := ⟨outcome.2.1,outcome.2.2,some i,t.calls.set i ⟨call,.working (.settled outcome.1)⟩⟩)
      (set_self waits _)
    rw [put,List.set_set] at last
    exact ⟨_,.snoc run last⟩

end

-- What an interleaving of calls comes to. The mutations are answered, and the contents left, as if they had been made
-- one after the other in the order in which they took the lock, those left out whose commits failed; each takes it
-- once. What is read is of the first contents or of some whose document was in its place by then. No call can be kept
-- from its answer: as long as one is open a step can be taken, and there are no more than eight steps for a call.
structure Serializes (s : DocumentStore) (d : Disk) (calls : List Call) (events : List Event) (last : Traffic) :
    Prop where
  same : last.calls.map (·.1) = calls
  once : (lockOrder events).Nodup
  changing : ∀ i ∈ lockOrder events, ∃ call, calls[i]? = some call ∧ call.isRead = false
  serial : last.lock = none → Serial last.calls s.live (lockOrder events) last.store.live
  answered : ∀ i call answer, last.calls[i]? = some ⟨call,.answered answer⟩ →
    if call.isRead then Reads (start s d calls) events i call answer else i ∈ lockOrder events
  free : (∀ entry ∈ last.calls, entry.2.isOpen = false) → last.lock = none
  continues : (∃ event next, Step last event next) ∨ ∀ entry ∈ last.calls, entry.2.isOpen = false
  short : events.length ≤ 8 * calls.length

theorem interleavings_serialize {s : DocumentStore} {d : Disk} {calls : List Call} {events : List Event}
    {last : Traffic} (run : Run (start s d calls) events last) : Serializes s d calls events last := by
  have orderly := run.orderly
  have named : (start s d calls).calls.map (·.1) = calls := by simp [start,Function.comp_def]
  have mutations := orderly.changing
  rw [named] at mutations
  refine ⟨orderly.calls.trans named,orderly.once,mutations,fun unlocked => ?_,fun i call answer found => ?_,
    orderly.free,orderly.continues,?_⟩
  · cases orderly.serialized with
    | idle _ serial => exact serial
    | busy held _ _ _ _ _ => cases unlocked.symm.trans held
  · split
    · next reading => exact orderly.reads i call answer found reading
    · next changing =>
      rcases orderly.begun i call _ found (Bool.eq_false_iff.mpr changing) with waiting | taken
      · cases waiting
      · exact taken
  · have short := run.short
    rw [start_left] at short
    omega

def three (live : Contents) (d : Disk) (lock : Option Nat) (first : Stand (.deleteModel "a"))
    (reader : Stand .listModels) (second : Stand .deleteAllModels) : Traffic :=
  ⟨⟨["s.json"],live⟩,d,lock,[⟨_,first⟩,⟨_,reader⟩,⟨_,second⟩]⟩

-- The first deletion cannot write its document. While the second one has it in place and not shown yet, the models are
-- listed as they were.
theorem reader_between_writers :
    let s : DocumentStore := ⟨["s.json"],listedContents⟩
    let emptied : Contents := { listedContents with models := ∅ }
    let events : List Event := [.locked 0,.worked 0 none,.worked 0 none,.worked 0 none,.released 0,
      .locked 2,.worked 2 none,.worked 2 none,.worked 2 none,.worked 2 none,.worked 2 (some emptied),.read 1,
      .worked 2 none,.released 2]
    ∃ d, Serializes s ⟨∅⟩ [.deleteModel "a",.listModels,.deleteAllModels] events
      (three emptied d none (.answered (.error .io)) (.answered (.ok [listedModel])) (.answered (.ok 1))) := by
  intro s emptied events
  obtain ⟨whole,d,written,moved,-⟩ := replace_succeeds (List.cons_ne_nil "s.json" [])
    (rfl : (Disk.mk ∅).item? [] = some .directory) (by decide) (by decide) (encode emptied)
  let blank : Disk := ⟨∅⟩
  let erased : Contents := { listedContents with models := listedContents.models.erase "a" }
  have run : Run (three listedContents blank none .waiting .waiting .waiting) _
      (three listedContents blank (some 0) (.working .locked) .waiting .waiting) :=
    .snoc .nil (.lock (i := 0) rfl rfl rfl)
  have run : Run _ _ (three listedContents blank (some 0) (.working (.staged listedContents)) .waiting .waiting) :=
    .snoc run (.work (i := 0) rfl .stage)
  have run : Run _ _ (three listedContents blank (some 0) (.working (.applied true erased)) .waiting .waiting) :=
    .snoc run (.work (i := 0) rfl (.apply rfl rfl))
  have run : Run _ _ (three listedContents blank (some 0) (.working (.settled (.error .io))) .waiting .waiting) :=
    .snoc run (.work (i := 0) rfl (.unprepared 0 rfl))
  have run : Run _ _ (three listedContents blank none (.answered (.error .io)) .waiting .waiting) :=
    .snoc run (.release (i := 0) rfl)
  have run : Run _ _ (three listedContents blank (some 2) (.answered (.error .io)) .waiting (.working .locked)) :=
    .snoc run (.lock (i := 2) rfl rfl rfl)
  have run : Run _ _ (three listedContents blank (some 2) (.answered (.error .io)) .waiting
      (.working (.staged listedContents))) := .snoc run (.work (i := 2) rfl .stage)
  have run : Run _ _ (three listedContents blank (some 2) (.answered (.error .io)) .waiting
      (.working (.applied 1 emptied))) := .snoc run (.work (i := 2) rfl (.apply rfl rfl))
  have run : Run _ _ (three listedContents blank (some 2) (.answered (.error .io)) .waiting
      (.working (.prepared 1 emptied))) := .snoc run (.work (i := 2) rfl (.prepare rfl))
  have run : Run _ _ (three listedContents whole (some 2) (.answered (.error .io)) .waiting
      (.working (.beside 1 emptied))) := .snoc run (.work (i := 2) rfl (.write written))
  have run : Run _ _ (three listedContents d (some 2) (.answered (.error .io)) .waiting
      (.working (.replaced 1 emptied))) := .snoc run (.work (i := 2) rfl (.rename moved))
  have run : Run _ _ (three listedContents d (some 2) (.answered (.error .io)) (.answered (.ok [listedModel]))
      (.working (.replaced 1 emptied))) := .snoc run (.read (i := 1) rfl rfl)
  have run : Run _ _ (three emptied d (some 2) (.answered (.error .io)) (.answered (.ok [listedModel]))
      (.working (.settled (.ok 1)))) := .snoc run (.work (i := 2) rfl .publish)
  have run : Run _ _
      (three emptied d none (.answered (.error .io)) (.answered (.ok [listedModel])) (.answered (.ok 1))) :=
    .snoc run (.release (i := 2) rfl)
  exact ⟨d,interleavings_serialize run⟩

end Traffic
end ModelCatalog.Store
