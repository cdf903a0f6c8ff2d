import ModelCatalog.Proofs.Json.Faithful
import ModelCatalog.Provider.Connection

namespace ModelCatalog
open Ordered Json Web

inductive Attribute where
  | name
  | kind
  | baseUrl
  | apiKey
  | enabled
  | label
  | qualifier
  | tags
  | modelIds
  | headers
  | authType
  | apiVersion
  | azure
  | extra

abbrev Attribute.Value : Attribute → Type
  | .name | .baseUrl | .apiKey => String
  | .kind => ProviderKind
  | .enabled | .azure => Bool
  | .label | .qualifier | .apiVersion => Option String
  | .tags | .modelIds => List String
  | .headers => Keyed String String
  | .authType => AuthType
  | .extra => Extensions

def Connection.value (c : Connection) : (a : Attribute) → a.Value
  | .name => c.name
  | .kind => c.kind
  | .baseUrl => c.baseUrl
  | .apiKey => c.apiKey
  | .enabled => c.enabled
  | .label => c.label
  | .qualifier => c.qualifier
  | .tags => c.tags
  | .modelIds => c.modelIds
  | .headers => c.headers
  | .authType => c.authType
  | .apiVersion => c.apiVersion
  | .azure => c.azure
  | .extra => c.extra

-- What a patch sets an attribute to. A label, a qualifier or a version can be given, and cannot be taken away.
def ConnectionPatch.value? (p : ConnectionPatch) : (a : Attribute) → Option a.Value
  | .name => p.name
  | .kind => p.kind
  | .baseUrl => p.baseUrl
  | .apiKey => p.apiKey
  | .enabled => p.enabled
  | .label => p.label.map some
  | .qualifier => p.qualifier.map some
  | .tags => p.tags
  | .modelIds => p.modelIds
  | .headers => p.headers
  | .authType => p.authType
  | .apiVersion => p.apiVersion.map some
  | .azure => p.azure
  | .extra => p.extra

def Unusable (url : String) : Prop := Text.trim url = "" ∨ ∃ reason, Address.parse url = .error reason

def ConnectionPatch.Refused (p : ConnectionPatch) : Prop := ∃ url, p.baseUrl = some url ∧ Unusable url

theorem validateBaseUrl_unusable (unusable : Unusable url) :
    ∃ cause, validateBaseUrl url = .error (.invalid cause) := by
  unfold validateBaseUrl
  split
  · exact ⟨_,rfl⟩
  · next given =>
    obtain ⟨reason,unread⟩ := unusable.resolve_left given
    rw [unread]
    exact ⟨_,rfl⟩

theorem validateBaseUrl_usable (usable : ¬ Unusable url) : validateBaseUrl url = .ok () := by
  obtain ⟨given,read⟩ := not_or.mp usable
  unfold validateBaseUrl
  rw [if_neg given]
  cases parsed : Address.parse url with
  | ok address => rfl
  | error reason => exact (read ⟨reason,parsed⟩).elim

theorem Connection.ext_value {c c' : Connection} (id : c.id = c'.id) (created : c.createdAt = c'.createdAt)
    (updated : c.updatedAt = c'.updatedAt) (value : ∀ a, c.value a = c'.value a) : c = c' := by
  cases c
  cases c'
  rw [Connection.mk.injEq]
  exact ⟨id,value .name,value .kind,value .baseUrl,value .apiKey,value .enabled,value .label,value .qualifier,
    value .tags,value .modelIds,value .headers,value .authType,value .apiVersion,value .azure,value .extra,created,
    updated⟩

theorem ConnectionPatch.ext_value {p q : ConnectionPatch} (same : ∀ a, p.value? a = q.value? a) : p = q := by
  have texts {first second : Option String} : first.map some = second.map some → first = second :=
    (Option.map_inj_right fun _ _ => Option.some.inj).mp
  cases p
  cases q
  rw [ConnectionPatch.mk.injEq]
  exact ⟨same .name,same .kind,same .baseUrl,same .apiKey,same .enabled,texts (same .label),texts (same .qualifier),
    same .tags,same .modelIds,same .headers,same .authType,texts (same .apiVersion),same .azure,same .extra⟩

-- A connection behind a patch: what the patch sets is as the patch says, and all else but the time of the last change
-- is as before.
structure Connection.Patched (c : Connection) (p : ConnectionPatch) (now : Timestamp) (c' : Connection) : Prop where
  id : c'.id = c.id
  created : c'.createdAt = c.createdAt
  updated : c'.updatedAt = now
  value : ∀ a, c'.value a = (p.value? a).getD (c.value a)

namespace Connection
variable {c c' c'' : Connection} {p q : ConnectionPatch} {now later : Timestamp}

theorem applyPatch_refused (refused : p.Refused) (c : Connection) (now : Timestamp) :
    ∃ cause, c.applyPatch p now = .error (.invalid cause) := by
  obtain ⟨url,given,unusable⟩ := refused
  obtain ⟨cause,invalid⟩ := validateBaseUrl_unusable unusable
  refine ⟨cause,?_⟩
  unfold applyPatch
  rw [given]
  simp only [invalid]
  rfl

theorem applyPatch_accepted (accepted : ¬ p.Refused) (c : Connection) (now : Timestamp) :
    ∃ c', c.applyPatch p now = .ok c' := by
  unfold applyPatch
  cases given : p.baseUrl with
  | none => exact ⟨_,rfl⟩
  | some url =>
    have valid : validateBaseUrl url = .ok () := validateBaseUrl_usable fun unusable => accepted ⟨url,given,unusable⟩
    simp only [valid]
    exact ⟨_,rfl⟩

theorem applyPatch_patched (made : c.applyPatch p now = .ok c') : c.Patched p now c' := by
  have text (given own : Option String) : given.or own = (given.map some).getD own := by cases given <;> rfl
  unfold applyPatch at made
  split at made
  · obtain ⟨_,-,assigned⟩ := bind_ok.mp made
    cases assigned
    exact ⟨rfl,rfl,rfl,fun a => by cases a <;> first | rfl | exact text _ _⟩
  · cases made
    exact ⟨rfl,rfl,rfl,fun a => by cases a <;> first | rfl | exact text _ _⟩

theorem Patched.unique (first : c.Patched p now c') (second : c.Patched p now c'') : c' = c'' :=
  ext_value (first.id.trans second.id.symm) (first.created.trans second.created.symm)
    (first.updated.trans second.updated.symm) fun a => (first.value a).trans (second.value a).symm

theorem applyPatch_ok : c.applyPatch p now = .ok c' ↔ ¬ p.Refused ∧ c.Patched p now c' := by
  constructor
  · intro made
    refine ⟨fun refused => ?_,applyPatch_patched made⟩
    obtain ⟨cause,failed⟩ := applyPatch_refused refused c now
    cases made.symm.trans failed
  · rintro ⟨accepted,patched⟩
    obtain ⟨c'',made⟩ := applyPatch_accepted accepted c now
    rw [made,patched.unique (applyPatch_patched made)]

end Connection

namespace ConnectionPatch
variable {p q : ConnectionPatch}

-- One patch on top of another: what it sets, and where it sets nothing, what the other one sets.
def atop (q p : ConnectionPatch) : ConnectionPatch where
  name := q.name.or p.name
  kind := q.kind.or p.kind
  baseUrl := q.baseUrl.or p.baseUrl
  apiKey := q.apiKey.or p.apiKey
  enabled := q.enabled.or p.enabled
  label := q.label.or p.label
  qualifier := q.qualifier.or p.qualifier
  tags := q.tags.or p.tags
  modelIds := q.modelIds.or p.modelIds
  headers := q.headers.or p.headers
  authType := q.authType.or p.authType
  apiVersion := q.apiVersion.or p.apiVersion
  azure := q.azure.or p.azure
  extra := q.extra.or p.extra

theorem atop_value? (q p : ConnectionPatch) (a : Attribute) : (q.atop p).value? a = (q.value? a).or (p.value? a) := by
  cases a with
  | label | qualifier | apiVersion => exact Option.map_or
  | _ => rfl

theorem atop_accepted (upper : ¬ q.Refused) (lower : ¬ p.Refused) : ¬ (q.atop p).Refused := by
  rintro ⟨url,given,unusable⟩
  rcases Option.or_eq_some_iff.mp given with own | ⟨-,other⟩
  · exact upper ⟨url,own,unusable⟩
  · exact lower ⟨url,other,unusable⟩

def Apart (p q : ConnectionPatch) : Prop := ∀ a, p.value? a = none ∨ q.value? a = none

theorem Apart.atop_comm (apart : p.Apart q) : p.atop q = q.atop p := by
  refine ext_value fun a => ?_
  rw [atop_value?,atop_value?]
  rcases apart a with none | none <;> rw [none,Option.none_or,Option.or_none]

end ConnectionPatch

namespace Connection
variable {c c' c'' : Connection} {p q : ConnectionPatch} {now later : Timestamp}

theorem Patched.trans (first : c.Patched p now c') (second : c'.Patched q later c'') :
    c.Patched (q.atop p) later c'' where
  id := second.id.trans first.id
  created := second.created.trans first.created
  updated := second.updated
  value a := by
    rw [second.value,first.value,ConnectionPatch.atop_value?]
    cases q.value? a <;> rfl

theorem Patched.at_time (first : c.Patched p now c') (second : c.Patched p later c'') :
    c'' = { c' with updatedAt := later } := by
  refine second.unique ⟨first.id,first.created,rfl,fun a => ?_⟩
  rw [← first.value a]
  cases a <;> rfl

end Connection
end ModelCatalog
