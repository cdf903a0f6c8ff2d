import ModelCatalog.Proofs.Catalog.Listing
import ModelCatalog.Proofs.Web.Host
import ModelCatalog.Proofs.Web.Written

namespace ModelCatalog.Listing
open Text Json Web Address

-- An item that no entry shows.
def Dropped (c : Connection) (index : Nat) (payload raw : Value) : Prop :=
  ∀ e ∈ normalize .openAI c index payload, e.raw ≠ raw

def Named (chars : List Char) : Prop := publicHost.toList <:+: chars

instance (chars : List Char) : Decidable (Named chars) := decidable_of_iff _ occursIn_iff

-- A text that writes its host plainly: in one piece, in ASCII, without escapes and capital letters, and without the
-- public service's name anywhere else.
structure Plain (text : String) (front piece behind : List Char) : Prop where
  unbroken : Unbroken text
  ascii : Ascii piece
  unescaped : '%' ∉ piece
  lower : piece.map Char.toLower = piece
  ahead : ¬ Named front
  rest : ¬ Named behind
  whole : Named piece → piece = publicHost.toList

variable {c : Connection} {a : Address} {index : Nat} {payload raw : Value} {id : String} {host : Host} {kind : SchemeKind}
  {front piece behind chars : List Char}

theorem dropped_iff (offers : raw ∈ offered .openAI c payload) (named : reported .openAI raw = some id) :
    Dropped c index payload raw ↔ isNonChat id = true ∧ Named c.baseUrl.toList := by
  rw [Named,← contains_iff]
  constructor
  · intro dropped
    rcases listed_unless offers named with ⟨e,shown,own,-⟩ | out
    · exact (dropped e shown own).elim
    · exact ⟨out.2,out.1⟩
  · rintro ⟨silent,service⟩ e shown own
    obtain ⟨item,-,other,told,kept,rfl⟩ := mem_normalize.mp shown
    obtain rfl : item = raw := own
    rw [named] at told
    cases told
    exact kept ⟨service,silent⟩

theorem named_parts (cut : Cut kind chars host front piece behind) :
    Named chars ↔ Named front ∨ Named piece ∨ Named behind :=
  cut.infix_iff (by simp [separators,publicHost])

theorem publicHost_read : Host.parse publicHost.toList = .ok (.name publicHost) :=
  Host.parse_own (by decide) (by decide) (by decide) (by decide) (by decide) (by decide)

theorem publicHost_opaque : Host.parseOpaque publicHost.toList = .ok (.name publicHost) := by decide +kernel

theorem Plain.host_iff {text : String} (plain : Plain text front piece behind)
    (cut : Cut kind chars host front piece behind) : host = .name publicHost ↔ piece = publicHost.toList := by
  have read := cut.read
  unfold SchemeKind.read at read
  split at read
  · rw [← Host.parseOpaque_plain publicHost_opaque (by decide),read,Except.ok.injEq]
  · have same := Host.parse_plain publicHost_read (by decide) (by decide) plain.ascii plain.unescaped
    rwa [read,plain.lower,Except.ok.injEq] at same

theorem Plain.named_iff {text : String} (plain : Plain text front piece behind)
    (cut : Cut kind (significant text) host front piece behind) : Named text.toList ↔ host = .name publicHost := by
  rw [plain.host_iff cut]
  constructor
  · intro named
    have read := word_significant (by decide) (by decide) named
    rcases (named_parts cut).mp read with ahead | own | rest
    · exact (plain.ahead ahead).elim
    · exact plain.whole own
    · exact (plain.rest rest).elim
  · rintro rfl
    exact significant_word plain.unbroken ((named_parts cut).mpr (.inr (.inl List.infix_rfl)))

-- The exclusion asks for the text of the base URL, not for its host. An item is left out just in case its id is marked
-- and the public service's name occurs in the text, be it before the host, in it or behind it. A host in ASCII is the
-- public one in any letter case, though, and the text is asked for one of them. Where it writes its host plainly, the
-- two agree.
theorem exclusion_reads_text (parsed : parse c.baseUrl = .ok a) (index : Nat) (payload : Value) :
    (∀ raw ∈ offered .openAI c payload, ∀ id, reported .openAI raw = some id →
      (Dropped c index payload raw ↔ isNonChat id = true ∧ Named c.baseUrl.toList)) ∧
    ∀ host, a.host = some host →
      (∃ front piece behind, Cut (.ofScheme a.scheme) (significant c.baseUrl) host front piece behind) ∧
      ∀ front piece behind, Cut (.ofScheme a.scheme) (significant c.baseUrl) host front piece behind →
        (Named c.baseUrl.toList → Named front ∨ Named piece ∨ Named behind) ∧
        (Unbroken c.baseUrl → Named front ∨ Named piece ∨ Named behind → Named c.baseUrl.toList) ∧
        (SchemeKind.ofScheme a.scheme ≠ .other → Ascii piece → '%' ∉ piece →
          (host = .name publicHost ↔ piece.map Char.toLower = publicHost.toList)) ∧
        (Plain c.baseUrl front piece behind → ∀ raw ∈ offered .openAI c payload, ∀ id, reported .openAI raw = some id →
          (Dropped c index payload raw ↔ isNonChat id = true ∧ a.host = some (.name publicHost))) := by
  refine ⟨fun raw offers id named => dropped_iff offers named,?_⟩
  intro host hosted
  refine ⟨parse_cut parsed hosted,?_⟩
  intro front piece behind cut
  refine ⟨?_,?_,?_,?_⟩
  · intro named
    exact (named_parts cut).mp (word_significant (by decide) (by decide) named)
  · intro unbroken somewhere
    exact significant_word unbroken ((named_parts cut).mpr somewhere)
  · intro web ascii unescaped
    have read := cut.read
    rw [SchemeKind.read,if_neg web] at read
    rw [← Host.parse_plain publicHost_read (by decide) (by decide) ascii unescaped,read,Except.ok.injEq]
  · intro plain raw offers id named
    rw [dropped_iff offers named,plain.named_iff cut,hosted,Option.some.injEq]

def serving (baseUrl : String) : Connection := { oneAllowed with baseUrl := baseUrl,modelIds := [] }

def speech : Value := .ofTree (.object [("id",.text "whisper-1")])

def speaking : Value := .ofTree (.object [("data",.array [.object [("id",.text "whisper-1")]])])

-- The public host in capital letters leaves nothing out, and a path that names it does; written plainly it is known.
theorem capital_host_lists_all :
    (∃ a, parse "https://API.OPENAI.COM/v1" = .ok a ∧ a.host = some (.name publicHost) ∧
      ¬ Dropped (serving "https://API.OPENAI.COM/v1") 0 speaking speech) ∧
    (∃ a, parse "https://h/api.openai.com/v1" = .ok a ∧ a.host = some (.name "h") ∧
      Dropped (serving "https://h/api.openai.com/v1") 0 speaking speech) ∧
    (∃ a, parse "https://api.openai.com/v1" = .ok a ∧ a.host = some (.name publicHost) ∧
      Dropped (serving "https://api.openai.com/v1") 0 speaking speech) := by
  have offers (baseUrl : String) : speech ∈ offered .openAI (serving baseUrl) speaking := by
    have listed : speech ∈ items .openAI speaking := by decide +kernel
    exact offered_items (c := serving baseUrl) (fun _ _ => rfl) ▸ listed
  have named : reported .openAI speech = some "whisper-1" := by decide +kernel
  have text {baseUrl : String} {a : Address} (parsed : parse baseUrl = .ok a) :
      Dropped (serving baseUrl) 0 speaking speech ↔ isNonChat "whisper-1" = true ∧ Named baseUrl.toList :=
    (exclusion_reads_text (c := serving baseUrl) parsed 0 speaking).1 speech (offers _) _ named
  refine ⟨?_,?_,?_⟩
  · have lowered : Host.parse "API.OPENAI.COM".toList = .ok (.name publicHost) :=
      (Host.parse_plain publicHost_read (by decide) (by decide) (by decide) (by decide)).mpr (by decide)
    have found : scheme? (significant "https://API.OPENAI.COM/v1") =
        some ("https",['/','/'] ++ ("API.OPENAI.COM".toList ++ "/v1".toList)) := by decide +kernel
    obtain ⟨a,parsed,-,own⟩ := parse_written found (by decide) (by decide) (by decide) (by decide) lowered
    exact ⟨a,parsed,own,fun dropped => absurd ((text parsed).mp dropped) (by decide +kernel)⟩
  · have single : Host.parse "h".toList = .ok (.name "h") :=
      Host.parse_own (by decide) (by decide) (by decide) (by decide) (by decide) (by decide)
    have found : scheme? (significant "https://h/api.openai.com/v1") =
        some ("https",['/','/'] ++ ("h".toList ++ "/api.openai.com/v1".toList)) := by decide +kernel
    obtain ⟨a,parsed,-,own⟩ := parse_written found (by decide) (by decide) (by decide) (by decide) single
    exact ⟨a,parsed,own,(text parsed).mpr (by decide +kernel)⟩
  · have found : scheme? (significant "https://api.openai.com/v1") =
        some ("https",['/','/'] ++ (publicHost.toList ++ "/v1".toList)) := by decide +kernel
    obtain ⟨a,parsed,web,own⟩ :=
      parse_written found (by decide) (by decide) (by decide) (by decide) publicHost_read
    have cut : Cut (.ofScheme a.scheme) (significant "https://api.openai.com/v1") (.name publicHost) "https://".toList
        publicHost.toList "/v1".toList := ⟨by decide +kernel,web ▸ publicHost_read,by simp [separators],by simp [separators]⟩
    have plain : Plain "https://api.openai.com/v1" "https://".toList publicHost.toList "/v1".toList :=
      ⟨by decide,by decide,by decide,by decide,by decide,by decide,fun _ => rfl⟩
    have host := (exclusion_reads_text (c := serving "https://api.openai.com/v1") parsed 0 speaking).2 _ own
    exact ⟨a,parsed,own,((host.2 _ _ _ cut).2.2.2 plain speech (offers _) _ named).mpr ⟨by decide +kernel,own⟩⟩

end ModelCatalog.Listing
