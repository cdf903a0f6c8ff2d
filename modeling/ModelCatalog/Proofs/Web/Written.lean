import ModelCatalog.Web.Address
import ModelCatalog.Proofs.Json.Faithful
import ModelCatalog.Proofs.Text.Occurrence

namespace ModelCatalog.Web.Address
open Text Json

def separators : List Char := ['/','\\',':','@','?','#']

def SchemeKind.read (kind : SchemeKind) (piece : List Char) : Except AddressError Host :=
  if kind = .other then Host.parseOpaque piece else Host.parse piece

theorem SchemeKind.other_of {kind : SchemeKind} (web : kind ≠ .file) (unknown : kind ≠ .special) : kind = .other := by
  cases kind with
  | special => exact (unknown rfl).elim
  | file => exact (web rfl).elim
  | other => rfl

theorem SchemeKind.file_of {scheme : String} (kind : SchemeKind.ofScheme scheme = .file) : scheme = "file" := by
  unfold SchemeKind.ofScheme at kind
  split_ifs at kind with web file
  exact file

-- Where characters write a host: what it is read from, and what stands before and behind, cut off by separators.
structure Cut (kind : SchemeKind) (chars : List Char) (host : Host) (front piece behind : List Char) : Prop where
  parts : chars = front ++ piece ++ behind
  read : kind.read piece = .ok host
  before : ∀ c ∈ front.getLast?, c ∈ separators
  after : ∀ c ∈ behind.head?, c ∈ separators

variable {chars rest front piece behind : List Char} {host : Host} {kind : SchemeKind} {scheme : String} {a : Address}

theorem Cut.further (cut : Cut kind chars host front piece behind) {ahead : List Char}
    (ends : ∀ c ∈ ahead.getLast?, c ∈ separators) : Cut kind (ahead ++ chars) host (ahead ++ front) piece behind where
  parts := by rw [cut.parts,List.append_assoc,List.append_assoc,List.append_assoc]
  read := cut.read
  before := by
    intro c last
    rw [List.getLast?_append,Option.mem_def,Option.or_eq_some_iff] at last
    rcases last with own | ⟨-,other⟩
    · exact cut.before c own
    · exact ends c other
  after := cut.after

theorem Cut.longer (cut : Cut kind chars host front piece behind) (begins : ∀ c ∈ rest.head?, c ∈ separators) :
    Cut kind (chars ++ rest) host front piece (behind ++ rest) where
  parts := by rw [cut.parts,List.append_assoc (front ++ piece)]
  read := cut.read
  before := cut.before
  after := by
    intro c first
    rw [List.head?_append,Option.mem_def,Option.or_eq_some_iff] at first
    rcases first with own | ⟨-,other⟩
    · exact cut.after c own
    · exact begins c other

-- A word without separators does not reach across the ends of a host.
theorem Cut.infix_iff (cut : Cut kind chars host front piece behind) {word : List Char} (apart : ∀ c ∈ separators, c ∉ word) :
    word <:+: chars ↔ word <:+: front ∨ word <:+: piece ∨ word <:+: behind := by
  rw [cut.parts,infix_behind fun c first => apart c (cut.after c first),
    infix_before fun c last => apart c (cut.before c last),or_assoc]

theorem slash_separates {c : Char} (slash : (c = '/' || c = '\\') = true) : c ∈ separators := by
  rcases Bool.or_eq_true_iff.mp slash with slash | slash
  · exact of_decide_eq_true slash ▸ (by decide : '/' ∈ separators)
  · exact of_decide_eq_true slash ▸ (by decide : '\\' ∈ separators)

theorem isSlash_separates {c : Char} (slash : kind.isSlash c = true) : c ∈ separators := by
  simp only [SchemeKind.isSlash,Bool.or_eq_true,Bool.and_eq_true,decide_eq_true_eq] at slash
  rcases slash with rfl | ⟨-,rfl⟩
  · decide
  · decide

theorem endsAuthority_separates {c : Char} (ends : endsAuthority kind c = true) : c ∈ separators := by
  simp only [endsAuthority,Bool.or_eq_true,decide_eq_true_eq] at ends
  rcases ends with (slash | rfl) | rfl
  · exact isSlash_separates slash
  · decide
  · decide

theorem authority_ends : ∀ c ∈ (chars.dropWhile (!endsAuthority kind ·)).head?, c ∈ separators := by
  intro c first
  have stops := List.head?_dropWhile_not (!endsAuthority kind ·) chars
  rw [Option.mem_def.mp first] at stops
  exact endsAuthority_separates (by simpa using stops)

theorem scheme?_cut (found : scheme? chars = some (scheme,rest)) : ∃ name, chars = (name ++ [':']) ++ rest := by
  unfold scheme? at found
  dsimp only at found
  split at found
  · next first before after stops =>
    split at found
    · cases found
      have suffix : ':' :: rest <:+ first :: before := stops ▸ List.dropWhile_suffix _
      obtain ⟨name,parts⟩ := suffix
      exact ⟨name,by rw [List.append_assoc,List.singleton_append,parts]⟩
    · cases found
  · cases found

theorem hostAndPort_cut (inside : Bool) (chars : List Char) :
    ∃ behind, chars = (hostAndPort inside chars).1 ++ behind ∧ ∀ c ∈ behind.head?, c ∈ separators := by
  induction chars generalizing inside with
  | nil => exact ⟨[],rfl,by simp⟩
  | cons c rest ih =>
    by_cases colon : c = ':' ∧ !inside
    · refine ⟨c :: rest,?_,?_⟩
      · rw [hostAndPort,if_pos (by simpa using colon)]
        rfl
      · rintro d first
        cases first
        rw [colon.1]
        decide
    · obtain ⟨behind,split,begins⟩ := ih (c = '[' || (inside && c ≠ ']'))
      refine ⟨behind,?_,begins⟩
      rw [hostAndPort,if_neg (by simpa using colon)]
      exact congrArg (c :: ·) split

theorem userInfo?_cut {authority info : List Char} (found : userInfo? authority = some (info,behind)) :
    ∃ before, authority = (before ++ ['@']) ++ behind := by
  unfold userInfo? at found
  dsimp only at found
  split at found
  · cases found
  · next shorter =>
    cases found
    have parts : authority.reverse.takeWhile (· ≠ '@') ++ authority.reverse.dropWhile (· ≠ '@') = authority.reverse :=
      List.takeWhile_append_dropWhile
    have stops := List.head?_dropWhile_not (· ≠ '@') authority.reverse
    cases dropped : authority.reverse.dropWhile (· ≠ '@') with
    | nil =>
      rw [dropped,List.append_nil] at parts
      rw [parts,List.reverse_reverse] at shorter
      exact (shorter rfl).elim
    | cons d before =>
      rw [dropped,List.head?_cons] at stops
      have mark : d = '@' := by simpa using stops
      subst mark
      refine ⟨before.reverse,?_⟩
      have whole := congrArg List.reverse parts
      rw [dropped,List.reverse_append,List.reverse_cons,List.reverse_reverse] at whole
      exact whole.symm

def place (authority : List Char) : List Char :=
  match userInfo? authority with
  | some (_,behind) => behind
  | none => authority

theorem place_cut (authority : List Char) :
    ∃ user, authority = user ++ place authority ∧ ∀ c ∈ user.getLast?, c ∈ separators := by
  unfold place
  split
  · next info behind found =>
    obtain ⟨before,whole⟩ := userInfo?_cut found
    exact ⟨_,whole,by simp [separators]⟩
  · exact ⟨[],rfl,by simp⟩

theorem host_read {reading : Except AddressError Host} {port : Except AddressError (Option Nat)}
    {build : Host → Option Nat → Address} (built : (reading >>= fun h => port >>= fun p => pure (build h p)) = .ok a)
    (carries : ∀ h p, (build h p).host = some h ∧ (build h p).scheme = scheme) (named : a.host = some host) :
    reading = .ok host ∧ a.scheme = scheme := by
  obtain ⟨own,read,rest⟩ := bind_ok.mp built
  obtain ⟨given,-,made⟩ := bind_ok.mp rest
  cases made
  rw [(carries own given).1] at named
  cases named
  exact ⟨read,(carries host given).2⟩

theorem parseAuthority_cut (web : kind ≠ .file) (parsed : parseAuthority scheme kind chars = .ok a)
    (named : a.host = some host) : a.scheme = scheme ∧ ∃ front piece behind, Cut kind chars host front piece behind := by
  let authority := chars.takeWhile (!endsAuthority kind ·)
  have read : kind.read (hostAndPort false (place authority)).1 = .ok host ∧ a.scheme = scheme := by
    unfold parseAuthority at parsed
    dsimp only at parsed
    split_ifs at parsed with empty refused special special special
    · cases parsed
    · cases parsed
    · cases special
      exact host_read parsed (fun _ _ => ⟨rfl,rfl⟩) named
    · cases SchemeKind.other_of web special
      exact host_read parsed (fun _ _ => ⟨rfl,rfl⟩) named
    · cases special
      exact host_read parsed (fun _ _ => ⟨rfl,rfl⟩) named
    · cases SchemeKind.other_of web special
      exact host_read parsed (fun _ _ => ⟨rfl,rfl⟩) named
  obtain ⟨port,parts,begins⟩ := hostAndPort_cut false (place authority)
  have own : Cut kind (place authority) host [] (hostAndPort false (place authority)).1 port :=
    ⟨parts,read.1,by simp,begins⟩
  obtain ⟨user,whole,ends⟩ := place_cut authority
  have cut := own.further ends
  rw [← whole] at cut
  refine ⟨read.2,?_⟩
  rw [← List.takeWhile_append_dropWhile (p := (!endsAuthority kind ·)) (l := chars)]
  exact ⟨_,_,_,cut.longer authority_ends⟩

theorem parseFile_cut (parsed : parseFile chars = .ok a) (named : a.host = some host) :
    a.scheme = "file" ∧ ∃ front piece behind, Cut .file chars host front piece behind := by
  unfold parseFile at parsed
  dsimp only at parsed
  split at parsed
  · next b c rest =>
    split at parsed
    · next slashes =>
      split at parsed
      · cases parsed
        cases named
      · obtain ⟨own,read,built⟩ := bind_ok.mp parsed
        cases built
        have same : own = host := by
          change (if own = Host.name "localhost" then none else some own) = some host at named
          split at named
          · cases named
          · exact Option.some.inj named
        subst same
        refine ⟨rfl,[b,c],rest.takeWhile (!endsAuthority .file ·),rest.dropWhile (!endsAuthority .file ·),?_,read,?_,
          authority_ends⟩
        · rw [List.append_assoc,List.takeWhile_append_dropWhile]
          rfl
        · intro d last
          obtain rfl : c = d := Option.some.inj last
          exact isSlash_separates ((Bool.and_eq_true_iff.mp slashes).2)
    · cases parsed
      cases named
  · cases parsed
    cases named

theorem parse_cut {text : String} (parsed : parse text = .ok a) (named : a.host = some host) :
    ∃ front piece behind, Cut (.ofScheme a.scheme) (significant text) host front piece behind := by
  unfold parse at parsed
  split at parsed
  · cases parsed
  · next scheme rest found =>
    obtain ⟨name,parts⟩ := scheme?_cut found
    suffices cut : a.scheme = scheme ∧ ∃ front piece behind, Cut (.ofScheme scheme) rest host front piece behind by
      obtain ⟨own,front,piece,behind,cut⟩ := cut
      rw [own,parts]
      exact ⟨_,_,_,cut.further (by simp [separators])⟩
    split at parsed
    · next kind =>
      obtain ⟨own,front,piece,behind,cut⟩ := parseAuthority_cut (by decide) parsed named
      have slashes : rest.takeWhile (fun c => c = '/' || c = '\\') ++ rest.dropWhile (fun c => c = '/' || c = '\\') = rest :=
        List.takeWhile_append_dropWhile
      rw [kind,← slashes]
      refine ⟨own,_,_,_,cut.further ?_⟩
      intro c last
      have slash := List.mem_takeWhile_imp (List.mem_of_getLast? last)
      exact slash_separates slash
    · next kind =>
      rw [kind,SchemeKind.file_of kind]
      exact parseFile_cut parsed named
    · next kind =>
      rw [kind]
      split at parsed
      · next rest =>
        obtain ⟨own,front,piece,behind,cut⟩ := parseAuthority_cut (by decide) parsed named
        have ahead : ∀ c ∈ ['/','/'].getLast?, c ∈ separators := by simp [separators]
        exact ⟨own,_,_,_,cut.further ahead⟩
      · cases parsed
        cases named
      · cases parsed
        cases named

def Bare (piece : List Char) : Prop := piece ≠ [] ∧ ∀ c ∈ piece, c ∉ separators ∧ c ≠ '['

theorem bare_iff : (piece ≠ [] ∧ piece.all (fun c => !separators.contains c && c ≠ '[') = true) ↔ Bare piece := by
  simp [Bare]

instance (piece : List Char) : Decidable (Bare piece) := decidable_of_iff _ bare_iff

theorem hostAndPort_plain (plain : ∀ c ∈ piece, c ≠ ':' ∧ c ≠ '[') : hostAndPort false piece = (piece,none) := by
  induction piece with
  | nil => rfl
  | cons c rest ih =>
    obtain ⟨colon,bracket⟩ := plain c List.mem_cons_self
    rw [hostAndPort,if_neg (by simp [colon])]
    simp [bracket,ih fun d member => plain d (List.mem_cons_of_mem _ member)]

theorem userInfo?_plain {authority : List Char} (plain : '@' ∉ authority) : userInfo? authority = none := by
  have all : authority.reverse.takeWhile (· ≠ '@') = authority.reverse := by
    rw [List.takeWhile_eq_self_iff]
    intro c member
    simp only [decide_eq_true_eq]
    rintro rfl
    exact plain (List.mem_reverse.mp member)
  unfold userInfo?
  dsimp only
  rw [all,List.reverse_reverse,if_pos rfl]

theorem authority_plain (bare : Bare piece) (ends : rest.head?.all (endsAuthority kind) = true) :
    (piece ++ rest).takeWhile (!endsAuthority kind ·) = piece ∧
      (piece ++ rest).dropWhile (!endsAuthority kind ·) = rest := by
  have inside : ∀ c ∈ piece, (!endsAuthority kind c) = true := by
    intro c member
    rw [Bool.not_eq_true']
    exact Bool.eq_false_iff.mpr fun ends => (bare.2 c member).1 (endsAuthority_separates ends)
  rw [List.takeWhile_append_of_pos inside,List.dropWhile_append_of_pos inside]
  cases rest with
  | nil => exact ⟨List.append_nil piece,rfl⟩
  | cons c rest =>
    have stops : (!endsAuthority kind c) = false := by rw [show endsAuthority kind c = true from ends]; rfl
    rw [List.takeWhile_cons,List.dropWhile_cons,stops]
    exact ⟨List.append_nil piece,rfl⟩

theorem parseAuthority_plain (bare : Bare piece) (ends : rest.head?.all (endsAuthority .special) = true)
    (read : Host.parse piece = .ok host) :
    ∃ a, parseAuthority scheme .special (piece ++ rest) = .ok a ∧ a.scheme = scheme ∧ a.host = some host := by
  obtain ⟨authority,further⟩ := authority_plain bare ends
  have user : userInfo? piece = none := userInfo?_plain fun mark => (bare.2 '@' mark).1 (by decide)
  have place : hostAndPort false piece = (piece,none) :=
    hostAndPort_plain fun c member => ⟨by rintro rfl; exact (bare.2 ':' member).1 (by decide),(bare.2 c member).2⟩
  unfold parseAuthority
  dsimp only
  rw [authority,further,user]
  simp only
  rw [place,if_neg (by simpa using bare.1),read]
  exact ⟨_,rfl,rfl,rfl⟩

theorem parse_written {text : String} {slashes : List Char}
    (found : scheme? (significant text) = some (scheme,slashes ++ (piece ++ rest)))
    (special : SchemeKind.ofScheme scheme = .special) (only : slashes.all (fun c => c = '/' || c = '\\') = true)
    (bare : Bare piece) (ends : rest.head?.all (endsAuthority .special) = true)
    (read : Host.parse piece = .ok host) : ∃ a, parse text = .ok a ∧ a.scheme = scheme ∧ a.host = some host := by
  have further : (slashes ++ (piece ++ rest)).dropWhile (fun c => c = '/' || c = '\\') = piece ++ rest := by
    rw [List.dropWhile_append_of_pos (List.all_eq_true.mp only)]
    obtain ⟨c,more,rfl⟩ := List.exists_cons_of_ne_nil bare.1
    exact List.dropWhile_cons_of_neg fun slash => (bare.2 c List.mem_cons_self).1 (slash_separates slash)
  rw [parse,found]
  simp only [special,further]
  exact parseAuthority_plain bare ends read

theorem word_significant {word : List Char} {text : String} (visible : word.all (0x20 < ·.toNat) = true) (some : word ≠ [])
    (inside : word <:+: text.toList) : word <:+: significant text := by
  refine infix_filter ?_ ((infix_strip ?_ some).mpr inside)
  · intro c member
    have above := of_decide_eq_true (List.all_eq_true.mp visible c member)
    simp only [Bool.and_eq_true,decide_eq_true_eq]
    refine ⟨⟨?_,?_⟩,?_⟩ <;> rintro rfl <;> exact absurd above (by decide)
  · intro c member
    exact decide_eq_false (Nat.not_le.mpr (of_decide_eq_true (List.all_eq_true.mp visible c member)))

def Unbroken (text : String) : Prop := ∀ c ∈ text.toList, c ≠ '\t' ∧ c ≠ '\n' ∧ c ≠ '\r'

theorem unbroken_iff {text : String} : text.toList.all (fun c => c ≠ '\t' && c ≠ '\n' && c ≠ '\r') = true ↔
    Unbroken text := by
  simp [Unbroken,and_assoc]

instance (text : String) : Decidable (Unbroken text) := decidable_of_iff _ unbroken_iff

theorem significant_word {word : List Char} {text : String} (unbroken : Unbroken text)
    (inside : word <:+: significant text) : word <:+: text.toList := by
  obtain ⟨left,right,parts,-,-⟩ := strip_parts (·.toNat ≤ 0x20) text.toList
  have all : significant text = strip (·.toNat ≤ 0x20) text.toList := by
    refine List.filter_eq_self.mpr fun c member => ?_
    have there : c ∈ text.toList := by
      rw [parts]
      exact List.mem_append_left _ (List.mem_append_right _ member)
    simpa [and_assoc] using unbroken c there
  rw [parts]
  exact (all ▸ inside).trans ⟨left,right,rfl⟩

end ModelCatalog.Web.Address
