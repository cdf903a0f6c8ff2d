import ModelCatalog.Proofs.Web.Percent
import ModelCatalog.Web.Address
import Mathlib.Data.List.DropRight

namespace ModelCatalog.Web.Address
variable {chars rest body : List Char} {isSlash : Char → Bool} {kind : SchemeKind} {c : Char}

theorem pieces_ne_nil (isSlash : Char → Bool) (chars : List Char) : pieces isSlash chars ≠ [] := by
  cases chars with
  | nil => exact List.cons_ne_nil _ _
  | cons c rest =>
    rw [pieces]
    split
    · exact List.cons_ne_nil _ _
    · split
      · exact List.cons_ne_nil _ _
      · exact List.cons_ne_nil _ _

theorem pieces_cons (plain : isSlash c = false) (rest : List Char) : ∃ part parts, pieces isSlash rest = part :: parts ∧
    pieces isSlash (c :: rest) = (c :: part) :: parts := by
  obtain ⟨part,parts,split⟩ := List.exists_cons_of_ne_nil (pieces_ne_nil isSlash rest)
  refine ⟨part,parts,split,?_⟩
  rw [pieces,plain,split]
  rfl

theorem pieces_at (slash : isSlash c = true) (rest : List Char) :
    pieces isSlash (c :: rest) = [] :: pieces isSlash rest := by
  rw [pieces,if_pos slash]

theorem pieces_slash (slash : isSlash c = true) (chars rest : List Char) :
    pieces isSlash (chars ++ c :: rest) = pieces isSlash chars ++ pieces isSlash rest := by
  induction chars with
  | nil => exact pieces_at slash rest
  | cons d chars ih =>
    cases other : isSlash d with
    | true => rw [List.cons_append,pieces_at other,pieces_at other,ih,List.cons_append]
    | false =>
      obtain ⟨part,parts,split,whole⟩ := pieces_cons other chars
      rw [List.cons_append,pieces,other,ih,whole,split]
      rfl

theorem pieces_plain (plain : ∀ c ∈ chars, isSlash c = false) : pieces isSlash chars = [chars] := by
  induction chars with
  | nil => rfl
  | cons c rest ih =>
    rw [pieces,plain c List.mem_cons_self,ih fun d member => plain d (List.mem_cons_of_mem _ member)]
    rfl

theorem pieces_slashes (slash : isSlash c = true) (n : Nat) :
    pieces isSlash (List.replicate n c) = List.replicate (n + 1) [] := by
  induction n with
  | zero => rfl
  | succ n ih => exact (pieces_at slash _).trans (congrArg ([] :: ·) ih)

theorem mem_pieces {part : List Char} (member : part ∈ pieces isSlash chars) : ∀ c ∈ part, isSlash c = false := by
  induction chars generalizing part with
  | nil =>
    cases List.mem_singleton.mp member
    exact nofun
  | cons c rest ih =>
    cases slash : isSlash c with
    | true =>
      rw [pieces_at slash] at member
      rcases List.mem_cons.mp member with rfl | later
      · exact nofun
      · exact ih later
    | false =>
      obtain ⟨first,others,split,whole⟩ := pieces_cons slash rest
      rw [split] at ih
      rw [whole] at member
      rcases List.mem_cons.mp member with rfl | later
      · intro d there
        rcases List.mem_cons.mp there with rfl | there
        · exact slash
        · exact ih List.mem_cons_self d there
      · exact ih (List.mem_cons_of_mem _ later)

theorem pieces_append (isSlash : Char → Bool) (chars : List Char) : ∃ parts last, pieces isSlash chars = parts ++ [last] ∧
    ∀ {more}, (∀ c ∈ more, isSlash c = false) → pieces isSlash (chars ++ more) = parts ++ [last ++ more] := by
  induction chars with
  | nil => exact ⟨[],[],rfl,fun plain => pieces_plain plain⟩
  | cons c rest ih =>
    obtain ⟨parts,last,split,longer⟩ := ih
    cases slash : isSlash c with
    | true =>
      refine ⟨[] :: parts,last,?_,fun plain => ?_⟩
      · rw [pieces_at slash,split,List.cons_append]
      · rw [List.cons_append,pieces_at slash,longer plain,List.cons_append]
    | false =>
      cases parts with
      | nil =>
        refine ⟨[],c :: last,?_,fun plain => ?_⟩
        · rw [pieces,slash,split]
          rfl
        · rw [List.cons_append,pieces,slash,longer plain]
          rfl
      | cons part parts =>
        refine ⟨(c :: part) :: parts,last,?_,fun plain => ?_⟩
        · rw [pieces,slash,split]
          rfl
        · rw [List.cons_append,pieces,slash,longer plain]
          rfl

theorem pieces_last (isSlash : Char → Bool) (chars : List Char) :
    (pieces isSlash chars).getLast? = some (chars.rtakeWhile (!isSlash ·)) := by
  obtain ⟨before,split⟩ : ∃ before, chars = before ++ chars.rtakeWhile (!isSlash ·) :=
    ⟨_,List.rdropWhile_append_rtakeWhile.symm⟩
  have plain : ∀ c ∈ chars.rtakeWhile (!isSlash ·), isSlash c = false := by
    intro c member
    simpa using List.mem_rtakeWhile_imp member
  rcases List.eq_nil_or_concat (chars.rdropWhile (!isSlash ·)) with none | ⟨front,c,ends⟩
  · have whole := List.rdropWhile_append_rtakeWhile (p := (!isSlash ·)) (l := chars)
    rw [none,List.nil_append] at whole
    rw [whole] at plain ⊢
    rw [pieces_plain plain]
    rfl
  · have slash : isSlash c = true := by
      have stops := List.rdropWhile_last_not (!isSlash ·) chars (by rw [ends]; simp)
      simpa [ends] using stops
    have whole := List.rdropWhile_append_rtakeWhile (p := (!isSlash ·)) (l := chars)
    rw [ends,List.concat_eq_append,List.append_assoc,List.singleton_append] at whole
    conv => lhs; rw [← whole]
    rw [pieces_slash slash,pieces_plain plain,List.getLast?_append]
    rfl

def descend (above : List (List Char)) (part : List Char) : List (List Char) :=
  if isDoubleDot part then above.dropLast else if isSingleDot part then above else above ++ [part]

-- A part that names something: none that stands for the place itself or for the one above.
def Names (part : List Char) : Prop := isDoubleDot part = false ∧ isSingleDot part = false

instance (part : List Char) : Decidable (Names part) := inferInstanceAs (Decidable (_ ∧ _))

theorem descend_name {above : List (List Char)} {part : List Char} (names : Names part) :
    descend above part = above ++ [part] := by
  rw [descend,names.1,names.2]
  rfl

theorem resolve_append (above : List (List Char)) (parts : List (List Char)) {more : List (List Char)} (some : more ≠ []) :
    resolve above (parts ++ more) = resolve (parts.foldl descend above) more := by
  induction parts generalizing above with
  | nil => rfl
  | cons part parts ih =>
    have further : (parts ++ more).isEmpty = false := by
      rw [List.isEmpty_eq_false_iff]
      exact List.append_ne_nil_of_right_ne_nil _ some
    rw [List.cons_append,resolve,further,List.foldl_cons,← ih]
    rfl

theorem resolve_names {names : List (List Char)} (all : ∀ part ∈ names, Names part) (above : List (List Char)) :
    resolve above names = above ++ names := by
  induction names generalizing above with
  | nil => exact (List.append_nil above).symm
  | cons part rest ih =>
    have own := all part List.mem_cons_self
    rw [resolve,own.1,own.2,ih fun other member => all other (List.mem_cons_of_mem _ member)]
    simp

theorem resolve_ends (above parts : List (List Char)) :
    ∃ n, resolve above parts = parts.foldl descend above ++ List.replicate n [] := by
  induction parts generalizing above with
  | nil => exact ⟨0,(List.append_nil _).symm⟩
  | cons part rest ih =>
    rw [resolve,List.foldl_cons]
    cases rest with
    | cons next rest => exact ih (descend above part)
    | nil =>
      by_cases up : isDoubleDot part
      · exact ⟨1,by simp [resolve,descend,up]⟩
      · by_cases here : isSingleDot part
        · exact ⟨1,by simp [resolve,descend,up,here]⟩
        · exact ⟨0,by simp [resolve,descend,up,here]⟩

-- The place that characters lead to behind an authority, before anything is asked for beneath it.
def directory (chars : List Char) : List (List Char) :=
  match chars with
  | [] => []
  | _ :: body => (pieces SchemeKind.special.isSlash body).foldl descend []

def encodedPart (part : List Char) : String := String.ofList (Percent.encode Percent.path part)

theorem segments_slash (slash : SchemeKind.special.isSlash c = true) (body : List Char) :
    segments .special (c :: body) = (resolve [] (pieces SchemeKind.special.isSlash body)).map encodedPart := by
  simp only [segments,slash,if_true]
  rfl

theorem segments_beneath (begins : chars.head?.all SchemeKind.special.isSlash = true) (rest : List Char) :
    segments .special (chars ++ '/' :: rest) =
      (resolve (directory chars) (pieces SchemeKind.special.isSlash rest)).map encodedPart := by
  cases chars with
  | nil => rfl
  | cons c body =>
    have slash : SchemeKind.special.isSlash c = true := begins
    rw [List.cons_append,segments_slash slash,pieces_slash (by decide),resolve_append [] _ (pieces_ne_nil _ rest)]
    rfl

theorem segments_slashes (begins : chars.head?.all SchemeKind.special.isSlash = true) (k : Nat) :
    ∃ n, segments .special (chars ++ List.replicate k '/') = (directory chars ++ List.replicate n []).map encodedPart := by
  cases k with
  | succ k =>
    refine ⟨k + 1,?_⟩
    rw [List.replicate_succ,segments_beneath begins,pieces_slashes (by decide),resolve_names]
    intro part member
    cases (List.mem_replicate.mp member).2
    decide
  | zero =>
    rw [List.replicate_zero,List.append_nil]
    cases chars with
    | nil => exact ⟨1,rfl⟩
    | cons c body =>
      have slash : SchemeKind.special.isSlash c = true := begins
      obtain ⟨n,ends⟩ := resolve_ends [] (pieces SchemeKind.special.isSlash body)
      refine ⟨n,?_⟩
      rw [segments_slash slash,ends]
      rfl

def slashed (parts : List (List Char)) : List Char := parts.flatMap ('/' :: ·)

def pathChars (parts : List (List Char)) : List Char := slashed (parts.map (Percent.encode Percent.path))

theorem pathText_segments {a : Address} {parts : List (List Char)} (hosted : a.host.isSome)
    (path : a.path = .segments (parts.map encodedPart)) : a.pathText.toList = pathChars parts := by
  have joined (texts : List String) :
      (String.join (texts.map ("/" ++ ·))).toList = texts.flatMap fun s => '/' :: s.toList := by
    induction texts with
    | nil => rfl
    | cons s texts ih => rw [List.map_cons,String.join_cons,String.toList_append,String.toList_append,ih]; rfl
  have bare : a.host.isNone = false := by simpa using hosted
  rw [pathText,path]
  simp only [bare,Bool.false_eq_true,false_and,if_false]
  rw [joined,pathChars,slashed,List.flatMap_map,List.flatMap_map]
  simp only [encodedPart,String.toList_ofList]

theorem pathChars_append (parts more : List (List Char)) :
    pathChars (parts ++ more) = pathChars parts ++ pathChars more := by
  rw [pathChars,List.map_append]
  exact List.flatMap_append

theorem pathChars_slashes (n : Nat) : pathChars (List.replicate n []) = List.replicate n '/' := by
  induction n with
  | zero => rfl
  | succ n ih => exact congrArg ('/' :: ·) ih

theorem pathChars_length (parts : List (List Char)) (last : List Char) :
    (pathChars (parts ++ [last])).length = (pathChars parts).length + (Percent.encode Percent.path last).length + 1 := by
  have own : pathChars [last] = '/' :: Percent.encode Percent.path last := List.append_nil _
  rw [pathChars_append,List.length_append,own,List.length_cons,Nat.add_assoc]

theorem pathChars_dropLast (parts : List (List Char)) : (pathChars parts.dropLast).length ≤ (pathChars parts).length := by
  rcases List.eq_nil_or_concat parts with rfl | ⟨before,last,rfl⟩
  · exact Nat.le_refl _
  · rw [List.concat_eq_append,List.dropLast_concat,pathChars_length]
    omega

theorem directory_longer {more : List Char} (begins : SchemeKind.special.isSlash c = true) (body : List Char)
    (some : more ≠ []) (plain : ∀ c ∈ more, SchemeKind.special.isSlash c = false)
    (names : ∀ part, Names (part ++ more)) : ∃ parts, segments .special (c :: body) = parts.map encodedPart ∧
      (pathChars parts).length < (pathChars (directory (c :: body ++ more))).length := by
  obtain ⟨parts,last,split,longer⟩ := pieces_append SchemeKind.special.isSlash body
  have down : directory (c :: body ++ more) = parts.foldl descend [] ++ [last ++ more] := by
    rw [List.cons_append,directory,longer plain,List.foldl_append]
    exact descend_name (names last)
  have own : segments .special (c :: body) = (resolve (parts.foldl descend []) [last]).map encodedPart := by
    rw [segments_slash begins,split,resolve_append [] _ (List.cons_ne_nil _ _)]
  refine ⟨_,own,?_⟩
  have further : 0 < (Percent.encode Percent.path more).length :=
    List.length_pos_iff.mpr fun none => some (Percent.encode_eq_nil.mp none)
  have above := pathChars_dropLast (parts.foldl descend [])
  rw [down,pathChars_length,Percent.encode_append,List.length_append]
  by_cases up : isDoubleDot last = true
  · rw [show resolve (parts.foldl descend []) [last] = (parts.foldl descend []).dropLast ++ [[]] by simp [resolve,up],
      pathChars_length,Percent.encode,List.flatMap_nil,List.length_nil]
    omega
  · by_cases here : isSingleDot last = true
    · rw [show resolve (parts.foldl descend []) [last] = parts.foldl descend [] ++ [[]] by simp [resolve,up,here],
        pathChars_length,Percent.encode,List.flatMap_nil,List.length_nil]
      omega
    · rw [show resolve (parts.foldl descend []) [last] = parts.foldl descend [] ++ [last] by simp [resolve,up,here],
        pathChars_length]
      omega

theorem pathChars_ends {parts : List (List Char)} {last : List Char} (ends : parts.getLast? = some last) (named : last ≠ [])
    (plain : '/' ∉ last) : ∀ c ∈ (pathChars parts).getLast?, c ≠ '/' := by
  obtain ⟨before,rfl⟩ := List.getLast?_eq_some_iff.mp ends
  have some : Percent.encode Percent.path last ≠ [] := fun none => named (Percent.encode_eq_nil.mp none)
  have own : pathChars [last] = '/' :: Percent.encode Percent.path last := List.append_nil _
  intro c found
  rw [pathChars_append,own,List.getLast?_append,List.getLast?_cons,List.getLast?_eq_some_getLast some] at found
  obtain rfl := Option.some.inj found
  intro slash
  have absent : '/' ∉ Percent.encode Percent.path last := Percent.not_mem_encode (by decide) plain
  rw [← slash] at absent
  exact absent (List.getLast_mem some)

theorem upTo_absent {sign : Char} (absent : sign ∉ chars) :
    chars.takeWhile (· ≠ sign) = chars ∧ chars.dropWhile (· ≠ sign) = [] := by
  have all : ∀ c ∈ chars, decide (c ≠ sign) = true := by
    intro c member
    refine decide_eq_true ?_
    rintro rfl
    exact absent member
  exact ⟨List.takeWhile_eq_self_iff.mpr all,List.dropWhile_eq_nil_iff.mpr all⟩

theorem upTo_sign {sign : Char} (absent : sign ∉ chars) (rest : List Char) :
    (chars ++ sign :: rest).takeWhile (· ≠ sign) = chars ∧ (chars ++ sign :: rest).dropWhile (· ≠ sign) = sign :: rest := by
  have all : ∀ c ∈ chars, decide (c ≠ sign) = true := List.takeWhile_eq_self_iff.mp (upTo_absent absent).1
  rw [List.takeWhile_append_of_pos all,List.dropWhile_append_of_pos all,List.takeWhile_cons_of_neg (by simp),
    List.dropWhile_cons_of_neg (by simp)]
  exact ⟨List.append_nil chars,rfl⟩

theorem upTo_stops {sign : Char} (there : sign ∈ chars) (more : List Char) :
    (chars ++ more).takeWhile (· ≠ sign) = chars.takeWhile (· ≠ sign) := by
  obtain ⟨before,after,rfl,absent⟩ := List.eq_append_cons_of_mem there
  rw [List.append_assoc,List.cons_append,(upTo_sign absent _).1,(upTo_sign absent _).1]

theorem tail_plain (unasked : '?' ∉ chars) (whole : '#' ∉ chars) : tail chars = (chars,none,none) := by
  unfold tail
  simp only [(upTo_absent unasked).1,(upTo_absent unasked).2,(upTo_absent whole).1,(upTo_absent whole).2]

theorem tail_cases (chars : List Char) : ('?' ∉ chars ∧ '#' ∉ chars) ∨
    ('?' ∈ chars ∨ '#' ∈ chars) ∧ ((tail chars).2.1.isSome ∨ (tail chars).2.2.isSome) := by
  by_cases marked : '#' ∈ chars
  · refine .inr ⟨.inr marked,.inr ?_⟩
    obtain ⟨before,after,rfl,absent⟩ := List.eq_append_cons_of_mem marked
    simp only [tail,(upTo_sign absent after).2]
    rfl
  · by_cases asked : '?' ∈ chars
    · refine .inr ⟨.inl asked,.inl ?_⟩
      have own := (upTo_absent marked).1
      obtain ⟨before,after,rfl,absent⟩ := List.eq_append_cons_of_mem asked
      simp only [tail,own,(upTo_sign absent after).2]
      rfl
    · exact .inl ⟨asked,marked⟩

theorem tail_asking (unasked : '?' ∉ chars) (whole : '#' ∉ chars) (query : List Char) :
    (tail (chars ++ '?' :: query)).1 = chars ∧
      (tail (chars ++ '?' :: query)).2.1 = some (query.takeWhile (· ≠ '#')) := by
  have absent : '#' ∉ chars ++ ['?'] := by simp [whole]
  have all : ∀ c ∈ chars ++ ['?'], decide (c ≠ '#') = true := List.takeWhile_eq_self_iff.mp (upTo_absent absent).1
  have before : (chars ++ '?' :: query).takeWhile (· ≠ '#') = chars ++ '?' :: query.takeWhile (· ≠ '#') := by
    rw [← List.singleton_append,← List.append_assoc,List.takeWhile_append_of_pos all,List.append_assoc]
    rfl
  unfold tail
  dsimp only
  rw [before,(upTo_sign unasked _).1,(upTo_sign unasked _).2]
  exact ⟨rfl,rfl⟩

theorem tail_stops (some : '?' ∈ chars ∨ '#' ∈ chars) (more : List Char) : (tail (chars ++ more)).1 = (tail chars).1 := by
  simp only [tail]
  by_cases marked : '#' ∈ chars
  · rw [upTo_stops marked]
  · have asked : '?' ∈ chars := some.resolve_right marked
    have all : ∀ c ∈ chars, decide (c ≠ '#') = true := List.takeWhile_eq_self_iff.mp (upTo_absent marked).1
    rw [List.takeWhile_append_of_pos all,(upTo_absent marked).1,upTo_stops asked]

def site (a : Address) : Address := { a with path := .segments [],query := none,fragment := none }

theorem withTail_path (a : Address) (chars : List Char) :
    (withTail .special a chars).path = .segments (segments .special (tail chars).1) := rfl

theorem pathText_congr {a b : Address} (same : a.site = b.site) (path : a.path = b.path) : a.pathText = b.pathText := by
  have scheme : a.site.scheme = b.site.scheme := by rw [same]
  have host : a.site.host = b.site.host := by rw [same]
  change a.scheme = b.scheme at scheme
  change a.host = b.host at host
  rw [pathText,pathText,scheme,host,path]

theorem pathText_tail {a : Address} (hosted : a.host.isSome) {parts : List (List Char)}
    (read : segments .special (tail chars).1 = parts.map encodedPart) :
    (withTail .special a chars).pathText = String.ofList (pathChars parts) := by
  have path : (withTail .special a chars).path = .segments (parts.map encodedPart) := by rw [withTail_path,read]
  rw [← pathText_segments (show (withTail .special a chars).host.isSome from hosted) path,String.ofList_toList]

theorem directory_ends {last : List Char} (ends : last = body.rtakeWhile (!SchemeKind.special.isSlash ·)) (some : last ≠ [])
    (names : Names last) : ∀ d ∈ (pathChars (directory (c :: body))).getLast?, d ≠ '/' := by
  have split := pieces_last SchemeKind.special.isSlash body
  rw [← ends] at split
  obtain ⟨before,whole⟩ := List.getLast?_eq_some_iff.mp split
  have below : (directory (c :: body)).getLast? = Option.some last := by
    rw [directory,whole,List.foldl_append,List.getLast?_eq_some_iff]
    exact ⟨_,descend_name names⟩
  refine pathChars_ends below some fun slash => ?_
  exact absurd (mem_pieces (List.mem_of_getLast? split) '/' slash) (by decide)

end ModelCatalog.Web.Address
