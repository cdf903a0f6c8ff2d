import ModelCatalog.Proofs.Web.Host

namespace ModelCatalog.Web

theorem utf8_length_cons (c : Char) (rest : List Char) :
    (utf8 (String.ofList (c :: rest))).length = (utf8 (String.singleton c)).length + (utf8 (String.ofList rest)).length := by
  rw [utf8_cons,List.length_append]

theorem utf8_length_pos (c : Char) : 0 < (utf8 (String.singleton c)).length := List.length_pos_iff.mpr (utf8_singleton c)

theorem utf8_length_sublist {part whole : List Char} (inside : part.Sublist whole) :
    (utf8 (String.ofList part)).length ≤ (utf8 (String.ofList whole)).length := by
  induction inside with
  | slnil => exact Nat.le_refl _
  | cons c _ ih =>
    rw [utf8_length_cons]
    omega
  | cons_cons c _ ih =>
    rw [utf8_length_cons,utf8_length_cons]
    omega

theorem sublist_whole {part whole : List Char} (inside : part.Sublist whole)
    (long : (utf8 (String.ofList whole)).length ≤ (utf8 (String.ofList part)).length) : part = whole := by
  induction inside with
  | slnil => rfl
  | @cons part whole c inside ih =>
    have shorter := utf8_length_sublist inside
    have own := utf8_length_pos c
    rw [utf8_length_cons] at long
    omega
  | @cons_cons part whole c inside ih =>
    rw [utf8_length_cons,utf8_length_cons] at long
    rw [ih (by omega)]

namespace Percent
variable {special : Char → Bool} {chars rest : List Char} {c : Char}

theorem byte_digits (b : UInt8) :
    ∃ x y, byte b = ['%',x,y] ∧ hex? x = some (b.toNat / 16) ∧ hex? y = some (b.toNat % 16) := by
  have digits : ∀ n < 16, hex? (Char.ofNat (if n < 10 then 48 + n else 55 + n)) = some n := by decide
  have bound := b.toNat_lt
  exact ⟨_,_,rfl,digits _ (by omega),digits _ (by omega)⟩

theorem mem_bytes {bytes : List UInt8} (member : c ∈ bytes.flatMap byte) : c = '%' ∨ (hex? c).isSome := by
  obtain ⟨b,-,there⟩ := List.mem_flatMap.mp member
  obtain ⟨x,y,digits,first,second⟩ := byte_digits b
  rw [digits] at there
  simp only [List.mem_cons,List.not_mem_nil,or_false] at there
  rcases there with rfl | rfl | rfl
  · exact .inl rfl
  · exact .inr (by rw [first]; rfl)
  · exact .inr (by rw [second]; rfl)

theorem decode_escape {a b : Char} {x y : Nat} (first : hex? a = some x) (second : hex? b = some y) (rest : List Char) :
    decode ('%' :: a :: b :: rest) = UInt8.ofNat (x * 16 + y) :: decode rest := by
  rw [decode]
  simp only [first,second]

def Escape (c : Char) (rest : List Char) : Prop :=
  c = '%' ∧ ∃ a b more, rest = a :: b :: more ∧ (hex? a).isSome ∧ (hex? b).isSome

theorem decode_plain (plain : ¬ Escape c rest) : decode (c :: rest) = utf8 (String.singleton c) ++ decode rest := by
  rw [decode.eq_def]
  split
  · next none => cases none
  · next a b more whole =>
    cases whole
    split
    · next x y first second =>
      exact (plain ⟨rfl,a,b,more,rfl,by rw [first]; rfl,by rw [second]; rfl⟩).elim
    · rfl
  · next d others _ whole =>
    cases whole
    rfl

theorem decode_bytes (bytes : List UInt8) (rest : List Char) :
    decode (bytes.flatMap byte ++ rest) = bytes ++ decode rest := by
  induction bytes with
  | nil => rfl
  | cons b bytes ih =>
    obtain ⟨x,y,digits,first,second⟩ := byte_digits b
    have whole : b.toNat / 16 * 16 + b.toNat % 16 = b.toNat := by omega
    rw [List.flatMap_cons,digits,List.append_assoc,List.cons_append,List.cons_append,List.cons_append,List.nil_append,
      decode_escape first second,whole,UInt8.ofNat_toNat,ih]
    rfl

-- A text is read front to back, an encoded byte at once and any other character by itself.
theorem escape_induction {P : List Char → Prop} (nil : P [])
    (plain : ∀ c rest, ¬ Escape c rest → P rest → P (c :: rest))
    (escape : ∀ a b more, (hex? a).isSome → (hex? b).isSome → P more → P ('%' :: a :: b :: more)) : ∀ chars, P chars
  | [] => nil
  | c :: rest => by
    by_cases here : Escape c rest
    · obtain ⟨rfl,a,b,more,rfl,first,second⟩ := here
      exact escape a b more first second (escape_induction nil plain escape more)
    · exact plain c rest here (escape_induction nil plain escape rest)
termination_by chars => chars.length

-- How letters are written one by one: each as itself or as its bytes, and as itself where it could change what a
-- percent sign before it means.
def Writes (letter : Char → Char) (write : Char → List Char) : Prop := ∀ c,
  write c = [letter c] ∨
    write c = (utf8 (String.singleton (letter c))).flatMap byte ∧ letter c ≠ '%' ∧ hex? (letter c) = none

section
variable {letter : Char → Char} {write : Char → List Char} {a : Char} {others more : List Char}

theorem Writes.alone (writes : Writes letter write) (digit : (hex? (letter c)).isSome) : write c = [letter c] := by
  rcases writes c with plain | ⟨-,-,none⟩
  · exact plain
  · rw [none] at digit
    cases digit

theorem Writes.front (writes : Writes letter write) (begins : chars.flatMap write = a :: others)
    (digit : (hex? a).isSome) : ∃ c rest, chars = c :: rest ∧ letter c = a ∧ rest.flatMap write = others := by
  cases chars with
  | nil => cases begins
  | cons c rest =>
    rw [List.flatMap_cons] at begins
    rcases writes c with plain | ⟨coded,-,-⟩
    · rw [plain] at begins
      obtain ⟨same,split⟩ := List.cons.inj begins
      exact ⟨c,rest,rfl,same,split⟩
    · obtain ⟨b,bytes,split⟩ := List.exists_cons_of_ne_nil (utf8_singleton (letter c))
      obtain ⟨x,y,digits,-,-⟩ := byte_digits b
      rw [coded,split,List.flatMap_cons,digits] at begins
      obtain ⟨rfl,-⟩ := List.cons.inj begins
      exact absurd digit (by decide)

theorem Writes.escape (writes : Writes letter write) (here : Escape c (rest.flatMap write)) :
    Escape c (rest.map letter) := by
  obtain ⟨percent,a,b,more,split,first,second⟩ := here
  obtain ⟨d,others,rfl,rfl,further⟩ := writes.front split first
  obtain ⟨e,others,rfl,rfl,-⟩ := writes.front further second
  exact ⟨percent,_,_,_,rfl,first,second⟩

theorem decode_letters (writes : Writes letter write) (chars : List Char) :
    decode (chars.flatMap write) = decode (chars.map letter) := by
  induction letters : chars.map letter using escape_induction generalizing chars with
  | nil =>
    cases List.map_eq_nil_iff.mp letters
    rfl
  | plain c rest here ih =>
    obtain ⟨d,others,rfl,rfl,rfl⟩ := List.map_eq_cons_iff.mp letters
    have further := ih others rfl
    rw [List.flatMap_cons,decode_plain here]
    rcases writes d with plain | ⟨coded,-,-⟩
    · rw [plain,List.singleton_append,decode_plain fun escape => here (writes.escape escape),further]
    · rw [coded,decode_bytes,further]
  | escape a b more first second ih =>
    obtain ⟨c,others,rfl,percent,rest⟩ := List.map_eq_cons_iff.mp letters
    obtain ⟨d,others,rfl,rfl,rest'⟩ := List.map_eq_cons_iff.mp rest
    obtain ⟨e,others,rfl,rfl,rfl⟩ := List.map_eq_cons_iff.mp rest'
    obtain ⟨x,digit⟩ := Option.isSome_iff_exists.mp first
    obtain ⟨y,digit'⟩ := Option.isSome_iff_exists.mp second
    have sign : write c = ['%'] := by
      rcases writes c with plain | ⟨-,other,-⟩
      · rw [plain,percent]
      · exact (other percent).elim
    rw [List.flatMap_cons,List.flatMap_cons,List.flatMap_cons,sign,writes.alone first,writes.alone second]
    simp only [List.singleton_append]
    rw [decode_escape digit digit',decode_escape digit digit',ih others rfl]

end

-- A text in which no byte is encoded, and that it takes as many bytes as it is read as.
def Escapeless (chars : List Char) : Prop :=
  ∀ a b, ['%',a,b] <:+: chars → hex? a = none ∨ hex? b = none

theorem Escapeless.head (escapeless : Escapeless (c :: rest)) : ¬ Escape c rest := by
  rintro ⟨rfl,a,b,more,rfl,first,second⟩
  rcases escapeless a b ⟨[],more,rfl⟩ with none | none
  · rw [none] at first
    cases first
  · rw [none] at second
    cases second

theorem Escapeless.tail (escapeless : Escapeless (c :: rest)) : Escapeless rest :=
  fun a b inside => escapeless a b (inside.trans (List.suffix_cons c rest).isInfix)

theorem decode_escapeless (escapeless : Escapeless chars) : decode chars = utf8 (String.ofList chars) := by
  induction chars with
  | nil => exact (utf8_eq "").symm
  | cons c rest ih => rw [decode_plain escapeless.head,ih escapeless.tail,utf8_cons]

theorem decode_shrinks (chars : List Char) : (decode chars).length ≤ (utf8 (String.ofList chars)).length ∧
    ((utf8 (String.ofList chars)).length ≤ (decode chars).length → Escapeless chars) := by
  induction chars using escape_induction with
  | nil => exact ⟨Nat.zero_le _,fun _ a b inside => by simp at inside⟩
  | plain c rest here ih =>
    obtain ⟨bound,further⟩ := ih
    rw [decode_plain here,utf8_length_cons,List.length_append]
    refine ⟨by omega,fun long a b inside => ?_⟩
    rcases List.infix_cons_iff.mp inside with start | later
    · obtain ⟨more,whole⟩ := start
      obtain ⟨rfl,rfl⟩ := List.cons.inj whole
      by_contra both
      rw [not_or] at both
      exact here ⟨rfl,a,b,more,rfl,Option.isSome_iff_ne_none.mpr both.1,Option.isSome_iff_ne_none.mpr both.2⟩
    · exact further (by omega) a b later
  | escape a b more first second ih =>
    obtain ⟨x,first⟩ := Option.isSome_iff_exists.mp first
    obtain ⟨y,second⟩ := Option.isSome_iff_exists.mp second
    have sign := utf8_length_pos '%'
    have digit := utf8_length_pos a
    have digit' := utf8_length_pos b
    have bound := ih.1
    rw [decode_escape first second,utf8_length_cons,utf8_length_cons,utf8_length_cons,List.length_cons]
    exact ⟨by omega,fun long => by omega⟩

theorem encode_append (special : Char → Bool) (front behind : List Char) :
    encode special (front ++ behind) = encode special front ++ encode special behind := List.flatMap_append

theorem encode_cons (special : Char → Bool) (c : Char) (rest : List Char) :
    encode special (c :: rest) = encode special [c] ++ encode special rest :=
  encode_append special [c] rest

theorem encode_letter (special : Char → Bool) (c : Char) :
    encode special [c] = [c] ∨ encode special [c] = (utf8 (String.singleton c)).flatMap byte := by
  rw [encode,List.flatMap_singleton]
  split
  · exact .inl rfl
  · exact .inr rfl

theorem encode_letter_some (special : Char → Bool) (c : Char) : encode special [c] ≠ [] := by
  rcases encode_letter special c with plain | coded
  · rw [plain]
    exact List.cons_ne_nil _ _
  · obtain ⟨b,bytes,split⟩ := List.exists_cons_of_ne_nil (utf8_singleton c)
    rw [coded,split,List.flatMap_cons]
    exact List.append_ne_nil_of_left_ne_nil (List.cons_ne_nil _ _) _

theorem encode_eq_nil : encode special chars = [] ↔ chars = [] := by
  constructor
  · intro none
    cases chars with
    | nil => rfl
    | cons c rest =>
      rw [encode_cons,List.append_eq_nil_iff] at none
      exact (encode_letter_some special c none.1).elim
  · rintro rfl
    rfl

theorem not_mem_encode (sign : c ≠ '%' ∧ hex? c = none) (absent : c ∉ chars) : c ∉ encode special chars := by
  intro member
  obtain ⟨d,there,written⟩ := List.mem_flatMap.mp member
  split at written
  · cases List.mem_singleton.mp written
    exact absent there
  · rcases mem_bytes written with percent | digit
    · exact sign.1 percent
    · rw [sign.2] at digit
      cases digit

end Percent
end ModelCatalog.Web
