namespace ModelCatalog.Web

def utf8 (s : String) : List UInt8 := s.toUTF8.toList

def ofUtf8? (bytes : List UInt8) : Option String := String.fromUTF8? ⟨bytes.toArray⟩

namespace Percent

def byte (b : UInt8) : List Char :=
  let digit (n : Nat) : Char := Char.ofNat (if n < 10 then 48 + n else 55 + n)
  ['%',digit (b.toNat / 16),digit (b.toNat % 16)]

def encode (special : Char → Bool) (chars : List Char) : List Char :=
  chars.flatMap fun c =>
    if c.toNat < 0x80 && !special c then [c]
    else (utf8 (String.singleton c)).flatMap byte

def hex? (c : Char) : Option Nat :=
  if '0' ≤ c ∧ c ≤ '9' then some (c.toNat - 48)
  else if 'a' ≤ c ∧ c ≤ 'f' then some (c.toNat - 87)
  else if 'A' ≤ c ∧ c ≤ 'F' then some (c.toNat - 55)
  else none

def decode : List Char → List UInt8
  | [] => []
  | '%' :: a :: b :: rest =>
    match hex? a,hex? b with
    | some x,some y => UInt8.ofNat (x * 16 + y) :: decode rest
    | _,_ => utf8 "%" ++ decode (a :: b :: rest)
  | c :: rest => utf8 (String.singleton c) ++ decode rest

def control (c : Char) : Bool := c.toNat < 0x20 || c.toNat = 0x7F

def fragment (c : Char) : Bool := control c || [' ','"','<','>','\u0060'].contains c
def query (c : Char) : Bool := control c || [' ','"','#','<','>'].contains c
def path (c : Char) : Bool := fragment c || ['#','?','{','}'].contains c
def userInfo (c : Char) : Bool :=
  path c || ['/',':',';','=','@','[','\\',']','^','|'].contains c

end Percent

namespace Base64

def letter (n : Nat) : Char :=
  if n < 26 then Char.ofNat (65 + n)
  else if n < 52 then Char.ofNat (71 + n)
  else if n < 62 then Char.ofNat (n - 4)
  else if n = 62 then '+' else '/'

-- Three bytes are four letters; what is missing at the end is filled with equals signs.
def encode : List UInt8 → List Char
  | [] => []
  | [a] =>
    let n := a.toNat * 16
    [letter (n / 64),letter (n % 64),'=','=']
  | [a,b] =>
    let n := (a.toNat * 256 + b.toNat) * 4
    [letter (n / 4096),letter (n / 64 % 64),letter (n % 64),'=']
  | a :: b :: c :: rest =>
    let n := (a.toNat * 256 + b.toNat) * 256 + c.toNat
    [letter (n / 262144),letter (n / 4096 % 64),letter (n / 64 % 64),letter (n % 64)]
      ++ encode rest

end Base64
end ModelCatalog.Web
