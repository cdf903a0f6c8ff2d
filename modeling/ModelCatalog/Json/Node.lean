import ModelCatalog.Json.Token
import ModelCatalog.Json.Tree

-- JSON text as a tree in which faults keep their place. A reader that visits the tree from front to back meets them
-- in the order of the text: what it rejects before a fault, it rejects for its own reason.

namespace ModelCatalog.Json

-- A number out of range and a string with half a surrogate pair have no value. An array that is not `closed` breaks
-- off behind its items, and an object breaks off behind its members at `stop`.
inductive Node where
  | null
  | bool (b : Bool)
  | number (n : Option Number)
  | text (s : Option String)
  | array (items : List Node) (closed : Bool)
  | object (members : List (Option String × Node)) (stop : Option Node)
  | broken

instance : Inhabited Node := ⟨.broken⟩

namespace Node

mutual
def ofTree : Tree → Node
  | .null => .null
  | .bool b => .bool b
  | .number n => .number (some n)
  | .text s => .text (some s)
  | .array items => .array (ofItems items) true
  | .object members => .object (ofMembers members) none

def ofItems : List Tree → List Node
  | [] => []
  | item :: rest => ofTree item :: ofItems rest

def ofMembers : List (String × Tree) → List (Option String × Node)
  | [] => []
  | (key,item) :: rest => (some key,ofTree item) :: ofMembers rest
end

inductive ArrayPlace where
  | first | item | comma

inductive ObjectPlace where
  | first | member | comma
  | key (k : Option String)
  | colon (k : Option String)

-- An array or object that is not closed yet, its parts last first.
inductive Frame where
  | array (items : List Node) (place : ArrayPlace)
  | object (members : List (Option String × Node)) (place : ObjectPlace)

def Frame.unfinished (frame : Frame) (last : Option Node) : Node :=
  match frame with
  | .array items _ => .array (last.toList ++ items).reverse false
  | .object members (.key k) | .object members (.colon k) =>
    .object ((k,last.getD .broken) :: members).reverse (some .broken)
  | .object members _ => .object members.reverse (some (last.getD .broken))

-- Within open frames, innermost first, or behind the value, which is `clean` as long as nothing follows it.
inductive Progress where
  | within (frames : List Frame)
  | behind (node : Node) (clean : Bool)

namespace Progress

def abandon (frames : List Frame) (last : Option Node) : Progress :=
  .behind ((frames.foldl (fun last frame => some (frame.unfinished last)) last).getD .broken) false

def valueDue : List Frame → Bool
  | [] | .array _ .first :: _ | .array _ .comma :: _ | .object _ (.colon _) :: _ => true
  | _ => false

def supply (frames : List Frame) (node : Node) : Progress :=
  match frames with
  | [] => .behind node true
  | .array items _ :: rest => .within (.array (node :: items) .item :: rest)
  | .object members (.colon k) :: rest => .within (.object ((k,node) :: members) .member :: rest)
  | frames => abandon frames none

def stray : Token → Option Node
  | .null => some .null
  | .bool b => some (.bool b)
  | .number n => some (.number n)
  | .arrayStart => some (.array [] false)
  | .objectStart => some (.object [] (some .broken))
  | _ => none

def feed (p : Progress) (token : Token) : Progress :=
  match p with
  | .behind node _ => .behind node false
  | .within frames =>
    match token,frames with
    | .text k,.object members .first :: rest | .text k,.object members .comma :: rest =>
      .within (.object members (.key k) :: rest)
    | .colon,.object members (.key k) :: rest => .within (.object members (.colon k) :: rest)
    | .comma,.array items .item :: rest => .within (.array items .comma :: rest)
    | .comma,.object members .member :: rest => .within (.object members .comma :: rest)
    | .arrayEnd,.array items .first :: rest | .arrayEnd,.array items .item :: rest =>
      supply rest (.array items.reverse true)
    | .objectEnd,.object members .first :: rest | .objectEnd,.object members .member :: rest =>
      supply rest (.object members.reverse none)
    | token,frames =>
      if valueDue frames then
        match token with
        | .null => supply frames .null
        | .bool b => supply frames (.bool b)
        | .number n => supply frames (.number n)
        | .text s => supply frames (.text s)
        | .arrayStart => .within (.array [] .first :: frames)
        | .objectStart => .within (.object [] .first :: frames)
        | _ => abandon frames none
      else match frames with
        | .object _ .first :: _ | .object _ .comma :: _ => abandon frames (stray token)
        | _ => abandon frames none

def result : Progress → Node × Bool
  | .behind node clean => (node,clean)
  | .within frames => match abandon frames none with
    | .behind node _ => (node,false)
    | .within _ => (.broken,false)

end Progress

def read (text : String) : Node × Bool :=
  ((tokens text.toList).foldl Progress.feed (.within [])).result

end Node
end ModelCatalog.Json
