import ModelCatalog.Json.Node
import ModelCatalog.Proofs.Json.Numeral

namespace ModelCatalog.Json
open Ordered

namespace Tree

mutual
def tokens : Tree → List Token
  | .null => [.null]
  | .bool b => [.bool b]
  | .number n => [.number n.reread]
  | .text s => [.text (some s)]
  | .array items => .arrayStart :: itemTokens items ++ [.arrayEnd]
  | .object members => .objectStart :: memberTokens members ++ [.objectEnd]

def itemTokens : List Tree → List Token
  | [] => []
  | [item] => item.tokens
  | item :: rest => item.tokens ++ .comma :: itemTokens rest

def memberTokens : List (String × Tree) → List Token
  | [] => []
  | [(key,item)] => .text (some key) :: .colon :: item.tokens
  | (key,item) :: rest => .text (some key) :: .colon :: item.tokens ++ .comma :: memberTokens rest
end

mutual
def reals : Tree → List Decimal.Double
  | .number (.real x) => [x]
  | .array items => itemReals items
  | .object members => memberReals members
  | _ => []

def itemReals : List Tree → List Decimal.Double
  | [] => []
  | item :: rest => item.reals ++ itemReals rest

def memberReals : List (String × Tree) → List Decimal.Double
  | [] => []
  | (_,item) :: rest => item.reals ++ memberReals rest
end

def Exact (t : Tree) : Prop := ∀ x ∈ t.reals, (Number.real x).ReadsBack

instance (t : Tree) : Decidable t.Exact := inferInstanceAs (Decidable (∀ x ∈ t.reals, _))

end Tree

namespace Scan

theorem run_newline (depth : Nat) (rest : List Char) :
    run .between (Tree.newline depth ++ rest) = run .between rest := by
  have blanks : ∀ n, run .between (List.replicate n ' ' ++ rest) = run .between rest := by
    intro n
    induction n with
    | zero => rfl
    | succ n ih => simpa [List.replicate_succ,run,step,start] using ih
  simpa [Tree.newline,run,step,start] using blanks (2 * depth)

theorem newline_ends (depth : Nat) (rest : List Char) : Ends (Tree.newline depth ++ rest) := .inl rfl

mutual
theorem run_pretty : (t : Tree) → (depth : Nat) → Ends rest →
    run .between (t.prettyChars depth ++ rest) = t.tokens ++ run .between rest
  | .null,_,_ => rfl
  | .bool true,_,_ => rfl
  | .bool false,_,_ => rfl
  | .number n,_,ends => run_number n.tokens_text ends
  | .text s,_,_ => run_quote s rest
  | .array [],_,_ => rfl
  | .object [],_,_ => rfl
  | .array (item :: items),depth,_ => by
    have inner := run_items (item :: items) (depth + 1) (newline_ends depth (']' :: rest))
    simpa [Tree.prettyChars,Tree.tokens,run,step,start,run_newline] using inner
  | .object (member :: members),depth,_ => by
    have inner := run_members (member :: members) (depth + 1) (newline_ends depth ('}' :: rest))
    simpa [Tree.prettyChars,Tree.tokens,run,step,start,run_newline] using inner

theorem run_items : (items : List Tree) → (depth : Nat) → Ends rest →
    run .between (Tree.prettyItems depth items ++ rest) = Tree.itemTokens items ++ run .between rest
  | [],_,_ => rfl
  | [item],depth,ends => by
    have first := run_pretty item depth ends
    simpa [Tree.prettyItems,Tree.itemTokens,run_newline] using first
  | item :: second :: items,depth,ends => by
    have comma : Ends (',' :: (Tree.prettyItems depth (second :: items) ++ rest)) := .inr (.inl rfl)
    have first := run_pretty item depth comma
    have others := run_items (second :: items) depth ends
    simpa [Tree.prettyItems,Tree.itemTokens,run_newline,first,run,step,start] using others

theorem run_members : (members : List (String × Tree)) → (depth : Nat) → Ends rest →
    run .between (Tree.prettyMembers depth members ++ rest) = Tree.memberTokens members ++ run .between rest
  | [],_,_ => rfl
  | [(key,item)],depth,ends => by
    have first := run_pretty item depth ends
    simpa [Tree.prettyMembers,Tree.memberTokens,run_newline,run_quote,run,step,start] using first
  | (key,item) :: second :: members,depth,ends => by
    have comma : Ends (',' :: (Tree.prettyMembers depth (second :: members) ++ rest)) := .inr (.inl rfl)
    have first := run_pretty item depth comma
    have others := run_members (second :: members) depth ends
    simpa [Tree.prettyMembers,Tree.memberTokens,run_newline,run_quote,first,run,step,start] using others
end

theorem tokens_pretty (t : Tree) : tokens t.pretty.toList = t.tokens := by
  have ends : Ends [] := trivial
  have printed := run_pretty t 0 ends
  rw [List.append_nil] at printed
  rw [tokens_run,Tree.pretty,String.toList_ofList,printed]
  exact List.append_nil _

end Scan

namespace Node

mutual
-- What the text of a tree reads as: the tree, except for its numbers that read as others.
def reread : Tree → Node
  | .number n => .number n.reread
  | .array items => .array (rereadItems items) true
  | .object members => .object (rereadMembers members) none
  | t => ofTree t

def rereadItems : List Tree → List Node
  | [] => []
  | item :: rest => reread item :: rereadItems rest

def rereadMembers : List (String × Tree) → List (Option String × Node)
  | [] => []
  | (key,item) :: rest => (some key,reread item) :: rereadMembers rest
end

theorem number_exact (n : Number) (exact : (Tree.number n).Exact) : n.reread = some n := by
  cases n with
  | int i range => exact Number.int_reread i range
  | real x => exact Number.reread_of_tokens (exact x (by simp [Tree.reals]))

mutual
theorem reread_exact : (t : Tree) → t.Exact → reread t = ofTree t
  | .null,_ | .bool _,_ | .text _,_ => rfl
  | .number n,exact => congrArg Node.number (number_exact n exact)
  | .array items,exact => congrArg (Node.array · true) (rereadItems_exact items exact)
  | .object members,exact => congrArg (Node.object · none) (rereadMembers_exact members exact)

theorem rereadItems_exact : (items : List Tree) → (Tree.array items).Exact → rereadItems items = ofItems items
  | [],_ => rfl
  | item :: rest,exact => by
    have first := reread_exact item fun x member => exact x (List.mem_append_left _ member)
    have others := rereadItems_exact rest fun x member => exact x (List.mem_append_right _ member)
    rw [rereadItems,ofItems,first,others]

theorem rereadMembers_exact : (members : List (String × Tree)) → (Tree.object members).Exact →
    rereadMembers members = ofMembers members
  | [],_ => rfl
  | (key,item) :: rest,exact => by
    have first := reread_exact item fun x member => exact x (List.mem_append_left _ member)
    have others := rereadMembers_exact rest fun x member => exact x (List.mem_append_right _ member)
    rw [rereadMembers,ofMembers,first,others]
end

end Node

namespace Node.Progress

theorem feed_due (due : valueDue frames = true) :
    feed (.within frames) .null = supply frames .null ∧
    (∀ b, feed (.within frames) (.bool b) = supply frames (.bool b)) ∧
    (∀ n, feed (.within frames) (.number n) = supply frames (.number n)) ∧
    (∀ s, feed (.within frames) (.text s) = supply frames (.text s)) ∧
    feed (.within frames) .arrayStart = .within (.array [] .first :: frames) ∧
    feed (.within frames) .objectStart = .within (.object [] .first :: frames) := by
  match frames,due with
  | [],_ => simp [feed,valueDue]
  | .array _ .first :: _,_ | .array _ .comma :: _,_ => simp [feed,valueDue]
  | .object _ (.colon _) :: _,_ => simp [feed,valueDue]

theorem feed_key (start : place = .first ∨ place = .comma) :
    feed (.within (.object done place :: frames)) (.text k) = .within (.object done (.key k) :: frames) := by
  rcases start with rfl | rfl <;> rfl

theorem feed_colon : feed (.within (.object done (.key k) :: frames)) .colon =
    .within (.object done (.colon k) :: frames) := rfl

theorem feed_comma_item : feed (.within (.array done .item :: frames)) .comma =
    .within (.array done .comma :: frames) := rfl

theorem feed_comma_member : feed (.within (.object done .member :: frames)) .comma =
    .within (.object done .comma :: frames) := rfl

theorem feed_arrayEnd : feed (.within (.array done .item :: frames)) .arrayEnd =
    supply frames (.array done.reverse true) := rfl

theorem feed_objectEnd : feed (.within (.object done .member :: frames)) .objectEnd =
    supply frames (.object done.reverse none) := rfl

mutual
theorem feed_tree : (t : Tree) → (frames : List Frame) → valueDue frames = true →
    t.tokens.foldl feed (.within frames) = supply frames (reread t)
  | .null,frames,due => (feed_due due).1
  | .bool b,frames,due => (feed_due due).2.1 b
  | .number n,frames,due => (feed_due due).2.2.1 n.reread
  | .text s,frames,due => (feed_due due).2.2.2.1 s
  | .array [],frames,due => by
    simp [Tree.tokens,Tree.itemTokens,(feed_due due).2.2.2.2.1]
    rfl
  | .array (item :: items),frames,due => by
    have inner := feed_items (item :: items) [] .first frames (List.cons_ne_nil _ _) rfl
    simp only [Tree.tokens,List.cons_append,List.foldl_cons,List.foldl_append,(feed_due due).2.2.2.2.1,
      inner,List.foldl_nil,feed_arrayEnd]
    simp [reread]
  | .object [],frames,due => by
    simp [Tree.tokens,Tree.memberTokens,(feed_due due).2.2.2.2.2]
    rfl
  | .object (member :: members),frames,due => by
    have inner := feed_members (member :: members) [] .first frames (List.cons_ne_nil _ _) (.inl rfl)
    simp only [Tree.tokens,List.cons_append,List.foldl_cons,List.foldl_append,(feed_due due).2.2.2.2.2,
      inner,List.foldl_nil,feed_objectEnd]
    simp [reread]

theorem feed_items : (items : List Tree) → (done : List Node) → (place : ArrayPlace) →
    (frames : List Frame) → items ≠ [] → valueDue (.array done place :: frames) = true →
    (Tree.itemTokens items).foldl feed (.within (.array done place :: frames)) =
      .within (.array ((rereadItems items).reverse ++ done) .item :: frames)
  | [],_,_,_,nonempty,_ => absurd rfl nonempty
  | [item],done,place,frames,_,due => by
    simpa [Tree.itemTokens,rereadItems,supply] using feed_tree item (.array done place :: frames) due
  | item :: second :: items,done,place,frames,_,due => by
    have first := feed_tree item (.array done place :: frames) due
    have others := feed_items (second :: items) (reread item :: done) .comma frames
      (List.cons_ne_nil _ _) rfl
    simp only [Tree.itemTokens,List.foldl_append,List.foldl_cons,first,supply,feed_comma_item,others]
    simp [rereadItems]

theorem feed_members : (members : List (String × Tree)) → (done : List (Option String × Node)) →
    (place : ObjectPlace) → (frames : List Frame) → members ≠ [] → place = .first ∨ place = .comma →
    (Tree.memberTokens members).foldl feed (.within (.object done place :: frames)) =
      .within (.object ((rereadMembers members).reverse ++ done) .member :: frames)
  | [],_,_,_,nonempty,_ => absurd rfl nonempty
  | [(key,item)],done,place,frames,_,start => by
    have value := feed_tree item (.object done (.colon (some key)) :: frames) rfl
    simp [Tree.memberTokens,feed_key start,feed_colon,value,supply,rereadMembers]
  | (key,item) :: second :: members,done,place,frames,_,start => by
    have value := feed_tree item (.object done (.colon (some key)) :: frames) rfl
    have others := feed_members (second :: members) ((some key,reread item) :: done) .comma frames
      (List.cons_ne_nil _ _) (.inr rfl)
    simp only [Tree.memberTokens,List.foldl_append,List.foldl_cons,List.cons_append,feed_key start,
      feed_colon,value,supply,feed_comma_member,others]
    simp [rereadMembers]
end

end Node.Progress

theorem Node.read_printed (t : Tree) : Node.read t.pretty = (reread t,true) := by
  simp [Node.read,Scan.tokens_pretty t,Progress.feed_tree t [] rfl,Progress.supply,Progress.result]

theorem Node.read_pretty (t : Tree) (exact : t.Exact) : Node.read t.pretty = (.ofTree t,true) := by
  rw [read_printed,reread_exact t exact]

end ModelCatalog.Json
