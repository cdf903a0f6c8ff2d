namespace ModelCatalog.Command

structure Opt where
  name : String
  takes : Option (String → Bool) := none
  repeatable : Bool := false

structure Operand where
  accepts : String → Bool := fun _ => true
  required : Bool := true

structure Given where
  options : List (String × String) := []
  operands : List String := []

namespace Given

def all (g : Given) (name : String) : List String :=
  (g.options.filter (fun o => o.1 = name)).map (·.2)

def get? (g : Given) (name : String) : Option String := (g.all name).head?
def has (g : Given) (name : String) : Bool := (g.get? name).isSome

def add? (g : Given) (o : Opt) (value : String) : Option Given :=
  if g.has o.name && !o.repeatable then none
  else some { g with options := g.options ++ [(o.name,value)] }

-- What was given at a place and, as far as that says nothing, before it.
def above (upper lower : Given) : Given :=
  { upper with options := upper.options ++ lower.options.filter fun o => !upper.has o.1 }

end Given

inductive Grammar (α : Type) where
  | group (members : List (String × Grammar α))
  | command (options : List Opt) (operands : List Operand) (meaning : Given → Option α)

structure Anywhere where
  options : List Opt
  short : Char → Option Opt

inductive Aside where
  | version (words : List String)
  | help (words : List String)
  | misuse
deriving DecidableEq

structure Reading (α : Type) where
  place : Grammar α
  words : List String := []
  given : Given := {}
  before : List Given := []
  awaiting : Option Opt := none
  literal : Bool := false

namespace Reading
variable {α : Type}

abbrev Step (α : Type) := Except Aside (Reading α)

def add (r : Reading α) (o : Opt) (value : String) : Step α :=
  match r.given.add? o value with
  | some given => .ok { r with given,awaiting := none }
  | none => .error .misuse

def takeValue (r : Reading α) (o : Opt) (value : String) : Step α :=
  if o.takes.all (· value) then r.add o value else .error .misuse

def takeOperand (r : Reading α) (word : String) : Step α :=
  match r.place with
  | .group _ => .error .misuse
  | .command _ operands _ => match operands[r.given.operands.length]? with
    | some operand =>
      if operand.accepts word then
        .ok { r with given := { r.given with operands := r.given.operands ++ [word] } }
      else .error .misuse
    | none => .error .misuse

def takeLong (anywhere : Anywhere) (r : Reading α) (name : String) (value : Option String) :
    Step α :=
  let here := match r.place with
    | .group _ => []
    | .command options _ _ => options
  match (here ++ anywhere.options).find? (fun o => o.name = name),value with
  | some o,some value => if o.takes.isSome then r.takeValue o value else .error .misuse
  | some o,none => if o.takes.isSome then .ok { r with awaiting := some o } else r.add o ""
  | none,none =>
    if name = "help" then .error (.help r.words)
    else if name = "version" then .error (.version r.words)
    else .error .misuse
  | none,some _ => .error .misuse

def takeShort (anywhere : Anywhere) (r : Reading α) : List Char → Step α
  | [] => .ok r
  | 'h' :: _ => .error (.help r.words)
  | 'V' :: _ => .error (.version r.words)
  | c :: rest => match anywhere.short c with
    | some o => (r.add o "").bind fun r => takeShort anywhere r rest
    | none => .error .misuse

def takePlain (r : Reading α) (word : String) : Step α :=
  match r.place with
  | .group members => match members.lookup word with
    | some place => .ok { place,words := r.words ++ [word],before := r.given :: r.before }
    | none => .error .misuse
  | .command _ _ _ => r.takeOperand word

-- A dash alone is no option but a value or an operand.
def takeWord (anywhere : Anywhere) (r : Reading α) (word : String) : Step α :=
  if r.literal then r.takeOperand word
  else match r.awaiting,word.toList with
    | some _,'-' :: _ :: _ => .error .misuse
    | some o,_ => r.takeValue o word
    | none,['-','-'] => .ok { r with literal := true }
    | none,'-' :: '-' :: chars =>
      match chars.span (· ≠ '=') with
      | (name,[]) => r.takeLong anywhere (String.ofList name) none
      | (name,_ :: value) =>
        r.takeLong anywhere (String.ofList name) (some (String.ofList value))
    | none,'-' :: c :: rest => takeShort anywhere r (c :: rest)
    | none,_ => r.takePlain word

def finish (r : Reading α) : Except Aside α :=
  match r.awaiting,r.place with
  | none,.command _ operands meaning =>
    if (operands.drop r.given.operands.length).any (·.required) then .error .misuse
    else match meaning (r.before.foldl Given.above r.given) with
      | some a => .ok a
      | none => .error .misuse
  | _,_ => .error .misuse

def atGroup (r : Reading α) : Bool :=
  match r.place with
  | .group _ => !r.literal && r.awaiting.isNone
  | .command _ _ _ => false

end Reading

namespace Grammar
variable {α : Type}

def helpFor (asked : List String) : Grammar α → List String → Aside
  | _,[] => .help asked
  | .group members,word :: rest =>
    match members.lookup word with
    | some place => helpFor (asked ++ [word]) place rest
    | none => if word = "help" ∧ rest = [] then .help asked else .misuse
  | .command _ _ _,_ :: _ => .misuse

def readFrom (anywhere : Anywhere) (r : Reading α) : List String → Except Aside α
  | [] => r.finish
  | word :: rest =>
    if word = "help" ∧ r.atGroup then .error (helpFor r.words r.place rest)
    else (r.takeWord anywhere word).bind fun r => readFrom anywhere r rest

def read (grammar : Grammar α) (anywhere : Anywhere) (line : List String) : Except Aside α :=
  readFrom anywhere { place := grammar } line

end Grammar
end ModelCatalog.Command
