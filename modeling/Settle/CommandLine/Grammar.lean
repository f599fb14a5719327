/-!
# The grammar of command lines

Options have a long name and perhaps a letter. A value follows its option as the next argument, or
attached with an equals sign; after a letter it may also be attached as it is, and letters without
values may be grouped. A value that starts with a hyphen must be attached. After two hyphens all
arguments stand for themselves. Arguments are read from left to right, and the first fault counts. A
value that is an argument of its own is looked at only when the reading of its level goes on.
-/

namespace Settle.CommandLine

/-- What an option takes, and how often it may be given. -/
inductive Arity where
  | flag
  | single
  | many
  | help
  | version
  deriving DecidableEq, Repr

structure Opt where
  name : String
  letter : Option Char := none
  arity : Arity := .single
  allows : String → Bool := fun _ => true
  /-- What help says of it, what it calls the value, and what it adds in brackets. -/
  about : String
  label : String := ""
  notes : List String := []
  envVariable : Option String := none
  required : Bool := false

/-- An argument that is told by its place. -/
structure Operand where
  name : String
  allows : String → Bool := fun _ => true
  about : String
  label : String

/-- What may be given at one level of a command line. -/
structure Level where
  task : Option String
  about : String
  options : List Opt
  operands : List Operand

/-- What was given, in order: names with values, which are empty for flags. -/
abbrev Given := List (String × String)

inductive Stop where
  | refused
  | version
  | help (task : Option String)
  deriving DecidableEq, Repr

namespace Given

def values (g : Given) (name : String) : List String :=
  (g.filter fun p => p.1 == name).map (·.2)

def value? (g : Given) (name : String) : Option String := g.lookup name

def has (g : Given) (name : String) : Bool := (g.lookup name).isSome

/-- Adds a value of an option, unless it is not allowed or the option may not be repeated. -/
def add (g : Given) (o : Opt) (value : String) : Except Stop Given :=
  if !o.allows value || (o.arity != .many && g.has o.name) then .error .refused
  else .ok (g ++ [(o.name, value)])

end Given

/-- A value for an option from the next argument, and the arguments after it. -/
def nextValue : List String → Except Stop (String × List String)
  | [] => .error .refused
  | value :: rest =>
    if value.toList.head? = some '-' ∧ value ≠ "-" then .error .refused else .ok (value, rest)

def dropEquals : List Char → List Char
  | '=' :: cs => cs
  | cs => cs

namespace Level

/-- Reads a long option after its two hyphens. A fault of a value from the next argument is within
the result. -/
def readLong (l : Level) (g : Given) (text : List Char) (rest : List String) :
    Except Stop (Except Stop Given × List String) := do
  let name := String.ofList (text.takeWhile (· ≠ '='))
  let attached := text.dropWhile (· ≠ '=')
  match l.options.find? (·.name == name) with
  | none => .error .refused
  | some o =>
    match o.arity with
    | .help => .error (if attached.isEmpty then .help l.task else .refused)
    | .version => .error (if attached.isEmpty then .version else .refused)
    | .flag => if attached.isEmpty then return (.ok (← g.add o ""), rest) else .error .refused
    | .single | .many =>
      match attached with
      | _ :: value => return (.ok (← g.add o (String.ofList value)), rest)
      | [] =>
        let (value, rest) ← nextValue rest
        return (g.add o value, rest)

def readLetters (l : Level) (g : Given) (rest : List String) :
    List Char → Except Stop (Except Stop Given × List String)
  | [] => .ok (.ok g, rest)
  | c :: cs => do
    match l.options.find? (·.letter == some c) with
    | none => .error .refused
    | some o =>
      match o.arity with
      | .help => .error (.help l.task)
      | .version => .error .version
      | .flag => readLetters l (← g.add o "") rest cs
      | .single | .many =>
        if cs.isEmpty then
          let (value, rest) ← nextValue rest
          return (g.add o value, rest)
        else return (.ok (← g.add o (String.ofList (dropEquals cs))), rest)

def readOperand (l : Level) (taken : Nat) (g : Given) (arg : String) : Except Stop Given :=
  match l.operands[taken]? with
  | none => .error .refused
  | some o => if o.allows arg then .ok (g ++ [(o.name, arg)]) else .error .refused

def readOperands (l : Level) (taken : Nat) (g : Given) : List String → Except Stop Given
  | [] => .ok g
  | arg :: rest => do readOperands l (taken + 1) (← l.readOperand taken g arg) rest

inductive Form where
  | hyphens
  | long (text : List Char)
  | letters (text : List Char)
  | operand

def formOf (arg : String) : Form :=
  match arg.toList with
  | ['-', '-'] => .hyphens
  | '-' :: '-' :: text => .long text
  | ['-'] => .operand
  | '-' :: text => .letters text
  | _ => .operand

/-- Reads the arguments of a level, of which there are at most `fuel`. -/
def readFrom (l : Level) (taken : Nat) (g : Given) :
    (fuel : Nat) → List String → Except Stop Given
  | _, [] => .ok g
  | 0, _ => .error .refused
  | fuel + 1, arg :: rest => do
    match formOf arg with
    | .hyphens => l.readOperands taken g rest
    | .long text =>
      let (g, rest) ← l.readLong g text rest
      readFrom l taken (← g) fuel rest
    | .letters text =>
      let (g, rest) ← l.readLetters g rest text
      readFrom l taken (← g) fuel rest
    | .operand => readFrom l (taken + 1) (← l.readOperand taken g arg) fuel rest

/-- Reads all arguments of a level; every operand must be given. -/
def read (l : Level) (args : List String) : Except Stop Given := do
  let g ← l.readFrom 0 [] args.length args
  if l.operands.all fun o => g.has o.name then return g else .error .refused

/-- Reads options up to the first operand, which must be there, and gives the arguments after it.
The last value ahead of it has not been looked at. -/
def readUntilOperand (l : Level) (g : Except Stop Given) :
    (fuel : Nat) → List String → Except Stop (Except Stop Given × String × List String)
  | _, [] => .error .refused
  | 0, _ => .error .refused
  | fuel + 1, arg :: rest => do
    match formOf arg with
    | .hyphens => .error .refused
    | .long text =>
      let (g, rest) ← l.readLong (← g) text rest
      readUntilOperand l g fuel rest
    | .letters text =>
      let (g, rest) ← l.readLetters (← g) rest text
      readUntilOperand l g fuel rest
    | .operand => return (g, arg, rest)

end Level

end Settle.CommandLine
