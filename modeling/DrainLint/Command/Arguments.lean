import DrainLint.Text.Digit
import DrainLint.Text.Quoted

/-! # Command line arguments

Arguments are read as options and operands.  An option may be shortened as long as only one has that
start, a value may follow it or stand after an equals sign, and options of one letter may share one
dash, also after an equals sign.  After two dashes nothing is an option.

- `Flag` and `Interface`: what a command takes;
- `Interface.tokens`: what each argument is;
- `Interface.read`: the options that are used and the operands, in order.
-/

namespace DrainLint.Command

/-! ## What a command takes -/

/-- An option: its names, whether it takes a value and which ones; an option that takes any value
has no choices.  The arguments after one that ends the reading are not looked at. -/
structure Flag where
  names : List String
  takesValue : Bool := false
  choices : List String := []
  endsReading : Bool := false
  deriving DecidableEq

/-- The operands of a command: none, one, at least one, or a command of its own with everything
after it. -/
inductive Operands where
  | none
  | one (name : String)
  | many (name : String)
  | command (name : String) (choices : List String)

/-- What a command takes. -/
structure Interface where
  flags : List Flag
  operands : Operands

/-! ## Faults -/

/-- Why arguments cannot be read. -/
inductive Fault where
  | ambiguous (text : String) (names : List String)
  | valueExpected (argument : String)
  | valueIgnored (argument value : String)
  | invalidChoice (argument value : String) (choices : List String)
  | operandRequired (name : String)
  | unrecognized (texts : List String)
  deriving DecidableEq

def Fault.message : Fault → String
  | ambiguous text names => s!"ambiguous option: {text} could match " ++ ", ".intercalate names
  | valueExpected argument => s!"argument {argument}: expected one argument"
  | valueIgnored argument value =>
    s!"argument {argument}: ignored explicit argument {Text.quoted value}"
  | invalidChoice argument value choices =>
    let listed := ", ".intercalate (choices.map Text.quoted)
    s!"argument {argument}: invalid choice: {Text.quoted value} (choose from {listed})"
  | operandRequired name => s!"the following arguments are required: {name}"
  | unrecognized texts => "unrecognized arguments: " ++ " ".intercalate texts

def Flag.title (flag : Flag) : String := "/".intercalate flag.names

/-! ## Tokens -/

/-- What an argument is: an operand, two dashes, an option by one of its names and what is attached
to it in the same argument, or something that looks like an option. -/
inductive Token where
  | word (text : String)
  | dashes
  | flag (text : String) (flag : Flag) (name : String) (attached? : Option String)
  | unknown (text : String)

def Token.text : Token → String
  | word text | flag text .. | unknown text => text
  | dashes => "--"

/-- Whether an argument is a negative number; a newline may follow it. -/
def isNegativeNumber (text : String) : Bool :=
  match text.toList with
  | '-' :: cs =>
    let body := if cs.getLast? = some '\n' then cs.dropLast else cs
    let fraction := body.dropWhile fun c => (Text.decimalDigit? c).isSome
    match fraction with
    | [] => !body.isEmpty
    | '.' :: places => !places.isEmpty && places.all fun c => (Text.decimalDigit? c).isSome
    | _ => false
  | _ => false

namespace Interface

/-- The names of all options, each with its option. -/
def names (interface : Interface) : List (String × Flag) :=
  interface.flags.flatMap fun flag => flag.names.map fun name => (name, flag)

/-- A text up to the first equals sign, and what stands after it. -/
def splitAtEquals (text : String) : String × Option String :=
  let cs := text.toList
  let rest := cs.dropWhile (· != '=')
  (String.ofList (cs.takeWhile (· != '=')),
    if rest.isEmpty then none else some (String.ofList (rest.drop 1)))

def longMatches (interface : Interface) (text : String) : List (String × Flag × Option String) :=
  let (start, value?) := splitAtEquals text
  interface.names.filterMap fun (name, flag) =>
    if start.isPrefixOf name then some (name, flag, value?) else none

def shortMatches (interface : Interface) (text : String) : List (String × Flag × Option String) :=
  let letter := String.ofList (text.toList.take 2)
  interface.names.filterMap fun (name, flag) =>
    if name = letter then some (name, flag, some (String.ofList (text.toList.drop 2)))
    else if text.isPrefixOf name then some (name, flag, none)
    else none

/-- What an argument is that starts with a dash and is not the name of an option. -/
def dashedToken (interface : Interface) (text : String) : Except Fault Token :=
  let candidates :=
    if "--".isPrefixOf text then interface.longMatches text else interface.shortMatches text
  match candidates with
  | [(name, flag, attached?)] => .ok (.flag text flag name attached?)
  | _ :: _ :: _ => .error (.ambiguous text (candidates.map Prod.fst))
  | [] =>
    if isNegativeNumber text || text.toList.contains ' ' then .ok (.word text)
    else .ok (.unknown text)

def token (interface : Interface) (text : String) : Except Fault Token :=
  if !"-".isPrefixOf text then .ok (.word text)
  else match interface.names.lookup text with
    | some flag => .ok (.flag text flag text none)
    | none =>
      if text = "-" then .ok (.word text)
      else
        let (name, value?) := splitAtEquals text
        match interface.names.lookup name, value? with
        | some flag, some value => .ok (.flag text flag name (some value))
        | _, _ => interface.dashedToken text

def tokens (interface : Interface) : List String → Except Fault (List Token)
  | [] => .ok []
  | "--" :: rest => .ok (.dashes :: rest.map .word)
  | text :: rest => do
    let first ← interface.token text
    let others ← interface.tokens rest
    return first :: others

end Interface

/-! ## Readings -/

/-- An option that is used, with its value if it takes one and has one. -/
structure Use where
  flag : Flag
  value? : Option String := none
  deriving DecidableEq

/-- The use of an option that takes a value, which must be one of the choices if there are any. -/
def Use.check (use : Use) : Except Fault Use :=
  match use.value? with
  | none => .ok use
  | some value =>
    if use.flag.choices.isEmpty || use.flag.choices.contains value then .ok use
    else .error (.invalidChoice use.flag.title value use.flag.choices)

/-- The use of an option that takes a value with what is attached to it; two dashes are no value. -/
def Use.ofAttached (flag : Flag) (attached : String) : Use :=
  ⟨flag, if attached = "--" then none else some attached⟩

/-- What one argument says: options that are used, and an option that needs the next argument as its
value. -/
structure Share where
  uses : List Use := []
  waiting? : Option Flag := none

namespace Interface

def bare (flag : Flag) : Share :=
  if flag.takesValue then { waiting? := some flag } else { uses := [⟨flag, none⟩] }

/-- What an option of one letter says with what is attached to it: its value, or more letters, each
an option. -/
def letters (interface : Interface) (flag : Flag) (attached : List Char) : Except Fault Share :=
  if flag.takesValue then .ok { uses := [.ofAttached flag (String.ofList attached)] }
  else match attached with
    | [] => .error (.valueIgnored flag.title "")
    | letter :: rest =>
      match interface.names.lookup (String.ofList ['-', letter]) with
      | none => .error (.valueIgnored flag.title (String.ofList attached))
      | some next => do
        let share ← if rest.isEmpty then pure (bare next) else interface.letters next rest
        return { share with uses := ⟨flag, none⟩ :: share.uses }

/-- What an option says, by one of its names and with what is attached to it. -/
def share (interface : Interface) (flag : Flag) (name : String) :
    Option String → Except Fault Share
  | none => .ok (bare flag)
  | some attached =>
    if !"--".isPrefixOf name then interface.letters flag attached.toList
    else if flag.takesValue then .ok { uses := [.ofAttached flag attached] }
    else .error (.valueIgnored flag.title attached)

end Interface

/-- What arguments say: the options in the order of their use, the operands and what is neither.  An
option that ends the reading is the last one. -/
structure Reading where
  uses : List Use := []
  operands : List String := []
  extras : List String := []
  deriving DecidableEq

namespace Reading

def addOperand (reading : Reading) (text : String) : Reading :=
  { reading with operands := reading.operands ++ [text] }

def addExtras (reading : Reading) (texts : List String) : Reading :=
  { reading with extras := reading.extras ++ texts }

def ending? (reading : Reading) : Option Flag :=
  (reading.uses.find? fun use => use.flag.endsReading).map Use.flag

/-- The reading with more options, up to one that ends it. -/
def addUses (reading : Reading) : List Use → Except Fault Reading
  | [] => .ok reading
  | use :: rest => do
    let use ← use.check
    let next := { reading with uses := reading.uses ++ [use] }
    if use.flag.endsReading then return next else next.addUses rest

end Reading

/-- Where a reading stands: before the operands, among them or after them. -/
inductive Stage where
  | before
  | among
  | after
  deriving DecidableEq

def Stage.next : Stage → Stage
  | before => before
  | among | after => after

namespace Interface

/-- The reading with what some tokens say.  Operands stand together: after an option there are no
more of them. -/
def readTokens (interface : Interface) (stage : Stage) (reading : Reading) :
    List Token → Except Fault Reading
  | [] => .ok reading
  | .unknown text :: rest => interface.readTokens stage.next (reading.addExtras [text]) rest
  | .flag _ flag name attached? :: rest =>
    match interface.share flag name attached?, rest with
    | .error fault, _ => .error fault
    | .ok ⟨uses, none⟩, rest => do
      let next ← reading.addUses uses
      if next.ending?.isSome then return next else interface.readTokens stage.next next rest
    | .ok ⟨uses, some waiting⟩, .word value :: rest => do
      let next ← reading.addUses (uses ++ [⟨waiting, some value⟩])
      if next.ending?.isSome then return next else interface.readTokens stage.next next rest
    | .ok ⟨_, some waiting⟩, _ => .error (.valueExpected waiting.title)
  | .dashes :: rest =>
    -- The dashes belong to the operands that follow them; where no operand can follow, they are
    -- left over.
    match interface.operands, stage with
    | .many _, .among => interface.readTokens .among reading rest
    | .one _, .among => interface.readTokens .after reading rest
    | .command name choices, .before =>
      if rest.isEmpty then .ok (reading.addExtras ["--"])
      else .error (.invalidChoice name "--" choices)
    | .one _, .before | .many _, .before =>
      if rest.isEmpty then .ok (reading.addExtras ["--"])
      else interface.readTokens .before reading rest
    | _, _ => interface.readTokens .after (reading.addExtras ["--"]) rest
  | .word text :: rest =>
    match interface.operands, stage with
    | .one _, .before | .many _, .before | .many _, .among =>
      interface.readTokens .among (reading.addOperand text) rest
    | .command name choices, .before =>
      if choices.contains text then
        .ok { reading with operands := text :: rest.map Token.text }
      else .error (.invalidChoice name text choices)
    | _, _ => interface.readTokens .after (reading.addExtras [text]) rest

def missing? (interface : Interface) (reading : Reading) : Option String :=
  match interface.operands with
  | .one name | .many name => if reading.operands.isEmpty then some name else none
  | _ => none

def read (interface : Interface) (args : List String) : Except Fault Reading := do
  let tokens ← interface.tokens args
  let reading ← interface.readTokens .before {} tokens
  match reading.ending?, interface.missing? reading with
  | none, some name => throw (.operandRequired name)
  | _, _ => return reading

end Interface
end DrainLint.Command
