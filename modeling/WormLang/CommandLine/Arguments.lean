import WormLang.Number.Reading
import WormLang.Text.Quoted

/-!
Arguments of a command: options, one operand, and what nobody asked for.

Options may stand anywhere, before and behind the operand. A long option may be shortened to any beginning
that no other option shares, and may carry its value behind an equals sign; short flags may be joined. What
follows `--` is never an option. A value that starts with a dash is taken only if it looks like a negative
number.
-/
namespace WormLang.CommandLine

/-- What the value of an option must be. -/
inductive ValueKind where
  | whole
  | number
  deriving DecidableEq, Repr

namespace ValueKind

def name : ValueKind → String
  | whole => "int"
  | number => "float"

def accepts (s : String) : ValueKind → Bool
  | whole => (Number.readInt? s).isSome
  | number => (Number.read? s).isSome

end ValueKind

/-- An option by its names, the short one first, and the kind of its value if it takes one. -/
structure Flag where
  names : List String
  value? : Option ValueKind := none
  deriving DecidableEq, Repr

def Flag.label (f : Flag) : String := "/".intercalate f.names

def helpFlag : Flag := { names := ["-h", "--help"] }

/-- An option as it was found in the arguments: by one of its names, perhaps with a value joined to it,
directly or by an equals sign. -/
structure Use where
  flag : Flag
  name : String
  joined? : Option String := none
  deriving DecidableEq, Repr

/-- What an argument looks like. -/
inductive Shape where
  | operand
  /-- The first `--`. -/
  | separator
  | option (use : Use)
  | unknownOption
  deriving DecidableEq, Repr

/-- What ends the reading of arguments early. -/
inductive Halt where
  | help
  | refused (text : String)
  deriving DecidableEq, Repr

def refuse (f : Flag) (text : String) : Halt := .refused ("argument " ++ f.label ++ ": " ++ text)

/-- A text cut at its first equals sign; the second part is absent if there is none. -/
def cutAtEquals (cs : List Char) : List Char × Option (List Char) :=
  match cs.dropWhile (· != '=') with
  | [] => (cs, none)
  | _ :: value => (cs.takeWhile (· != '='), some value)

/-- Whether a character is a decimal digit of some script. -/
def isAnyDigit (c : Char) : Bool := c.isDigit || (Text.digitValue? c).isSome

/-- A text without the line feed at its end, if it ends in one. -/
def dropLineEnd (cs : List Char) : List Char := if cs.getLast? == some '\n' then cs.dropLast else cs

/-- Whether a text looks like a negative number: a dash with digits, or with a point and digits behind it. A line
feed at the end does not count. -/
def looksNegative (cs : List Char) : Bool :=
  match dropLineEnd cs with
  | '-' :: rest =>
    match rest.dropWhile isAnyDigit with
    | [] => !rest.isEmpty
    | '.' :: places => !places.isEmpty && places.all isAnyDigit
    | _ => false
  | _ => false

def named? (flags : List Flag) (name : String) : Option Flag := flags.find? (·.names.contains name)

/-- Every option with each of its names. -/
def namePairs (flags : List Flag) : List (Flag × String) :=
  flags.flatMap fun f => f.names.map (f, ·)

/-- The options that a shortened or joined spelling can mean. -/
def candidates (flags : List Flag) (cs : List Char) : List Use :=
  match cs with
  | '-' :: '-' :: _ =>
    let (start, value?) := cutAtEquals cs
    (namePairs flags).filterMap fun (flag, name) =>
      if start.isPrefixOf name.toList then
        some { flag, name, joined? := value?.map String.ofList }
      else none
  | _ =>
    (namePairs flags).filterMap fun (flag, name) =>
      if name.toList == cs.take 2 then some { flag, name, joined? := some (String.ofList (cs.drop 2)) }
      else if cs.isPrefixOf name.toList then some { flag, name }
      else none

/-- The shape of an argument that is not behind a separator. -/
def shapeOf (flags : List Flag) (arg : String) : Except Halt Shape :=
  let cs := arg.toList
  match cs with
  | '-' :: _ :: _ =>
    match named? flags arg with
    | some flag => .ok (.option { flag, name := arg })
    | none =>
      let (start, value?) := cutAtEquals cs
      match value?, named? flags (String.ofList start) with
      | some value, some flag =>
        .ok (.option { flag, name := String.ofList start, joined? := some (String.ofList value) })
      | _, _ =>
        match candidates flags cs with
        | [use] => .ok (.option use)
        | [] => .ok (if looksNegative cs || cs.contains ' ' then .operand else .unknownOption)
        | many =>
          .error (.refused ("ambiguous option: " ++ arg ++ " could match " ++
            ", ".intercalate (many.map (·.name))))
  | _ => .ok .operand

def shapes (flags : List Flag) : List String → Except Halt (List (String × Shape))
  | [] => .ok []
  | arg :: rest =>
    if arg == "--" then .ok ((arg, .separator) :: rest.map (·, .operand))
    else do
      let shape ← shapeOf flags arg
      return (arg, shape) :: (← shapes flags rest)

/-- What was read: options in order with their values, the operand, and arguments that nobody asked for. -/
structure Parsed where
  settings : List (Flag × String) := []
  operand? : Option String := none
  extras : List String := []
  deriving DecidableEq, Repr

namespace Parsed

/-- Keep an option; asking for help ends the reading. -/
def set (p : Parsed) (flag : Flag) (value : String) : Except Halt Parsed :=
  if flag = helpFlag then .error .help else .ok { p with settings := p.settings ++ [(flag, value)] }

/-- Keep an option with a value, which must be of the option's kind. -/
def setValue (p : Parsed) (flag : Flag) (kind : ValueKind) (value : String) : Except Halt Parsed :=
  if kind.accepts value then p.set flag value
  else .error (refuse flag ("invalid " ++ kind.name ++ " value: " ++ Text.quoted value))

def addExtra (p : Parsed) (arg : String) : Parsed := { p with extras := p.extras ++ [arg] }

def value? (p : Parsed) (flag : Flag) : Option String :=
  (p.settings.reverse.find? (·.1 = flag)).map Prod.snd

def isSet (p : Parsed) (flag : Flag) : Bool := (p.value? flag).isSome

end Parsed

def ignoredValue (f : Flag) (value : List Char) : Halt :=
  refuse f ("ignored explicit argument " ++ Text.quoted (String.ofList value))

/-- Short flags that are joined behind another one: every letter must be one of them. -/
def joinedFlags (flags : List Flag) (flag : Flag) : List Char → Except Halt (List Flag)
  | [] => .ok [flag]
  | c :: rest =>
    match named? flags (String.ofList ['-', c]) with
    | none => .error (ignoredValue flag (c :: rest))
    | some next => do return flag :: (← joinedFlags flags next rest)

/-- The options that one argument without a value of its own stands for. -/
def usedFlags (flags : List Flag) (use : Use) : Except Halt (List Flag) :=
  match use.joined? with
  | none => .ok [use.flag]
  | some value =>
    if value.isEmpty || use.name.toList.take 2 == ['-', '-'] then .error (ignoredValue use.flag value.toList)
    else joinedFlags flags use.flag value.toList

/-- Keep an option that carries its value, if any, with it. -/
def applyUse (flags : List Flag) (p : Parsed) (use : Use) : Except Halt Parsed :=
  match use.flag.value?, use.joined? with
  | some kind, some value => p.setValue use.flag kind value
  | some _, none => .error (refuse use.flag "expected one argument")
  | none, _ => do (← usedFlags flags use).foldlM (fun p flag => p.set flag "") p

/-- Read arguments by their shapes. -/
def readShapes (flags : List Flag) (p : Parsed) : List (String × Shape) → Except Halt Parsed
  | [] => .ok p
  | (arg, .unknownOption) :: rest => readShapes flags (p.addExtra arg) rest
  | (_, .option { flag, name := _, joined? := none }) :: (value, .operand) :: rest =>
    match flag.value? with
    | some kind => do readShapes flags (← p.setValue flag kind value) rest
    | none => do readShapes flags (← p.set flag "") ((value, .operand) :: rest)
  | (_, .option use) :: rest => do readShapes flags (← applyUse flags p use) rest
  | (sep, .separator) :: (arg, .operand) :: rest =>
    match p.operand? with
    | none => readShapes flags { p with operand? := some arg } rest
    | some _ => readShapes flags (p.addExtra sep) ((arg, .operand) :: rest)
  | (arg, .operand) :: (sep, .separator) :: rest =>
    match p.operand? with
    | none => readShapes flags { p with operand? := some arg } rest
    | some _ => readShapes flags (p.addExtra arg) ((sep, .separator) :: rest)
  | (arg, .operand) :: rest =>
    match p.operand? with
    | none => readShapes flags { p with operand? := some arg } rest
    | some _ => readShapes flags (p.addExtra arg) rest
  | (sep, .separator) :: rest => readShapes flags (p.addExtra sep) rest

/-- Read the arguments of a command with one operand, which must be there. -/
def readArguments (flags : List Flag) (operand : String) (args : List String) : Except Halt Parsed := do
  let p ← readShapes flags {} (← shapes flags args)
  if p.operand?.isNone then
    throw (.refused ("the following arguments are required: " ++ operand))
  return p

end WormLang.CommandLine
