import WormLang.CommandLine.Arguments
import WormLang.CommandLine.Folder
import WormLang.CommandLine.Grid
import WormLang.CommandLine.Markup
import WormLang.Session

/-!
The command line: `check` reads a program and shows what was understood, `run` tries it with a worm alone in
the sandbox, turn after turn. A command is read from the arguments, then performed on the text of its source
file; what it prints is a list of lines.
-/
namespace WormLang.CommandLine

def verboseFlag : Flag := { names := ["-v", "--verbose"] }

def dumpFlag : Flag := { names := ["--dump"] }

def turnsFlag : Flag := { names := ["--turns"], value? := some .whole }

def pointsFlag : Flag := { names := ["--ap"], value? := some .number }

def budgetFlag : Flag := { names := ["--max-statements"], value? := some .whole }

inductive Command where
  | check (source : String) (verbose dump : Bool)
  | run (source : String) (verbose : Bool) (turns : Int) (points : Float) (maxStatements : Option Int)
  deriving Inhabited

def Command.source : Command → String
  | check source .. | run source .. => source

inductive Ending where
  /-- A status, and the last line of complaint if there is one. -/
  | exit (status : Nat) (complaint : String)
  /-- A fault that is not a program's. -/
  | fault (f : Fault)

/-- Everything that a command does. -/
structure Report where
  lines : List String := []
  ending : Ending := .exit 0 ""

/-- The report of a command that was not understood; the speaker is the part that refuses. -/
def complaint (speaker text : String) : Report :=
  { ending := .exit 2 (speaker ++ ": error: " ++ text) }

def programName : String := "wormscript"

/-- The report of a halt of the part that reads a command's arguments. -/
def haltReport (speaker : String) : Halt → Report
  | .help => {}
  | .refused text => complaint speaker text

def commandNames : List String := ["check", "run"]

def readCommand (name : String) (args : List String) : Except Report (Command × List String) :=
  let speaker := programName ++ " " ++ name
  match name with
  | "check" =>
    match readArguments [helpFlag, verboseFlag, dumpFlag] "source" args with
    | .error halt => .error (haltReport speaker halt)
    | .ok p => .ok (.check (p.operand?.getD "") (p.isSet verboseFlag) (p.isSet dumpFlag), p.extras)
  | "run" =>
    match readArguments [helpFlag, verboseFlag, turnsFlag, pointsFlag, budgetFlag] "source" args with
    | .error halt => .error (haltReport speaker halt)
    | .ok p =>
      let turns := ((p.value? turnsFlag).bind Number.readInt?).getD 1
      let points := ((p.value? pointsFlag).bind Number.read?).getD 100.0
      let budget? := (p.value? budgetFlag).bind Number.readInt?
      .ok (.run (p.operand?.getD "") (p.isSet verboseFlag) turns points budget?, p.extras)
  | other =>
    .error (complaint programName ("argument command: invalid choice: " ++ Text.quoted other ++
      " (choose from " ++ ", ".intercalate (commandNames.map Text.quoted) ++ ")"))

/-- Split arguments into unknown options in front, the name of a command, and its own arguments. The only option
in front of a command is the one that asks for help. -/
def splitCommand (extras : List String) : List (String × Shape) → Except Halt (List String × String × List String)
  | (arg, .unknownOption) :: rest => splitCommand (extras ++ [arg]) rest
  | (_, .option use) :: _ => do
    let _ ← usedFlags [helpFlag] use
    throw .help
  | (_, .separator) :: [] | [] => .error (.refused "the following arguments are required: command")
  | (arg, .separator) :: rest | (arg, .operand) :: rest => .ok (extras, arg, rest.map Prod.fst)

def read (args : List String) : Except Report Command := do
  let (extras, name, rest) ← (shapes [helpFlag] args >>= splitCommand []).mapError (haltReport programName)
  let (command, more) ← readCommand name rest
  match extras ++ more with
  | [] => return command
  | unknown => throw (complaint programName ("unrecognized arguments: " ++ " ".intercalate unknown))

/-- A text with every kind of line end written as a line feed. -/
def unifyLines : List Char → List Char
  | '\r' :: '\n' :: rest => '\n' :: unifyLines rest
  | '\r' :: rest => '\n' :: unifyLines rest
  | c :: rest => c :: unifyLines rest
  | [] => []

/-- The debug log, if it is asked for. -/
def logLines (verbose : Bool) (log : Log) : List String :=
  if verbose then log.toList.map fun n => "DEBUG    " ++ n.line else []

/-- Marked-up lines as the console shows them, up to the first one that it cannot show. -/
def printLines : List String → Report
  | [] => {}
  | line :: rest =>
    match render line with
    | .ok shown => { printLines rest with lines := shown :: (printLines rest).lines }
    | .error f => { ending := .fault f }

/-- One report behind another, unless the first one ends early. -/
def Report.followedBy (r later : Report) : Report :=
  match r.ending with
  | .exit 0 _ => { later with lines := r.lines ++ later.lines }
  | _ => r

def faultLine (source : String) (f : Fault) : String :=
  "[red]" ++ f.kind.name ++ "[/red] " ++ source ++ ": " ++ escape f.text

/-- Read a program, or report why there is none. -/
def load (source text : String) (verbose : Bool) (handler? : Option HandlerId) (maxStatements : Option Int) :
    Except Report Program :=
  let text := String.ofList (unifyLines text.toList)
  match Program.parse text (some source) handler? (checkedBudget maxStatements) with
  | .ok p => .ok p
  | .error (.fault f) => .error { ending := .fault f }
  | .error (.rejected faults log) =>
    let about : Report := { lines := logLines verbose log }
    let summary : Report := { lines := [toString faults.length ++ " error(s)"], ending := .exit 1 "" }
    .error (about.followedBy ((printLines (faults.map (faultLine source))).followedBy summary))

/-- The table of a program's variables; nothing if there are none. -/
def variableLines (p : Program) : List String :=
  let row (entry : String × Variable) :=
    [entry.1, entry.2.ty.keyword, Id.run (entry.2.value.display (fun _ => "") fun _ => pure "")]
  if p.globals.size = 0 then [] else drawTable ["variable", "type", "initial"] (p.globals.entries.map row)

def splitLines (s : String) : List String := s.splitOn "\n"

def checkReport (source : String) (dump : Bool) (p : Program) : Report :=
  let table := variableLines p
  match if dump then p.unparse.map splitLines else .ok [] with
  | .error f => { lines := table, ending := .fault f }
  | .ok text =>
    let shown : Report := { lines := table ++ text }
    if p.isWellFormed then shown.followedBy (printLines ["[green]ok[/green] " ++ source])
    else shown.followedBy { lines := ["foreach body contains actions"], ending := .exit 1 "" }

/-- A deed with its measure, as a report shows it. -/
def deedLine : Deed → String
  | .turn angle => "  turn " ++ Number.reportText angle
  | .fire power => "  fire " ++ intText power
  | deed => "  " ++ deed.word

/-- The lines about one turn that ended well. -/
def turnLines (turn : Nat) (points : Float) (p : Program) (r : Records) : List String :=
  let status := if p.isFinished then "finished" else "suspended"
  ["turn " ++ toString turn ++ " " ++ status ++ ", " ++ intText p.remainingBudget ++ " statements left, " ++
      Number.reportText points ++ " AP left"] ++
    r.actions.toList.map (fun record => deedLine record.deed) ++
    r.refused.toList.map (fun record => "  " ++ record.deed.word ++ " refused") ++
    r.texts.map ("  > " ++ ·)

/-- The only worm of a trial. -/
def trialWorm : EntityId := ⟨0⟩

def trialArena (points : Float) : Except Fault Arena := do
  let worm ← Worm.make 0.0 0.0 0.0 0.5 100.0 points none "self"
  return { beings := #[.worm worm], members := [trialWorm] }

def trialPoints (s : Stage Sandbox) : Float :=
  match s.host.arena.being trialWorm with
  | .worm w => w.actionPoints
  | _ => 0.0

/-- The program and its sandbox at the start of a turn: all points again, and nothing remembered. -/
def startTurn (s : Stage Sandbox) : Except Fault (Stage Sandbox) := do
  let arena ← s.host.arena.startTurn trialWorm
  return { s with host := { arena, keeper := ← s.host.keeper.clear }, log := #[] }

/-- Run turns, the first of them with a given number. A fault of the program ends the trial with a line about it;
any other fault is not the program's. -/
def runTurns (verbose : Bool) (turn : Nat) (s : Stage Sandbox) : (count : Nat) → Report
  | 0 => {}
  | count + 1 =>
    match startTurn s with
    | .error f => { ending := .fault f }
    | .ok s =>
      match Stage.run Sandbox.game s with
      | (.error f, s) =>
        if f.kind.isLocated then
          { lines := logLines verbose s.log ++
              ["turn " ++ toString turn ++ ": " ++ f.kind.name ++ " " ++ f.text], ending := .exit 1 "" }
        else { lines := logLines verbose s.log, ending := .fault f }
      | (.ok (), s) =>
        let lines := logLines verbose s.log ++
          turnLines turn (trialPoints s) s.program (s.host.keeper.records?.getD {})
        let later := runTurns verbose (turn + 1) s count
        { later with lines := lines ++ later.lines }

def runReport (verbose : Bool) (turns : Int) (points : Float) (p : Program) : Report :=
  match (do
    let arena ← trialArena points
    let program ← p.bind (some trialWorm) none
    return ({ program, host := { arena } } : Stage Sandbox)) with
  | .error f => { ending := .fault f }
  | .ok s => runTurns verbose 1 s turns.toNat

/-- Perform a command on the text of its source file; none if there is no such file. -/
def Command.perform (text? : Option String) (c : Command) : Report :=
  match text? with
  | none => complaint programName ("No such file: " ++ c.source)
  | some text =>
    match c with
    | check source verbose dump =>
      match load source text verbose none none with
      | .error report => report
      | .ok p => checkReport source dump p
    | run source verbose turns points maxStatements =>
      match load source text verbose (some Sandbox.handler) maxStatements with
      | .error report => report
      | .ok p => runReport verbose turns points p

def run (folder : Folder) (args : List String) : Report :=
  match read args with
  | .error report => report
  | .ok command =>
    match folder.read command.source with
    | .ok text? => command.perform text?
    | .error f => { ending := .fault f }

def lastLine (complaint : String) : String :=
  (splitLines (String.ofList (Text.trimBlanks complaint.toList))).getLast?.getD ""

end WormLang.CommandLine
