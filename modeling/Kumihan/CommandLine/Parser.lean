import Kumihan.Text.Digit
import Kumihan.Text.Occurrence
import Kumihan.Text.Quoted

/-!
# Reading arguments

Arguments are flags, which begin with a dash, or positional.  A flag may be cut short
as long as it stays clear which one is meant; flags of one letter may be written
together behind one dash; a value may follow an equals sign.  Two dashes end
the flags.

Positional arguments are taken in runs between flags, as many as fit at a time: one
that may be left out is given up for good when a flag stands where it could have been.

## Main definitions

* `Flag`, `Positional`, `Grammar` — what a command understands.
* `Word`, `classify` — what an argument looks like.
* `Given`, `Reading`, `read` — what is read off a list of arguments.
-/

namespace Kumihan.CommandLine

/-! ### Grammars -/

/-- What a flag asks for. -/
inductive FlagKind
  /-- The help text. -/
  | help
  /-- Nothing but to be given; it may be given more than once. -/
  | switch
  /-- A value. -/
  | value
  deriving DecidableEq, Repr

/-- A flag. -/
structure Flag where
  /-- Its spellings. -/
  spellings : List String
  /-- What it asks for. -/
  kind : FlagKind
  deriving DecidableEq, Repr

/-- How a flag is called in messages. -/
def Flag.name (f : Flag) : String := String.intercalate "/" f.spellings

/-- How many arguments a positional one takes. -/
inductive Arity
  /-- One. -/
  | one
  /-- One or none. -/
  | optional
  /-- All that are left, flags too. -/
  | rest
  deriving DecidableEq, Repr

/-- A positional argument. -/
structure Positional where
  /-- Its name. -/
  name : String
  /-- How many arguments it takes. -/
  arity : Arity
  /-- It cannot be left out. -/
  required : Bool
  deriving DecidableEq, Repr

/-- What a command understands. -/
structure Grammar where
  /-- The name of the command. -/
  program : String
  /-- How it is called. -/
  usage : String
  /-- The help text behind that. -/
  about : String
  /-- The flags. -/
  flags : List Flag
  /-- The positional arguments. -/
  positionals : List Positional
  deriving Repr

namespace Grammar

/-- The flags by their spellings. -/
def spelled (g : Grammar) : List (String × Flag) :=
  g.flags.flatMap fun f => f.spellings.map fun s => (s, f)

/-- The help text. -/
def help (g : Grammar) : String := g.usage ++ "\n" ++ g.about

/-- What is said of arguments that cannot be read. -/
def complaint (g : Grammar) (message : String) : String :=
  g.usage ++ s!"{g.program}: error: {message}\n"

end Grammar

/-! ### Words -/

/-- What a flag has in its own argument. -/
inductive Tail
  /-- A value, behind an equals sign. -/
  | value (text : String)
  /-- What is written behind the letter of a flag: right behind it, or behind an equals sign. -/
  | letters (letters : List Char)
  deriving DecidableEq, Repr

/-- What an argument looks like. -/
inductive Word
  /-- It is positional. -/
  | plain
  /-- It ends the flags. -/
  | dashes
  /-- It is a flag, known or not, and may hold more. -/
  | flag (flag : Option Flag) (tail : Option Tail)
  deriving DecidableEq, Repr

/-- The text begins with another one. -/
def begins (start text : String) : Bool := start.toList.isPrefixOf text.toList

/-- A spelling and the value behind an equals sign. -/
def cutValue (arg : String) : String × Option String :=
  match Text.cutAt? '=' arg.toList with
  | some (spelling, value) => (String.ofList spelling, some (String.ofList value))
  | none => (arg, none)

/-- The flags that an argument with two dashes can mean. -/
def longMeanings (g : Grammar) (arg : String) : List ((String × Flag) × Option Tail) :=
  let (start, value) := cutValue arg
  (g.spelled.filter fun (s, _) => begins start s).map (·, value.map .value)

/-- The flags that an argument with one dash can mean. -/
def shortMeanings (g : Grammar) (arg : String) : List ((String × Flag) × Option Tail) :=
  let letter := String.ofList (arg.toList.take 2)
  g.spelled.filterMap fun (s, f) =>
    if s = letter then some ((s, f), some (.letters (arg.toList.drop 2)))
    else if begins arg s then some ((s, f), none)
    else none

/-- The text is a negative number, in the digits of any script.  A line feed may end it. -/
def isNegativeNumber (arg : String) : Bool :=
  let text := arg.toList
  match if text.getLast? = some '\n' then text.dropLast else text with
  | '-' :: s =>
    match Text.cutAt? '.' s with
    | none => !s.isEmpty && s.all Text.isDecimal
    | some (whole, part) => whole.all Text.isDecimal && !part.isEmpty && part.all Text.isDecimal
  | _ => false

/-- What an equals sign puts behind a spelling of a flag.  What is not empty behind a flag of one
letter counts as written right behind it. -/
def tailOf (spelling value : String) : Tail :=
  if begins "--" spelling || value.isEmpty then .value value else .letters value.toList

/-- What an argument looks like that stands before two dashes, or why that is not
clear. -/
def classify (g : Grammar) (arg : String) : Except String Word :=
  if !begins "-" arg || arg.length = 1 then .ok .plain
  else
    let (start, value) := cutValue arg
    match g.spelled.lookup arg, value.bind fun _ => g.spelled.lookup start with
    | some f, _ => .ok (.flag (some f) none)
    | none, some f => .ok (.flag (some f) (value.map (tailOf start)))
    | none, none =>
      match if begins "--" arg then longMeanings g arg else shortMeanings g arg with
      | [((_, f), tail)] => .ok (.flag (some f) tail)
      | [] =>
        if isNegativeNumber arg || arg.toList.elem ' ' then .ok .plain
        else .ok (.flag none none)
      | several =>
        let names := String.intercalate ", " (several.map (·.1.1))
        .error s!"ambiguous option: {arg} could match {names}"

/-- What the arguments look like.  Behind two dashes all are positional. -/
def classifyAll (g : Grammar) : List String → Except String (List (Word × String))
  | [] => .ok []
  | arg :: args =>
    if arg = "--" then .ok ((.dashes, arg) :: args.map (.plain, ·))
    else do
      let word ← classify g arg
      return (word, arg) :: (← classifyAll g args)

/-! ### Positional arguments -/

/-- The number of marks for the end of the flags that come next. -/
def countDashes (ws : List (Word × String)) : Nat := (ws.takeWhile (·.1 = .dashes)).length

/-- The next argument is positional. -/
def startsPlain (ws : List (Word × String)) : Bool := ws.head?.any (·.1 = .plain)

/-- The number of arguments that a positional one takes of those that come next. -/
def Arity.span (ws : List (Word × String)) : Arity → Option Nat
  | .one =>
    let before := countDashes ws
    if startsPlain (ws.drop before) then
      some (before + 1 + countDashes (ws.drop (before + 1)))
    else none
  | .optional =>
    let before := countDashes ws
    let taken := if startsPlain (ws.drop before) then 1 else 0
    some (before + taken + countDashes (ws.drop (before + taken)))
  | .rest => if startsPlain (ws.drop (countDashes ws)) then some ws.length else none

/-- What was read. -/
inductive Given
  /-- A flag, and its value if it has one. -/
  | flag (flag : Flag) (value : Option String)
  /-- A positional argument and what it took. -/
  | positional (name : String) (args : List String)
  deriving DecidableEq, Repr

/-- The arguments of a positional one.  The mark for the end of the flags is left out,
except where the flags are taken too. -/
def valuesOf (p : Positional) (ws : List (Word × String)) : List String :=
  let args := ws.map (·.2)
  if p.arity = .rest then args else args.erase "--"

/-- As many positional arguments as fit: what they took, those that are left, and the
arguments that are left. -/
def takePositionals : List Positional → List (Word × String) →
    List Given × List Positional × List (Word × String)
  | [], ws => ([], [], ws)
  | p :: ps, ws =>
    match p.arity.span ws with
    | none => ([], p :: ps, ws)
    | some n =>
      let (given, ps', ws') := takePositionals ps (ws.drop n)
      (.positional p.name (valuesOf p (ws.take n)) :: given, ps', ws')

/-! ### Flags -/

/-- How a reading ends early. -/
inductive Stop
  /-- The help text is asked for. -/
  | help
  /-- The arguments cannot be read. -/
  | complaint (message : String)
  deriving DecidableEq, Repr

/-- Why a flag cannot be read. -/
def flagComplaint (f : Flag) (message : String) : Stop :=
  .complaint s!"argument {f.name}: {message}"

/-- A flag that takes no value. -/
def giveSwitch (f : Flag) : Except Stop Given :=
  if f.kind = .help then .error .help else .ok (.flag f none)

/-- A flag was given what it does not take. -/
def unwanted (f : Flag) (given : List Char) : Stop :=
  flagComplaint f ("ignored explicit argument " ++ String.ofList (Text.quotedChars given))

/-- The flags of one letter that are written together, `f` being the first one.  A letter that is
no flag, with all behind it, is what the flag before it was given. -/
def cluster (g : Grammar) (f : Flag) : List Char → Except Stop (List Flag)
  | [] => .ok [f]
  | c :: more =>
    match g.spelled.lookup (String.ofList ['-', c]) with
    | some f' => (f :: ·) <$> cluster g f' more
    | none => .error (unwanted f (c :: more))

/-- The value of a flag.  The mark for the end of the flags is none. -/
def givenValue (value : String) : Option String := if value = "--" then none else some value

/-- A flag with what follows it: what was read, and the arguments that are left. -/
def takeFlag (g : Grammar) (f : Flag) (tail : Option Tail) (ws : List (Word × String)) :
    Except Stop (List Given × List (Word × String)) :=
  match f.kind, tail, ws with
  | .value, some (.value v), ws => .ok ([.flag f (givenValue v)], ws)
  | .value, some (.letters v), ws => .ok ([.flag f (givenValue (String.ofList v))], ws)
  | .value, none, (.plain, v) :: ws => .ok ([.flag f (givenValue v)], ws)
  | .value, none, _ => .error (flagComplaint f "expected one argument")
  | _, some (.value v), _ => .error (unwanted f v.toList)
  | _, some (.letters cs), ws => do return (← (← cluster g f cs).mapM giveSwitch, ws)
  | _, none, ws => do return ([← giveSwitch f], ws)

/-! ### All arguments -/

/-- What is read off a list of arguments. -/
structure Reading where
  /-- What was read. -/
  given : List Given := []
  /-- The arguments that nothing took. -/
  extras : List String := []
  /-- The positional arguments that were not read. -/
  left : List Positional := []
  deriving DecidableEq, Repr

/-- What is read off the arguments that are left, in at most `n` turns.  Each turn ends with a
flag, or takes a run of positional arguments. -/
def readFrom (g : Grammar) (ps : List Positional) : Nat → List (Word × String) →
    Except Stop Reading
  | 0, _ => .ok { left := ps }
  | n + 1, ws => do
    let run := ws.takeWhile fun w => !(w.1 matches .flag _ _)
    let rest := ws.dropWhile fun w => !(w.1 matches .flag _ _)
    match rest with
    | [] =>
      let (given, ps, left) := takePositionals ps ws
      return { given, extras := left.map (·.2), left := ps }
    | (word, arg) :: behind =>
      let (given, ps, left) := if run.isEmpty then ([], ps, ws) else takePositionals ps ws
      if left.length < ws.length then
        let more ← readFrom g ps n left
        return { more with given := given ++ more.given }
      let passed := run.map (·.2)
      match word with
      | .flag (some f) tail =>
        let (flags, behind) ← takeFlag g f tail behind
        let more ← readFrom g ps n behind
        return { more with
          given := given ++ flags ++ more.given
          extras := passed ++ more.extras }
      | _ =>
        let more ← readFrom g ps n behind
        return { more with given := given ++ more.given, extras := passed ++ arg :: more.extras }

/-- What is read off a list of arguments. -/
def read (g : Grammar) (args : List String) : Except Stop Reading :=
  match classifyAll g args with
  | .error message => .error (.complaint message)
  | .ok ws => do
    let reading ← readFrom g g.positionals (2 * ws.length + 1) ws
    let missing := (reading.left.filter (·.required)).map (·.name)
    if missing.isEmpty then return reading
    else throw (.complaint
      ("the following arguments are required: " ++ String.intercalate ", " missing))

end Kumihan.CommandLine
