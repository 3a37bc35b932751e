/-!
# Words of a command line

The words after a program's name are switches and operands. A switch is named by two hyphens and its
name, or by one hyphen and its letter; its value, if it takes one, is attached or is the next word,
which must not look like a switch itself. Each switch may be given once. The word `--` ends the
switches, and everything after it is an operand.

Words are read from left to right, so a request for help counts if nothing before it is wrong.
-/

namespace Enrollment.CommandLine

structure Switch where
  name : String
  letter : Option Char
  takesValue : Bool
  deriving Repr, DecidableEq

/-- Asks for an explanation of the command line. -/
def Switch.help : Switch := ⟨"help", some 'h', false⟩

/-- Asks for the version of the program. -/
def Switch.version : Switch := ⟨"version", some 'V', false⟩

/-- Why words are no command. -/
inductive Interruption where
  | misused
  | help
  | version
  deriving Repr, DecidableEq

/-- What words say: the switches with their values, an empty one where none is taken, the operands,
and the words from the first operand on if reading stopped there. -/
structure Words where
  switches : List (Switch × String) := []
  operands : List String := []
  rest : Option (List String) := none
  deriving Repr, DecidableEq

namespace Words

/-- The value of a switch, if it was given. -/
def value? (w : Words) (s : Switch) : Option String :=
  w.switches.lookup s

def gives (w : Words) (s : Switch) : Bool :=
  (w.value? s).isSome

/-- The words with one more switch. -/
def withSwitch (w : Words) (s : Switch) (value : String) : Except Interruption Words :=
  if s = .help then .error .help
  else if s = .version then .error .version
  else if w.gives s then .error .misused
  else .ok { w with switches := w.switches ++ [(s, value)] }

end Words

/-- Whether a word may be the value of the switch before it. -/
def isValue (word : List Char) : Bool :=
  word == ['-'] || word.head? != some '-'

/-- The text attached to a switch by an equals sign. -/
def attached? : List Char → Option String
  | '=' :: value => some (String.ofList value)
  | _ => none

/-- Letters after one hyphen: each is a switch, and the first one that takes a value takes what
follows it. The switch whose value is still to come is returned, if there is one. -/
def readLetters (switches : List Switch) (w : Words) :
    List Char → Except Interruption (Words × Option Switch)
  | [] => .ok (w, none)
  | c :: cs =>
      match switches.find? (·.letter == some c) with
      | none => .error .misused
      | some s =>
          if !s.takesValue then do readLetters switches (← w.withSwitch s "") cs
          else if cs.isEmpty then
            if w.gives s then .error .misused else .ok (w, some s)
          else do
            .ok (← w.withSwitch s ((attached? cs).getD (String.ofList cs)), none)

/-- A word after two hyphens. -/
def readName (switches : List Switch) (w : Words) (word : List Char) :
    Except Interruption (Words × Option Switch) := do
  let name := String.ofList (word.takeWhile (· != '='))
  match switches.find? (·.name == name), attached? (word.dropWhile (· != '=')) with
  | none, _ => .error .misused
  | some s, value =>
      if !s.takesValue then
        if value.isSome then .error .misused else .ok (← w.withSwitch s "", none)
      else
        match value with
        | some value => .ok (← w.withSwitch s value, none)
        | none => if w.gives s then .error .misused else .ok (w, some s)

/-- Reads words. `due` is the switch whose value comes next. Where `stops`, reading ends before the
first operand. -/
def readWords (switches : List Switch) (stops : Bool) (due : Option Switch) (w : Words) :
    List String → Except Interruption Words
  | [] => if due.isSome then .error .misused else .ok w
  | word :: words =>
      let cs := word.toList
      match due with
      | some s =>
          if isValue cs then do
            readWords switches stops none (← w.withSwitch s word) words
          else .error .misused
      | none =>
          match cs with
          | ['-', '-'] =>
              if stops then .error .misused else .ok { w with operands := w.operands ++ words }
          | '-' :: '-' :: name => do
              let (w, due) ← readName switches w name
              readWords switches stops due w words
          | '-' :: c :: letters => do
              let (w, due) ← readLetters switches w (c :: letters)
              readWords switches stops due w words
          | _ =>
              if stops then .ok { w with rest := some (word :: words) }
              else readWords switches stops none { w with operands := w.operands ++ [word] } words

def read (switches : List Switch) (words : List String) : Except Interruption Words :=
  readWords switches false none {} words

def readBefore (switches : List Switch) (words : List String) : Except Interruption Words :=
  readWords switches true none {} words

/-- What a program leaves when it ends: its status, the lines of its output, and a complaint. -/
structure Ending where
  exitCode : UInt8
  output : List String
  complaint : Option String
  deriving Repr, DecidableEq

/-- The ending of a program that has done its work. -/
def Ending.success (output : List String) : Ending :=
  ⟨0, output, none⟩

/-- The ending of a program that could not do its work. -/
def Ending.failure (complaint : String) : Ending :=
  ⟨1, [], some complaint⟩

/-- The ending of a program whose words are no command. `title` is its name and version. -/
def Interruption.ending (title : String) : Interruption → Ending
  | .misused => ⟨2, [], some "unknown command line; try --help"⟩
  | .help => .success []
  | .version => .success [title]

end Enrollment.CommandLine
