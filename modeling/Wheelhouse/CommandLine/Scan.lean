import Wheelhouse.Text.Fields

/-!
Arguments of a command taken apart. A flag that takes a value has it in the next argument, behind an
equals sign, or, if it is short, right behind its letter. From the first flag that is not known on,
everything that is no known flag is kept apart, since it may belong to a further command.
-/

set_option autoImplicit false

namespace Wheelhouse

structure Flag where
  short : Option Char
  long : String
  value : Option String
  isRequired : Bool
  help : String

namespace Flag

def spelling (f : Flag) : String :=
  (match f.short with
    | some c => "-" ++ String.singleton c ++ ", "
    | none => "") ++ f.long ++
  match f.value with
  | some name => " <" ++ name ++ ">"
  | none => ""

def isSpelled (f : Flag) (arg : List Char) : Bool :=
  arg = f.long.toList || f.short.any fun c => arg = ['-', c]

def takesValue (f : Flag) : Bool := f.value.isSome

end Flag

/-- How an argument is understood. What remains of a cluster of short flags is shorter. -/
inductive Sense (arg : List Char) where
  | separator
  | flag (f : Flag)
  | valued (f : Flag) (value : List Char)
  | cluster (f : Flag) (more : List Char) (shorter : more.length < arg.length)
  | unknownFlag
  | plain

namespace Sense

def isFlag (arg : List Char) : Bool := arg.length > 1 && arg.head? = some '-'

def ofCluster? (flags : List Flag) : (arg : List Char) → Option (Sense arg)
  | '-' :: c :: d :: more =>
    if c = '-' then none
    else
      (flags.find? fun f => f.short = some c).map fun f =>
        if f.takesValue then .valued f (d :: more)
        else .cluster f ('-' :: d :: more) (by simp)
  | _ => none

def ofEquation? (flags : List Flag) (arg : List Char) : Option (Sense arg) :=
  match Text.cut '=' arg with
  | (name, some value) =>
    (flags.find? fun f => f.long.toList = name && f.takesValue).map fun f => .valued f value
  | (_, none) => none

def ofArgument (flags : List Flag) (arg : List Char) : Sense arg :=
  if arg = ['-', '-'] then .separator
  else
    match flags.find? fun f => f.isSpelled arg with
    | some f => .flag f
    | none =>
      ((ofCluster? flags arg).or (ofEquation? flags arg)).getD (if isFlag arg then .unknownFlag else .plain)

end Sense

structure Scan where
  flags : List (Flag × Option String)
  words : List String
  unknown : List String

namespace Scan

def empty : Scan := ⟨[], [], []⟩

def set (s : Scan) (f : Flag) (value : Option (List Char)) : Scan :=
  { s with flags := s.flags ++ [(f, value.map String.ofList)] }

/-- Keeps words, apart if something before them is not known. -/
def keep (s : Scan) (words : List String) : Scan :=
  if s.unknown.isEmpty then { s with words := s.words ++ words }
  else { s with unknown := s.unknown ++ words }

def isFresh (s : Scan) : Bool := s.words.isEmpty && s.unknown.isEmpty

def helpWord : String := "help"

/-- How long arguments are, each with its end. -/
def extent : List (List Char) → Nat
  | [] => 0
  | arg :: rest => arg.length + 1 + extent rest

/-- Takes arguments apart. At the name of a command the search stops, and what follows is left to that
command. The error is a flag whose value is missing. -/
def read (flags : List Flag) (commands : List String) (s : Scan) :
    List (List Char) → Except Flag Scan
  | [] => .ok s
  | arg :: rest =>
    let text := String.ofList arg
    match Sense.ofArgument flags arg with
    | .separator =>
      .ok (s.keep ((if s.unknown.isEmpty then [] else [text]) ++ rest.map String.ofList))
    | .flag f =>
      if f.takesValue then
        match rest with
        | [] => .error f
        | value :: rest => read flags commands (s.set f (some value)) rest
      else read flags commands (s.set f none) rest
    | .valued f value => read flags commands (s.set f (some value)) rest
    | .cluster f more _ => read flags commands (s.set f none) (more :: rest)
    | .unknownFlag => read flags commands { s with unknown := s.unknown ++ [text] } rest
    | .plain =>
      -- Flags after the name of a command are that command's business.
      if s.isFresh && commands.contains text then
        .ok { s with words := [text], unknown := rest.map String.ofList }
      else if s.isFresh && !commands.isEmpty && text = helpWord then
        .ok { s with words := text :: rest.map String.ofList }
      else read flags commands (s.keep [text]) rest
termination_by args => extent args
decreasing_by all_goals simp only [extent]; omega

end Scan

end Wheelhouse
