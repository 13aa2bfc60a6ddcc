import Wheelhouse.CommandLine.Help
import Wheelhouse.CommandLine.Similar
import Wheelhouse.Request.Run

/-!
The command line. `interpret` says what arguments mean: a request, a page of help, the version, or a
mistake; `run` acts on it. Of several mistakes, a missing value of a flag is reported first, then a
missing flag, an unknown flag, and a missing word. Words that are left over do not matter.
-/

set_option autoImplicit false

namespace Wheelhouse.CommandLine

inductive Mistake where
  | missingValue (f : Flag)
  | missingFlag (f : Flag)
  | unknownFlag (text : String) (known : List Flag)
  | missingWord (w : Word)
  | unknownCommand (text : String) (known : List String)

def Mistake.message : Mistake → String
  | .missingValue f => "error: option '" ++ f.spelling ++ "' argument missing"
  | .missingFlag f => "error: required option '" ++ f.spelling ++ "' not specified"
  | .unknownFlag text known =>
    "error: unknown option '" ++ text ++ "'" ++
      if "--".toList.isPrefixOf text.toList then
        Similar.suggestion text ((known ++ [helpFlag]).map (·.long))
      else ""
  | .missingWord w => "error: missing required argument '" ++ w.name ++ "'"
  | .unknownCommand text known =>
    "error: unknown command '" ++ text ++ "'" ++ Similar.suggestion text (known ++ [Scan.helpWord])

inductive Meaning where
  | banner
  | version
  | help (page : String)
  /-- Help that nobody asked for, since a command is missing; with the exit code. -/
  | lost (page : String) (code : Nat)
  | request (r : Request)
  /-- A mistake, at the level of the program itself or in one of its commands. -/
  | wrong (isTop : Bool) (m : Mistake)

def asksHelp (arguments : List String) : Bool :=
  arguments.any fun a => helpFlag.isSpelled a.toList

def isGiven (s : Scan) (f : Flag) : Bool := s.flags.any fun g => g.1.long = f.long

def lacking (words : List Word) (given : List String) : List Word :=
  (words.drop given.length).filter (·.isRequired)

def interpretVerb (names : List String) (v : Verb) (words arguments : List String) : Meaning :=
  match Scan.read v.flags [] .empty (arguments.map String.toList) with
  | .error f => .wrong false (.missingValue f)
  | .ok s =>
    let words := words ++ s.words
    if asksHelp s.unknown then .help (verbPage names v)
    else
      -- The first mistake in this order is the one to tell.
      match v.flags.find? (fun f => f.isRequired && !isGiven s f), s.unknown, lacking v.words words with
      | some f, _, _ => .wrong false (.missingFlag f)
      | none, text :: _, _ => .wrong false (.unknownFlag text v.flags)
      | none, [], w :: _ => .wrong false (.missingWord w)
      | none, [], [] => .request (v.request ⟨s.flags, words⟩)

structure Level where
  isTop : Bool
  flags : List Flag
  names : List String
  page : String
  enter : String → List String → List String → Meaning
  pageOf : String → String

def Level.help (l : Level) (topic : Option String) : Meaning :=
  match topic with
  | none => .help l.page
  | some name =>
    if name = "" then .help l.page
    else if l.names.contains name then .help (l.pageOf name)
    else .lost l.page (if l.isTop then 0 else 1)

def Level.interpret (l : Level) (words arguments : List String) : Meaning :=
  match Scan.read l.flags l.names .empty (arguments.map String.toList) with
  | .error f => .wrong l.isTop (.missingValue f)
  | .ok s =>
    if !s.flags.isEmpty then .version
    else
      match words ++ s.words, s.unknown with
      | [], [] => .lost l.page (if l.isTop then 0 else 1)
      | [], text :: rest =>
        if asksHelp (text :: rest) then .help l.page else .wrong l.isTop (.unknownFlag text l.flags)
      | name :: more, unknown =>
        if l.names.contains name then l.enter name more unknown
        else if name = Scan.helpWord then l.help more.head?
        else if asksHelp unknown then .help l.page
        else .wrong l.isTop (.unknownCommand name l.names)

def familyLevel (name summary : String) (verbs : List Verb) : Level :=
  let find (verb : String) : Option Verb := verbs.find? (·.name = verb)
  { isTop := false
    flags := []
    names := verbs.map (·.name)
    page := familyPage name summary verbs
    enter := fun verb words arguments =>
      match find verb with
      | some v => interpretVerb [name] v words arguments
      | none => .lost (familyPage name summary verbs) 1
    pageOf := fun verb => ((find verb).map (verbPage [name])).getD "" }

def rootLevel : Level :=
  let find (name : String) : Option Branch := branches.find? (·.name = name)
  { isTop := true
    flags := [versionFlag]
    names := branches.map Branch.name
    page := rootPage
    enter := fun name words arguments =>
      match find name with
      | some (.verb v) => interpretVerb [] v words arguments
      | some (.family name summary verbs) => (familyLevel name summary verbs).interpret words arguments
      | none => .lost rootPage 0
    pageOf := fun name =>
      match find name with
      | some (.verb v) => verbPage [] v
      | some (.family name summary verbs) => familyPage name summary verbs
      | none => "" }

def interpret (arguments : List String) : Meaning :=
  if arguments.isEmpty then .banner else rootLevel.interpret [] arguments

def run (s : Surroundings) (arguments : List String) : Job Nat := do
  match interpret arguments with
  | .banner =>
    banner.forM Job.print
    return 0
  | .version =>
    Job.print version
    return 0
  | .help page =>
    Job.print page
    return 0
  | .lost page code =>
    Job.complain page
    return code
  | .request r => r.run s
  | .wrong isTop m =>
    Job.complain m.message
    if isTop then Job.complain ("오류: " ++ m.message)
    return 1

end Wheelhouse.CommandLine
