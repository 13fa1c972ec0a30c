import SnippetCost.Text.DecimalDigit
import SnippetCost.Text.Quoted

/-!
# Options on a command line

How the words of a command line are told apart.  An option is given by one of its names, by a beginning
of a long name that no other one shares, with its value in the next word, behind an equals sign, or glued
to a short name; short options without a value can be glued together.  Behind a word of two dashes
nothing is an option, and neither is a negative number or a word with a space that begins no name.

`scan` turns the words into the options used, in order, and the other words; it stops at the first
problem.  What an option means is not its business.
-/

namespace SnippetCost

/-- An option of a command. -/
structure OptionSpec (κ : Type) where
  key : κ
  /-- Its names, each with its dashes. -/
  names : List String
  takesValue : Bool

/-- All names of an option, for messages. -/
def OptionSpec.title {κ : Type} (o : OptionSpec κ) : String :=
  "/".intercalate o.names

/-- What is wrong with a command line. -/
inductive UsageProblem where
  | ambiguous (word : String) (candidates : List String)
  /-- A value was given to an option that takes none. -/
  | ignoredValue (option value : String)
  | valueExpected (option : String)
  | notAnInteger (option value : String)
  | invalidChoice (argument value : String) (choices : List String)
  | required (argument : String)
  | unrecognized (words : List String)
  deriving DecidableEq, Repr

/-- The message about a problem. -/
def UsageProblem.message : UsageProblem → String
  | .ambiguous word candidates =>
    "ambiguous option: " ++ word ++ " could match " ++ ", ".intercalate candidates
  | .ignoredValue option value =>
    "argument " ++ option ++ ": ignored explicit argument " ++ Text.quoted value
  | .valueExpected option => "argument " ++ option ++ ": expected one argument"
  | .notAnInteger option value =>
    "argument " ++ option ++ ": invalid int value: " ++ Text.quoted value
  | .invalidChoice argument value choices =>
    "argument " ++ argument ++ ": invalid choice: " ++ Text.quoted value ++ " (choose from " ++
      ", ".intercalate (choices.map Text.quoted) ++ ")"
  | .required argument => "the following arguments are required: " ++ argument
  | .unrecognized words => "unrecognized arguments: " ++ " ".intercalate words

/-! ## Words -/

/-- What a word is. -/
inductive WordClass (κ : Type) where
  | positional
  /-- The word of two dashes. -/
  | separator
  /-- An option under one of its names, with the value that is part of the word. -/
  | option (spec : OptionSpec κ) (name : String) (value : Option String)
  /-- A word that looks like an option and is none. -/
  | unknown

/-- The names of options, each with its option, in order. -/
def optionNames {κ : Type} (options : List (OptionSpec κ)) : List (String × OptionSpec κ) :=
  options.flatMap fun o => o.names.map (·, o)

/-- The option with exactly this name. -/
def optionNamed? {κ : Type} (options : List (OptionSpec κ)) (name : String) :
    Option (OptionSpec κ) :=
  ((optionNames options).find? (·.1 == name)).map (·.2)

/-- A word before its first equals sign and behind it, if it has one. -/
def splitAtEquals? (word : List Char) : Option (String × String) :=
  match word.dropWhile (· != '=') with
  | [] => none
  | _ :: value => some (String.ofList (word.takeWhile (· != '=')), String.ofList value)

/-- The options a word can mean that is no name: those with a long name that begins like it; or, for a
word with one dash, the short option it starts with, the rest being its value. -/
def candidates {κ : Type} (options : List (OptionSpec κ)) (word : String) :
    List (OptionSpec κ × String × Option String) :=
  match word.toList with
  | '-' :: '-' :: _ =>
    let (start, value) := match splitAtEquals? word.toList with
      | some (start, value) => (start, some value)
      | none => (word, none)
    (optionNames options).filterMap fun (name, o) =>
      if start.toList.isPrefixOf name.toList then some (o, name, value) else none
  | dash :: letter :: rest =>
    (optionNames options).filterMap fun (name, o) =>
      if name.toList == [dash, letter] then some (o, name, some (String.ofList rest))
      else if word.toList.isPrefixOf name.toList then some (o, name, none)
      else none
  | _ => []

/-- Is the word a negative number: a dash and digits, with a point before some of them or without?  A line
feed may follow. -/
def isNegativeNumber (word : List Char) : Bool :=
  match word with
  | '-' :: digits =>
    let digits := if digits.getLast? == some '\n' then digits.dropLast else digits
    match digits.dropWhile Text.isDigit with
    | [] => !digits.isEmpty
    | '.' :: fraction => !fraction.isEmpty && fraction.all Text.isDigit
    | _ => false
  | _ => false

/-- What a word is that stands before the word of two dashes. -/
def classifyWord {κ : Type} (options : List (OptionSpec κ)) (word : String) :
    Except UsageProblem (WordClass κ) :=
  let chars := word.toList
  if chars.head? != some '-' then .ok .positional
  else
    match optionNamed? options word with
    | some o => .ok (.option o word none)
    | none =>
      if chars.length = 1 then .ok .positional
      else
        let exact := (splitAtEquals? chars).bind fun (name, value) =>
          (optionNamed? options name).map fun o => WordClass.option o name (some value)
        match exact with
        | some found => .ok found
        | none =>
          match candidates options word with
          | [(o, name, value)] => .ok (.option o name value)
          | [] =>
            if isNegativeNumber chars || chars.contains ' ' then .ok .positional else .ok .unknown
          | several => .error (.ambiguous word (several.map fun c => c.2.1))

/-- What all words are. -/
def classifyWords {κ : Type} (options : List (OptionSpec κ)) :
    List String → Except UsageProblem (List (String × WordClass κ))
  | [] => .ok []
  | word :: words =>
    if word = "--" then .ok ((word, .separator) :: words.map (·, .positional))
    else do
      let c ← classifyWord options word
      let rest ← classifyWords options words
      return (word, c) :: rest

/-! ## Options in use -/

/-- An option as it was used. -/
structure OptionUse (κ : Type) where
  spec : OptionSpec κ
  value : Option String

/-- The options in one word: those without a value that are glued in front, and the last one with the
value that is glued to it, if any. -/
def unglue {κ : Type} (options : List (OptionSpec κ)) (o : OptionSpec κ) (isShort : Bool) :
    Option (List Char) → Except UsageProblem (List (OptionUse κ) × OptionUse κ)
  | none => .ok ([], ⟨o, none⟩)
  | some [] =>
    if o.takesValue then .ok ([], ⟨o, some ""⟩) else .error (.ignoredValue o.title "")
  | some (letter :: rest) =>
    if o.takesValue then .ok ([], ⟨o, some (String.ofList (letter :: rest))⟩)
    else if !isShort then .error (.ignoredValue o.title (String.ofList (letter :: rest)))
    else
      match optionNamed? options (String.ofList ['-', letter]) with
      | none => .error (.ignoredValue o.title (String.ofList (letter :: rest)))
      | some next =>
        match rest with
        | [] => .ok ([⟨o, none⟩], ⟨next, none⟩)
        | more :: rest => do
          let (uses, last) ← unglue options next true (some (more :: rest))
          return (⟨o, none⟩ :: uses, last)

/-- What a command takes besides options. -/
inductive Operands where
  | none
  | one
  /-- A word and everything behind it. -/
  | command
  deriving DecidableEq, Repr

/-- The words of a command line sorted out, up to the first problem. -/
structure Scan (κ : Type) where
  uses : List (OptionUse κ)
  operands : List String
  /-- Words that nothing takes. -/
  extras : List String
  problem : Option UsageProblem

namespace Scan

variable {κ : Type}

/-- Nothing more. -/
def done : Scan κ := ⟨[], [], [], none⟩

/-- Stopped at a problem. -/
def stopped (problem : UsageProblem) : Scan κ := ⟨[], [], [], some problem⟩

/-- With further options in front. -/
def withUses (uses : List (OptionUse κ)) (s : Scan κ) : Scan κ := { s with uses := uses ++ s.uses }

/-- With further operands in front. -/
def withOperands (words : List String) (s : Scan κ) : Scan κ :=
  { s with operands := words ++ s.operands }

/-- With a word in front that nothing takes. -/
def withExtra (word : String) (s : Scan κ) : Scan κ := { s with extras := word :: s.extras }

/-- Sorts out words of which it is known what they are. -/
def ofWords (options : List (OptionSpec κ)) (operands : Operands) :
    List (String × WordClass κ) → Scan κ
  | [] => done
  | (word, .unknown) :: rest => (ofWords options operands rest).withExtra word
  | (_, .option o name value) :: rest =>
    match unglue options o (!"--".toList.isPrefixOf name.toList) (value.map String.toList) with
    | .error problem => stopped problem
    | .ok (uses, last) =>
      if last.spec.takesValue && last.value.isNone then
        match rest with
        | (next, .positional) :: rest =>
          (ofWords options operands rest).withUses (uses ++ [⟨last.spec, some next⟩])
        | _ => stopped (.valueExpected last.spec.title)
      else (ofWords options operands rest).withUses (uses ++ [last])
  | (word, .positional) :: rest =>
    match operands, rest with
    | .none, rest => (ofWords options .none rest).withExtra word
    | .one, (_, .separator) :: rest => (ofWords options .none rest).withOperands [word]
    | .one, rest => (ofWords options .none rest).withOperands [word]
    | .command, rest => done.withOperands (word :: rest.map (·.1))
  | (word, .separator) :: rest =>
    match operands, rest with
    | .one, (next, _) :: rest => (ofWords options .none rest).withOperands [next]
    | .command, next :: rest => done.withOperands (word :: next.1 :: rest.map (·.1))
    | operands, rest => (ofWords options operands rest).withExtra word

end Scan

/-- Sorts out the words of a command line. -/
def scan {κ : Type} (options : List (OptionSpec κ)) (operands : Operands) (words : List String) :
    Scan κ :=
  match classifyWords options words with
  | .error problem => .stopped problem
  | .ok classified => .ofWords options operands classified

end SnippetCost
