import DockerClient.Program.Process

/-
**How tools read their arguments and complain.**

* `Tools.Options`, `Tools.optionsOf` — the options and operands among arguments;
* `Tools.Refusal` — why arguments can not be read;
* `Tools.shellQuoted`, `Tools.quotedIfNeeded` — names in complaints;
* `Tools.complain` — a complaint of a tool.
-/

set_option relaxedAutoImplicit false
set_option autoImplicit false

namespace DockerClient.Tools

/-! ### Quotes -/

/-- The letter that stands for a character after a backslash. -/
def letterOf? (c : Char) : Option Char :=
  match c with
  | '\x07' => some 'a'
  | '\x08' => some 'b'
  | '\x0c' => some 'f'
  | '\n' => some 'n'
  | '\r' => some 'r'
  | '\t' => some 't'
  | '\x0b' => some 'v'
  | _ => none

/-- A number in octal with three digits. -/
def octalText (n : Nat) : Bytes :=
  let shown := Nat.toDigits 8 n
  List.replicate (3 - shown.length) '0' ++ shown

/-- Whether a character is written as it is. -/
def isPlain (c : Char) : Bool := decide (' ' ≤ c) && decide (c ≤ '~')

/-- The characters that a shell would not take as they are, wherever they stand. -/
def specials : List Char :=
  [' ', '!', '"', '$', '&', '(', ')', '*', ';', '<', '=', '>', '[', '^', '\x60', '|', '\x27', '?',
   '\\']

/-- Whether a shell would not take a name as it is. -/
def needsQuotes (s : Bytes) : Bool :=
  match s with
  | [] | ['{'] | ['}'] => true
  | c :: _ => c == '#' || c == '~' || s.any fun c => specials.contains c || !isPlain c

/-- The inside of a quoted name; characters that can not be shown stand in quotes of their own. -/
def quotedInside (open' : Bool) : Bytes → Bytes
  | [] => if open' then ['\x27'] else []
  | c :: rest =>
      if isPlain c then
        let start := if open' then ['\x27', '\x27'] else []
        start ++ (if c = '\x27' then ['\x27', '\\', '\x27', '\x27'] else [c])
          ++ quotedInside false rest
      else
        let start := if open' then [] else ['\x27', '$', '\x27']
        let shown :=
          match letterOf? c with
          | some l => ['\\', l]
          | none => '\\' :: octalText c.toNat
        start ++ shown ++ quotedInside true rest

/-- A name in quotes, as a shell takes it. -/
def shellQuoted (s : Bytes) : Bytes :=
  let simple (c : Char) : Bool :=
    isPlain c && !(['!', '"', '$', '&', '(', ')', '*', ';', '<', '=', '>', '[', '^', '\x60', '|',
      '\\', '?', '#', '~', '{', '}'].contains c)
  if s.contains '\x27' && s.all simple then '"' :: s ++ ['"']
  else
    let inside := quotedInside false s
    '\x27' :: inside ++ (if (s.getLast?.map isPlain).getD true then ['\x27'] else [])

/-- A name, in quotes if a shell would not take it as it is. -/
def quotedIfNeeded (s : Bytes) : Bytes := if needsQuotes s then shellQuoted s else s

/-- A text in quotes, in which characters that can not be shown are escaped. -/
def quoted (s : Bytes) : Bytes :=
  let shown (c : Char) : Bytes :=
    if c = '\x27' ∨ c = '\\' then ['\\', c]
    else if isPlain c then [c]
    else
      match letterOf? c with
      | some l => ['\\', l]
      | none => '\\' :: octalText c.toNat
  '\x27' :: s.flatMap shown ++ ['\x27']

/-! ### Options -/

/-- Why arguments can not be read. -/
inductive Refusal where
  | unknown (c : Char)
  | unrecognized (word : Bytes)
  | incomplete (c : Char)

/-- What is said of a refusal. -/
def Refusal.text : Refusal → Bytes
  | .unknown c => "invalid option -- '".toList ++ [c, '\x27']
  | .unrecognized word => "unrecognized option '".toList ++ word ++ ['\x27']
  | .incomplete c => "option requires an argument -- '".toList ++ [c, '\x27']

/-- Options, each with its argument if it takes one, and operands. -/
structure Options where
  options : List (Char × Bytes) := []
  operands : List Bytes := []

/-- Reads the letters of a word, and the argument of the last one from the next word. -/
def readLetters (letters : List Char) : Bytes → List Bytes → Except Refusal (List (Char × Bytes) × Bool)
  | [], _ => .ok ([], false)
  | c :: more, rest =>
      match (if c = ':' then [] else letters.dropWhile (· ≠ c)) with
      | [] => .error (.unknown c)
      | _ :: ':' :: _ =>
          if !more.isEmpty then .ok ([(c, more)], false)
          else
            match rest with
            | a :: _ => .ok ([(c, a)], true)
            | [] => .error (.incomplete c)
      | _ => (readLetters letters more rest).map fun r => ((c, []) :: r.1, r.2)

/-- Reads options.  They may stand behind operands unless the first operand ends them; a colon follows
the letters that take an argument; long options are known by their names. -/
def optionsWithin (letters : List Char) (long : List (String × Char)) (mixed : Bool) :
    Nat → List Bytes → Except Refusal Options
  | 0, args => .ok ⟨[], args⟩
  | _ + 1, [] => .ok {}
  | fuel + 1, word :: rest => do
      match word with
      | ['-', '-'] => pure ⟨[], rest⟩
      | '-' :: '-' :: name =>
          match long.find? fun l => l.1.toList == name with
          | some (_, c) =>
              let r ← optionsWithin letters long mixed fuel rest
              pure { r with options := (c, []) :: r.options }
          | none => throw (.unrecognized word)
      | '-' :: c :: more =>
          let (found, took) ← readLetters letters (c :: more) rest
          let r ← optionsWithin letters long mixed fuel (if took then rest.drop 1 else rest)
          pure { r with options := found ++ r.options }
      | _ =>
          if mixed then
            let r ← optionsWithin letters long mixed fuel rest
            pure { r with operands := word :: r.operands }
          else pure ⟨[], word :: rest⟩

/-- The options and operands among arguments. -/
def optionsOf (letters : String) (long : List (String × Char)) (mixed : Bool) (args : List Bytes) :
    Except Refusal Options :=
  optionsWithin letters.toList long mixed (args.length + 1) args

/-! ### Complaints -/

/-- The name of a tool. -/
def nameOf (p : Process) : Bytes := p.arguments.head?.getD []

/-- A complaint of a tool. -/
def complain (text : Bytes) (p : Process) : Process :=
  p.say (nameOf p ++ ": ".toList ++ text ++ ['\n'])

/-- Says where to find help. -/
def sayHelp (p : Process) : Process :=
  p.say ("Try '".toList ++ nameOf p ++ " --help' for more information.\n".toList)

/-- Refuses arguments. -/
def refuse (status : Nat) (r : Refusal) (p : Process) : Ending × Process :=
  (.exited status, sayHelp (complain r.text p))

end DockerClient.Tools
