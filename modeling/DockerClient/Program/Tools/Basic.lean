import DockerClient.Program.Escape
import DockerClient.Program.Format
import DockerClient.Program.Tools.Options

/-
**Tools**: programs that come with a machine.

* `Tools.cat`, `Tools.echo`, `Tools.head`, `Tools.sleep` — copies, prints, cuts off and waits;
* `Tools.Alteration` — how the environment of a program is changed.
-/

set_option relaxedAutoImplicit false
set_option autoImplicit false

namespace DockerClient.Tools

/-- Writes to the output; gives whether that succeeded. -/
def put (text : Bytes) (p : Process) : Bool × Process :=
  match p.write 1 text with
  | .ok p => (true, p)
  | .error e => (false, complain ("write error: ".toList ++ e.text.toList) p)

/-! ### Copying -/

/-- How lines are changed when they are copied. -/
structure Style where
  numbers : Bool := false
  numbersFull : Bool := false
  squeezes : Bool := false
  ends : Bool := false
  tabs : Bool := false
  shows : Bool := false

/-- The style with an option. -/
def Style.withOption (s : Style) (c : Char) : Style :=
  match c with
  | 'n' => { s with numbers := true }
  | 'b' => { s with numbersFull := true }
  | 's' => { s with squeezes := true }
  | 'E' => { s with ends := true }
  | 'T' => { s with tabs := true }
  | 'v' => { s with shows := true }
  | 'A' => { s with shows := true, ends := true, tabs := true }
  | 'e' => { s with shows := true, ends := true }
  | 't' => { s with shows := true, tabs := true }
  | _ => s

/-- A character as it is shown. -/
def Style.show (s : Style) (c : Char) : Bytes :=
  if c = '\t' then if s.tabs then ['^', 'I'] else [c]
  else if !s.shows then [c]
  else
    let low (n : Nat) : Bytes :=
      if n < 32 then ['^', Char.ofNat (n + 64)] else if n = 127 then ['^', '?'] else [Char.ofNat n]
    if c.toNat < 128 then low c.toNat else ['M', '-'] ++ low (c.toNat - 128)

/-- Where copying stands: the number of the next line, whether a line begins, and how many empty lines
came last. -/
structure Copying where
  line : Nat := 1
  atStart : Bool := true
  empty : Nat := 0

/-- Copies a text, the last character first. -/
def Style.copy (s : Style) : Bytes → Copying → Bytes → Bytes × Copying
  | [], at', done => (done, at')
  | c :: rest, at', done =>
      let isEnd := c == '\n'
      if isEnd && at'.atStart && s.squeezes && decide (1 ≤ at'.empty) then s.copy rest at' done
      else
        let numbered := at'.atStart && (if s.numbersFull then !isEnd else s.numbers)
        let number : Bytes :=
          if numbered then
            let shown := Bytes.ofNat at'.line
            List.replicate (6 - shown.length) ' ' ++ shown ++ ['\t']
          else []
        let body : Bytes := if isEnd then (if s.ends then ['$', '\n'] else ['\n']) else s.show c
        s.copy rest
          { line := if numbered then at'.line + 1 else at'.line, atStart := isEnd,
            empty := if isEnd && at'.atStart then at'.empty + 1 else 0 }
          ((number ++ body).reverseAux done)

/-- Copies the blocks of a stream. -/
def copyBlocks (s : Style) (fd : Nat) : Nat → Copying → Process →
    Except SystemFault (Copying × Process)
  | 0, at', p => .ok (at', p)
  | fuel + 1, at', p =>
      match p.readSome fd Process.block with
      | .error e => .error e
      | .ok ([], p) => .ok (at', p)
      | .ok (text, p) =>
          let (shown, at') := s.copy text at' []
          match put shown.reverse p with
          | (true, p) => copyBlocks s fd fuel at' p
          | (false, p) => .ok (at', p)

/-- The stream that a file is read through by tools. -/
def ownStream : Nat := 10

/-- Reads a file, or the input for `-`, by a step. -/
def withFile {α : Type} (name : Bytes) (p : Process)
    (step : Nat → Process → Except SystemFault (α × Process)) : Except SystemFault (α × Process) :=
  if name = ['-'] then step 0 p
  else
    match p.open? name .read with
    | .error e => .error e
    | .ok (n, q) =>
        (step ownStream (q.setStream ownStream n)).map fun r => (r.1, r.2.closeStream ownStream)

/-- Copies files one after the other. -/
def copyFiles (s : Style) : List Bytes → Nat → Copying → Process → Nat × Process
  | [], status, _, p => (status, p)
  | name :: rest, status, at', p =>
      match withFile name p fun fd p => copyBlocks s fd 100000 at' p with
      | .ok (at', p) => copyFiles s rest status at' p
      | .error e => copyFiles s rest 1 at' (complain (quotedIfNeeded name ++ ": ".toList ++ e.text.toList) p)

/-- `cat`: copies files to the output. -/
def cat (p : Process) : Ending × Process :=
  let long := [("number", 'n'), ("number-nonblank", 'b'), ("squeeze-blank", 's'),
    ("show-ends", 'E'), ("show-tabs", 'T'), ("show-nonprinting", 'v'), ("show-all", 'A')]
  match optionsOf "benstuvAET" long true (p.arguments.drop 1) with
  | .error r => refuse 1 r p
  | .ok o =>
      let s := o.options.foldl (fun s c => s.withOption c.1) {}
      let closed := SystemFault.badDescriptor.text.toList
      if p.channel? 1 = none then (.exited 1, complain ("standard output: ".toList ++ closed) p) else
      let files := if o.operands.isEmpty then [['-']] else o.operands
      let (status, p) := copyFiles s files 0 {} p
      if files.contains ['-'] ∧ p.channel? 0 = none then
        (.exited 1, complain ("closing standard input: ".toList ++ closed) p)
      else (.exited status, p)

/-! ### Printing -/

/-- Whether a word is an option of `echo`. -/
def isEchoOption (word : Bytes) : Bool :=
  match word with
  | '-' :: letters => !letters.isEmpty && letters.all fun c => c == 'n' || c == 'e' || c == 'E'
  | _ => false

/-- The value of hexadecimal digits, at most so many, and what follows. -/
def hexDigits : Nat → Nat → Bytes → Nat × Bytes
  | 0, n, s => (n, s)
  | _ + 1, n, [] => (n, [])
  | count + 1, n, c :: s =>
      if Numeral.isDigit 16 c then hexDigits count (16 * n + (Numeral.digit? c).getD 0) s
      else (n, c :: s)

/-- A text with its characters after backslashes replaced, and whether it ends printing. -/
def unescaped : Nat → Bytes → Bytes × Bool
  | 0, _ => ([], false)
  | _ + 1, [] => ([], false)
  | fuel + 1, '\\' :: c :: s =>
      let go (shown : Bytes) (rest : Bytes) : Bytes × Bool :=
        let (t, stops) := unescaped fuel rest
        (shown ++ t, stops)
      match Escape.letter? c with
      | some d => go [d] s
      | none =>
          if c = 'c' then ([], true)
          else if c = 'x' ∧ (s.head?.map (Numeral.isDigit 16)).getD false then
            let (n, rest) := hexDigits 2 0 s
            go [Bytes.byte n] rest
          else if c = '0' then
            let (n, rest) := Escape.octal 3 0 s
            go [Bytes.byte n] rest
          else if Escape.isOctal c then
            let (n, rest) := Escape.octal 3 0 (c :: s)
            go [Bytes.byte n] rest
          else go ['\\', c] s
  | fuel + 1, c :: s =>
      let (t, stops) := unescaped fuel s
      (c :: t, stops)

/-- `echo`: prints its arguments. -/
def echo (p : Process) : Ending × Process :=
  let args := p.arguments.drop 1
  let options := args.takeWhile isEchoOption
  let letters := options.flatMap (·.drop 1)
  let silent := letters.contains 'n'
  let escapes := (letters.filter (· ≠ 'n')).getLast? == some 'e'
  let text := [' '].intercalate (args.drop options.length)
  let (shown, stops) := if escapes then unescaped (text.length + 1) text else (text, false)
  let (ok, p) := put (if silent || stops then shown else shown ++ ['\n']) p
  (.exited (if ok then 0 else 1), p)

/-! ### Cutting off -/

/-- How much of a file is printed: units from its beginning, or all but some at its end. -/
structure Amount where
  lines : Bool := true
  butLast : Bool := false
  count : Nat := 10

/-- The factors by their suffixes. -/
def factors : List (String × Nat) :=
  [("", 1), ("b", 512), ("kB", 1000), ("KB", 1000), ("k", 1024), ("K", 1024), ("KiB", 1024),
   ("MB", 1000000), ("M", 1048576), ("m", 1048576), ("MiB", 1048576), ("GB", 1000000000),
   ("G", 1073741824), ("GiB", 1073741824)]

/-- An amount with an optional suffix. -/
def amountOf? (s : Bytes) : Option Nat :=
  let s := s.dropWhile Bytes.isSpace
  let s := if s.head? = some '+' then s.drop 1 else s
  let (n, count, rest) := Numeral.digits 10 0 0 s
  if count = 0 then none
  else (factors.find? fun f => f.1.toList == rest).map fun f => n * f.2

/-- The part of a text up to the end of so many lines. -/
def firstLines : Nat → Bytes → Bytes
  | 0, _ => []
  | _ + 1, [] => []
  | count + 1, c :: s => c :: firstLines (if c = '\n' then count else count + 1) s

/-- The part of a text that an amount asks for. -/
def Amount.of (a : Amount) (s : Bytes) : Bytes :=
  match a.lines, a.butLast with
  | true, false => firstLines a.count s
  | false, false => s.take a.count
  | false, true => s.take (s.length - a.count)
  | true, true =>
      let open' := (s.getLast?.map (· != '\n')).getD false
      let all := (s.filter (· = '\n')).length + (if open' then 1 else 0)
      firstLines (all - a.count) s

/-- How much is read at once. -/
def headBlock : Nat := 8192

/-- Prints blocks of a stream until an amount has been printed.  What was read of a file beyond that
is put back.  Gives whether printing succeeded. -/
def headBlocks (fd : Nat) (lines : Bool) : Nat → Nat → Process → Except SystemFault (Bool × Process)
  | 0, _, p => .ok (true, p)
  | _ + 1, 0, p => .ok (true, p)
  | fuel + 1, count, p =>
      match p.readSome fd (if lines then headBlock else min headBlock count) with
      | .error e => .error e
      | .ok ([], p) => .ok (true, p)
      | .ok (text, p) =>
          let shown := (Amount.mk lines false count).of text
          let used := if lines then (shown.filter (· = '\n')).length else shown.length
          let p :=
            match (p.channel? fd).map fun n => (n, p.kernel.channel n) with
            | some (n, .file names position opening) =>
                let position := position - (text.length - shown.length)
                { p with kernel := p.kernel.setChannel n (.file names position opening) }
            | _ => p
          match put shown p with
          | (true, p) => headBlocks fd lines fuel (count - used) p
          | (false, p) => .ok (false, p)

/-- Prints what an amount asks for of a stream. -/
def headStream (a : Amount) (fd : Nat) (p : Process) : Except SystemFault (Bool × Process) :=
  if a.butLast then
    (p.readAll fd).map fun r => put (a.of r.1) r.2
  else headBlocks fd a.lines 1000000 a.count p

/-- Prints the beginnings of files. -/
def headFiles (a : Amount) (titles : Bool) : List Bytes → Bool → Nat → Process → Nat × Process
  | [], _, status, p => (status, p)
  | name :: rest, first, status, p =>
      let shown := if name = ['-'] then "standard input".toList else name
      let title : Bytes :=
        if titles then
          (if first then [] else ['\n']) ++ "==> ".toList ++ shown ++ " <==\n".toList
        else []
      let opened := if name = ['-'] then none else
        match p.open? name .read with
        | .error e => some e
        | .ok _ => none
      match opened with
      | some e =>
          headFiles a titles rest first 1
            (complain ("cannot open ".toList ++ shellQuoted name ++ " for reading: ".toList
              ++ e.text.toList) p)
      | none =>
          let p := (put title p).2
          match withFile name p (headStream a) with
          | .ok (true, p) => headFiles a titles rest false status p
          | .ok (false, p) => (1, p)
          | .error e =>
              headFiles a titles rest false 1
                (complain ("error reading ".toList ++ shellQuoted shown ++ ": ".toList
                  ++ e.text.toList) p)

/-- The arguments of `head` with an amount that follows the first dash put into an option. -/
def withAmount (args : List Bytes) : List Bytes :=
  match args with
  | ('-' :: c :: more) :: rest =>
      if c.isDigit then
        let word := c :: more
        let number := word.takeWhile Char.isDigit
        let after := word.drop number.length
        let units := if after.contains 'c' then ['-', 'c'] else ['-', 'n']
        let others := after.filter fun d => d == 'q' || d == 'v'
        (units ++ number) :: (if others.isEmpty then rest else ('-' :: others) :: rest)
      else args
  | args => args

/-- What options ask `head` for. -/
def headOptions : List (Char × Bytes) → Amount → Option Bool →
    Except (Bool × Bytes) (Amount × Option Bool)
  | [], a, titles => .ok (a, titles)
  | (c, value) :: rest, a, titles =>
      if c = 'q' then headOptions rest a (some false)
      else if c = 'v' then headOptions rest a (some true)
      else if c = 'z' then headOptions rest a titles
      else
        let butLast := value.head? == some '-'
        match amountOf? (if butLast then value.drop 1 else value) with
        | some n => headOptions rest ⟨c == 'n', butLast, n⟩ titles
        | none => .error (c == 'n', value)

/-- `head`: prints the beginnings of files. -/
def head (p : Process) : Ending × Process :=
  match optionsOf "c:n:qvz" [("quiet", 'q'), ("silent", 'q'), ("verbose", 'v')] true
      (withAmount (p.arguments.drop 1)) with
  | .error r => refuse 1 r p
  | .ok o =>
      match headOptions o.options {} none with
      | .error (lines, value) =>
          let what := if lines then "invalid number of lines: " else "invalid number of bytes: "
          (.exited 1, complain (what.toList ++ quoted value) p)
      | .ok (a, titles) =>
          let files := if o.operands.isEmpty then [['-']] else o.operands
          let (status, p) := headFiles a (titles.getD (decide (1 < files.length))) files true 0 p
          if files.contains ['-'] ∧ p.channel? 0 = none then
            (.exited 1, complain ("-: ".toList ++ SystemFault.badDescriptor.text.toList) p)
          else (.exited status, p)

/-! ### Waiting -/

/-- A time in nanoseconds: a number with an optional unit. -/
def timeOf? (s : Bytes) : Option Nat :=
  let (factor, body) : Nat × Bytes :=
    match s.getLast? with
    | some 's' => (1, s.dropLast)
    | some 'm' => (60, s.dropLast)
    | some 'h' => (3600, s.dropLast)
    | some 'd' => (86400, s.dropLast)
    | _ => (1, s)
  match Format.double body with
  | (.finite false x, [], _) =>
      if body.isEmpty then none
      else some ((Decimal.scaledBy x 9) * factor)
  | (.infinite false, [], _) => some Kernel.never
  | _ => none

/-- `sleep`: waits. -/
def sleep (p : Process) : Ending × Process :=
  match optionsOf "" [] true (p.arguments.drop 1) with
  | .error r => refuse 1 r p
  | .ok o =>
      if o.operands.isEmpty then (.exited 1, sayHelp (complain "missing operand".toList p))
      else
        match o.operands.filter fun s => (timeOf? s).isNone with
        | [] =>
            let time := o.operands.foldl (fun time s => time + (timeOf? s).getD 0) 0
            if Kernel.never ≤ time then (.endless, p)
            else
              (.exited 0,
                { p with kernel := p.kernel.waitUntil (p.kernel.clock + time) })
        | bad =>
            (.exited 1, sayHelp (bad.foldl (fun p s =>
              complain ("invalid time interval ".toList ++ quoted s) p) p))

/-! ### Environments -/

/-- How the environment of a program is changed. -/
structure Alteration where
  environment : List (Bytes × Bytes)
  words : List Bytes

/-- The words of a text, at blanks; quotes and backslashes keep blanks. -/
def wordsOf (text : Bytes) : List Bytes :=
  let (done, word, _) := text.foldl (fun (done, word, quote) c =>
    let add (c : Char) : Option Bytes := some (c :: word.getD [])
    match quote with
    | some q => if c == q then (done, word, none) else (done, add c, some q)
    | none =>
        if c == '"' || c == '\x27' then (done, some (word.getD []), some c)
        else if Bytes.isSpace c then
          match word with
          | some w => (w.reverse :: done, none, none)
          | none => (done, none, none)
        else (done, add c, none)) (([], none, none) : List Bytes × Option Bytes × Option Char)
  (match word with | some w => w.reverse :: done | none => done).reverse

/-- An environment with a variable set; it stays in its place. -/
def setIn (name value : Bytes) : List (Bytes × Bytes) → List (Bytes × Bytes)
  | [] => [(name, value)]
  | e :: rest => if e.1 = name then (name, value) :: rest else e :: setIn name value rest

/-- Takes the settings at the beginning of some words. -/
def settings : List Bytes → List (Bytes × Bytes) → Alteration
  | [], env => ⟨env, []⟩
  | word :: rest, env =>
      if word.contains '=' then
        let name := word.takeWhile (· ≠ '=')
        settings rest (setIn name (word.drop (name.length + 1)) env)
      else ⟨env, word :: rest⟩

/-- What arguments make of the environment, and the program with its arguments. -/
def alteration (p : Process) : Except Refusal Alteration := do
  let args :=
    match p.arguments.drop 1 with
    | ['-', 'S'] :: text :: rest => wordsOf text ++ rest
    | ('-' :: 'S' :: text) :: rest => wordsOf text ++ rest
    | args => args
  let o ← optionsOf "iu:0v" [("ignore-environment", 'i')] false args
  let clear := o.options.any (·.1 == 'i')
  let (clear, words) :=
    match o.operands with
    | ['-'] :: rest => (true, rest)
    | words => (clear, words)
  let dropped := (o.options.filter (·.1 == 'u')).map (·.2)
  let env := if clear then [] else p.environment.filter fun e => !dropped.contains e.1
  pure (settings words env)

/-- An environment as it is printed. -/
def environmentText (env : List (Bytes × Bytes)) : Bytes :=
  env.flatMap fun e => e.1 ++ '=' :: e.2 ++ ['\n']

end DockerClient.Tools
