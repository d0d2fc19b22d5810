import DockerClient.Program.Script.Token

/-
**The commands of a script.**

* `Script.list` — commands up to the end of a line or of the surrounding command;
* `Script.command` — a command; `Script.pipeline`, `Script.chain` — commands joined by signs;
* `Script.next` — the commands that a script goes on with, up to the end of a line;
* `Script.Step` — what reading a part of a script comes to.

A script is read line by line: what follows is not looked at before a line has been run.
-/

set_option relaxedAutoImplicit false
set_option autoImplicit false

namespace DockerClient.Script

/-! ### Parts of commands -/

/-- What surrounds a list: nothing, a command that the list must not be empty in, or one that it may
be empty in. -/
inductive Surroundings where
  | line
  | body
  | arm
deriving DecidableEq, Repr

/-- The stream that a word after `>&` or `<&` names, if it is written out. -/
def streamOf (fd : Nat) (w : Word) : Redirect :=
  match plain? w with
  | some [c] =>
      if isDigit c then .stream fd (some (c.toNat - 48))
      else if c = '-' then .stream fd none
      else .named fd w
  | _ => .named fd w

/-- Reads what follows the sign of a redirection. -/
def readTarget (inner : Inner) : Parser Redirect := do
  let redirect := (← get).redirect
  match redirect with
  | .text fd number =>
      let below := (← get).below
      expect { mark := true }
      if (← token inner) ≠ .word then unexpected
      let r ← get
      let b : Below :=
        { below.getD ⟨number, [], false, false⟩ with mark := literal r.word, literal := r.quoted }
      set { r with waiting := r.waiting ++ [b] }
      pure (.text fd number)
  | _ =>
      if (← token inner) ≠ .word then unexpected
      let w := (← get).word
      match redirect with
      | .file fd direction _ => pure (.file fd direction w)
      | .named fd _ => pure (streamOf fd w)
      | r => pure r

/-- Reads redirections. -/
def readRedirects (inner : Inner) : Nat → List Redirect → Parser (List Redirect)
  | 0, done => pure done.reverse
  | fuel + 1, done => do
      if (← token inner) = .redirection then
        let redirect ← readTarget inner
        readRedirects inner fuel (redirect :: done)
      else
        putBackToken
        pure done.reverse

/-- Reads words to the end of a line. -/
def readWords (inner : Inner) : Nat → List Word → Parser (List Word)
  | 0, done => pure done.reverse
  | fuel + 1, done => do
      if (← token inner) = .word then
        let w := (← get).word
        readWords inner fuel (w :: done)
      else pure done.reverse

/-- Reads the patterns of an arm up to the closing parenthesis; the first one has been read. -/
def readPatterns (inner : Inner) : Nat → List Word → Parser (List Word)
  | 0, done => pure done.reverse
  | fuel + 1, done => do
      let done := (← get).word :: done
      if (← token inner) = .bar then
        let _ ← token inner
        readPatterns inner fuel done
      else
        if (← get).last ≠ .closing then expecting .closing
        pure done.reverse

/-- The commands that the shell itself runs and that no function may be named after. -/
def reserved : List String :=
  [".", ":", "break", "continue", "eval", "exec", "exit", "export", "local", "readonly", "return",
   "set", "shift", "times", "trap", "unset"]

/-- A simple command that is being read. -/
structure Sketch where
  settings : List Word := []
  words : List Word := []
  redirects : List Redirect := []

/-! ### Commands -/

mutual

/-- Reads commands up to the end of a line, or of the surrounding command; none at the end of the
input. -/
def list : Nat → Surroundings → Parser (Option Command)
  | 0, _ => pure none
  | fuel + 1, s => listFrom fuel s (s == .arm) none

/-- Reads the commands that follow others. -/
def listFrom : Nat → Surroundings → Bool → Option Command → Parser (Option Command)
  | 0, _, _, done => pure done
  | fuel + 1, s, mayEnd, done => do
      let inner := innerOf fuel
      expect { lines := s != .line, keywords := true, aliases := true }
      let t ← token inner
      if t = .newline then
        readTexts inner
        pure (some (done.getD .empty))
      else if t = .eof then
        readTexts inner
        modify fun r => { r with again := true, last := .eof }
        pure (if s = .line then done else some (done.getD .empty))
      else
        putBackToken
        if mayEnd && t.endsList && s != .line then pure (some (done.getD .empty))
        else
          let c ← chain fuel
          let t ← token inner
          let c :=
            if t = .ampersand then
              match c with
              | .pipe commands _ => .pipe commands true
              | .redirected line body redirects => .aside line body redirects
              | c => .aside 0 c []
            else c
          let done :=
            match done with
            | some first => .seq first c
            | none => c
          if t = .newline ∨ t = .eof then
            putBackToken
            listFrom fuel s true (some done)
          else if t = .ampersand ∨ t = .semicolon then listFrom fuel s true (some done)
          else
            if s = .line then unexpected
            putBackToken
            pure (some done)

/-- Reads commands joined by `&&` and `||`. -/
def chain : Nat → Parser Command
  | 0 => pure .empty
  | fuel + 1 => do
      let first ← pipeline fuel
      chainFrom fuel first

/-- Reads what is joined to commands by `&&` and `||`. -/
def chainFrom : Nat → Command → Parser Command
  | 0, first => pure first
  | fuel + 1, first => do
      match ← token (innerOf fuel) with
      | .andAlso =>
          expect .below
          let second ← pipeline fuel
          chainFrom fuel (.both first second)
      | .orElse =>
          expect .below
          let second ← pipeline fuel
          chainFrom fuel (.either first second)
      | _ =>
          putBackToken
          pure first

/-- Reads commands joined by `|`, after an optional `!`. -/
def pipeline : Nat → Parser Command
  | 0 => pure .empty
  | fuel + 1 => do
      let negated := (← token (innerOf fuel)) == .keyword "!"
      if negated then expect .command else putBackToken
      let first ← command fuel
      let rest ← pipelineFrom fuel []
      let c := if rest.isEmpty then first else .pipe (first :: rest) false
      pure (if negated then .negate c else c)

/-- Reads the commands after a `|`. -/
def pipelineFrom : Nat → List Command → Parser (List Command)
  | 0, done => pure done.reverse
  | fuel + 1, done => do
      if (← token (innerOf fuel)) = .bar then
        expect .below
        let c ← command fuel
        pipelineFrom fuel (c :: done)
      else
        putBackToken
        pure done.reverse

/-- Reads a command. -/
def command : Nat → Parser Command
  | 0 => pure .empty
  | fuel + 1 => do
      let inner := innerOf fuel
      let line := (← get).line
      let finish (close : Token) (c : Command) : Parser Command := do
        if (← token inner) ≠ close then expecting close
        withRedirects fuel line c
      match ← token inner with
      | .keyword "if" => finish (.keyword "fi") (← choice fuel)
      | .keyword "while" => finish (.keyword "done") (← loop fuel false)
      | .keyword "until" => finish (.keyword "done") (← loop fuel true)
      | .keyword "for" => finish (.keyword "done") (← each fuel line)
      | .keyword "case" => withRedirects fuel line (← select fuel line)
      | .opening => finish .closing (.subshell line (← body fuel .body) [])
      | .keyword "\x7b" => finish (.keyword "\x7d") (← body fuel .body)
      | .word | .redirection =>
          putBackToken
          simple fuel
      | _ => unexpected

/-- Reads the commands in another one. -/
def body : Nat → Surroundings → Parser Command
  | 0, _ => pure .empty
  | fuel + 1, s => do pure ((← list fuel s).getD .empty)

/-- Reads redirections after a command. -/
def withRedirects : Nat → Nat → Command → Parser Command
  | 0, _, c => pure c
  | fuel + 1, line, c => do
      expect .command
      let redirects ← readRedirects (innerOf fuel) fuel []
      if redirects.isEmpty then pure c
      else
        match c with
        | .subshell line body _ => pure (.subshell line body redirects)
        | c => pure (.redirected line c redirects)

/-- Reads a condition and what depends on it. -/
def choice : Nat → Parser Command
  | 0 => pure .empty
  | fuel + 1 => do
      let inner := innerOf fuel
      let condition ← body fuel .body
      if (← token inner) ≠ .keyword "then" then expecting (.keyword "then")
      let yes ← body fuel .body
      match ← token inner with
      | .keyword "elif" => pure (.choose condition yes (some (← choice fuel)))
      | .keyword "else" => pure (.choose condition yes (some (← body fuel .body)))
      | _ =>
          putBackToken
          pure (.choose condition yes none)

/-- Reads a condition and what is repeated under it. -/
def loop : Nat → Bool → Parser Command
  | 0, _ => pure .empty
  | fuel + 1, untilTrue => do
      let condition ← body fuel .body
      if (← token (innerOf fuel)) ≠ .keyword "do" then expecting (.keyword "do")
      pure (.loop condition (← body fuel .body) untilTrue)

/-- Reads a name, words, and what is repeated for each of them. -/
def each : Nat → Nat → Parser Command
  | 0, _ => pure .empty
  | fuel + 1, line => do
      let inner := innerOf fuel
      let t ← token inner
      let r ← get
      let name := (plain? r.word).getD []
      if t ≠ .word ∨ r.quoted ∨ !isName name then complain "Bad for loop variable"
      expect .below
      let words ←
        if (← token inner) = .keyword "in" then
          let words ← readWords inner fuel []
          let last := (← get).last
          if last ≠ .newline ∧ last ≠ .semicolon then unexpected
          pure words
        else
          if (← get).last ≠ .semicolon then putBackToken
          pure [[.quote, .param ['@'] .value false [], .quote]]
      expect .below
      if (← token inner) ≠ .keyword "do" then expecting (.keyword "do")
      pure (.each line name words (← body fuel .body))

/-- Reads a subject and the arms for its patterns. -/
def select : Nat → Nat → Parser Command
  | 0, _ => pure .empty
  | fuel + 1, line => do
      let inner := innerOf fuel
      if (← token inner) ≠ .word then expecting .word
      let subject := (← get).word
      expect .below
      if (← token inner) ≠ .keyword "in" then expecting (.keyword "in")
      pure (.select line subject (← arms fuel []))

/-- Reads arms. -/
def arms : Nat → List (List Word × Command) → Parser (List (List Word × Command))
  | 0, done => pure done.reverse
  | fuel + 1, done => do
      let inner := innerOf fuel
      expect { lines := true, keywords := true }
      let t ← token inner
      if t = .keyword "esac" then pure done.reverse
      else
        if t = .opening then let _ ← token inner
        let patterns ← readPatterns inner fuel []
        let c ← body fuel .arm
        let done := (patterns, c) :: done
        expect { lines := true, keywords := true }
        let t ← token inner
        if t = .keyword "esac" then pure done.reverse
        else if t = .endArm then arms fuel done
        else expecting .endArm

/-- Reads a simple command, or the definition of a function. -/
def simple : Nat → Parser Command
  | 0 => pure .empty
  | fuel + 1 => do
      let line := (← get).line
      simpleFrom fuel line true {}

/-- Reads the rest of a simple command. -/
def simpleFrom : Nat → Nat → Bool → Sketch → Parser Command
  | 0, line, _, s => pure (.simple line s.settings.reverse s.words.reverse s.redirects.reverse)
  | fuel + 1, line, atStart, s => do
      let inner := innerOf fuel
      expect { aliases := atStart }
      let t ← token inner
      let w := (← get).word
      match t with
      | .word =>
          if atStart && isSetting w then
            simpleFrom fuel line true { s with settings := w :: s.settings }
          else simpleFrom fuel line false { s with words := w :: s.words }
      | .redirection =>
          let redirect ← readTarget inner
          simpleFrom fuel line atStart { s with redirects := redirect :: s.redirects }
      | t =>
          if t = .opening ∧ s.words.length = 1 ∧ s.settings.isEmpty ∧ s.redirects.isEmpty then
            if (← token inner) ≠ .closing then expecting .closing
            let name := ((s.words.head?).bind plain?).getD []
            if !isName name || reserved.contains (String.ofList name) then
              complain "Bad function name"
            expect .below
            let line := (← get).line
            pure (.define line name (← command fuel))
          else
            putBackToken
            pure (.simple line s.settings.reverse s.words.reverse s.redirects.reverse)

/-- How the commands of a substitution are read. -/
def innerOf : Nat → Inner
  | 0 => ⟨pure .empty, pure .empty⟩
  | fuel + 1 =>
      { parenthesized := do
          let c ← body fuel .arm
          if (← token (innerOf fuel)) ≠ .closing then expecting .closing
          let r ← get
          let _ ← within [] (readTexts (innerOf fuel))
          modify fun s => { s with line := r.line }
          pure c
        quoted := do
          let c ← body fuel .arm
          readTexts (innerOf fuel)
          pure c }

end

/-! ### Scripts -/

/-- What reading a part of a script comes to: commands and whether the input ends after them, the end
of the input, or a complaint. -/
inductive Step where
  | commands (c : Command) (isLast : Bool)
  | done
  | complaint (c : Complaint)

/-- A reader at the beginning of a script. -/
def Reader.ofScript (script : Bytes) : Reader :=
  { segments := [{ rest := script }], fuel := 4 * script.length + 10000 }

/-- The word that a text is in quotes, if it is complete. -/
def quotedWord? (text : Bytes) : Option Word :=
  let r := Reader.ofScript text
  match (readText (innerOf r.fuel) ⟨0, ['\x00'], false, false⟩).run r with
  | .ok _ r => (r.texts.head?).map (·.2)
  | .error _ _ => none

/-- What a reader has read up to another state. -/
def Reader.taken (r next : Reader) : Bytes :=
  let rest (r : Reader) : Bytes := (r.segments.getLast?.map (·.rest)).getD []
  (rest r).take ((rest r).length - (rest next).length)

/-- The commands that a script goes on with, up to the end of a line. -/
def next (r : Reader) : Step × Reader :=
  let r := { r with again := false, expect := {}, waiting := [] }
  match (list r.fuel .line).run r with
  | .ok (some c) r => (.commands c (r.again && r.last == .eof), r)
  | .ok none r => (.done, r)
  | .error complaint r => (.complaint complaint, r)

end DockerClient.Script
