import Patchbay.Simulation.Shell.Source

/-!
# Reading scripts

A script is read line by line, so that what stands before a fault is still run. The reader takes
tokens: words, signs, and words that are keys where a command can begin. The text of a `<<`
redirection begins on the line after it and is taken at the end of the line.
-/

namespace Patchbay.Shell

namespace Parser

mutual

def pieces (fuel : Nat) (mode : Mode) : Parser Word :=
  match fuel with
  | 0 => fail "word too long"
  | fuel + 1 => do
    let source ← get
    let text (t : List Char) (quoted : Bool) : Piece := .text (String.ofList t) quoted
    match source.rest with
    | [] =>
      match mode.endFault? with
      | some message => fail message
      | none => return []
    | c :: s =>
      match mode, c, s with
      | .quoted, '"', _ | .brace, '\x7d', _ | .quotedBrace, '\x7d', _ =>
        skip [] s
        return []
      | .calculation 0, ')', ')' :: s =>
        skip [] s
        return []
      | .calculation (n + 1), ')', s =>
        skip [] s
        return text [')'] true :: (← pieces fuel (.calculation n))
      | .calculation n, '(', s =>
        skip [] s
        return text ['('] true :: (← pieces fuel (.calculation (n + 1)))
      | .calculation n, '"', s =>
        skip [] s
        pieces fuel (.calculation n)
      | mode, '\\', '\n' :: s =>
        skip ['\n'] s
        pieces fuel mode
      | .plain, '\\', d :: s | .brace, '\\', d :: s =>
        skip [] s
        return text [d] true :: (← pieces fuel mode)
      | mode, '\\', d :: s =>
        if d ∈ mode.escapable then
          skip [] s
          return text [d] true :: (← pieces fuel mode)
        else
          skip [] (d :: s)
          return text ['\\'] mode.isQuoted :: (← pieces fuel mode)
      | mode, '$', s =>
        skip [] s
        let p ← dollar fuel mode.isQuoted
        return p :: (← pieces fuel mode)
      | mode, '\x60', s =>
        let p ← backquote fuel mode.isQuoted s
        return p :: (← pieces fuel mode)
      | .document, c, s =>
        skip [c] s
        return text [c] true :: (← pieces fuel .document)
      | .plain, '\'', s | .brace, '\'', s =>
        let inner := s.takeWhile (· ≠ '\'')
        if inner.length = s.length then
          skip s []
          fail "Unterminated quoted string"
        skip inner (s.drop (inner.length + 1))
        return text inner true :: (← pieces fuel mode)
      | mode, '"', s =>
        skip [] s
        let inner ← pieces fuel .quoted
        let inner := if inner.isEmpty then [text [] true] else inner
        return inner ++ (← pieces fuel mode)
      | .plain, c, s =>
        if isBreak c then return []
        else
          skip [] s
          return text [c] false :: (← pieces fuel .plain)
      | mode, c, s =>
        skip [c] s
        return text [c] mode.isQuoted :: (← pieces fuel mode)

/-- What a dollar sign stands for, after it. -/
def dollar (fuel : Nat) (quoted : Bool) : Parser Piece :=
  match fuel with
  | 0 => fail "word too long"
  | fuel + 1 => do
    match (← get).rest with
    | '(' :: '(' :: s =>
      skip [] s
      return .calculation (join (← pieces fuel (.calculation 0))) quoted
    | '(' :: s =>
      skip [] s
      let body ← commands fuel true
      match ← next fuel true true with
      | .sign ")" => return .output body quoted
      | t => expected t ")"
    | '\x7b' :: s =>
      skip [] s
      braced fuel quoted
    | c :: s =>
      if isNameStart c then
        let name := (c :: s).takeWhile isNamePart
        skip [] ((c :: s).drop name.length)
        return .parameter (String.ofList name) .value [] quoted
      else if isSpecial c then
        skip [] s
        return .parameter (String.singleton c) .value [] quoted
      else return .text "$" quoted
    | [] => return .text "$" quoted

def braced (fuel : Nat) (quoted : Bool) : Parser Piece :=
  match fuel with
  | 0 => fail "word too long"
  | fuel + 1 => do
    let s := (← get).rest
    let bad : Parser Piece := do
      let _ ← pieces fuel (if quoted then .quotedBrace else .brace)
      return .parameter "" .unknown [] quoted
    let plain (s : List Char) : Parser Piece :=
      match bracedName? s with
      | none => bad
      | some (name, rest) => do
        let name := String.ofList name
        match rest, useOf rest with
        | '\x7d' :: rest, _ =>
          skip [] rest
          return .parameter name .value [] quoted
        | _, some (use, rest) =>
          skip [] rest
          let cuts :=
            match use with
            | .withoutStart _ | .withoutEnd _ => true
            | _ => false
          let word ← pieces fuel (if quoted && !cuts then .quotedBrace else .brace)
          return .parameter name use (join word) quoted
        | _, none => bad
    match s with
    | '#' :: rest =>
      match bracedName? rest with
      | some (name, '\x7d' :: rest) =>
        skip [] rest
        return .parameter (String.ofList name) .length [] quoted
      | _ => plain s
    | _ => plain s

/-- What commands between backquotes put out, after the first of them. -/
def backquote (fuel : Nat) (quoted : Bool) (s : List Char) : Parser Piece :=
  match fuel with
  | 0 => fail "word too long"
  | fuel + 1 =>
    match backquoted? quoted s with
    | none => do
      skip s []
      fail "EOF in backquote substitution"
    | some (text, rest) => do
      let source ← get
      set { source with rest := text, ahead := none }
      let body ← commands fuel true
      match ← next fuel true true with
      | .eof =>
        modify fun inner => { inner with
          rest, ahead := none
          line := source.line + linesIn (s.take (s.length - rest.length)) }
        return .output body quoted
      | t => unexpected t

def token (fuel : Nat) : Parser Token :=
  match fuel with
  | 0 => fail "line too long"
  | fuel + 1 => do
    match (← get).ahead with
    | some t =>
      modify fun source => { source with ahead := none }
      return t
    | none =>
      skipBlanks
      let s := (← get).rest
      let redirection (channel : Option Nat) (c : Char) (s : List Char) : Parser Token := do
        let (direction, stripsTabs, rest) := direction c s
        skip [] rest
        return .redirection (channel.getD (if c = '<' then 0 else 1)) direction stripsTabs
      match s, sign? s with
      | [], _ => return .eof
      | '\n' :: rest, _ =>
        skip ['\n'] rest
        documents fuel (← get).wanted
        return .newline
      | _, some (t, rest) =>
        skip [] rest
        return .sign t
      | '<' :: rest, _ => redirection none '<' rest
      | '>' :: rest, _ => redirection none '>' rest
      | _, none =>
        let w := join (← pieces fuel .plain)
        match w, (← get).rest with
        | [.text t false], c :: rest =>
          match t.toList, c with
          | [d], '<' | [d], '>' =>
            if d.isDigit then redirection (some (d.toNat - '0'.toNat)) c rest
            else return .word w
          | _, _ => return .word w
        | _, _ => return .word w

/-- Takes the texts that follow after a line. -/
def documents (fuel : Nat) (wanted : List Wanted) : Parser Unit :=
  match fuel with
  | 0 => fail "line too long"
  | fuel + 1 =>
    match wanted with
    | [] => modify fun source => { source with wanted := [] }
    | w :: wanted => do
      let source ← get
      let (body, rest) := hereLines w (source.rest.length + 1) source.rest
      let line := source.line + linesIn (source.rest.take (source.rest.length - rest.length))
      let word ←
        if w.literal then pure [Piece.text (String.ofList body) true]
        else do
          set { source with rest := body }
          pieces fuel .document
      modify fun inner => { inner with rest, line, texts := (w.number, join word) :: inner.texts }
      documents fuel wanted

/-- The next token: after line ends if they do not count, and with keys told apart if asked for. A
word may stand for other text if `replaces` says so. -/
def next (fuel : Nat) (skipsLines findsKeys : Bool) (replaces : Bool := false) : Parser Token :=
  match fuel with
  | 0 => fail "line too long"
  | fuel + 1 => do
    let isAhead := (← get).ahead.isSome
    let t ← token fuel
    let source ← get
    let (active, left) := source.replaced.partition (·.after ≤ source.rest.length)
    set { source with replaced := active }
    match t with
    | .newline => if skipsLines then next fuel skipsLines findsKeys replaces else return .newline
    | .word w =>
      match w with
      | [.text t false] =>
        if findsKeys && keywords.contains t then return .keyword t
        else
          let source ← get
          let mayReplace := (replaces || left.any (·.goesOn)) && !isAhead
          match mayReplace, source.aliases.lookup t, source.replaced.find? (·.word = t) with
          | true, some text, none =>
            let text := text.toList
            let goesOn := text.getLast?.any (· ∈ [' ', '\t'])
            set { source with
              rest := text ++ source.rest
              replaced := ⟨t, source.rest.length, goesOn⟩ :: source.replaced }
            next fuel skipsLines findsKeys true
          | _, _, _ => return .word w
      | w => return .word w
    | t => return t

def redirection (fuel : Nat) (channel : Nat) (direction : Direction) (stripsTabs : Bool) :
    Parser Redirection :=
  match fuel with
  | 0 => fail "line too long"
  | fuel + 1 => do
    match direction with
    | .here _ =>
      skipBlanks
      let source ← get
      match source.rest with
      | [] => unexpected .eof
      | '\n' :: _ => unexpected .newline
      | '<' :: _ | '>' :: _ => unexpected (.redirection 0 .input false)
      | s =>
        match sign? s with
        | some (t, _) => unexpected (.sign t)
        | none =>
          let (text, literal, rest) := delimiter none s
          let number := source.nextText
          let w : Wanted := { number, delimiter := text, literal, stripsTabs }
          set { source with
            rest, nextText := number + 1, wanted := source.wanted ++ [w] }
          return .mk channel (.here number) []
    | direction =>
      match ← next fuel false false with
      | .word w => return .mk channel direction w
      | t => unexpected t

def redirections (fuel : Nat) : Parser (List Redirection) :=
  match fuel with
  | 0 => fail "line too long"
  | fuel + 1 => do
    match ← next fuel false true with
    | .redirection channel direction stripsTabs =>
      let r ← redirection fuel channel direction stripsTabs
      return r :: (← redirections fuel)
    | t =>
      putBack t
      return []

def words (fuel : Nat) : Parser (List Word) :=
  match fuel with
  | 0 => fail "line too long"
  | fuel + 1 => do
    match ← next fuel false false with
    | .word w => return w :: (← words fuel)
    | .newline | .sign ";" => return []
    | t => unexpected t

def simple (fuel : Nat) (line : Nat) (assignments : List (String × Word)) (words : List Word)
    (rs : List Redirection) : Parser Command :=
  match fuel with
  | 0 => fail "line too long"
  | fuel + 1 => do
    let done : Parser Command :=
      return .simple line assignments.reverse words.reverse rs.reverse
    match ← next fuel false false words.isEmpty with
    | .word w =>
      match words, assignment? w with
      | [], some a => simple fuel line (a :: assignments) words rs
      | _, _ => simple fuel line assignments (w :: words) rs
    | .redirection channel direction stripsTabs =>
      let r ← redirection fuel channel direction stripsTabs
      simple fuel line assignments words (r :: rs)
    | .sign "(" =>
      match assignments, words, rs with
      | [], [w], [] =>
        match ← next fuel false false with
        | .sign ")" =>
          match w with
          | [.text name false] =>
            if isName name.toList && !specialCommands.contains name then
              return .define name (← command fuel true)
            else fail "Bad function name"
          | _ => fail "Bad function name"
        | t => expected t ")"
      | _, _, _ =>
        putBack (.sign "(")
        done
    | t =>
      putBack t
      done

def branches (fuel : Nat) : Parser (List Branch) :=
  match fuel with
  | 0 => fail "line too long"
  | fuel + 1 => do
    match ← next fuel true true with
    | .keyword "esac" => return []
    | t =>
      let t ← if t matches .sign "(" then next fuel false false else pure t
      let patterns ← patterns fuel t
      let body ← commands fuel true
      match ← next fuel true true with
      | .keyword "esac" => return [.mk patterns body]
      | .sign ";;" => return .mk patterns body :: (← branches fuel)
      | t => expected t ";;"

def patterns (fuel : Nat) (first : Token) : Parser (List Word) :=
  match fuel with
  | 0 => fail "line too long"
  | fuel + 1 => do
    let w :=
      match first with
      | .word w => w
      | .keyword k => [Piece.text k false]
      | _ => []
    match ← next fuel false false with
    | .sign "|" => return w :: (← patterns fuel (← next fuel false false))
    | .sign ")" => return [w]
    | t => expected t ")"

/-- The rest of a condition after its first commands. -/
def conditional (fuel : Nat) : Parser Command :=
  match fuel with
  | 0 => fail "line too long"
  | fuel + 1 => do
    let condition ← commands fuel false
    match ← next fuel true true with
    | .keyword "then" =>
      let yes ← commands fuel false
      match ← next fuel true true with
      | .keyword "elif" => return .branch condition yes [← conditional fuel]
      | .keyword "else" =>
        let no ← commands fuel false
        match ← next fuel true true with
        | .keyword "fi" => return .branch condition yes no
        | t => expected t "fi"
      | .keyword "fi" => return .branch condition yes []
      | t => expected t "fi"
    | t => expected t "then"

/-- Commands between two keys. -/
def enclosed (fuel : Nat) (opening closing : String) : Parser (List Command) :=
  match fuel with
  | 0 => fail "line too long"
  | fuel + 1 => do
    let t ← next fuel true true
    if tokenText t = s!"\"{opening}\"" then
      let body ← commands fuel false
      let t ← next fuel true true
      if tokenText t = s!"\"{closing}\"" then return body else expected t closing
    else expected t opening

def command (fuel : Nat) (skipsLines : Bool) : Parser Command :=
  match fuel with
  | 0 => fail "line too long"
  | fuel + 1 => do
    let t ← next fuel skipsLines true true
    let line := (← get).line
    let close (closing : String) (c : Command) : Parser Command := do
      let t ← next fuel true true
      if tokenText t = s!"\"{closing}\"" then return c else expected t closing
    let compound : Option (Parser Command) :=
      match t with
      | .keyword "if" => some (conditional fuel)
      | .keyword "while" => some do
        let condition ← commands fuel false
        return .loop false condition (← enclosed fuel "do" "done")
      | .keyword "until" => some do
        let condition ← commands fuel false
        return .loop true condition (← enclosed fuel "do" "done")
      | .keyword "for" => some do
        match ← next fuel false false with
        | .word [.text name false] =>
          if !isName name.toList then fail "Bad for loop variable"
          match ← next fuel true true with
          | .keyword "in" =>
            let ws ← words fuel
            return .forEach line name (some ws) (← enclosed fuel "do" "done")
          | .sign ";" => return .forEach line name none (← enclosed fuel "do" "done")
          | t =>
            putBack t
            return .forEach line name none (← enclosed fuel "do" "done")
        | _ => fail "Bad for loop variable"
      | .keyword "case" => some do
        match ← next fuel false false with
        | .word w =>
          match ← next fuel true true with
          | .keyword "in" => return .choice line w (← branches fuel)
          | t => expected t "in"
        | t => fail s!"{tokenText t} unexpected (expecting word)"
      | .keyword "\x7b" => some do
        let body ← commands fuel false
        close "\x7d" (.group body)
      | .sign "(" => some do
        let body ← commands fuel false
        close ")" (.subshell line body)
      | _ => none
    match compound, t with
    | some p, _ =>
      let c ← p
      match ← redirections fuel with
      | [] => return c
      | rs => return .redirected line c rs
    | none, .word _ | none, .redirection .. =>
      putBack t
      simple fuel line [] [] []
    | none, t => unexpected t

def pipeline (fuel : Nat) (skipsLines : Bool) : Parser Command :=
  match fuel with
  | 0 => fail "line too long"
  | fuel + 1 => do
    match ← next fuel skipsLines true true with
    | .keyword "!" => return .not (← piped fuel false)
    | t =>
      putBack t
      piped fuel false

/-- Commands joined by pipes. -/
def piped (fuel : Nat) (skipsLines : Bool) : Parser Command :=
  match fuel with
  | 0 => fail "line too long"
  | fuel + 1 => do
    let c ← command fuel skipsLines
    match ← next fuel false false with
    | .sign "|" =>
      match ← piped fuel true with
      | .pipeline cs => return .pipeline (c :: cs)
      | d => return .pipeline [c, d]
    | t =>
      putBack t
      return c

/-- Commands joined by `&&` and `||`, after the first of them. -/
def chain (fuel : Nat) (c : Command) : Parser Command :=
  match fuel with
  | 0 => fail "line too long"
  | fuel + 1 => do
    match ← next fuel false false with
    | .sign "&&" => chain fuel (.both c (← pipeline fuel true))
    | .sign "||" => chain fuel (.either c (← pipeline fuel true))
    | t =>
      putBack t
      return c

def commands (fuel : Nat) (mayBeEmpty : Bool) : Parser (List Command) :=
  match fuel with
  | 0 => fail "line too long"
  | fuel + 1 => do
    let t ← next fuel true true true
    putBack t
    if t matches .eof || (mayBeEmpty && isEnd t) then return []
    else
      let c ← chain fuel (← pipeline fuel true)
      match ← next fuel false false with
      | .sign "&" => return .background c :: (← commands fuel true)
      | .sign ";" | .newline => return c :: (← commands fuel true)
      | t =>
        putBack t
        return [c]

/-- The commands of a line, or nothing at the end of the script. -/
def lineCommands (fuel : Nat) (first : Bool) : Parser (Option (List Command)) :=
  match fuel with
  | 0 => fail "line too long"
  | fuel + 1 => do
    match ← next fuel false true true with
    | .newline => return some []
    | .eof =>
      putBack .eof
      return if first then none else some []
    | t =>
      putBack t
      let c ← chain fuel (← pipeline fuel false)
      match ← next fuel false false with
      | .sign "&" => return some (.background c :: (← lineCommands fuel false).getD [])
      | .sign ";" => return some (c :: (← lineCommands fuel false).getD [])
      | .newline => return some [c]
      | .eof =>
        putBack .eof
        return some [c]
      | t => unexpected t

end

end Parser

/-- The commands of the next line of a script, or nothing at its end. -/
def Source.nextLine (s : Source) : Except ParseFault (Option (List Command) × Source) :=
  (Parser.lineCommands (16 * (s.rest.length + 4)) true).run s

end Patchbay.Shell
