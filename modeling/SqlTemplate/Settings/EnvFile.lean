import SqlTemplate.Text.Blank

/-!
# Environment files

A line sets a name to a value: bare up to a comment, or in single or double quotes with escapes and
over any number of lines. A line that cannot be read is passed over. Values may refer to earlier
names and to the environment as `${NAME}` or `${NAME:-default}`.
-/

namespace SqlTemplate.EnvFile

/-- White space within a line. -/
def isLineBlank (c : CodePoint) : Bool :=
  c.isBlank && c ≠ CodePoint.ofChar '\n' && c ≠ CodePoint.ofChar '\r'

def isLineEnd (c : CodePoint) : Bool :=
  c = '\n' || c = '\r'

/-- Writes every line end as a line feed. -/
def withLineFeeds : Text → Text
  | [] => []
  | c :: rest =>
    if c = '\r' then
      match rest with
      | [] => [CodePoint.ofChar '\n']
      | d :: more => if d = '\n' then CodePoint.ofChar '\n' :: withLineFeeds more
        else CodePoint.ofChar '\n' :: withLineFeeds (d :: more)
    else c :: withLineFeeds rest

/-- How many code points stand before the quote that closes a quoted value, of which `read` have
been read. A code point behind a backslash belongs to the value. -/
def quotedLength (quote : CodePoint) (read : Nat) : Text → Option Nat
  | [] => none
  | c :: rest =>
    if c = quote then some read
    else if c = '\\' then
      match rest with
      | [] => none
      | _ :: more => quotedLength quote (read + 2) more
    else quotedLength quote (read + 1) rest

/-- The code point that a backslash and `c` stand for in double quotes. -/
def doubleEscape? (c : CodePoint) : Option CodePoint :=
  if c = '\\' ∨ c = '\x27' ∨ c = '\x22' then some c
  else if c = 'a' then CodePoint.ofNat? 7
  else if c = 'b' then CodePoint.ofNat? 8
  else if c = 'f' then CodePoint.ofNat? 12
  else if c = 'n' then CodePoint.ofNat? 10
  else if c = 'r' then CodePoint.ofNat? 13
  else if c = 't' then CodePoint.ofNat? 9
  else if c = 'v' then CodePoint.ofNat? 11
  else none

def singleEscape? (c : CodePoint) : Option CodePoint :=
  if c = '\\' ∨ c = '\x27' then some c else none

/-- Replaces the escapes that `escape?` knows. -/
def unescape (escape? : CodePoint → Option CodePoint) : Text → Text
  | [] => []
  | c :: rest =>
    match rest with
    | [] => [c]
    | d :: more =>
      if c = '\\' then
        match escape? d with
        | some e => e :: unescape escape? more
        | none => c :: unescape escape? (d :: more)
      else c :: unescape escape? (d :: more)

/-- A bare value up to white space and a comment sign; `blanks` holds the white space just read, in
reverse. -/
def bareOnto (blanks value : Text) : Text → Text
  | [] => value.reverse
  | c :: rest =>
    if c.isBlank then bareOnto (c :: blanks) value rest
    else if c = '#' ∧ blanks ≠ [] then value.reverse
    else bareOnto [] (c :: (blanks ++ value)) rest

/-- The value behind an equals sign, and what follows it. A comment sign behind white space leaves
the value empty. -/
def readValue (behind : Text) : Option (Text × Text) :=
  let quotedBy (quote : CodePoint) (escape? : CodePoint → Option CodePoint) (rest : Text) :=
    (quotedLength quote 0 rest).map fun n =>
      (unescape escape? (rest.take n), rest.drop (n + 1))
  let t := behind.dropWhile isLineBlank
  match t with
  | [] => some ([], [])
  | c :: rest =>
    if c = '\x27' then quotedBy c singleEscape? rest
    else if c = '\x22' then quotedBy c doubleEscape? rest
    else if c = '#' ∧ behind.head?.any isLineBlank then some ([], t)
    else
      let line := t.takeWhile (!isLineEnd ·)
      some (bareOnto [] [] line, t.drop line.length)

/-- A name in single quotes, or bare. A line that begins with a comment sign has none. -/
def readName (t : Text) : Option (Option Text × Text) :=
  match t with
  | [] => none
  | c :: rest =>
    if c = '#' then some (none, t)
    else if c = '\x27' then
      let name := rest.takeWhile (· ≠ CodePoint.ofChar '\x27')
      if name = [] ∨ name.length = rest.length then none
      else some (some name, rest.drop (name.length + 1))
    else
      let name := t.takeWhile fun c =>
        !c.isBlank && c ≠ CodePoint.ofChar '=' && c ≠ CodePoint.ofChar '#'
      if name = [] then none else some (some name, t.drop name.length)

/-- Drops the word `export` and the blanks behind it. -/
def dropExport (t : Text) : Text :=
  match Text.after? "export" t with
  | some (c :: rest) => if isLineBlank c then (c :: rest).dropWhile isLineBlank else t
  | _ => t

/-- Drops a comment and the end of the line; anything else before it makes the line unreadable. -/
def endLine? (t : Text) : Option Text :=
  let t := t.dropWhile isLineBlank
  let t := match t with
    | [] => []
    | c :: _ => if c = '#' then t.dropWhile (!isLineEnd ·) else t
  match t with
  | [] => some []
  | c :: rest => if isLineEnd c then some rest else none

/-- A setting that a line makes: a name, and a value unless there is no equals sign. -/
abbrev Setting := Text × Option Text

/-- What one line sets, if it sets anything, and the lines after it. -/
def readLine (t : Text) : Option Setting × Text :=
  let skipped (t : Text) : Option Setting × Text :=
    (none, (t.dropWhile (!isLineEnd ·)).drop 1)
  let start := dropExport t
  match readName start with
  | none => skipped start
  | some (name, rest) =>
    let rest := rest.dropWhile isLineBlank
    let value? : Option (Option Text × Text) :=
      match rest with
      | [] => some (none, [])
      | c :: more =>
        if c = '=' then (readValue more).map fun (v, rest) => (some v, rest)
        else some (none, c :: more)
    match value? with
    | none => skipped rest
    | some (value, rest) =>
      match endLine? rest with
      | none => skipped rest
      | some rest => (name.map fun name => (name, value), rest)

/-- The settings of a file. Each line takes at least one code point, so the length of the text
bounds their number. -/
def readLines : Nat → Text → List Setting
  | 0, _ => []
  | fuel + 1, t =>
    match t.dropWhile CodePoint.isBlank with
    | [] => []
    | start =>
      let (setting, rest) := readLine start
      setting.toList ++ readLines fuel rest

/-- A reference at the begin of a text: its name, its default, and what follows it. -/
def reference? (t : Text) : Option (Text × Text × Text) :=
  (Text.after? "$\x7b" t).bind fun rest =>
    let name := rest.takeWhile fun c => c ≠ CodePoint.ofChar '\x7d' && c ≠ CodePoint.ofChar ':'
    let behind := rest.drop name.length
    match behind with
    | [] => none
    | c :: more =>
      if c = '\x7d' then some (name, [], more)
      else
        (Text.after? ":-" behind).bind fun rest =>
          let default := rest.takeWhile (· ≠ CodePoint.ofChar '\x7d')
          match rest.drop default.length with
          | [] => none
          | _ :: more => some (name, default, more)

/-- Replaces references; the next `skip` code points belong to one already replaced. -/
def expand (known : Text → Option Text) (skip : Nat) : Text → Text
  | [] => []
  | c :: rest =>
    match skip with
    | skip + 1 => expand known skip rest
    | 0 =>
      match reference? (c :: rest) with
      | none => c :: expand known 0 rest
      | some (name, default, more) =>
        (known name).getD default ++ expand known (rest.length - more.length) rest

/-- The value that the last of the settings gives to a name. -/
def lookup (settings : List Setting) (name : Text) : Option (Option Text) :=
  (settings.reverse.find? fun s => decide (s.1 = name)).map (·.2)

/-- The settings with their references replaced, an earlier line before the environment. A name
without a value counts as empty. -/
def expandAll (environment : List (Text × Text)) (settings : List Setting) : List Setting :=
  settings.foldl (fun done (name, value) =>
    let known (reference : Text) : Option Text :=
      match lookup done reference with
      | some value => some (value.getD [])
      | none => lookup (environment.map fun (n, v) => (n, some v)) reference |>.map (·.getD [])
    done ++ [(name, value.map (expand known 0))]) []

/-- Sets a name. One that is there already keeps its place and takes the new value. -/
def put (setting : Setting) : List Setting → List Setting
  | [] => [setting]
  | other :: rest =>
    if other.1 = setting.1 then setting :: rest else other :: put setting rest

/-- A text without the byte order mark that it may begin with. -/
def withoutMark (t : Text) : Text :=
  match t with
  | [] => []
  | c :: rest => if c.val = 0xFEFF then rest else t

/-- The settings that a file makes in an environment, each name once. -/
def read (environment : List (Text × Text)) (content : Text) : List Setting :=
  let content := withLineFeeds (withoutMark content)
  (expandAll environment (readLines (content.length + 1) content)).foldl
    (fun done setting => put setting done) []

end SqlTemplate.EnvFile
