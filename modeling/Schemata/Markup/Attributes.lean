import Schemata.Markup.Value

/-!
# Attributes of a tag

Behind its name a tag lists attributes: a key, `=`, and a value in single or double quotes, with
white space around any of them.  A key is everything up to `=` or white space, and its first
character may be anything.  The first problem in order of the text is the one reported.

* `localName_of_not_mem` - a name without a colon is its own local name;
* `attributesFrom_space` - white space alone holds no attribute.
-/

namespace Schemata.Markup

/-- White space of markup: space, tab, line feed and carriage return. -/
def isSpace (c : Char) : Bool :=
  c == ' ' || c == '\t' || c == '\n' || c == '\r'

/-- The part of a name behind its last colon. -/
def localName (name : List Char) : String :=
  String.ofList (name.reverse.takeWhile (· ≠ ':')).reverse

/-- The attributes of a tag by local name, in order. -/
abbrev Attributes := List (String × String)

/-- The character may stand in a key. -/
def isKeyChar (c : Char) : Bool := c != '=' && !isSpace c

/-- The part of a key that white space or `=` ends, and what comes next. -/
def splitKey (cs : List Char) : List Char × List Char :=
  (cs.takeWhile isKeyChar, cs.dropWhile isKeyChar)

/-- White space, and what comes next. -/
def splitSpace (cs : List Char) : List Char × List Char :=
  (cs.takeWhile isSpace, cs.dropWhile isSpace)

/-- The text behind the `=` that follows a key, and its position. -/
def afterEquals (total position : Nat) (cs : List Char) :
    Except AttributeProblem (List Char × Nat) :=
  let (space, rest) := splitSpace cs
  match rest with
  | [] => .error (.equalsExpected total)
  | '=' :: value => .ok (value, position + space.length + 1)
  | _ => .error (.equalsExpected (position + space.length))

/-- A quoted value, the text behind it, and the position of that text. -/
def quotedValue (total position : Nat) (cs : List Char) :
    Except AttributeProblem (List Char × List Char × Nat) :=
  let (space, rest) := splitSpace cs
  match rest with
  | [] => .error (.valueExpected total)
  | quote :: inner =>
    if quote = '"' ∨ quote = '\'' then
      let (value, behind) := inner.span (· != quote)
      match behind with
      | [] => .error (.quoteExpected total quote)
      | _ :: later => .ok (value, later, position + space.length + byteLength value + 2)
    else .error (.unquotedValue (position + space.length))

/-- The attributes of the text `cs`, which stands at `position` of a tag of `total` bytes; `seen`
holds the keys so far with their positions.  Every attribute takes a character, so `fuel` above the
length of the text is never used up. -/
def attributesFrom (total : Nat) :
    Nat → List (List Char × Nat) → Nat → List Char → Except AttributeProblem Attributes
  | 0, _, _, _ => .ok []
  | fuel + 1, seen, position, cs =>
    let (space, rest) := splitSpace cs
    match rest with
    | [] => .ok []
    | first :: behind => do
      let start := position + space.length
      let (tail, rest) := splitKey behind
      let key := first :: tail
      let (rest, position) ← afterEquals total (start + byteLength key) rest
      match seen.lookup key with
      | some previous => .error (.duplicate start previous)
      | none =>
        let (value, rest, position) ← quotedValue total position rest
        match unescape value with
        | .error problem => .error (.value problem)
        | .ok text =>
          let later ← attributesFrom total fuel ((key, start) :: seen) position rest
          return (localName key, text) :: later

/-- The attributes of a tag, whose text holds the name first. -/
def attributesOf (content : List Char) : Except AttributeProblem Attributes :=
  let (name, rest) := content.span (!isSpace ·)
  attributesFrom (byteLength content) (rest.length + 1) [] (byteLength name) rest

/-- White space is split off whole. -/
theorem splitSpace_of_forall {cs : List Char} (h : ∀ c ∈ cs, isSpace c) :
    splitSpace cs = (cs, []) := by
  have htake : (cs ++ []).takeWhile isSpace = cs ++ [].takeWhile isSpace :=
    List.takeWhile_append_of_pos h
  have hdrop : (cs ++ []).dropWhile isSpace = [].dropWhile isSpace :=
    List.dropWhile_append_of_pos h
  simp only [List.append_nil, List.takeWhile_nil, List.dropWhile_nil] at htake hdrop
  rw [splitSpace, htake, hdrop]

/-- White space alone holds no attribute. -/
theorem attributesFrom_space {total fuel position : Nat} {seen : List (List Char × Nat)}
    {cs : List Char} (h : ∀ c ∈ cs, isSpace c) :
    attributesFrom total (fuel + 1) seen position cs = .ok [] := by
  simp [attributesFrom, splitSpace_of_forall h]

/-- A name without a colon is its own local name. -/
theorem localName_of_not_mem {name : List Char} (h : ':' ∉ name) :
    localName name = String.ofList name := by
  have hall : ∀ c ∈ name.reverse, decide (c ≠ ':') = true := by
    intro c hmem
    exact decide_eq_true fun hc => h (hc ▸ List.mem_reverse.1 hmem)
  have htake : (name.reverse ++ []).takeWhile (· ≠ ':') = name.reverse ++ [].takeWhile (· ≠ ':') :=
    List.takeWhile_append_of_pos hall
  simp only [List.append_nil, List.takeWhile_nil] at htake
  rw [localName, htake, List.reverse_reverse]

end Schemata.Markup
