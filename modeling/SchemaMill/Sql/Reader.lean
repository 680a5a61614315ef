import SchemaMill.Sql.Table

/-!
# Reading table definitions

The tokens of a statement are grouped into the words up to the table name, the table name, the
elements in parentheses and the table options. What is refused is said by `ReadError`.
-/

namespace SchemaMill.Sql

/-- Why a statement is no table definition. -/
inductive ReadError where
  /-- A character starts no lexeme. -/
  | strayCharacter (c : Char)
  /-- The statement does not begin with `CREATE`. -/
  | notCreate
  /-- The words up to the table name do not include `TABLE`. -/
  | notTable
  /-- No table name follows. -/
  | noTableName
  /-- A parenthesis has no partner. -/
  | unbalanced
  /-- The parentheses hold no element. -/
  | noColumns
  /-- A column has no type. -/
  | noType (column : Text)
  /-- A parenthesis after the type of a column has no partner. -/
  | unbalancedType (column : Text)
  deriving DecidableEq, Repr

/-- Why a statement is refused, in words. -/
def ReadError.reason : ReadError → Text
  | strayCharacter c => "unexpected character ".toList ++ quotedChar c
  | notCreate => "not a CREATE statement"
  | notTable => "not a CREATE TABLE statement"
  | noTableName => "missing table name"
  | unbalanced => "unbalanced parentheses"
  | noColumns => "empty column list"
  | noType column => "column ".toList ++ column ++ " has no type".toList
  | unbalancedType column => "unbalanced type arguments on ".toList ++ column

/-- The whole message for a refused statement. -/
def ReadError.message (e : ReadError) : Text := "Cannot parse statement: ".toList ++ e.reason

/-! ### Names -/

/-- The further names of a dotted name, and the tokens after it. -/
def readDotted : List Token → List Identifier × List Token
  | dot :: t :: rest =>
    if dot.isSign '.' && t.isIdentifier then
      (t.identifier :: (readDotted rest).1, (readDotted rest).2)
    else ([], dot :: t :: rest)
  | ts => ([], ts)

theorem length_readDotted_le (ts : List Token) : (readDotted ts).2.length ≤ ts.length := by
  fun_induction readDotted ts with
  | case1 dot t rest _ ih => exact Nat.le_succ_of_le (Nat.le_succ_of_le ih)
  | case2 => exact Nat.le_refl _
  | case3 => exact Nat.le_refl _

/-- The dotted name at the start of the tokens, and the tokens after it. -/
def readName : List Token → Option (QualifiedName × List Token)
  | [] => none
  | t :: rest =>
    if t.isIdentifier then
      let names := t.identifier :: (readDotted rest).1
      some (⟨names.dropLast, names.getLast (List.cons_ne_nil _ _), t.spaced⟩, (readDotted rest).2)
    else none

theorem length_readName_lt {ts rest : List Token} {q : QualifiedName}
    (h : readName ts = some (q, rest)) : rest.length < ts.length := by
  cases ts with
  | nil => cases h
  | cons t ts =>
    rw [readName] at h
    split at h
    · cases h
      exact Nat.lt_succ_of_le (length_readDotted_le ts)
    · cases h

/-! ### Parentheses -/

/-- The tokens up to the parenthesis that closes the last of `depth` open ones, and those after
it. -/
def closeGroup (depth : Nat) : List Token → Option (List Token × List Token)
  | [] => none
  | t :: rest =>
    if t.isSign '(' then
      (closeGroup (depth + 1) rest).map fun (inside, after) => (t :: inside, after)
    else if t.isSign ')' then
      match depth with
      | 0 => none
      | 1 => some ([], rest)
      | d + 2 => (closeGroup (d + 1) rest).map fun (inside, after) => (t :: inside, after)
    else (closeGroup depth rest).map fun (inside, after) => (t :: inside, after)

/-- The tokens between the commas outside all parentheses. -/
def splitAtCommas (depth : Int) : List Token → List (List Token)
  | [] => [[]]
  | t :: rest =>
    if t.isSign ',' && depth == 0 then [] :: splitAtCommas depth rest
    else
      let depth := if t.isSign '(' then depth + 1 else if t.isSign ')' then depth - 1 else depth
      match splitAtCommas depth rest with
      | [] => [[t]]
      | chunk :: chunks => (t :: chunk) :: chunks

/-- The elements between the parentheses of a definition; empty ones are left out. -/
def splitElements (ts : List Token) : List (List Token) :=
  (splitAtCommas 0 ts).filter (!·.isEmpty)

/-- Whether no parenthesis closes that was not opened, when `depth` are open already. -/
def staysOpen (depth : Nat) : List Token → Bool
  | [] => true
  | t :: rest =>
    if t.isSign '(' then staysOpen (depth + 1) rest
    else if t.isSign ')' then
      match depth with
      | 0 => false
      | d + 1 => staysOpen d rest
    else staysOpen depth rest

/-! ### Clauses -/

/-- The parts of a clause: the table name after each `REFERENCES` becomes one part. -/
def liftReferences : List Token → List Part
  | [] => []
  | t :: rest =>
    if t.isWord "REFERENCES" then
      match _h : readName rest with
      | some (q, after) => .token t :: .name q :: liftReferences after
      | none => .token t :: liftReferences rest
    else .token t :: liftReferences rest
termination_by ts => ts.length
decreasing_by
  · exact Nat.lt_succ_of_lt (length_readName_lt _h)
  · exact Nat.lt_succ_self _
  · exact Nat.lt_succ_self _

/-- The character set and the collation of a column. -/
structure ColumnEncoding where
  charset : Option Text := none
  collation : Option Text := none
  deriving DecidableEq, Repr

/-- Takes the clauses for character set and collation out of the options of a column; the last one
of each counts. -/
def extractEncoding (found : ColumnEncoding) : List Token → List Token × ColumnEncoding
  | [] => ([], found)
  | [t] => ([t], found)
  | [t, u] =>
    if t.isWord "CHARSET" then ([], { found with charset := some u.value })
    else if t.isWord "COLLATE" then ([], { found with collation := some u.value })
    else ([t, u], found)
  | t :: u :: v :: rest =>
    if t.isWord "CHARACTER" && u.isWord "SET" then
      extractEncoding { found with charset := some v.value } rest
    else if t.isWord "CHARSET" then
      extractEncoding { found with charset := some u.value } (v :: rest)
    else if t.isWord "COLLATE" then
      extractEncoding { found with collation := some u.value } (v :: rest)
    else
      let (remaining, found) := extractEncoding found (u :: v :: rest)
      (t :: remaining, found)

/-! ### Elements -/

/-- The column that the tokens of an element define. -/
def readColumn (name : Token) (rest : List Token) : Except ReadError Column :=
  match rest with
  | [] => .error (.noType name.value)
  | type :: rest =>
    let column (args rest : List Token) : Column :=
      let (options, encoding) := extractEncoding {} rest
      { name := name.identifier, dataType := type.word, typeArgs := args,
        charset := encoding.charset, collation := encoding.collation,
        options := liftReferences options }
    match rest with
    | [] => .ok (column [] [])
    | t :: rest =>
      if t.isSign '(' then
        match closeGroup 1 rest with
        | none => .error (.unbalancedType name.identifier.name)
        | some (args, after) => .ok (column args after)
      else .ok (column [] (t :: rest))

/-- The element that some tokens make up. -/
def readElement : List Token → Except ReadError Element
  | [] => .error .noColumns
  | t :: rest =>
    if t.isWord "CONSTRAINT" || constraintWords.contains t.word then
      .ok (.constraint ⟨liftReferences (t :: rest)⟩)
    else (readColumn t rest).map .column

/-! ### Statements -/

/-- Words that may stand before the table name. -/
def headWords : List Text :=
  ["CREATE", "TEMPORARY", "TABLE", "IF", "NOT", "EXISTS", "IF NOT EXISTS"].map String.toList

/-- The tokens of a statement without the semicolons at its end. -/
def dropTerminators (ts : List Token) : List Token :=
  (ts.reverse.dropWhile (·.isSign ';')).reverse

/-- Reads what follows the table name. -/
def readBody (head : List Token) (name : QualifiedName) (ts : List Token) :
    Except ReadError Table := do
  let finish (elements : Option (List Element)) (tail : List Token) : Except ReadError Table :=
    if staysOpen 0 tail then .ok { head, name, elements, options := tail } else .error .unbalanced
  match ts with
  | [] => finish none []
  | t :: rest =>
    if t.isSign '(' then
      match closeGroup 1 rest with
      | none => .error .unbalanced
      | some (body, tail) =>
        match splitElements body with
        | [] => .error .noColumns
        | chunks => finish (some (← chunks.mapM readElement)) tail
    else finish none (t :: rest)

/-- The table definition that the tokens of a statement make up. -/
def readTokens (ts : List Token) : Except ReadError Table :=
  let ts := dropTerminators ts
  if !(ts.head?.any (·.isWord "CREATE")) then .error .notCreate
  else
    let head := ts.takeWhile fun t => headWords.contains t.word
    if !(head.any (·.isWord "TABLE")) then .error .notTable
    else match readName (ts.dropWhile fun t => headWords.contains t.word) with
      | none => .error .noTableName
      | some (name, rest) => readBody head name rest

/-- Reads a table definition. -/
def readTable (statement : Text) : Except ReadError Table :=
  match tokenize statement with
  | .error c => .error (.strayCharacter c)
  | .ok ts => readTokens ts

end SchemaMill.Sql
