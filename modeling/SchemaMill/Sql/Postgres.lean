import SchemaMill.Sql.Table

/-!
# From MySQL to PostgreSQL

What becomes of column types, column attributes and table-level elements of MySQL in PostgreSQL:
some have another name there, some have none.
-/

namespace SchemaMill.Sql.Postgres

/-- Column types that have another name in PostgreSQL. -/
def typeNames : List (Text × Text) :=
  [("TINYINT", "SMALLINT"), ("MEDIUMINT", "INTEGER"), ("INT", "INTEGER"), ("YEAR", "SMALLINT"),
    ("FLOAT", "REAL"), ("DOUBLE", "DOUBLE PRECISION"), ("DATETIME", "TIMESTAMP"),
    ("NVARCHAR", "VARCHAR"), ("TINYTEXT", "TEXT"), ("MEDIUMTEXT", "TEXT"), ("LONGTEXT", "TEXT"),
    ("ENUM", "TEXT"), ("SET", "TEXT"), ("BINARY", "BYTEA"), ("VARBINARY", "BYTEA"),
    ("TINYBLOB", "BYTEA"), ("BLOB", "BYTEA"), ("MEDIUMBLOB", "BYTEA"), ("LONGBLOB", "BYTEA")].map
    fun (source, target) => (source.toList, target.toList)

/-- Types that take neither a length nor a display width. -/
def bareTypes : List Text :=
  ["SMALLINT", "INTEGER", "BIGINT", "REAL", "DOUBLE PRECISION", "TEXT", "BYTEA"].map String.toList

/-- Column attributes that PostgreSQL does not have. -/
def droppedAttributes : List Text := ["UNSIGNED", "SIGNED", "ZEROFILL"].map String.toList

/-- What a column may be set to on an update. -/
def updateClocks : List Text := ["CURRENT_TIMESTAMP", "NOW", "LOCALTIMESTAMP"].map String.toList

/-- Table-level elements that PostgreSQL declares apart from the table. -/
def droppedElements : List Text := ["KEY", "INDEX", "FULLTEXT", "SPATIAL"].map String.toList

/-- The name of a column type in PostgreSQL. -/
def typeName (t : Text) : Text := (typeNames.lookup t).getD t

/-- The parts after the group in which `depth` parentheses are open. -/
def afterGroup (depth : Nat) : List Part → List Part
  | [] => []
  | p :: rest =>
    if p.isSign '(' then afterGroup (depth + 1) rest
    else if p.isSign ')' then
      if depth ≤ 1 then rest else afterGroup (depth - 1) rest
    else afterGroup depth rest

/-- The parts after the group in parentheses that they begin with, if they do. -/
def skipGroup : List Part → List Part
  | [] => []
  | p :: rest => if p.isSign '(' then afterGroup 1 rest else p :: rest

theorem afterGroup_suffix (depth : Nat) (ps : List Part) : afterGroup depth ps <:+ ps := by
  fun_induction afterGroup depth ps with
  | case1 => exact List.suffix_rfl
  | case2 depth p rest _ ih | case4 depth p rest _ _ _ ih | case5 depth p rest _ _ ih =>
    exact ih.trans (List.suffix_cons p rest)
  | case3 depth p rest => exact List.suffix_cons p rest

theorem skipGroup_suffix (ps : List Part) : skipGroup ps <:+ ps := by
  fun_cases skipGroup ps with
  | case1 => exact List.suffix_rfl
  | case2 p rest => exact (afterGroup_suffix 1 rest).trans (List.suffix_cons p rest)
  | case3 p rest => exact List.suffix_rfl

theorem length_skipGroup_le (ps : List Part) : (skipGroup ps).length ≤ ps.length :=
  (skipGroup_suffix ps).length_le

/-- What `AUTO_INCREMENT` becomes. -/
def identity (spaced : Bool) : Part :=
  .token ⟨.keyword, "GENERATED BY DEFAULT AS IDENTITY", spaced⟩

/-- Whether the parts begin with the setting of a clock on an update. -/
def startsUpdateClock : List Part → Bool
  | p :: u :: clock :: _ => p.isWord "ON" && u.isWord "UPDATE" && updateClocks.contains clock.word
  | _ => false

/-- The attributes of a column in PostgreSQL. -/
def columnOptions : List Part → List Part
  | [] => []
  | p :: rest =>
    if droppedAttributes.contains p.word then columnOptions rest
    else if p.isWord "AUTO_INCREMENT" then identity p.spaced :: columnOptions rest
    else if p.isWord "COMMENT" then columnOptions rest.tail
    else if startsUpdateClock (p :: rest) then columnOptions (skipGroup (rest.drop 2))
    else p :: columnOptions rest
termination_by ps => ps.length
decreasing_by
  · exact Nat.lt_succ_self _
  · exact Nat.lt_succ_self _
  · exact Nat.lt_succ_of_le (List.tail_sublist rest).length_le
  · exact Nat.lt_succ_of_le
      (Nat.le_trans (length_skipGroup_le _) (List.drop_sublist 2 rest).length_le)
  · exact Nat.lt_succ_self _

/-- The parts without a leading `KEY` or `INDEX`. -/
def dropIndexWord : List Part → List Part
  | [] => []
  | p :: rest => if p.isWord "KEY" || p.isWord "INDEX" then rest else p :: rest

/-- The parts without the name of an index before the opening parenthesis. -/
def dropIndexName : List Part → List Part
  | [] => []
  | p :: rest => if p.isSign '(' then p :: rest else rest

theorem dropIndexWord_suffix (ps : List Part) : dropIndexWord ps <:+ ps := by
  fun_cases dropIndexWord ps with
  | case1 => exact List.suffix_rfl
  | case2 p rest => exact List.suffix_cons p rest
  | case3 p rest => exact List.suffix_rfl

theorem dropIndexName_suffix (ps : List Part) : dropIndexName ps <:+ ps := by
  fun_cases dropIndexName ps with
  | case1 => exact List.suffix_rfl
  | case2 p rest => exact List.suffix_rfl
  | case3 p rest => exact List.suffix_cons p rest

/-- What follows `UNIQUE`, without the word for an index and its name. -/
def afterUnique (ps : List Part) : List Part := dropIndexName (dropIndexWord ps)

theorem afterUnique_suffix (ps : List Part) : afterUnique ps <:+ ps :=
  (dropIndexName_suffix _).trans (dropIndexWord_suffix ps)

theorem length_afterUnique_le (ps : List Part) : (afterUnique ps).length ≤ ps.length :=
  (afterUnique_suffix ps).length_le

/-- Whether the parts begin with the choice of an index type. -/
def startsIndexType : List Part → Bool
  | p :: q :: _ => p.isWord "USING" && (q.isWord "BTREE" || q.isWord "HASH")
  | _ => false

/-- The parts of a table-level element in PostgreSQL: no index types, and unique keys without the
name of the index. -/
def constraintParts : List Part → List Part
  | [] => []
  | p :: rest =>
    if startsIndexType (p :: rest) then constraintParts rest.tail
    else if p.isWord "UNIQUE" then p :: constraintParts (afterUnique rest)
    else p :: constraintParts rest
termination_by ps => ps.length
decreasing_by
  · exact Nat.lt_succ_of_le (List.tail_sublist rest).length_le
  · exact Nat.lt_succ_of_le (length_afterUnique_le rest)
  · exact Nat.lt_succ_self _

/-- A table-level element in PostgreSQL, if it has a place there. -/
def constraint? (c : Constraint) : Option Constraint :=
  if droppedElements.contains c.kind then none else some ⟨constraintParts c.parts⟩

end SchemaMill.Sql.Postgres
